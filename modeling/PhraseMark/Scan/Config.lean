import PhraseMark.Json.Reader
import PhraseMark.Json.Record

/-!
# Configuration of a scan

How keywords become patterns, how long they may be, and how hits are marked. A configuration is
read from JSON; what is not given has its default.
-/

namespace PhraseMark

/-- The class of marker spans unless stated otherwise. -/
def defaultMarkerClass : String := "dark-pattern-highlight"

def markerStyle (markerClass : String) : String :=
  "." ++ markerClass ++ " \x7b\n  background-color: #ffeb3b;\n  color: #000;\n" ++
    "  border-bottom: 2px solid #f44336;\n\x7d\n"

/-- How a keyword is read. -/
inductive PatternMode where
  /-- Every character stands for itself. -/
  | literal
  /-- The keyword is a pattern. -/
  | regex
  deriving DecidableEq, Repr

namespace PatternMode

def name : PatternMode → String
  | literal => "literal"
  | regex => "regex"

def ofName? (s : String) : Option PatternMode :=
  if s == "literal" then some literal else if s == "regex" then some regex else none

end PatternMode

/-- Configuration of a scan. -/
structure ScanConfig where
  markerClass : String := defaultMarkerClass
  patternMode : PatternMode := .literal
  /-- Mark every hit in a text node, not only the first. -/
  markAll : Bool := false
  /-- The greatest length of a keyword, in bytes. -/
  maxPatternLength : Nat := 500
  deriving DecidableEq, Repr, Inhabited

namespace ScanConfig

def fieldNames : List String :=
  ["marker_class", "pattern_mode", "highlight_all_occurrences", "max_pattern_length"]

def shape : Json.Shape := .record (fieldNames.map (·, .whole))

def ofFields? : List (Option Json) → Option ScanConfig
  | [markerClass, patternMode, markAll, maxPatternLength] => do
    let default : ScanConfig := {}
    return {
      markerClass := ← Json.withDefault? Json.str? default.markerClass markerClass
      patternMode := ← Json.withDefault? (Json.choice? PatternMode.ofName?) default.patternMode
        patternMode
      markAll := ← Json.withDefault? Json.bool? default.markAll markAll
      maxPatternLength := ← Json.withDefault? (Json.below? (Nat.pow 2 64))
        default.maxPatternLength maxPatternLength }
  | _ => none

def ofJson? (j : Json) : Option ScanConfig := (j.fields? fieldNames).bind ofFields?

def ofText? (text : String) : Option ScanConfig := (Json.ofText? shape text).bind ofJson?

def toJson (c : ScanConfig) : Json :=
  .object
    [("marker_class", .string c.markerClass),
      ("pattern_mode", .string c.patternMode.name),
      ("highlight_all_occurrences", .bool c.markAll),
      ("max_pattern_length", .natural c.maxPatternLength)]

end ScanConfig

end PhraseMark
