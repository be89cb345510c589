import PhraseMark.Json.Reader
import PhraseMark.Scan.Error

/-!
# Sources of keywords

A source names itself and answers once with a list of keywords or an error. A payload is a JSON
object with an array of strings under `keywords`.
-/

namespace PhraseMark

/-- A place keywords come from. -/
structure Source where
  description : String
  keywords : Except ScanError (List String)

def keywordsField : String := "keywords"

/-- Reads items that have to be strings; `index` is the index of the first. -/
def stringsFrom (index : Nat) : List Json → Except PayloadDefect (List String)
  | [] => .ok []
  | .string s :: rest => (stringsFrom (index + 1) rest).map (s :: ·)
  | _ :: _ => .error (.notText index)

/-- The keywords in a payload, in order and with repetitions. -/
def keywordsOfJson (payload : Json) : Except PayloadDefect (List String) :=
  match payload.get? keywordsField with
  | none => .error .noKeywords
  | some (.array items) => stringsFrom 0 items
  | some _ => .error .keywordsNotArray

def keywordsOfText (text : String) : Except PayloadDefect (List String) :=
  match Json.parse? text with
  | some payload => keywordsOfJson payload
  | none => .error .notJson

/-- The keywords in a payload that was read from a resource. Bytes that are not text are no
payload. -/
def readKeywords (resource : String) (bytes : ByteArray) : Except ScanError (List String) :=
  match String.fromUTF8? bytes with
  | some text => (keywordsOfText text).mapError (.malformedSource resource)
  | none => .error (.malformedSource resource .notJson)

def keywordsToJson (keywords : List String) : Json := .array (keywords.map .string)

def keywordsOfJsonText? (text : String) : Option (List String) :=
  (Json.parse? text).bind (Json.listOf? Json.str?)

namespace Source

def ofList (keywords : List String) : Source :=
  { description := "static list (" ++ Nat.repr keywords.length ++ " keywords)"
    keywords := .ok keywords }

def ofPayload (resource payload : String) : Source :=
  { description := resource
    keywords := readKeywords resource payload.toUTF8 }

end Source

end PhraseMark
