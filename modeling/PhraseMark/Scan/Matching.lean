import PhraseMark.Scan.Compile

/-!
# Keywords that occur in a text

Tests every keyword against a text. One that cannot be compiled is set aside, and the others are
still tested.
-/

namespace PhraseMark

/-- A keyword that occurs, with its pattern. -/
structure KeywordMatch where
  keyword : String
  pattern : Pattern.Regex

/-- A keyword that could not be compiled. -/
structure RejectedKeyword where
  keyword : String
  error : ScanError
  deriving DecidableEq, Repr

/-- What testing keywords gave, in the order of the keywords. -/
structure Matching where
  found : List KeywordMatch := []
  rejected : List RejectedKeyword := []
  events : List LogEvent := []

namespace Matching

def keywords (m : Matching) : List String := m.found.map (·.keyword)

def isEmpty (m : Matching) : Bool := m.found.isEmpty

def append (m n : Matching) : Matching :=
  { found := m.found ++ n.found
    rejected := m.rejected ++ n.rejected
    events := m.events ++ n.events }

def ofKeyword (config : ScanConfig) (text : String) (keyword : String) : Matching :=
  match compileKeyword config keyword with
  | (events, .error e) =>
    { rejected := [{ keyword, error := e }]
      events := events ++
        [.warn ("[Scanner] Skipping keyword '" ++ keyword ++ "': " ++ e.message)] }
  | (events, .ok pattern) =>
    if pattern.isMatch text then
      { found := [{ keyword, pattern }]
        events := events ++
          [.debug ("[Scanner] Keyword '" ++ keyword ++ "' found in page text")] }
    else { events }

end Matching

def scanText (config : ScanConfig) (text : String) : List String → Matching
  | [] => {}
  | k :: ks => (Matching.ofKeyword config text k).append (scanText config text ks)

end PhraseMark
