import PhraseMark.Url.Percent

/-!
# Paths of addresses

A path is a list of segments. Segments are added one by one; a segment of one dot adds nothing
and one of two dots takes the last segment away. Windows drive letters are never taken away, and
in file addresses they stand alone at the beginning.
-/

namespace PhraseMark.Url

/-- How paths of a scheme are read. -/
inductive PathStyle where
  | plain
  /-- Backslashes separate segments too. -/
  | special
  /-- As `special`, with drive letters. -/
  | file
  deriving DecidableEq, Repr

namespace PathStyle

def separates (style : PathStyle) (c : Char) : Bool := c == '/' || (style != .plain && c == '\\')

end PathStyle

/-- One dot, or its percent encoding. -/
def isDot (piece : List Char) : Bool :=
  piece == ['.'] || piece == ['%', '2', 'e'] || piece == ['%', '2', 'E']

/-- Two dots, each of which may be percent encoded. -/
def isTwoDots (piece : List Char) : Bool :=
  (List.range 4).any (fun n => isDot (piece.take n) && isDot (piece.drop n))

/-- A letter and a colon or bar. -/
def isDriveLetter : List Char → Bool
  | [letter, mark] => letter.isAlpha && (mark == ':' || mark == '|')
  | _ => false

/-- The path without its last segment, unless that is a drive letter. -/
def shorten (segments : List String) : List String :=
  if segments.getLast?.any (fun s => isDriveLetter s.toList) then segments else segments.dropLast

def addPiece (style : PathStyle) (segments : List String) (piece : List Char) (isLast : Bool) :
    List String :=
  if isTwoDots piece then shorten segments ++ (if isLast then [""] else [])
  else if isDot piece then segments ++ (if isLast then [""] else [])
  else
    let written := percentEncode EncodeSet.path piece
    if style == .file then
      match written with
      | [letter, '|'] => segments ++ [.ofList (if letter.isAlpha then [letter, ':'] else written)]
      | letter :: ':' :: c :: rest =>
        if segments.isEmpty && letter.isAlpha then
          [.ofList [letter, ':'], .ofList (c :: rest)]
        else segments ++ [.ofList written]
      | _ => segments ++ [.ofList written]
    else segments ++ [.ofList written]

def addPieces (style : PathStyle) (segments : List String) : List (List Char) → List String
  | [] => segments
  | [piece] => addPiece style segments piece true
  | piece :: next :: rest =>
    addPieces style (addPiece style segments piece false) (next :: rest)

def addPath (style : PathStyle) (segments : List String) (cs : List Char) : List String :=
  addPieces style segments (cs.splitOnP style.separates)

/-- Leaves out empty segments at the beginning, but not the last one of all. -/
def trimSegments : List String → List String
  | "" :: s :: rest => trimSegments (s :: rest)
  | segments => segments

def segmentsText (segments : List String) : String := String.join (segments.map ("/" ++ ·))

end PhraseMark.Url
