import PhraseMark.Page.Style
import PhraseMark.Page.Tour

/-!
# Visible text

The text a reader of the page sees: unrendered and hidden elements are left out, runs of blanks
become one space except under `PRE`, and block elements stand on lines of their own.
-/

namespace PhraseMark

/-- Text being put together: what is written, last character first, and the number of `PRE`
elements around the place that is being written. -/
structure Draft where
  written : List Char := []
  preDepth : Nat := 0

namespace Draft

/-- Writes one character; a blank becomes a space, or nothing at the beginning and after a space
or a line end. -/
def pushChar (written : List Char) (c : Char) : List Char :=
  if Text.isBlank c then
    match written with
    | [] => []
    | d :: _ => if d = ' ' ∨ d = '\n' then written else ' ' :: written
  else c :: written

/-- Writes characters, as they are under `PRE`. -/
def pushText (d : Draft) (text : String) : Draft :=
  if 0 < d.preDepth then { d with written := text.toList.reverse ++ d.written }
  else { d with written := text.toList.foldl pushChar d.written }

/-- Ends the line, dropping spaces at its end; there is no empty first line and no empty line. -/
def breakLine (d : Draft) : Draft :=
  match d.written.dropWhile (· == ' ') with
  | [] => { d with written := [] }
  | c :: cs => { d with written := if c = '\n' then c :: cs else '\n' :: c :: cs }

def openElement (d : Draft) (n : Node) : Draft :=
  let d := if n.hasTag "PRE" then { d with preDepth := d.preDepth + 1 } else d
  if n.isBlock then d.breakLine else d

def closeElement (d : Draft) (n : Node) : Draft :=
  let d := if n.hasTag "PRE" then { d with preDepth := d.preDepth - 1 } else d
  if n.isBlock then d.breakLine else d

/-- The text as it reads, without blanks at its ends. -/
def text (d : Draft) : String :=
  .ofList (Text.trimList Text.isBlank d.written.reverse)

end Draft

namespace Page

/-- What the visible text of `root` takes from a node. -/
def visibleTurn (root id : NodeId) (n : Node) (d : Draft) : Turn Draft :=
  match n.kind with
  | .text | .cdataSection => .pass (d.pushText n.value)
  | .element =>
    if id != root && (n.isUnrendered || n.isHidden) then .pass d
    else .enter (d.openElement n) (·.closeElement n)
  | .document | .documentFragment => .enter d (fun d => d)
  | _ => .pass d

/-- The visible text of a node. The node itself is never left out. -/
def visibleText (p : Page) (root : NodeId) : Except Fault String :=
  match p.tour (fun id n d => .ok (visibleTurn root id n d)) root {} with
  | .error e => .error e
  | .ok d => .ok d.text

/-- The characters of all text and CDATA nodes at or under a node, hidden ones included. -/
def textContent (p : Page) (id : NodeId) : Except Fault String :=
  p.traverse id (fun n text => .ok (if n.kind.isCharacterData then text ++ n.value else text)) ""

/-- The first BODY element in document order that is reachable from the root. -/
def body? (p : Page) : Option NodeId :=
  match p.root with
  | none => none
  | some root =>
    match p.findDescendant root (·.hasTag "BODY") with
    | .ok found => found
    | .error _ => none

end Page

end PhraseMark
