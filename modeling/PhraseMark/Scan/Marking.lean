import PhraseMark.Page.Walker
import PhraseMark.Pattern.Search
import PhraseMark.Scan.Log
import PhraseMark.Text.Cap

/-!
# Marking hits

A pass walks the rendered text under a node and puts every text node with a hit in pieces: what
stands before the hit, a marker span that holds the hit, and what stands after it. The walk goes
on after the last piece. Marker spans and unrendered elements are left out, so that no marker
stands inside another.
-/

namespace PhraseMark

/-- Finds the places of hits in a text. -/
abbrev Matcher := String → List Pattern.Span

/-- A marker span in the page. -/
structure Highlight where
  span : NodeId
  /-- The text of the hit as it stands in the page. -/
  text : String
  deriving DecidableEq, Repr

/-- How hits are marked. -/
structure MarkStyle where
  markerClass : String
  /-- Mark every hit in a text node, not only the first. -/
  all : Bool
  deriving DecidableEq, Repr

namespace Page

def addMarker (p : Page) (markerClass text : String) : NodeId × Page :=
  let span := { Node.ofTag "span" with children := [p.size + 1] }
  let (id, p) := p.add (span.setAttr "class" markerClass)
  let (_, p) := p.add { Node.ofText text with parent := some id }
  (id, p)

end Page

namespace Marking

/-- The hits of a text node that are marked: those that are not empty, or the first of them. -/
def chosen (style : MarkStyle) (matcher : Matcher) (text : String) : List Pattern.Span :=
  let found := (matcher text).filter (! ·.isEmpty)
  if style.all then found else found.take 1

/-- The pieces of a text node that were added to a page. -/
structure Pieces where
  page : Page
  ids : List NodeId
  highlights : List Highlight

/-- Adds the pieces of a text from `cursor` on: the texts between hits and the markers of hits. -/
def addPieces (style : MarkStyle) (text : List Char) (p : Page) (cursor : Nat) :
    List Pattern.Span → Pieces
  | [] =>
    if cursor < text.length then
      let (id, p) := p.addText (.ofList (text.drop cursor))
      { page := p, ids := [id], highlights := [] }
    else { page := p, ids := [], highlights := [] }
  | s :: rest =>
    let (before, p) :=
      if cursor < s.start then
        let (id, p) := p.addText (.ofList (Pattern.Span.slice ⟨cursor, s.start⟩ text))
        ([id], p)
      else ([], p)
    let hit := String.ofList (s.slice text)
    let (id, p) := p.addMarker style.markerClass hit
    let pieces := addPieces style text p s.stop rest
    { pieces with
      ids := before ++ id :: pieces.ids
      highlights := { span := id, text := hit } :: pieces.highlights }

/-- How a pass ended. -/
inductive Ending where
  | finished
  | failed (fault : Fault)
  /-- The steps granted did not suffice. -/
  | unfinished
  deriving DecidableEq, Repr

/-- What a pass did. -/
structure Pass where
  page : Page
  ending : Ending
  highlights : List Highlight := []
  /-- The number of text nodes the walk came to. -/
  visited : Nat := 0
  events : List LogEvent := []

/-- Elements a pass does not enter. -/
def avoids (style : MarkStyle) (n : Node) : Bool :=
  n.isUnrendered || n.hasClass style.markerClass

def event (hits : Nat) (text : String) : LogEvent :=
  .debug ("[Highlighter] Marked " ++ Nat.repr hits ++ " match(es) in \"" ++ Text.cap text 60 ++
    "\"")

/-- Goes on with a pass for at most `steps` text nodes. -/
def run (style : MarkStyle) (matcher : Matcher) : Nat → Walker → Page → Pass
  | 0, _, p => { page := p, ending := .unfinished }
  | steps + 1, w, p =>
    match w.next p with
    | (_, .error e) => { page := p, ending := .failed e }
    | (_, .ok none) => { page := p, ending := .finished }
    | (w, .ok (some id)) =>
      match p.get id with
      | .error e => { page := p, ending := .failed e, visited := 1 }
      | .ok n =>
        match chosen style matcher n.value with
        | [] =>
          let rest := run style matcher steps w p
          { rest with visited := rest.visited + 1 }
        | hits =>
          let pieces := addPieces style n.value.toList p 0 hits
          match pieces.page.replace id pieces.ids with
          | (q, .error e) => { page := q, ending := .failed e, visited := 1 }
          | (q, .ok ()) =>
            let w := match pieces.ids.getLast? with
              | some last => w.moveTo last
              | none => w
            let rest := run style matcher steps w q
            { rest with
              highlights := pieces.highlights ++ rest.highlights
              visited := rest.visited + 1
              events := event hits.length n.value :: rest.events }

/-- More text nodes than a pass that ends can come to. -/
def stepLimit (p : Page) : Nat :=
  (p.size + 1) *
    (p.nodes.toList.foldr (fun n total => n.children.length + n.value.length + 1 + total) 0 + 1)

end Marking

/-- Marks the hits in the rendered text under `root`. -/
def Page.mark (p : Page) (root : NodeId) (style : MarkStyle) (matcher : Matcher) : Marking.Pass :=
  Marking.run style matcher (Marking.stepLimit p) (.start root (Marking.avoids style)) p

end PhraseMark
