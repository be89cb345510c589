import PhraseMark.Json.Reader
import PhraseMark.Page.Basic

/-!
# Reading snapshots

A snapshot is the tree of nodes a browser hands out, as nested JSON objects under the member
`root`. Nodes are numbered in document order while they are read. A snapshot that fails midway
leaves the nodes read so far without a root.
-/

namespace PhraseMark

namespace Snapshot

/-- How deep a snapshot may be nested unless stated otherwise. -/
def defaultMaxDepth : Nat := 512

def textOf (j : Json) (name : String) : String := ((j.get? name).bind Json.str?).getD ""

/-- The pairs of a flat list of names and values. A pair of which one is no string is left out,
and so is a last name without a value. -/
def pairs : List Json → List (String × String)
  | .string name :: .string value :: rest => (name, value) :: pairs rest
  | _ :: _ :: rest => pairs rest
  | _ => []

/-- The attributes of a node; of two with one name the later wins. -/
def attributesOf (j : Json) : Attributes :=
  match (j.get? "attributes").bind Json.items? with
  | some items => .ofList (pairs items)
  | none => .empty

def kindOf (j : Json) : Except Fault NodeKind :=
  match (j.get? "nodeType").bind Json.nat? with
  | none => .error (.malformedSnapshot .missingKind)
  | some code =>
    match NodeKind.ofCode? code with
    | none => .error (.invalidKind code)
    | some kind => .ok kind

/-- A node without its children. The browser number is kept modulo `2 ^ 32`. -/
def nodeOf (parent : Option NodeId) (j : Json) : Except Fault Node :=
  match (j.get? "backendNodeId").bind Json.nat? with
  | none => .error (.malformedSnapshot .missingBackendId)
  | some backendId =>
    match kindOf j with
    | .error e => .error e
    | .ok kind =>
      let name := textOf j "nodeName"
      .ok
        { kind, parent
          backendId := some (.ofNat backendId)
          name := if kind = .element then Text.asciiUpper name else name
          value := textOf j "nodeValue"
          attributes := attributesOf j }

/-- The children of a node; anything but an array holds none. -/
def childrenOf (j : Json) : List Json := ((j.get? "children").bind Json.items?).getD []

/-- Reads one item after the other; the page comes back as far as this went. -/
def readAll (read : Page → Json → Page × Except Fault NodeId) :
    List Json → Page → Page × Except Fault (List NodeId)
  | [], p => (p, .ok [])
  | j :: rest, p =>
    match read p j with
    | (p, .error e) => (p, .error e)
    | (p, .ok id) =>
      match readAll read rest p with
      | (p, .error e) => (p, .error e)
      | (p, .ok ids) => (p, .ok (id :: ids))

/-- Reads a node with everything under it, going at most `levels` levels deep. -/
def readTree (maxDepth : Nat) : Nat → Option NodeId → Page → Json → Page × Except Fault NodeId
  | 0, _, p, _ => (p, .error (.tooDeep (maxDepth + 1) maxDepth))
  | levels + 1, parent, p, j =>
    match nodeOf parent j with
    | .error e => (p, .error e)
    | .ok n =>
      let (id, p) := p.add n
      match readAll (readTree maxDepth levels (some id)) (childrenOf j) p with
      | (p, .error e) => (p, .error e)
      | (p, .ok ids) => (p.modify id (fun m => { m with children := ids }), .ok id)

end Snapshot

namespace Page

/-- Reads a snapshot in place of what the page held. Without a root in the snapshot the page stays
as it was. -/
def load (p : Page) (maxDepth : Nat) (snapshot : Json) : Page × Except Fault NodeId :=
  match snapshot.get? "root" with
  | none => (p, .error (.malformedSnapshot .missingRoot))
  | some root =>
    match Snapshot.readTree maxDepth (maxDepth + 1) none empty root with
    | (q, .error e) => (q, .error e)
    | (q, .ok id) => ({ q with root := some id }, .ok id)

def loadText (p : Page) (maxDepth : Nat) (text : String) : Page × Except Fault NodeId :=
  match Json.parse? text with
  | none => (p, .error .notJson)
  | some snapshot => p.load maxDepth snapshot

end Page

end PhraseMark
