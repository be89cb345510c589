import PhraseMark.Page.Basic
import PhraseMark.Text.Case

/-!
# Locators

The path of an element: for every element on the way from the top its name and its place among
the elements of that name under the same parent, counted from one.
-/

namespace PhraseMark

/-- One step of a locator. -/
structure LocatorStep where
  name : String
  position : Nat
  deriving DecidableEq, Repr

namespace LocatorStep

def text (s : LocatorStep) : String := s.name ++ "[" ++ Nat.repr s.position ++ "]"

end LocatorStep

namespace Page

/-- The elements among the children of a node that have the given name. -/
def namesakes (p : Page) (parent : Node) (name : String) : List Node :=
  (parent.children.filterMap (fun id => p.nodes[id]?)).filter
    (fun n => n.isElement && n.name == name)

/-- The place of an element among its namesakes; one that its parent does not list, or that has
no parent, counts as the first. -/
def positionOf (p : Page) (n : Node) : Except Fault Nat :=
  match n.parent with
  | none => .ok 1
  | some parent =>
    match p.get parent with
    | .error e => .error e
    | .ok m => .ok (((p.namesakes m n.name).findIdx? (·.id == n.id)).getD 0 + 1)

/-- The steps to a node, the last first, following at most `links` parent links. -/
def stepsUp (p : Page) : Nat → NodeId → Except Fault (List LocatorStep)
  | 0, _ => .ok []
  | links + 1, id =>
    match p.get id with
    | .error e => .error e
    | .ok n =>
      let own : Except Fault (List LocatorStep) :=
        if n.isElement then
          (p.positionOf n).map (fun i => [{ name := Text.lowercase n.name, position := i }])
        else .ok []
      match own with
      | .error e => .error e
      | .ok own =>
        match n.parent with
        | none => .ok own
        | some parent => (stepsUp p links parent).map (own ++ ·)

def locatorSteps (p : Page) (id : NodeId) : Except Fault (List LocatorStep) :=
  (p.stepsUp (p.size + 1) id).map List.reverse

def locator (p : Page) (id : NodeId) : Except Fault String :=
  (p.locatorSteps id).map (fun steps => "/" ++ String.intercalate "/" (steps.map (·.text)))

end Page

end PhraseMark
