import PhraseMark.Page.Style
import PhraseMark.Page.Tour

/-!
# Resolved visibility

An element is visible when it and every element above it pass the style check; other nodes take
the visibility of their parent. The result is written into the nodes under the root.
-/

namespace PhraseMark

/-- A page whose visibility is being resolved, and whether the place reached is visible. -/
structure Resolving where
  page : Page
  visible : Bool

namespace Page

def resolveTurn (id : NodeId) (n : Node) (s : Resolving) : Turn Resolving :=
  let visible := s.visible && n.isShownByStyle
  .enter
    { page := s.page.modify id (fun m => { m with visible := some visible }), visible }
    (fun t => { t with visible := s.visible })

/-- Resolves the visibility of every node under the root. Without a root nothing happens. -/
def resolveVisibility (p : Page) : Except Fault Page :=
  match p.root with
  | none => .ok p
  | some root =>
    match p.tour (fun id n s => .ok (resolveTurn id n s)) root { page := p, visible := true } with
    | .error e => .error e
    | .ok s => .ok s.page

end Page

end PhraseMark
