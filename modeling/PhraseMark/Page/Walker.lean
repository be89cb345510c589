import PhraseMark.Page.Links

/-!
# Walking the text of a page

A walker holds a root and a current node and reads the page anew at every step, so it sees what
was changed between two steps. It moves to the next text node in document order and leaves out
the subtrees of rejected elements. After an edit at the current node it is to be set on a node
that is still in the tree.
-/

namespace PhraseMark

/-- A cursor over the text nodes under `root`. -/
structure Walker where
  root : NodeId
  current : NodeId
  /-- Elements whose whole subtree is left out. -/
  rejects : Node → Bool

namespace Walker

def start (root : NodeId) (rejects : Node → Bool) : Walker := { root, current := root, rejects }

/-- The walk goes on after `id`. -/
def moveTo (w : Walker) (id : NodeId) : Walker := { w with current := id }

/-- The first node after the subtree of `id` in document order, inside the subtree of `root`. -/
def after (p : Page) (root : NodeId) : Nat → NodeId → Except Fault (Option NodeId)
  | 0, _ => .ok none
  | steps + 1, id =>
    if id = root then .ok none
    else
      match p.nextSibling id with
      | .error e => .error e
      | .ok (some sibling) => .ok (some sibling)
      | .ok none =>
        match p.get id with
        | .error e => .error e
        | .ok n =>
          match n.parent with
          | none => .ok none
          | some parent => after p root steps parent

/-- The first child of `id` if the walk goes down, else the first node after its subtree. -/
def following (p : Page) (root id : NodeId) (down : Bool) : Except Fault (Option NodeId) :=
  if down then
    match p.firstChild id with
    | .error e => .error e
    | .ok (some child) => .ok (some child)
    | .ok none => after p root (p.size + 1) id
  else after p root (p.size + 1) id

/-- Whether the walk goes below a node. The root is never left out. -/
def goesBelow (w : Walker) (id : NodeId) (n : Node) : Bool :=
  id == w.root || !(n.isElement && w.rejects n)

/-- Goes on from `id` to the next text node in at most `steps` steps. Where the walk stands comes
back also when it ends or fails. -/
def seek (w : Walker) (p : Page) : Nat → NodeId → NodeId × Except Fault (Option NodeId)
  | 0, id => (id, .ok none)
  | steps + 1, id =>
    match p.get id with
    | .error e => (id, .error e)
    | .ok n =>
      match following p w.root id (w.goesBelow id n) with
      | .error e => (id, .error e)
      | .ok none => (id, .ok none)
      | .ok (some next) =>
        match p.get next with
        | .error e => (next, .error e)
        | .ok m => if m.isText then (next, .ok (some next)) else seek w p steps next

/-- Moves to the next text node, or answers none at the end. A walk over more nodes than there
are goes in a circle without text. -/
def next (w : Walker) (p : Page) : Walker × Except Fault (Option NodeId) :=
  let (current, answer) := w.seek p (p.size + 1) w.current
  (w.moveTo current, answer)

def take (w : Walker) (p : Page) : Nat → Except Fault (List NodeId)
  | 0 => .ok []
  | limit + 1 =>
    match w.next p with
    | (_, .error e) => .error e
    | (_, .ok none) => .ok []
    | (w, .ok (some id)) => (take w p limit).map (id :: ·)

@[simp] theorem root_moveTo (w : Walker) (id : NodeId) : (w.moveTo id).root = w.root := rfl

@[simp] theorem current_moveTo (w : Walker) (id : NodeId) : (w.moveTo id).current = id := rfl

end Walker

end PhraseMark
