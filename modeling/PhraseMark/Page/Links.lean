import PhraseMark.Page.Basic

/-!
# Links between nodes

Reading and rewriting the tree of a page. A link is stored twice, in the child list of the
parent and in the parent field of the child, and every edit changes both.
-/

namespace PhraseMark.Page

def firstChild (p : Page) (id : NodeId) : Except Fault (Option NodeId) :=
  match p.get id with
  | .error e => .error e
  | .ok n => .ok n.children.head?

/-- The next node in the child list of the parent. A node whose parent does not list it is
detached; one without a parent has no sibling. -/
def nextSibling (p : Page) (id : NodeId) : Except Fault (Option NodeId) :=
  match p.get id with
  | .error e => .error e
  | .ok n =>
    match n.parent with
    | none => .ok none
    | some parent =>
      match p.get parent with
      | .error e => .error e
      | .ok m =>
        match m.children.idxOf? id with
        | none => .error (.detached id)
        | some i => .ok m.children[i + 1]?

/-- Looks for `ancestor` among `id` and the nodes above it, following at most `steps` links. -/
def climb (p : Page) (ancestor : NodeId) : Nat → NodeId → Except Fault Bool
  | 0, _ => .ok false
  | steps + 1, id =>
    if id = ancestor then .ok true
    else
      match p.get id with
      | .error e => .error e
      | .ok n =>
        match n.parent with
        | none => .ok false
        | some parent => climb p ancestor steps parent

/-- Whether `ancestor` is `id` or above it. A chain of more links than there are nodes runs in a
circle and has met all its nodes. -/
def isInclusiveAncestor (p : Page) (ancestor id : NodeId) : Except Fault Bool :=
  p.climb ancestor (p.size + 1) id

/-! ## Edits

An edit gives the page back also when it fails, with what it has written by then. -/

/-- Changes the node at a place that has to exist. -/
def editInPlace (p : Page) (id : NodeId) (f : Node → Node) : Page × Except Fault Unit :=
  match p.edit id f with
  | .ok q => (q, .ok ())
  | .error e => (p, .error e)

/-- Makes one edit and then another, unless the first fails. -/
def inTurn (first next : Page → Page × Except Fault Unit) (p : Page) :
    Page × Except Fault Unit :=
  match first p with
  | (q, .error e) => (q, .error e)
  | (q, .ok ()) => next q

/-- Takes a node out of the child list of its parent. -/
def detachInPlace (p : Page) (id : NodeId) : Page × Except Fault Unit :=
  match p.get id with
  | .error e => (p, .error e)
  | .ok n =>
    match n.parent with
    | none => (p, .ok ())
    | some parent =>
      p.inTurn (·.editInPlace parent (fun m => { m with children := m.children.filter (· ≠ id) }))
        (·.editInPlace id (fun m => { m with parent := none }))

/-- Makes `child` the last child of `parent`, taking it out of its old place first. -/
def appendInPlace (p : Page) (parent child : NodeId) : Page × Except Fault Unit :=
  match p.isInclusiveAncestor child parent with
  | .error e => (p, .error e)
  | .ok true => (p, .error (.hierarchyRequest child))
  | .ok false =>
    p.inTurn (·.detachInPlace child)
      (inTurn (·.editInPlace parent (fun m => { m with children := m.children ++ [child] }))
        (·.editInPlace child (fun m => { m with parent := some parent })))

/-- Takes the replacements of `id` out of their places, one after the other. The page comes back
as far as this went. -/
def clearWay (p : Page) (id parent : NodeId) : List NodeId → Page × Except Fault Unit
  | [] => (p, .ok ())
  | r :: rs =>
    match p.isInclusiveAncestor r parent with
    | .error e => (p, .error e)
    | .ok above =>
      if above || r == id then (p, .error (.hierarchyRequest r))
      else
        match p.detachInPlace r with
        | (q, .error e) => (q, .error e)
        | (q, .ok ()) => clearWay q id parent rs

/-- Puts `rs` in the place of the entry at `i`. -/
def splice (children : List NodeId) (i : Nat) (rs : List NodeId) : List NodeId :=
  children.take i ++ rs ++ children.drop (i + 1)

/-- Puts the replacements, in order, in the place of `id`, which becomes detached. The page comes
back also when this fails, since replacements may have been taken out of their places before. -/
def replace (p : Page) (id : NodeId) (replacements : List NodeId) : Page × Except Fault Unit :=
  match p.get id with
  | .error e => (p, .error e)
  | .ok n =>
    match n.parent with
    | none => (p, .error (.detached id))
    | some parent =>
      match p.clearWay id parent replacements with
      | (q, .error e) => (q, .error e)
      | (q, .ok ()) =>
        match q.get parent with
        | .error e => (q, .error e)
        | .ok m =>
          match m.children.idxOf? id with
          | none => (q, .error (.detached id))
          | some i =>
            let q := q.modify parent (fun m =>
              { m with children := splice m.children i replacements })
            let q := replacements.foldl (fun q r =>
              q.modify r (fun m => { m with parent := some parent })) q
            (q.modify id (fun m => { m with parent := none }), .ok ())

end PhraseMark.Page
