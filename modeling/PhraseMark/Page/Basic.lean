import PhraseMark.Page.Node

/-!
# Pages

A page is a table of nodes linked by their places in it, an index of the numbers the browser
gave, and a root. Nodes are never removed: one that is taken out of the tree stays readable
under its old place.
-/

namespace PhraseMark

/-- A captured page. The newest binding of a browser number stands first in `backendIndex`. -/
structure Page where
  nodes : Array Node := #[]
  backendIndex : List (BackendId × NodeId) := []
  root : Option NodeId := none
  deriving DecidableEq, Inhabited

namespace Page

def empty : Page := {}

/-- The number of nodes, detached ones included. -/
def size (p : Page) : Nat := p.nodes.size

def isEmpty (p : Page) : Bool := p.nodes.isEmpty

def get (p : Page) (id : NodeId) : Except Fault Node :=
  match p.nodes[id]? with
  | some n => .ok n
  | none => .error (.nodeNotFound id)

/-- Changes the node at a place; where there is none nothing happens. -/
def modify (p : Page) (id : NodeId) (f : Node → Node) : Page :=
  { p with nodes := p.nodes.modify id f }

/-- Changes the node at a place that has to exist. -/
def edit (p : Page) (id : NodeId) (f : Node → Node) : Except Fault Page :=
  match p.get id with
  | .error e => .error e
  | .ok _ => .ok (p.modify id f)

/-- Stores a node under the next free place, which becomes its id. Its links are kept as given. -/
def add (p : Page) (n : Node) : NodeId × Page :=
  (p.size,
    { p with
      nodes := p.nodes.push { n with id := p.size }
      backendIndex := match n.backendId with
        | some b => (b, p.size) :: p.backendIndex
        | none => p.backendIndex })

def addElement (p : Page) (tag : String) : NodeId × Page := p.add (.ofTag tag)

def addText (p : Page) (value : String) : NodeId × Page := p.add (.ofText value)

/-- The node that was last added under a browser number. -/
def ofBackend? (p : Page) (b : BackendId) : Option NodeId := p.backendIndex.lookup b

def setRoot (p : Page) (id : NodeId) : Except Fault Page :=
  match p.get id with
  | .error e => .error e
  | .ok _ => .ok { p with root := some id }

/-- The places of all nodes, detached ones included, that satisfy a test. -/
def findAll (p : Page) (test : Node → Bool) : List NodeId :=
  (p.nodes.toList.zipIdx.filter (fun n => test n.1)).map (·.2)

/-! ## Views of the operations -/

theorem get_eq_ok_iff {p : Page} {id : NodeId} {n : Node} :
    p.get id = .ok n ↔ p.nodes[id]? = some n := by
  unfold get
  split <;> simp_all

theorem get_eq_error_iff {p : Page} {id : NodeId} {e : Fault} :
    p.get id = .error e ↔ p.size ≤ id ∧ e = .nodeNotFound id := by
  unfold get
  split
  · rename_i n h
    have hlt := (Array.getElem?_eq_some_iff.1 h).1
    simp only [reduceCtorEq, false_iff, not_and]
    intro hle
    exact absurd hlt (Nat.not_lt.2 hle)
  · rename_i h
    have hle := Array.getElem?_eq_none_iff.1 h
    simp only [Except.error.injEq]
    exact ⟨fun he => ⟨hle, he.symm⟩, fun he => he.2.symm⟩

theorem lt_size_of_get {p : Page} {id : NodeId} {n : Node} (h : p.get id = .ok n) :
    id < p.size :=
  (Array.getElem?_eq_some_iff.1 (get_eq_ok_iff.1 h)).1

@[simp] theorem size_modify (p : Page) (id : NodeId) (f : Node → Node) :
    (p.modify id f).size = p.size := by
  simp [modify, size]

theorem get_modify (p : Page) (id other : NodeId) (f : Node → Node) :
    (p.modify id f).get other = if id = other then (p.get other).map f else p.get other := by
  unfold get
  simp only [modify, Array.getElem?_modify]
  by_cases h : id = other
  · subst h
    cases hn : p.nodes[id]? <;> simp [Except.map]
  · simp [h]

@[simp] theorem size_add (p : Page) (n : Node) : (p.add n).2.size = p.size + 1 := by
  simp [add, size]

@[simp] theorem fst_add (p : Page) (n : Node) : (p.add n).1 = p.size := rfl

theorem get_add (p : Page) (n : Node) (id : NodeId) :
    (p.add n).2.get id = if id = p.size then .ok { n with id := p.size } else p.get id := by
  unfold get
  simp only [add, Array.getElem?_push, size]
  by_cases h : id = p.nodes.size <;> simp [h]

end Page

end PhraseMark
