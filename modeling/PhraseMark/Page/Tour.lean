import PhraseMark.Page.Basic

/-!
# Tours of a subtree

A tour visits a node and everything under it in document order with a stack of tasks: nodes to
visit and work to do when a subtree has been left. What happens at a node is given by a visitor,
which may end the tour or leave out the subtree.
-/

namespace PhraseMark

/-- What a visitor decides at a node, with the state after it. -/
inductive Turn (σ : Type) where
  /-- The tour ends. -/
  | stop (state : σ)
  /-- The children are left out. -/
  | pass (state : σ)
  /-- The children are visited, and after the last of them `leave` is applied. -/
  | enter (state : σ) (leave : σ → σ)

/-- An entry of the stack of a tour. `levels` bounds how deep the tour goes below the node. -/
inductive Task (σ : Type) where
  | visit (id : NodeId) (levels : Nat)
  | leave (f : σ → σ)

namespace Page

variable {σ : Type}

/-- No node has more children than this. -/
def width (p : Page) : Nat :=
  p.nodes.toList.foldr (fun n total => n.children.length + total) 0

theorem length_children_le_width {p : Page} {id : NodeId} {n : Node} (h : p.get id = .ok n) :
    n.children.length ≤ p.width := by
  have hmem : n ∈ p.nodes.toList := by
    have := Array.mem_of_getElem? (get_eq_ok_iff.1 h)
    simpa using this
  unfold width
  generalize p.nodes.toList = ns at hmem
  induction ns with
  | nil => simp at hmem
  | cons m ms ih =>
      rw [List.foldr_cons]
      rcases List.mem_cons.1 hmem with rfl | hmem
      · exact Nat.le_add_right _ _
      · exact Nat.le_trans (ih hmem) (Nat.le_add_left _ _)

/-- No tour down `levels` levels takes more steps than this. -/
def spread (p : Page) : Nat → Nat
  | 0 => 1
  | levels + 1 => p.spread levels * (p.width + 2)

theorem spread_pos (p : Page) (levels : Nat) : 0 < p.spread levels := by
  induction levels with
  | zero => exact Nat.one_pos
  | succ levels ih => exact Nat.mul_pos ih (Nat.succ_pos _)

/-- What a task can cost at most. -/
def cost (p : Page) : Task σ → Nat
  | .visit _ levels => p.spread levels
  | .leave _ => 1

/-- What the tasks of a stack can cost at most. -/
def costs (p : Page) : List (Task σ) → Nat
  | [] => 0
  | t :: ts => p.cost t + p.costs ts

theorem cost_pos (p : Page) (t : Task σ) : 0 < p.cost t := by
  cases t with
  | visit id levels => exact p.spread_pos levels
  | leave f => exact Nat.one_pos

theorem costs_append (p : Page) (ts us : List (Task σ)) :
    p.costs (ts ++ us) = p.costs ts + p.costs us := by
  induction ts with
  | nil => rw [List.nil_append, costs, Nat.zero_add]
  | cons t ts ih => rw [List.cons_append, costs, costs, ih, Nat.add_assoc]

theorem costs_visits (p : Page) (ids : List NodeId) (levels : Nat) :
    p.costs (ids.map (fun id => (Task.visit id levels : Task σ))) =
      ids.length * p.spread levels := by
  induction ids with
  | nil => rw [List.length_nil, Nat.zero_mul, List.map_nil, costs]
  | cons id ids ih =>
      rw [List.map_cons, costs, ih, cost, List.length_cons, Nat.succ_mul, Nat.add_comm]

theorem costs_children_lt {p : Page} {id : NodeId} {n : Node} (h : p.get id = .ok n)
    (levels : Nat) : n.children.length * p.spread levels + 1 < p.spread (levels + 1) := by
  have hlen := length_children_le_width h
  have hpos := p.spread_pos levels
  calc n.children.length * p.spread levels + 1
      ≤ p.width * p.spread levels + 1 := by
        exact Nat.add_le_add_right (Nat.mul_le_mul_right _ hlen) 1
    _ < p.width * p.spread levels + 2 * p.spread levels := by omega
    _ = p.spread (levels + 1) := by
        rw [spread, ← Nat.add_mul, Nat.mul_comm]

/-- Works off a stack of tasks. A node that is to be visited with no levels left lies below a
circle of child links and is left out. -/
def runTasks (p : Page) (visitor : NodeId → Node → σ → Except Fault (Turn σ)) :
    List (Task σ) → σ → Except Fault σ
  | [], s => .ok s
  | .leave f :: rest, s => runTasks p visitor rest (f s)
  | .visit _ 0 :: rest, s => runTasks p visitor rest s
  | .visit id (levels + 1) :: rest, s =>
    match _h : p.get id with
    | .error e => .error e
    | .ok n =>
      match visitor id n s with
      | .error e => .error e
      | .ok (.stop s) => .ok s
      | .ok (.pass s) => runTasks p visitor rest s
      | .ok (.enter s f) =>
        runTasks p visitor (n.children.map (.visit · levels) ++ .leave f :: rest) s
termination_by tasks => p.costs tasks
decreasing_by
  · simp only [costs, cost]
    omega
  · simp only [costs, cost, spread]
    omega
  · have hpos := p.cost_pos (Task.visit id (levels + 1) : Task σ)
    simp only [costs, Nat.succ_eq_add_one]
    omega
  · have hlt := costs_children_lt _h levels
    simp only [costs_append, costs_visits, costs, cost, Nat.succ_eq_add_one]
    omega

/-- Visits `id` and everything under it. Every path of distinct nodes fits into the levels given
here. -/
def tour (p : Page) (visitor : NodeId → Node → σ → Except Fault (Turn σ)) (id : NodeId) (s : σ) :
    Except Fault σ :=
  p.runTasks visitor [.visit id (p.size + 1)] s

/-- Visits `id` and everything under it in document order; the first failing visit ends it. -/
def traverse (p : Page) (id : NodeId) (visit : Node → σ → Except Fault σ) (s : σ) :
    Except Fault σ :=
  p.tour (fun _ n s => (visit n s).map (.enter · (fun s => s))) id s

/-- The first node in document order, at or under `id`, that satisfies a test. -/
def findDescendant (p : Page) (id : NodeId) (test : Node → Bool) :
    Except Fault (Option NodeId) :=
  p.tour (fun i n s => .ok (if test n then .stop (some i) else .enter s (fun s => s))) id none

end Page

end PhraseMark
