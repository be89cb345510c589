import Mathlib.Logic.Relation
import PhraseMark.Page.Markup
import PhraseMark.Proofs.Page.Touring

/-!
# Readings of trees

A tour that no visit ends folds its state over the tree of the node, from left to right, and what
it makes of a node depends on the node without its links. Visible text, text content and markup
are read this way, and so is the order of a traversal.
-/

namespace PhraseMark

namespace Tree

variable {σ : Type}

/-- The state after a tour of a tree, if no visit ends the tour. -/
def read (turn : Node → σ → Turn σ) (t : Tree) : σ → σ :=
  t.fold (fun n inner s =>
    match turn n s with
    | .stop s => s
    | .pass s => s
    | .enter s leave => leave (inner.foldl (fun s f => f s) s))

def readAll (turn : Node → σ → Turn σ) (ts : List Tree) (s : σ) : σ :=
  ts.foldl (fun s t => t.read turn s) s

theorem readAll_cons (turn : Node → σ → Turn σ) (t : Tree) (ts : List Tree) (s : σ) :
    readAll turn (t :: ts) s = readAll turn ts (t.read turn s) := rfl

theorem readAll_append (turn : Node → σ → Turn σ) (ts us : List Tree) (s : σ) :
    readAll turn (ts ++ us) s = readAll turn us (readAll turn ts s) :=
  List.foldl_append

theorem read_node (turn : Node → σ → Turn σ) (n : Node) (ts : List Tree) (s : σ) :
    (node n ts).read turn s =
      match turn n s with
      | .stop s => s
      | .pass s => s
      | .enter s leave => leave (readAll turn ts s) := by
  rw [read, fold_node]
  cases turn n s with
  | stop s => rfl
  | pass s => rfl
  | enter s leave =>
      simp only [readAll, List.foldl_map]
      rfl

theorem read_of_pass {turn : Node → σ → Turn σ} {n : Node} {s s' : σ} (h : turn n s = .pass s')
    (ts : List Tree) : (node n ts).read turn s = s' := by
  rw [read_node, h]

theorem read_of_enter {turn : Node → σ → Turn σ} {n : Node} {s s' : σ} {leave : σ → σ}
    (h : turn n s = .enter s' leave) (ts : List Tree) :
    (node n ts).read turn s = leave (readAll turn ts s') := by
  rw [read_node, h]

/-- A reading that enters every node goes through the labels in order. -/
theorem read_enter (visit : Node → σ → σ) (t : Tree) (s : σ) :
    t.read (fun n s => .enter (visit n s) (fun s => s)) s =
      t.labels.foldl (fun s n => visit n s) s := by
  induction t using induct generalizing s with
  | step n ts ih =>
      have hall : ∀ us : List Tree, (∀ u ∈ us, u ∈ ts) → ∀ s,
          readAll (fun n s => .enter (visit n s) (fun s => s)) us s =
            (us.flatMap labels).foldl (fun s n => visit n s) s := by
        intro us hus
        induction us with
        | nil => intro s; rfl
        | cons u us ihus =>
            intro s
            rw [readAll_cons, List.flatMap_cons, List.foldl_append,
              ih u (hus u List.mem_cons_self),
              ihus (fun v hv => hus v (List.mem_cons_of_mem u hv))]
      rw [read_node, labels_node, List.foldl_cons]
      exact hall ts (fun u hu => hu) (visit n s)

theorem foldl_append_id (ns : List Node) (ids : List NodeId) :
    ns.foldl (fun ids n => ids ++ [n.id]) ids = ids ++ ns.map (·.id) := by
  induction ns generalizing ids with
  | nil => exact (List.append_nil ids).symm
  | cons n ns ih =>
      rw [List.foldl_cons, ih, List.map_cons, List.append_assoc, List.singleton_append]

end Tree

namespace Page

variable {p : Page} {id : NodeId} {σ : Type}

/-- Visits that do not end a tour and do not look at links. -/
structure Reads (p : Page) (visitor : NodeId → Node → σ → Except Fault (Turn σ))
    (turn : Node → σ → Turn σ) : Prop where
  visit : ∀ y < p.size, ∀ s, visitor y (p.node y) s = .ok (turn (p.node y).unlinked s)
  goesOn : ∀ n s s', turn n s ≠ .stop s'

/-! ## Turns of the loop -/

/-- One turn of the loop that works off the stack of a tour. None of them ends the tour, and none
leaves out a node for want of levels. -/
inductive Advances (p : Page) (visitor : NodeId → Node → σ → Except Fault (Turn σ)) :
    List (Task σ) × σ → List (Task σ) × σ → Prop
  | leave (f : σ → σ) (rest : List (Task σ)) (s : σ) :
      Advances p visitor (.leave f :: rest, s) (rest, f s)
  | pass {id levels : Nat} {n : Node} {s s' : σ} (rest : List (Task σ)) :
      p.get id = .ok n → visitor id n s = .ok (.pass s') →
        Advances p visitor (.visit id (levels + 1) :: rest, s) (rest, s')
  | enter {id levels : Nat} {n : Node} {s s' : σ} {f : σ → σ} (rest : List (Task σ)) :
      p.get id = .ok n → visitor id n s = .ok (.enter s' f) →
        Advances p visitor (.visit id (levels + 1) :: rest, s)
          (n.children.map (.visit · levels) ++ .leave f :: rest, s')

/-- Any number of turns lead from one stack and state to another. -/
abbrev Leads (p : Page) (visitor : NodeId → Node → σ → Except Fault (Turn σ)) :
    List (Task σ) × σ → List (Task σ) × σ → Prop :=
  Relation.ReflTransGen (p.Advances visitor)

section Turns

variable {visitor : NodeId → Node → σ → Except Fault (Turn σ)} {turn : Node → σ → Turn σ}
  {c d : List (Task σ) × σ}

theorem Advances.runTasks_eq (h : p.Advances visitor c d) :
    p.runTasks visitor c.1 c.2 = p.runTasks visitor d.1 d.2 := by
  cases h with
  | leave f rest s => rw [runTasks]
  | pass rest hn hturn =>
      rw [runTasks_visit (lt_size_of_get hn), node_of_get hn, hturn]
  | enter rest hn hturn =>
      rw [runTasks_visit (lt_size_of_get hn), node_of_get hn, hturn]

theorem Leads.runTasks_eq (h : p.Leads visitor c d) :
    p.runTasks visitor c.1 c.2 = p.runTasks visitor d.1 d.2 := by
  induction h with
  | refl => rfl
  | tail _ hlast ih => exact ih.trans hlast.runTasks_eq

/-- With levels enough for what stands under a node, the loop reads its tree and comes to the tasks
that were below it on the stack. -/
theorem WellFormed.leads_read (h : p.WellFormed) (hreads : p.Reads visitor turn) {levels : Nat}
    (hid : id < p.size) (hlevels : p.size < levels + (p.lineage id).length)
    (rest : List (Task σ)) (s : σ) :
    p.Leads visitor (.visit id levels :: rest, s) (rest, (p.tree id).read turn s) := by
  induction levels generalizing id rest s with
  | zero =>
      have hle := h.length_lineage_le hid
      omega
  | succ levels ih =>
      -- the children are read one after the other
      have hchildren : ∀ cs : List NodeId, (∀ c ∈ cs, c ∈ (p.node id).children) → ∀ rest s,
          p.Leads visitor (cs.map (.visit · levels) ++ rest, s)
            (rest, Tree.readAll turn (cs.map p.tree) s) := by
        intro cs hcs
        induction cs with
        | nil => intro rest s; exact .refl
        | cons c cs ihcs =>
            intro rest s
            have hc := hcs c List.mem_cons_self
            have hlen := h.length_lineage_child ((h.mem_children_iff id c).1 hc)
            have hfirst := ih (h.lt_of_mem_children hc) (by omega)
              (cs.map (.visit · levels) ++ rest) s
            exact hfirst.trans (ihcs (fun d hd => hcs d (List.mem_cons_of_mem c hd)) rest _)
      have hvisit := hreads.visit id hid s
      rw [h.tree_eq, Tree.read_node]
      cases hturn : turn (p.node id).unlinked s with
      | stop s' => exact absurd hturn (hreads.goesOn _ _ _)
      | pass s' =>
          rw [hturn] at hvisit
          exact .single (.pass rest (get_of_lt hid) hvisit)
      | enter s' leave =>
          rw [hturn] at hvisit
          have hinner := hchildren _ (fun c hc => hc) (.leave leave :: rest) s'
          exact .head (.enter rest (get_of_lt hid) hvisit) (hinner.tail (.leave leave rest _))

end Turns

theorem WellFormed.tour_eq (h : p.WellFormed)
    {visitor : NodeId → Node → σ → Except Fault (Turn σ)} {turn : Node → σ → Turn σ}
    (hreads : p.Reads visitor turn) (hid : id < p.size) (s : σ) :
    p.tour visitor id s = .ok ((p.tree id).read turn s) := by
  have hlevels : p.size < p.size + 1 + (p.lineage id).length := by omega
  rw [tour, (h.leads_read hreads hid hlevels [] s).runTasks_eq, runTasks]

/-! ## Traversals -/

theorem WellFormed.traverse_eq (h : p.WellFormed) (hid : id < p.size) {visit : Node → σ → σ}
    (hvisit : ∀ n s, visit n.unlinked s = visit n s) (s : σ) :
    p.traverse id (fun n s => .ok (visit n s)) s =
      .ok ((p.tree id).labels.foldl (fun s n => visit n s) s) := by
  rw [← Tree.read_enter]
  refine h.tour_eq ⟨fun y _ s => ?_, fun n s s' heq => ?_⟩ hid s
  · rw [hvisit]
    rfl
  · cases heq

/-- A traversal comes to the nodes of the tree in document order. -/
theorem WellFormed.traverse_ids (h : p.WellFormed) (hid : id < p.size) :
    p.traverse id (fun n ids => .ok (ids ++ [n.id])) [] = .ok (p.tree id).ids := by
  have hvisits := @traverse_eq p id _ h hid (fun n ids => ids ++ [n.id]) (fun _ _ => rfl) []
  rw [hvisits, Tree.foldl_append_id]
  rfl

/-- What the text content takes from a node. -/
def contentTurn (n : Node) (text : String) : Turn String :=
  .enter (if n.kind.isCharacterData then text ++ n.value else text) (fun s => s)

theorem WellFormed.textContent_eq (h : p.WellFormed) (hid : id < p.size) :
    p.textContent id = .ok ((p.tree id).read contentTurn "") :=
  h.tour_eq ⟨fun _ _ _ => rfl, fun _ _ _ heq => by cases heq⟩ hid ""

/-! ## Visible text and markup -/

theorem visibleTurn_ne_stop (root x : NodeId) (n : Node) (d d' : Draft) :
    visibleTurn root x n d ≠ .stop d' := by
  unfold visibleTurn
  repeat' split
  all_goals simp

theorem WellFormed.reads_visibleTurn (h : p.WellFormed) :
    p.Reads (fun y n d => .ok (visibleTurn id y n d)) (fun n => visibleTurn id n.id n) := by
  refine ⟨fun y hy d => ?_, fun n d d' => visibleTurn_ne_stop id n.id n d d'⟩
  have hlabel : (p.node y).unlinked.id = y := h.id_node y hy
  rw [hlabel]
  rfl

theorem WellFormed.visibleText_eq (h : p.WellFormed) (hid : id < p.size) :
    p.visibleText id = .ok ((p.tree id).read (fun n => visibleTurn id n.id n) {}).text := by
  rw [visibleText, h.tour_eq h.reads_visibleTurn hid]

end Page

theorem Markup.turn_ne_stop (options : MarkupOptions) (n : Node) (m m' : Manuscript) :
    turn options n m ≠ .stop m' := by
  unfold turn
  dsimp only
  repeat' split
  all_goals simp

theorem Page.WellFormed.outerMarkup_eq {p : Page} {id : NodeId} (h : p.WellFormed)
    (hid : id < p.size) (options : MarkupOptions) :
    p.outerMarkup options id = .ok ((p.tree id).read (Markup.turn options) {}).written := by
  rw [outerMarkup, h.tour_eq ⟨fun _ _ _ => rfl, Markup.turn_ne_stop options⟩ hid]
  rfl

end PhraseMark
