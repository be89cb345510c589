import PhraseMark.Proofs.History
import PhraseMark.Proofs.Page.Touring

/-!
# Traversals and recursion

A traversal and a search work off a stack. On a well-formed page they do what the recursion over
child lists does: a traversal hands its state from node to node in preorder, up to the first visit
that fails, and a search ends at the first node of the preorder that satisfies its test.
-/

namespace PhraseMark.Page

variable {p : Page} {id : NodeId} {σ : Type}

/-! ## Visits that may fail -/

theorem foldlM_mapError {f : σ → NodeId → Except Fault σ} (ids : List NodeId) (s : σ) :
    ids.foldlM (fun s y => (f s y).mapError (fun e => (.error e : Except Fault σ))) s =
      (ids.foldlM f s).mapError .error := by
  induction ids generalizing s with
  | nil => rfl
  | cons y ys ih =>
      rw [List.foldlM_cons, List.foldlM_cons]
      cases f s y with
      | error e => rfl
      | ok s' => exact ih s'

/-- A run of visits fails just when one of them fails after those before it have succeeded. -/
theorem foldlM_eq_error_iff {f : σ → NodeId → Except Fault σ} {ids : List NodeId} {s : σ}
    {e : Fault} :
    ids.foldlM f s = .error e ↔
      ∃ before y after s', ids = before ++ y :: after ∧ before.foldlM f s = .ok s' ∧
        f s' y = .error e := by
  induction ids generalizing s with
  | nil => simp [pure, Except.pure]
  | cons x xs ih =>
      rw [List.foldlM_cons]
      cases hx : f s x with
      | error e' =>
          constructor
          · intro h
            exact ⟨[], x, xs, s, rfl, rfl, hx.trans h⟩
          · rintro ⟨before, y, after, s', heq, hbefore, hy⟩
            cases before with
            | nil =>
                cases heq
                cases hbefore
                exact hx.symm.trans hy
            | cons z zs =>
                cases heq
                rw [List.foldlM_cons, hx] at hbefore
                cases hbefore
      | ok t =>
          refine Iff.trans (ih (s := t)) ?_
          constructor
          · rintro ⟨before, y, after, s', rfl, hbefore, hy⟩
            refine ⟨x :: before, y, after, s', rfl, ?_, hy⟩
            rw [List.foldlM_cons, hx]
            exact hbefore
          · rintro ⟨before, y, after, s', heq, hbefore, hy⟩
            cases before with
            | nil =>
                cases heq
                cases hbefore
                rw [hx] at hy
                cases hy
            | cons z zs =>
                cases heq
                rw [List.foldlM_cons, hx] at hbefore
                exact ⟨zs, y, after, s', rfl, hbefore, hy⟩

theorem WellFormed.traverse_eq_foldlM (h : p.WellFormed) (hid : id < p.size)
    (visit : Node → σ → Except Fault σ) (s : σ) :
    p.traverse id visit s = (p.tree id).ids.foldlM (fun s y => visit (p.node y) s) s := by
  have hvisitor : (fun _ n s => (visit n s).map (.enter · (fun s => s))) =
      survey (fun _ n s => (visit n s).mapError .error) := by
    funext _ n s
    simp only [survey]
    cases visit n s <;> rfl
  rw [traverse, hvisitor, h.tour_survey _ hid, foldlM_mapError]
  cases (p.tree id).ids.foldlM (fun s y => visit (p.node y) s) s <;> rfl

/-! ## Preorder -/

/-- `order` lists what stands at and under every node: the node, and then child by child what
stands at and under the children. -/
def IsPreorder (p : Page) (order : NodeId → List NodeId) : Prop :=
  ∀ x < p.size, order x = x :: (p.node x).children.flatMap order

theorem WellFormed.isPreorder_ids (h : p.WellFormed) :
    p.IsPreorder (fun x => (p.tree x).ids) :=
  fun _ hx => h.ids_tree hx

/-- The recursion over child lists has one solution. -/
theorem WellFormed.eq_ids_of_isPreorder (h : p.WellFormed) {order : NodeId → List NodeId}
    (horder : p.IsPreorder order) (hid : id < p.size) : order id = (p.tree id).ids := by
  induction id using h.down_induction with
  | step id ih =>
      rw [horder id hid, h.ids_tree hid]
      congr 1
      exact List.flatMap_congr (fun c hc => ih c hc (h.lt_of_mem_children hc))

/-- There is one order in which the recursion over child lists comes to the nodes at and under each
node, and it comes to each of them once. A traversal runs through it and ends with the first visit
that fails, if there is one; a search finds its first node that satisfies the test, if there is one;
and the body is its first BODY element from the root on. What starts at a missing node fails. -/
theorem traverse_preorder (h : p.WellFormed) :
    (∃ order, p.IsPreorder order) ∧
      (∀ order, p.IsPreorder order →
        (∀ id < p.size,
          (order id).Nodup ∧ (∀ y, y ∈ order id ↔ id ∈ p.lineage y) ∧
            (∀ (σ : Type) (visit : Node → σ → Except Fault σ) (s : σ),
              p.traverse id visit s = (order id).foldlM (fun s y => visit (p.node y) s) s ∧
                ∀ e, p.traverse id visit s = .error e ↔
                  ∃ before y after s', order id = before ++ y :: after ∧
                    before.foldlM (fun s y => visit (p.node y) s) s = .ok s' ∧
                      visit (p.node y) s' = .error e) ∧
              ∀ test, p.findDescendant id test =
                .ok ((order id).find? (fun y => test (p.node y)))) ∧
          p.body? = (p.root.filter (· < p.size)).bind
            (fun root => (order root).find? (fun y => (p.node y).hasTag "BODY"))) ∧
        ∀ id, p.size ≤ id →
          (∀ (σ : Type) (visit : Node → σ → Except Fault σ) (s : σ),
            p.traverse id visit s = .error (.nodeNotFound id)) ∧
            ∀ test, p.findDescendant id test = .error (.nodeNotFound id) := by
  refine ⟨⟨_, h.isPreorder_ids⟩, ?_, ?_⟩
  · intro order horder
    constructor
    · intro id hid
      rw [h.eq_ids_of_isPreorder horder hid]
      refine ⟨h.nodup_ids_tree hid, fun y => h.mem_ids_tree hid, ?_, h.findDescendant_eq hid⟩
      intro σ visit s
      rw [h.traverse_eq_foldlM hid]
      exact ⟨rfl, fun e => foldlM_eq_error_iff⟩
    · cases hroot : p.root with
      | none => simp [body?, hroot]
      | some root =>
          by_cases hlt : root < p.size
          · simp only [Option.filter, hlt, decide_true, if_true, Option.bind_some]
            rw [h.body?_eq hroot hlt, h.eq_ids_of_isPreorder horder hlt]
          · simp only [Option.filter, hlt, decide_false, if_false, Bool.false_eq_true,
              Option.bind_none]
            exact body?_of_le hroot (Nat.not_lt.1 hlt)
  · intro id hle
    exact ⟨fun _ _ _ => tour_of_le hle _ _, fun _ => tour_of_le hle _ _⟩

/-- A page with a head that was added after its body. -/
def headedPage : Page :=
  [.addElement "html", .addElement "body", .addText "a", .append 1 2, .addElement "head",
    .append 0 3, .append 0 1, .setRoot 0].foldl perform empty

theorem traverse_preorder_headedPage :
    headedPage.body? = some 1 ∧
      headedPage.traverse 0 (fun n ids => .ok (ids ++ [n.id])) [] = .ok [0, 3, 1, 2] ∧
        headedPage.traverse 0 (fun n (ids : List NodeId) =>
          if n.hasTag "BODY" then .error (.tooDeep ids.length 1) else .ok (ids ++ [n.id])) [] =
            .error (.tooDeep 2 1) := by
  have hsize : headedPage.size = 4 := by decide
  have hchildren : (headedPage.node 0).children = [3, 1] ∧ (headedPage.node 3).children = [] ∧
      (headedPage.node 1).children = [2] ∧ (headedPage.node 2).children = [] := by
    decide
  have hwf : headedPage.WellFormed := wellFormed_edits _
  obtain ⟨⟨order, horder⟩, hall, -⟩ := traverse_preorder hwf
  obtain ⟨hruns, hbody⟩ := hall order horder
  -- the preorder is found by the recursion
  have hzero : order 0 = [0, 3, 1, 2] := by
    obtain ⟨h0, h3, h1, h2⟩ := hchildren
    rw [horder 0 (by omega), h0, List.flatMap_cons, List.flatMap_cons, List.flatMap_nil,
      horder 3 (by omega), h3, horder 1 (by omega), h1, List.flatMap_cons, horder 2 (by omega), h2]
    rfl
  obtain ⟨-, -, htraverse, -⟩ := hruns 0 (by omega)
  have hroot : headedPage.root.filter (· < headedPage.size) = some 0 := by decide
  refine ⟨?_, ?_, ?_⟩
  · rw [hbody, hroot, Option.bind_some, hzero]
    decide +kernel
  · rw [(htraverse _ _ _).1, hzero]
    decide
  · rw [(htraverse _ _ _).2, hzero]
    refine ⟨[0, 3], 1, [2], [0, 3], rfl, ?_, ?_⟩
    · decide +kernel
    · decide +kernel

end PhraseMark.Page
