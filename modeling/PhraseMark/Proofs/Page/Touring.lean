import PhraseMark.Page.VisibleText
import PhraseMark.Proofs.Page.Tree

/-!
# Tours of well-formed pages

A tour of a well-formed page comes to its end without a missing node. A tour that leaves nothing
out visits the tree in document order, and a search by tour finds the first node of the tree in that
order.
-/

namespace PhraseMark.Page

variable {p : Page} {id x : NodeId} {σ : Type}

theorem runTasks_visit {visitor : NodeId → Node → σ → Except Fault (Turn σ)} {levels : Nat}
    {rest : List (Task σ)} {s : σ} (hid : id < p.size) :
    p.runTasks visitor (.visit id (levels + 1) :: rest) s =
      match visitor id (p.node id) s with
      | .error e => .error e
      | .ok (.stop s) => .ok s
      | .ok (.pass s) => p.runTasks visitor rest s
      | .ok (.enter s f) =>
        p.runTasks visitor ((p.node id).children.map (.visit · levels) ++ .leave f :: rest) s := by
  rw [runTasks]
  split
  · rename_i e he
    rw [get_of_lt hid] at he
    cases he
  · rename_i n hn
    rw [get_of_lt hid] at hn
    cases hn
    rfl

/-! ## Tours that do not fail -/

/-- Every node that a task visits exists. -/
def Present (p : Page) (tasks : List (Task σ)) : Prop :=
  ∀ id levels, Task.visit id levels ∈ tasks → id < p.size

theorem Present.tail {t : Task σ} {tasks : List (Task σ)} (h : p.Present (t :: tasks)) :
    p.Present tasks :=
  fun id levels hmem => h id levels (List.mem_cons_of_mem t hmem)

theorem WellFormed.present_children (h : p.WellFormed) (id : NodeId) (levels : Nat) (f : σ → σ)
    {tasks : List (Task σ)} (ht : p.Present tasks) :
    p.Present ((p.node id).children.map (.visit · levels) ++ .leave f :: tasks) := by
  intro y m hmem
  rcases List.mem_append.1 hmem with hmem | hmem
  · obtain ⟨c, hc, heq⟩ := List.mem_map.1 hmem
    cases heq
    exact h.lt_of_mem_children hc
  · rcases List.mem_cons.1 hmem with heq | hmem
    · cases heq
    · exact ht y m hmem

/-- A tour does not fail where its visits do not, for every node it comes to exists. -/
theorem WellFormed.runTasks_total (h : p.WellFormed) (turn : NodeId → Node → σ → Turn σ)
    (tasks : List (Task σ)) (s : σ) (htasks : p.Present tasks) :
    ∃ s', p.runTasks (fun id n s => .ok (turn id n s)) tasks s = .ok s' := by
  induction tasks, s using Page.runTasks.induct p (fun id n s => .ok (turn id n s)) with
  | case1 s =>
      rw [runTasks]
      exact ⟨s, rfl⟩
  | case2 f rest s ih =>
      rw [runTasks]
      exact ih htasks.tail
  | case3 id rest s ih =>
      rw [runTasks]
      exact ih htasks.tail
  | case4 id levels rest s e he =>
      have hid := htasks id _ List.mem_cons_self
      rw [get_of_lt hid] at he
      cases he
  | case5 id levels rest s n hn e he => cases he
  | case6 id levels rest s n hn s' hs =>
      have hid := htasks id _ List.mem_cons_self
      rw [← node_of_get hn, Except.ok.injEq] at hs
      rw [Nat.succ_eq_add_one, runTasks_visit hid, hs]
      exact ⟨s', rfl⟩
  | case7 id levels rest s n hn s' hs ih =>
      have hid := htasks id _ List.mem_cons_self
      rw [← node_of_get hn, Except.ok.injEq] at hs
      rw [Nat.succ_eq_add_one, runTasks_visit hid, hs]
      exact ih htasks.tail
  | case8 id levels rest s n hn s' f hs ih =>
      have hid := htasks id _ List.mem_cons_self
      rw [← node_of_get hn, Except.ok.injEq] at hs
      rw [← node_of_get hn] at ih
      rw [Nat.succ_eq_add_one, runTasks_visit hid, hs]
      exact ih (h.present_children id levels f htasks.tail)

theorem WellFormed.exists_tour (h : p.WellFormed) (turn : NodeId → Node → σ → Turn σ)
    (hid : id < p.size) (s : σ) :
    ∃ s', p.tour (fun id n s => .ok (turn id n s)) id s = .ok s' := by
  apply h.runTasks_total turn _ s
  intro y levels hmem
  rw [List.mem_singleton] at hmem
  cases hmem
  exact hid

theorem WellFormed.exists_visibleText (h : p.WellFormed) (hid : id < p.size) :
    ∃ text, p.visibleText id = .ok text := by
  obtain ⟨d, hd⟩ := h.exists_tour (visibleTurn id) hid {}
  exact ⟨d.text, by rw [visibleText, hd]⟩

/-! ## Surveys -/

/-- The visitor of a tour that leaves nothing out: a visit goes on with a state, or it ends the tour
with a result. -/
def survey (visit : NodeId → Node → σ → Except (Except Fault σ) σ) (id : NodeId) (n : Node)
    (s : σ) : Except Fault (Turn σ) :=
  match visit id n s with
  | .ok s => .ok (.enter s (fun s => s))
  | .error (.ok s) => .ok (.stop s)
  | .error (.error e) => .error e

/-- The result of a tour whose visits so far have come to `r`, where `goOn` is the rest of it. -/
def settle (r : Except (Except Fault σ) σ) (goOn : σ → Except Fault σ) : Except Fault σ :=
  match r with
  | .ok s => goOn s
  | .error result => result

theorem settle_bind (r : Except (Except Fault σ) σ) (f : σ → Except (Except Fault σ) σ)
    (goOn : σ → Except Fault σ) :
    settle (r >>= f) goOn = settle r (fun s => settle (f s) goOn) := by
  cases r <;> rfl

/-- With levels enough for what stands under a node, a survey visits the nodes of its tree one after
the other, and goes on with the tasks that were below it on the stack if no visit has ended it. -/
theorem WellFormed.runTasks_survey (h : p.WellFormed)
    (visit : NodeId → Node → σ → Except (Except Fault σ) σ) {levels : Nat} (hid : id < p.size)
    (hlevels : p.size < levels + (p.lineage id).length) (rest : List (Task σ)) (s : σ) :
    p.runTasks (survey visit) (.visit id levels :: rest) s =
      settle ((p.tree id).ids.foldlM (fun s y => visit y (p.node y) s) s)
        (p.runTasks (survey visit) rest) := by
  induction levels generalizing id rest s with
  | zero =>
      have hle := h.length_lineage_le hid
      omega
  | succ levels ih =>
      -- the children on the stack are surveyed one after the other
      have hchildren : ∀ cs : List NodeId, (∀ c ∈ cs, c ∈ (p.node id).children) → ∀ rest s,
          p.runTasks (survey visit) (cs.map (.visit · levels) ++ rest) s =
            settle ((cs.flatMap (fun c => (p.tree c).ids)).foldlM
              (fun s y => visit y (p.node y) s) s) (p.runTasks (survey visit) rest) := by
        intro cs hcs
        induction cs with
        | nil => intro rest s; rfl
        | cons c cs ihcs =>
            intro rest s
            have hc := hcs c List.mem_cons_self
            have hlen := h.length_lineage_child ((h.mem_children_iff id c).1 hc)
            have hlater := ihcs (fun d hd => hcs d (List.mem_cons_of_mem c hd)) rest
            rw [List.map_cons, List.cons_append, ih (h.lt_of_mem_children hc) (by omega),
              List.flatMap_cons, List.foldlM_append, settle_bind]
            exact congrArg (settle _) (funext hlater)
      have hleave : p.runTasks (survey visit) (.leave (fun s => s) :: rest) =
          p.runTasks (survey visit) rest := funext (fun s => by rw [runTasks])
      rw [h.ids_tree hid, List.foldlM_cons, runTasks_visit hid, survey]
      cases visit id (p.node id) s with
      | ok s' =>
          have hinner := hchildren _ (fun c hc => hc) (.leave (fun s => s) :: rest) s'
          rwa [hleave] at hinner
      | error result => cases result <;> rfl

theorem WellFormed.tour_survey (h : p.WellFormed)
    (visit : NodeId → Node → σ → Except (Except Fault σ) σ) (hid : id < p.size) (s : σ) :
    p.tour (survey visit) id s =
      settle ((p.tree id).ids.foldlM (fun s y => visit y (p.node y) s) s) .ok := by
  have hlevels : p.size < p.size + 1 + (p.lineage id).length := by omega
  have hdone : p.runTasks (survey visit) [] = .ok := funext (fun s => by rw [runTasks])
  rw [tour, h.runTasks_survey visit hid hlevels, hdone]

/-! ## Searches -/

def searchTurn (test : Node → Bool) (id : NodeId) (n : Node) (s : Option NodeId) :
    Turn (Option NodeId) :=
  if test n then .stop (some id) else .enter s (fun s => s)

/-- A visit of a search, which ends at the first node that satisfies the test. -/
def searchVisit (test : Node → Bool) (id : NodeId) (n : Node) (s : Option NodeId) :
    Except (Except Fault (Option NodeId)) (Option NodeId) :=
  if test n then .error (.ok (some id)) else .ok s

theorem survey_searchVisit (test : Node → Bool) :
    survey (searchVisit test) = fun id n s => .ok (searchTurn test id n s) := by
  funext id n s
  unfold survey searchVisit searchTurn
  cases test n <;> rfl

theorem foldlM_searchVisit (p : Page) (test : Node → Bool) (ids : List NodeId) :
    ids.foldlM (fun s y => searchVisit test y (p.node y) s) none =
      (ids.find? (fun y => test (p.node y))).elim (.ok none) (fun y => .error (.ok (some y))) := by
  induction ids with
  | nil => rfl
  | cons y ys ih =>
      rw [List.foldlM_cons, List.find?_cons, searchVisit]
      cases test (p.node y) with
      | true => rfl
      | false => exact ih

theorem WellFormed.findDescendant_eq (h : p.WellFormed) (hid : id < p.size)
    (test : Node → Bool) :
    p.findDescendant id test = .ok ((p.tree id).ids.find? (fun y => test (p.node y))) := by
  have hsurvey := h.tour_survey (searchVisit test) hid none
  rw [survey_searchVisit, foldlM_searchVisit] at hsurvey
  refine hsurvey.trans ?_
  cases (p.tree id).ids.find? (fun y => test (p.node y)) <;> rfl

/-- The body is the first BODY element of the tree of the root. -/
theorem WellFormed.body?_eq (h : p.WellFormed) {root : NodeId} (hroot : p.root = some root)
    (hlt : root < p.size) :
    p.body? = (p.tree root).ids.find? (fun y => (p.node y).hasTag "BODY") := by
  simp only [body?, hroot, h.findDescendant_eq hlt]

theorem tour_of_le (h : p.size ≤ id) (visitor : NodeId → Node → σ → Except Fault (Turn σ))
    (s : σ) : p.tour visitor id s = .error (.nodeNotFound id) := by
  rw [tour, runTasks]
  split
  · rename_i e he
    rw [get_of_le h] at he
    cases he
    rfl
  · rename_i n hn
    rw [get_of_le h] at hn
    cases hn

theorem body?_of_le {root : NodeId} (hroot : p.root = some root) (hle : p.size ≤ root) :
    p.body? = none := by
  simp only [body?, hroot, findDescendant, tour_of_le hle]

theorem WellFormed.body?_some (h : p.WellFormed) {body : NodeId} (hb : p.body? = some body) :
    body < p.size ∧ (p.node body).hasTag "BODY" = true ∧
      ∃ root, p.root = some root ∧ root ∈ p.lineage body := by
  cases hroot : p.root with
  | none => simp [body?, hroot] at hb
  | some root =>
      by_cases hlt : root < p.size
      · rw [h.body?_eq hroot hlt] at hb
        have hmem := List.mem_of_find?_eq_some hb
        have htag := List.find?_some hb
        have hbody := h.lt_of_mem_ids_tree hlt hmem
        rw [h.mem_ids_tree hlt] at hmem
        exact ⟨hbody, htag, root, rfl, hmem⟩
      · rw [body?_of_le hroot (Nat.not_lt.1 hlt)] at hb
        cases hb

/-- There is no body just when no BODY element stands at or under the root. -/
theorem WellFormed.body?_eq_none_iff (h : p.WellFormed) :
    p.body? = none ↔
      ∀ root, p.root = some root → ∀ y, root ∈ p.lineage y → (p.node y).hasTag "BODY" = false := by
  cases hroot : p.root with
  | none => simp [body?, hroot]
  | some root =>
      by_cases hlt : root < p.size
      · rw [h.body?_eq hroot hlt, List.find?_eq_none]
        constructor
        · rintro hnone _ ⟨⟩ y hy
          exact Bool.eq_false_iff.2 (hnone y ((h.mem_ids_tree hlt).2 hy))
        · intro hnone y hy
          rw [hnone root rfl y ((h.mem_ids_tree hlt).1 hy)]
          exact Bool.false_ne_true
      · -- nothing stands under a root that does not exist
        have hle := Nat.not_lt.1 hlt
        refine iff_of_true (body?_of_le hroot hle) ?_
        rintro _ ⟨⟩ y hy
        rw [h.eq_of_mem_lineage_of_nil (children_of_le hle) hy, node_of_le hle]
        decide +kernel

end PhraseMark.Page
