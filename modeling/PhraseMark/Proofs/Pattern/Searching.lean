import Mathlib.Data.List.Nodup
import Mathlib.Data.List.Range
import PhraseMark.Proofs.Pattern.Hits

/-!
# What a search finds

A thread accepts when a way through the program leads from it to an accepting state. A search
keeps the threads that it has tried and that did not accept; what follows them has been tried too
or is still to be tried. So a search that ends without a hit has looked at every way, and the hit
that is found begins at the first place of the text from which a way leads to the end.
-/

namespace PhraseMark.Pattern

/-- The states that a state names are below a bound. -/
def State.LeadsBelow (bound : Nat) : State → Prop
  | .accept => True
  | .take _ next => next < bound
  | .check _ next => next < bound
  | .split first second => first < bound ∧ second < bound

namespace Program

variable {p : Program} {text : Array Char} {t u : Thread} {ts : List Thread}
  {tried : Std.HashSet Nat} {fuel start stop more : Nat}

/-- Every state that is named exists. -/
structure Closed (p : Program) : Prop where
  start_lt : p.start < p.states.size
  leadsBelow : ∀ (i : Nat) (s : State), p.states[i]? = some s → s.LeadsBelow p.states.size

/-- From a thread a way leads to an accepting state at the place `stop`. -/
inductive Accepts (p : Program) (text : Array Char) : Thread → Nat → Prop
  | here {t : Thread} : p.isAccept t = true → Accepts p text t t.place
  | step {t u : Thread} {stop : Nat} :
      u ∈ p.follow text t → Accepts p text u stop → Accepts p text t stop

/-- A thread at an existing state and a place of the text. -/
def Proper (p : Program) (text : Array Char) (t : Thread) : Prop :=
  t.state < p.states.size ∧ t.place ≤ text.size

theorem Closed.proper_follow (hp : p.Closed) (ht : p.Proper text t) (hu : u ∈ p.follow text t) :
    p.Proper text u := by
  refine ⟨?_, (within_follow (Nat.le_refl _) ht.2 u hu).2⟩
  unfold follow at hu
  split at hu
  · cases hu
  · cases hu
  · rename_i s next hstate
    split at hu
    · obtain ⟨-, hu⟩ := List.mem_ite_nil_right.1 hu
      rw [List.mem_singleton.1 hu]
      exact hp.leadsBelow _ _ hstate
    · cases hu
  · rename_i l next hstate
    obtain ⟨-, hu⟩ := List.mem_ite_nil_right.1 hu
    rw [List.mem_singleton.1 hu]
    exact hp.leadsBelow _ _ hstate
  · rename_i first second hstate
    obtain ⟨hfirst, hsecond⟩ := hp.leadsBelow _ _ hstate
    simp only [List.mem_cons, List.not_mem_nil, or_false] at hu
    rcases hu with rfl | rfl
    · exact hfirst
    · exact hsecond

theorem length_follow_le (p : Program) (text : Array Char) (t : Thread) :
    (p.follow text t).length ≤ 2 := by
  have hone : ∀ (b : Prop) [Decidable b] (u : Thread), (if b then [u] else []).length ≤ 2 := by
    intro b _ u
    split <;> simp
  unfold follow
  split
  · exact Nat.zero_le 2
  · exact Nat.zero_le 2
  · split
    · exact hone _ _
    · exact Nat.zero_le 2
  · exact hone _ _
  · exact Nat.le_refl 2

/-- Proper threads are told apart by their keys. -/
theorem eq_of_key_eq (ht : p.Proper text t) (hu : p.Proper text u) (h : p.key t = p.key u) :
    t = u := by
  have hpos : 0 < p.states.size := Nat.zero_lt_of_lt ht.1
  have hstate : ∀ {v : Thread}, v.state < p.states.size → p.key v % p.states.size = v.state := by
    intro v hv
    rw [key, Nat.mul_comm, Nat.mul_add_mod, Nat.mod_eq_of_lt hv]
  have hplace : ∀ {v : Thread}, v.state < p.states.size → p.key v / p.states.size = v.place := by
    intro v hv
    rw [key, Nat.mul_comm, Nat.mul_add_div hpos, Nat.div_eq_of_lt hv, Nat.add_zero]
  have hs : t.state = u.state := by rw [← hstate ht.1, h, hstate hu.1]
  have hl : t.place = u.place := by rw [← hplace ht.1, h, hplace hu.1]
  cases t
  cases u
  simp_all

/-- No key of a proper thread reaches this bound. -/
def keyBound (p : Program) (text : Array Char) : Nat := (text.size + 1) * p.states.size

theorem key_lt (ht : p.Proper text t) : p.key t < p.keyBound text := by
  have hle : t.place * p.states.size ≤ text.size * p.states.size :=
    Nat.mul_le_mul_right _ ht.2
  have hlt := ht.1
  rw [key, keyBound, Nat.succ_mul]
  omega

/-! ## The threads that have been tried -/

/-- What a search knows: no tried thread accepts, and what follows one of them has been tried as
well or is on the stack. -/
structure Knows (p : Program) (text : Array Char) (tried : Std.HashSet Nat) (ts : List Thread) :
    Prop where
  proper : ∀ t ∈ ts, p.Proper text t
  bounded : ∀ k ∈ tried, k < p.keyBound text
  quiet : ∀ t, p.Proper text t → p.key t ∈ tried → p.isAccept t = false
  closed : ∀ t, p.Proper text t → p.key t ∈ tried → ∀ u ∈ p.follow text t,
    p.key u ∈ tried ∨ u ∈ ts

namespace Knows

theorem empty (p : Program) (text : Array Char) : p.Knows text {} [] where
  proper := fun _ h => absurd h List.not_mem_nil
  bounded := fun _ h => absurd h Std.HashSet.not_mem_empty
  quiet := fun _ _ h => absurd h Std.HashSet.not_mem_empty
  closed := fun _ _ h => absurd h Std.HashSet.not_mem_empty

theorem push (h : p.Knows text tried []) (ht : p.Proper text t) : p.Knows text tried [t] where
  proper := fun _ hu => List.mem_singleton.1 hu ▸ ht
  bounded := h.bounded
  quiet := h.quiet
  closed := fun v hv hmem u hu => .inl ((h.closed v hv hmem u hu).resolve_right List.not_mem_nil)

theorem skip (h : p.Knows text tried (t :: ts)) (ht : p.key t ∈ tried) : p.Knows text tried ts where
  proper := fun u hu => h.proper u (List.mem_cons_of_mem t hu)
  bounded := h.bounded
  quiet := h.quiet
  closed := by
    intro v hv hmem u hu
    rcases h.closed v hv hmem u hu with htried | hstack
    · exact .inl htried
    · rcases List.mem_cons.1 hstack with rfl | hstack
      · exact .inl ht
      · exact .inr hstack

theorem visit (h : p.Knows text tried (t :: ts)) (hp : p.Closed) (ht : p.isAccept t = false) :
    p.Knows text (tried.insert (p.key t)) (p.follow text t ++ ts) := by
  have hproper := h.proper t List.mem_cons_self
  have hmem : ∀ {v : Thread}, p.Proper text v → p.key v ∈ tried.insert (p.key t) →
      v = t ∨ p.key v ∈ tried := by
    intro v hv hin
    rcases Std.HashSet.mem_insert.1 hin with heq | hin
    · exact .inl (eq_of_key_eq hv hproper (beq_iff_eq.1 heq).symm)
    · exact .inr hin
  refine ⟨?_, ?_, ?_, ?_⟩
  · intro u hu
    rcases List.mem_append.1 hu with hu | hu
    · exact hp.proper_follow hproper hu
    · exact h.proper u (List.mem_cons_of_mem t hu)
  · intro k hk
    rcases Std.HashSet.mem_insert.1 hk with heq | hk
    · rw [← beq_iff_eq.1 heq]
      exact key_lt hproper
    · exact h.bounded k hk
  · intro v hv hin
    rcases hmem hv hin with rfl | hin
    · exact ht
    · exact h.quiet v hv hin
  · intro v hv hin u hu
    rcases hmem hv hin with rfl | hin
    · exact .inr (List.mem_append_left _ hu)
    · rcases h.closed v hv hin u hu with htried | hstack
      · exact .inl (Std.HashSet.mem_insert.2 (.inr htried))
      · rcases List.mem_cons.1 hstack with rfl | hstack
        · exact .inl (Std.HashSet.mem_insert.2 (.inl (beq_iff_eq.2 rfl)))
        · exact .inr (List.mem_append_right _ hstack)

/-- With nothing left to try, no way leads from a tried thread to an accepting state. -/
theorem not_accepts (h : p.Knows text tried []) (hp : p.Closed) (ht : p.Proper text t)
    (hmem : p.key t ∈ tried) : ¬ p.Accepts text t stop := by
  intro haccepts
  induction haccepts with
  | here haccept =>
      rw [h.quiet _ ht hmem] at haccept
      cases haccept
  | @step t u stop hu _ ih =>
      have hnext := (h.closed t ht hmem u hu).resolve_right List.not_mem_nil
      exact ih (hp.proper_follow ht hu) hnext

theorem size_le (h : p.Knows text tried ts) : tried.size ≤ p.keyBound text := by
  have hnodup : tried.toList.Nodup := by
    refine Std.HashSet.distinct_toList.imp ?_
    intro a b hab
    exact beq_eq_false_iff_ne.1 hab
  have hsub : tried.toList ⊆ List.range (p.keyBound text) :=
    fun k hk => List.mem_range.2 (h.bounded k (Std.HashSet.mem_toList.1 hk))
  have hlen := hnodup.length_le_of_subset hsub
  rwa [List.length_range, Std.HashSet.length_toList] at hlen

end Knows

/-! ## One search -/

/-- A search through a stack has ended in vain and has tried all of its threads. -/
structure Exhausts (p : Program) (text : Array Char) (tried : Std.HashSet Nat) (ts : List Thread)
    (outcome : Option Nat × Std.HashSet Nat) : Prop where
  fst_eq : outcome.1 = none
  knows : p.Knows text outcome.2 []
  kept : ∀ k, k ∈ tried ∨ k ∈ ts.map p.key → k ∈ outcome.2

theorem Exhausts.mono {tried' : Std.HashSet Nat} {us : List Thread}
    {outcome : Option Nat × Std.HashSet Nat} (h : p.Exhausts text tried' us outcome)
    (hsub : ∀ k, k ∈ tried ∨ k ∈ ts.map p.key → k ∈ tried' ∨ k ∈ us.map p.key) :
    p.Exhausts text tried ts outcome :=
  ⟨h.fst_eq, h.knows, fun k hk => h.kept k (hsub k hk)⟩

/-- With steps enough, a search through a stack finds where one of its threads accepts, or tries
all of them in vain. -/
theorem explore_cases (hp : p.Closed) (h : p.Knows text tried ts)
    (hfuel : 2 * (p.keyBound text - tried.size) + ts.length < fuel) :
    (∃ stop, (p.explore text fuel ts tried).1 = some stop ∧ ∃ t ∈ ts, p.Accepts text t stop) ∨
      p.Exhausts text tried ts (p.explore text fuel ts tried) := by
  induction fuel generalizing ts tried with
  | zero => exact absurd hfuel (Nat.not_lt_zero _)
  | succ fuel ih =>
      cases ts with
      | nil => exact .inr ⟨rfl, h, by simp [explore]⟩
      | cons t ts =>
          rw [List.length_cons] at hfuel
          unfold explore
          split
          · rename_i haccept
            exact .inl ⟨t.place, rfl, t, List.mem_cons_self, .here haccept⟩
          · rename_i haccept
            split
            · rename_i hmem
              rcases ih (h.skip hmem) (by omega) with ⟨stop, hstop, u, hu, hway⟩ | hdone
              · exact .inl ⟨stop, hstop, u, List.mem_cons_of_mem t hu, hway⟩
              · refine .inr (hdone.mono (fun k hk => ?_))
                rw [List.map_cons, List.mem_cons] at hk
                rcases hk with hk | rfl | hk
                · exact .inl hk
                · exact .inl hmem
                · exact .inr hk
            · rename_i hmem
              have hvisit := h.visit hp (Bool.eq_false_iff.2 haccept)
              have hsize : (tried.insert (p.key t)).size = tried.size + 1 := by
                rw [Std.HashSet.size_insert, if_neg (mt Std.HashSet.mem_iff_contains.1 hmem)]
              have hbound := hvisit.size_le
              have hlen := p.length_follow_le text t
              have hsteps : 2 * (p.keyBound text - (tried.insert (p.key t)).size) +
                  (p.follow text t ++ ts).length < fuel := by
                rw [List.length_append]
                omega
              rcases ih hvisit hsteps with ⟨stop, hstop, u, hu, hway⟩ | hdone
              · refine .inl ⟨stop, hstop, ?_⟩
                rcases List.mem_append.1 hu with hu | hu
                · exact ⟨t, List.mem_cons_self, .step hu hway⟩
                · exact ⟨u, List.mem_cons_of_mem t hu, hway⟩
              · refine .inr (hdone.mono (fun k hk => ?_))
                rw [List.map_cons, List.mem_cons] at hk
                rcases hk with hk | rfl | hk
                · exact .inl (Std.HashSet.mem_insert.2 (.inr hk))
                · exact .inl (Std.HashSet.mem_insert.2 (.inl (beq_iff_eq.2 rfl)))
                · refine .inr ?_
                  rw [List.map_append]
                  exact List.mem_append_right _ hk

/-- A match begins at the place `i` if a way leads from the first state there to the end. -/
def MatchesAt (p : Program) (text : Array Char) (i : Nat) : Prop :=
  ∃ stop, p.Accepts text ⟨p.start, i⟩ stop

theorem findAt_cases (hp : p.Closed) (h : p.Knows text tried [])
    (hmore : start + more ≤ text.size + 1) :
    (∃ s, p.findAt text start more tried = some s ∧ p.Accepts text ⟨p.start, s.start⟩ s.stop ∧
        start ≤ s.start ∧ s.start < start + more ∧
          ∀ i, start ≤ i → i < s.start → ¬ p.MatchesAt text i) ∨
      (p.findAt text start more tried = none ∧
        ∀ i, start ≤ i → i < start + more → ¬ p.MatchesAt text i) := by
  induction more generalizing start tried with
  | zero => exact .inr ⟨rfl, fun i hle hlt => by omega⟩
  | succ more ih =>
      have hproper : p.Proper text ⟨p.start, start⟩ := ⟨hp.start_lt, by simp only; omega⟩
      have hsteps : 2 * (p.keyBound text - tried.size) + [(⟨p.start, start⟩ : Thread)].length <
          p.stepLimit text := by
        have hlimit : 2 * p.keyBound text < p.stepLimit text - 1 := by
          rw [keyBound, stepLimit]
          grind
        rw [List.length_singleton]
        omega
      unfold findAt
      rcases explore_cases hp (h.push hproper) hsteps with ⟨stop, hstop, t, ht, hway⟩ |
        ⟨hnone, hknows, hkept⟩
      · rw [List.mem_singleton] at ht
        subst ht
        split
        · rename_i stop' tried' heq
          rw [heq] at hstop
          cases hstop
          exact .inl ⟨⟨start, stop⟩, rfl, hway, Nat.le_refl _, by simp,
            fun i hle hlt => absurd hle (Nat.not_le.2 hlt)⟩
        · rename_i heq
          rw [heq] at hstop
          cases hstop
      · have hfirst : ¬ p.MatchesAt text start := by
          rintro ⟨stop, hway⟩
          exact hknows.not_accepts hp hproper (hkept _ (.inr (by simp))) hway
        have hskip : ∀ {i}, start ≤ i → (start + 1 ≤ i → ¬ p.MatchesAt text i) →
            ¬ p.MatchesAt text i := by
          intro i hle hlater
          rcases Nat.eq_or_lt_of_le hle with rfl | hlt
          · exact hfirst
          · exact hlater hlt
        split
        · rename_i stop' tried' heq
          rw [heq] at hnone
          cases hnone
        · rename_i tried' heq
          rw [heq] at hknows
          have hrest : start + 1 + more ≤ text.size + 1 := by omega
          rcases ih hknows hrest with ⟨s, hs, hway, hle, hlt, hbefore⟩ | ⟨hs, hbefore⟩
          · refine .inl ⟨s, hs, hway, by omega, by omega, ?_⟩
            intro i hi his
            exact hskip hi (fun hnext => hbefore i hnext his)
          · refine .inr ⟨hs, ?_⟩
            intro i hi his
            exact hskip hi (fun hnext => hbefore i hnext (by omega))

/-- A search from a place finds the first place from there on at which a match begins, and finds
nothing only if there is none. -/
theorem find?_cases (hp : p.Closed) (text : Array Char) (start : Nat) :
    (∃ s, p.find? text start = some s ∧ p.Accepts text ⟨p.start, s.start⟩ s.stop ∧
        start ≤ s.start ∧ ∀ i, start ≤ i → i < s.start → ¬ p.MatchesAt text i) ∨
      (p.find? text start = none ∧
        ∀ i, start ≤ i → i ≤ text.size → ¬ p.MatchesAt text i) := by
  by_cases hstart : start ≤ text.size
  · have hmore : start + (text.size + 1 - start) ≤ text.size + 1 := by omega
    rcases findAt_cases hp (.empty p text) hmore with ⟨s, hs, hway, hle, -, hbefore⟩ |
      ⟨hs, hbefore⟩
    · exact .inl ⟨s, hs, hway, hle, hbefore⟩
    · exact .inr ⟨hs, fun i hi hle => hbefore i hi (by omega)⟩
  · have hnone : text.size + 1 - start = 0 := by omega
    refine .inr ⟨?_, fun i hi hle => absurd (Nat.le_trans hi hle) hstart⟩
    rw [find?, hnone]
    rfl

/-- A text is matched just if a match begins at one of its places. -/
theorem Closed.isMatch_iff (hp : p.Closed) (text : Array Char) :
    p.isMatch text = true ↔ ∃ i ≤ text.size, p.MatchesAt text i := by
  rw [isMatch]
  rcases find?_cases hp text 0 with ⟨s, hs, hway, -, -⟩ | ⟨hs, hnone⟩
  · have hbounds := find?_bounds hs
    have hle : s.start ≤ text.size := by omega
    simp only [hs, Option.isSome_some, true_iff]
    exact ⟨s.start, hle, s.stop, hway⟩
  · simp only [hs, Option.isSome_none, Bool.false_eq_true, false_iff, not_exists, not_and]
    intro i hi
    exact hnone i (Nat.zero_le i) hi

end Program

end PhraseMark.Pattern
