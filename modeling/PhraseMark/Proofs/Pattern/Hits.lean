import PhraseMark.Pattern.Regex

/-!
# Hits lie in the text

A search only moves forward: a thread stays between the place where the search began and the end
of the text, and the search for the next hit begins where the last one ended. So the hits of a
pattern lie in the text, in order and apart, whatever its program is.
-/

namespace PhraseMark.Pattern

namespace Program

variable {p : Program} {text : Array Char} {start more fuel stop : Nat} {lastStop : Option Nat}
  {tried : Std.HashSet Nat} {s : Span}

def Within (text : Array Char) (start : Nat) (ts : List Thread) : Prop :=
  ∀ t ∈ ts, start ≤ t.place ∧ t.place ≤ text.size

theorem within_follow {t : Thread} (hstart : start ≤ t.place) (hstop : t.place ≤ text.size) :
    Within text start (p.follow text t) := by
  intro u hu
  unfold follow at hu
  split at hu
  · cases hu
  · cases hu
  · split at hu
    · rename_i c hc
      have hlt := (Array.getElem?_eq_some_iff.1 hc).1
      obtain ⟨-, hu⟩ := List.mem_ite_nil_right.1 hu
      rw [List.mem_singleton] at hu
      subst hu
      exact ⟨Nat.le_succ_of_le hstart, hlt⟩
    · cases hu
  · obtain ⟨-, hu⟩ := List.mem_ite_nil_right.1 hu
    rw [List.mem_singleton] at hu
    subst hu
    exact ⟨hstart, hstop⟩
  · rcases List.mem_cons.1 hu with rfl | hu
    · exact ⟨hstart, hstop⟩
    · rw [List.mem_singleton] at hu
      subst hu
      exact ⟨hstart, hstop⟩

theorem explore_bounds {ts : List Thread} (hts : Within text start ts)
    (h : (p.explore text fuel ts tried).1 = some stop) : start ≤ stop ∧ stop ≤ text.size := by
  induction fuel generalizing ts tried with
  | zero => cases h
  | succ fuel ih =>
      cases ts with
      | nil => cases h
      | cons t ts =>
          obtain ⟨hstart, hstop⟩ := hts t List.mem_cons_self
          have hrest : Within text start ts := fun u hu => hts u (List.mem_cons_of_mem t hu)
          unfold explore at h
          split at h
          · cases h
            exact ⟨hstart, hstop⟩
          · split at h
            · exact ih hrest h
            · apply ih ?_ h
              intro u hu
              rcases List.mem_append.1 hu with hu | hu
              · exact within_follow hstart hstop u hu
              · exact hrest u hu

theorem findAt_bounds (hmore : start + more ≤ text.size + 1)
    (h : p.findAt text start more tried = some s) :
    start ≤ s.start ∧ s.start ≤ s.stop ∧ s.stop ≤ text.size := by
  induction more generalizing start tried with
  | zero => cases h
  | succ more ih =>
      unfold findAt at h
      split at h
      · rename_i stop tried' hexplore
        cases h
        have hts : Within text start [⟨p.start, start⟩] := by
          intro t ht
          rw [List.mem_singleton] at ht
          subst ht
          have hle : start ≤ text.size := by omega
          exact ⟨Nat.le_refl start, hle⟩
        have hbounds := explore_bounds hts (congrArg Prod.fst hexplore)
        exact ⟨Nat.le_refl start, hbounds⟩
      · have hrest := ih (by omega) h
        omega

theorem find?_bounds (h : p.find? text start = some s) :
    start ≤ s.start ∧ s.start ≤ s.stop ∧ s.stop ≤ text.size := by
  by_cases hstart : start ≤ text.size
  · apply findAt_bounds ?_ h
    omega
  · have hnone : text.size + 1 - start = 0 := by omega
    rw [find?, hnone] at h
    cases h

/-- A search for all hits ends, or takes a hit and goes on where that hit ends. -/
theorem spansFrom_cases (p : Program) (text : Array Char) (fuel start : Nat)
    (lastStop : Option Nat) :
    p.spansFrom text (fuel + 1) start lastStop = [] ∨
      ∃ s, (start ≤ s.start ∧ s.start ≤ s.stop ∧ s.stop ≤ text.size) ∧
        p.spansFrom text (fuel + 1) start lastStop =
          s :: p.spansFrom text fuel s.stop (some s.stop) := by
  rw [spansFrom]
  split
  · exact .inl rfl
  · rename_i s hs
    split
    · split
      · exact .inl rfl
      · rename_i s' hs'
        obtain ⟨hstart, hbounds⟩ := find?_bounds hs'
        exact .inr ⟨s', ⟨Nat.le_of_succ_le hstart, hbounds⟩, rfl⟩
    · exact .inr ⟨s, find?_bounds hs, rfl⟩

theorem spansFrom_bounds (hs : s ∈ p.spansFrom text fuel start lastStop) :
    start ≤ s.start ∧ s.start ≤ s.stop ∧ s.stop ≤ text.size := by
  induction fuel generalizing start lastStop with
  | zero => cases hs
  | succ fuel ih =>
      rcases p.spansFrom_cases text fuel start lastStop with hnil | ⟨t, ht, hcons⟩
      · rw [hnil] at hs
        cases hs
      · rw [hcons] at hs
        rcases List.mem_cons.1 hs with rfl | hs
        · exact ht
        · have hrest := ih hs
          omega

theorem pairwise_spansFrom (p : Program) (text : Array Char) (fuel start : Nat)
    (lastStop : Option Nat) :
    (p.spansFrom text fuel start lastStop).Pairwise (fun s t => s.stop ≤ t.start) := by
  induction fuel generalizing start lastStop with
  | zero => exact .nil
  | succ fuel ih =>
      rcases p.spansFrom_cases text fuel start lastStop with hnil | ⟨t, -, hcons⟩
      · rw [hnil]
        exact .nil
      · rw [hcons]
        exact .cons (fun u hu => (spansFrom_bounds hu).1) (ih t.stop (some t.stop))

end Program

namespace Regex

variable {r : Regex} {text : String} {s : Span}

theorem spans_bounds (hs : s ∈ r.spans text) :
    s.start ≤ s.stop ∧ s.stop ≤ text.toList.length :=
  (Program.spansFrom_bounds hs).2

theorem pairwise_spans (r : Regex) (text : String) :
    (r.spans text).Pairwise (fun s t => s.stop ≤ t.start) :=
  r.program.pairwise_spansFrom _ _ _ _

end Regex

end PhraseMark.Pattern
