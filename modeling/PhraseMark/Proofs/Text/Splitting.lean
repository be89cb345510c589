import Mathlib.Algebra.BigOperators.Group.List.Basic
import Mathlib.Algebra.Ring.Nat
import Mathlib.Data.List.TakeWhile
import PhraseMark.Text.Blank

/-!
# Lists that are cut into parts

A list that is cut at some of its members loses these members and no others. A text that is trimmed
loses what has been put around it.
-/

namespace PhraseMark

variable {α : Type} {test : α → Bool} {xs part : List α}

/-- A part holds members of the list, and none of those it is cut at. -/
theorem forall_mem_part (h : part ∈ xs.splitOnP test) : ∀ c ∈ part, test c = false ∧ c ∈ xs := by
  induction xs generalizing part with
  | nil =>
      rw [List.splitOnP_nil, List.mem_singleton] at h
      subst h
      exact fun c hc => absurd hc List.not_mem_nil
  | cons x xs ih =>
      rw [List.splitOnP_cons_eq_if_modifyHead] at h
      obtain ⟨first, parts, hparts⟩ := List.exists_cons_of_ne_nil (List.splitOnP_ne_nil test xs)
      have hlater : ∀ part ∈ xs.splitOnP test, ∀ c ∈ part, test c = false ∧ c ∈ x :: xs :=
        fun part hpart c hc => (ih hpart c hc).imp_right (List.mem_cons_of_mem x)
      intro c hc
      split at h
      · rcases List.mem_cons.1 h with rfl | h
        · exact absurd hc List.not_mem_nil
        · exact hlater part h c hc
      · rename_i hx
        rw [hparts, List.modifyHead_cons] at h
        rcases List.mem_cons.1 h with rfl | h
        · rcases List.mem_cons.1 hc with rfl | hc
          · exact ⟨Bool.eq_false_iff.2 hx, List.mem_cons_self⟩
          · exact hlater first (hparts ▸ List.mem_cons_self) c hc
        · exact hlater part (hparts ▸ List.mem_cons_of_mem first h) c hc

theorem sum_length_splitOnP (test : α → Bool) (xs : List α) :
    ((xs.splitOnP test).map List.length).sum = xs.countP (! test ·) := by
  induction xs with
  | nil => rw [List.splitOnP_nil, List.countP_nil]; rfl
  | cons x xs ih =>
      rw [List.splitOnP_cons_eq_if_modifyHead, List.countP_cons]
      obtain ⟨first, parts, hparts⟩ := List.exists_cons_of_ne_nil (List.splitOnP_ne_nil test xs)
      rw [hparts, List.map_cons, List.sum_cons] at ih
      cases hx : test x with
      | true =>
          rw [if_pos rfl, hparts, List.map_cons, List.map_cons, List.sum_cons, List.sum_cons, ih]
          simp
      | false =>
          rw [if_neg Bool.false_ne_true, hparts, List.modifyHead_cons, List.map_cons,
            List.sum_cons, List.length_cons]
          simp only [Bool.not_false, if_true]
          omega

theorem trimList_padded {test : Char → Bool} {before middle after : List Char}
    (hbefore : ∀ c ∈ before, test c = true) (hmiddle : ∀ c ∈ middle, test c = false)
    (hafter : ∀ c ∈ after, test c = true) :
    Text.trimList test (before ++ middle ++ after) = middle := by
  have hkept : ∀ {cs : List Char} (ds : List Char), (∀ c ∈ cs, test c = false) → cs ≠ [] →
      (cs ++ ds).dropWhile test = cs ++ ds := by
    intro cs ds hcs hne
    obtain ⟨c, cs, rfl⟩ := List.exists_cons_of_ne_nil hne
    rw [List.cons_append, List.dropWhile_cons_of_neg (by simp [hcs c List.mem_cons_self])]
  rw [Text.trimList, List.append_assoc, List.dropWhile_append_of_pos hbefore]
  by_cases hnil : middle = []
  · rw [hnil, List.nil_append, List.dropWhile_eq_nil_iff.2 hafter]
    rfl
  · have hreverse : ∀ c ∈ after.reverse, test c = true :=
      fun c hc => hafter c (List.mem_reverse.1 hc)
    have hdrop := hkept [] (fun c hc => hmiddle c (List.mem_reverse.1 hc))
      (by simpa using hnil : middle.reverse ≠ [])
    rw [List.append_nil] at hdrop
    rw [hkept _ hmiddle hnil, List.reverse_append, List.dropWhile_append_of_pos hreverse, hdrop,
      List.reverse_reverse]

theorem trimList_eq_self {test : Char → Bool} {cs : List Char} (h : ∀ c ∈ cs, test c = false) :
    Text.trimList test cs = cs := by
  have hnone : ∀ c ∈ ([] : List Char), test c = true := fun c hc => absurd hc List.not_mem_nil
  have htrim := trimList_padded hnone h hnone
  rwa [List.nil_append, List.append_nil] at htrim

end PhraseMark
