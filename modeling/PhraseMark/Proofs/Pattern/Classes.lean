import Mathlib.Algebra.Ring.Nat
import PhraseMark.Pattern.CharSet
import PhraseMark.Proofs.Text.Folding

/-!
# Classes of characters

Putting ranges in order and together changes neither the code points that they cover nor makes
them more. So the set of a list of characters holds these characters and covers no more code
points than there are characters in the list.
-/

namespace PhraseMark.Pattern.CharSet

variable {c d : Char} {n : Nat} {rs ts : List (Nat × Nat)} {cs : List Char}

/-- A code point is in one of the ranges. -/
def Covers (rs : List (Nat × Nat)) (n : Nat) : Prop := ∃ r ∈ rs, r.1 ≤ n ∧ n ≤ r.2

theorem covers_cons {r : Nat × Nat} :
    Covers (r :: rs) n ↔ (r.1 ≤ n ∧ n ≤ r.2) ∨ Covers rs n := by
  simp [Covers]

theorem contains_iff {s : CharSet} : s.contains c = true ↔ Covers s.ranges c.toNat := by
  simp [contains, Covers]

/-- The number of code points in the ranges, each counted as often as a range holds it. -/
def width (rs : List (Nat × Nat)) : Nat := (rs.map (fun r => r.2 + 1 - r.1)).sum

@[simp] theorem width_nil : width [] = 0 := rfl

@[simp] theorem width_cons (r : Nat × Nat) (rs : List (Nat × Nat)) :
    width (r :: rs) = (r.2 + 1 - r.1) + width rs := by
  simp [width]

/-- The ranges are in order of their beginnings. -/
def InOrder (rs : List (Nat × Nat)) : Prop := rs.Pairwise (fun r t => r.1 ≤ t.1)

theorem covers_merge (h : InOrder rs) : Covers (merge rs) n ↔ Covers rs n := by
  fun_induction merge rs with
  | case1 => exact Iff.rfl
  | case2 r => exact Iff.rfl
  | case3 a b c d rest hcb ih =>
      obtain ⟨hfirst, htail⟩ := List.pairwise_cons.1 h
      have hac : a ≤ c := hfirst (c, d) List.mem_cons_self
      have horder : InOrder ((a, max b d) :: rest) :=
        .cons (fun t ht => hfirst t (List.mem_cons_of_mem _ ht)) htail.of_cons
      rw [ih horder, covers_cons, covers_cons, covers_cons, ← or_assoc]
      apply or_congr_left
      simp only
      omega
  | case4 a b c d rest hcb ih =>
      rw [covers_cons, ih h.of_cons, covers_cons (r := (a, b))]

theorem width_merge_le (rs : List (Nat × Nat)) : width (merge rs) ≤ width rs := by
  fun_induction merge rs with
  | case1 => exact Nat.le_refl _
  | case2 r => exact Nat.le_refl _
  | case3 a b c d rest hcb ih =>
      simp only [width_cons] at ih ⊢
      omega
  | case4 a b c d rest hcb ih =>
      rw [width_cons, width_cons (a, b)]
      exact Nat.add_le_add_left ih _

theorem length_merge_le (rs : List (Nat × Nat)) : (merge rs).length ≤ rs.length := by
  fun_induction merge rs with
  | case1 => exact Nat.le_refl _
  | case2 r => exact Nat.le_refl _
  | case3 a b c d rest hcb ih =>
      simp only [List.length_cons] at ih ⊢
      omega
  | case4 a b c d rest hcb ih =>
      simp only [List.length_cons] at ih ⊢
      omega

/-! ## Lists of characters as sets -/

def points (cs : List Char) : List (Nat × Nat) := cs.map (fun c => (c.toNat, c.toNat))

theorem ranges_ofChars (cs : List Char) :
    (ofChars cs).ranges = merge ((points cs).mergeSort (fun r t => r.1 ≤ t.1)) := rfl

theorem contains_ofChars : (ofChars cs).contains d = true ↔ d ∈ cs := by
  have horder : InOrder ((points cs).mergeSort (fun r t => r.1 ≤ t.1)) := by
    refine (List.pairwise_mergeSort ?_ ?_ _).imp (fun h => by simpa using h)
    · intro r s t hrs hst
      simp only [decide_eq_true_eq] at hrs hst ⊢
      omega
    · intro r s
      simp only [Bool.or_eq_true, decide_eq_true_eq]
      omega
  rw [contains_iff, ranges_ofChars, covers_merge horder]
  simp only [Covers, List.mem_mergeSort, points, List.mem_map]
  constructor
  · rintro ⟨_, ⟨c, hc, rfl⟩, hle, hge⟩
    rwa [← Char.toNat_inj.1 (Nat.le_antisymm hle hge)]
  · intro hd
    exact ⟨_, ⟨d, hd, rfl⟩, Nat.le_refl _, Nat.le_refl _⟩

theorem width_ofChars_le (cs : List Char) : width (ofChars cs).ranges ≤ cs.length := by
  have hperm := List.mergeSort_perm (points cs) (fun r t => r.1 ≤ t.1)
  have hwidth : width (points cs) = cs.length := by
    simp [width, points, Function.comp_def]
  rw [ranges_ofChars, ← hwidth]
  refine (width_merge_le _).trans ?_
  rw [width, (hperm.map _).sum_nat]
  exact Nat.le_refl _

theorem length_ofChars_le (cs : List Char) : (ofChars cs).ranges.length ≤ cs.length := by
  rw [ranges_ofChars]
  refine (length_merge_le _).trans ?_
  simp [points]

/-- The set of a character holds what has its folding. -/
theorem contains_folded : (folded c).contains d = true ↔ Text.simpleFold d = Text.simpleFold c :=
  contains_ofChars.trans Text.mem_foldClass_iff

theorem width_folded_le (c : Char) : width (folded c).ranges ≤ 114 :=
  (width_ofChars_le _).trans (Text.length_foldClass_le c)

theorem length_folded_le (c : Char) : (folded c).ranges.length ≤ 114 :=
  (length_ofChars_le _).trans (Text.length_foldClass_le c)

end PhraseMark.Pattern.CharSet
