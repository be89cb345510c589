import Mathlib.Data.List.Infix
import PhraseMark.Text.Case

/-!
# Characters under case folding

The images of a run are characters again, so the class of a character holds the characters with
its folding and no others. It is small: the runs that reach a code point stand on one side of
U+0400.
-/

namespace PhraseMark.Text

variable {c d : Char} {m n : Nat} {r : CaseRun} {runs : List CaseRun}

namespace CaseRun

/-- The last image of a run. -/
def top (r : CaseRun) : Nat := r.target + (r.last - r.first)

/-- All images are code points of characters. -/
def Proper (r : CaseRun) : Prop := r.top < 0xD800 ∨ 0xDFFF < r.target ∧ r.top < 0x110000

instance : DecidablePred Proper := fun _ => inferInstanceAs (Decidable (_ ∨ _))

theorem image?_bounds (h : r.image? n = some m) : r.target ≤ m ∧ m ≤ r.top := by
  unfold image? at h
  split at h
  · cases h
    rw [top]
    omega
  · cases h

theorem Proper.isValidChar (hr : r.Proper) (h : r.image? n = some m) : m.isValidChar := by
  have hm := image?_bounds h
  rcases hr with hlow | hhigh
  · exact .inl (by omega)
  · exact .inr (by omega)

end CaseRun

/-- A character is mapped by a run of the table, or stands for itself. -/
theorem mapRuns_cases (hruns : ∀ r ∈ runs, r.Proper) (c : Char) :
    (∃ r ∈ runs, r.image? c.toNat = some (mapRuns runs c).toNat) ∨ mapRuns runs c = c := by
  unfold mapRuns
  split
  · rename_i n hn
    obtain ⟨r, hr, himage⟩ := List.exists_of_findSome?_eq_some hn
    refine .inl ⟨r, hr, ?_⟩
    rw [Char.ofNat, dif_pos ((hruns r hr).isValidChar himage)]
    exact himage
  · exact .inr rfl

theorem proper_foldRuns : ∀ r ∈ foldRuns, r.Proper := by
  decide +kernel

theorem mem_foldClass_iff : d ∈ foldClass c ↔ simpleFold d = simpleFold c := by
  refine ⟨simpleFold_of_mem_foldClass, fun h => ?_⟩
  simp only [foldClass, List.mem_filter, beq_iff_eq, List.mem_cons, List.mem_map]
  refine ⟨?_, h⟩
  rcases mapRuns_cases proper_foldRuns d with ⟨r, hr, himage⟩ | hself
  · rw [show mapRuns foldRuns d = simpleFold c from h] at himage
    have hsource := CaseRun.image?_eq_some_iff_source?.1 himage
    exact .inr ⟨d.toNat, List.mem_filterMap.2 ⟨r, hr, hsource⟩, Char.ofNat_toNat d⟩
  · exact .inl (hself.symm.trans h)

/-! ## The size of a class -/

theorem countP_foldRuns_le :
    foldRuns.countP (fun r => decide (r.target < 0x400)) ≤ 113 ∧
      foldRuns.countP (fun r => decide (0x400 ≤ r.top)) ≤ 113 := by
  decide +kernel

theorem length_sources_le (m : Nat) : (foldRuns.filterMap (·.source? m)).length ≤ 113 := by
  have hbounds : ∀ r : CaseRun, (r.source? m).isSome = true → r.target ≤ m ∧ m ≤ r.top := by
    intro r h
    obtain ⟨n, hn⟩ := Option.isSome_iff_exists.1 h
    exact CaseRun.image?_bounds (CaseRun.image?_eq_some_iff_source?.2 hn)
  rw [List.length_filterMap_eq_countP]
  rcases Nat.lt_or_ge m 0x400 with hm | hm
  · refine (List.countP_mono_left fun r _ h => ?_).trans countP_foldRuns_le.1
    have := hbounds r h
    exact decide_eq_true (by omega)
  · refine (List.countP_mono_left fun r _ h => ?_).trans countP_foldRuns_le.2
    have := hbounds r h
    exact decide_eq_true (by omega)

theorem length_foldClass_le (c : Char) : (foldClass c).length ≤ 114 := by
  have hsources := length_sources_le (simpleFold c).toNat
  refine (List.length_filter_le _ _).trans ?_
  rw [List.length_cons, List.length_map]
  omega

/-! ## Occurrences -/

/-- The characters of one text stand somewhere in another one, if case is folded. -/
def Occurs (keyword text : String) : Prop :=
  keyword.toList.map simpleFold <:+: text.toList.map simpleFold

instance (keyword text : String) : Decidable (Occurs keyword text) :=
  inferInstanceAs (Decidable (_ <:+: _))

end PhraseMark.Text
