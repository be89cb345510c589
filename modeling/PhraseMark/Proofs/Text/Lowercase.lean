import Mathlib.Data.List.Chain
import PhraseMark.Proofs.Text.Folding

/-!
# Lowercase under case folding

The runs of lowercase are runs of case folding as well, those of Cherokee the other way round.
No image of case folding is mapped again. So the small form of a character folds to what the
character folds to, and a text in small letters folds to what the text folds to, with one exception:
the dotted capital I, which folds to itself, has a small form of two characters.
-/

namespace PhraseMark.Text

deriving instance DecidableEq for CaseRun

variable {c d : Char} {m n : Nat} {r r' : CaseRun} {rs ts : List CaseRun}

namespace CaseRun

theorem of_image? (h : r.image? n = some m) :
    r.first ≤ n ∧ n ≤ r.last ∧ (n - r.first) % r.step = 0 ∧ m = r.target + (n - r.first) := by
  unfold image? at h
  split at h
  · rename_i hn
    cases h
    exact ⟨hn.1, hn.2.1, hn.2.2, rfl⟩
  · cases h

/-- The run the other way round. -/
def swap (r : CaseRun) : CaseRun :=
  { first := r.target, last := r.top, step := r.step, target := r.first }

theorem image?_swap (h : r.image? n = some m) : r.swap.image? m = some n := by
  obtain ⟨hfirst, hlast, hstep, rfl⟩ := of_image? h
  have hback : r.target + (n - r.first) - r.target = n - r.first := Nat.add_sub_cancel_left _ _
  have hle : r.target + (n - r.first) ≤ r.top := (image?_bounds h).2
  simp only [image?, swap, hback, hstep, hle, Nat.le_add_right, and_self, if_true,
    Option.some.injEq]
  omega

/-- The run ends before the other one begins. -/
def Before (r r' : CaseRun) : Prop := r.last < r'.first ∧ r'.first ≤ r'.last

instance : DecidableRel Before := fun _ _ => inferInstanceAs (Decidable (_ ∧ _))

instance : Trans Before Before Before where
  trans h h' := ⟨Nat.lt_trans h.1 (Nat.lt_of_le_of_lt h.2 h'.1), h'.2⟩

/-- No code point is mapped by both runs. -/
def Apart (r r' : CaseRun) : Prop := ∀ n, r.image? n = none ∨ r'.image? n = none

instance : Std.Symm Apart where
  symm _ _ h n := (h n).symm

theorem Before.apart (h : r.Before r') : r.Apart r' := by
  intro n
  rcases Nat.lt_or_ge r.last n with hn | hn
  · refine .inl (if_neg ?_)
    omega
  · have := h.1
    refine .inr (if_neg ?_)
    omega

/-- No image of the run is mapped by the other one: they are apart, or one has the even code
points and the other one the odd ones. -/
def Misses (r r' : CaseRun) : Prop :=
  r.top < r'.first ∨ r'.last < r.target ∨
    ((r.step = 2 ∨ r.first = r.last) ∧ (r'.step = 2 ∨ r'.first = r'.last) ∧
      r.target % 2 ≠ r'.first % 2)

instance : DecidableRel Misses := fun _ _ => inferInstanceAs (Decidable (_ ∨ _))

theorem Misses.image?_eq_none (h : r.Misses r') (hm : r.image? n = some m) :
    r'.image? m = none := by
  obtain ⟨hle, htop⟩ := image?_bounds hm
  obtain ⟨hfirst, hlast, hstep, hm⟩ := of_image? hm
  refine if_neg ?_
  rintro ⟨hfirst', hlast', hstep'⟩
  rcases h with h | h | ⟨hr, hr', hparity⟩
  · omega
  · omega
  · have hsource : m % 2 = r.target % 2 := by
      rcases hr with htwo | hone
      · rw [htwo] at hstep
        omega
      · omega
    have htarget : m % 2 = r'.first % 2 := by
      rcases hr' with htwo | hone
      · rw [htwo] at hstep'
        omega
      · omega
    exact hparity (hsource.symm.trans htarget)

end CaseRun

/-! ## Runs of both tables -/

/-- The runs of case folding stand in order, and none has to do with the dotted capital I. -/
theorem foldRuns_in_order :
    foldRuns.IsChain CaseRun.Before ∧
      ∀ r ∈ foldRuns, r.source? 'İ'.toNat = none ∧ r.image? 'İ'.toNat = none := by
  decide +kernel

def CaseRun.isCherokee (r : CaseRun) : Bool := 0x13A0 ≤ r.first && r.first < 0x1400

/-- The runs of lowercase stand among those of case folding, the ones of Cherokee swapped. -/
theorem lowerRuns_among_foldRuns :
    (∀ r ∈ lowerRuns, r.Proper) ∧ (lowerRuns.filter (! ·.isCherokee)).Sublist foldRuns ∧
      ∀ r ∈ lowerRuns.filter (·.isCherokee), r.swap ∈ foldRuns := by
  decide +kernel

theorem mem_foldRuns_of_mem_lowerRuns (hr : r ∈ lowerRuns) : r ∈ foldRuns ∨ r.swap ∈ foldRuns := by
  obtain ⟨-, hsublist, hswap⟩ := lowerRuns_among_foldRuns
  by_cases hcherokee : r.isCherokee = true
  · exact .inr (hswap r (List.mem_filter.2 ⟨hr, hcherokee⟩))
  · refine .inl (hsublist.subset (List.mem_filter.2 ⟨hr, ?_⟩))
    simpa using hcherokee

/-! ## Runs of case folding -/

theorem pairwise_foldRuns : foldRuns.Pairwise CaseRun.Apart :=
  (List.isChain_iff_pairwise.1 foldRuns_in_order.1).imp CaseRun.Before.apart

/-- The image under any run that maps a character is its folding. -/
theorem simpleFold_of_image? (hr : r ∈ foldRuns) (h : r.image? c.toNat = some d.toNat) :
    simpleFold c = d := by
  have hsome : foldRuns.findSome? (·.image? c.toNat) = some d.toNat := by
    cases hfind : foldRuns.findSome? (·.image? c.toNat) with
    | none =>
        rw [List.findSome?_eq_none_iff.1 hfind r hr] at h
        cases h
    | some m =>
        obtain ⟨r', hr', himage⟩ := List.exists_of_findSome?_eq_some hfind
        by_cases heq : r = r'
        · rw [← himage, ← heq, h]
        · rcases pairwise_foldRuns.forall hr hr' heq c.toNat with hnone | hnone
          · rw [h] at hnone
            cases hnone
          · rw [himage] at hnone
            cases hnone
  rw [simpleFold, mapRuns, hsome]
  exact Char.ofNat_toNat d

theorem simpleFold_of_forall (h : ∀ r ∈ foldRuns, r.image? c.toNat = none) : simpleFold c = c := by
  rw [simpleFold, mapRuns, List.findSome?_eq_none_iff.2 h]

def allMiss (rs ts : List CaseRun) : Bool := rs.all (fun r => ts.all (fun t => decide (r.Misses t)))

/-- No image of a run in the first list is mapped by a run in the second one. This is looked at
between one limit and the next, so that few runs have to be compared. -/
def allMissBy : List Nat → List CaseRun → List CaseRun → Bool
  | [], rs, ts => allMiss rs ts
  | limit :: limits, rs, ts =>
    allMiss (rs.filter (·.target < limit)) (ts.filter (·.first < limit)) &&
      allMissBy limits (rs.filter (limit ≤ ·.top)) (ts.filter (limit ≤ ·.last))

theorem image?_of_allMiss (h : allMiss rs ts = true) (hr : r ∈ rs) (ht : r' ∈ ts)
    (hm : r.image? n = some m) : r'.image? m = none := by
  have hmisses := List.all_eq_true.1 (List.all_eq_true.1 h r hr) r' ht
  exact (of_decide_eq_true hmisses).image?_eq_none hm

theorem image?_of_allMissBy {limits : List Nat} (h : allMissBy limits rs ts = true) (hr : r ∈ rs)
    (ht : r' ∈ ts) (hm : r.image? n = some m) : r'.image? m = none := by
  induction limits generalizing rs ts with
  | nil => exact image?_of_allMiss h hr ht hm
  | cons limit limits ih =>
      obtain ⟨hbelow, habove⟩ := Bool.and_eq_true_iff.1 h
      have hbounds := CaseRun.image?_bounds hm
      rcases Option.eq_none_or_eq_some (r'.image? m) with hnone | ⟨k, hk⟩
      · exact hnone
      obtain ⟨hfirst, hlast, -⟩ := CaseRun.of_image? hk
      rcases Nat.lt_or_ge m limit with hlimit | hlimit
      · apply image?_of_allMiss hbelow ?_ ?_ hm
        · exact List.mem_filter.2 ⟨hr, decide_eq_true (by omega)⟩
        · exact List.mem_filter.2 ⟨ht, decide_eq_true (by omega)⟩
      · apply ih habove
        · exact List.mem_filter.2 ⟨hr, decide_eq_true (by omega)⟩
        · exact List.mem_filter.2 ⟨ht, decide_eq_true (by omega)⟩

theorem allMissBy_foldRuns :
    allMissBy [0x140, 0x180, 0x1A0, 0x200, 0x250, 0x380, 0x400, 0x490, 0x530, 0x1000, 0x1E40,
      0x1E90, 0x1F00, 0x1FA0, 0x2C00, 0x2D00, 0xA680, 0xA760] foldRuns foldRuns = true := by
  decide +kernel

/-- What a run of case folding maps to stays as it is. -/
theorem simpleFold_of_image (hr : r ∈ foldRuns) (h : r.image? n = some d.toNat) :
    simpleFold d = d :=
  simpleFold_of_forall (fun _ ht => image?_of_allMissBy allMissBy_foldRuns hr ht h)

/-! ## Small letters of a character -/

theorem simpleFold_lowerChar (c : Char) : simpleFold (lowerChar c) = simpleFold c := by
  rcases mapRuns_cases lowerRuns_among_foldRuns.1 c with ⟨r, hr, himage⟩ | hself
  · rcases mem_foldRuns_of_mem_lowerRuns hr with hfold | hfold
    · rw [simpleFold_of_image? hfold himage]
      exact simpleFold_of_image hfold himage
    · have hback := CaseRun.image?_swap himage
      rw [simpleFold_of_image hfold hback]
      exact simpleFold_of_image? hfold hback
  · exact congrArg simpleFold hself

/-! ## The dotted capital I -/

/-- Only the dotted capital I folds to itself. -/
theorem simpleFold_eq_dotted_iff : simpleFold c = 'İ' ↔ c = 'İ' := by
  have hnone : ∀ r ∈ foldRuns, ∀ n, r.image? n ≠ some 'İ'.toNat := by
    intro r hr n h
    have hsource := CaseRun.image?_eq_some_iff_source?.1 h
    rw [(foldRuns_in_order.2 r hr).1] at hsource
    cases hsource
  constructor
  · intro h
    rcases mapRuns_cases proper_foldRuns c with ⟨r, hr, himage⟩ | hself
    · rw [show mapRuns foldRuns c = 'İ' from h] at himage
      exact absurd himage (hnone r hr _)
    · exact hself.symm.trans h
  · rintro rfl
    exact simpleFold_of_forall (fun r hr => (foldRuns_in_order.2 r hr).2)

/-- What a character of a text becomes if the text is put in small letters and case is folded. -/
def foldLowered (c : Char) : List Char := if c = 'İ' then ['i', '\u0307'] else [simpleFold c]

theorem map_simpleFold_lowerBetween (before : List Char) (c : Char) (after : List Char) :
    (lowerBetween before c after).map simpleFold = foldLowered c := by
  unfold lowerBetween foldLowered
  by_cases hsigma : c = 'Σ'
  · subst hsigma
    have hfinal : simpleFold 'ς' = simpleFold 'Σ' ∧ simpleFold 'σ' = simpleFold 'Σ' ∧
        'Σ' ≠ 'İ' := by
      decide
    rw [if_pos rfl, if_neg hfinal.2.2]
    split
    · rw [List.map_singleton, hfinal.1]
    · rw [List.map_singleton, hfinal.2.1]
  · rw [if_neg hsigma]
    split
    · decide
    · rw [List.map_singleton, simpleFold_lowerChar]

theorem map_simpleFold_lowerFrom (before cs : List Char) :
    (lowerFrom before cs).map simpleFold = cs.flatMap foldLowered := by
  induction cs generalizing before with
  | nil => rfl
  | cons c cs ih =>
      rw [lowerFrom, List.map_append, map_simpleFold_lowerBetween, ih, List.flatMap_cons]

theorem occurs_lowercase_iff (keyword text : String) :
    Occurs keyword (lowercase text) ↔
      keyword.toList.map simpleFold <:+: text.toList.flatMap foldLowered := by
  rw [Occurs, lowercase, String.toList_ofList, map_simpleFold_lowerFrom]

/-- A part of a text occurs in the text put in small letters, just if it has no dotted capital I. -/
theorem occurs_lowercase_iff_undotted {keyword text : String}
    (h : keyword.toList <:+: text.toList) :
    Occurs keyword (lowercase text) ↔ 'İ' ∉ keyword.toList := by
  rw [occurs_lowercase_iff]
  constructor
  · intro hoccurs hmem
    have hdotted : 'İ' ∈ text.toList.flatMap foldLowered := by
      apply hoccurs.subset
      exact List.mem_map.2 ⟨'İ', hmem, simpleFold_eq_dotted_iff.2 rfl⟩
    obtain ⟨c, -, hc⟩ := List.mem_flatMap.1 hdotted
    unfold foldLowered at hc
    split at hc
    · revert hc
      decide
    · rename_i hne
      exact hne (simpleFold_eq_dotted_iff.1 (List.mem_singleton.1 hc).symm)
  · intro hnone
    have hsingle : keyword.toList.map simpleFold = keyword.toList.flatMap foldLowered := by
      rw [List.map_eq_flatMap]
      apply List.flatMap_congr
      intro c hc
      rw [foldLowered, if_neg (fun heq : c = 'İ' => hnone (heq ▸ hc))]
    obtain ⟨front, back, hparts⟩ := h
    rw [hsingle, ← hparts, List.flatMap_append, List.flatMap_append]
    exact ⟨_, _, rfl⟩

end PhraseMark.Text
