import Mathlib.Data.String.Basic
import PhraseMark.Proofs.Pattern.Literals
import PhraseMark.Proofs.Scan.Outcome

/-!
# Keywords that stand for themselves

When every character of a keyword stands for itself, a keyword of a proper length always becomes a
pattern, and this pattern finds it just where it occurs up to case. So a scan finds the keywords
that occur and rejects the empty and the overlong ones.
-/

namespace PhraseMark

open Text (Occurs)

variable {config : ScanConfig} {text k : String}

theorem length_le_utf8ByteSize (k : String) : k.toList.length ≤ k.utf8ByteSize := by
  have hlen : ∀ cs : List Char, cs.length ≤ String.utf8Len cs := by
    intro cs
    induction cs with
    | nil => exact Nat.le_refl _
    | cons c cs ih =>
        have hpos := c.utf8Size_pos
        rw [String.utf8Len_cons, List.length_cons]
        omega
  have h := hlen k.toList
  rwa [← String.utf8ByteSize_ofList, String.ofList_toList] at h

/-- A keyword that a scan takes: neither empty nor too long. -/
def ScanConfig.Takes (config : ScanConfig) (k : String) : Prop :=
  k ≠ "" ∧ k.utf8ByteSize ≤ config.maxPatternLength

instance (config : ScanConfig) : DecidablePred config.Takes :=
  fun _ => inferInstanceAs (Decidable (_ ∧ _))

/-- Why a keyword is not taken. -/
def ScanConfig.refusal (config : ScanConfig) (k : String) : ScanError :=
  if k = "" then .emptyPattern
  else .patternTooLong k k.utf8ByteSize config.maxPatternLength

theorem compileKeyword_of_not_takes (h : ¬ config.Takes k) :
    (compileKeyword config k).2 = .error (config.refusal k) := by
  unfold compileKeyword ScanConfig.refusal
  by_cases hempty : k = ""
  · rw [if_pos (String.isEmpty_iff.2 hempty), if_pos hempty]
  · have hlong : config.maxPatternLength < k.utf8ByteSize :=
      Nat.lt_of_not_le (fun hle => h ⟨hempty, hle⟩)
    rw [if_neg (mt String.isEmpty_iff.1 hempty), if_neg hempty, if_pos hlong]

/-- A keyword that stands for itself and is taken always becomes a pattern. -/
theorem compileKeyword_of_takes (hmode : config.patternMode = .literal)
    (hmax : config.maxPatternLength ≤ 500) (h : config.Takes k) :
    ∃ source, (compileKeyword config k).2 =
      .ok { source, program := .ofExpr (.literal k.toList) } := by
  have hlen : k.toList.length ≤ 500 :=
    Nat.le_trans (length_le_utf8ByteSize k) (Nat.le_trans h.2 hmax)
  refine ⟨.ofList (Pattern.escape k.toList), ?_⟩
  rw [compileKeyword, if_neg (mt String.isEmpty_iff.1 h.1), if_neg (Nat.not_lt.2 h.2), hmode]
  simp only [patternSource, Pattern.Regex.compile_escape hlen]
  rfl

theorem verdict_literal (hmode : config.patternMode = .literal)
    (hmax : config.maxPatternLength ≤ 500) :
    verdict config text k =
      if config.Takes k then if Occurs k text then .found else .absent
      else .rejected (config.refusal k) := by
  unfold verdict
  split
  · rename_i e he
    by_cases htakes : config.Takes k
    · obtain ⟨source, hok⟩ := compileKeyword_of_takes hmode hmax htakes
      rw [hok] at he
      cases he
    · rw [compileKeyword_of_not_takes htakes] at he
      cases he
      rw [if_neg htakes]
  · rename_i pattern he
    by_cases htakes : config.Takes k
    · obtain ⟨source, hok⟩ := compileKeyword_of_takes hmode hmax htakes
      rw [hok] at he
      cases he
      have hmatch := Pattern.Program.isMatch_literal k.toList text.toList
      rw [if_pos htakes]
      exact if_congr hmatch rfl rfl
    · rw [compileKeyword_of_not_takes htakes] at he
      cases he

/-- A scan of a text for keywords that stand for themselves finds those that are neither empty nor
too long and occur in the text up to case, and rejects the empty and the overlong ones with the
error that says so, both in order and with repetitions. No keyword fails to become a pattern. -/
theorem scanText_literal (hmode : config.patternMode = .literal)
    (hmax : config.maxPatternLength ≤ 500) (text : String) (ks : List String) :
    (scanText config text ks).keywords =
        ks.filter (fun k => k ≠ "" ∧ k.utf8ByteSize ≤ config.maxPatternLength ∧ Occurs k text) ∧
      (scanText config text ks).rejected =
        (ks.filter (fun k => k = "" ∨ config.maxPatternLength < k.utf8ByteSize)).map
          (fun k => { keyword := k
                      error := if k = "" then .emptyPattern
                        else .patternTooLong k k.utf8ByteSize config.maxPatternLength }) ∧
      ∀ r ∈ (scanText config text ks).rejected, ∀ k defect, r.error ≠ .patternCompile k defect := by
  have hrejected : (scanText config text ks).rejected =
      (ks.filter (fun k => k = "" ∨ config.maxPatternLength < k.utf8ByteSize)).map
        (fun k => { keyword := k, error := config.refusal k }) := by
    rw [rejected_scanText, rejectedKeywords, ← List.filterMap_eq_map, List.filterMap_filter]
    congr 1
    funext k
    have hrefused : (k = "" ∨ config.maxPatternLength < k.utf8ByteSize) ↔ ¬ config.Takes k := by
      rw [ScanConfig.Takes, not_and_or, not_not, Nat.not_le]
    simp only [verdict_literal hmode hmax, hrefused]
    by_cases htakes : config.Takes k
    · by_cases hoccurs : Occurs k text
      · simp [htakes, hoccurs]
      · simp [htakes, hoccurs]
    · simp [htakes]
  refine ⟨?_, hrejected, ?_⟩
  · rw [keywords_scanText, foundKeywords]
    apply List.filter_congr
    intro k _
    rw [verdict_literal hmode hmax, decide_eq_decide, ← and_assoc]
    change _ ↔ config.Takes k ∧ Occurs k text
    by_cases htakes : config.Takes k
    · by_cases hoccurs : Occurs k text
      · simp [htakes, hoccurs]
      · simp [htakes, hoccurs]
    · simp [htakes]
  · intro r hr k defect
    rw [hrejected, List.mem_map] at hr
    obtain ⟨l, -, rfl⟩ := hr
    intro herror
    unfold ScanConfig.refusal at herror
    split at herror
    · cases herror
    · cases herror

theorem scanText_literal_plus :
    (scanText {} "1+A" ["+a", "", "a+"]).keywords = ["+a"] ∧
      (scanText {} "1+A" ["+a", "", "a+"]).rejected = [⟨"", .emptyPattern⟩] := by
  obtain ⟨hkeywords, hrejected, -⟩ :=
    @scanText_literal {} rfl (Nat.le_refl 500) "1+A" ["+a", "", "a+"]
  rw [hkeywords, hrejected]
  decide

end PhraseMark
