import PhraseMark.Proofs.Scan.Occurrences
import PhraseMark.Proofs.Scan.Shapes

/-!
# Keywords in either order

The occurrences of two keywords that never overlap are marked independently of each other: the
gaps that one keyword leaves part no occurrence of the other, so that the hits of the other one are
found in them as in the whole text.
-/

namespace PhraseMark.Page

open Marking Pattern

variable {p : Page} {root : NodeId} {markerClass : String} {config : ScanConfig}
  {k k' : KeywordMatch}

/-- The order in which two keywords are marked does not matter if they keep apart. Take a
well-formed page, any node as root, a class of one token and the patterns of two keywords that
stand for themselves. If in no text node under the root an occurrence of one of them overlaps one
of the other, passes for all hits of the first and then of the second leave the same tree of the
root as passes in the other order, up to the numbers of the nodes that they have added. All these
passes come to their ends if the root exists. -/
theorem pageAfter_swap (h : p.WellFormed) (htoken : IsClassToken markerClass)
    (hmode : config.patternMode = .literal)
    (hk : (compileKeyword config k.keyword).2 = .ok k.pattern)
    (hk' : (compileKeyword config k'.keyword).2 = .ok k'.pattern) (root : NodeId)
    (hapart : ∀ x, (p.node x).isText = true → root ∈ p.lineage x → x ≠ root →
      Apart k.keyword.toList k'.keyword.toList (p.node x).value.toList) :
    ((pageAfter root ⟨markerClass, true⟩ p [k, k']).tree root).unnumber p.size =
        ((pageAfter root ⟨markerClass, true⟩ p [k', k]).tree root).unnumber p.size ∧
      (root < p.size →
        (∀ pass ∈ passes root ⟨markerClass, true⟩ p [k, k'], pass.ending = .finished) ∧
          ∀ pass ∈ passes root ⟨markerClass, true⟩ p [k', k], pass.ending = .finished) := by
  have hfinds := finds_of_compileKeyword hmode hk
  have hfinds' := finds_of_compileKeyword hmode hk'
  by_cases hroot : root < p.size
  · refine ⟨?_, fun _ => ⟨?_, ?_⟩⟩
    · rw [h.unnumber_pageAfter hroot (htoken.withAll true) (Nat.le_refl _),
        h.unnumber_pageAfter hroot (htoken.withAll true) (Nat.le_refl _)]
      apply withMarks_congr
      intro n hn
      rw [Tree.textsBelow_unnumber (fun _ => rfl)] at hn
      obtain ⟨m, hm, rfl⟩ := List.mem_map.1 hn
      obtain ⟨x, rfl, htext, hx, hne, -⟩ := h.mem_textsBelow_tree.1 hm
      have hcomm := hfinds.addMarks_comm hfinds' (lawful_spans k.pattern)
        (lawful_spans k'.pattern) markerClass (hapart x htext hx hne)
      simp only [marksAfter, List.foldl_cons, List.foldl_nil, addMarks_nil]
      exact hcomm
    · exact h.passes_finished hroot (htoken.withAll true) [k, k']
    · exact h.passes_finished hroot (htoken.withAll true) [k', k]
  · have hnone : ∀ found, pageAfter root ⟨markerClass, true⟩ p found = p := by
      intro found
      induction found with
      | nil => rfl
      | cons l ls ih =>
          rw [pageAfter, List.foldl_cons, mark_of_le (Nat.not_lt.1 hroot)]
          exact ih
    rw [hnone, hnone]
    exact ⟨rfl, fun hlt => absurd hlt hroot⟩

theorem pageAfter_swap_samplePage :
    ∃ k' : KeywordMatch, k'.keyword = "!" ∧
      ((pageAfter 0 ⟨"hit", true⟩ samplePage [⟨"1", samplePattern⟩, k']).tree 0).unnumber 2 =
        ((pageAfter 0 ⟨"hit", true⟩ samplePage [k', ⟨"1", samplePattern⟩]).tree 0).unnumber 2 := by
  obtain ⟨source, hother⟩ := @compileKeyword_of_takes {} "!" rfl (Nat.le_refl 500)
    (by decide)
  have hapart : Apart "1".toList "!".toList "1!".toList := by
    have hchars : "1".toList = ['1'] ∧ "!".toList = ['!'] ∧ "1!".toList = ['1', '!'] := by
      decide
    obtain ⟨hone, hmark, hboth⟩ := hchars
    have hnot : ¬ Text.OccursAt ['1'] ['1', '!'] 1 ∧ ¬ Text.OccursAt ['!'] ['1', '!'] 0 := by
      decide
    rw [hone, hmark, hboth]
    intro i j hi hj
    have hilt := hi.le_length (List.cons_ne_nil _ _)
    have hjlt := hj.le_length (List.cons_ne_nil _ _)
    have hine : i ≠ 1 := fun heq => hnot.1 (heq ▸ hi)
    have hjne : j ≠ 0 := fun heq => hnot.2 (heq ▸ hj)
    simp only [List.length_cons, List.length_nil] at hilt hjlt ⊢
    omega
  have hvalues : ∀ x < 2, (samplePage.node x).isText = true →
      (samplePage.node x).value = "1!" := by
    decide
  have hswap := @pageAfter_swap samplePage "hit" {} ⟨"1", samplePattern⟩ ⟨"!", _⟩
    consistent_samplePage.toWellFormed (by decide) rfl compileKeyword_samplePattern hother 0
    (by
      intro x htext _ _
      rw [hvalues x (lt_of_isText htext) htext]
      exact hapart)
  exact ⟨_, rfl, hswap.1⟩

end PhraseMark.Page
