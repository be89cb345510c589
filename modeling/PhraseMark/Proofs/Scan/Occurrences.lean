import PhraseMark.Proofs.Scan.Exactness
import PhraseMark.Proofs.Scan.Gaps

/-!
# Marks of keywords

Where a keyword stands for itself, its hits in a gap between marks are the occurrences in the gap,
taken from the left. So marks that begin like the hits in the whole text leave the rest of these
hits to a later pass, and a pass for another keyword, whose occurrences keep apart from the marks,
marks what it would mark in the whole text.
-/

namespace PhraseMark

open Pattern
open Text (OccursAt)

namespace Marking

variable {style : MarkStyle} {matcher matcher' : Matcher} {ks ks' cs : List Char} {a b : Nat}
  {xs ys hits marks : List Span} {markerClass : String}

/-- A matcher whose hits are the occurrences of a text up to case, taken from the left. -/
structure Finds (ks : List Char) (matcher : Matcher) : Prop where
  ne_nil : ks ≠ []
  leftmost : ∀ text, Leftmost (OccursAt ks text.toList) ks.length 0 (matcher text)

/-- The pattern of a keyword that stands for itself finds its occurrences. -/
theorem finds_of_compileKeyword {config : ScanConfig} {k : String} {pattern : Regex}
    (hmode : config.patternMode = .literal) (h : (compileKeyword config k).2 = .ok pattern) :
    Finds k.toList pattern.spans := by
  unfold compileKeyword at h
  split at h
  · cases h
  · rename_i hempty
    split at h
    · cases h
    · simp only [hmode, patternSource] at h
      have hne : k.toList ≠ [] := by
        intro hnil
        exact hempty (by rw [String.isEmpty_iff, ← String.toList_eq_nil_iff, hnil])
      have hprogram : pattern.program = .ofExpr (.literal k.toList) := by
        rw [Regex.compile, String.toList_ofList, Expr.ofText?_escape] at h
        dsimp only at h
        split at h
        · cases h
          rfl
        · cases h
      refine ⟨hne, fun text => ?_⟩
      rw [Regex.spans, hprogram]
      exact Program.spans_literal hne text.toList

namespace Finds

variable (h : Finds ks matcher)

include h

theorem pos : 0 < ks.length := List.length_pos_iff.2 h.ne_nil

theorem occurs_of_mem_selected {text : String} {s : Span}
    (hs : s ∈ selected style matcher text) :
    OccursAt ks text.toList s.start ∧ s.stop = s.start + ks.length :=
  (h.leftmost text).occurs_of_mem (mem_selected hs).1

theorem selected_all (markerClass text : String) :
    selected ⟨markerClass, true⟩ matcher text = matcher text := by
  have hpos := h.pos
  apply List.filter_eq_self.2
  intro s hs
  obtain ⟨-, hstop⟩ := (h.leftmost text).occurs_of_mem hs
  rw [decide_eq_true_iff]
  omega

theorem selected_eq (style : MarkStyle) (text : String) :
    selected style matcher text = if style.all then matcher text else (matcher text).take 1 := by
  have hall := h.selected_all "" text
  simp only [selected, if_true] at hall ⊢
  rw [hall]

/-- A text that is an occurrence as a whole is the one hit in it. -/
theorem matcher_whole {text : String} (hwhole : OccursAt ks text.toList 0)
    (hlength : text.toList.length = ks.length) : matcher text = [⟨0, ks.length⟩] := by
  have hpos := h.pos
  have honce : Leftmost (OccursAt ks text.toList) ks.length 0 [⟨0, 0 + ks.length⟩] := by
    refine .next (Nat.le_refl 0) hwhole ?_ (.done ?_)
    · exact fun j _ hj => absurd hj (Nat.not_lt_zero j)
    · intro i hi hoccurs
      have hle := hoccurs.le_length h.ne_nil
      omega
  rw [Nat.zero_add] at honce
  exact (h.leftmost text).unique honce

theorem chosen_whole (style : MarkStyle) {text : String} (hwhole : OccursAt ks text.toList 0)
    (hlength : text.toList.length = ks.length) :
    chosen style matcher text = [⟨0, text.toList.length⟩] := by
  have hpos := h.pos
  rw [chosen, h.matcher_whole hwhole hlength, hlength]
  have hkept : (Span.mk 0 ks.length).isEmpty = false := by
    simp [Span.isEmpty, hpos.ne]
  cases style.all <;> simp [hkept]

theorem matcher_self {text : String} (htext : text.toList = ks) :
    matcher text = [⟨0, ks.length⟩] :=
  h.matcher_whole (htext ▸ List.prefix_rfl) (congrArg List.length htext)

theorem chosen_self (style : MarkStyle) {text : String} (htext : text.toList = ks) :
    chosen style matcher text = [⟨0, text.toList.length⟩] :=
  h.chosen_whole style (htext ▸ List.prefix_rfl) (congrArg List.length htext)

/-- The hits in a part of a text are the occurrences in this part. -/
theorem leftmost_hitsIn (markerClass : String) (hab : a ≤ b) :
    Leftmost (fun i => OccursAt ks cs i ∧ i + ks.length ≤ b) ks.length a
      (hitsIn ⟨markerClass, true⟩ matcher cs a b) := by
  have hslice := h.leftmost (.ofList (Span.slice ⟨a, b⟩ cs))
  rw [String.toList_ofList] at hslice
  rw [hitsIn, h.selected_all]
  change Leftmost _ _ (a + 0) _
  apply Leftmost.shift
  apply hslice.congr
  intro i _
  rw [Span.slice, Text.occursAt_take h.ne_nil, Text.occursAt_drop]
  apply and_congr_right
  intro _
  simp only
  omega

theorem occurs_of_mem_hitsIn {s : Span} (hs : s ∈ hitsIn style matcher cs a b) :
    OccursAt ks cs s.start ∧ s.stop = s.start + ks.length := by
  obtain ⟨t, ht, rfl⟩ := List.mem_map.1 hs
  obtain ⟨hoccurs, hstop⟩ := h.occurs_of_mem_selected ht
  rw [String.toList_ofList, Span.slice, Text.occursAt_take h.ne_nil, Text.occursAt_drop] at hoccurs
  refine ⟨hoccurs.1, ?_⟩
  rw [Span.shift, hstop, Nat.add_assoc]

/-- In the gaps of marks that begin like the hits of a text, a pass finds the rest of the hits. -/
theorem fill_leftmost (markerClass : String)
    (hhits : Leftmost (OccursAt ks cs) ks.length a (xs ++ ys)) (ha : a ≤ cs.length) :
    fill (hitsIn ⟨markerClass, true⟩ matcher cs) cs.length a xs = xs ++ ys := by
  induction xs generalizing a with
  | nil =>
      apply (h.leftmost_hitsIn markerClass ha).unique
      apply hhits.congr
      intro i _
      exact and_iff_left_of_imp (fun hoccurs => hoccurs.le_length h.ne_nil)
  | cons x xs ih =>
      rcases hhits with _ | ⟨hle, hi, hbefore, hrest⟩
      rename_i i
      have hnone : hitsIn ⟨markerClass, true⟩ matcher cs a i = [] := by
        apply (h.leftmost_hitsIn markerClass hle).unique
        apply Leftmost.done
        rintro j hj ⟨hoccurs, hstop⟩
        have hpos := h.pos
        exact hbefore j hj (by omega) hoccurs
      rw [fill, hnone, ih hrest (hi.le_length h.ne_nil)]
      rfl

/-- After a pass that marks the first hit or all of them, a pass for all hits leaves what it would
have left alone. -/
theorem addMarks_selected (style : MarkStyle) (markerClass text : String) :
    addMarks ⟨markerClass, true⟩ matcher text.toList (selected style matcher text) =
      selected ⟨markerClass, true⟩ matcher text := by
  have hhits := h.leftmost text
  rw [h.selected_all, h.selected_eq, addMarks]
  split
  · rw [← List.append_nil (matcher text)] at hhits ⊢
    have hall := h.fill_leftmost markerClass hhits (Nat.zero_le _)
    rwa [List.append_nil] at hall ⊢
  · rw [← List.take_append_drop 1 (matcher text)] at hhits
    have hfirst := h.fill_leftmost markerClass hhits (Nat.zero_le _)
    rwa [List.take_append_drop] at hfirst

/-- Where no occurrence overlaps a mark, a pass adds the hits of the whole text to the marks. -/
theorem perm_fill (markerClass : String) (hmarks : Between a cs.length marks)
    (hapart : ∀ s ∈ marks, ∀ i, OccursAt ks cs i → i + ks.length ≤ s.start ∨ s.stop ≤ i)
    (hhits : Leftmost (OccursAt ks cs) ks.length a hits) :
    (fill (hitsIn ⟨markerClass, true⟩ matcher cs) cs.length a marks).Perm (marks ++ hits) := by
  induction marks generalizing a hits with
  | nil =>
      rw [← List.nil_append hits] at hhits
      rw [h.fill_leftmost markerClass hhits hmarks]
  | cons s rest ih =>
      obtain ⟨hstart, hlt, hrest⟩ := hmarks
      -- no hit of the whole text overlaps the mark, so the mark parts the hits
      obtain ⟨xs, ys, rfl, hxs, hys⟩ := hhits.split h.pos (Nat.le_of_lt hlt) hstart
        (hapart s List.mem_cons_self)
      have hlater := ih hrest (fun t ht => hapart t (List.mem_cons_of_mem s ht)) hys
      rw [fill, (h.leftmost_hitsIn markerClass hstart).unique hxs]
      have hmoved : (xs ++ (rest ++ ys)).Perm (rest ++ (xs ++ ys)) := by
        rw [← List.append_assoc, ← List.append_assoc]
        exact List.perm_append_comm.append_right ys
      exact List.perm_middle.trans (((hlater.append_left xs).trans hmoved).cons s)

end Finds

/-- No occurrence of one text overlaps one of the other. -/
def Apart (ks ks' cs : List Char) : Prop :=
  ∀ i j, OccursAt ks cs i → OccursAt ks' cs j → i + ks.length ≤ j ∨ j + ks'.length ≤ i

theorem Finds.perm_addMarks (h : Finds ks matcher) (h' : Finds ks' matcher')
    (hlawful : Lawful matcher) (markerClass : String) {text : String}
    (hapart : Apart ks ks' text.toList) :
    (addMarks ⟨markerClass, true⟩ matcher' text.toList
        (selected ⟨markerClass, true⟩ matcher text)).Perm
      (selected ⟨markerClass, true⟩ matcher text ++
        selected ⟨markerClass, true⟩ matcher' text) := by
  rw [h'.selected_all, addMarks]
  apply h'.perm_fill markerClass (between_selected hlawful _ text) ?_ (h'.leftmost text)
  intro s hs i hi
  obtain ⟨hoccurs, hstop⟩ := h.occurs_of_mem_selected hs
  rw [hstop]
  exact (hapart _ i hoccurs hi).symm

/-- The marks of two keywords that keep apart do not depend on which was marked first. -/
theorem Finds.addMarks_comm (h : Finds ks matcher) (h' : Finds ks' matcher')
    (hlawful : Lawful matcher) (hlawful' : Lawful matcher') (markerClass : String) {text : String}
    (hapart : Apart ks ks' text.toList) :
    addMarks ⟨markerClass, true⟩ matcher' text.toList
        (selected ⟨markerClass, true⟩ matcher text) =
      addMarks ⟨markerClass, true⟩ matcher text.toList
        (selected ⟨markerClass, true⟩ matcher' text) := by
  have hapart' : Apart ks' ks text.toList := fun i j hi hj => (hapart j i hj hi).symm
  apply Between.eq_of_perm (between_addMarks hlawful' _ (between_selected hlawful _ text))
    (between_addMarks hlawful _ (between_selected hlawful' _ text))
  exact (h.perm_addMarks h' hlawful markerClass hapart).trans
    (List.perm_append_comm.trans (h'.perm_addMarks h hlawful' markerClass hapart').symm)

end Marking

end PhraseMark
