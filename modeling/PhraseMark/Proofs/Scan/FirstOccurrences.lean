import PhraseMark.Proofs.Scan.Occurrences
import PhraseMark.Proofs.Scan.Rescan
import PhraseMark.Proofs.Scan.Runaway
import PhraseMark.Proofs.Scan.Shapes
import PhraseMark.Proofs.Scan.Verbatim

/-!
# First occurrences only

When only first hits are marked, a scan makes one pass for each keyword it found, and the pass
takes the gaps that earlier keywords left in a text for texts of their own. So a keyword may be
marked several times in one text of the page, but only with an earlier keyword in between.
-/

namespace PhraseMark

open Pattern Marking
open Text (OccursAt)

variable {config : ScanConfig} {ks : List String}

theorem compileKeyword_of_mem_found {text : String} {k : KeywordMatch}
    (h : k ∈ (scanText config text ks).found) :
    (compileKeyword config k.keyword).2 = .ok k.pattern := by
  induction ks with
  | nil => cases h
  | cons l ls ih =>
      have happend : (scanText config text (l :: ls)).found =
          (Matching.ofKeyword config text l).found ++ (scanText config text ls).found := rfl
      rw [happend, List.mem_append] at h
      rcases h with h | h
      · unfold Matching.ofKeyword at h
        split at h
        · cases h
        · rename_i events pattern heq
          split at h
          · rw [List.mem_singleton] at h
            rw [h, heq]
          · cases h
      · exact ih h

/-- A keyword that stands for itself and occurs is found alone, with a pattern that finds it. -/
theorem exists_found_single {text keyword : String} (hmode : config.patternMode = .literal)
    (hmax : config.maxPatternLength ≤ 500) (htakes : config.Takes keyword)
    (hoccurs : Text.Occurs keyword text) :
    ∃ k, (scanText config text [keyword]).found = [k] ∧ k.keyword = keyword ∧
      Finds keyword.toList k.pattern.spans := by
  have hkeywords : (scanText config text [keyword]).keywords = [keyword] := by
    rw [keywords_scanText]
    simp [foundKeywords, verdict_literal hmode hmax, htakes, hoccurs]
  obtain ⟨k, hfound, rfl⟩ := List.map_eq_singleton_iff.1 hkeywords
  have hcompiled := compileKeyword_of_mem_found (hfound ▸ List.mem_singleton_self k)
  exact ⟨k, hfound, rfl, finds_of_compileKeyword hmode hcompiled⟩

namespace Marking

/-- The marks of a text before and after a keyword is marked in it: the old ones stay, the new ones
are occurrences of the keyword, and two of these have an old one between them. -/
structure AddsFirst (ks cs : List Char) (before after : List Span) : Prop where
  kept : before.Sublist after
  occurs : ∀ s ∈ after, s ∉ before → OccursAt ks cs s.start ∧ s.stop = s.start + ks.length
  parted : ∀ s ∈ after, ∀ t ∈ after, s ∉ before → t ∉ before → s ≠ t →
    ∃ u ∈ before, (s.stop ≤ u.start ∧ u.stop ≤ t.start) ∨ (t.stop ≤ u.start ∧ u.stop ≤ s.start)
  single : before = [] → after.length ≤ 1

variable {style : MarkStyle} {matcher : Matcher} {cs ks : List Char} {marks : List Span}

theorem length_hitsIn_le (hall : style.all = false) (matcher : Matcher) (cs : List Char)
    (a b : Nat) : (hitsIn style matcher cs a b).length ≤ 1 := by
  rw [hitsIn, List.length_map, selected, hall]
  exact List.length_take_le _ _

theorem Finds.addsFirst (h : Finds ks matcher) (hlawful : Lawful matcher)
    (hall : style.all = false) (hmarks : Between 0 cs.length marks) :
    AddsFirst ks cs marks (addMarks style matcher cs marks) where
  kept := sublist_fill _ _ _ _
  occurs := by
    intro s hs hnew
    obtain ⟨b, c, -, -, hs⟩ := (mem_fill hmarks hs).resolve_left hnew
    exact h.occurs_of_mem_hitsIn hs
  parted := by
    intro s hs t ht hsnew htnew hne
    exact exists_between_of_mem_fill (fun _ _ hab hb => between_hitsIn hlawful style hab hb)
      (length_hitsIn_le hall matcher cs) hmarks hs ht hsnew htnew hne
  single := by
    rintro rfl
    exact length_hitsIn_le hall matcher cs 0 cs.length

end Marking

namespace Page

variable {p : Page} {body : NodeId} {text : String} {source : Source}

/-- A scan makes passes under the body for the keywords that occur in its visible text. -/
theorem WellFormed.scan_found (h : p.WellFormed) (htoken : IsClassToken config.markerClass)
    (hbody : p.body? = some body) (htext : p.visibleText body = .ok text)
    (hks : source.keywords = .ok ks) (scanId : String) :
    ∃ report, (p.scan scanId source config).outcome = .ok report ∧
      report.matched = (scanText config (Text.lowercase text) ks).keywords ∧
      (p.scan scanId source config).page =
        pageAfter body config.markStyle p (scanText config (Text.lowercase text) ks).found := by
  obtain ⟨hpage, houtcome⟩ := scan_of_keywords hks p scanId config
  rw [hpage, houtcome, keywords_scanText]
  by_cases hfound : foundKeywords config (Text.lowercase text) ks = []
  · obtain ⟨hok, hidle⟩ := scanFor_of_nil hbody htext hfound
    have hnil := (isEmpty_scanText config (Text.lowercase text) ks).2 hfound
    rw [Matching.isEmpty, List.isEmpty_iff] at hnil
    rw [hnil]
    exact ⟨_, hok, hfound.symm, hidle.page⟩
  · obtain ⟨report, hok, hmatched, -, hdetection⟩ := h.scanFor_of_found htoken hbody htext hfound
    exact ⟨report, hok, hmatched, hdetection.page⟩

/-- When only first hits are marked and keywords stand for themselves, a scan marks keyword by
keyword in the order of the report. The tree of the body after it is the tree before it with marks
in its texts, up to the numbers of the new nodes. In each text a keyword adds occurrences to the
marks of the keywords before it, at most one if there are none, and two of them only with an earlier
mark in between. A scan that fails marks nothing. -/
theorem scan_addsFirst (h : p.WellFormed) (htoken : IsClassToken config.markerClass)
    (hmode : config.patternMode = .literal) (hfirst : config.markAll = false) (scanId : String)
    (source : Source) :
    ((∃ e, (p.scan scanId source config).outcome = .error e) ∧
      (p.scan scanId source config).page = p) ∨
    ∃ body report found, p.body? = some body ∧
      (p.scan scanId source config).outcome = .ok report ∧
      report.matched = found.map KeywordMatch.keyword ∧
      ((p.scan scanId source config).page.tree body).unnumber p.size =
        withMarks config.markerClass p.size (marksAfter config.markStyle found)
          ((p.tree body).unnumber p.size) ∧
      ∀ before k after, found = before ++ k :: after → ∀ text : String,
        AddsFirst k.keyword.toList text.toList (marksAfter config.markStyle before text)
          (marksAfter config.markStyle (before ++ [k]) text) := by
  cases hks : source.keywords with
  | error e =>
      obtain ⟨hpage, houtcome⟩ := scan_of_failure hks p scanId config
      exact .inl ⟨⟨e, houtcome⟩, hpage⟩
  | ok ks =>
      cases hbody : p.body? with
      | none =>
          obtain ⟨hpage, houtcome⟩ := scan_of_keywords hks p scanId config
          obtain ⟨hfailed, hidle⟩ := scanFor_of_missing ks config hbody
          exact .inl ⟨⟨_, houtcome.trans hfailed⟩, hpage.trans hidle.page⟩
      | some body =>
          have hlt := (h.body?_some hbody).1
          obtain ⟨text, htext⟩ := h.exists_visibleText hlt
          obtain ⟨report, houtcome, hmatched, hpage⟩ := h.scan_found htoken hbody htext hks scanId
          refine .inr ⟨body, report, _, rfl, houtcome, hmatched, ?_, ?_⟩
          · rw [hpage, h.unnumber_pageAfter hlt htoken.markStyle (Nat.le_refl _)]
            rfl
          · intro before k after hfound text
            have hmem : k ∈ before ++ k :: after := List.mem_append_right _ List.mem_cons_self
            have hfinds :=
              finds_of_compileKeyword hmode (compileKeyword_of_mem_found (hfound ▸ hmem))
            rw [marksAfter_concat]
            exact hfinds.addsFirst (lawful_spans _) hfirst (between_marksAfter _ before text)

/-! ## A keyword marked twice -/

/-- A page with a body and the text `aba` in it. -/
def partedPage : Page :=
  [.addElement "body", .addText "aba", .append 0 1, .setRoot 0].foldl perform empty

theorem wellFormed_partedPage : partedPage.WellFormed := wellFormed_edits _

theorem body?_partedPage : partedPage.body? = some 0 := by decide +kernel

/-- Both keywords are found in the text, and each gets its pass. -/
theorem scan_partedPage_found :
    ∃ report, (partedPage.scan "" (Source.ofList ["b", "a"]) {}).outcome = .ok report ∧
      report.matched = ["b", "a"] ∧
      (scanText {} "aba" ["b", "a"]).keywords = ["b", "a"] ∧
      (partedPage.scan "" (Source.ofList ["b", "a"]) {}).page =
        pageAfter 0 ({} : ScanConfig).markStyle partedPage
          (scanText {} "aba" ["b", "a"]).found := by
  have htext : partedPage.visibleText 0 = .ok "aba" := by decide +kernel
  have hlower : Text.lowercase "aba" = "aba" := by decide
  have hsource : (Source.ofList ["b", "a"]).keywords = .ok ["b", "a"] := rfl
  have hkeywords : (scanText {} "aba" ["b", "a"]).keywords = ["b", "a"] := by
    have hoccurs : ({} : ScanConfig).Takes "b" ∧ ({} : ScanConfig).Takes "a" ∧
        Text.Occurs "b" "aba" ∧ Text.Occurs "a" "aba" := by decide
    rw [keywords_scanText, foundKeywords]
    simp [verdict_literal, hoccurs]
  obtain ⟨report, houtcome, hmatched, hpage⟩ :=
    wellFormed_partedPage.scan_found isClassToken_default body?_partedPage htext hsource ""
  rw [hlower] at hmatched hpage
  exact ⟨report, houtcome, hmatched.trans hkeywords, hkeywords, hpage⟩

/-- The first keyword adds an occurrence to a text without marks, and the second one adds
occurrences to the text with that mark. -/
theorem scan_addsFirst_partedPage :
    ∃ report kb ka, (partedPage.scan "" (Source.ofList ["b", "a"]) {}).outcome = .ok report ∧
      report.matched = [kb.keyword, ka.keyword] ∧ kb.keyword = "b" ∧ ka.keyword = "a" ∧
      ((partedPage.scan "" (Source.ofList ["b", "a"]) {}).page.tree 0).unnumber 2 =
        withMarks defaultMarkerClass 2 (marksAfter ⟨defaultMarkerClass, false⟩ [kb, ka])
          ((partedPage.tree 0).unnumber 2) ∧
      AddsFirst "b".toList "aba".toList [] (marksAfter ⟨defaultMarkerClass, false⟩ [kb] "aba") ∧
      AddsFirst "a".toList "aba".toList (marksAfter ⟨defaultMarkerClass, false⟩ [kb] "aba")
        (marksAfter ⟨defaultMarkerClass, false⟩ [kb, ka] "aba") := by
  obtain ⟨report, houtcome, hmatched, -⟩ := scan_partedPage_found
  rcases @scan_addsFirst {} partedPage wellFormed_partedPage isClassToken_default rfl rfl ""
      (Source.ofList ["b", "a"]) with
    ⟨⟨e, he⟩, -⟩ | ⟨body, report', found, hbody, houtcome', hnames, htree, hadds⟩
  · rw [houtcome] at he
    cases he
  · cases hbody.symm.trans body?_partedPage
    cases houtcome.symm.trans houtcome'
    obtain ⟨kb, found', rfl, hkb, hrest⟩ := List.map_eq_cons_iff.1 (hnames.symm.trans hmatched)
    obtain ⟨ka, rfl, hka⟩ := List.map_eq_singleton_iff.1 hrest
    have hfirst := hadds [] kb [ka] rfl "aba"
    have hsecond := hadds [kb] ka [] rfl "aba"
    rw [hkb] at hfirst
    rw [hka] at hsecond
    exact ⟨report, kb, ka, houtcome, hnames, hkb, hka, htree, hfirst, hsecond⟩

theorem marks_aba {kb ka : KeywordMatch} (hb : Finds ['b'] kb.pattern.spans)
    (ha : Finds ['a'] ka.pattern.spans) (markerClass : String) :
    marksAfter ⟨markerClass, false⟩ [kb, ka] "aba" = [⟨0, 1⟩, ⟨1, 2⟩, ⟨2, 3⟩] := by
  have hchars : "aba".toList = ['a', 'b', 'a'] ∧ "a".toList = ['a'] := by decide
  have hmiddle : kb.pattern.spans "aba" = [⟨1, 2⟩] := by
    have hnot : ¬ OccursAt ['b'] ['a', 'b', 'a'] 0 ∧ OccursAt ['b'] ['a', 'b', 'a'] 1 ∧
        ¬ OccursAt ['b'] ['a', 'b', 'a'] 2 := by decide
    apply (hb.leftmost "aba").unique
    rw [hchars.1]
    refine .next (Nat.zero_le 1) hnot.2.1 ?_ (.done ?_)
    · intro j _ hj
      rw [Nat.lt_one_iff.1 hj]
      exact hnot.1
    · intro i hi hoccurs
      have hle := hoccurs.le_length hb.ne_nil
      simp only [List.length_cons, List.length_nil] at hi hle
      obtain rfl : i = 2 := by omega
      exact hnot.2.2 hoccurs
  have hsingle : ka.pattern.spans "a" = [⟨0, 1⟩] := ha.matcher_self hchars.2
  have hslices : String.ofList (Span.slice ⟨0, 1⟩ "aba".toList) = "a" ∧
      String.ofList (Span.slice ⟨2, 3⟩ "aba".toList) = "a" ∧ "aba".toList.length = 3 := by
    decide
  have hfirst : selected ⟨markerClass, false⟩ kb.pattern.spans "aba" = [⟨1, 2⟩] := by
    rw [hb.selected_eq, hmiddle]
    rfl
  have hrest : selected ⟨markerClass, false⟩ ka.pattern.spans "a" = [⟨0, 1⟩] := by
    rw [ha.selected_eq, hsingle]
    rfl
  rw [marksAfter, List.foldl_cons, List.foldl_cons, List.foldl_nil, addMarks_nil, hfirst, addMarks,
    hslices.2.2, fill, fill, hitsIn, hitsIn, hslices.1, hslices.2.1, hrest]
  rfl

theorem scan_partedPage :
    partedPage.WellFormed ∧ partedPage.TextsChildless ∧
      ¬ Text.Occurs "a" "b" ∧ ¬ Text.Occurs "b" "a" ∧
      partedPage.tree 0 =
        .node (partedPage.node 0).unlinked [.node { Node.ofText "aba" with id := 1 } []] ∧
      ∃ report, (partedPage.scan "" (Source.ofList ["b", "a"]) {}).outcome = .ok report ∧
        report.matched = ["b", "a"] ∧
        ((partedPage.scan "" (Source.ofList ["b", "a"]) {}).page.tree 0).unnumber 2 =
          .node (partedPage.node 0).unlinked
            ([.hit "a", .hit "b", .hit "a"].map (Piece.shape defaultMarkerClass 2)) := by
  have hchildless : partedPage.TextsChildless := textsChildless_iff.2 (by decide)
  have htree : partedPage.tree 0 =
      .node (partedPage.node 0).unlinked [.node { Node.ofText "aba" with id := 1 } []] := rfl
  have hnever : ¬ Text.Occurs "a" "b" ∧ ¬ Text.Occurs "b" "a" := by decide
  obtain ⟨report, houtcome, hmatched, hnames, hpage⟩ := scan_partedPage_found
  refine ⟨wellFormed_partedPage, hchildless, hnever.1, hnever.2, htree, report, houtcome,
    hmatched, ?_⟩
  have hold : 2 ≤ partedPage.size := by decide
  have hafter := wellFormed_partedPage.unnumber_pageAfter
    (wellFormed_partedPage.body?_some body?_partedPage).1 isClassToken_default.markStyle hold
    (scanText {} "aba" ["b", "a"]).found
  have hcompiled := fun k hk => @compileKeyword_of_mem_found {} ["b", "a"] "aba" k hk
  rw [hpage]
  rw [Matching.keywords] at hnames
  -- that the patterns find their keywords is enough, whatever programs they are
  generalize (scanText {} "aba" ["b", "a"]).found = found at hafter hcompiled hnames ⊢
  obtain ⟨kb, found', rfl, hkb, hrest⟩ := List.map_eq_cons_iff.1 hnames
  obtain ⟨ka, rfl, hka⟩ := List.map_eq_singleton_iff.1 hrest
  have hchars : "b".toList = ['b'] ∧ "a".toList = ['a'] := by decide
  have hb := finds_of_compileKeyword rfl (hcompiled kb (by simp))
  have ha := finds_of_compileKeyword rfl (hcompiled ka (by simp))
  rw [hkb, hchars.1] at hb
  rw [hka, hchars.2] at ha
  have hmarked : marked defaultMarkerClass 2
      (marksAfter ⟨defaultMarkerClass, false⟩ [kb, ka]) { Node.ofText "aba" with id := 1 } =
        some ([.hit "a", .hit "b", .hit "a"].map (Piece.shape defaultMarkerClass 2)) := by
    have hcut : cutAt "aba".toList [⟨0, 1⟩, ⟨1, 2⟩, ⟨2, 3⟩] =
        some [.hit "a", .hit "b", .hit "a"] := by decide
    rw [marked_of_isText rfl]
    simp only [Node.ofText, marks_aba hb ha, hcut, Option.map_some]
  have hunnumbered : (partedPage.tree 0).unnumber 2 = partedPage.tree 0 := by
    rw [htree, Tree.unnumber_node]
    rfl
  rw [hafter, hunnumbered, htree, withMarks, Tree.reviseBelow, List.flatMap_singleton,
    Tree.revise_node]
  exact congrArg (Tree.node _) (congrArg (Option.getD · _) hmarked)

/-- A page with a body and one letter in it. -/
def letterPage : Page :=
  [.addElement "body", .addText "a", .append 0 1, .setRoot 0].foldl perform empty

theorem letterPage_unfinished :
    ∃ pattern, (compileKeyword { markerClass := "x y" } "a").2 = .ok pattern ∧ ∀ steps,
      (run ⟨"x y", false⟩ pattern.spans steps (.start 0 (avoids ⟨"x y", false⟩))
        letterPage).ending = .unfinished ∧
      (run ⟨"x y", false⟩ pattern.spans steps (.start 0 (avoids ⟨"x y", false⟩))
        letterPage).highlights.map (·.text) = List.replicate steps "a" := by
  obtain ⟨source, hcompiled⟩ :=
    @compileKeyword_of_takes { markerClass := "x y" } "a" rfl (Nat.le_refl 500) (by decide)
  refine ⟨_, hcompiled, fun steps => ?_⟩
  have hwf : letterPage.WellFormed := wellFormed_edits _
  have hfinds := finds_of_compileKeyword rfl hcompiled
  obtain ⟨hending, hhighlights, -⟩ := run_start_unfinished hwf (by decide)
    (show (letterPage.node 0).children = [1] by decide) (by decide) (by decide)
    (hfinds.chosen_self ⟨"x y", false⟩ rfl) steps
  exact ⟨hending, hhighlights⟩

/-- The first page has one text, and no keyword of the scan contains another; all the same the scan
marks one of them twice in the text. On the second page a pass with a class of two tokens marks the
one occurrence as often as it is granted steps. -/
theorem partedPage_marked_twice :
    (partedPage.WellFormed ∧ partedPage.TextsChildless ∧
      ¬ Text.Occurs "a" "b" ∧ ¬ Text.Occurs "b" "a" ∧
      partedPage.tree 0 =
        .node (partedPage.node 0).unlinked [.node { Node.ofText "aba" with id := 1 } []] ∧
      ∃ report, (partedPage.scan "" (Source.ofList ["b", "a"]) {}).outcome = .ok report ∧
        report.matched = ["b", "a"] ∧
        ((partedPage.scan "" (Source.ofList ["b", "a"]) {}).page.tree 0).unnumber 2 =
          .node (partedPage.node 0).unlinked
            ([.hit "a", .hit "b", .hit "a"].map (Piece.shape defaultMarkerClass 2))) ∧
    letterPage.WellFormed ∧ letterPage.body? = some 0 ∧ letterPage.visibleText 0 = .ok "a" ∧
      ∃ pattern, (compileKeyword { markerClass := "x y" } "a").2 = .ok pattern ∧ ∀ steps,
        (run ⟨"x y", false⟩ pattern.spans steps (.start 0 (avoids ⟨"x y", false⟩))
          letterPage).ending = .unfinished ∧
        (run ⟨"x y", false⟩ pattern.spans steps (.start 0 (avoids ⟨"x y", false⟩))
          letterPage).highlights.map (·.text) = List.replicate steps "a" :=
  ⟨scan_partedPage, wellFormed_edits _, by decide +kernel, by decide +kernel,
    letterPage_unfinished⟩

end Page

end PhraseMark
