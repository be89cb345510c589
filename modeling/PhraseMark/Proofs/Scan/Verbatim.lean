import PhraseMark.Proofs.Scan.Endings
import PhraseMark.Proofs.Scan.Exactness
import PhraseMark.Proofs.Text.Lowercase

/-!
# Keywords that stand on the page

A scan puts the visible text of the body in small letters before it looks for keywords, and a
keyword keeps its own letters. A keyword that stands on the page as it is written is found all the
same, unless it has a dotted capital I: the small form of this letter has two characters, which
the pattern of the letter does not match.
-/

namespace PhraseMark

namespace Page

variable {p : Page} {body : NodeId} {source : Source} {config : ScanConfig} {text k : String}
  {ks : List String}

/-- Of the keywords that a scan takes, those that occur in the small letters of the page are
reported. -/
theorem mem_foundKeywords_iff (hmode : config.patternMode = .literal)
    (hmax : config.maxPatternLength ≤ 500) (hk : k ∈ ks) (htakes : config.Takes k) :
    k ∈ foundKeywords config text ks ↔ Text.Occurs k text := by
  rw [foundKeywords, List.mem_filter, decide_eq_true_iff, verdict_literal hmode hmax,
    if_pos htakes]
  by_cases hoccurs : Text.Occurs k text
  · simp [hk, hoccurs]
  · simp [hoccurs]

/-- A keyword of a proper length that stands in the visible text of the body as it is written is
reported just if it has no dotted capital I. Only a pass that goes on for ever keeps a scan from
its report, which takes a class of markers that is not one token. -/
theorem matched_iff_undotted (h : p.WellFormed) (hbody : p.HasBody)
    (hmode : config.patternMode = .literal) (hmax : config.maxPatternLength ≤ 500)
    (hks : source.keywords = .ok ks) (scanId : String) :
    ∃ body text, p.body? = some body ∧ p.visibleText body = .ok text ∧
      ((∃ report, (p.scan scanId source config).outcome = .ok report ∧
          ∀ k ∈ ks, k ≠ "" → k.utf8ByteSize ≤ config.maxPatternLength →
            k.toList <:+: text.toList → (k ∈ report.matched ↔ 'İ' ∉ k.toList)) ∨
        ((p.scan scanId source config).outcome = .unfinished ∧
          ¬ IsClassToken config.markerClass ∧
          RunsAway body config.markStyle p
            (scanText config (Text.lowercase text) ks).found)) := by
  obtain ⟨body, hbody⟩ := h.body?_isSome_iff.2 hbody
  obtain ⟨text, htext⟩ := h.exists_visibleText (h.body?_some hbody).1
  refine ⟨body, text, hbody, htext, ?_⟩
  by_cases hends : PassesEnd body config.markStyle p
      (scanText config (Text.lowercase text) ks).found
  · obtain ⟨report, houtcome, hmatched⟩ := exists_report hbody htext hks scanId hends
    refine .inl ⟨report, houtcome, fun k hk hne hlen hinfix => ?_⟩
    rw [hmatched, mem_foundKeywords_iff hmode hmax hk ⟨hne, hlen⟩]
    exact Text.occurs_lowercase_iff_undotted hinfix
  · have hruns := (h.not_passesEnd_iff body config.markStyle _).1 hends
    have houtcome := (h.scan_unfinished_iff hbody htext hks scanId config).2 hruns
    exact .inr ⟨houtcome, fun htoken => h.scan_ne_unfinished scanId source htoken houtcome, hruns⟩

theorem matched_iff_undotted_samplePage :
    ∃ report, (samplePage.scan "" (Source.ofList ["1"]) {}).outcome = .ok report ∧
      "1" ∈ report.matched := by
  have hbody : samplePage.HasBody := ⟨0, 0, by decide, by decide, by decide +kernel⟩
  obtain ⟨body, text, hbody, htext, hscan⟩ := @matched_iff_undotted samplePage
    (Source.ofList ["1"]) {} ["1"] consistent_samplePage.toWellFormed hbody rfl (Nat.le_refl 500)
    rfl ""
  cases hbody.symm.trans body?_samplePage
  cases htext.symm.trans visibleText_samplePage
  rcases hscan with ⟨report, houtcome, hmatched⟩ | ⟨-, hclass, -⟩
  · have hone := hmatched "1" List.mem_cons_self (by decide) (by decide) (by decide)
    exact ⟨report, houtcome, hone.2 (by decide)⟩
  · exact absurd isClassToken_default hclass

/-- A page with a body and a dotted capital I in it. -/
def dottedPage : Page :=
  [.addElement "body", .addText "İ", .append 0 1, .setRoot 0].foldl perform empty

theorem dottedPage_missed :
    dottedPage.WellFormed ∧ dottedPage.HasBody ∧ dottedPage.visibleText 0 = .ok "İ" ∧
      dottedPage.body? = some 0 ∧
      ∃ report, (dottedPage.scan "" (Source.ofList ["İ"]) {}).outcome = .ok report ∧
        "İ" ∉ report.matched := by
  have hwellFormed : dottedPage.WellFormed := wellFormed_edits _
  have hbody : dottedPage.body? = some 0 := by decide +kernel
  have htext : dottedPage.visibleText 0 = .ok "İ" := by decide +kernel
  have hks : (Source.ofList ["İ"]).keywords = .ok ["İ"] := rfl
  obtain ⟨report, houtcome, hmatched⟩ :=
    hwellFormed.exists_report isClassToken_default hbody htext hks ""
  refine ⟨hwellFormed, ⟨0, 0, by decide, by decide, by decide +kernel⟩, htext,
    hbody, report, houtcome, ?_⟩
  have htakes : ({} : ScanConfig).Takes "İ" := by decide
  rw [hmatched, mem_foundKeywords_iff rfl (Nat.le_refl 500) List.mem_cons_self htakes]
  decide

end Page

end PhraseMark
