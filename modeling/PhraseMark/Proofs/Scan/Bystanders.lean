import PhraseMark.Proofs.Scan.Exactness

/-!
# Keywords that stand by

A keyword that is rejected, or that has no hit in the text of the page, changes nothing for the
others: with it in the list, wherever it stands there, a scan marks the same hits, leaves the same
page and tells the same. Only among the rejected keywords it may show.
-/

namespace PhraseMark

/-- `ls` is `ks` with more members put in anywhere, all of which are `extra`. -/
inductive Padded {α : Type} (extra : α → Prop) : List α → List α → Prop
  | nil : Padded extra [] []
  | keep {ks ls : List α} (k : α) : Padded extra ks ls → Padded extra (k :: ks) (k :: ls)
  | insert {ks ls : List α} {k : α} : extra k → Padded extra ks ls → Padded extra ks (k :: ls)

/-- A keyword that does not become a pattern, or whose pattern has no hit in a text. -/
def StandsBy (config : ScanConfig) (text k : String) : Prop :=
  match (compileKeyword config k).2 with
  | .error _ => True
  | .ok pattern => pattern.isMatch text = false

variable {config : ScanConfig} {text k : String} {ks ls : List String}

theorem standsBy_iff : StandsBy config text k ↔ verdict config text k ≠ .found := by
  unfold StandsBy verdict
  cases (compileKeyword config k).2 with
  | error e => simp
  | ok pattern => cases pattern.isMatch text <;> simp

/-- A keyword whose characters stand for themselves stands by if it is not taken or does not occur
in the text up to case. -/
theorem standsBy_literal_iff (hmode : config.patternMode = .literal)
    (hmax : config.maxPatternLength ≤ 500) :
    StandsBy config text k ↔ ¬ config.Takes k ∨ ¬ Text.Occurs k text := by
  rw [standsBy_iff, verdict_literal hmode hmax]
  by_cases htakes : config.Takes k <;> by_cases hoccurs : Text.Occurs k text <;>
    simp [htakes, hoccurs]

theorem found_ofKeyword (h : StandsBy config text k) :
    (Matching.ofKeyword config text k).found = [] := by
  have hkeywords := @keywords_ofKeyword config text k
  rw [if_neg (standsBy_iff.1 h)] at hkeywords
  exact List.map_eq_nil_iff.1 hkeywords

theorem found_scanText (h : Padded (StandsBy config text) ks ls) :
    (scanText config text ls).found = (scanText config text ks).found := by
  induction h with
  | nil => rfl
  | keep k _ ih => simp only [scanText, Matching.append, ih]
  | insert hk _ ih => simp only [scanText, Matching.append, found_ofKeyword hk, List.nil_append, ih]

/-- The rejected ones of the keywords put in are put in at their places. -/
theorem Padded.rejectedKeywords {extra : String → Prop} (h : Padded extra ks ls) :
    Padded (fun r => extra r.keyword) (rejectedKeywords config text ks)
      (rejectedKeywords config text ls) := by
  induction h with
  | nil => exact .nil
  | keep k _ ih =>
      simp only [PhraseMark.rejectedKeywords, List.filterMap_cons] at ih ⊢
      cases verdict config text k with
      | found => exact ih
      | rejected e => exact ih.keep _
      | absent => exact ih
  | @insert ks ls k hk _ ih =>
      simp only [PhraseMark.rejectedKeywords, List.filterMap_cons] at ih ⊢
      cases verdict config text k with
      | found => exact ih
      | rejected e => exact ih.insert hk
      | absent => exact ih

namespace Page

variable {p : Page} {source source' : Source}

/-- The text in which a scan looks for keywords: the visible text of the body in lower case, and
nothing where there is none. -/
def scannedText (p : Page) : String :=
  match p.body? with
  | none => ""
  | some body =>
    match p.visibleText body with
    | .error _ => ""
    | .ok text => Text.lowercase text

theorem padded_self (extra : String → Prop) (ks : List String) : Padded extra ks ks := by
  induction ks with
  | nil => exact .nil
  | cons k ks ih => exact ih.keep k

theorem scanFor_padded (h : Padded (StandsBy config p.scannedText) ks ls) :
    (p.scanFor ls config).page = (p.scanFor ks config).page ∧
      (p.scanFor ls config).sent = (p.scanFor ks config).sent ∧
      (p.scanFor ls config).outcome = (p.scanFor ks config).outcome.map
        (fun r => { r with rejected := rejectedKeywords config p.scannedText ls }) := by
  have hfound := found_scanText h
  have hrejected := rejected_scanText config p.scannedText ls
  cases hbody : p.body? with
  | none =>
      simp only [scanFor, hbody]
      exact ⟨trivial, trivial, rfl⟩
  | some body =>
      cases htext : p.visibleText body with
      | error e =>
          simp only [scanFor, hbody, htext]
          exact ⟨trivial, trivial, rfl⟩
      | ok text =>
          have hscanned : p.scannedText = Text.lowercase text := by
            simp only [scannedText, hbody, htext]
          rw [hscanned] at hfound hrejected ⊢
          have hempty : (scanText config (Text.lowercase text) ls).isEmpty =
              (scanText config (Text.lowercase text) ks).isEmpty := congrArg List.isEmpty hfound
          have hkeywords : (scanText config (Text.lowercase text) ls).keywords =
              (scanText config (Text.lowercase text) ks).keywords :=
            congrArg (List.map KeywordMatch.keyword) hfound
          simp only [scanFor, hbody, htext, hempty, hkeywords, hfound, hrejected]
          cases (scanText config (Text.lowercase text) ks).isEmpty with
          | true => exact ⟨rfl, rfl, rfl⟩
          | false =>
              cases (p.markKeywords body config.markStyle
                (scanText config (Text.lowercase text) ks).found).ended with
              | true => exact ⟨rfl, rfl, rfl⟩
              | false => exact ⟨rfl, rfl, rfl⟩

/-- Keywords that stand by disturb no other. Put into a list of keywords, anywhere and in any
number, keywords that are rejected or have no hit in the text of the page: a scan for the new list
leaves the page, tells the messages and gives the outcome that a scan for the old list does, error
or report, but for the rejected keywords of the report. These are the rejected ones of the new list
in its order, so those of the old list with more of them put in at their places. -/
theorem scan_padded (scanId scanId' : String) (hks : source.keywords = .ok ks)
    (hls : source'.keywords = .ok ls) (h : Padded (StandsBy config p.scannedText) ks ls) :
    (p.scan scanId' source' config).page = (p.scan scanId source config).page ∧
      (p.scan scanId' source' config).sent = (p.scan scanId source config).sent ∧
      (p.scan scanId' source' config).outcome = (p.scan scanId source config).outcome.map
        (fun r => { r with rejected := rejectedKeywords config p.scannedText ls }) ∧
      ∀ r r', (p.scan scanId source config).outcome = .ok r →
        (p.scan scanId' source' config).outcome = .ok r' →
          Padded (fun e => StandsBy config p.scannedText e.keyword) r.rejected r'.rejected := by
  obtain ⟨hpage, hsent, houtcome⟩ := scanFor_padded h
  -- a list is its own padding, so the old report has the rejected ones of the old list
  obtain ⟨-, -, hsame⟩ := scanFor_padded (padded_self (StandsBy config p.scannedText) ks)
  simp only [scan, hks, hls]
  refine ⟨hpage, hsent, houtcome, ?_⟩
  intro r r' hr hr'
  rw [hr, ScanOutcome.map, ScanOutcome.ok.injEq] at hsame
  rw [hr, hr', ScanOutcome.map, ScanOutcome.ok.injEq] at houtcome
  rw [houtcome, hsame]
  exact h.rejectedKeywords

theorem scan_padded_samplePage :
    (samplePage.scan "" (Source.ofList ["", "1", "2"]) {}).page =
        (samplePage.scan "" (Source.ofList ["1"]) {}).page ∧
      (samplePage.scan "" (Source.ofList ["", "1", "2"]) {}).sent =
        (samplePage.scan "" (Source.ofList ["1"]) {}).sent := by
  have hscanned : samplePage.scannedText = "1!" := by
    simp only [scannedText, body?_samplePage, visibleText_samplePage, lowercase_sampleText]
  have hempty : StandsBy {} samplePage.scannedText "" := by
    rw [hscanned]
    exact (standsBy_literal_iff rfl (Nat.le_refl 500)).2 (.inl (by decide))
  have hmissing : StandsBy {} samplePage.scannedText "2" := by
    rw [hscanned]
    exact (standsBy_literal_iff rfl (Nat.le_refl 500)).2 (.inr (by decide))
  have hscan := @scan_padded {} ["1"] ["", "1", "2"] samplePage (Source.ofList ["1"])
    (Source.ofList ["", "1", "2"]) "" "" rfl rfl
    (.insert hempty (.keep "1" (.insert hmissing .nil)))
  exact ⟨hscan.1, hscan.2.1⟩

end Page

end PhraseMark
