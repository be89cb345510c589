import PhraseMark.Proofs.History
import PhraseMark.Proofs.Page.Touring
import PhraseMark.Scan.Report

/-!
# Outcomes of a scan

A scan fails before it changes or tells anything, or finds no keyword and changes and tells
nothing, or marks the hits of every keyword it found and tells of these keywords once. Every
keyword is found, rejected or absent.
-/

namespace PhraseMark

open Marking

/-! ## Keywords -/

/-- What becomes of a keyword. -/
inductive Verdict where
  | found
  | rejected (error : ScanError)
  | absent
  deriving DecidableEq

def verdict (config : ScanConfig) (text keyword : String) : Verdict :=
  match (compileKeyword config keyword).2 with
  | .error e => .rejected e
  | .ok pattern => if pattern.isMatch text then .found else .absent

/-- The keywords that are found, in order and with repetitions. -/
def foundKeywords (config : ScanConfig) (text : String) (keywords : List String) : List String :=
  keywords.filter (fun k => verdict config text k = .found)

/-- The keywords that are rejected with their errors, in order and with repetitions. -/
def rejectedKeywords (config : ScanConfig) (text : String) (keywords : List String) :
    List RejectedKeyword :=
  keywords.filterMap (fun k =>
    match verdict config text k with
    | .rejected error => some { keyword := k, error }
    | _ => none)

variable {config : ScanConfig} {text k : String}

theorem keywords_ofKeyword :
    (Matching.ofKeyword config text k).keywords =
      if verdict config text k = .found then [k] else [] := by
  unfold Matching.ofKeyword verdict Matching.keywords
  cases compileKeyword config k with
  | mk events result =>
      cases result with
      | error e => simp
      | ok pattern => by_cases hmatch : pattern.isMatch text = true <;> simp [hmatch]

theorem rejected_ofKeyword :
    (Matching.ofKeyword config text k).rejected =
      match verdict config text k with
      | .rejected error => [{ keyword := k, error }]
      | _ => [] := by
  unfold Matching.ofKeyword verdict
  cases compileKeyword config k with
  | mk events result =>
      cases result with
      | error e => rfl
      | ok pattern => by_cases hmatch : pattern.isMatch text = true <;> simp [hmatch]

theorem keywords_scanText (config : ScanConfig) (text : String) (ks : List String) :
    (scanText config text ks).keywords = foundKeywords config text ks := by
  induction ks with
  | nil => rfl
  | cons k ks ih =>
      have happend : (scanText config text (k :: ks)).keywords =
          (Matching.ofKeyword config text k).keywords ++ (scanText config text ks).keywords := by
        simp [scanText, Matching.append, Matching.keywords]
      rw [happend, ih, keywords_ofKeyword, foundKeywords, foundKeywords, List.filter_cons]
      split <;> simp_all

theorem rejected_scanText (config : ScanConfig) (text : String) (ks : List String) :
    (scanText config text ks).rejected = rejectedKeywords config text ks := by
  induction ks with
  | nil => rfl
  | cons k ks ih =>
      have happend : (scanText config text (k :: ks)).rejected =
          (Matching.ofKeyword config text k).rejected ++ (scanText config text ks).rejected := rfl
      rw [happend, ih, rejected_ofKeyword, rejectedKeywords, rejectedKeywords,
        List.filterMap_cons]
      cases verdict config text k <;> rfl

theorem isEmpty_scanText (config : ScanConfig) (text : String) (ks : List String) :
    (scanText config text ks).isEmpty = true ↔ foundKeywords config text ks = [] := by
  rw [← keywords_scanText, Matching.isEmpty, Matching.keywords, List.isEmpty_iff,
    List.map_eq_nil_iff]

/-! ## A keyword of one digit -/

/-- The pattern of the keyword `1`. -/
def samplePattern : Pattern.Regex := ⟨"1", ⟨#[.accept, .take ⟨[(49, 49)]⟩ 0], 1⟩⟩

theorem compileKeyword_samplePattern : (compileKeyword {} "1").2 = .ok samplePattern := by
  have hclass : Text.foldClass '1' = ['1'] := by decide
  have hset : Pattern.CharSet.folded '1' = ⟨[(49, 49)]⟩ := by
    simp [Pattern.CharSet.folded, hclass, Pattern.CharSet.ofChars, Pattern.CharSet.normalize,
      Pattern.CharSet.merge]
  have hparse : Pattern.Expr.ofText? "1".toList = some (.set (Pattern.CharSet.folded '1')) := by
    rfl
  have hfits : Pattern.Size.fits (.set ⟨[(49, 49)]⟩) = true := by decide
  have hregex : Pattern.Regex.compile "1" = .ok samplePattern := by
    rw [Pattern.Regex.compile, hparse, hset]
    simp only [hfits, if_true]
    rfl
  have hsource : patternSource .literal "1" = "1" := by decide
  have hguard : "1".isEmpty = false ∧ ¬ 500 < "1".utf8ByteSize := by decide
  simp only [compileKeyword, hguard.1, hguard.2, hsource, hregex]
  rfl

namespace Pattern.Program

variable {p : Program} {text : Array Char} {start more : Nat} {tried : Std.HashSet Nat}

theorem findAt_of_accept {stop : Nat}
    (h : (p.explore text (p.stepLimit text) [⟨p.start, start⟩] tried).1 = some stop) :
    p.findAt text start (more + 1) tried = some ⟨start, stop⟩ := by
  rw [findAt]
  split
  · rename_i stop' _ heq
    rw [heq] at h
    cases h
    rfl
  · rename_i heq
    rw [heq] at h
    cases h

theorem findAt_of_stuck (haccept : p.isAccept ⟨p.start, start⟩ = false)
    (hfollow : p.follow text ⟨p.start, start⟩ = []) :
    ∃ tried', p.findAt text start (more + 1) tried = p.findAt text (start + 1) more tried' := by
  obtain ⟨fuel, hfuel⟩ : ∃ fuel, p.stepLimit text = fuel + 2 := ⟨_, rfl⟩
  have hnone : (p.explore text (p.stepLimit text) [⟨p.start, start⟩] tried).1 = none := by
    rw [hfuel, explore, haccept]
    simp only [Bool.false_eq_true, if_false, hfollow, List.nil_append]
    split <;> rfl
  refine ⟨(p.explore text (p.stepLimit text) [⟨p.start, start⟩] tried).2, ?_⟩
  rw [findAt]
  split
  · rename_i stop _ heq
    rw [heq] at hnone
    cases hnone
  · rename_i heq
    rw [heq]

end Pattern.Program

theorem find?_samplePattern :
    samplePattern.program.find? #['1', '!'] 0 = some ⟨0, 1⟩ ∧
      samplePattern.program.find? #['1', '!'] 1 = none := by
  have hstart : samplePattern.program.isAccept ⟨1, 0⟩ = false := rfl
  have htake : samplePattern.program.follow #['1', '!'] ⟨1, 0⟩ = [⟨0, 1⟩] := rfl
  have hend : samplePattern.program.isAccept ⟨0, 1⟩ = true := rfl
  constructor
  · have hexplore : (samplePattern.program.explore #['1', '!'] 20 [⟨1, 0⟩] {}).1 = some 1 := by
      simp [Pattern.Program.explore, hstart, htake, hend]
    have hfind := @Pattern.Program.findAt_of_accept samplePattern.program #['1', '!'] 0 2 {} 1
      hexplore
    exact hfind
  · obtain ⟨tried, hone⟩ := @Pattern.Program.findAt_of_stuck samplePattern.program #['1', '!'] 1 1
      {} rfl rfl
    obtain ⟨tried', htwo⟩ := @Pattern.Program.findAt_of_stuck samplePattern.program #['1', '!'] 2 0
      tried rfl rfl
    exact (hone.trans htwo)

theorem spans_samplePattern : samplePattern.spans "1!" = [⟨0, 1⟩] := by
  obtain ⟨hzero, hone⟩ := find?_samplePattern
  have htext : "1!".toList.toArray = #['1', '!'] := by decide
  rw [Pattern.Regex.spans, htext]
  simp [Pattern.Program.spans, Pattern.Program.spansFrom, hzero, hone, Pattern.Span.isEmpty]

theorem isMatch_samplePattern : samplePattern.isMatch "1!" = true := by
  have htext : "1!".toList.toArray = #['1', '!'] := by decide
  rw [Pattern.Regex.isMatch, htext, Pattern.Program.isMatch, find?_samplePattern.1]
  rfl

theorem verdict_one : verdict {} "1!" "1" = .found := by
  rw [verdict, compileKeyword_samplePattern]
  simp only [isMatch_samplePattern, if_true]

theorem verdict_empty : verdict {} "1!" "" = .rejected .emptyPattern := by
  decide

theorem foundKeywords_sample : foundKeywords {} "1!" ["1", ""] = ["1"] := by
  simp [foundKeywords, verdict_one, verdict_empty]

theorem rejectedKeywords_sample :
    rejectedKeywords {} "1!" ["1", ""] = [⟨"", .emptyPattern⟩] := by
  simp [rejectedKeywords, verdict_one, verdict_empty]

theorem found_scanText_sample : (scanText {} "1!" ["1"]).found = [⟨"1", samplePattern⟩] := by
  have hfound : (Matching.ofKeyword {} "1!" "1").found = [⟨"1", samplePattern⟩] := by
    have hcompile := compileKeyword_samplePattern
    rw [Matching.ofKeyword]
    split
    · rename_i heq
      rw [heq] at hcompile
      cases hcompile
    · rename_i heq
      rw [heq] at hcompile
      cases hcompile
      rw [if_pos isMatch_samplePattern]
  simp only [scanText, Matching.append, hfound]
  rfl

theorem lowercase_sampleText : Text.lowercase "1!" = "1!" := by decide

theorem IsClassToken.markStyle (h : IsClassToken config.markerClass) :
    IsClassToken config.markStyle.markerClass := h

theorem isClassToken_default : IsClassToken ({} : ScanConfig).markerClass := by decide

namespace Marking

/-- The highlights of a pass that a scan tells of. -/
def Pass.told (pass : Pass) : List Highlight :=
  match pass.ending with
  | .failed _ => []
  | _ => pass.highlights

theorem Pass.told_of_failed {pass : Pass} {e : Fault} (h : pass.ending = .failed e) :
    pass.told = [] := by
  rw [told, h]

theorem Pass.told_of_not_failed {pass : Pass} (h : ∀ e, pass.ending ≠ .failed e) :
    pass.told = pass.highlights := by
  unfold told
  split
  · rename_i e he
    exact absurd he (h e)
  · rfl

end Marking

namespace Page

variable {p : Page} {body : NodeId} {style : MarkStyle} {found : List KeywordMatch}

/-! ## Passes for several keywords -/

/-- The passes for several keywords, one after another. -/
def passes (body : NodeId) (style : MarkStyle) : Page → List KeywordMatch → List Pass
  | _, [] => []
  | p, k :: ks =>
    p.mark body style k.pattern.spans ::
      passes body style (p.mark body style k.pattern.spans).page ks

def pageAfter (body : NodeId) (style : MarkStyle) (p : Page) (found : List KeywordMatch) : Page :=
  found.foldl (fun q k => (q.mark body style k.pattern.spans).page) p

/-- The passes for several keywords come to their ends, be it by a fault. -/
def PassesEnd (body : NodeId) (style : MarkStyle) (p : Page) (found : List KeywordMatch) : Prop :=
  ∀ pass ∈ passes body style p found, pass.ending ≠ .unfinished

section

variable {m : MarkedPage} {k : KeywordMatch} (hm : m.ended = true)

include hm

theorem markKeyword_of_ended (h : (m.page.mark body style k.pattern.spans).ending ≠ .unfinished) :
    (markKeyword style body m k).page = (m.page.mark body style k.pattern.spans).page ∧
      (markKeyword style body m k).highlights =
        m.highlights ++ (m.page.mark body style k.pattern.spans).told ∧
      (markKeyword style body m k).ended = true := by
  rw [markKeyword, if_pos hm]
  unfold Pass.told
  dsimp only
  cases hending : (m.page.mark body style k.pattern.spans).ending with
  | finished => exact ⟨rfl, rfl, hm⟩
  | failed e => exact ⟨rfl, (List.append_nil _).symm, hm⟩
  | unfinished => exact absurd hending h

theorem markKeyword_of_unfinished
    (h : (m.page.mark body style k.pattern.spans).ending = .unfinished) :
    (markKeyword style body m k).ended = false := by
  rw [markKeyword, if_pos hm]
  dsimp only
  rw [h]

end

/-- After a pass that does not end there is no other one. -/
theorem foldl_markKeyword_of_not_ended {m : MarkedPage} (hm : m.ended = false)
    (found : List KeywordMatch) : found.foldl (markKeyword style body) m = m := by
  induction found with
  | nil => rfl
  | cons k ks ih =>
      have hsame : markKeyword style body m k = m := by
        rw [markKeyword, hm, if_neg Bool.false_ne_true]
      rw [List.foldl_cons, hsame, ih]

/-- Where all passes end, the highlights of those that do not fail are told. -/
theorem foldl_markKeyword {m : MarkedPage} (hm : m.ended = true)
    (hends : PassesEnd body style m.page found) :
    (found.foldl (markKeyword style body) m).page = pageAfter body style m.page found ∧
      (found.foldl (markKeyword style body) m).highlights =
        m.highlights ++ (passes body style m.page found).flatMap (·.told) ∧
      (found.foldl (markKeyword style body) m).ended = true := by
  induction found generalizing m with
  | nil => exact ⟨rfl, (List.append_nil _).symm, hm⟩
  | cons k ks ih =>
      obtain ⟨hfirst, hlater⟩ := List.forall_mem_cons.1 hends
      obtain ⟨hpage, hhighlights, hm'⟩ := markKeyword_of_ended hm hfirst
      have hrest := ih (m := markKeyword style body m k) hm' (hpage ▸ hlater)
      rw [hpage, hhighlights, List.append_assoc] at hrest
      exact hrest

theorem ended_foldl_markKeyword_iff {m : MarkedPage} (hm : m.ended = true) :
    (found.foldl (markKeyword style body) m).ended = true ↔ PassesEnd body style m.page found := by
  refine ⟨?_, fun hends => (foldl_markKeyword hm hends).2.2⟩
  induction found generalizing m with
  | nil => exact fun _ pass hpass => absurd hpass List.not_mem_nil
  | cons k ks ih =>
      intro hended
      rw [List.foldl_cons] at hended
      by_cases hfirst : (m.page.mark body style k.pattern.spans).ending = .unfinished
      · have hm' := markKeyword_of_unfinished hm hfirst
        rw [foldl_markKeyword_of_not_ended hm', hm'] at hended
        cases hended
      · obtain ⟨hpage, -, hm'⟩ := markKeyword_of_ended hm hfirst
        have hlater := ih hm' hended
        rw [hpage] at hlater
        exact List.forall_mem_cons.2 ⟨hfirst, hlater⟩

theorem WellFormed.size_le_mark (h : p.WellFormed) (hbody : body < p.size)
    (htoken : IsClassToken style.markerClass) (matcher : Matcher) :
    p.size ≤ (p.mark body style matcher).page.size := by
  rw [(h.mark_completes hbody htoken matcher).page, size_batch]
  exact Nat.le_add_right _ _

/-- With a class of one token every pass comes to its end without a fault. -/
theorem WellFormed.passes_finished (h : p.WellFormed) (hbody : body < p.size)
    (htoken : IsClassToken style.markerClass) (found : List KeywordMatch) :
    ∀ pass ∈ passes body style p found, pass.ending = .finished := by
  induction found generalizing p with
  | nil => exact fun pass hpass => absurd hpass List.not_mem_nil
  | cons k ks ih =>
      have hdone := h.mark_completes hbody htoken k.pattern.spans
      have hsize := h.size_le_mark hbody htoken k.pattern.spans
      exact List.forall_mem_cons.2
        ⟨hdone.ending, ih hdone.wellFormed (Nat.lt_of_lt_of_le hbody hsize)⟩

theorem WellFormed.passesEnd (h : p.WellFormed) (hbody : body < p.size)
    (htoken : IsClassToken style.markerClass) (found : List KeywordMatch) :
    PassesEnd body style p found := by
  intro pass hpass
  rw [h.passes_finished hbody htoken found pass hpass]
  exact Ending.noConfusion

/-! ## Scans -/

/-- A scan that has changed nothing and told nothing. -/
structure Idle (p : Page) (done : Scan) : Prop where
  page : done.page = p
  sent : done.sent = []

/-- A BODY element stands at or under the root. -/
def HasBody (p : Page) : Prop :=
  ∃ root y, p.root = some root ∧ root ∈ p.lineage y ∧ (p.node y).hasTag "BODY" = true

theorem WellFormed.body?_isSome_iff (h : p.WellFormed) :
    (∃ body, p.body? = some body) ↔ p.HasBody := by
  constructor
  · rintro ⟨body, hbody⟩
    by_contra hnone
    have hmissing : p.body? = none := by
      apply h.body?_eq_none_iff.2
      intro root hroot y hy
      apply Bool.eq_false_iff.2
      intro htag
      exact hnone ⟨root, y, hroot, hy, htag⟩
    rw [hbody] at hmissing
    cases hmissing
  · rintro ⟨root, y, hroot, hy, htag⟩
    apply Option.ne_none_iff_exists'.1
    intro hmissing
    have hnone := h.body?_eq_none_iff.1 hmissing root hroot y hy
    rw [htag] at hnone
    cases hnone

variable {keywords : List String} {config : ScanConfig} {text : String}

theorem scanFor_of_missing (keywords : List String) (config : ScanConfig) (h : p.body? = none) :
    (p.scanFor keywords config).outcome = .error (.page .missingBody) ∧
      p.Idle (p.scanFor keywords config) := by
  simp only [scanFor, h]
  exact ⟨trivial, rfl, rfl⟩

theorem scanFor_of_nil (hbody : p.body? = some body) (htext : p.visibleText body = .ok text)
    (hfound : foundKeywords config (Text.lowercase text) keywords = []) :
    (p.scanFor keywords config).outcome =
        .ok { rejected := rejectedKeywords config (Text.lowercase text) keywords } ∧
      p.Idle (p.scanFor keywords config) := by
  have hempty := (isEmpty_scanText config (Text.lowercase text) keywords).2 hfound
  simp only [scanFor, hbody, htext, hempty, if_true, rejected_scanText]
  exact ⟨trivial, rfl, rfl⟩

/-- What is reported and told when keywords were found. -/
structure Detection (p : Page) (body : NodeId) (config : ScanConfig) (found : List KeywordMatch)
    (done : Scan) (report : Report) : Prop where
  page : done.page = pageAfter body config.markStyle p found
  sent : done.sent = [.detected report.matched report.matched.length]
  ended : ∀ pass ∈ passes body config.markStyle p found, pass.ending = .finished
  highlights : report.highlights =
    ((passes body config.markStyle p found).flatMap (·.highlights)).map
      (pageAfter body config.markStyle p found).locateHighlight

/-- Where the passes for the keywords that were found all end, a scan comes to a report. -/
theorem scanFor_of_ended (hbody : p.body? = some body) (htext : p.visibleText body = .ok text)
    (hends : PassesEnd body config.markStyle p
      (scanText config (Text.lowercase text) keywords).found) :
    ∃ report, (p.scanFor keywords config).outcome = .ok report ∧
      report.matched = foundKeywords config (Text.lowercase text) keywords ∧
      report.rejected = rejectedKeywords config (Text.lowercase text) keywords ∧
      (p.scanFor keywords config).page = pageAfter body config.markStyle p
        (scanText config (Text.lowercase text) keywords).found ∧
      (foundKeywords config (Text.lowercase text) keywords ≠ [] →
        (p.scanFor keywords config).sent = [.detected report.matched report.matched.length]) ∧
      report.highlights = ((passes body config.markStyle p
        (scanText config (Text.lowercase text) keywords).found).flatMap (·.told)).map
          (pageAfter body config.markStyle p
            (scanText config (Text.lowercase text) keywords).found).locateHighlight := by
  by_cases hfound : foundKeywords config (Text.lowercase text) keywords = []
  · obtain ⟨houtcome, hidle⟩ := scanFor_of_nil hbody htext hfound
    have hnil := List.isEmpty_iff.1
      ((isEmpty_scanText config (Text.lowercase text) keywords).2 hfound)
    refine ⟨_, houtcome, hfound.symm, rfl, ?_, fun hne => absurd hfound hne, ?_⟩
    · rw [hidle.page, hnil]
      rfl
    · rw [hnil]
      rfl
  · have hempty : (scanText config (Text.lowercase text) keywords).isEmpty = false :=
      Bool.eq_false_iff.2 (mt (isEmpty_scanText config (Text.lowercase text) keywords).1 hfound)
    obtain ⟨hpage, hhighlights, hended⟩ := foldl_markKeyword (m := { page := p }) rfl hends
    simp only [scanFor, hbody, htext, hempty, Bool.false_eq_true, if_false, markKeywords, hended,
      if_true, ScanOutcome.ok.injEq, exists_eq_left']
    refine ⟨keywords_scanText _ _ _, rejected_scanText _ _ _, hpage, fun _ => rfl, ?_⟩
    rw [hpage, hhighlights]
    rfl

/-- Where one of the passes does not end, a scan does not end either. -/
theorem scanFor_of_not_ended (hbody : p.body? = some body) (htext : p.visibleText body = .ok text)
    (hends : ¬ PassesEnd body config.markStyle p
      (scanText config (Text.lowercase text) keywords).found) :
    (p.scanFor keywords config).outcome = .unfinished := by
  have hempty : (scanText config (Text.lowercase text) keywords).isEmpty = false := by
    apply Bool.eq_false_iff.2
    intro hempty
    rw [List.isEmpty_iff.1 hempty] at hends
    exact hends (fun pass hpass => absurd hpass List.not_mem_nil)
  have hended := mt (ended_foldl_markKeyword_iff (m := { page := p }) rfl).1 hends
  simp only [scanFor, hbody, htext, hempty, Bool.false_eq_true, if_false, markKeywords, hended]

theorem WellFormed.scanFor_of_found (h : p.WellFormed) (htoken : IsClassToken config.markerClass)
    (hbody : p.body? = some body) (htext : p.visibleText body = .ok text)
    (hfound : foundKeywords config (Text.lowercase text) keywords ≠ []) :
    ∃ report, (p.scanFor keywords config).outcome = .ok report ∧
      report.matched = foundKeywords config (Text.lowercase text) keywords ∧
      report.rejected = rejectedKeywords config (Text.lowercase text) keywords ∧
      p.Detection body config (scanText config (Text.lowercase text) keywords).found
        (p.scanFor keywords config) report := by
  have hlt := (h.body?_some hbody).1
  have hfinished := h.passes_finished hlt htoken.markStyle
    (scanText config (Text.lowercase text) keywords).found
  obtain ⟨report, houtcome, hmatched, hrejected, hpage, hsent, hhighlights⟩ :=
    scanFor_of_ended hbody htext (h.passesEnd hlt htoken.markStyle _)
  refine ⟨report, houtcome, hmatched, hrejected, hpage, hsent hfound, hfinished, ?_⟩
  rw [hhighlights]
  congr 1
  apply List.flatMap_congr
  intro pass hpass
  apply Pass.told_of_not_failed
  intro e he
  rw [hfinished pass hpass] at he
  cases he

theorem body?_samplePage : samplePage.body? = some 0 := by decide +kernel

theorem visibleText_samplePage : samplePage.visibleText 0 = .ok "1!" := by decide +kernel

/-- The outcome of a scan. A source that fails ends it with the error of the source; without a
BODY under the root it ends with that error; both ways nothing is changed and nothing is told.
Otherwise the scan succeeds. Each keyword is found in the visible text of the body in small
letters, rejected, or absent from it, and the found and the rejected ones are reported in the
order of the keywords. If none is found, nothing is changed and nothing is told. If some are, every
pass comes to its end, the highlights of all passes are reported, and one message names the found
keywords and their number. -/
theorem scan_outcome (h : p.WellFormed) (scanId : String) (source : Source) (config : ScanConfig)
    (htoken : IsClassToken config.markerClass) :
    (∀ e, source.keywords = .error e →
      (p.scan scanId source config).outcome = .error e ∧ p.Idle (p.scan scanId source config)) ∧
    (∀ ks, source.keywords = .ok ks → ¬ p.HasBody →
      (p.scan scanId source config).outcome = .error (.page .missingBody) ∧
        p.Idle (p.scan scanId source config)) ∧
    (∀ ks, source.keywords = .ok ks → p.HasBody → ∃ body text report,
      p.body? = some body ∧ p.visibleText body = .ok text ∧
        (p.scan scanId source config).outcome = .ok report ∧
        report.matched = foundKeywords config (Text.lowercase text) ks ∧
        report.rejected = rejectedKeywords config (Text.lowercase text) ks ∧
        (∀ wording, ("highlight_count", Json.natural report.highlights.length) ∈
          report.members wording) ∧
        (report.matched = [] → report.highlights = [] ∧ p.Idle (p.scan scanId source config)) ∧
        (report.matched ≠ [] → p.Detection body config
          (scanText config (Text.lowercase text) ks).found (p.scan scanId source config)
          report)) := by
  refine ⟨?_, ?_, ?_⟩
  · intro e he
    simp only [scan, he]
    exact ⟨trivial, rfl, rfl⟩
  · intro ks hks hnone
    have hbody : p.body? = none := by
      rw [← Option.not_isSome_iff_eq_none, Option.isSome_iff_exists, h.body?_isSome_iff]
      exact hnone
    obtain ⟨houtcome, hidle⟩ := scanFor_of_missing ks config hbody
    simp only [scan, hks]
    exact ⟨houtcome, hidle.page, hidle.sent⟩
  · intro ks hks hsome
    obtain ⟨body, hbody⟩ := h.body?_isSome_iff.2 hsome
    obtain ⟨text, htext⟩ := h.exists_visibleText (h.body?_some hbody).1
    have hcount : ∀ (report : Report) wording,
        ("highlight_count", Json.natural report.highlights.length) ∈ report.members wording := by
      intro report wording
      simp [Report.members]
    by_cases hfound : foundKeywords config (Text.lowercase text) ks = []
    · obtain ⟨houtcome, hidle⟩ := scanFor_of_nil hbody htext hfound
      have hnone : (Report.matched { rejected := rejectedKeywords config (Text.lowercase text) ks })
          = [] := rfl
      refine ⟨body, text, _, hbody, htext, ?_, hfound.symm, rfl, hcount _, ?_,
        fun hne => absurd hnone hne⟩
      · simp only [scan, hks]
        exact houtcome
      · intro _
        refine ⟨rfl, ?_⟩
        simp only [scan, hks]
        exact ⟨hidle.page, hidle.sent⟩
    · obtain ⟨report, houtcome, hmatched, hrejected, hdetection⟩ :=
        h.scanFor_of_found htoken hbody htext hfound
      refine ⟨body, text, report, hbody, htext, ?_, hmatched, hrejected, hcount report,
        fun hnil => absurd (hmatched ▸ hnil) hfound, ?_⟩
      · simp only [scan, hks]
        exact houtcome
      · intro _
        simp only [scan, hks]
        exact ⟨hdetection.page, hdetection.sent, hdetection.ended, hdetection.highlights⟩

theorem scan_outcome_samplePage :
    ∃ report, (samplePage.scan "" (Source.ofList ["1", ""]) {}).outcome = .ok report ∧
      report.matched = ["1"] ∧ report.rejected = [⟨"", .emptyPattern⟩] ∧
      (samplePage.scan "" (Source.ofList ["1", ""]) {}).sent = [.detected ["1"] 1] := by
  have houtcome := scan_outcome consistent_samplePage.toWellFormed "" (Source.ofList ["1", ""]) {}
    (by decide)
  obtain ⟨-, -, hscan⟩ := houtcome
  have hbody : samplePage.HasBody := ⟨0, 0, by decide, by decide, by decide +kernel⟩
  obtain ⟨body, text, report, hbody, htext, hok, hmatched, hrejected, -, -, hdetection⟩ :=
    hscan _ rfl hbody
  cases hbody.symm.trans body?_samplePage
  cases htext.symm.trans visibleText_samplePage
  rw [lowercase_sampleText, foundKeywords_sample] at hmatched
  rw [lowercase_sampleText, rejectedKeywords_sample] at hrejected
  have hsent := (hdetection (hmatched ▸ List.cons_ne_nil _ _)).sent
  rw [hmatched] at hsent
  exact ⟨report, hok, hmatched, hrejected, hsent⟩

end Page

end PhraseMark
