import PhraseMark.Proofs.Scan.FirstOccurrences
import PhraseMark.Proofs.Scan.Highlights
import PhraseMark.Proofs.Text.Lowercase

/-!
# Passes that fail

Where the two copies of a link disagree, a pass can come to a text node that it cannot replace.
It fails there, after it may have marked others. What such a pass has marked stays in the page, and
the scan does not tell of it. Of every other new element under the body it tells, whatever the
links of the page are.
-/

namespace PhraseMark

open Marking

namespace Page

variable {p q r : Page} {id x y body : NodeId} {rs : List NodeId} {hs hs' : List Highlight}

/-- A node can be reached from `x` by child lists. -/
inductive Reaches (p : Page) (x : NodeId) : NodeId → Prop
  | here : Reaches p x x
  | child {y z : NodeId} : Reaches p x y → z ∈ (p.node y).children → Reaches p x z

/-! ## Pages that grow -/

/-- Nodes were added to a page, and its child lists have no new entries but these. -/
structure Grows (p q : Page) : Prop where
  size_le : p.size ≤ q.size
  unlinked : ∀ x < p.size, (q.node x).unlinked = (p.node x).unlinked
  children : ∀ x y, y ∈ (q.node x).children → y ∈ (p.node x).children ∨ p.size ≤ y

namespace Grows

theorem refl (p : Page) : Grows p p := ⟨Nat.le_refl _, fun _ _ => rfl, fun _ _ hy => .inl hy⟩

theorem trans (h : Grows p q) (h' : Grows q r) : Grows p r where
  size_le := Nat.le_trans h.size_le h'.size_le
  unlinked := fun x hx =>
    (h'.unlinked x (Nat.lt_of_lt_of_le hx h.size_le)).trans (h.unlinked x hx)
  children := by
    intro x y hy
    rcases h'.children x y hy with hy | hle
    · exact h.children x y hy
    · exact .inr (Nat.le_trans h.size_le hle)

theorem isElement_eq (h : Grows p q) (hx : x < p.size) :
    (q.node x).isElement = (p.node x).isElement := by
  have hkind := congrArg Node.isElement (h.unlinked x hx)
  exact hkind

/-- An old node that can be reached could be reached before. -/
theorem reaches (h : Grows p q) (hy : q.Reaches x y) : p.Reaches x y ∨ p.size ≤ y := by
  induction hy with
  | here => exact .inl .here
  | @child y z _ hz ih =>
      rcases h.children y z hz with hz | hle
      · rcases ih with hy | hle
        · exact .inl (hy.child hz)
        · -- a new node has no old children
          rw [children_of_le hle] at hz
          exact absurd hz List.not_mem_nil
      · exact .inr hle

end Grows

/-- Every element that `q` has beyond `p` is the span of a highlight. -/
def Tells (p q : Page) (hs : List Highlight) : Prop :=
  ∀ x, p.size ≤ x → x < q.size → (q.node x).isElement = true → x ∈ hs.map (·.span)

theorem Tells.refl (p : Page) (hs : List Highlight) : Tells p p hs :=
  fun _ hle hlt => absurd hlt (Nat.not_lt.2 hle)

theorem Tells.trans (h : Tells p q hs) (hgrows : Grows q r) (h' : Tells q r hs') :
    Tells p r (hs ++ hs') := by
  intro x hle hlt helement
  rw [List.map_append, List.mem_append]
  by_cases hx : x < q.size
  · exact .inl (h x hle hx (hgrows.isElement_eq hx ▸ helement))
  · exact .inr (h' x (Nat.not_lt.1 hx) hlt helement)

/-! ## Adding pieces -/

theorem exists_mem_nodesOf {markerClass : String} {as : List Piece} (hle : p.size ≤ x)
    (hx : x < (p.extend (nodesOf markerClass none (number p.size as))).size) :
    ∃ n ∈ nodesOf markerClass none (number p.size as), n.id = x ∧
      (p.extend (nodesOf markerClass none (number p.size as))).node x = n := by
  obtain ⟨k, rfl⟩ := Nat.exists_eq_add_of_le hle
  have hk : k < (nodesOf markerClass none (number p.size as)).length := by
    rw [size_extend] at hx
    exact Nat.lt_of_add_lt_add_left hx
  have hlen := length_nodesOf_number markerClass none p.size as
  refine ⟨_, List.getElem_mem hk, ?_, ?_⟩
  · have hids := congrArg (·[k]?) (map_id_nodesOf_number markerClass none p.size as)
    simpa [hk, hlen ▸ hk] using hids
  · rw [node_extend_of_le, List.getElem?_eq_getElem hk, Option.getD_some]

variable {style : MarkStyle} {text : List Char} {cursor : Nat} {hits : List Pattern.Span}

theorem grows_addPieces (p : Page) (style : MarkStyle) (text : List Char) (cursor : Nat)
    (hits : List Pattern.Span) : Grows p (addPieces style text p cursor hits).page := by
  rw [addPieces_eq]
  refine ⟨?_, fun x hx => by rw [node_extend_of_lt hx], fun x y hy => ?_⟩
  · rw [size_extend]
    exact Nat.le_add_right _ _
  · by_cases hx : x < p.size
    · rw [node_extend_of_lt hx] at hy
      exact .inl hy
    · have hlt := lt_of_mem_children hy
      obtain ⟨n, hn, -, hnode⟩ := exists_mem_nodesOf (Nat.not_lt.1 hx) hlt
      rw [hnode] at hy
      exact .inr (notMem_of_mem_children hn hy).1

theorem tells_addPieces (p : Page) (style : MarkStyle) (text : List Char) (cursor : Nat)
    (hits : List Pattern.Span) :
    Tells p (addPieces style text p cursor hits).page
      (addPieces style text p cursor hits).highlights := by
  rw [addPieces_eq]
  intro x hle hlt helement
  obtain ⟨n, hn, rfl, hnode⟩ := exists_mem_nodesOf hle hlt
  rw [hnode] at helement
  obtain ⟨⟨i, a⟩, hb, hn⟩ := mem_nodesOf.1 hn
  rcases Piece.cases_of_mem_nodes hn with ⟨htext, -⟩ | ⟨-, hid, text, rfl⟩
  · rw [Node.isElement_eq_false_of_isText htext] at helement
    cases helement
  · exact List.mem_map.2 ⟨⟨i, text⟩, mem_highlightsOf.2 hb, hid.symm⟩

/-- The pieces of a text are added behind the last node, and none has a parent yet. -/
theorem parent_addPieces {i : NodeId} (hi : i ∈ (addPieces style text p cursor hits).ids) :
    p.size ≤ i ∧ ((addPieces style text p cursor hits).page.node i).parent = none := by
  rw [addPieces_eq] at hi ⊢
  refine ⟨le_of_mem_ids hi, ?_⟩
  obtain ⟨⟨j, a⟩, hb, rfl⟩ := List.mem_map.1 hi
  by_cases hlt : j < (p.extend (nodesOf style.markerClass none
      (number p.size (piecesFrom text cursor hits)))).size
  · obtain ⟨n, hn, hid, hnode⟩ := exists_mem_nodesOf (le_of_mem_ids hi) hlt
    rw [hnode]
    have hparent := nodesOf_eq_map style.markerClass none
      ((number p.size (piecesFrom text cursor hits)).map (·.1))
      (fun b hb => List.mem_map_of_mem hb) (fun b hb hwidth => succ_notMem_number hb hwidth)
    rw [hparent] at hn
    obtain ⟨m, -, rfl⟩ := List.mem_map.1 hn
    simp only at hid
    simp only [hid, hi, if_true]
  · exact parent_of_le (Nat.not_lt.1 hlt)

/-! ## Replacing by nodes without parents -/

/-- Nodes without parents need not be taken out of their places. -/
theorem fst_clearWay_of_parentless (hrs : ∀ r ∈ rs, (p.node r).parent = none) :
    (p.clearWay id x rs).1 = p := by
  induction rs with
  | nil => rfl
  | cons r rs ih =>
      rw [clearWay_cons]
      repeat' split
      · rfl
      · rfl
      · rfl
      · rename_i q hd
        have hq : q = p := by
          unfold detach at hd
          split at hd
          · cases hd
          · rename_i n hn
            rw [← node_of_get hn, hrs r List.mem_cons_self] at hd
            cases hd
            rfl
        rw [hq]
        exact ih (fun s hs => hrs s (List.mem_cons_of_mem r hs))

/-- A replacement by nodes without parents puts them in place or leaves the page as it is. -/
theorem replace_cases_of_parentless (hrs : ∀ r ∈ rs, (p.node r).parent = none) (id : NodeId) :
    (∃ e, p.replace id rs = (p, .error e)) ∨
      ∃ x i, p.replace id rs = (p.putInPlace x id i rs, .ok ()) := by
  rcases replace_cases p id rs with herror | ⟨x, -, ⟨e, he⟩ | ⟨i, -, -, he⟩⟩
  · exact .inl herror
  · rw [fst_clearWay_of_parentless hrs] at he
    exact .inl ⟨e, he⟩
  · rw [fst_clearWay_of_parentless hrs] at he
    exact .inr ⟨x, i, he⟩

theorem mem_children_putInPlace {i : Nat} (hy : y ∈ ((p.putInPlace body id i rs).node x).children) :
    y ∈ (p.node x).children ∨ y ∈ rs := by
  rw [putInPlace, children_modify_parent, children_adopt,
    children_modify_children p body x (splice · i rs)] at hy
  split at hy
  · simp only [splice, List.mem_append] at hy
    rcases hy with (hy | hy) | hy
    · exact .inl (List.mem_of_mem_take hy)
    · exact .inr hy
    · exact .inl (List.mem_of_mem_drop hy)
  · exact .inl hy

/-- Replacing a node by its pieces adds to a page just the pieces. When it fails the old nodes are
as they were. -/
theorem replace_addPieces_grows (p : Page) (style : MarkStyle) (text : List Char)
    (hits : List Pattern.Span) (id : NodeId) {pieces : Pieces}
    (hpieces : addPieces style text p 0 hits = pieces) :
    Grows p (pieces.page.replace id pieces.ids).1 ∧
      Tells p (pieces.page.replace id pieces.ids).1 pieces.highlights ∧
      ∀ e, (pieces.page.replace id pieces.ids).2 = .error e →
        ∀ x < p.size, (pieces.page.replace id pieces.ids).1.node x = p.node x := by
  have hgrows := grows_addPieces p style text 0 hits
  have htells := tells_addPieces p style text 0 hits
  have hfree := fun i hi => @parent_addPieces p style text 0 hits i hi
  have hold : ∀ x < p.size, (addPieces style text p 0 hits).page.node x = p.node x := by
    intro x hx
    rw [addPieces_eq]
    exact node_extend_of_lt hx
  rw [hpieces] at hgrows htells hfree hold
  rcases replace_cases_of_parentless (fun i hi => (hfree i hi).2) id with ⟨e, he⟩ | ⟨x, i, he⟩
  · rw [he]
    exact ⟨hgrows, htells, fun _ _ => hold⟩
  · have hrelinked := relinked_putInPlace pieces.page x id i pieces.ids
    rw [he]
    refine ⟨⟨?_, ?_, ?_⟩, ?_, fun e he => by cases he⟩
    · rw [hrelinked.size]
      exact hgrows.size_le
    · intro z hz
      rw [hrelinked.unlinked, hgrows.unlinked z hz]
    · intro z y hy
      rcases mem_children_putInPlace hy with hy | hy
      · exact hgrows.children z y hy
      · exact .inr (hfree y hy).1
    · intro z hle hlt helement
      rw [hrelinked.size] at hlt
      exact htells z hle hlt ((congrArg Node.isElement (hrelinked.unlinked z)).symm.trans helement)

end Page

/-! ## Passes -/

namespace Marking

variable {style : MarkStyle} {matcher : Matcher} {p q : Page} {w w' : Walker} {y : NodeId}
  {n : Node} {steps : Nat} {e : Fault} {pieces : Pieces}

/-- What a pass did to a page: it added nodes. If it did not fail, its highlights tell of all new
elements; if it failed without a highlight, the old nodes are as they were. -/
structure Accounts (p : Page) (pass : Pass) : Prop where
  grows : p.Grows pass.page
  tells : (∀ e, pass.ending ≠ .failed e) → p.Tells pass.page pass.highlights
  kept : ∀ e, pass.ending = .failed e → pass.highlights = [] →
    ∀ x < p.size, pass.page.node x = p.node x

theorem run_of_fault (hnext : w.next p = (w', .ok (some y))) (hn : p.get y = .ok n)
    (hchosen : chosen style matcher n.value ≠ [])
    (hpieces : addPieces style n.value.toList p 0 (chosen style matcher n.value) = pieces)
    (hreplace : pieces.page.replace y pieces.ids = (q, .error e)) :
    run style matcher (steps + 1) w p = { page := q, ending := .failed e, visited := 1 } := by
  simp only [run, hnext, hn]
  split
  · rename_i heq
    rw [hpieces, hreplace] at heq
    cases heq
    rfl
  · rename_i heq
    rw [hpieces, hreplace] at heq
    cases heq

theorem Accounts.of_unchanged (ending : Ending) (visited : Nat) :
    Accounts p { page := p, ending, visited } where
  grows := .refl p
  tells := fun _ => .refl p _
  kept := fun _ _ _ _ _ => rfl

theorem Accounts.of_hit {pass : Pass} {visited : Nat} {events : List LogEvent}
    (hne : pieces.highlights ≠ []) (hgrows : p.Grows q) (htells : p.Tells q pieces.highlights)
    (h : Accounts q pass) :
    Accounts p
      { pass with highlights := pieces.highlights ++ pass.highlights, visited, events } where
  grows := hgrows.trans h.grows
  tells := fun hended => htells.trans h.grows (h.tells hended)
  kept := fun _ _ hnil => absurd (List.append_eq_nil_iff.1 hnil).1 hne

theorem highlights_addPieces_ne_nil (style : MarkStyle) (text : List Char) (p : Page)
    (cursor : Nat) {hits : List Pattern.Span} (hhits : hits ≠ []) :
    (addPieces style text p cursor hits).highlights ≠ [] := by
  cases hits with
  | nil => exact absurd rfl hhits
  | cons s hits =>
      rw [addPieces]
      exact List.cons_ne_nil _ _

/-- A pass accounts for what it did, wherever it begins and whatever the links of the page are. -/
theorem run_accounts (style : MarkStyle) (matcher : Matcher) (steps : Nat) (w : Walker) (p : Page) :
    Accounts p (run style matcher steps w p) := by
  induction steps generalizing w p with
  | zero => exact .of_unchanged .unfinished 0
  | succ steps ih =>
      rcases hnext : w.next p with ⟨w', e | _ | y⟩
      · simp only [run, hnext]
        exact .of_unchanged (.failed e) 0
      · simp only [run, hnext]
        exact .of_unchanged .finished 0
      · cases hn : p.get y with
        | error e =>
            simp only [run, hnext, hn]
            exact .of_unchanged (.failed e) 1
        | ok n =>
            by_cases hchosen : chosen style matcher n.value = []
            · rw [run_of_skip hnext hn hchosen]
              obtain ⟨hgrows, htells, hkept⟩ := ih w' p
              exact ⟨hgrows, htells, hkept⟩
            · obtain ⟨hgrows, htells, hkept⟩ := Page.replace_addPieces_grows p style
                n.value.toList (chosen style matcher n.value) y rfl
              have hne := highlights_addPieces_ne_nil style n.value.toList p 0 hchosen
              rcases hreplace : (addPieces style n.value.toList p 0
                (chosen style matcher n.value)).page.replace y (addPieces style n.value.toList p 0
                  (chosen style matcher n.value)).ids with ⟨q, e | _⟩
              · rw [run_of_fault hnext hn hchosen rfl hreplace]
                rw [hreplace] at hgrows hkept
                exact ⟨hgrows, fun hended => absurd rfl (hended e), fun _ _ _ => hkept e rfl⟩
              · obtain ⟨last, hlast⟩ := exists_last_addPieces style n.value.toList p 0 hchosen
                rw [run_of_hit hnext hn hchosen rfl hreplace hlast]
                rw [hreplace] at hgrows htells
                exact .of_hit hne hgrows htells (ih _ q)

end Marking

/-! ## Scans -/

namespace Page

variable {p q : Page} {body s : NodeId} {style : MarkStyle} {found : List KeywordMatch}

/-- The pass for a keyword fails, and `s` is one of the nodes that it has added. -/
structure LostBy (p : Page) (body : NodeId) (style : MarkStyle) (k : KeywordMatch) (s : NodeId) :
    Prop where
  failed : ∃ e, (p.mark body style k.pattern.spans).ending = .failed e
  isNew : p.size ≤ s
  lt_size : s < (p.mark body style k.pattern.spans).page.size

theorem mark_accounts (p : Page) (body : NodeId) (style : MarkStyle) (matcher : Matcher) :
    Accounts p (p.mark body style matcher) :=
  run_accounts style matcher _ _ p

theorem grows_pageAfter (p : Page) (body : NodeId) (style : MarkStyle)
    (found : List KeywordMatch) : Grows p (pageAfter body style p found) := by
  induction found generalizing p with
  | nil => exact .refl p
  | cons k ks ih => exact (mark_accounts p body style k.pattern.spans).grows.trans (ih _)

/-- A new element is told of, or a pass that failed has added it. -/
theorem told_or_lost (hle : p.size ≤ s) (hlt : s < (pageAfter body style p found).size)
    (helement : ((pageAfter body style p found).node s).isElement = true) :
    s ∈ ((passes body style p found).flatMap (·.told)).map (·.span) ∨
      ∃ before k after, found = before ++ k :: after ∧
        (pageAfter body style p before).LostBy body style k s := by
  induction found generalizing p with
  | nil => exact absurd hlt (Nat.not_lt.2 hle)
  | cons k ks ih =>
      have haccounts := mark_accounts p body style k.pattern.spans
      rw [passes, List.flatMap_cons, List.map_append, List.mem_append]
      by_cases hs : s < (p.mark body style k.pattern.spans).page.size
      · have hgrows := grows_pageAfter (p.mark body style k.pattern.spans).page body style ks
        have hkind := (hgrows.isElement_eq hs).symm.trans helement
        by_cases hfailed : ∃ e, (p.mark body style k.pattern.spans).ending = .failed e
        · exact .inr ⟨[], k, ks, rfl, hfailed, hle, hs⟩
        · have hended := not_exists.1 hfailed
          rw [Pass.told_of_not_failed hended]
          exact .inl (.inl (haccounts.tells hended s hle hs hkind))
      · rcases ih (Nat.not_lt.1 hs) hlt helement with htold | ⟨before, k', after, rfl, hlost⟩
        · exact .inl (.inr htold)
        · exact .inr ⟨k :: before, k', after, rfl, hlost⟩

/-- A scan that succeeds has made a pass for each keyword it found, and tells of these keywords and
of the highlights of the passes that did not fail. -/
theorem scan_told {p : Page} {scanId : String} {source : Source} {config : ScanConfig}
    {report : Report} (hreport : (p.scan scanId source config).outcome = .ok report) :
    ∃ ks body text found, source.keywords = .ok ks ∧ p.body? = some body ∧
      p.visibleText body = .ok text ∧
      found = (scanText config (Text.lowercase text) ks).found ∧
      (p.scan scanId source config).page = pageAfter body config.markStyle p found ∧
      report.matched = found.map (·.keyword) ∧
      report.highlights = ((passes body config.markStyle p found).flatMap (·.told)).map
        (pageAfter body config.markStyle p found).locateHighlight := by
  cases hks : source.keywords with
  | error e =>
      simp only [scan, hks] at hreport
      cases hreport
  | ok ks =>
      cases hbody : p.body? with
      | none =>
          simp only [scan, hks, scanFor, hbody] at hreport
          cases hreport
      | some body =>
          cases htext : p.visibleText body with
          | error e =>
              simp only [scan, hks, scanFor, hbody, htext] at hreport
              cases hreport
          | ok text =>
              obtain ⟨hpage, houtcome⟩ := scan_of_keywords hks p scanId config
              rw [houtcome] at hreport
              by_cases hends : PassesEnd body config.markStyle p
                  (scanText config (Text.lowercase text) ks).found
              · obtain ⟨report', hok, hmatched, -, hafter, -, hhighlights⟩ :=
                  scanFor_of_ended hbody htext hends
                cases hreport.symm.trans hok
                rw [← keywords_scanText] at hmatched
                exact ⟨ks, body, text, _, rfl, rfl, htext, rfl, hpage.trans hafter, hmatched,
                  hhighlights⟩
              · rw [scanFor_of_not_ended hbody htext hends] at hreport
                cases hreport

theorem map_span_locateHighlight (p : Page) (hs : List Highlight) :
    (hs.map p.locateHighlight).map (·.span) = hs.map (·.span) := List.map_map

/-- A scan for one keyword that stands for itself, and occurs, makes one pass. -/
theorem scan_single {config : ScanConfig} {text keyword : String}
    (hmode : config.patternMode = .literal) (hmax : config.maxPatternLength ≤ 500)
    (hbody : p.body? = some body) (htext : p.visibleText body = .ok text)
    (htakes : config.Takes keyword) (hoccurs : Text.Occurs keyword (Text.lowercase text))
    (hends : ∀ matcher, Finds keyword.toList matcher →
      (p.mark body config.markStyle matcher).ending ≠ .unfinished) (scanId : String) :
    ∃ report matcher, Finds keyword.toList matcher ∧
      (p.scan scanId (Source.ofList [keyword]) config).outcome = .ok report ∧
      report.matched = [keyword] ∧
      (p.scan scanId (Source.ofList [keyword]) config).page =
        (p.mark body config.markStyle matcher).page ∧
      report.highlights.map (·.span) =
        (p.mark body config.markStyle matcher).told.map (·.span) := by
  obtain ⟨k, hfound, rfl, hfinds⟩ := exists_found_single hmode hmax htakes hoccurs
  have hpasses : PassesEnd body config.markStyle p
      (scanText config (Text.lowercase text) [k.keyword]).found := by
    rw [hfound]
    exact List.forall_mem_singleton.2 (hends k.pattern.spans hfinds)
  obtain ⟨report, houtcome, hmatched, -, hpage, -, hhighlights⟩ :=
    scanFor_of_ended hbody htext hpasses
  have hscan := @scan_of_keywords (Source.ofList [k.keyword]) [k.keyword] rfl p scanId config
  rw [← keywords_scanText, Matching.keywords, hfound] at hmatched
  rw [hfound] at hpage hhighlights
  refine ⟨report, k.pattern.spans, hfinds, hscan.2.trans houtcome, hmatched,
    hscan.1.trans hpage, ?_⟩
  rw [hhighlights, map_span_locateHighlight, passes, passes, List.flatMap_singleton]

/-- Let a scan of any page succeed, whatever the links of the page are. An element that can be
reached from the body in the end could be reached before, or is reported, or was added by a pass
that failed. A pass that fails before it has marked a hit leaves all nodes as they were. -/
theorem unreported_elements (p : Page) (scanId : String) (source : Source) (config : ScanConfig)
    (report : Report) (hreport : (p.scan scanId source config).outcome = .ok report) :
    ∃ ks body text found, source.keywords = .ok ks ∧ p.body? = some body ∧
      p.visibleText body = .ok text ∧
      found = (scanText config (Text.lowercase text) ks).found ∧
      (∀ s, (p.scan scanId source config).page.Reaches body s →
        s < (p.scan scanId source config).page.size →
        ((p.scan scanId source config).page.node s).isElement = true →
          (s < p.size ∧ p.Reaches body s) ∨ s ∈ report.highlights.map (·.span) ∨
            ∃ before k after, found = before ++ k :: after ∧
              (pageAfter body config.markStyle p before).LostBy body config.markStyle k s) ∧
      ∀ before k after e, found = before ++ k :: after →
        ((pageAfter body config.markStyle p before).mark body config.markStyle
          k.pattern.spans).ending = .failed e →
        ((pageAfter body config.markStyle p before).mark body config.markStyle
          k.pattern.spans).highlights = [] →
        ∀ x < (pageAfter body config.markStyle p before).size,
          (pageAfter body config.markStyle p (before ++ [k])).node x =
            (pageAfter body config.markStyle p before).node x := by
  obtain ⟨ks, body, text, found, hks, hbody, htext, hfound, hpage, -, hhighlights⟩ :=
    scan_told hreport
  refine ⟨ks, body, text, found, hks, hbody, htext, hfound, ?_, ?_⟩
  · rw [hpage, hhighlights, map_span_locateHighlight]
    intro s hs hlt helement
    by_cases hold : s < p.size
    · have hbefore := (grows_pageAfter p body config.markStyle found).reaches hs
      exact .inl ⟨hold, hbefore.resolve_right (Nat.not_le.2 hold)⟩
    · exact .inr (told_or_lost (Nat.not_lt.1 hold) hlt helement)
  · intro before k after e _ hending hnone x hx
    have hlast : pageAfter body config.markStyle p (before ++ [k]) =
        ((pageAfter body config.markStyle p before).mark body config.markStyle
          k.pattern.spans).page := by
      rw [pageAfter, List.foldl_append]
      rfl
    rw [hlast]
    exact (mark_accounts _ _ _ _).kept e hending hnone x hx

/-! ## A text without a parent -/

theorem next_of_seek {w : Walker} {answer : Except Fault (Option NodeId)}
    (h : w.seek p (p.size + 1) w.current = (s, answer)) : w.next p = (w.moveTo s, answer) := by
  rw [Walker.next, h]

/-- A page whose body lists two texts, the second of which does not know its parent. -/
def strayPage : Page :=
  ([.addElement "body", .addText "act now", .append 0 1, .addText "act now",
    .setRoot 0].foldl perform empty).modify 0 (fun n => { n with children := [1, 2] })

/-- The page in which the first text is marked. -/
def halfPage : Page :=
  ((addPieces ({} : ScanConfig).markStyle "act now".toList strayPage 0 [⟨0, 7⟩]).page.replace 1
    [3]).1

/-- The page with pieces for the second text too, which have no place in it. -/
def tornPage : Page :=
  (addPieces ({} : ScanConfig).markStyle "act now".toList halfPage 0 [⟨0, 7⟩]).page

/-- A pass marks the first text and fails at the second. -/
theorem mark_strayPage {matcher : Matcher} (hfinds : Finds "act now".toList matcher) :
    (strayPage.mark 0 ({} : ScanConfig).markStyle matcher).ending = .failed (.detached 2) ∧
      (strayPage.mark 0 ({} : ScanConfig).markStyle matcher).page = tornPage := by
  have hchosen : chosen ({} : ScanConfig).markStyle matcher "act now" = [⟨0, 7⟩] :=
    hfinds.chosen_self _ rfl
  have hpieces : ∀ (p : Page) (n : Node), n.value = "act now" →
      chosen ({} : ScanConfig).markStyle matcher n.value ≠ [] ∧
        addPieces ({} : ScanConfig).markStyle n.value.toList p 0
            (chosen ({} : ScanConfig).markStyle matcher n.value) =
          addPieces ({} : ScanConfig).markStyle "act now".toList p 0 [⟨0, 7⟩] := by
    intro p n hn
    rw [hn, hchosen]
    exact ⟨List.cons_ne_nil _ _, rfl⟩
  obtain ⟨n, hn, hvalue⟩ : ∃ n, strayPage.get 1 = .ok n ∧ n.value = "act now" :=
    ⟨strayPage.node 1, by decide, by decide⟩
  obtain ⟨n', hn', hvalue'⟩ : ∃ n, halfPage.get 2 = .ok n ∧ n.value = "act now" :=
    ⟨halfPage.node 2, by decide, by decide⟩
  obtain ⟨hne, hfirst⟩ := hpieces strayPage n hvalue
  obtain ⟨hne', hsecond⟩ := hpieces halfPage n' hvalue'
  obtain ⟨steps, hsteps⟩ : ∃ steps, stepLimit strayPage = steps + 2 := ⟨78, by decide⟩
  have hnext : (Walker.start 0 (avoids ({} : ScanConfig).markStyle)).next strayPage =
      ((Walker.start 0 (avoids ({} : ScanConfig).markStyle)).moveTo 1, .ok (some 1)) :=
    next_of_seek (by decide)
  have hnext' : (((Walker.start 0 (avoids ({} : ScanConfig).markStyle)).moveTo 1).moveTo 3).next
      halfPage = ((((Walker.start 0 (avoids ({} : ScanConfig).markStyle)).moveTo 1).moveTo
        3).moveTo 2, .ok (some 2)) :=
    next_of_seek (by decide +kernel)
  have hlast : (addPieces ({} : ScanConfig).markStyle "act now".toList strayPage 0
      [⟨0, 7⟩]).ids.getLast? = some 3 := by decide
  rw [mark, hsteps, run_of_hit (q := halfPage) hnext hn hne hfirst (by decide +kernel) hlast,
    run_of_fault (q := tornPage) (e := .detached 2) hnext' hn' hne' hsecond (by decide +kernel)]
  exact ⟨rfl, rfl⟩

theorem scan_strayPage :
    ∃ report, (strayPage.scan "" (Source.ofList ["act now"]) {}).outcome = .ok report ∧
      report.matched = ["act now"] ∧ report.highlights = [] ∧
      (strayPage.scan "" (Source.ofList ["act now"]) {}).page = tornPage := by
  obtain ⟨hbody, htext⟩ : strayPage.body? = some 0 ∧
      strayPage.visibleText 0 = .ok "act nowact now" := by decide +kernel
  have hends : ∀ matcher, Finds "act now".toList matcher →
      (strayPage.mark 0 ({} : ScanConfig).markStyle matcher).ending ≠ .unfinished := by
    intro matcher hfinds
    rw [(mark_strayPage hfinds).1]
    exact Ending.noConfusion
  obtain ⟨report, matcher, hfinds, houtcome, hmatched, hpage, hspans⟩ :=
    @scan_single strayPage 0 {} "act nowact now" "act now" rfl (Nat.le_refl 500) hbody htext
      (by decide) ((Text.occurs_lowercase_iff_undotted (by decide)).2 (by decide)) hends ""
  obtain ⟨hending, hafter⟩ := mark_strayPage hfinds
  rw [Pass.told_of_failed hending] at hspans
  exact ⟨report, houtcome, hmatched, List.map_eq_nil_iff.1 hspans, hpage.trans hafter⟩

theorem reaches_tornPage : tornPage.Reaches 0 3 :=
  .child .here (by decide)

theorem unreported_elements_strayPage :
    ∃ before k, (pageAfter 0 ({} : ScanConfig).markStyle strayPage before).LostBy 0
      ({} : ScanConfig).markStyle k 3 := by
  obtain ⟨report, houtcome, -, hnone, hpage⟩ := scan_strayPage
  obtain ⟨ks, body, text, found, -, hbody, -, -, hreached, -⟩ :=
    unreported_elements strayPage "" (Source.ofList ["act now"]) {} report houtcome
  cases hbody.symm.trans (by decide +kernel : strayPage.body? = some 0)
  rw [hpage, hnone] at hreached
  rcases hreached 3 reaches_tornPage (by decide) (by decide) with
    ⟨hold, -⟩ | hmem | ⟨before, k, after, -, hlost⟩
  · exact absurd hold (by decide)
  · cases hmem
  · exact ⟨before, k, hlost⟩

/-- A scan that succeeds reports no highlight, and a marker that could not be reached from the body
before can be reached after it. -/
theorem strayPage_torn :
    IsClassToken ({} : ScanConfig).markerClass ∧ strayPage.body? = some 0 ∧
      ¬ strayPage.Reaches 0 3 ∧
      ∃ report, (strayPage.scan "" (Source.ofList ["act now"]) {}).outcome = .ok report ∧
        report.matched = ["act now"] ∧ report.highlights = [] ∧
        (strayPage.scan "" (Source.ofList ["act now"]) {}).page.Reaches 0 3 ∧
        ((strayPage.scan "" (Source.ofList ["act now"]) {}).page.node 3).hasClass
          ({} : ScanConfig).markerClass = true := by
  obtain ⟨report, houtcome, hmatched, hnone, hpage⟩ := scan_strayPage
  have hlinks : ∀ x < 3, ∀ y ∈ (strayPage.node x).children, y < 3 := by decide
  have hbounded : ∀ y, strayPage.Reaches 0 y → y < 3 := by
    intro y hy
    induction hy with
    | here => exact Nat.zero_lt_succ 2
    | child _ hz ih => exact hlinks _ ih _ hz
  refine ⟨isClassToken_default, by decide +kernel, fun h => Nat.lt_irrefl 3 (hbounded 3 h), report,
    houtcome, hmatched, hnone, ?_⟩
  rw [hpage]
  exact ⟨reaches_tornPage, by decide⟩

end Page

end PhraseMark
