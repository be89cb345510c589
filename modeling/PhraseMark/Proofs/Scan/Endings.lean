import Mathlib.Algebra.Order.BigOperators.Group.List
import Mathlib.Algebra.Order.Group.Nat
import PhraseMark.Proofs.Scan.Cuts
import PhraseMark.Proofs.Scan.Runaway

/-!
# Passes that end

A pass that goes below a marker comes to a text that stood in the text before. It is shorter, or it
is that text again, and then the pass goes on for ever. So the characters of the text nodes ahead of
a pass tell how many steps suffice for it if any number does, and a pass is granted more. A scan
that does not end is thus one with a pass that would not end either, whatever steps it is granted.
-/

namespace PhraseMark

open Pattern Marking

namespace Marking

variable {style : MarkStyle} {matcher : Matcher} {p : Page} {w : Walker} {y : NodeId}
  {text : String}

/-! ## The last mark in a text -/

namespace Lawful

variable (hlawful : Lawful matcher)

include hlawful

theorem bounds_of_mem_chosen {s : Span} (hs : s ∈ chosen style matcher text) :
    s.start < s.stop ∧ s.stop ≤ text.toList.length := by
  rw [chosen_eq_selected hlawful] at hs
  obtain ⟨hmem, hlt⟩ := mem_selected hs
  exact ⟨hlt, (hlawful.bounds text s hmem).2⟩

/-- A hit at the start of a text is the first one. -/
theorem chosen_of_start_eq_zero {s : Span} (hs : (chosen style matcher text).getLast? = some s)
    (hstart : s.start = 0) : chosen style matcher text = [s] := by
  obtain ⟨before, hbefore⟩ := List.getLast?_eq_some_iff.1 hs
  have hapart := pairwise_selected hlawful style text
  rw [← chosen_eq_selected hlawful, hbefore, List.pairwise_append] at hapart
  have hnil : before = [] := by
    refine List.eq_nil_iff_forall_not_mem.2 (fun t ht => ?_)
    have hlt := (hlawful.bounds_of_mem_chosen (hbefore ▸ List.mem_append_left [s] ht)).1
    have hle := hapart.2.2 t ht s List.mem_cons_self
    omega
  rw [hbefore, hnil, List.nil_append]

/-- A marker that is not left behind holds less than the text node it stands for, or all of it. -/
theorem exists_of_not_leftBehind (hchosen : chosen style matcher text ≠ [])
    (hback : ¬ LeftBehind style (piecesFrom text.toList 0 (chosen style matcher text))) :
    ¬ IsClassToken style.markerClass ∧
      ∃ inner, (piecesFrom text.toList 0 (chosen style matcher text)).getLast? =
          some (.hit inner) ∧
        (inner.toList.length < text.toList.length ∨
          inner = text ∧ chosen style matcher text = [⟨0, text.toList.length⟩]) := by
  simp only [LeftBehind, not_forall] at hback
  obtain ⟨inner, hinner, hclass⟩ := hback
  refine ⟨hclass, inner, hinner, ?_⟩
  have hs := List.getLast?_eq_some_getLast hchosen
  obtain ⟨hlt, hle⟩ := hlawful.bounds_of_mem_chosen (List.getLast_mem hchosen)
  set s := (chosen style matcher text).getLast hchosen with hsdef
  rw [getLast?_piecesFrom hs] at hinner
  split at hinner
  · cases hinner
  · rename_i hends
    cases hinner
    have hstop : s.stop = text.toList.length := Nat.le_antisymm hle (Nat.not_lt.1 hends)
    rcases Nat.eq_zero_or_pos s.start with hzero | hpos
    · refine .inr ⟨?_, ?_⟩
      · rw [Span.slice, hzero, hstop, List.drop_zero, Nat.sub_zero, List.take_length,
          String.ofList_toList]
      · rw [hlawful.chosen_of_start_eq_zero hs hzero, ← hzero, ← hstop]
    · left
      rw [String.toList_ofList, Span.slice, List.length_take, List.length_drop]
      omega

end Lawful

/-! ## Steps that suffice -/

/-- The characters of text nodes, and one more for each of them. -/
def work (ns : List Node) : Nat := (ns.map (fun n => n.value.toList.length + 1)).sum

theorem work_cons (n : Node) (ns : List Node) :
    work (n :: ns) = n.value.toList.length + 1 + work ns := by
  rw [work, List.map_cons, List.sum_cons]
  rfl

/-- More steps make no difference to a pass that has come to its end. -/
theorem run_of_le {steps more : Nat} (hle : steps ≤ more)
    (hended : (run style matcher steps w p).ending ≠ .unfinished) :
    run style matcher more w p = run style matcher steps w p := by
  induction steps generalizing p w more with
  | zero => exact absurd rfl hended
  | succ steps ih =>
      obtain ⟨more, rfl⟩ := Nat.exists_eq_succ_of_ne_zero (Nat.ne_zero_of_lt hle)
      have hle := Nat.le_of_succ_le_succ hle
      unfold run at hended ⊢
      split at hended
      · rfl
      · rfl
      · split at hended
        · rfl
        · split at hended
          · rw [ih hle hended]
          · dsimp only at hended ⊢
            split at hended
            · rfl
            · rw [ih hle hended]

/-- Where the next text node has hits and its last piece is not left behind, the text in this piece
comes next, and after it what was ahead. -/
theorem exists_last_of_back (hclass : ¬ IsClassToken style.markerClass) (h : p.WellFormed)
    (hw : w.rejects = avoids style) (hroot : w.root < p.size) {cs : List NodeId}
    (hb : p.AheadBelow w.root y cs)
    (hlast : (piecesFrom (p.node y).value.toList 0
      (chosen style matcher (p.node y).value)).getLast? = some (.hit text)) {pieces : Pieces}
    (hpieces : addPieces style (p.node y).value.toList p 0 (chosen style matcher (p.node y).value) =
      pieces) :
    pieces.page.replace y pieces.ids = (cutPage style matcher p y, .ok ()) ∧
      ∃ last, pieces.ids.getLast? = some last ∧
        Chases style text ((w.moveTo y).moveTo last) (cutPage style matcher p y) (last + 1) ∧
        (cutPage style matcher p y).Ahead w.root last cs ∧
        ∃ n, n.value = text ∧
          (cutPage style matcher p y).textsOf (goesOn style matcher)
            (w.entered (cutPage style matcher p y) last ++ cs) =
              n :: p.textsOf (goesOn style matcher) cs := by
  obtain ⟨x, hparent⟩ := hb.exists_parent h
  obtain ⟨hreplace, hq⟩ := h.replace_addPieces style (p.node y).value.toList
    (chosen style matcher (p.node y).value) hparent
  rw [hpieces] at hreplace
  -- the last piece has a number, which is where the walk goes on
  rw [← map_snd_number p.size (piecesFrom _ _ _), List.getLast?_map] at hlast
  obtain ⟨⟨i, a⟩, hnumber, ha⟩ := Option.map_eq_some_iff.1 hlast
  cases ha
  have hids : pieces.ids.getLast? = some i := by
    rw [← hpieces, addPieces_eq]
    dsimp only
    rw [List.getLast?_map, hnumber, Option.map_some]
  obtain ⟨hahead, hentered, hinner⟩ := entered_of_last hclass h hw hroot hb hnumber
  have hvalue : ((cutPage style matcher p y).node (i + 1)).value = text :=
    congrArg Node.value hinner
  have hchildren : ((cutPage style matcher p y).node (i + 1)).children = [] :=
    congrArg Node.children hinner
  have htext : ((cutPage style matcher p y).node (i + 1)).isText = true :=
    congrArg Node.isText hinner
  refine ⟨hreplace, i, hids, chases_of_last hclass h hw hroot hb hq hnumber, hahead.ahead,
    ((cutPage style matcher p y).node (i + 1)).unlinked, (Node.value_unlinked _).trans hvalue, ?_⟩
  have hqwf : (cutPage style matcher p y).WellFormed := hq
  have hone : ((cutPage style matcher p y).tree (i + 1)).texts (goesOn style matcher) =
      [((cutPage style matcher p y).node (i + 1)).unlinked] := by
    rw [hqwf.texts_tree, if_pos htext, hchildren, List.flatMap_nil, ite_self,
      List.append_nil]
  rw [← hb.textsOf_batch h hq hroot, cutPage, hentered, List.singleton_append, Page.textsOf_cons]
  exact congrArg (· ++ _) hone

/-- A pass that is not at its end when its steps have outnumbered the work ahead of it never is. -/
theorem run_unfinished_of_work (hlawful : Lawful matcher) (h : p.WellFormed)
    (hw : w.rejects = avoids style) (hroot : w.root < p.size) {rest : List NodeId}
    (ha : p.Ahead w.root w.current rest) {ns : List Node}
    (hns : p.textsOf (goesOn style matcher) (w.entered p w.current ++ rest) = ns) {steps : Nat}
    (hsteps : work ns < steps) (hending : (run style matcher steps w p).ending = .unfinished)
    (more : Nat) : (run style matcher more w p).ending = .unfinished := by
  induction steps generalizing p w rest ns more with
  | zero => exact absurd hsteps (Nat.not_lt_zero _)
  | succ steps ih =>
      cases more with
      | zero => rfl
      | succ more =>
          rcases ahead_cases matcher h hw hroot ha hns with
            ⟨-, hend⟩ | ⟨y, cs, ms, rfl, hnext, hget, hb, hy⟩
          · rw [run_of_end hend] at hending
            cases hending
          rw [work_cons, Node.value_unlinked] at hsteps
          rcases hy with ⟨hchosen, hrest⟩ | ⟨hchosen, hrest⟩
          · rw [run_of_skip hnext hget hchosen] at hending ⊢
            exact ih (w := w.moveTo y) h hw hroot hb.ahead hrest (by omega) hending more
          by_cases hleft : LeftBehind style
              (piecesFrom (p.node y).value.toList 0 (chosen style matcher (p.node y).value))
          · obtain ⟨hreplace, hq, hqroot, last, hlast, haq, hqrest⟩ :=
              exists_last_of_hit h hw hroot hb hchosen hleft rfl
            rw [run_of_hit hnext hget hchosen rfl hreplace hlast] at hending ⊢
            exact ih (w := (w.moveTo y).moveTo last) hq hw hqroot haq (hqrest.trans hrest)
              (by omega) hending more
          · obtain ⟨hclass, text, hpiece, htext⟩ :=
              hlawful.exists_of_not_leftBehind hchosen hleft
            obtain ⟨hreplace, last, hlast, hchases, haq, n, hn, hqrest⟩ :=
              exists_last_of_back hclass h hw hroot hb hpiece rfl
            rw [hrest] at hqrest
            rw [run_of_hit hnext hget hchosen rfl hreplace hlast] at hending ⊢
            rcases htext with hshorter | ⟨rfl, hwhole⟩
            · -- the text in the last marker is shorter than the one it stands for
              refine ih (w := (w.moveTo y).moveTo last) hchases.wellFormed hw hchases.root_lt haq
                hqrest ?_ hending more
              rw [work_cons, hn]
              omega
            · exact (hchases.run_unfinished hclass hwhole more).1

end Marking

namespace Page

variable {p : Page} {root body : NodeId} {style : MarkStyle} {matcher : Matcher}

/-- However many steps it is granted, a pass under `root` does not come to its end. -/
def Endless (p : Page) (root : NodeId) (style : MarkStyle) (matcher : Matcher) : Prop :=
  ∀ steps, (run style matcher steps (.start root (avoids style)) p).ending = .unfinished

theorem toList_nodes (p : Page) : p.nodes.toList = (List.range p.size).map p.node := by
  apply List.ext_getElem
  · simp [size]
  · intro i hi hi'
    simp [node, Array.getElem?_eq_getElem (Array.length_toList ▸ hi)]

theorem WellFormed.work_textsBelow_le (h : p.WellFormed) (hroot : root < p.size)
    (enters : Node → Bool) : work ((p.tree root).textsBelow enters) ≤ work p.nodes.toList := by
  have hids : (((p.tree root).textsBelow enters).map Node.id).Nodup :=
    (((p.tree root).textsBelow_sublist enters).map Node.id).nodup (h.nodup_ids_tree hroot)
  have hnodes : ∀ n ∈ (p.tree root).textsBelow enters, n.id < p.size ∧
      n.value = (p.node n.id).value := by
    intro n hn
    obtain ⟨y, rfl, htext, -⟩ := h.mem_textsBelow_tree.1 hn
    have hid : (p.node y).unlinked.id = y := h.id_node y (lt_of_isText htext)
    rw [hid]
    exact ⟨lt_of_isText htext, rfl⟩
  have hrange : (((p.tree root).textsBelow enters).map Node.id).Subperm (List.range p.size) := by
    apply List.subperm_of_subset hids
    intro y hy
    obtain ⟨n, hn, rfl⟩ := List.mem_map.1 hy
    exact List.mem_range.2 (hnodes n hn).1
  obtain ⟨ys, hperm, hys⟩ := hrange
  let size := fun y => (p.node y).value.toList.length + 1
  calc work ((p.tree root).textsBelow enters)
      = ((((p.tree root).textsBelow enters).map Node.id).map size).sum := by
        rw [work, List.map_map]
        exact congrArg List.sum (List.map_congr_left (fun n hn => by
          rw [Function.comp_apply, (hnodes n hn).2]))
    _ = (ys.map size).sum := (hperm.map size).sum_eq.symm
    _ ≤ ((List.range p.size).map size).sum :=
        List.Sublist.sum_le_sum (hys.map size) (fun _ _ => Nat.zero_le _)
    _ = work p.nodes.toList := by
        rw [toList_nodes, work, List.map_map]
        rfl

theorem work_lt_stepLimit (p : Page) : work p.nodes.toList < stepLimit p := by
  have hsum : ∀ ns : List Node, work ns ≤
      ns.foldr (fun n total => n.children.length + n.value.length + 1 + total) 0 := by
    intro ns
    induction ns with
    | nil => exact Nat.le_refl 0
    | cons n ns ih =>
        rw [work_cons, List.foldr_cons, String.length_toList]
        omega
  exact Nat.lt_of_lt_of_le (Nat.lt_succ_of_le (hsum _)) (Nat.le_mul_of_pos_left _ (Nat.succ_pos _))

/-- The steps granted to a pass suffice, unless no number of them does. -/
theorem WellFormed.mark_unfinished_iff (h : p.WellFormed) (hlawful : Lawful matcher)
    (root : NodeId) (style : MarkStyle) :
    (p.mark root style matcher).ending = .unfinished ↔ p.Endless root style matcher := by
  refine ⟨fun hending => ?_, fun hendless => hendless _⟩
  by_cases hroot : root < p.size
  · have hwork := Nat.lt_of_le_of_lt (h.work_textsBelow_le hroot (goesOn style matcher))
      p.work_lt_stepLimit
    exact run_unfinished_of_work (w := .start root (avoids style)) hlawful h rfl hroot .root
      (h.textsOf_start root _ _) hwork hending
  · rw [mark_of_le (Nat.not_lt.1 hroot)] at hending
    cases hending

/-- With whatever number of steps a pass ends, it ends like this with those it is granted. -/
theorem WellFormed.mark_eq_run (h : p.WellFormed) (hlawful : Lawful matcher) {steps : Nat}
    (hended : (run style matcher steps (.start root (avoids style)) p).ending ≠ .unfinished) :
    p.mark root style matcher = run style matcher steps (.start root (avoids style)) p := by
  have hmark : (p.mark root style matcher).ending ≠ .unfinished := fun hending =>
    hended ((h.mark_unfinished_iff hlawful root style).1 hending steps)
  rcases Nat.le_total steps (stepLimit p) with hle | hle
  · exact run_of_le hle hended
  · exact (run_of_le hle hmark).symm

/-! ## Scans -/

variable {found : List KeywordMatch} {source : Source} {config : ScanConfig} {text : String}
  {ks : List String}

theorem passes_append (body : NodeId) (style : MarkStyle) (p : Page)
    (before after : List KeywordMatch) : passes body style p (before ++ after) =
      passes body style p before ++ passes body style (pageAfter body style p before) after := by
  induction before generalizing p with
  | nil => rfl
  | cons k ks ih => exact congrArg (_ :: ·) (ih _)

/-- Of the passes for several keywords, one goes on for ever, and those before it end. -/
def RunsAway (body : NodeId) (style : MarkStyle) (p : Page) (found : List KeywordMatch) : Prop :=
  ∃ before k after, found = before ++ k :: after ∧ PassesEnd body style p before ∧
    (pageAfter body style p before).Endless body style k.pattern.spans

theorem WellFormed.not_passesEnd_iff (h : p.WellFormed) (body : NodeId) (style : MarkStyle)
    (found : List KeywordMatch) :
    ¬ PassesEnd body style p found ↔ RunsAway body style p found := by
  constructor
  · intro hends
    induction found generalizing p with
    | nil => exact absurd (fun pass hpass => absurd hpass List.not_mem_nil) hends
    | cons k ks ih =>
        by_cases hfirst : (p.mark body style k.pattern.spans).ending = .unfinished
        · exact ⟨[], k, ks, rfl, fun pass hpass => absurd hpass List.not_mem_nil,
            (h.mark_unfinished_iff (lawful_spans k.pattern) body style).1 hfirst⟩
        · have hlater : ¬ PassesEnd body style (p.mark body style k.pattern.spans).page ks :=
            fun hks => hends (List.forall_mem_cons.2 ⟨hfirst, hks⟩)
          obtain ⟨before, k', after, rfl, hbefore, hendless⟩ :=
            ih ((h.mark_cutsUp body style k.pattern.spans).wellFormed h) hlater
          exact ⟨k :: before, k', after, rfl, List.forall_mem_cons.2 ⟨hfirst, hbefore⟩, hendless⟩
  · rintro ⟨before, k, after, rfl, -, hendless⟩ hends
    apply hends ((pageAfter body style p before).mark body style k.pattern.spans) _ (hendless _)
    rw [passes_append]
    exact List.mem_append_right _ List.mem_cons_self

/-- Where the passes for the keywords found all end, a scan comes to a report of them. -/
theorem exists_report (hbody : p.body? = some body) (htext : p.visibleText body = .ok text)
    (hks : source.keywords = .ok ks) (scanId : String)
    (hends : PassesEnd body config.markStyle p
      (scanText config (Text.lowercase text) ks).found) :
    ∃ report, (p.scan scanId source config).outcome = .ok report ∧
      report.matched = foundKeywords config (Text.lowercase text) ks := by
  obtain ⟨report, houtcome, hmatched, -⟩ := scanFor_of_ended hbody htext hends
  exact ⟨report, (scan_of_keywords hks p scanId config).2.trans houtcome, hmatched⟩

theorem WellFormed.exists_report (h : p.WellFormed) (htoken : IsClassToken config.markerClass)
    (hbody : p.body? = some body) (htext : p.visibleText body = .ok text)
    (hks : source.keywords = .ok ks) (scanId : String) :
    ∃ report, (p.scan scanId source config).outcome = .ok report ∧
      report.matched = foundKeywords config (Text.lowercase text) ks :=
  Page.exists_report hbody htext hks scanId (h.passesEnd (h.body?_some hbody).1 htoken.markStyle _)

/-- What a scan that ends has found does not depend on the page but for its visible text. -/
theorem map_matched_scan (hbody : p.body? = some body) (htext : p.visibleText body = .ok text)
    (hks : source.keywords = .ok ks) (scanId : String)
    (hended : (p.scan scanId source config).outcome ≠ .unfinished) :
    (p.scan scanId source config).outcome.map Report.matched =
      .ok (foundKeywords config (Text.lowercase text) ks) := by
  by_cases hends : PassesEnd body config.markStyle p
      (scanText config (Text.lowercase text) ks).found
  · obtain ⟨report, houtcome, hmatched⟩ := exists_report hbody htext hks scanId hends
    rw [houtcome]
    exact congrArg ScanOutcome.ok hmatched
  · rw [(scan_of_keywords hks p scanId config).2, scanFor_of_not_ended hbody htext hends] at hended
    exact absurd rfl hended

/-- A scan that does not end is one with a pass that goes on for ever. -/
theorem WellFormed.scan_unfinished_iff (h : p.WellFormed) (hbody : p.body? = some body)
    (htext : p.visibleText body = .ok text) (hks : source.keywords = .ok ks) (scanId : String)
    (config : ScanConfig) :
    (p.scan scanId source config).outcome = .unfinished ↔
      RunsAway body config.markStyle p (scanText config (Text.lowercase text) ks).found := by
  rw [← h.not_passesEnd_iff]
  constructor
  · intro houtcome hends
    obtain ⟨report, hreport, -⟩ := Page.exists_report hbody htext hks scanId hends
    rw [hreport] at houtcome
    cases houtcome
  · intro hends
    rw [(scan_of_keywords hks p scanId config).2, scanFor_of_not_ended hbody htext hends]

/-- With a class of one token no scan goes on for ever. -/
theorem WellFormed.scan_ne_unfinished (h : p.WellFormed) (scanId : String) (source : Source)
    (htoken : IsClassToken config.markerClass) :
    (p.scan scanId source config).outcome ≠ .unfinished := by
  intro houtcome
  cases hks : source.keywords with
  | error e =>
      rw [(scan_of_failure hks p scanId config).2] at houtcome
      cases houtcome
  | ok ks =>
      cases hbody : p.body? with
      | none =>
          rw [(scan_of_keywords hks p scanId config).2, (scanFor_of_missing ks config hbody).1]
            at houtcome
          cases houtcome
      | some body =>
          obtain ⟨text, htext⟩ := h.exists_visibleText (h.body?_some hbody).1
          obtain ⟨report, hok, -⟩ := h.exists_report htoken hbody htext hks scanId
          rw [hok] at houtcome
          cases houtcome

end Page

end PhraseMark
