import Mathlib.Data.List.Chain
import PhraseMark.Proofs.History
import PhraseMark.Proofs.Page.Escaping
import PhraseMark.Proofs.Page.Reading

/-!
# Outlines

The markup of a tree of elements and text nodes tells the tree: the names and attributes of its
elements, its texts, and their order. A text ends where the next tag begins, a list of children
where a closing tag begins, and no text or value holds what begins a tag.
-/

namespace PhraseMark

/-- A tree of elements and texts. -/
inductive Outline where
  | text (value : String)
  | element (name : String) (attributes : Attributes) (children : List Outline)

namespace Tree

open Markup

variable {n m : Node} {t u : Tree} {ts us : List Tree} {raw : Bool}
  {r r' : List Char} {v w : String}

/-- The elements and texts of a tree. Texts are leaves, as nothing under a text node is written. -/
def outline (t : Tree) : Outline :=
  t.fold (fun n inner =>
    if n.isText then .text n.value else .element n.name n.attributes inner)

theorem outline_node (n : Node) (ts : List Tree) :
    (node n ts).outline =
      if n.isText then .text n.value else .element n.name n.attributes (ts.map outline) := by
  rw [outline, fold_node]
  rfl

/-- The text of a tree that is a text node. -/
def text? : Tree → Option String
  | .node n _ => if n.isText then some n.value else none

/-- No two text nodes stand next to each other. -/
def Parted (ts : List Tree) : Prop := ts.IsChain (fun t u => t.text? = none ∨ u.text? = none)

/-- No text node among the trees holds what begins a tag. -/
def TagFree (ts : List Tree) : Prop := ∀ t ∈ ts, ∀ v ∈ t.text?, '<' ∉ v.toList

/-- A tree of elements and text nodes, with tag names and with names of attributes that have no
equals sign. No text is empty or next to another one, void elements are empty, and texts in raw text
elements hold nothing that begins a tag. -/
inductive Plain : Tree → Prop
  | text {n : Node} {ts : List Tree} : n.isText = true → n.value ≠ "" → Plain (.node n ts)
  | element {n : Node} {ts : List Tree} : n.isElement = true → IsTagName n.name →
      (∀ e ∈ n.attributes.entries, IsAttrName e.1) → (n.isVoid = true → ts = []) →
      Parted ts → (n.isRawText = true → TagFree ts) → (∀ t ∈ ts, Plain t) → Plain (.node n ts)

/-! ## Written trees -/

/-- What is written for a tree; `raw` tells whether it stands in raw text. -/
def letters (t : Tree) : Bool → List Char :=
  t.fold (fun n inner raw =>
    if n.isText then (characters raw n).toList
    else (openTag n).toList ++
      if n.isVoid then [] else inner.flatMap (· n.isRawText) ++ (closeTag n).toList)

theorem letters_node (n : Node) (ts : List Tree) (raw : Bool) :
    (node n ts).letters raw =
      if n.isText then (characters raw n).toList
      else (openTag n).toList ++
        if n.isVoid then [] else ts.flatMap (·.letters n.isRawText) ++ (closeTag n).toList := by
  rw [letters, fold_node]
  simp only [List.flatMap_map]
  rfl

theorem not_isText (h : n.isElement = true) : ¬ n.isText = true := by
  intro htext
  rw [Node.isElement_eq_false_of_isText htext] at h
  cases h

theorem readAll_eq_letters
    (h : ∀ t ∈ ts, ∀ m, t.read (turn {}) m =
      { m with written := m.written ++ .ofList (t.letters m.raw) }) (m : Manuscript) :
    readAll (turn {}) ts m =
      { m with written := m.written ++ .ofList (ts.flatMap (·.letters m.raw)) } := by
  induction ts generalizing m with
  | nil => simp [readAll]
  | cons t ts ih =>
      rw [readAll_cons, h t List.mem_cons_self, ih (fun u hu => h u (List.mem_cons_of_mem t hu)),
        List.flatMap_cons, String.ofList_append, String.append_assoc]

theorem Plain.read_eq (h : t.Plain) (m : Manuscript) :
    t.read (turn {}) m = { m with written := m.written ++ .ofList (t.letters m.raw) } := by
  induction h generalizing m with
  | @text n ts htext _ =>
      have hturn : turn {} n m = .pass { m with written := m.written ++ characters m.raw n } := by
        rw [turn, Node.kind_of_isText htext]
      rw [read_of_pass hturn, letters_node, if_pos htext, String.ofList_toList]
  | @element n ts helement _ _ hvoid _ _ _ ih =>
      have hkind : n.kind = .element := beq_iff_eq.1 helement
      rw [letters_node, if_neg (not_isText helement)]
      cases hv : n.isVoid with
      | true =>
          have hturn : turn {} n m = .pass { m with written := m.written ++ openTag n } := by
            rw [turn, hkind]
            simp [hv]
          rw [read_of_pass hturn, if_pos rfl, List.append_nil, String.ofList_toList]
      | false =>
          have hturn : turn {} n m =
              .enter { written := m.written ++ openTag n, raw := n.isRawText }
                (fun inner => { written := inner.written ++ closeTag n, raw := m.raw }) := by
            rw [turn, hkind]
            simp [hv]
          rw [read_of_enter hturn, readAll_eq_letters ih, if_neg Bool.false_ne_true]
          simp [String.ofList_append, String.append_assoc]

/-! ## Reading back -/

theorem letters_of_text? (h : t.text? = some v) (raw : Bool) :
    t.letters raw = (if raw then v else escape false v).toList ∧ t.outline = .text v := by
  obtain ⟨n, ts⟩ := t
  rw [text?] at h
  split at h
  · rename_i htext
    rw [Option.some.injEq] at h
    rw [letters_node, if_pos htext, outline_node, if_pos htext, characters, h]
    exact ⟨rfl, rfl⟩
  · cases h

/-- The text of a text node runs up to the next tag. -/
theorem Plain.letters_text (h : t.Plain) (ht : t.text? = some v)
    (hfree : raw = true → '<' ∉ v.toList) :
    t.letters raw ≠ [] ∧ ∀ c ∈ t.letters raw, c ∉ ['<'] := by
  have hne : v ≠ "" := by
    cases h with
    | text htext hvalue =>
        rw [text?, if_pos htext, Option.some.injEq] at ht
        exact ht ▸ hvalue
    | element helement _ _ _ _ _ _ =>
        rw [text?, if_neg (not_isText helement)] at ht
        cases ht
  rw [(letters_of_text? ht raw).1]
  cases raw with
  | true => exact ⟨fun hnil => hne (String.toList_injective hnil), forall_notMem (hfree rfl)⟩
  | false => exact ⟨escape_ne_nil hne, forall_notMem (notMem_escape false v).1⟩

theorem text_cancel (ht : t.text? = some v) (hu : u.text? = some w)
    (h : t.letters raw = u.letters raw) : v = w := by
  rw [(letters_of_text? ht raw).1, (letters_of_text? hu raw).1] at h
  cases raw with
  | true => exact String.toList_injective h
  | false => exact escape_inj h

/-- An element begins with a tag that is not a closing one. -/
theorem Plain.letters_element (h : t.Plain) (ht : t.text? = none) (raw : Bool) :
    ∃ c cs, t.letters raw = '<' :: c :: cs ∧ c ∉ tagEnds := by
  cases h with
  | text htext _ =>
      rw [text?, if_pos htext] at ht
      cases ht
  | @element n ts helement hname _ _ _ _ _ =>
      obtain ⟨c, cs, hcons⟩ := List.exists_cons_of_ne_nil hname.toList_ne_nil
      rw [letters_node, if_neg (not_isText helement), toList_openTag, tag, hcons]
      exact ⟨c, _, rfl, hname.notMem_ends (hcons ▸ List.mem_cons_self)⟩

/-- Trees that stand side by side and can be told from what is written for them. -/
structure Row (raw : Bool) (ts : List Tree) : Prop where
  plain : ∀ t ∈ ts, t.Plain
  parted : Parted ts
  tagFree : raw = true → TagFree ts

/-- What is written for an element tells its outline and what follows it. -/
def Cancels (t : Tree) : Prop :=
  t.text? = none → ∀ u : Tree, u.Plain → u.text? = none → ∀ raw r r',
    t.letters raw ++ r = u.letters raw ++ r' → t.outline = u.outline ∧ r = r'

namespace Row

theorem tail (h : Row raw (t :: ts)) : Row raw ts where
  plain := fun u hu => h.plain u (List.mem_cons_of_mem t hu)
  parted := h.parted.tail
  tagFree := fun hraw u hu => h.tagFree hraw u (List.mem_cons_of_mem t hu)

theorem letters_text (h : Row raw (t :: ts)) (ht : t.text? = some v) :
    t.letters raw ≠ [] ∧ ∀ c ∈ t.letters raw, c ∉ ['<'] :=
  (h.plain t List.mem_cons_self).letters_text ht
    (fun hraw => h.tagFree hraw t List.mem_cons_self v ht)

/-- After a text comes a tag, if only the one that closes the row. -/
theorem exists_tag (h : Row raw (t :: ts)) (ht : t.text? = some v) (r : List Char) :
    ∃ s, ts.flatMap (·.letters raw) ++ '<' :: r = '<' :: s := by
  cases ts with
  | nil => exact ⟨r, rfl⟩
  | cons u us =>
      have hu : u.text? = none := by
        rcases (List.isChain_cons_cons.1 h.parted).1 with hnone | hu
        · rw [ht] at hnone
          cases hnone
        · exact hu
      obtain ⟨c, cs, hcons, -⟩ :=
        (h.plain u (List.mem_cons_of_mem t List.mem_cons_self)).letters_element hu raw
      rw [List.flatMap_cons, hcons]
      exact ⟨_, rfl⟩

theorem ne_tag (h : Row raw (t :: ts)) (ht : t.text? = some v) (s s' : List Char) :
    t.letters raw ++ s ≠ '<' :: s' := by
  intro heq
  obtain ⟨hne, hfree⟩ := h.letters_text ht
  obtain ⟨c, cs, hcons⟩ := List.exists_cons_of_ne_nil hne
  rw [hcons, List.cons_append, List.cons.injEq] at heq
  exact hfree c (hcons ▸ List.mem_cons_self) (List.mem_singleton.2 heq.1)

theorem ne_closing (h : Row raw (t :: ts)) (s s' : List Char) :
    t.letters raw ++ s ≠ '<' :: '/' :: s' := by
  cases ht : t.text? with
  | some v => exact h.ne_tag ht _ _
  | none =>
      intro heq
      obtain ⟨c, cs, hcons, hc⟩ := (h.plain t List.mem_cons_self).letters_element ht raw
      rw [hcons, List.cons_append, List.cons_append, List.cons.injEq, List.cons.injEq] at heq
      exact hc (heq.2.1 ▸ by decide)

theorem ne_element (h : Row raw (t :: ts)) (ht : t.text? = some v) (hu : u.Plain)
    (hnone : u.text? = none) (s s' : List Char) : t.letters raw ++ s ≠ u.letters raw ++ s' := by
  obtain ⟨c, cs, hopen, -⟩ := hu.letters_element hnone raw
  rw [hopen]
  exact h.ne_tag ht _ _

theorem cancel_text (hts : Row raw (t :: ts)) (hus : Row raw (u :: us)) (ht : t.text? = some v)
    (hu : u.text? = some w)
    (h : t.letters raw ++ (ts.flatMap (·.letters raw) ++ '<' :: r) =
      u.letters raw ++ (us.flatMap (·.letters raw) ++ '<' :: r')) :
    t.outline = u.outline ∧
      ts.flatMap (·.letters raw) ++ '<' :: r = us.flatMap (·.letters raw) ++ '<' :: r' := by
  obtain ⟨s, hs⟩ := hts.exists_tag ht r
  obtain ⟨s', hs'⟩ := hus.exists_tag hu r'
  rw [hs, hs'] at h ⊢
  obtain ⟨hsame, -, hrest⟩ := eq_of_cut (hts.letters_text ht).2 (hus.letters_text hu).2
    (List.mem_singleton_self '<') (List.mem_singleton_self '<') h
  rw [(letters_of_text? ht raw).2, (letters_of_text? hu raw).2, text_cancel ht hu hsame, hrest]
  exact ⟨rfl, rfl⟩

/-- Rows that are written alike up to a closing tag have the same outlines. -/
theorem cancel (hts : Row raw ts) (hus : Row raw us) (hcancels : ∀ t ∈ ts, t.Cancels)
    (h : ts.flatMap (·.letters raw) ++ '<' :: '/' :: r =
      us.flatMap (·.letters raw) ++ '<' :: '/' :: r') :
    ts.map outline = us.map outline ∧ r = r' := by
  induction ts generalizing us with
  | nil =>
      cases us with
      | nil => simpa using h
      | cons u us =>
          rw [List.flatMap_cons, List.append_assoc] at h
          exact absurd h.symm (hus.ne_closing _ _)
  | cons t ts ih =>
      cases us with
      | nil =>
          rw [List.flatMap_cons, List.append_assoc] at h
          exact absurd h (hts.ne_closing _ _)
      | cons u us =>
          have ht := hts.plain t List.mem_cons_self
          have hu := hus.plain u List.mem_cons_self
          rw [List.flatMap_cons, List.flatMap_cons, List.append_assoc, List.append_assoc] at h
          -- a text is cut off at the next tag, an element is told by its own tags
          obtain ⟨houtline, h⟩ : t.outline = u.outline ∧
              ts.flatMap (·.letters raw) ++ '<' :: '/' :: r =
                us.flatMap (·.letters raw) ++ '<' :: '/' :: r' := by
            cases htext : t.text? with
            | some v =>
                cases hutext : u.text? with
                | some w => exact hts.cancel_text hus htext hutext h
                | none => exact absurd h (hts.ne_element htext hu hutext _ _)
            | none =>
                cases hutext : u.text? with
                | some w => exact absurd h.symm (hus.ne_element hutext ht htext _ _)
                | none => exact hcancels t List.mem_cons_self htext u hu hutext raw _ _ h
          obtain ⟨houtlines, hr⟩ :=
            ih hts.tail hus.tail (fun s hs => hcancels s (List.mem_cons_of_mem t hs)) h
          rw [List.map_cons, List.map_cons, houtline, houtlines]
          exact ⟨rfl, hr⟩

end Row

theorem hasTagIn_congr (hn : n.isElement = true) (hm : m.isElement = true) (h : n.name = m.name)
    (tags : List String) : n.hasTagIn tags = m.hasTagIn tags := by
  have htag : n.hasTag = m.hasTag := by
    funext tag
    rw [Node.hasTag, Node.hasTag, hn, hm, h]
  rw [Node.hasTagIn, Node.hasTagIn, htag]

theorem Plain.cancels (h : t.Plain) : t.Cancels := by
  induction h with
  | text htext _ =>
      intro ht
      rw [text?, if_pos htext] at ht
      cases ht
  | @element n ts helement hname hattr hvoid hparted hfree hplain ih =>
      intro _ u hu hutext raw r r' h
      cases hu with
      | text htext _ =>
          rw [text?, if_pos htext] at hutext
          cases hutext
      | @element m us helement' hname' hattr' hvoid' hparted' hfree' hplain' =>
          rw [letters_node, letters_node, if_neg (not_isText helement),
            if_neg (not_isText helement'), List.append_assoc, List.append_assoc] at h
          obtain ⟨hsame, hattributes, h⟩ := openTag_cancel hname hname' hattr hattr' h
          have hvoids : n.isVoid = m.isVoid := hasTagIn_congr helement helement' hsame voidTags
          have hraws : n.isRawText = m.isRawText :=
            hasTagIn_congr helement helement' hsame rawTextTags
          rw [outline_node, outline_node, if_neg (not_isText helement),
            if_neg (not_isText helement'), hsame, hattributes]
          cases hv : n.isVoid with
          | true =>
              rw [if_pos hv, if_pos (hvoids ▸ hv), List.nil_append, List.nil_append] at h
              rw [hvoid hv, hvoid' (hvoids ▸ hv)]
              exact ⟨rfl, h⟩
          | false =>
              rw [if_neg (by rw [hv]; decide), if_neg (by rw [← hvoids, hv]; decide), ← hraws,
                toList_closeTag, toList_closeTag, tag, tag, hsame] at h
              simp only [List.append_assoc, List.cons_append, List.nil_append] at h
              obtain ⟨hchildren, h⟩ := Row.cancel ⟨hplain, hparted, hfree⟩
                ⟨hplain', hparted', fun hraw => hfree' (hraws ▸ hraw)⟩ ih h
              rw [hchildren]
              have hrest := List.append_cancel_left h
              rw [List.cons.injEq] at hrest
              exact ⟨rfl, hrest.2⟩

theorem Plain.outline_eq (ht : t.Plain) (hu : u.Plain)
    (h : t.letters false = u.letters false) : t.outline = u.outline := by
  have hrow : ∀ {t : Tree}, t.Plain → Row false [t] := fun {t} ht =>
    ⟨fun u hu => List.mem_singleton.1 hu ▸ ht, List.isChain_singleton t,
      fun hraw => absurd hraw Bool.false_ne_true⟩
  -- a tree is a row of one, and any closing tag may follow it
  have hclosed : [t].flatMap (·.letters false) ++ '<' :: '/' :: [] =
      [u].flatMap (·.letters false) ++ '<' :: '/' :: [] := by
    rw [List.flatMap_singleton, List.flatMap_singleton, h]
  have houtlines := (hrow ht).cancel (hrow hu)
    (fun s hs => List.mem_singleton.1 hs ▸ ht.cancels) hclosed
  simpa using houtlines.1

end Tree

namespace Page

variable {p q : Page} {x y : NodeId}

/-- The markup of a plain tree tells its outline: two plain trees with the same markup have the
same elements with the same attributes and the same texts, in the same order. -/
theorem outline_of_markup (hp : p.WellFormed) (hq : q.WellFormed) (hx : x < p.size)
    (hy : y < q.size) (hplain : (p.tree x).Plain) (hplain' : (q.tree y).Plain)
    (h : p.outerMarkup {} x = q.outerMarkup {} y) :
    (p.tree x).outline = (q.tree y).outline := by
  rw [hp.outerMarkup_eq hx, hq.outerMarkup_eq hy, hplain.read_eq, hplain'.read_eq] at h
  refine hplain.outline_eq hplain' ?_
  simpa [String.ofList_inj] using h

theorem WellFormed.plain_single (h : p.WellFormed) (hc : (p.node x).children = [y])
    (helement : (p.node x).isElement = true ∧ IsTagName (p.node x).name ∧
      ∀ e ∈ (p.node x).attributes.entries, Markup.IsAttrName e.1)
    (hcooked : (p.node x).isVoid = false ∧ (p.node x).isRawText = false)
    (htext : (p.node y).isText = true ∧ (p.node y).value ≠ "") : (p.tree x).Plain := by
  rw [h.tree_eq, hc, List.map_singleton, h.tree_eq y]
  refine .element helement.1 helement.2.1 helement.2.2 ?_ (List.isChain_singleton _) ?_ ?_
  · exact fun hvoid => absurd (hcooked.1.symm.trans hvoid) Bool.false_ne_true
  · exact fun hraw => absurd (hcooked.2.symm.trans hraw) Bool.false_ne_true
  · intro t ht
    rw [List.mem_singleton.1 ht]
    exact .text htext.1 htext.2

/-- A paragraph with a title, and a text in it. -/
def titledPage : Page :=
  [.add ((Node.ofTag "p").setAttr "title" "<p>") rfl rfl, .addText "1 < 2", .append 0 1].foldl
    perform empty

/-- The same, made from the text on. -/
def laterPage : Page :=
  [.addText "1 < 2", .add ((Node.ofTag "p").setAttr "title" "<p>") rfl rfl, .append 1 0].foldl
    perform empty

theorem outline_of_markup_titledPage :
    titledPage.outerMarkup {} 0 = .ok "<p title=\"&lt;p&gt;\">1 &lt; 2</p>" ∧
      laterPage.outerMarkup {} 1 = .ok "<p title=\"&lt;p&gt;\">1 &lt; 2</p>" ∧
        (titledPage.tree 0).outline = (laterPage.tree 1).outline := by
  have htitled : (titledPage.tree 0).Plain :=
    @WellFormed.plain_single titledPage 0 1 (wellFormed_edits _) (by decide)
      (by decide +kernel) (by decide +kernel) (by decide)
  have hlater : (laterPage.tree 1).Plain :=
    @WellFormed.plain_single laterPage 1 0 (wellFormed_edits _) (by decide)
      (by decide +kernel) (by decide +kernel) (by decide)
  have hwritten : titledPage.outerMarkup {} 0 = .ok "<p title=\"&lt;p&gt;\">1 &lt; 2</p>" := by
    decide +kernel
  have hlaterWritten :
      laterPage.outerMarkup {} 1 = .ok "<p title=\"&lt;p&gt;\">1 &lt; 2</p>" := by
    decide +kernel
  exact ⟨hwritten, hlaterWritten, outline_of_markup (wellFormed_edits _) (wellFormed_edits _)
    (by decide) (by decide) htitled hlater (hwritten.trans hlaterWritten.symm)⟩

end Page

end PhraseMark
