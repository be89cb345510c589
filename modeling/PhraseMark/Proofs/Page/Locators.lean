import PhraseMark.Page.Locator
import PhraseMark.Proofs.History
import PhraseMark.Proofs.Page.TagNames
import Mathlib.Data.List.Basic
import Mathlib.Tactic.Set

/-!
# Reading locators

A locator is read as steps down from the top of a tree: each step goes to the child element at
the given place among those with the given tag. Where elements have tag names and stand under
elements or under the top, the locator of an element leads back to it and to no other.
-/

namespace PhraseMark

namespace LocatorStep

/-- The step written as a name with a place in brackets. -/
def ofText? (cs : List Char) : Option LocatorStep :=
  let name := cs.takeWhile (· != '[')
  let place := (cs.drop (name.length + 1)).takeWhile Char.isDigit
  if place ≠ [] ∧ cs = name ++ '[' :: (place ++ [']']) then
    some { name := String.ofList name, position := Nat.ofDigitChars 10 place 0 }
  else none

/-- The steps of a locator: each stands after a slash, and a slash alone has none. -/
def path? (text : String) : Option (List LocatorStep) :=
  match text.toList with
  | ['/'] => some []
  | '/' :: cs => (cs.splitOn '/').mapM ofText?
  | _ => none

variable {s : LocatorStep} {steps : List LocatorStep}

/-- A step whose name has no character that ends a name. -/
def IsPlain (s : LocatorStep) : Prop := ∀ c ∈ s.name.toList, c ∉ tagEnds

theorem toList_text (s : LocatorStep) :
    s.text.toList = s.name.toList ++ '[' :: (Nat.toDigits 10 s.position ++ [']']) := by
  simp [text, Nat.repr]

theorem isDigit_of_mem {n : Nat} {c : Char} (hc : c ∈ Nat.toDigits 10 n) : c.isDigit = true :=
  Nat.isDigit_of_mem_toDigits (by decide) (Nat.le_refl 10) hc

theorem IsPlain.ofText?_text (hs : s.IsPlain) : ofText? s.text.toList = some s := by
  have hname : s.text.toList.takeWhile (· != '[') = s.name.toList := by
    rw [toList_text, List.takeWhile_append_of_pos, List.takeWhile_cons_of_neg, List.append_nil]
    · decide
    · intro c hc
      have hne : c ≠ '[' := fun heq => hs c hc (heq ▸ by decide)
      exact bne_iff_ne.2 hne
  have hplace : (s.text.toList.drop (s.name.toList.length + 1)).takeWhile Char.isDigit =
      Nat.toDigits 10 s.position := by
    rw [toList_text, ← List.drop_drop, List.drop_left, List.drop_one, List.tail_cons,
      List.takeWhile_append_of_pos (fun c hc => isDigit_of_mem hc), List.takeWhile_cons_of_neg,
      List.append_nil]
    decide
  simp only [ofText?, hname, hplace]
  rw [if_pos ⟨Nat.toDigits_ne_nil, toList_text s⟩, String.ofList_toList,
    Nat.ofDigitChars_ten_toDigits]

theorem IsPlain.notMem_text (hs : s.IsPlain) : '/' ∉ s.text.toList := by
  intro hmem
  rw [toList_text, List.mem_append, List.mem_cons, List.mem_append, List.mem_singleton] at hmem
  rcases hmem with hmem | heq | hmem | heq
  · exact hs '/' hmem (by decide)
  · exact absurd heq (by decide)
  · exact absurd (isDigit_of_mem hmem) (by decide)
  · exact absurd heq (by decide)

theorem mapM_ofText? (hsteps : ∀ s ∈ steps, s.IsPlain) :
    (steps.map (fun s => s.text.toList)).mapM ofText? = some steps := by
  induction steps with
  | nil => rfl
  | cons s steps ih =>
      rw [List.map_cons, List.mapM_cons, (hsteps s List.mem_cons_self).ofText?_text,
        ih (fun r hr => hsteps r (List.mem_cons_of_mem s hr))]
      rfl

theorem path?_text (hsteps : ∀ s ∈ steps, s.IsPlain) :
    path? ("/" ++ String.intercalate "/" (steps.map (·.text))) = some steps := by
  cases hcases : steps with
  | nil => rfl
  | cons s rest =>
      rw [← hcases]
      set cs := List.intercalate ['/'] (steps.map (fun s => s.text.toList)) with hcs
      have htext : ("/" ++ String.intercalate "/" (steps.map (·.text))).toList = '/' :: cs := by
        rw [String.toList_append, String.toList_intercalate, List.map_map]
        rfl
      have hsplit : cs.splitOn '/' = steps.map (fun s => s.text.toList) := by
        refine List.splitOn_intercalate '/' (fun l hl => ?_) (by simp [hcases])
        obtain ⟨r, hr, rfl⟩ := List.mem_map.1 hl
        exact (hsteps r hr).notMem_text
      have hne : cs ≠ [] := by
        intro hnil
        rw [hnil, hcases, List.map_cons, toList_text] at hsplit
        simp at hsplit
      obtain ⟨c, cs', hcons⟩ := List.exists_cons_of_ne_nil hne
      unfold path?
      rw [htext, hcons]
      simp only
      rw [← hcons, hsplit, mapM_ofText? hsteps]

end LocatorStep

namespace Page

variable {p : Page} {id x top : NodeId} {ids : List NodeId} {s : LocatorStep}
  {steps : List LocatorStep}

/-! ## Steps down -/

/-- The element that a step leads to among the given nodes; places are counted from one. -/
def choose? (p : Page) (ids : List NodeId) (s : LocatorStep) : Option NodeId :=
  match s.position with
  | 0 => none
  | k + 1 => (ids.filter (fun c => (p.node c).hasTag s.name))[k]?

/-- The element that steps lead to, the first of them among the given nodes. -/
def reach? (p : Page) : List NodeId → List LocatorStep → Option NodeId
  | _, [] => none
  | ids, [s] => p.choose? ids s
  | ids, s :: steps => (p.choose? ids s).bind (fun c => p.reach? (p.node c).children steps)

/-- Where the first step leads: among the children of the top, or, when the top is itself an
element, among those of a document that has it as its only child. -/
def entries (p : Page) (top : NodeId) : List NodeId :=
  if (p.node top).isElement then [top] else (p.node top).children

/-- The element that a locator names in the tree with the given top. -/
def located? (p : Page) (top : NodeId) (text : String) : Option NodeId :=
  (LocatorStep.path? text).bind (p.reach? (p.entries top))

theorem reach?_concat (hne : steps ≠ []) :
    p.reach? ids (steps ++ [s]) =
      (p.reach? ids steps).bind (fun c => p.choose? (p.node c).children s) := by
  induction steps generalizing ids with
  | nil => exact absurd rfl hne
  | cons r steps ih =>
      cases steps with
      | nil => rfl
      | cons r' steps =>
          have hrest := fun ids => @ih ids (List.cons_ne_nil r' steps)
          simp only [List.cons_append] at hrest ⊢
          simp only [reach?, hrest, Option.bind_assoc]

/-! ## Pages with locators -/

/-- Elements have tag names and stand under elements or under the top of their tree. -/
structure Locatable (p : Page) : Prop where
  wellFormed : p.WellFormed
  isTagName : ∀ x < p.size, (p.node x).isElement = true → IsTagName (p.node x).name
  under : ∀ x, ∀ c ∈ (p.node x).children, (p.node c).isElement = true →
    (p.node x).isElement = true ∨ (p.node x).parent = none

/-- The node at which the way up from a node ends. -/
def IsTop (p : Page) (top id : NodeId) : Prop :=
  top ∈ p.lineage id ∧ (p.node top).parent = none

theorem WellFormed.exists_isTop (h : p.WellFormed) (id : NodeId) : ∃ top, p.IsTop top id := by
  induction id using h.up_induction with
  | top id hp => exact ⟨id, h.mem_lineage_self id, hp⟩
  | step id x hp ih =>
      obtain ⟨top, hmem, htop⟩ := ih
      exact ⟨top, h.mem_lineage_trans hmem (h.mem_lineage_of_parent hp), htop⟩

theorem WellFormed.isTop_of_parent (h : p.WellFormed) (hp : (p.node id).parent = some x)
    (htop : p.IsTop top id) : p.IsTop top x := by
  have hne : id ≠ top := by
    rintro rfl
    rw [htop.2] at hp
    cases hp
  obtain ⟨y, hy, hmem⟩ := h.exists_parent_of_mem_lineage htop.1 hne
  rw [hp] at hy
  cases hy
  exact ⟨hmem, htop.2⟩

theorem WellFormed.isTop_self (h : p.WellFormed) (hp : (p.node id).parent = none)
    (htop : p.IsTop top id) : top = id := by
  have hmem := htop.1
  rwa [h.lineage_of_top hp, List.mem_singleton] at hmem

namespace Locatable

variable {c : NodeId}

theorem hasTag_lowercase (h : p.Locatable) (hid : id < p.size)
    (he : (p.node id).isElement = true) (hc : c < p.size) :
    (p.node c).hasTag (Text.lowercase (p.node id).name) =
      ((p.node c).isElement && (p.node c).name == (p.node id).name) := by
  have hname := h.isTagName id hid he
  rw [Node.hasTag, hname.lowercase_eq]
  cases hce : (p.node c).isElement with
  | false => rfl
  | true =>
      rw [Bool.true_and, Bool.true_and, Bool.eq_iff_iff, Text.eqIgnoringCase_iff,
        hname.asciiLower_asciiLower, (h.isTagName c hc hce).asciiLower_inj hname, beq_iff_eq]

theorem hasTag_self (h : p.Locatable) (hid : id < p.size) (he : (p.node id).isElement = true) :
    (p.node id).hasTag (Text.lowercase (p.node id).name) = true := by
  rw [h.hasTag_lowercase hid he hid, he, beq_self_eq_true, Bool.and_self]

theorem isPlain (h : p.Locatable) (hid : id < p.size) (he : (p.node id).isElement = true)
    (i : Nat) : LocatorStep.IsPlain ⟨Text.lowercase (p.node id).name, i⟩ := by
  have hname := h.isTagName id hid he
  intro c hc
  rw [hname.lowercase_eq] at hc
  exact hname.notMem_ends hc

theorem namesakes_eq (h : p.Locatable) (hp : (p.node id).parent = some x)
    (he : (p.node id).isElement = true) :
    p.namesakes (p.node x) (p.node id).name =
      ((p.node x).children.filter
        (fun c => (p.node c).hasTag (Text.lowercase (p.node id).name))).map p.node := by
  have hlt : ∀ c ∈ (p.node x).children, c < p.size :=
    fun c hc => h.wellFormed.lt_of_mem_children hc
  have hnodes : (p.node x).children.filterMap (fun c => p.nodes[c]?) =
      (p.node x).children.map p.node := by
    refine List.filterMap_eq_map_iff_forall_eq_some.2 (fun c hc => ?_)
    exact get_eq_ok_iff.1 (get_of_lt (hlt c hc))
  rw [namesakes, hnodes, List.filter_map]
  refine congrArg (List.map p.node) (List.filter_congr (fun c hc => ?_))
  exact (h.hasTag_lowercase (lt_of_parent hp) he (hlt c hc)).symm

theorem choose?_child (h : p.Locatable) (hp : (p.node id).parent = some x)
    (he : (p.node id).isElement = true) :
    ∃ i, p.positionOf (p.node id) = .ok i ∧
      p.choose? (p.node x).children ⟨Text.lowercase (p.node id).name, i⟩ = some id := by
  have hid := lt_of_parent hp
  have hchild := (h.wellFormed.mem_children_iff x id).2 hp
  set same := (p.node x).children.filter
    (fun c => (p.node c).hasTag (Text.lowercase (p.node id).name)) with hsame
  have hmem : id ∈ same := List.mem_filter.2 ⟨hchild, h.hasTag_self hid he⟩
  have hexists : ∃ c ∈ same, ((p.node c).id == (p.node id).id) = true :=
    ⟨id, hmem, beq_self_eq_true _⟩
  set i := same.findIdx (fun c => (p.node c).id == (p.node id).id) with hi
  have hlt : i < same.length := List.findIdx_lt_length_of_exists hexists
  -- nodes lie at their ids, so the first with the id of the element is the element
  have hfound : same[i] = id := by
    have hsameId := beq_iff_eq.1 (List.findIdx_getElem (w := hlt))
    have hin := (List.mem_filter.1 (List.getElem_mem hlt)).1
    rwa [h.wellFormed.id_node _ (h.wellFormed.lt_of_mem_children hin),
      h.wellFormed.id_node id hid] at hsameId
  refine ⟨i + 1, ?_, ?_⟩
  · unfold positionOf
    simp only [hp, get_of_lt (h.wellFormed.parent_lt hp), h.namesakes_eq hp he, List.findIdx?_map]
    rw [Function.comp_def, List.findIdx?_eq_some_of_exists hexists, Option.getD_some]
  · exact List.getElem?_eq_some_iff.2 ⟨hlt, hfound⟩

theorem choose?_top (h : p.Locatable) (hid : id < p.size) (he : (p.node id).isElement = true) :
    p.choose? [id] ⟨Text.lowercase (p.node id).name, 1⟩ = some id := by
  simp [choose?, h.hasTag_self hid he]

end Locatable

/-! ## There and back -/

/-- Steps, the last first, that lead to an element from the top of its tree. -/
structure LeadTo (p : Page) (id : NodeId) (steps : List LocatorStep) : Prop where
  ne_nil : steps ≠ []
  isPlain : ∀ s ∈ steps, s.IsPlain
  reach : ∀ top, p.IsTop top id → p.reach? (p.entries top) steps.reverse = some id

namespace Locatable

theorem leadTo_top (h : p.Locatable) (hid : id < p.size) (he : (p.node id).isElement = true)
    (hp : (p.node id).parent = none) :
    p.LeadTo id [⟨Text.lowercase (p.node id).name, 1⟩] where
  ne_nil := List.cons_ne_nil _ _
  isPlain := by
    intro s hs
    rw [List.mem_singleton.1 hs]
    exact h.isPlain hid he 1
  reach := by
    intro top htop
    rw [h.wellFormed.isTop_self hp htop, entries, if_pos he]
    exact h.choose?_top hid he

theorem leadTo_child (h : p.Locatable) (hp : (p.node id).parent = some x)
    (he : (p.node id).isElement = true) {i : Nat}
    (hi : p.choose? (p.node x).children ⟨Text.lowercase (p.node id).name, i⟩ = some id)
    (hx : ((p.node x).isElement = true ∧ p.LeadTo x steps) ∨
      ((p.node x).isElement = false ∧ (p.node x).parent = none ∧ steps = [])) :
    p.LeadTo id (⟨Text.lowercase (p.node id).name, i⟩ :: steps) where
  ne_nil := List.cons_ne_nil _ _
  isPlain := by
    intro s hs
    rcases List.mem_cons.1 hs with rfl | hs
    · exact h.isPlain (lt_of_parent hp) he i
    · rcases hx with ⟨-, hlead⟩ | ⟨-, -, rfl⟩
      · exact hlead.isPlain s hs
      · exact absurd hs List.not_mem_nil
  reach := by
    intro top htop
    have hxtop := h.wellFormed.isTop_of_parent hp htop
    rw [List.reverse_cons]
    rcases hx with ⟨-, hlead⟩ | ⟨hxe, hxp, rfl⟩
    · rw [reach?_concat (List.reverse_ne_nil_iff.2 hlead.ne_nil), hlead.reach top hxtop,
        Option.bind_some, hi]
    · rw [h.wellFormed.isTop_self hxp hxtop, entries, hxe]
      exact hi

/-- The steps up from an element, read backwards, lead down to it. -/
theorem exists_leadTo (h : p.Locatable) (id : NodeId) (he : (p.node id).isElement = true)
    (hid : id < p.size) {links : Nat} (hlinks : (p.lineage id).length ≤ links) :
    ∃ steps, p.stepsUp links id = .ok steps ∧ p.LeadTo id steps := by
  induction id using h.wellFormed.up_induction generalizing links with
  | top id hp =>
      obtain ⟨links, rfl⟩ := Nat.exists_eq_add_one.2
        (Nat.lt_of_lt_of_le (h.wellFormed.length_lineage_pos id) hlinks)
      refine ⟨_, ?_, h.leadTo_top hid he hp⟩
      unfold stepsUp positionOf
      simp only [get_of_lt hid, he, hp]
      rfl
  | step id x hp ih =>
      rw [h.wellFormed.length_lineage_child hp] at hlinks
      obtain ⟨links, rfl⟩ := Nat.exists_eq_add_one.2 (Nat.lt_of_lt_of_le (Nat.succ_pos _) hlinks)
      have hlinks := Nat.le_of_succ_le_succ hlinks
      have hxlt := h.wellFormed.parent_lt hp
      obtain ⟨i, hi, hchoose⟩ := h.choose?_child hp he
      have hsteps : ∀ steps, p.stepsUp links x = .ok steps →
          p.stepsUp (links + 1) id = .ok (⟨Text.lowercase (p.node id).name, i⟩ :: steps) := by
        intro steps hsteps
        unfold stepsUp
        simp only [get_of_lt hid, he, hi, hp, hsteps]
        rfl
      cases hxe : (p.node x).isElement with
      | true =>
          obtain ⟨steps, hup, hlead⟩ := ih hxe hxlt hlinks
          exact ⟨_, hsteps steps hup, h.leadTo_child hp he hchoose (.inl ⟨hxe, hlead⟩)⟩
      | false =>
          -- above an element only the top is no element, and it takes no step
          have hxp : (p.node x).parent = none := by
            have hunder := h.under x id ((h.wellFormed.mem_children_iff x id).2 hp) he
            rw [hxe] at hunder
            exact hunder.resolve_left Bool.false_ne_true
          have hup : p.stepsUp links x = .ok [] := by
            obtain ⟨links, rfl⟩ := Nat.exists_eq_add_one.2
              (Nat.lt_of_lt_of_le (h.wellFormed.length_lineage_pos x) hlinks)
            unfold stepsUp
            simp only [get_of_lt hxlt, hxe, hxp]
            rfl
          exact ⟨_, hsteps [] hup, h.leadTo_child hp he hchoose (.inr ⟨hxe, hxp, rfl⟩)⟩

theorem exists_located? (h : p.Locatable) (hid : id < p.size)
    (he : (p.node id).isElement = true) :
    ∃ text, p.locator id = .ok text ∧
      ∀ top, p.IsTop top id → p.located? top text = some id := by
  have hlinks := Nat.le_succ_of_le (h.wellFormed.length_lineage_le hid)
  obtain ⟨steps, hup, hlead⟩ := h.exists_leadTo id he hid hlinks
  refine ⟨_, by rw [locator, locatorSteps, hup]; rfl, ?_⟩
  intro top htop
  have hplain : ∀ s ∈ steps.reverse, s.IsPlain :=
    fun s hs => hlead.isPlain s (List.mem_reverse.1 hs)
  rw [located?, LocatorStep.path?_text hplain, Option.bind_some, hlead.reach top htop]

end Locatable

/-- Every element has a locator, which read from the top of its tree names that element; so no
other element of the tree has the same one. -/
theorem locator_leads_back (h : p.Locatable) (hid : id < p.size)
    (he : (p.node id).isElement = true) :
    ∃ text, p.locator id = .ok text ∧ (∃ top, p.IsTop top id) ∧
      ∀ top, p.IsTop top id → p.located? top text = some id ∧
        ∀ other, (p.node other).isElement = true → p.IsTop top other →
          p.locator other = .ok text → other = id := by
  obtain ⟨text, htext, hlocated⟩ := h.exists_located? hid he
  refine ⟨text, htext, h.wellFormed.exists_isTop id, ?_⟩
  intro top htop
  refine ⟨hlocated top htop, ?_⟩
  intro other hother hothertop hsame
  have hlt := h.wellFormed.lt_of_mem_lineage hothertop.1 (h.wellFormed.lineage_lt hid htop.1)
  obtain ⟨text', htext', hlocated'⟩ := h.exists_located? hlt hother
  rw [htext', Except.ok.injEq] at hsame
  have hback := hlocated' top hothertop
  rw [hsame, hlocated top htop, Option.some.injEq] at hback
  exact hback.symm

/-- A division with a paragraph, a text and one more paragraph in it. -/
def rowPage : Page :=
  [.addElement "div", .addElement "p", .addText "and", .addElement "p", .append 0 1, .append 0 2,
    .append 0 3].foldl perform empty

theorem locatable_rowPage : rowPage.Locatable where
  wellFormed := wellFormed_edits _
  isTagName := by decide +kernel
  under := by
    intro x c hc _
    have hall : ∀ x < rowPage.size, (rowPage.node x).children ≠ [] →
        (rowPage.node x).isElement = true := by
      decide
    exact .inl (hall x (lt_of_mem_children hc) (List.ne_nil_of_mem hc))

theorem locator_leads_back_rowPage :
    rowPage.locator 3 = .ok "/div[1]/p[2]" ∧ rowPage.located? 0 "/div[1]/p[2]" = some 3 ∧
      rowPage.locator 1 ≠ .ok "/div[1]/p[2]" := by
  obtain ⟨text, htext, -, hlocated⟩ :=
    locator_leads_back locatable_rowPage (show 3 < rowPage.size by decide)
      (by decide)
  have hwritten : rowPage.locator 3 = .ok "/div[1]/p[2]" := by decide +kernel
  rw [hwritten, Except.ok.injEq] at htext
  obtain ⟨hback, honly⟩ :=
    hlocated 0 ⟨by decide, by decide⟩
  rw [← htext] at hback honly
  refine ⟨hwritten, hback, fun hsame => ?_⟩
  have heq := honly 1 (by decide) ⟨by decide, by decide⟩ hsame
  cases heq

end Page

end PhraseMark
