import PhraseMark.Page.Markup
import PhraseMark.Proofs.Page.TagNames

/-!
# Escaping

Each piece of markup runs up to a character that it does not hold: a name up to a blank or a
bracket, the name of an attribute up to an equals sign, an escaped value up to a quote, an escaped
text up to the next tag. So the pieces of a tag can be told from the characters they are written as,
whatever follows them.
-/

namespace PhraseMark

theorem takeWhile_cut {ends as r : List Char} {c : Char} (has : ∀ a ∈ as, a ∉ ends)
    (hc : c ∈ ends) : (as ++ c :: r).takeWhile (fun a => decide (a ∉ ends)) = as := by
  rw [List.takeWhile_append_of_pos (fun a ha => decide_eq_true (has a ha)),
    List.takeWhile_cons_of_neg (by simpa using hc), List.append_nil]

/-- A list that runs up to the first of some characters is told by what it begins. -/
theorem eq_of_cut {ends as bs r r' : List Char} {c d : Char} (has : ∀ a ∈ as, a ∉ ends)
    (hbs : ∀ b ∈ bs, b ∉ ends) (hc : c ∈ ends) (hd : d ∈ ends) (h : as ++ c :: r = bs ++ d :: r') :
    as = bs ∧ c = d ∧ r = r' := by
  have hsame : as = bs := by
    rw [← takeWhile_cut (r := r) has hc, h, takeWhile_cut hbs hd]
  rw [hsame] at h
  exact ⟨hsame, List.cons.inj (List.append_cancel_left h)⟩

theorem forall_notMem {cs : List Char} {d : Char} (h : d ∉ cs) : ∀ c ∈ cs, c ∉ [d] := by
  intro c hc hmem
  rw [List.mem_singleton.1 hmem] at hc
  exact h hc

namespace Markup

variable {inAttribute : Bool} {c d : Char} {cs ds r r' : List Char}

/-! ## Escaped characters -/

/-- The characters that are never written as they are, or not in attributes, and what stands for
them. -/
def references : List (Char × List Char) :=
  [('&', "&amp;".toList), ('<', "&lt;".toList), ('>', "&gt;".toList), ('"', "&quot;".toList),
    ('\u00a0', "&nbsp;".toList)]

theorem references_spelled :
    (∀ e ∈ references, e.2.head? = some '&' ∧ 2 ≤ e.2.length ∧ '<' ∉ e.2 ∧ '"' ∉ e.2) ∧
      ∀ e ∈ references, ∀ f ∈ references, e.2.take 2 = f.2.take 2 → e = f := by
  decide

theorem escapeChar_cases (inAttribute : Bool) (c : Char) :
    (escapeChar inAttribute c = [c] ∧ c ≠ '&' ∧ c ≠ '<' ∧ (inAttribute = true → c ≠ '"')) ∨
      (c, escapeChar inAttribute c) ∈ references := by
  unfold escapeChar
  by_cases hamp : c = '&'
  · subst hamp
    exact .inr (by simp [references])
  rw [if_neg hamp]
  by_cases hlt : c = '<'
  · subst hlt
    exact .inr (by simp [references])
  rw [if_neg hlt]
  by_cases hgt : c = '>'
  · subst hgt
    exact .inr (by simp [references])
  rw [if_neg hgt]
  by_cases hquote : c = '"' ∧ inAttribute = true
  · obtain ⟨rfl, hattribute⟩ := hquote
    exact .inr (by simp [references, hattribute])
  rw [if_neg hquote]
  by_cases hblank : c = '\u00a0'
  · subst hblank
    exact .inr (by simp [references])
  rw [if_neg hblank]
  exact .inl ⟨rfl, hamp, hlt, fun hattribute heq => hquote ⟨heq, hattribute⟩⟩

theorem escapeChar_ne_nil (inAttribute : Bool) (c : Char) : escapeChar inAttribute c ≠ [] := by
  rcases escapeChar_cases inAttribute c with ⟨heq, -⟩ | hmem
  · rw [heq]
    exact List.cons_ne_nil c []
  · have hlen := (references_spelled.1 _ hmem).2.1
    exact List.ne_nil_of_length_pos (Nat.lt_of_lt_of_le Nat.two_pos hlen)

theorem notMem_escapeChar (inAttribute : Bool) (c : Char) :
    '<' ∉ escapeChar inAttribute c ∧ (inAttribute = true → '"' ∉ escapeChar inAttribute c) := by
  rcases escapeChar_cases inAttribute c with ⟨heq, -, hlt, hquote⟩ | hmem
  · rw [heq, List.mem_singleton, List.mem_singleton]
    exact ⟨Ne.symm hlt, fun hattribute => (hquote hattribute).symm⟩
  · obtain ⟨-, -, hlt, hquote⟩ := references_spelled.1 _ hmem
    exact ⟨hlt, fun _ => hquote⟩

/-- What stands for one character neither begins nor continues what stands for another. -/
theorem escapeChar_cancel
    (h : escapeChar inAttribute c ++ r = escapeChar inAttribute d ++ r') : c = d ∧ r = r' := by
  have hplain : ∀ {e f : Char} {s s' : List Char}, e ≠ '&' →
      (f, escapeChar inAttribute f) ∈ references →
        [e] ++ s ≠ escapeChar inAttribute f ++ s' := by
    intro e f s s' hne hmem heq
    have hhead := congrArg List.head? heq
    rw [List.head?_append, List.head?_append, (references_spelled.1 _ hmem).1] at hhead
    simp only [List.head?_cons, Option.some_or, Option.some.injEq] at hhead
    exact hne hhead
  rcases escapeChar_cases inAttribute c with ⟨heq, hamp, -⟩ | hmem
  · rcases escapeChar_cases inAttribute d with ⟨heq', -⟩ | hmem'
    · rw [heq, heq'] at h
      simpa using h
    · rw [heq] at h
      exact absurd h (hplain hamp hmem')
  · rcases escapeChar_cases inAttribute d with ⟨heq', hamp', -⟩ | hmem'
    · rw [heq'] at h
      exact absurd h.symm (hplain hamp' hmem)
    · have htwo := congrArg (List.take 2) h
      rw [List.take_append_of_le_length (references_spelled.1 _ hmem).2.1,
        List.take_append_of_le_length (references_spelled.1 _ hmem').2.1] at htwo
      have hsame := references_spelled.2 _ hmem _ hmem' htwo
      rw [Prod.mk.injEq] at hsame
      rw [hsame.2] at h
      exact ⟨hsame.1, List.append_cancel_left h⟩

theorem flatMap_escapeChar_inj
    (h : cs.flatMap (escapeChar inAttribute) = ds.flatMap (escapeChar inAttribute)) : cs = ds := by
  induction cs generalizing ds with
  | nil =>
      cases ds with
      | nil => rfl
      | cons d ds =>
          have hnil := List.flatMap_eq_nil_iff.1 h.symm d List.mem_cons_self
          exact absurd hnil (escapeChar_ne_nil inAttribute d)
  | cons c cs ih =>
      cases ds with
      | nil =>
          have hnil := List.flatMap_eq_nil_iff.1 h c List.mem_cons_self
          exact absurd hnil (escapeChar_ne_nil inAttribute c)
      | cons d ds =>
          rw [List.flatMap_cons, List.flatMap_cons] at h
          obtain ⟨heq, hrest⟩ := escapeChar_cancel h
          rw [heq, ih hrest]

theorem escape_inj {s t : String}
    (h : (escape inAttribute s).toList = (escape inAttribute t).toList) : s = t := by
  rw [escape, escape, String.toList_ofList, String.toList_ofList] at h
  exact String.toList_injective (flatMap_escapeChar_inj h)

theorem notMem_escape (inAttribute : Bool) (s : String) :
    '<' ∉ (escape inAttribute s).toList ∧
      (inAttribute = true → '"' ∉ (escape inAttribute s).toList) := by
  rw [escape, String.toList_ofList]
  constructor
  · intro hmem
    obtain ⟨c, -, hc⟩ := List.mem_flatMap.1 hmem
    exact (notMem_escapeChar inAttribute c).1 hc
  · intro hattribute hmem
    obtain ⟨c, -, hc⟩ := List.mem_flatMap.1 hmem
    exact (notMem_escapeChar inAttribute c).2 hattribute hc

theorem escape_ne_nil {s : String} (h : s ≠ "") : (escape inAttribute s).toList ≠ [] :=
  fun hnil => h (escape_inj (t := "") hnil)

/-! ## Tags -/

/-- What is written for the attributes of an element. -/
def namedValues (es : List (String × String)) : List Char :=
  es.flatMap (fun e => (namedValue e).toList)

theorem toList_namedValue (e : String × String) :
    (namedValue e).toList =
      ' ' :: (e.1.toList ++ '=' :: '"' :: ((escape true e.2).toList ++ ['"'])) := by
  simp [namedValue]

theorem toList_openTag (n : Node) :
    (openTag n).toList =
      '<' :: ((tag n).toList ++ (namedValues n.attributes.entries ++ ['>'])) := by
  simp [openTag, String.toList_join, namedValues, List.flatMap_map]

theorem toList_closeTag (n : Node) :
    (closeTag n).toList = '<' :: '/' :: ((tag n).toList ++ ['>']) := by
  simp [closeTag]

/-- A name of an attribute that has no equals sign. -/
def IsAttrName (name : String) : Prop := '=' ∉ name.toList

instance (name : String) : Decidable (IsAttrName name) := inferInstanceAs (Decidable (¬ _))

theorem namedValue_cancel {e f : String × String} (he : IsAttrName e.1) (hf : IsAttrName f.1)
    (h : (namedValue e).toList ++ r = (namedValue f).toList ++ r') : e = f ∧ r = r' := by
  have hvalue : ∀ s : String, ∀ c ∈ (escape true s).toList, c ∉ ['"'] :=
    fun s => forall_notMem ((notMem_escape true s).2 rfl)
  rw [toList_namedValue, toList_namedValue] at h
  simp only [List.cons_append, List.append_assoc, List.nil_append, List.cons.injEq,
    true_and] at h
  obtain ⟨hname, -, h⟩ := eq_of_cut (forall_notMem he) (forall_notMem hf)
    (List.mem_singleton_self '=') (List.mem_singleton_self '=') h
  rw [List.cons.injEq] at h
  obtain ⟨hescape, -, hrest⟩ := eq_of_cut (hvalue e.2) (hvalue f.2) (List.mem_singleton_self '"')
    (List.mem_singleton_self '"') h.2
  exact ⟨Prod.ext (String.toList_injective hname) (escape_inj hescape), hrest⟩

theorem namedValues_cancel {es fs : List (String × String)} (hes : ∀ e ∈ es, IsAttrName e.1)
    (hfs : ∀ f ∈ fs, IsAttrName f.1)
    (h : namedValues es ++ '>' :: r = namedValues fs ++ '>' :: r') : es = fs ∧ r = r' := by
  have hends : ∀ {e : String × String} {es : List (String × String)} {s s' : List Char},
      '>' :: s ≠ namedValues (e :: es) ++ s' := by
    intro e es s s' heq
    rw [namedValues, List.flatMap_cons, toList_namedValue] at heq
    simp at heq
  induction es generalizing fs with
  | nil =>
      cases fs with
      | nil => simpa [namedValues] using h
      | cons f fs => exact absurd h hends
  | cons e es ih =>
      cases fs with
      | nil => exact absurd h.symm hends
      | cons f fs =>
          rw [namedValues, namedValues, List.flatMap_cons, List.flatMap_cons, List.append_assoc,
            List.append_assoc] at h
          obtain ⟨hsame, h⟩ :=
            namedValue_cancel (hes e List.mem_cons_self) (hfs f List.mem_cons_self) h
          obtain ⟨hmore, hrest⟩ := ih (fun x hx => hes x (List.mem_cons_of_mem e hx))
            (fun x hx => hfs x (List.mem_cons_of_mem f hx)) h
          exact ⟨by rw [hsame, hmore], hrest⟩

/-- After the name of a tag comes a blank or the end of the tag. -/
theorem exists_end (es : List (String × String)) (r : List Char) :
    ∃ c s, namedValues es ++ '>' :: r = c :: s ∧ c ∈ tagEnds := by
  cases es with
  | nil => exact ⟨'>', r, rfl, by decide⟩
  | cons e es =>
      rw [namedValues, List.flatMap_cons, toList_namedValue, List.append_assoc, List.cons_append]
      exact ⟨' ', _, rfl, by decide⟩

theorem tag_cancel {n m : Node} (hn : IsTagName n.name) (hm : IsTagName m.name) (hc : c ∈ tagEnds)
    (hd : d ∈ tagEnds) (h : (tag n).toList ++ c :: r = (tag m).toList ++ d :: r') :
    n.name = m.name ∧ c :: r = d :: r' := by
  obtain ⟨htag, heq, hrest⟩ :=
    eq_of_cut (fun _ hx => hn.notMem_ends hx) (fun _ hx => hm.notMem_ends hx) hc hd h
  exact ⟨(hn.asciiLower_inj hm).1 (String.toList_injective htag), by rw [heq, hrest]⟩

/-- An opening tag tells the name and the attributes of its element. -/
theorem openTag_cancel {n m : Node} (hn : IsTagName n.name) (hm : IsTagName m.name)
    (hnattr : ∀ e ∈ n.attributes.entries, IsAttrName e.1)
    (hmattr : ∀ e ∈ m.attributes.entries, IsAttrName e.1)
    (h : (openTag n).toList ++ r = (openTag m).toList ++ r') :
    n.name = m.name ∧ n.attributes = m.attributes ∧ r = r' := by
  rw [toList_openTag, toList_openTag] at h
  simp only [List.cons_append, List.append_assoc, List.nil_append, List.cons.injEq, true_and] at h
  obtain ⟨c, s, hs, hc⟩ := exists_end n.attributes.entries r
  obtain ⟨d, s', hs', hd⟩ := exists_end m.attributes.entries r'
  rw [hs, hs'] at h
  obtain ⟨hname, hrest⟩ := tag_cancel hn hm hc hd h
  rw [← hs, ← hs'] at hrest
  obtain ⟨hentries, hrest⟩ := namedValues_cancel hnattr hmattr hrest
  exact ⟨hname, Attributes.ext hentries, hrest⟩

end Markup

end PhraseMark
