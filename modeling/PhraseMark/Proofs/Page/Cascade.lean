import Mathlib.Data.List.Forall2
import PhraseMark.Page.Style
import PhraseMark.Proofs.Text.Splitting

/-!
# Inline style and the cascade

Of several declarations of one property in a style the last one counts. For a style of
declarations of `display` and `visibility`, in any spelling, what the program reads are these
declarations. It takes an element for hidden if any of them hides it, whether or not a later one of
the same property takes that back, so it differs from the cascade just where every declaration that
hides has been taken back.
-/

namespace PhraseMark

namespace Declaration

variable {d e : Declaration} {ds : List Declaration} {property word : String}

/-! ## The cascade -/

/-- The declarations of `display` and of `visibility` by keywords. -/
def keyworded : List Declaration :=
  ["none", "block", "inline"].map (⟨"display", ·⟩) ++
    ["visible", "hidden", "collapse"].map (⟨"visibility", ·⟩)

/-- The declaration alone hides an element. -/
def Conceals (d : Declaration) : Prop :=
  (d.property = "display" ∧ d.value = "none") ∨
    (d.property = "visibility" ∧ (d.value = "hidden" ∨ d.value = "collapse"))

instance : DecidablePred Conceals := fun _ => inferInstanceAs (Decidable (_ ∨ _))

/-- The value of the last declaration of a property. -/
def cascaded? (property : String) (ds : List Declaration) : Option String :=
  ((ds.filter (·.property == property)).getLast?).map (·.value)

/-- The values that count hide an element. -/
def HiddenByCascade (ds : List Declaration) : Prop :=
  cascaded? "display" ds = some "none" ∨
    cascaded? "visibility" ds = some "hidden" ∨ cascaded? "visibility" ds = some "collapse"

instance : DecidablePred HiddenByCascade := fun _ => inferInstanceAs (Decidable (_ ∨ _))

/-- A declaration that hides an element is taken back by a later one of the same property. -/
def TakesBack (ds : List Declaration) : Prop :=
  ∃ before d between e after, ds = before ++ d :: between ++ e :: after ∧
    e.property = d.property ∧ d.Conceals ∧ ¬ e.Conceals

theorem cascaded?_cons (property : String) (d : Declaration) (ds : List Declaration) :
    cascaded? property (d :: ds) =
      (cascaded? property ds).or (if d.property = property then some d.value else none) := by
  unfold cascaded?
  by_cases hd : d.property = property
  · rw [List.filter_cons_of_pos (by simpa using hd), List.getLast?_cons, if_pos hd]
    cases (ds.filter (·.property == property)).getLast? <;> rfl
  · rw [List.filter_cons_of_neg (by simpa using hd), if_neg hd, Option.or_none]

theorem exists_of_cascaded? {value : String} (h : cascaded? property ds = some value) :
    ∃ d ∈ ds, d.property = property ∧ d.value = value := by
  obtain ⟨d, hd, rfl⟩ := Option.map_eq_some_iff.1 h
  obtain ⟨hmem, hproperty⟩ := List.mem_filter.1 (List.mem_of_getLast? hd)
  exact ⟨d, hmem, by simpa using hproperty, rfl⟩

theorem HiddenByCascade.exists_conceals (h : HiddenByCascade ds) : ∃ d ∈ ds, d.Conceals := by
  rcases h with h | h | h
  · obtain ⟨d, hd, hproperty, hvalue⟩ := exists_of_cascaded? h
    exact ⟨d, hd, .inl ⟨hproperty, hvalue⟩⟩
  · obtain ⟨d, hd, hproperty, hvalue⟩ := exists_of_cascaded? h
    exact ⟨d, hd, .inr ⟨hproperty, .inl hvalue⟩⟩
  · obtain ⟨d, hd, hproperty, hvalue⟩ := exists_of_cascaded? h
    exact ⟨d, hd, .inr ⟨hproperty, .inr hvalue⟩⟩

theorem TakesBack.exists_conceals (h : TakesBack ds) : ∃ d ∈ ds, d.Conceals := by
  obtain ⟨before, d, between, e, after, rfl, -, hd, -⟩ := h
  exact ⟨d, by simp, hd⟩

theorem HiddenByCascade.cons (h : HiddenByCascade ds) (d : Declaration) :
    HiddenByCascade (d :: ds) := by
  unfold HiddenByCascade at h ⊢
  rw [cascaded?_cons, cascaded?_cons]
  rcases h with h | h | h
  · exact .inl (by rw [h, Option.some_or])
  · exact .inr (.inl (by rw [h, Option.some_or]))
  · exact .inr (.inr (by rw [h, Option.some_or]))

theorem TakesBack.cons (h : TakesBack ds) (d : Declaration) : TakesBack (d :: ds) := by
  obtain ⟨before, e, between, f, after, rfl, h⟩ := h
  exact ⟨d :: before, e, between, f, after, rfl, h⟩

theorem Conceals.hidden_of_last (h : d.Conceals) (hlast : cascaded? d.property ds = none) :
    HiddenByCascade (d :: ds) := by
  have hvalue : cascaded? d.property (d :: ds) = some d.value := by
    rw [cascaded?_cons, hlast, if_pos rfl, Option.none_or]
  rcases h with ⟨hproperty, hv⟩ | ⟨hproperty, hv | hv⟩
  · rw [hproperty, hv] at hvalue
    exact .inl hvalue
  · rw [hproperty, hv] at hvalue
    exact .inr (.inl hvalue)
  · rw [hproperty, hv] at hvalue
    exact .inr (.inr hvalue)

/-- Where a declaration hides an element, the cascade does, or the declaration is taken back. -/
theorem exists_conceals_iff (ds : List Declaration) :
    (∃ d ∈ ds, d.Conceals) ↔ HiddenByCascade ds ∨ TakesBack ds := by
  refine ⟨?_, fun h => h.elim HiddenByCascade.exists_conceals TakesBack.exists_conceals⟩
  induction ds with
  | nil => simp
  | cons d ds ih =>
      intro h
      by_cases hlater : ∃ e ∈ ds, e.Conceals
      · exact (ih hlater).imp (·.cons d) (·.cons d)
      · -- `d` is the last one that hides
        obtain ⟨e, he, hconceals⟩ := h
        rcases List.mem_cons.1 he with rfl | he
        · cases hlast : cascaded? e.property ds with
          | none => exact .inl (hconceals.hidden_of_last hlast)
          | some value =>
              obtain ⟨f, hf, hproperty, -⟩ := exists_of_cascaded? hlast
              obtain ⟨between, after, rfl⟩ := List.append_of_mem hf
              exact .inr ⟨[], e, between, f, after, rfl, hproperty, hconceals,
                fun hf' => hlater ⟨f, hf, hf'⟩⟩
        · exact absurd ⟨e, he, hconceals⟩ hlater

/-! ## Spellings -/

def smallLetters : List Char := "abcdefghijklmnopqrstuvwxyz".toList

/-- The word between blanks, its letters small or capital. -/
def Spells (cs : List Char) (word : String) : Prop :=
  ∃ before letters after, cs = before ++ letters ++ after ∧
    (∀ c ∈ before, Text.isBlank c = true) ∧ (∀ c ∈ after, Text.isBlank c = true) ∧
      List.Forall₂ (fun c l => c = l ∨ c = l.toUpper) letters word.toList

/-- The pieces of a style, as they stand between semicolons: each is blank or spells the property
and the value of the next declaration around a colon. The declarations are by keywords. -/
inductive Writes : List (List Char) → List Declaration → Prop
  | nil : Writes [] []
  | blank {piece : List Char} {pieces : List (List Char)} {ds : List Declaration} :
      (∀ c ∈ piece, Text.isBlank c = true) → Writes pieces ds → Writes (piece :: pieces) ds
  | declaration {property value : List Char} {pieces : List (List Char)} {d : Declaration}
      {ds : List Declaration} :
      d ∈ keyworded → Spells property d.property → Spells value d.value → Writes pieces ds →
        Writes ((property ++ ':' :: value) :: pieces) (d :: ds)

theorem of_mem_smallLetters {l c : Char} (hl : l ∈ smallLetters) (hc : c = l ∨ c = l.toUpper) :
    Text.isBlank c = false ∧ c ≠ ':' ∧ c ≠ ';' ∧ c ≠ '!' ∧ c.toLower = l := by
  have hall : smallLetters.all (fun l => [l, l.toUpper].all (fun c =>
      decide (Text.isBlank c = false ∧ c ≠ ':' ∧ c ≠ ';' ∧ c ≠ '!' ∧ c.toLower = l))) = true := by
    decide +kernel
  have hcases : c ∈ [l, l.toUpper] := by simpa using hc
  exact of_decide_eq_true (List.all_eq_true.1 (List.all_eq_true.1 hall l hl) c hcases)

theorem of_mem_keyworded (hd : d ∈ keyworded) :
    (∀ l ∈ d.property.toList, l ∈ smallLetters) ∧ (∀ l ∈ d.value.toList, l ∈ smallLetters) ∧
      (d.hides = true ↔ d.Conceals) := by
  have hall : keyworded.all (fun d => d.property.toList.all (smallLetters.contains ·) &&
      d.value.toList.all (smallLetters.contains ·) &&
        decide (d.hides = true ↔ d.Conceals)) = true := by
    decide +kernel
  have hthis := List.all_eq_true.1 hall d hd
  simp only [Bool.and_eq_true, List.all_eq_true, List.contains_iff_mem, decide_eq_true_iff] at hthis
  exact ⟨hthis.1.1, hthis.1.2, hthis.2⟩

/-! ## Reading a spelling -/

theorem ne_of_isBlank {c : Char} (h : Text.isBlank c = true) : c ≠ ':' ∧ c ≠ ';' := by
  constructor
  · rintro rfl
    exact absurd h (by decide)
  · rintro rfl
    exact absurd h (by decide)

theorem map_toLower_letters {letters word : List Char}
    (h : List.Forall₂ (fun c l => c = l ∨ c = l.toUpper) letters word)
    (hword : ∀ l ∈ word, l ∈ smallLetters) :
    letters.map Char.toLower = word ∧
      ∀ c ∈ letters, Text.isBlank c = false ∧ c ≠ ':' ∧ c ≠ ';' ∧ c ≠ '!' := by
  induction h with
  | nil => exact ⟨rfl, fun c hc => absurd hc List.not_mem_nil⟩
  | @cons c l cs ls hcl _ ih =>
      obtain ⟨hmap, hcs⟩ := ih (fun l hl => hword l (List.mem_cons_of_mem _ hl))
      obtain ⟨hblank, hcolon, hsemicolon, hmark, hlower⟩ :=
        of_mem_smallLetters (hword l List.mem_cons_self) hcl
      refine ⟨by rw [List.map_cons, hlower, hmap], ?_⟩
      intro d hd
      rcases List.mem_cons.1 hd with rfl | hd
      · exact ⟨hblank, hcolon, hsemicolon, hmark⟩
      · exact hcs d hd

namespace Spells

variable {cs : List Char}

theorem padded (before letters after : List Char)
    (hblank : (before ++ after).all Text.isBlank = true)
    (hletters : List.Forall₂ (fun c l => c = l ∨ c = l.toUpper) letters word.toList) :
    Spells (before ++ letters ++ after) word := by
  have hall := List.all_eq_true.1 hblank
  exact ⟨before, letters, after, rfl, fun c hc => hall c (List.mem_append_left _ hc),
    fun c hc => hall c (List.mem_append_right _ hc), hletters⟩

/-- The word is left of its spelling when the blanks and the capitals are taken off. -/
theorem exists_letters (h : Spells cs word) (hword : ∀ l ∈ word.toList, l ∈ smallLetters) :
    ∃ letters, Text.trimList Text.isBlank cs = letters ∧
      Text.asciiLower (.ofList letters) = word ∧
        ∀ c ∈ letters, Text.isBlank c = false ∧ c ≠ ':' ∧ c ≠ ';' ∧ c ≠ '!' := by
  obtain ⟨before, letters, after, rfl, hbefore, hafter, hletters⟩ := h
  obtain ⟨hmap, hall⟩ := map_toLower_letters hletters hword
  refine ⟨letters, trimList_padded hbefore (fun c hc => (hall c hc).1) hafter, ?_, hall⟩
  apply String.toList_injective
  rw [Text.asciiLower, String.toList_map, String.toList_ofList, hmap]

theorem ne_of_mem (h : Spells cs word) (hword : ∀ l ∈ word.toList, l ∈ smallLetters) :
    ∀ c ∈ cs, c ≠ ':' ∧ c ≠ ';' := by
  obtain ⟨before, letters, after, rfl, hbefore, hafter, hletters⟩ := h
  intro c hc
  rcases List.mem_append.1 hc with hc | hc
  · rcases List.mem_append.1 hc with hc | hc
    · exact ne_of_isBlank (hbefore c hc)
    · obtain ⟨-, hcolon, hsemicolon, -⟩ := (map_toLower_letters hletters hword).2 c hc
      exact ⟨hcolon, hsemicolon⟩
  · exact ne_of_isBlank (hafter c hc)

end Spells

/-! ## Reading a style -/

theorem stripImportance_eq_self {cs : List Char} (h : '!' ∉ cs) : stripImportance cs = cs := by
  have hkept : ∀ times, stripRepeatedly importance.reverse times cs.reverse = cs.reverse := by
    intro times
    cases times with
    | zero => rfl
    | succ times =>
        rw [stripRepeatedly, if_neg]
        intro hbegins
        have hmark : '!' ∈ importance.reverse := by decide
        have hmem := (List.isPrefixOf_iff_prefix.1 hbegins).subset hmark
        exact h (List.mem_reverse.1 hmem)
  rw [stripImportance, hkept, List.reverse_reverse]

theorem ofPiece?_blank {piece : List Char} (h : ∀ c ∈ piece, Text.isBlank c = true) :
    ofPiece? piece = none := by
  have hall : ∀ c ∈ piece, decide (c ≠ ':') = true :=
    fun c hc => decide_eq_true (ne_of_isBlank (h c hc)).1
  rw [ofPiece?, List.dropWhile_eq_nil_iff.2 hall]

theorem ofPiece?_spelled {property value : List Char} (hd : d ∈ keyworded)
    (hproperty : Spells property d.property) (hvalue : Spells value d.value) :
    ofPiece? (property ++ ':' :: value) = some d := by
  obtain ⟨hpropertyWord, hvalueWord, -⟩ := of_mem_keyworded hd
  obtain ⟨propertyLetters, hpropertyTrim, hpropertyLower, -⟩ :=
    hproperty.exists_letters hpropertyWord
  obtain ⟨valueLetters, hvalueTrim, hvalueLower, hletters⟩ := hvalue.exists_letters hvalueWord
  have hbefore : ∀ c ∈ property, decide (c ≠ ':') = true :=
    fun c hc => decide_eq_true (hproperty.ne_of_mem hpropertyWord c hc).1
  have hdrop : (property ++ ':' :: value).dropWhile (· ≠ ':') = ':' :: value := by
    rw [List.dropWhile_append_of_pos hbefore, List.dropWhile_cons_of_neg (by simp)]
  have htake : (property ++ ':' :: value).takeWhile (· ≠ ':') = property := by
    rw [List.takeWhile_append_of_pos hbefore, List.takeWhile_cons_of_neg (by simp),
      List.append_nil]
  have himportance : stripImportance valueLetters = valueLetters :=
    stripImportance_eq_self (fun hmark => (hletters _ hmark).2.2.2 rfl)
  have htrim : Text.trimList Text.isBlank valueLetters = valueLetters :=
    trimList_eq_self (fun c hc => (hletters c hc).1)
  simp only [ofPiece?, hdrop, htake, hpropertyTrim, hpropertyLower, hvalueTrim, himportance, htrim,
    hvalueLower]

namespace Writes

variable {pieces : List (List Char)}

theorem mem_keyworded (h : Writes pieces ds) : ∀ d ∈ ds, d ∈ keyworded := by
  induction h with
  | nil => exact fun d hd => absurd hd List.not_mem_nil
  | blank _ _ ih => exact ih
  | declaration hd _ _ _ ih => exact List.forall_mem_cons.2 ⟨hd, ih⟩

theorem filterMap_ofPiece? (h : Writes pieces ds) : pieces.filterMap ofPiece? = ds := by
  induction h with
  | nil => rfl
  | blank hblank _ ih => rw [List.filterMap_cons, ofPiece?_blank hblank, ih]
  | declaration hd hproperty hvalue _ ih =>
      rw [List.filterMap_cons, ofPiece?_spelled hd hproperty hvalue, ih]

theorem notMem_semicolon (h : Writes pieces ds) : ∀ piece ∈ pieces, ';' ∉ piece := by
  induction h with
  | nil => exact fun piece hpiece => absurd hpiece List.not_mem_nil
  | blank hblank _ ih =>
      exact List.forall_mem_cons.2 ⟨fun hmem => (ne_of_isBlank (hblank _ hmem)).2 rfl, ih⟩
  | declaration hd hproperty hvalue _ ih =>
      obtain ⟨hpropertyWord, hvalueWord, -⟩ := of_mem_keyworded hd
      refine List.forall_mem_cons.2 ⟨?_, ih⟩
      intro hmem
      rcases List.mem_append.1 hmem with hmem | hmem
      · exact (hproperty.ne_of_mem hpropertyWord _ hmem).2 rfl
      · rcases List.mem_cons.1 hmem with heq | hmem
        · cases heq
        · exact (hvalue.ne_of_mem hvalueWord _ hmem).2 rfl

/-- The declarations are read back from a style that is written of them. -/
theorem ofStyle_eq (h : Writes pieces ds) {style : String}
    (hstyle : style.toList = [';'].intercalate pieces) : ofStyle style = ds := by
  rw [ofStyle, hstyle]
  by_cases hnil : pieces = []
  · subst hnil
    cases h
    rfl
  · rw [List.splitOn_intercalate ';' h.notMem_semicolon hnil, h.filterMap_ofPiece?]

end Writes

end Declaration

namespace Node

open Declaration

variable {n : Node} {style : String} {ds : List Declaration} {pieces : List (List Char)}

/-- An element with a style of declarations of `display` and `visibility` is taken for hidden just
when one of them hides it. This is what the cascade says just where the cascade hides the element as
well, or no declaration that hides is taken back by a later one. -/
theorem isShownByStyle_written (helement : n.isElement = true) (hhidden : n.attr? "hidden" = none)
    (hattr : n.attr? "style" = some style) (hstyle : style.toList = [';'].intercalate pieces)
    (hwrites : Writes pieces ds) :
    (n.isShownByStyle = false ↔ ∃ d ∈ ds, d.Conceals) ∧
      ((n.isShownByStyle = false ↔ HiddenByCascade ds) ↔ (TakesBack ds → HiddenByCascade ds)) := by
  have hhides : ∀ d ∈ ds, (d.hides = true ↔ d.Conceals) :=
    fun d hd => (of_mem_keyworded (hwrites.mem_keyworded d hd)).2.2
  have hshown : n.isShownByStyle = false ↔ ∃ d ∈ ds, d.Conceals := by
    simp only [isShownByStyle, helement, hhidden, hattr, hwrites.ofStyle_eq hstyle, Bool.not_true,
      Option.isSome_none, Bool.false_eq_true, if_false, Bool.not_eq_false', List.any_eq_true]
    exact exists_congr (fun d => and_congr_right (hhides d))
  refine ⟨hshown, ?_⟩
  rw [hshown, exists_conceals_iff, or_iff_left_iff_imp]

/-- An element whose style hides it twice and takes that back once. -/
def flickering : Node :=
  (Node.ofTag "div").setAttr "style" " display : NONE;Visibility:hidden;; DISPLAY:\tblock "

theorem isShownByStyle_written_flickering :
    flickering.isShownByStyle = false ∧
      (flickering.isShownByStyle = false ↔ HiddenByCascade
        [⟨"display", "none"⟩, ⟨"visibility", "hidden"⟩, ⟨"display", "block"⟩]) := by
  have hempty : ∀ c ∈ ([] : List Char), Text.isBlank c = true :=
    fun c hc => absurd hc List.not_mem_nil
  have hblock : Writes _ [⟨"display", "block"⟩] := .declaration (by decide)
    (.padded [' '] "DISPLAY".toList [] (by decide) (by decide))
    (.padded ['\t'] "block".toList [' '] (by decide) (by decide)) .nil
  have hhidden : Writes _ [⟨"visibility", "hidden"⟩, ⟨"display", "block"⟩] :=
    .declaration (by decide) (.padded [] "Visibility".toList [] (by decide) (by decide))
      (.padded [] "hidden".toList [] (by decide) (by decide)) (.blank hempty hblock)
  have hnone :
      Writes _ [⟨"display", "none"⟩, ⟨"visibility", "hidden"⟩, ⟨"display", "block"⟩] :=
    .declaration (by decide) (.padded [' '] "display".toList [' '] (by decide) (by decide))
      (.padded [' '] "NONE".toList [] (by decide) (by decide)) hhidden
  have hattr : flickering.attr? "style" =
      some " display : NONE;Visibility:hidden;; DISPLAY:\tblock " := by decide
  obtain ⟨hshown, hcascade⟩ :=
    isShownByStyle_written (by decide) (by decide) hattr (by decide) hnone
  exact ⟨hshown.2 ⟨_, List.mem_cons_self, by decide⟩, hcascade.2 (fun _ => by decide)⟩

/-- An element that one declaration hides and the next one shows. -/
def redisplayed : Node := (Node.ofTag "div").setAttr "style" "display: none; display: block"

/-- The element is taken for hidden although the last declaration of its style shows it. -/
theorem redisplayed_hidden :
    redisplayed.isElement = true ∧ redisplayed.attr? "hidden" = none ∧
      (∃ style pieces, redisplayed.attr? "style" = some style ∧
        style.toList = [';'].intercalate pieces ∧
          Writes pieces [⟨"display", "none"⟩, ⟨"display", "block"⟩]) ∧
      ¬ HiddenByCascade [⟨"display", "none"⟩, ⟨"display", "block"⟩] ∧
        redisplayed.isShownByStyle = false := by
  have hblock : Writes _ [⟨"display", "block"⟩] := .declaration (by decide)
    (.padded [' '] "display".toList [] (by decide) (by decide))
    (.padded [' '] "block".toList [] (by decide) (by decide)) .nil
  have hnone : Writes _ [⟨"display", "none"⟩, ⟨"display", "block"⟩] := .declaration (by decide)
    (.padded [] "display".toList [] (by decide) (by decide))
    (.padded [' '] "none".toList [] (by decide) (by decide)) hblock
  exact ⟨by decide, by decide,
    ⟨"display: none; display: block", _, by decide, by decide, hnone⟩,
    by decide, by decide +kernel⟩

end Node

end PhraseMark
