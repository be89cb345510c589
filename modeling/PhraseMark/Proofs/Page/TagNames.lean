import PhraseMark.Page.Node
import PhraseMark.Text.Case

/-!
# Tag names

Names of elements that are made of capital letters, digits and hyphens. In small letters they can
still be told apart, and they hold none of the characters that end a name in markup or in a locator.
-/

namespace PhraseMark

/-- The characters of tag names. -/
def tagChars : List Char := "ABCDEFGHIJKLMNOPQRSTUVWXYZ0123456789-".toList

/-- A name that is not empty and is made of capital letters, digits and hyphens. -/
def IsTagName (name : String) : Prop := name ≠ "" ∧ ∀ c ∈ name.toList, c ∈ tagChars

-- the characters of the name are gone through, not all there are
instance (name : String) : Decidable (IsTagName name) :=
  @instDecidableAnd _ _ inferInstance (List.decidableBAll (· ∈ tagChars) name.toList)

/-- What does not occur in the small form of a tag name. -/
def tagEnds : List Char := ['/', '[', ' ', '>', '<']

theorem toLower_of_mem {c : Char} (hc : c ∈ tagChars) :
    c.toLower ∉ tagEnds ∧ c.toLower.toLower = c.toLower ∧ c.toLower.toUpper = c := by
  have hall : tagChars.all (fun c => decide (c.toLower ∉ tagEnds ∧
      c.toLower.toLower = c.toLower ∧ c.toLower.toUpper = c)) = true := by
    decide +kernel
  exact of_decide_eq_true (List.all_eq_true.1 hall c hc)

theorem lowerChar_of_mem {c : Char} (hc : c ∈ tagChars) :
    c ≠ 'Σ' ∧ c ≠ 'İ' ∧ Text.lowerChar c = c.toLower := by
  have hall : tagChars.all (fun c => decide (c ≠ 'Σ' ∧ c ≠ 'İ' ∧
      Text.lowerChar c = c.toLower)) = true := by
    decide +kernel
  exact of_decide_eq_true (List.all_eq_true.1 hall c hc)

namespace IsTagName

variable {name other : String}

theorem toList_asciiLower (s : String) :
    (Text.asciiLower s).toList = s.toList.map Char.toLower := by
  rw [Text.asciiLower, String.toList_map]

theorem notMem_ends (h : IsTagName name) {c : Char} (hc : c ∈ (Text.asciiLower name).toList) :
    c ∉ tagEnds := by
  rw [toList_asciiLower] at hc
  obtain ⟨d, hd, rfl⟩ := List.mem_map.1 hc
  exact (toLower_of_mem (h.2 d hd)).1

theorem toList_ne_nil (h : IsTagName name) : (Text.asciiLower name).toList ≠ [] := by
  rw [toList_asciiLower]
  intro hnil
  exact h.1 (String.toList_injective (List.map_eq_nil_iff.1 hnil))

theorem asciiLower_asciiLower (h : IsTagName name) :
    Text.asciiLower (Text.asciiLower name) = Text.asciiLower name := by
  apply String.toList_injective
  rw [toList_asciiLower, toList_asciiLower, List.map_map]
  exact List.map_congr_left (fun c hc => (toLower_of_mem (h.2 c hc)).2.1)

theorem asciiUpper_asciiLower (h : IsTagName name) :
    Text.asciiUpper (Text.asciiLower name) = name := by
  apply String.toList_injective
  rw [Text.asciiUpper, String.toList_map, toList_asciiLower, List.map_map]
  have hback : ∀ c ∈ name.toList, (Char.toUpper ∘ Char.toLower) c = id c :=
    fun c hc => (toLower_of_mem (h.2 c hc)).2.2
  rw [List.map_congr_left hback, List.map_id]

theorem asciiLower_inj (h : IsTagName name) (h' : IsTagName other) :
    Text.asciiLower name = Text.asciiLower other ↔ name = other := by
  refine ⟨fun heq => ?_, congrArg Text.asciiLower⟩
  rw [← h.asciiUpper_asciiLower, heq, h'.asciiUpper_asciiLower]

theorem lowercase_eq (h : IsTagName name) : Text.lowercase name = Text.asciiLower name := by
  have hfrom : ∀ cs : List Char, (∀ c ∈ cs, c ∈ tagChars) → ∀ before,
      Text.lowerFrom before cs = cs.map Char.toLower := by
    intro cs hcs
    induction cs with
    | nil => intro before; rfl
    | cons c cs ih =>
        intro before
        obtain ⟨hsigma, hdotted, hlower⟩ := lowerChar_of_mem (hcs c List.mem_cons_self)
        rw [Text.lowerFrom, ih (fun d hd => hcs d (List.mem_cons_of_mem c hd)), Text.lowerBetween,
          if_neg hsigma, if_neg hdotted, hlower, List.singleton_append, List.map_cons]
  apply String.toList_injective
  rw [Text.lowercase, String.toList_ofList, toList_asciiLower, hfrom name.toList h.2]

end IsTagName

end PhraseMark
