import PhraseMark.Json.Reader

/-!
# Spellings of values

Texts that are read as a given value: strings of plain characters, objects member by member, arrays
of one item, and the number one.
-/

namespace PhraseMark.Json.Reader

variable {depth fuel : Nat} {j v : Json} {name : String} {members : List (String × Json)}
  {c : Char} {cs more rest : List Char}

theorem skipGap_cons (h : isGap c = false) (cs : List Char) : skipGap (c :: cs) = c :: cs := by
  rw [skipGap, List.dropWhile_cons, if_neg (by rw [h]; decide)]

/-- A character that stands for itself in a string. -/
def IsPlain (c : Char) : Prop := c ≠ '"' ∧ c ≠ '\\' ∧ 0x20 ≤ c.toNat

instance : DecidablePred IsPlain := fun _ => inferInstanceAs (Decidable (_ ∧ _))

theorem readString_plain {word read : List Char} (h : ∀ c ∈ word, IsPlain c) :
    readString read (word ++ '"' :: cs) = some (.ofList (read.reverse ++ word), cs) := by
  induction word generalizing read with
  | nil => rw [List.nil_append, readString, List.append_nil]
  | cons c word ih =>
      obtain ⟨hquote, hescape, hcontrol⟩ := h c List.mem_cons_self
      rw [List.cons_append, readString.eq_5 _ _ _ hquote (by simp [hescape]) (by simp [hescape]),
        if_neg (Nat.not_lt.2 hcontrol), ih (fun d hd => h d (List.mem_cons_of_mem c hd)),
        List.reverse_cons, List.append_assoc, List.singleton_append]

/-- A string in quotes, of which each character stands for itself, before some other text. -/
def quoted (word : String) (cs : List Char) : List Char := '"' :: (word.toList ++ '"' :: cs)

/-! ## Objects -/

theorem readMembers_cons (hname : ∀ c ∈ name.toList, IsPlain c)
    (hvalue : readValue fuel depth .whole cs = some (v, ',' :: more))
    (hmore : readMembers fuel depth .whole more = some (members, rest)) :
    readMembers (fuel + 1) depth .whole (quoted name (':' :: cs)) =
      some ((name, v) :: members, rest) := by
  have hcolon := skipGap_cons (c := ':') (by decide) cs
  have hcomma := skipGap_cons (c := ',') (by decide) more
  rw [readMembers, quoted, skipGap_cons (by decide)]
  simp only [readString_plain hname, Option.bind_eq_bind, Option.bind_some, hcolon,
    Shape.member?, hvalue, hcomma, hmore, Option.map_some, List.reverse_nil, List.nil_append,
    String.ofList_toList, List.singleton_append]

theorem readMembers_last (hname : ∀ c ∈ name.toList, IsPlain c)
    (hvalue : readValue fuel depth .whole cs = some (v, '}' :: rest)) :
    readMembers (fuel + 1) depth .whole (quoted name (':' :: cs)) = some ([(name, v)], rest) := by
  have hcolon := skipGap_cons (c := ':') (by decide) cs
  have hbracket := skipGap_cons (c := '}') (by decide) rest
  rw [readMembers, quoted, skipGap_cons (by decide)]
  simp only [readString_plain hname, Option.bind_eq_bind, Option.bind_some, hcolon,
    Shape.member?, hvalue, hbracket, Option.map_some, List.reverse_nil, List.nil_append,
    String.ofList_toList]

theorem readValue_object
    (h : readMembers fuel depth .whole (quoted name cs) = some (members, rest)) :
    readValue (fuel + 1) (depth + 1) .whole ('{' :: quoted name cs) =
      some (.object members, rest) := by
  rw [quoted] at h
  rw [readValue, skipGap_cons (by decide)]
  simp only [quoted, skipGap_cons (c := '"') (by decide)]
  change (readMembers fuel depth .whole ('"' :: _)).map _ = _
  rw [h, Option.map_some]

/-! ## Arrays and numbers -/

theorem readValue_single (hgap : isGap c = false) (hne : c ≠ ']')
    (h : readValue fuel depth .whole (c :: cs) = some (j, ']' :: rest)) :
    readValue (fuel + 2) (depth + 1) .whole ('[' :: c :: cs) = some (.array [j], rest) := by
  have hitems : readItems (fuel + 1) depth none (c :: cs) = some ([j], rest) := by
    have hbracket := skipGap_cons (c := ']') (by decide) rest
    simp only [readItems, itemShape?, Option.bind_eq_bind, Option.bind_some, h, hbracket]
  rw [readValue, skipGap_cons (by decide)]
  simp only [skipGap_cons hgap, Shape.items]
  split
  · rename_i heq
    exact absurd (List.cons.inj heq).1 hne
  · rw [hitems, Option.map_some]

theorem readValue_one (hc : c ∈ [',', ']', '}']) :
    readValue (fuel + 1) depth .whole ('1' :: c :: cs) = some (.natural 1, c :: cs) := by
  have hread : Numeral.read? ('1' :: c :: cs) = some (⟨false, [1], none, none⟩, c :: cs) := by
    simp only [List.mem_cons, List.not_mem_nil, or_false] at hc
    rcases hc with rfl | rfl | rfl <;> rfl
  have hvalue : (⟨false, [1], none, none⟩ : Numeral).value = .natural 1 := rfl
  rw [readValue, skipGap_cons (by decide)]
  change (Numeral.read? ('1' :: c :: cs)).bind _ = _
  rw [hread, Option.bind_some]
  simp only [hvalue]
  rfl

end PhraseMark.Json.Reader
