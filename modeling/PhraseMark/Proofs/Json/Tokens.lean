import PhraseMark.Json.Writer
import PhraseMark.Proofs.Json.Spellings

/-!
# Strings and numbers read back

A string is read back from its written form whatever characters it holds, and so is a number from
its decimal digits.
-/

namespace PhraseMark.Json

/-! ## Strings -/

theorem toList_quote (s : String) :
    (quote s).toList = '"' :: (s.toList.flatMap escapeChar ++ ['"']) := by
  simp [quote]

namespace Reader

variable {c : Char} {cs rest read : List Char}

theorem readString_simpleEscape {d : Char} (h : simpleEscape? c = some d) :
    readString read ('\\' :: c :: cs) = readString (d :: read) cs := by
  rw [readString.eq_4, h]
  rintro _ _ _ _ _ rfl -
  cases h

/-- The four digits that stand for a control character. -/
theorem hexQuad?_control (h : c.toNat < 0x20) :
    hexQuad? '0' '0' (Text.lowerHexDigit (c.toNat / 16)) (Text.lowerHexDigit (c.toNat % 16)) =
      some c.toNat := by
  have hall : ∀ n < 0x20, hexQuad? '0' '0' (Text.lowerHexDigit (n / 16))
      (Text.lowerHexDigit (n % 16)) = some n := by decide
  exact hall c.toNat h

/-- The written forms of characters: short escapes, control characters by their numbers, and the
characters that stand for themselves. -/
theorem escapeChar_cases (c : Char) :
    (∃ d, simpleEscape? d = some c ∧ escapeChar c = ['\\', d]) ∨
      (c.toNat < 0x20 ∧ escapeChar c = ['\\', 'u', '0', '0', Text.lowerHexDigit (c.toNat / 16),
        Text.lowerHexDigit (c.toNat % 16)]) ∨
      (IsPlain c ∧ escapeChar c = [c]) := by
  unfold escapeChar
  split
  · exact .inl ⟨'"', by subst_vars; rfl, rfl⟩
  split
  · exact .inl ⟨'\\', by subst_vars; rfl, rfl⟩
  split
  · exact .inl ⟨'b', by subst_vars; rfl, rfl⟩
  split
  · exact .inl ⟨'f', by subst_vars; rfl, rfl⟩
  split
  · exact .inl ⟨'n', by subst_vars; rfl, rfl⟩
  split
  · exact .inl ⟨'r', by subst_vars; rfl, rfl⟩
  split
  · exact .inl ⟨'t', by subst_vars; rfl, rfl⟩
  split
  · rename_i hcontrol
    exact .inr (.inl ⟨hcontrol, rfl⟩)
  · rename_i hquote hescape _ _ _ _ _ hcontrol
    exact .inr (.inr ⟨⟨hquote, hescape, Nat.not_lt.1 hcontrol⟩, rfl⟩)

theorem readString_escapeChar (c : Char) (read cs : List Char) :
    readString read (escapeChar c ++ cs) = readString (c :: read) cs := by
  rcases escapeChar_cases c with ⟨d, hd, hc⟩ | ⟨hcontrol, hc⟩ | ⟨⟨hquote, hescape, hplain⟩, hc⟩
  · rw [hc]
    exact readString_simpleEscape hd
  · have hrange : c.toNat < 0xD800 ∨ 0xE000 ≤ c.toNat := .inl (by omega)
    simp only [hc, List.cons_append, List.nil_append]
    rw [readString.eq_3, hexQuad?_control hcontrol]
    simp only [if_pos hrange, Char.ofNat_toNat]
  · rw [hc, List.singleton_append, readString.eq_5 _ _ _ hquote (by simp [hescape])
      (by simp [hescape]), if_neg (Nat.not_lt.2 hplain)]

theorem readString_written (word read rest : List Char) :
    readString read (word.flatMap escapeChar ++ '"' :: rest) =
      some (.ofList (read.reverse ++ word), rest) := by
  induction word generalizing read with
  | nil => rw [List.flatMap_nil, List.nil_append, readString, List.append_nil]
  | cons c word ih =>
      rw [List.flatMap_cons, List.append_assoc, readString_escapeChar, ih, List.reverse_cons,
        List.append_assoc, List.singleton_append]

end Reader

/-! ## Numbers -/

/-- What follows a value: nothing, or a sign that no number goes on with. -/
def EndsValue (rest : List Char) : Prop := ∀ c ∈ rest.head?, c ∈ [',', ']', '}']

theorem EndsValue.nil : EndsValue [] := fun _ hc => nomatch hc

theorem EndsValue.cons {c : Char} (h : c ∈ [',', ']', '}']) (rest : List Char) :
    EndsValue (c :: rest) := fun _ hd => Option.some.inj hd ▸ h

theorem EndsValue.cases {rest : List Char} (h : EndsValue rest) :
    rest = [] ∨ ∃ more, rest = ',' :: more ∨ rest = ']' :: more ∨ rest = '}' :: more := by
  cases rest with
  | nil => exact .inl rfl
  | cons c more => exact .inr ⟨more, by simpa using h c rfl⟩

namespace Numeral

variable {ds rest : List Char} {n : Nat}

/-- The value of a decimal digit. -/
def digitValue (c : Char) : Nat := c.toNat - '0'.toNat

/-- The values of the decimal digits of a number. -/
def digitsOf (n : Nat) : List Nat := (Nat.toDigits 10 n).map digitValue

theorem digit?_eq_some {c : Char} (h : c.isDigit = true) :
    Text.digit? c = some (digitValue c) := by
  have hrange : '0' ≤ c ∧ c ≤ '9' := by simpa [Char.isDigit, Char.le_def] using h
  rw [Text.digit?, if_pos hrange, digitValue]

theorem spanDigits_append (hds : ∀ c ∈ ds, c.isDigit = true) (hrest : EndsValue rest) :
    spanDigits (ds ++ rest) = (ds.map digitValue, rest) := by
  induction ds with
  | nil => rcases hrest.cases with rfl | ⟨more, rfl | rfl | rfl⟩ <;> rfl
  | cons d ds ih =>
      rw [List.cons_append, spanDigits, digit?_eq_some (hds d List.mem_cons_self)]
      simp only [ih (fun c hc => hds c (List.mem_cons_of_mem d hc)), List.map_cons]

theorem natOfDigits_digitsOf (n : Nat) : natOfDigits (digitsOf n) = n := by
  rw [natOfDigits, digitsOf, List.foldl_map]
  refine Eq.trans ?_ (Nat.ofDigitChars_ten_toDigits (n := n))
  simp only [Nat.ofDigitChars, digitValue, Nat.mul_comm 10]

theorem digitsOf_ne_nil (n : Nat) : digitsOf n ≠ [] :=
  fun h => Nat.toDigits_ne_nil (List.map_eq_nil_iff.1 h)

/-- No zero stands in front of other digits. -/
theorem digitsOf_ne (n d : Nat) (ds : List Nat) : digitsOf n ≠ 0 :: d :: ds := by
  induction n using Nat.strongRecOn generalizing d ds with
  | ind n ih =>
      rcases Nat.lt_or_ge n 10 with hn | hn
      · rw [digitsOf, Nat.toDigits_of_lt_base hn]
        simp
      · have hsplit : digitsOf n = digitsOf (n / 10) ++ [digitValue (n % 10).digitChar] := by
          rw [digitsOf, Nat.toDigits_of_base_le (by decide) hn, List.map_append]
          rfl
        rw [hsplit]
        rcases hhigh : digitsOf (n / 10) with _ | ⟨x, _ | ⟨y, ys⟩⟩
        · simp
        · -- the one digit in front is the number of tens, which is not zero
          have hx : n / 10 = x := by
            rw [← natOfDigits_digitsOf (n / 10), hhigh]
            simp [natOfDigits]
          intro heq
          injection heq with hzero
          omega
        · intro heq
          injection heq with hzero
          exact ih (n / 10) (by omega) y ys (hzero ▸ hhigh)

theorem fraction?_of_endsValue (h : EndsValue rest) : fraction? rest = some (none, rest) := by
  rcases h.cases with rfl | ⟨more, rfl | rfl | rfl⟩ <;> rfl

theorem exponent?_of_endsValue (h : EndsValue rest) : exponent? rest = some (none, rest) := by
  rcases h.cases with rfl | ⟨more, rfl | rfl | rfl⟩ <;> rfl

theorem spanDigits_repr (n : Nat) (hrest : EndsValue rest) :
    spanDigits (n.repr.toList ++ rest) = (digitsOf n, rest) := by
  rw [Nat.toList_repr, digitsOf]
  exact spanDigits_append (fun c => Nat.isDigit_of_mem_toDigits (by decide) (Nat.le_refl 10)) hrest

/-- A minus sign, if there is one, and the digits of a number. -/
def signed (negative : Bool) (n : Nat) : List Char :=
  if negative then '-' :: n.repr.toList else n.repr.toList

theorem exists_repr_eq_cons (n : Nat) : ∃ c cs, n.repr.toList = c :: cs ∧ c.isDigit = true := by
  rw [Nat.toList_repr]
  cases h : Nat.toDigits 10 n with
  | nil => exact absurd h Nat.toDigits_ne_nil
  | cons c cs =>
      exact ⟨c, cs, rfl, Nat.isDigit_of_mem_toDigits (by decide) (Nat.le_refl 10)
        (h ▸ List.mem_cons_self)⟩

theorem sign_signed (negative : Bool) (n : Nat) (rest : List Char) :
    sign (signed negative n ++ rest) = (negative, n.repr.toList ++ rest) := by
  cases negative with
  | true => rfl
  | false =>
      obtain ⟨c, cs, hcs, hdigit⟩ := exists_repr_eq_cons n
      rw [signed, if_neg (by decide), hcs, List.cons_append]
      unfold sign
      split
      · rename_i heq
        injection heq with heq
        subst heq
        exact absurd hdigit (by decide)
      · rfl

theorem read?_signed (negative : Bool) (n : Nat) (hrest : EndsValue rest) :
    read? (signed negative n ++ rest) = some (⟨negative, digitsOf n, none, none⟩, rest) := by
  simp only [read?, sign_signed, spanDigits_repr n hrest]
  split
  · rename_i heq
    exact absurd (congrArg Prod.fst heq) (digitsOf_ne_nil n)
  · rename_i heq
    exact absurd (congrArg Prod.fst heq) (digitsOf_ne n _ _)
  · rename_i heq
    cases heq
    simp only [fraction?_of_endsValue hrest, exponent?_of_endsValue hrest, Option.bind_eq_bind,
      Option.bind_some]

theorem value_natural (h : n < Nat.pow 2 64) :
    (⟨false, digitsOf n, none, none⟩ : Numeral).value = .natural n := by
  simp only [value, natOfDigits_digitsOf, isWhole]
  simp [h]

theorem value_negative (hpos : 0 < n) (h : n ≤ Nat.pow 2 63) :
    (⟨true, digitsOf n, none, none⟩ : Numeral).value = .negative n := by
  have hrange : ¬ (n = 0 ∨ Nat.pow 2 63 < n) := by omega
  simp only [value, natOfDigits_digitsOf, isWhole]
  simp [hrange]

/-- The text that stands for every number without a kept value. -/
theorem read?_fraction (hrest : EndsValue rest) :
    read? ('0' :: '.' :: '0' :: rest) = some (⟨false, [0], some [0], none⟩, rest) := by
  rcases hrest.cases with rfl | ⟨more, rfl | rfl | rfl⟩ <;> rfl

end Numeral

end PhraseMark.Json
