import PhraseMark.Proofs.Json.Tokens

/-!
# Values read back

A value comes back from its compact text when the reader looks at all of it: its numbers are in
range, its brackets are nested no deeper than the reader allows, and no member of an object falls
out of the shape.
-/

namespace PhraseMark.Json

open Reader

variable {depth fuel n : Nat} {shape : Shape} {j k : Json} {name : String} {c : Char}
  {items : List Json} {members : List (String × Json)} {cs rest : List Char}

/-- Values of which a reader with `depth` brackets to open loses nothing. -/
inductive Kept : Nat → Shape → Json → Prop
  | null {depth : Nat} {shape : Shape} : Kept depth shape null
  | bool {depth : Nat} {shape : Shape} (b : Bool) : Kept depth shape (bool b)
  | natural {depth n : Nat} {shape : Shape} (h : n < Nat.pow 2 64) : Kept depth shape (natural n)
  | negative {depth n : Nat} {shape : Shape} (hpos : 0 < n) (h : n ≤ Nat.pow 2 63) :
      Kept depth shape (negative n)
  | fraction {depth : Nat} {shape : Shape} : Kept depth shape fraction
  | string {depth : Nat} {shape : Shape} (s : String) : Kept depth shape (string s)
  | array {depth : Nat} {items : List Json} (h : ∀ j ∈ items, Kept depth .whole j) :
      Kept (depth + 1) .whole (array items)
  | object {depth : Nat} {shape : Shape} {members : List (String × Json)}
      (inner : String × Json → Shape)
      (hshape : ∀ m ∈ members, Shape.member? m.1 shape = some (inner m))
      (h : ∀ m ∈ members, Kept depth (inner m) m.2) : Kept (depth + 1) shape (object members)

/-! ## Written forms -/

theorem toList_write_array (items : List Json) :
    (write (.array items)).toList = '[' :: ((writeItems items).toList ++ [']']) := by
  simp [write]

theorem toList_write_object (members : List (String × Json)) :
    (write (.object members)).toList = '{' :: ((writeMembers members).toList ++ ['}']) := by
  simp [write]

theorem toList_writeItems_cons (j k : Json) (items : List Json) :
    (writeItems (j :: k :: items)).toList =
      (write j).toList ++ ',' :: (writeItems (k :: items)).toList := by
  simp [writeItems]

theorem toList_writeMembers_single (m : String × Json) :
    (writeMembers [m]).toList =
      '"' :: (m.1.toList.flatMap escapeChar ++ '"' :: ':' :: (write m.2).toList) := by
  simp [writeMembers, toList_quote]

theorem toList_writeMembers_cons (m k : String × Json) (members : List (String × Json)) :
    (writeMembers (m :: k :: members)).toList =
      '"' :: (m.1.toList.flatMap escapeChar ++
        '"' :: ':' :: ((write m.2).toList ++ ',' :: (writeMembers (k :: members)).toList)) := by
  simp [writeMembers, toList_quote]

theorem toList_write_natural (n : Nat) :
    (write (.natural n)).toList = Numeral.signed false n := by
  simp [write, scalar, Numeral.signed]

theorem toList_write_negative (n : Nat) :
    (write (.negative n)).toList = Numeral.signed true n := by
  simp [write, scalar, Numeral.signed]

theorem toList_write_string (s : String) :
    (write (.string s)).toList = '"' :: (s.toList.flatMap escapeChar ++ ['"']) := by
  simp [write, scalar, toList_quote]

/-- A sign that a number begins with. -/
def BeginsNumber (c : Char) : Prop := c = '-' ∨ c.isDigit = true

theorem BeginsNumber.ne (h : BeginsNumber c) {d : Char} (hd : d ≠ '-')
    (hdigit : d.isDigit = false) : c ≠ d := by
  rintro rfl
  rcases h with h | h
  · exact hd h
  · rw [hdigit] at h
    cases h

theorem BeginsNumber.isGap (h : BeginsNumber c) : isGap c = false := by
  have hspace := h.ne (d := ' ') (by decide) (by decide)
  have htab := h.ne (d := '\t') (by decide) (by decide)
  have hline := h.ne (d := '\n') (by decide) (by decide)
  have hreturn := h.ne (d := '\r') (by decide) (by decide)
  simp [Reader.isGap, hspace, htab, hline, hreturn]

theorem exists_signed (negative : Bool) (n : Nat) :
    ∃ c cs, Numeral.signed negative n = c :: cs ∧ BeginsNumber c := by
  cases negative with
  | true => exact ⟨'-', _, rfl, .inl rfl⟩
  | false =>
      obtain ⟨c, cs, hcs, hc⟩ := Numeral.exists_repr_eq_cons n
      exact ⟨c, cs, hcs, .inr hc⟩

/-- A value begins with a sign that is no gap and closes no array. -/
theorem write_begins (j : Json) :
    ∃ c cs, (write j).toList = c :: cs ∧ isGap c = false ∧ c ≠ ']' := by
  have hnumber : ∀ negative n, ∃ c cs, Numeral.signed negative n = c :: cs ∧ isGap c = false ∧
      c ≠ ']' := by
    intro negative n
    obtain ⟨c, cs, hcs, hc⟩ := exists_signed negative n
    exact ⟨c, cs, hcs, hc.isGap, hc.ne (by decide) (by decide)⟩
  cases j with
  | null => exact ⟨'n', _, rfl, by decide, by decide⟩
  | bool b =>
      cases b with
      | true => exact ⟨'t', _, rfl, by decide, by decide⟩
      | false => exact ⟨'f', _, rfl, by decide, by decide⟩
  | natural n => exact toList_write_natural n ▸ hnumber false n
  | negative n => exact toList_write_negative n ▸ hnumber true n
  | fraction => exact ⟨'0', _, rfl, by decide, by decide⟩
  | string s => exact ⟨'"', _, toList_write_string s, by decide, by decide⟩
  | array items => exact ⟨'[', _, toList_write_array items, by decide, by decide⟩
  | object members => exact ⟨'{', _, toList_write_object members, by decide, by decide⟩

theorem writeItems_begins (j : Json) (items : List Json) :
    ∃ c cs, (writeItems (j :: items)).toList = c :: cs ∧ isGap c = false ∧ c ≠ ']' := by
  obtain ⟨c, cs, hcs, hgap, hne⟩ := write_begins j
  cases items with
  | nil => exact ⟨c, cs, by rw [writeItems, hcs], hgap, hne⟩
  | cons k items =>
      exact ⟨c, _, by rw [toList_writeItems_cons, hcs, List.cons_append], hgap, hne⟩

theorem writeMembers_begins (m : String × Json) (members : List (String × Json)) :
    ∃ cs, (writeMembers (m :: members)).toList = '"' :: cs := by
  cases members with
  | nil => exact ⟨_, toList_writeMembers_single m⟩
  | cons k members => exact ⟨_, toList_writeMembers_cons m k members⟩

namespace Reader

/-- The value comes back from its text, whatever follows it. The fuel counts two for each character,
one for the value and one for its place among items or members. -/
def Restored (depth : Nat) (shape : Shape) (j : Json) : Prop :=
  ∀ fuel rest, 2 * (write j).toList.length ≤ fuel → EndsValue rest →
    readValue fuel depth shape ((write j).toList ++ rest) = some (j, rest)

theorem Restored.of_succ (hpos : 0 < (write j).toList.length)
    (h : ∀ fuel rest, 2 * (write j).toList.length ≤ fuel + 1 → EndsValue rest →
      readValue (fuel + 1) depth shape ((write j).toList ++ rest) = some (j, rest)) :
    Restored depth shape j := by
  intro fuel rest hfuel hrest
  obtain ⟨fuel, rfl⟩ : ∃ f, fuel = f + 1 := ⟨fuel - 1, by omega⟩
  exact h fuel rest hfuel hrest

/-! ## Scalars -/

theorem restored_null : Restored depth shape .null := by
  refine .of_succ (by decide) fun fuel rest _ _ => ?_
  change readValue (fuel + 1) depth shape ('n' :: 'u' :: 'l' :: 'l' :: rest) = _
  rw [readValue, skipGap_cons (by decide)]
  rfl

theorem restored_bool (b : Bool) : Restored depth shape (.bool b) := by
  cases b with
  | true =>
      refine .of_succ (by decide) fun fuel rest _ _ => ?_
      change readValue (fuel + 1) depth shape ('t' :: 'r' :: 'u' :: 'e' :: rest) = _
      rw [readValue, skipGap_cons (by decide)]
      rfl
  | false =>
      refine .of_succ (by decide) fun fuel rest _ _ => ?_
      change readValue (fuel + 1) depth shape ('f' :: 'a' :: 'l' :: 's' :: 'e' :: rest) = _
      rw [readValue, skipGap_cons (by decide)]
      rfl

theorem restored_string (s : String) : Restored depth shape (.string s) := by
  refine .of_succ (by simp [toList_write_string]) fun fuel rest _ _ => ?_
  rw [toList_write_string, List.cons_append, List.append_assoc, List.singleton_append, readValue,
    skipGap_cons (by decide)]
  change (readString [] _).map _ = _
  rw [readString_written, List.reverse_nil, List.nil_append, String.ofList_toList, Option.map_some]

theorem restored_number {m : Numeral} (hwrite : (write j).toList = c :: cs) (hc : BeginsNumber c)
    (hread : ∀ rest, EndsValue rest → Numeral.read? ((write j).toList ++ rest) = some (m, rest))
    (hvalue : (m.isWhole = true ∧ m.value = j ∧ j.isFraction = false) ∨
      (m.isWhole = false ∧ m.inRange = true ∧ j = .fraction)) : Restored depth shape j := by
  refine .of_succ (by simp [hwrite]) fun fuel rest _ hrest => ?_
  have hnumeral := hread rest hrest
  rw [hwrite, List.cons_append] at hnumeral ⊢
  rw [readValue, skipGap_cons hc.isGap]
  split
  case h_7 =>
    rw [hnumeral]
    rcases hvalue with ⟨hwhole, rfl, hkept⟩ | ⟨hwhole, hrange, rfl⟩
    · simp [hwhole, hkept]
    · simp [hwhole, hrange]
  all_goals
    rename_i heq
    exact absurd (List.cons.inj heq).1 (hc.ne (by decide) (by decide))

theorem restored_signed {negative : Bool} (hwrite : (write j).toList = Numeral.signed negative n)
    (hvalue : (⟨negative, Numeral.digitsOf n, none, none⟩ : Numeral).value = j)
    (hkept : j.isFraction = false) : Restored depth shape j := by
  obtain ⟨c, cs, hcs, hc⟩ := exists_signed negative n
  refine restored_number (hwrite.trans hcs) hc (fun rest hrest => ?_) (.inl ⟨rfl, hvalue, hkept⟩)
  rw [hwrite]
  exact Numeral.read?_signed negative n hrest

theorem restored_natural (h : n < Nat.pow 2 64) : Restored depth shape (.natural n) :=
  restored_signed (toList_write_natural n) (Numeral.value_natural h) rfl

theorem restored_negative (hpos : 0 < n) (h : n ≤ Nat.pow 2 63) :
    Restored depth shape (.negative n) :=
  restored_signed (toList_write_negative n) (Numeral.value_negative hpos h) rfl

theorem restored_fraction : Restored depth shape .fraction :=
  restored_number rfl (.inr rfl) (fun _ => Numeral.read?_fraction) (.inr ⟨rfl, by decide, rfl⟩)

/-! ## Items and members -/

theorem readItems_written (h : ∀ i ∈ j :: items, Restored depth .whole i)
    (hfuel : 2 * (writeItems (j :: items)).toList.length + 1 ≤ fuel) :
    readItems fuel depth none ((writeItems (j :: items)).toList ++ ']' :: rest) =
      some (j :: items, rest) := by
  induction items generalizing j fuel with
  | nil =>
      obtain ⟨fuel, rfl⟩ : ∃ f, fuel = f + 1 := ⟨fuel - 1, by omega⟩
      have hj := h j List.mem_cons_self fuel (']' :: rest) (by rw [writeItems] at hfuel; omega)
        (.cons (by decide) rest)
      have hbracket := skipGap_cons (c := ']') (by decide) rest
      simp only [readItems, itemShape?, Option.bind_eq_bind, Option.bind_some, writeItems, hj,
        hbracket]
  | cons k items ih =>
      obtain ⟨fuel, rfl⟩ : ∃ f, fuel = f + 1 := ⟨fuel - 1, by omega⟩
      rw [toList_writeItems_cons] at hfuel ⊢
      rw [List.length_append, List.length_cons] at hfuel
      rw [List.append_assoc, List.cons_append]
      have hj := h j List.mem_cons_self fuel
        (',' :: ((writeItems (k :: items)).toList ++ ']' :: rest)) (by omega)
        (.cons (by decide) _)
      have hmore : readItems fuel depth none ((writeItems (k :: items)).toList ++ ']' :: rest) =
          some (k :: items, rest) := ih (fun i hi => h i (List.mem_cons_of_mem j hi)) (by omega)
      have hcomma := skipGap_cons (c := ',') (by decide)
        ((writeItems (k :: items)).toList ++ ']' :: rest)
      simp only [readItems, itemShape?, Option.bind_eq_bind, Option.bind_some, hj, hcomma, hmore,
        Option.map_some]

/-- A member whose name is written with escapes is read up to what follows its value. -/
theorem readMembers_member {inner : Shape} (hshape : Shape.member? name shape = some inner)
    (hvalue : readValue fuel depth inner cs = some (j, rest)) :
    readMembers (fuel + 1) depth shape
        ('"' :: (name.toList.flatMap escapeChar ++ '"' :: ':' :: cs)) =
      match skipGap rest with
      | ',' :: cs => (readMembers fuel depth shape cs).map (fun r => ((name, j) :: r.1, r.2))
      | '}' :: cs => some ([(name, j)], cs)
      | _ => none := by
  have hquote := skipGap_cons (c := '"') (by decide)
    (name.toList.flatMap escapeChar ++ '"' :: ':' :: cs)
  have hcolon := skipGap_cons (c := ':') (by decide) cs
  simp only [readMembers, hquote, readString_written, List.reverse_nil, List.nil_append,
    String.ofList_toList, Option.bind_eq_bind, Option.bind_some, hcolon, hshape, hvalue,
    Option.map_some]
  rfl

theorem readMembers_written {m : String × Json} (inner : String × Json → Shape)
    (hshape : ∀ k ∈ m :: members, Shape.member? k.1 shape = some (inner k))
    (h : ∀ k ∈ m :: members, Restored depth (inner k) k.2)
    (hfuel : 2 * (writeMembers (m :: members)).toList.length + 1 ≤ fuel) :
    readMembers fuel depth shape ((writeMembers (m :: members)).toList ++ '}' :: rest) =
      some (m :: members, rest) := by
  induction members generalizing m fuel with
  | nil =>
      obtain ⟨fuel, rfl⟩ : ∃ f, fuel = f + 1 := ⟨fuel - 1, by omega⟩
      rw [toList_writeMembers_single] at hfuel ⊢
      simp only [List.length_append, List.length_cons] at hfuel
      have hm := h m List.mem_cons_self fuel ('}' :: rest) (by omega) (.cons (by decide) rest)
      have hbracket := skipGap_cons (c := '}') (by decide) rest
      simp only [List.cons_append, List.append_assoc,
        readMembers_member (hshape m List.mem_cons_self) hm, hbracket]
  | cons k members ih =>
      obtain ⟨fuel, rfl⟩ : ∃ f, fuel = f + 1 := ⟨fuel - 1, by omega⟩
      rw [toList_writeMembers_cons] at hfuel ⊢
      simp only [List.length_append, List.length_cons] at hfuel
      have hm := h m List.mem_cons_self fuel
        (',' :: ((writeMembers (k :: members)).toList ++ '}' :: rest)) (by omega)
        (.cons (by decide) _)
      have hmore : readMembers fuel depth shape
          ((writeMembers (k :: members)).toList ++ '}' :: rest) = some (k :: members, rest) :=
        ih (fun i hi => hshape i (List.mem_cons_of_mem m hi))
          (fun i hi => h i (List.mem_cons_of_mem m hi)) (by omega)
      have hcomma := skipGap_cons (c := ',') (by decide)
        ((writeMembers (k :: members)).toList ++ '}' :: rest)
      simp only [List.cons_append, List.append_assoc,
        readMembers_member (hshape m List.mem_cons_self) hm, hcomma, hmore, Option.map_some]

theorem restored_array (h : ∀ j ∈ items, Restored depth .whole j) :
    Restored (depth + 1) .whole (.array items) := by
  refine .of_succ (by simp [toList_write_array]) fun fuel rest hfuel _ => ?_
  rw [toList_write_array] at hfuel ⊢
  simp only [List.length_cons, List.length_append] at hfuel
  rw [List.cons_append, List.append_assoc, List.singleton_append, readValue,
    skipGap_cons (by decide)]
  cases items with
  | nil =>
      have hbracket := skipGap_cons (c := ']') (by decide) rest
      simp only [writeItems, String.toList_empty, List.nil_append, hbracket]
  | cons j items =>
      have hread : readItems fuel depth none ((writeItems (j :: items)).toList ++ ']' :: rest) =
          some (j :: items, rest) := readItems_written h (by omega)
      obtain ⟨c, cs, hcs, hgap, hne⟩ := writeItems_begins j items
      rw [hcs, List.cons_append] at hread ⊢
      simp only [skipGap_cons hgap, Shape.items]
      split
      · rename_i heq
        exact absurd (List.cons.inj heq).1 hne
      · rw [hread, Option.map_some]

theorem restored_object (inner : String × Json → Shape)
    (hshape : ∀ m ∈ members, Shape.member? m.1 shape = some (inner m))
    (h : ∀ m ∈ members, Restored depth (inner m) m.2) :
    Restored (depth + 1) shape (.object members) := by
  refine .of_succ (by simp [toList_write_object]) fun fuel rest hfuel _ => ?_
  rw [toList_write_object] at hfuel ⊢
  simp only [List.length_cons, List.length_append] at hfuel
  rw [List.cons_append, List.append_assoc, List.singleton_append, readValue,
    skipGap_cons (by decide)]
  cases members with
  | nil =>
      have hbracket := skipGap_cons (c := '}') (by decide) rest
      simp only [writeMembers, String.toList_empty, List.nil_append, hbracket]
  | cons m members =>
      have hread : readMembers fuel depth shape
          ((writeMembers (m :: members)).toList ++ '}' :: rest) = some (m :: members, rest) :=
        readMembers_written inner hshape h (by omega)
      obtain ⟨cs, hcs⟩ := writeMembers_begins m members
      rw [hcs, List.cons_append] at hread ⊢
      simp only [skipGap_cons (c := '"') (by decide)]
      change (readMembers fuel depth shape ('"' :: (cs ++ '}' :: rest))).map _ = _
      rw [hread, Option.map_some]

end Reader

theorem Kept.restored (h : Kept depth shape j) : Restored depth shape j := by
  induction h with
  | null => exact restored_null
  | bool b => exact restored_bool b
  | natural h => exact restored_natural h
  | negative hpos h => exact restored_negative hpos h
  | fraction => exact restored_fraction
  | string s => exact restored_string s
  | array h ih => exact restored_array ih
  | object inner hshape h ih => exact restored_object inner hshape ih

/-- A value that nothing is lost of comes back from its text. -/
theorem ofText?_write (h : Kept maxDepth shape j) : ofText? shape j.write = some j := by
  have hread := h.restored (2 * ((write j).toList.length + 1)) [] (by omega) .nil
  rw [List.append_nil] at hread
  simp only [ofText?, hread]
  rfl

end PhraseMark.Json
