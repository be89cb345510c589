import PhraseMark.Json.Reader

/-!
# Nested brackets

A value that was read from a text has its brackets nested at most as deep as the reader allows.
-/

namespace PhraseMark.Json

/-- The brackets of a value are nested at most `depth` deep. -/
inductive Nested : Nat → Json → Prop
  | null {depth : Nat} : Nested depth null
  | bool {depth : Nat} (b : Bool) : Nested depth (bool b)
  | natural {depth : Nat} (n : Nat) : Nested depth (natural n)
  | negative {depth : Nat} (n : Nat) : Nested depth (negative n)
  | fraction {depth : Nat} : Nested depth fraction
  | string {depth : Nat} (s : String) : Nested depth (string s)
  | array {depth : Nat} {items : List Json} :
      (∀ j ∈ items, Nested depth j) → Nested (depth + 1) (array items)
  | object {depth : Nat} {members : List (String × Json)} :
      (∀ m ∈ members, Nested depth m.2) → Nested (depth + 1) (object members)

variable {depth fuel : Nat} {shape : Shape} {shapes : Option (List Shape)} {j v : Json}
  {name : String} {items : List Json} {members : List (String × Json)} {cs rest : List Char}

theorem Nested.get? (h : j.Nested depth) (hv : j.get? name = some v) :
    ∃ inner, depth = inner + 1 ∧ v.Nested inner := by
  cases h with
  | object hmembers =>
      obtain ⟨m, hfind, rfl⟩ := Option.map_eq_some_iff.1 hv
      exact ⟨_, rfl, hmembers m (List.mem_reverse.1 (List.mem_of_find?_eq_some hfind))⟩
  | _ => cases hv

theorem Nested.of_mem_items (h : (Json.array items).Nested depth) (hj : j ∈ items) :
    ∃ inner, depth = inner + 1 ∧ j.Nested inner := by
  cases h with
  | array hitems => exact ⟨_, rfl, hitems j hj⟩

/-! ## Reading -/

theorem Numeral.nested_value (n : Numeral) : n.value.Nested depth := by
  unfold Numeral.value
  dsimp only
  repeat' split
  all_goals constructor

namespace Reader

/-- What is read with less fuel has its brackets nested no deeper than the reader allows. -/
structure Bounds (fuel : Nat) : Prop where
  value : ∀ {depth shape cs j rest}, readValue fuel depth shape cs = some (j, rest) → j.Nested depth
  items : ∀ {depth shapes cs items rest}, readItems fuel depth shapes cs = some (items, rest) →
    ∀ j ∈ items, j.Nested depth
  members : ∀ {depth shape cs members rest},
    readMembers fuel depth shape cs = some (members, rest) → ∀ m ∈ members, m.2.Nested depth

theorem nested_readValue_succ (h : Bounds fuel)
    (hread : readValue (fuel + 1) depth shape cs = some (j, rest)) : j.Nested depth := by
  unfold readValue at hread
  split at hread
  · obtain ⟨r, -, hr⟩ := Option.map_eq_some_iff.1 hread
    cases hr
    exact .null
  · obtain ⟨r, -, hr⟩ := Option.map_eq_some_iff.1 hread
    cases hr
    exact .bool true
  · obtain ⟨r, -, hr⟩ := Option.map_eq_some_iff.1 hread
    cases hr
    exact .bool false
  · obtain ⟨r, -, hr⟩ := Option.map_eq_some_iff.1 hread
    cases hr
    exact .string r.1
  · split at hread
    · cases hread
    · split at hread
      · cases hread
        exact .array (fun j hj => absurd hj List.not_mem_nil)
      · obtain ⟨r, hitems, hr⟩ := Option.map_eq_some_iff.1 hread
        cases hr
        exact .array (h.items hitems)
  · split at hread
    · cases hread
    · split at hread
      · cases hread
        exact .object (fun m hm => absurd hm List.not_mem_nil)
      · obtain ⟨r, hmembers, hr⟩ := Option.map_eq_some_iff.1 hread
        cases hr
        exact .object (h.members hmembers)
  · obtain ⟨⟨n, cs'⟩, -, hn⟩ := Option.bind_eq_some_iff.1 hread
    dsimp only at hn
    split at hn
    · cases hn
      exact n.nested_value
    · split at hn
      · cases hn
        exact .fraction
      · cases hn

theorem nested_readItems_succ (h : Bounds fuel)
    (hread : readItems (fuel + 1) depth shapes cs = some (items, rest)) :
    ∀ j ∈ items, j.Nested depth := by
  unfold readItems at hread
  obtain ⟨⟨shape, shapes'⟩, -, hread⟩ := Option.bind_eq_some_iff.1 hread
  obtain ⟨⟨item, cs'⟩, hitem, hread⟩ := Option.bind_eq_some_iff.1 hread
  dsimp only at hread
  split at hread
  · obtain ⟨r, hitems, hr⟩ := Option.map_eq_some_iff.1 hread
    cases hr
    exact List.forall_mem_cons.2 ⟨h.value hitem, h.items hitems⟩
  · cases hread
    exact List.forall_mem_singleton.2 (h.value hitem)
  · cases hread

/-- What comes after a member: a comma with the members that follow, or the closing bracket. -/
theorem Bounds.afterMember (h : Bounds fuel) {found : List (String × Json)}
    (hfound : ∀ m ∈ found, m.2.Nested depth)
    (hread : (match skipGap cs with
      | ',' :: cs => (readMembers fuel depth shape cs).map (fun r => (found ++ r.1, r.2))
      | '}' :: cs => some (found, cs)
      | _ => none) = some (members, rest)) : ∀ m ∈ members, m.2.Nested depth := by
  split at hread
  · obtain ⟨r, hmembers, hr⟩ := Option.map_eq_some_iff.1 hread
    cases hr
    exact List.forall_mem_append.2 ⟨hfound, h.members hmembers⟩
  · cases hread
    exact hfound
  · cases hread

theorem nested_readMembers_succ (h : Bounds fuel)
    (hread : readMembers (fuel + 1) depth shape cs = some (members, rest)) :
    ∀ m ∈ members, m.2.Nested depth := by
  unfold readMembers at hread
  split at hread
  · obtain ⟨⟨name, cs'⟩, -, hread⟩ := Option.bind_eq_some_iff.1 hread
    dsimp only at hread
    split at hread
    · split at hread
      · obtain ⟨⟨found, cs''⟩, hfound, hread⟩ := Option.bind_eq_some_iff.1 hread
        obtain ⟨r, hvalue, hr⟩ := Option.map_eq_some_iff.1 hfound
        cases hr
        exact h.afterMember (List.forall_mem_singleton.2 (h.value hvalue)) hread
      · -- a member that does not matter is left out
        obtain ⟨⟨found, cs''⟩, hfound, hread⟩ := Option.bind_eq_some_iff.1 hread
        obtain ⟨r, -, hr⟩ := Option.map_eq_some_iff.1 hfound
        cases hr
        exact h.afterMember (fun m hm => absurd hm List.not_mem_nil) hread
    · cases hread
  · cases hread

theorem bounds (fuel : Nat) : Bounds fuel := by
  induction fuel with
  | zero =>
      refine ⟨fun h => ?_, fun h => ?_, fun h => ?_⟩
      · rw [readValue] at h
        cases h
      · rw [readItems] at h
        cases h
      · rw [readMembers] at h
        cases h
  | succ fuel ih =>
      exact ⟨nested_readValue_succ ih, nested_readItems_succ ih, nested_readMembers_succ ih⟩

end Reader

/-- A text that opens too many brackets is no value. -/
theorem nested_of_ofText? {text : String} (h : ofText? shape text = some j) :
    j.Nested Reader.maxDepth := by
  unfold ofText? at h
  dsimp only at h
  split at h
  · rename_i hread
    split at h
    · cases h
      exact (Reader.bounds _).value hread
    · cases h
  · cases h

end PhraseMark.Json
