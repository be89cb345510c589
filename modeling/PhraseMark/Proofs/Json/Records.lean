import PhraseMark.Json.Record
import PhraseMark.Proofs.Json.RoundTrip

/-!
# Records read back

The fields of a record are found again among the members of its object, and a list is read back
where each of its items is.
-/

namespace PhraseMark.Json

variable {α : Type} {depth : Nat} {read : Json → Option α} {items : List Json} {xs : List α}
  {names : List String} {m : String × Json} {members : List (String × Json)}

theorem mapM_map_eq_some {β γ : Type} {f : β → Option γ} {g : α → β} {r : α → γ}
    (h : ∀ x ∈ xs, f (g x) = some (r x)) : (xs.map g).mapM f = some (xs.map r) := by
  induction xs with
  | nil => rfl
  | cons x xs ih =>
      rw [List.map_cons, List.mapM_cons, h x List.mem_cons_self,
        ih (fun y hy => h y (List.mem_cons_of_mem x hy))]
      rfl

/-! ## Fields -/

theorem filter_name_eq (h : (members.map (·.1)).Nodup) (hm : m ∈ members) :
    members.filter (·.1 == m.1) = [m] := by
  induction members with
  | nil => cases hm
  | cons k members ih =>
      rw [List.map_cons, List.nodup_cons] at h
      have hother : ∀ i ∈ members, i.1 ≠ k.1 := fun i hi heq =>
        h.1 (heq ▸ List.mem_map_of_mem hi)
      rcases List.mem_cons.1 hm with rfl | hm
      · rw [List.filter_cons_of_pos (by simp), List.filter_eq_nil_iff.2 (by simpa using hother)]
      · rw [List.filter_cons_of_neg (by simpa using (hother m hm).symm), ih h.2 hm]

/-- Each of the names of an object is given once. -/
theorem fields?_object (h : (members.map (·.1)).Nodup) :
    (object members).fields? (members.map (·.1)) = some (members.map (fun m => some m.2)) := by
  rw [fields?]
  refine mapM_map_eq_some fun m hm => ?_
  simp only [filter_name_eq h hm]

theorem member?_record {name : String} (h : name ∈ names) :
    Reader.Shape.member? name (.record (names.map (·, .whole))) = some .whole := by
  cases hfind : (names.map fun n => (n, Shape.whole)).find? (·.1 == name) with
  | none =>
      have hname := List.find?_eq_none.1 hfind (name, .whole) (List.mem_map_of_mem h)
      simp at hname
  | some field =>
      obtain ⟨n, -, rfl⟩ := List.mem_map.1 (List.mem_of_find?_eq_some hfind)
      rw [Reader.Shape.member?, hfind, Option.map_some]

theorem Kept.record (hnames : ∀ m ∈ members, m.1 ∈ names)
    (h : ∀ m ∈ members, Kept depth .whole m.2) :
    Kept (depth + 1) (.record (names.map (·, .whole))) (.object members) :=
  .object (fun _ => .whole) (fun m hm => member?_record (hnames m hm)) h

theorem Kept.whole (h : ∀ m ∈ members, Kept depth .whole m.2) :
    Kept (depth + 1) .whole (.object members) :=
  .object (fun _ => .whole) (fun _ _ => rfl) h

/-! ## Lists and numbers -/

theorem below?_natural {bound n : Nat} (h : n < bound) : below? bound (.natural n) = some n := by
  rw [below?, nat?, Option.filter_some, if_pos (by simpa using h)]

theorem listOf?_map {write : α → Json} (h : ∀ x ∈ xs, read (write x) = some x) :
    listOf? read (array (xs.map write)) = some xs := by
  rw [listOf?, mapM_map_eq_some h, List.map_id']

theorem Kept.list {write : α → Json} (h : ∀ x ∈ xs, Kept depth .whole (write x)) :
    Kept (depth + 1) .whole (.array (xs.map write)) :=
  .array (List.forall_mem_map.2 h)

end PhraseMark.Json
