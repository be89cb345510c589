/-!
# Attributes of an element

A finite map from names to values, kept as a list sorted by name. Each map has one list, so
equal maps are equal lists, and writing an element lists its attributes in this order.
-/

namespace PhraseMark

/-- Attribute values by name; the names are strictly increasing. -/
structure Attributes where
  entries : List (String × String) := []
  sorted : entries.Pairwise (fun a b => a.1 < b.1) := by exact List.Pairwise.nil

namespace Attributes

instance : DecidableEq Attributes := fun a b =>
  match decEq a.entries b.entries with
  | isTrue h => isTrue (by cases a; cases b; cases h; rfl)
  | isFalse h => isFalse (fun hab => h (by rw [hab]))

instance : Inhabited Attributes := ⟨{}⟩

@[ext] theorem ext {a b : Attributes} (h : a.entries = b.entries) : a = b := by
  cases a; cases b; cases h; rfl

def empty : Attributes := {}

def get? (a : Attributes) (name : String) : Option String := a.entries.lookup name

/-- Puts an entry at its place in a sorted list, in the place of one with the same name. -/
def insertEntry (name value : String) : List (String × String) → List (String × String)
  | [] => [(name, value)]
  | e :: es =>
    if name < e.1 then (name, value) :: e :: es
    else if name = e.1 then (name, value) :: es
    else e :: insertEntry name value es

theorem mem_insertEntry {name value : String} {es : List (String × String)}
    {p : String × String} (h : p ∈ insertEntry name value es) : p = (name, value) ∨ p ∈ es := by
  induction es with
  | nil => simpa [insertEntry] using h
  | cons e es ih =>
      unfold insertEntry at h
      split at h
      · simpa using h
      · split at h
        · rcases List.mem_cons.1 h with h | h
          · exact .inl h
          · exact .inr (List.mem_cons_of_mem e h)
        · rcases List.mem_cons.1 h with h | h
          · exact .inr (h ▸ List.mem_cons_self)
          · rcases ih h with h | h
            · exact .inl h
            · exact .inr (List.mem_cons_of_mem e h)

theorem sorted_insertEntry (name value : String) {es : List (String × String)}
    (h : es.Pairwise (fun a b => a.1 < b.1)) :
    (insertEntry name value es).Pairwise (fun a b => a.1 < b.1) := by
  induction es with
  | nil => simp [insertEntry]
  | cons e es ih =>
      have htail := (List.pairwise_cons.1 h).2
      have hhead := (List.pairwise_cons.1 h).1
      unfold insertEntry
      split
      · rename_i hlt
        refine List.pairwise_cons.2 ⟨?_, h⟩
        intro p hp
        rcases List.mem_cons.1 hp with rfl | hp
        · exact hlt
        · exact String.lt_trans hlt (hhead p hp)
      · split
        · rename_i heq
          refine List.pairwise_cons.2 ⟨?_, htail⟩
          intro p hp
          simpa [heq] using hhead p hp
        · rename_i hlt hne
          refine List.pairwise_cons.2 ⟨?_, ih htail⟩
          intro p hp
          rcases mem_insertEntry hp with rfl | hp
          · exact Std.lt_of_le_of_ne hlt (fun h => hne h.symm)
          · exact hhead p hp

/-- Sets the value of a name, replacing an earlier one. -/
def insert (a : Attributes) (name value : String) : Attributes where
  entries := insertEntry name value a.entries
  sorted := sorted_insertEntry name value a.sorted

/-- The map of a list of pairs; of two pairs with one name the later wins. -/
def ofList (pairs : List (String × String)) : Attributes :=
  pairs.foldl (fun a p => a.insert p.1 p.2) empty

theorem lookup_cons_eq_ite (name value other : String) (es : List (String × String)) :
    ((name, value) :: es).lookup other = if other = name then some value else es.lookup other := by
  rw [List.lookup_cons]
  by_cases h : other = name
  · rw [if_pos h, beq_iff_eq.2 h]
  · rw [if_neg h, beq_eq_false_iff_ne.2 h]

theorem lookup_insertEntry (name value other : String) (es : List (String × String)) :
    (insertEntry name value es).lookup other =
      if other = name then some value else es.lookup other := by
  induction es with
  | nil => exact lookup_cons_eq_ite name value other []
  | cons e es ih =>
      obtain ⟨n, v⟩ := e
      unfold insertEntry
      split
      · exact lookup_cons_eq_ite name value other _
      · split
        · rename_i _ heq
          have heq' : name = n := heq
          subst heq'
          rw [lookup_cons_eq_ite, lookup_cons_eq_ite]
          split <;> rfl
        · rename_i _ hne
          have hne' : ¬ name = n := hne
          rw [lookup_cons_eq_ite, lookup_cons_eq_ite, ih]
          by_cases hn : other = n
          · subst hn
            rw [if_pos rfl, if_neg (Ne.symm hne'), if_pos rfl]
          · rw [if_neg hn, if_neg hn]

@[simp] theorem get?_empty (name : String) : empty.get? name = none := rfl

theorem get?_insert (a : Attributes) (name value other : String) :
    (a.insert name value).get? other = if other = name then some value else a.get? other :=
  lookup_insertEntry name value other a.entries

end Attributes

end PhraseMark
