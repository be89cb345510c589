import Mathlib.Data.List.Forall2
import PhraseMark.Page.Snapshot

/-!
# The nodes of a snapshot

The nodes of a snapshot in document order, each with its depth; what keeps one of them from being
read; and what a node of a page takes over from it.
-/

namespace PhraseMark

namespace Snapshot

variable {j c v : Json} {name value : String} {depth maxDepth i n : Nat} {α : Type}

/-! ## Document order -/

theorem sizeOf_lt_of_get? (h : j.get? name = some v) : sizeOf v < sizeOf j := by
  cases j with
  | object members =>
      obtain ⟨⟨key, w⟩, hfind, rfl⟩ := Option.map_eq_some_iff.1 h
      have hmem := List.mem_reverse.1 (List.mem_of_find?_eq_some hfind)
      have hlt := List.sizeOf_lt_of_mem hmem
      rw [Prod.mk.sizeOf_spec] at hlt
      rw [Json.object.sizeOf_spec]
      change sizeOf w < _
      omega
  | _ => cases h

theorem sizeOf_lt_of_mem_childrenOf (h : c ∈ childrenOf j) : sizeOf c < sizeOf j := by
  rw [childrenOf] at h
  cases hget : j.get? "children" with
  | none =>
      rw [hget] at h
      cases h
  | some v =>
      rw [hget] at h
      cases v with
      | array items =>
          have hitems := sizeOf_lt_of_get? hget
          have hlt := List.sizeOf_lt_of_mem (show c ∈ items from h)
          rw [Json.array.sizeOf_spec] at hitems
          omega
      | _ => cases h

/-- What holds of a node when it holds of its children holds of every node. -/
theorem induct {P : Json → Prop} (step : ∀ j, (∀ c ∈ childrenOf j, P c) → P j) (j : Json) :
    P j := by
  induction hn : sizeOf j using Nat.strongRecOn generalizing j with
  | _ n ih =>
      apply step j
      intro c hc
      exact ih _ (hn ▸ sizeOf_lt_of_mem_childrenOf hc) c rfl

/-- A node and everything under it in document order, each with its depth. -/
def walk (depth : Nat) (j : Json) : List (Nat × Json) :=
  (depth, j) :: (childrenOf j).attach.flatMap (fun c => walk (depth + 1) c.1)
termination_by sizeOf j
decreasing_by exact sizeOf_lt_of_mem_childrenOf c.2

theorem walk_eq (depth : Nat) (j : Json) :
    walk depth j = (depth, j) :: (childrenOf j).flatMap (walk (depth + 1)) := by
  rw [walk, List.cons.injEq]
  refine ⟨rfl, ?_⟩
  rw [List.flatMap_subtype (g := walk (depth + 1)) (fun _ _ => rfl), List.unattach_attach]

theorem walk_ne_nil (depth : Nat) (j : Json) : walk depth j ≠ [] := by
  rw [walk_eq]
  exact List.cons_ne_nil _ _

/-- From the place of a node on, a walk goes through what stands at and under that node. -/
theorem walk_drop {d : Nat} {k : Json} (h : (walk depth j)[i]? = some (d, k)) :
    walk d k <+: (walk depth j).drop i := by
  induction j using induct generalizing depth i with
  | step j ih =>
      have hall : ∀ cs : List Json, (∀ c ∈ cs, c ∈ childrenOf j) → ∀ i,
          (cs.flatMap (walk (depth + 1)))[i]? = some (d, k) →
            walk d k <+: (cs.flatMap (walk (depth + 1))).drop i := by
        intro cs hcs
        induction cs with
        | nil =>
            intro i hi
            cases hi
        | cons c cs ihcs =>
            intro i hi
            rw [List.flatMap_cons] at hi ⊢
            rw [List.drop_append]
            by_cases hlt : i < (walk (depth + 1) c).length
            · rw [List.getElem?_append_left hlt] at hi
              exact (ih c (hcs c List.mem_cons_self) hi).trans (List.prefix_append _ _)
            · have hle := Nat.not_lt.1 hlt
              rw [List.getElem?_append_right hle] at hi
              rw [List.drop_eq_nil_of_le hle, List.nil_append]
              exact ihcs (fun b hb => hcs b (List.mem_cons_of_mem c hb)) _ hi
      cases i with
      | zero =>
          rw [walk_eq, List.getElem?_cons_zero, Option.some.injEq, Prod.mk.injEq] at h
          obtain ⟨rfl, rfl⟩ := h
          exact List.prefix_rfl
      | succ i =>
          rw [walk_eq, List.getElem?_cons_succ] at h
          rw [walk_eq depth j, List.drop_succ_cons]
          exact hall (childrenOf j) (fun c hc => hc) i h

/-! ## Places of parts -/

/-- Where the parts of a list begin that stands at a place. -/
def starts (first : Nat) : List (List α) → List Nat
  | [] => []
  | part :: parts => first :: starts (first + part.length) parts

theorem le_of_mem_starts {parts : List (List α)} (h : i ∈ starts n parts) : n ≤ i := by
  induction parts generalizing n with
  | nil => cases h
  | cons part parts ih =>
      rcases List.mem_cons.1 h with rfl | h
      · exact Nat.le_refl _
      · exact Nat.le_of_add_right_le (ih h)

theorem lt_of_mem_starts {parts : List (List α)} (hparts : ∀ part ∈ parts, part ≠ [])
    (h : i ∈ starts n parts) : i < n + parts.flatten.length := by
  induction parts generalizing n with
  | nil => cases h
  | cons part parts ih =>
      have hpos := List.length_pos_of_ne_nil (hparts part List.mem_cons_self)
      rw [List.flatten_cons, List.length_append]
      rcases List.mem_cons.1 h with rfl | h
      · omega
      · have hlt := ih (fun part hpart => hparts part (List.mem_cons_of_mem _ hpart)) h
        omega

theorem nodup_starts {parts : List (List α)} (hparts : ∀ part ∈ parts, part ≠ []) :
    (starts n parts).Nodup := by
  induction parts generalizing n with
  | nil => exact List.nodup_nil
  | cons part parts ih =>
      have hpos := List.length_pos_of_ne_nil (hparts part List.mem_cons_self)
      refine List.nodup_cons.2 ⟨fun hmem => ?_, ih (fun part hpart =>
        hparts part (List.mem_cons_of_mem _ hpart))⟩
      have hle := le_of_mem_starts hmem
      omega

theorem forall₂_starts {parts : List (List α)} {l : List α}
    (h : parts.flatten <+: l.drop n) :
    List.Forall₂ (fun i part => part <+: l.drop i) (starts n parts) parts := by
  induction parts generalizing n with
  | nil => exact .nil
  | cons part parts ih =>
      rw [List.flatten_cons] at h
      have hpart : part <+: l.drop n := (List.prefix_append _ _).trans h
      refine .cons hpart (ih ?_)
      obtain ⟨rest, hrest⟩ := h
      rw [← List.drop_drop, ← hrest, List.append_assoc, List.drop_left]
      exact List.prefix_append _ _

/-- The parts of a walk that belong to the children of a node. -/
def branches (depth : Nat) (js : List Json) : List (List (Nat × Json)) := js.map (walk depth)

theorem ne_nil_of_mem_branches {js : List Json} {part : List (Nat × Json)}
    (h : part ∈ branches depth js) : part ≠ [] := by
  obtain ⟨j, -, rfl⟩ := List.mem_map.1 h
  exact walk_ne_nil depth j

theorem walk_eq_cons_flatten (depth : Nat) (j : Json) :
    walk depth j = (depth, j) :: (branches (depth + 1) (childrenOf j)).flatten := by
  rw [walk_eq, branches, List.flatMap_def]

/-- The children of a node, with the places at which a walk comes to them. -/
theorem forall₂_starts_walk {d : Nat} {k : Json} (h : (walk depth j)[i]? = some (d, k)) :
    List.Forall₂ (fun place c => (walk depth j)[place]? = some (d + 1, c))
      (starts (i + 1) (branches (d + 1) (childrenOf k))) (childrenOf k) := by
  have hdrop := walk_drop h
  rw [walk_eq_cons_flatten d k] at hdrop
  obtain ⟨rest, hrest⟩ := hdrop
  have hflat : (branches (d + 1) (childrenOf k)).flatten <+: (walk depth j).drop (i + 1) := by
    rw [← List.drop_drop, ← hrest, List.cons_append, List.drop_succ_cons, List.drop_zero]
    exact List.prefix_append _ _
  have hstarts : List.Forall₂ (fun place part => part <+: (walk depth j).drop place) _
      ((childrenOf k).map (walk (d + 1))) := forall₂_starts hflat
  rw [List.forall₂_map_right_iff] at hstarts
  refine hstarts.imp (fun place c hplace => ?_)
  obtain ⟨rest, hrest⟩ := hplace
  have hhead : ((walk depth j).drop place)[0]? = some (d + 1, c) := by
    rw [← hrest, walk_eq]
    rfl
  rwa [List.getElem?_drop, Nat.add_zero] at hhead

/-! ## Defects -/

def backendNumber? (j : Json) : Option Nat := (j.get? "backendNodeId").bind Json.nat?

def kindNumber? (j : Json) : Option Nat := (j.get? "nodeType").bind Json.nat?

/-- What a node must be to be read at a depth. -/
def Sound (maxDepth depth : Nat) (j : Json) : Prop :=
  depth ≤ maxDepth ∧ (∃ b, backendNumber? j = some b) ∧
    ∃ code, kindNumber? j = some code ∧ 1 ≤ code ∧ code ≤ 12

/-- The first thing that is wrong with a node. -/
def defect? (maxDepth depth : Nat) (j : Json) : Option Fault :=
  if maxDepth < depth then some (.tooDeep depth maxDepth)
  else
    match backendNumber? j, kindNumber? j with
    | none, _ => some (.malformedSnapshot .missingBackendId)
    | some _, none => some (.malformedSnapshot .missingKind)
    | some _, some code => if 1 ≤ code ∧ code ≤ 12 then none else some (.invalidKind code)

/-- What is wrong with the first of some nodes with which something is wrong. -/
def firstDefect? (maxDepth : Nat) (entries : List (Nat × Json)) : Option Fault :=
  entries.findSome? (fun entry => defect? maxDepth entry.1 entry.2)

theorem defect?_eq_none_iff : defect? maxDepth depth j = none ↔ Sound maxDepth depth j := by
  unfold defect? Sound
  by_cases hdepth : maxDepth < depth
  · simp [hdepth, Nat.not_le.2 hdepth]
  · have hle := Nat.not_lt.1 hdepth
    cases backendNumber? j <;> cases kindNumber? j <;> simp [hdepth, hle]

theorem firstDefect?_eq_none_iff {entries : List (Nat × Json)} :
    firstDefect? maxDepth entries = none ↔
      ∀ entry ∈ entries, Sound maxDepth entry.1 entry.2 := by
  rw [firstDefect?, List.findSome?_eq_none_iff]
  exact forall₂_congr (fun _ _ => defect?_eq_none_iff)

theorem firstDefect?_append (maxDepth : Nat) (l m : List (Nat × Json)) :
    firstDefect? maxDepth (l ++ m) = (firstDefect? maxDepth l).or (firstDefect? maxDepth m) :=
  List.findSome?_append

/-! ## Attributes -/

/-- Two strings at the places `2 * i` and `2 * i + 1` of a flat list. -/
def PairAt (items : List Json) (i : Nat) (name value : String) : Prop :=
  items[2 * i]? = some (.string name) ∧ items[2 * i + 1]? = some (.string value)

/-- The value stands in the last of all pairs with that name. -/
def LastPair (items : List Json) (name value : String) : Prop :=
  ∃ i, PairAt items i name value ∧ ∀ k v, PairAt items k name v → k ≤ i

section Pairs

variable {x y : Json} {items : List Json}

theorem pairAt_zero_iff : PairAt (x :: y :: items) 0 name value ↔
    x = .string name ∧ y = .string value := by
  simp [PairAt]

theorem pairAt_succ_iff :
    PairAt (x :: y :: items) (i + 1) name value ↔ PairAt items i name value := by
  simp [PairAt, Nat.mul_add]

theorem not_pairAt_of_length_lt (h : items.length < 2) : ¬ PairAt items i name value := by
  rintro ⟨-, hvalue⟩
  have hlt := (List.getElem?_eq_some_iff.1 hvalue).1
  omega

theorem forall_not_pairAt_cons_iff : (∀ k v, ¬ PairAt (x :: y :: items) k name v) ↔
    (∀ v, ¬ (x = .string name ∧ y = .string v)) ∧ ∀ k v, ¬ PairAt items k name v := by
  constructor
  · intro h
    exact ⟨fun v hxy => h 0 v (pairAt_zero_iff.2 hxy),
      fun k v hk => h (k + 1) v (pairAt_succ_iff.2 hk)⟩
  · rintro ⟨hfirst, hrest⟩ k v hk
    cases k with
    | zero => exact hfirst v (pairAt_zero_iff.1 hk)
    | succ k => exact hrest k v (pairAt_succ_iff.1 hk)

theorem lastPair_cons_iff : LastPair (x :: y :: items) name value ↔
    LastPair items name value ∨
      (x = .string name ∧ y = .string value) ∧ ∀ k v, ¬ PairAt items k name v := by
  constructor
  · rintro ⟨i, hi, hlast⟩
    cases i with
    | zero =>
        refine .inr ⟨pairAt_zero_iff.1 hi, fun k v hk => ?_⟩
        exact absurd (hlast (k + 1) v (pairAt_succ_iff.2 hk)) (Nat.not_succ_le_zero k)
    | succ i =>
        refine .inl ⟨i, pairAt_succ_iff.1 hi, fun k v hk => ?_⟩
        exact Nat.le_of_succ_le_succ (hlast (k + 1) v (pairAt_succ_iff.2 hk))
  · rintro (⟨i, hi, hlast⟩ | ⟨hxy, hrest⟩)
    · refine ⟨i + 1, pairAt_succ_iff.2 hi, fun k v hk => ?_⟩
      cases k with
      | zero => exact Nat.zero_le _
      | succ k => exact Nat.succ_le_succ (hlast k v (pairAt_succ_iff.1 hk))
    · refine ⟨0, pairAt_zero_iff.2 hxy, fun k v hk => ?_⟩
      cases k with
      | zero => exact Nat.le_refl _
      | succ k => exact absurd (pairAt_succ_iff.1 hk) (hrest k v)

/-- Putting the pairs of a list into a map keeps an old value just where the list has no pair. -/
theorem get?_foldl_pairs (items : List Json) (a : Attributes) :
    ((pairs items).foldl (fun a p => a.insert p.1 p.2) a).get? name = some value ↔
      LastPair items name value ∨
        a.get? name = some value ∧ ∀ k v, ¬ PairAt items k name v := by
  induction items using pairs.induct generalizing a with
  | case1 key word rest ih =>
      rw [pairs, List.foldl_cons, ih, lastPair_cons_iff, forall_not_pairAt_cons_iff,
        Attributes.get?_insert]
      by_cases hkey : name = key
      · subst hkey
        simp only [if_true, Option.some.injEq, Json.string.injEq, true_and, or_assoc]
        simp
      · simp [hkey, Ne.symm hkey]
  | case2 x y rest hno ih =>
      have hxy : ∀ v, ¬ (x = .string name ∧ y = .string v) :=
        fun v h => hno name v h.1 h.2
      rw [pairs.eq_2 x y rest hno, ih, lastPair_cons_iff, forall_not_pairAt_cons_iff]
      simp [hxy]
  | case3 items hpair hlong =>
      have hshort : items.length < 2 := by
        rcases items with _ | ⟨x, _ | ⟨y, rest⟩⟩
        · exact Nat.zero_lt_two
        · exact Nat.one_lt_two
        · exact absurd rfl (hlong x y rest)
      have hnone : ∀ k v, ¬ PairAt items k name v := fun k v => not_pairAt_of_length_lt hshort
      rw [pairs.eq_3 items hpair hlong, List.foldl_nil]
      constructor
      · intro h
        exact .inr ⟨h, hnone⟩
      · rintro (⟨i, hi, -⟩ | ⟨h, -⟩)
        · exact absurd hi (hnone i value)
        · exact h

end Pairs

def attributeItems (j : Json) : List Json := ((j.get? "attributes").bind Json.items?).getD []

theorem get?_attributesOf (j : Json) :
    (attributesOf j).get? name = some value ↔ LastPair (attributeItems j) name value := by
  have hof : attributesOf j = .ofList (pairs (attributeItems j)) := by
    rw [attributesOf, attributeItems]
    cases (j.get? "attributes").bind Json.items? with
    | none => rfl
    | some items => rfl
  rw [hof, Attributes.ofList, get?_foldl_pairs]
  simp

end Snapshot

/-! ## What a node takes over -/

/-- A node has everything but its links from a node of a snapshot. -/
structure Node.Carries (n : Node) (j : Json) : Prop where
  kind : Snapshot.kindNumber? j = some n.kind.code
  backendId : ∃ b, Snapshot.backendNumber? j = some b ∧ n.backendId = some (.ofNat b)
  name : n.name = if n.kind = .element then Text.asciiUpper (Snapshot.textOf j "nodeName")
    else Snapshot.textOf j "nodeName"
  value : n.value = Snapshot.textOf j "nodeValue"
  attributes : ∀ name value, n.attr? name = some value ↔
    Snapshot.LastPair (Snapshot.attributeItems j) name value
  visible : n.visible = none

namespace Snapshot

variable {j : Json} {depth maxDepth : Nat}

theorem kindOf_of_missing (h : kindNumber? j = none) :
    kindOf j = .error (.malformedSnapshot .missingKind) := by
  rw [kindNumber?] at h
  rw [kindOf, h]

theorem kindOf_of_outside {code : Nat} (h : kindNumber? j = some code)
    (hcode : ¬ (1 ≤ code ∧ code ≤ 12)) : kindOf j = .error (.invalidKind code) := by
  have hnone : NodeKind.ofCode? code = none := by
    rw [← Option.not_isSome_iff_eq_none, NodeKind.ofCode?_isSome_iff]
    exact hcode
  rw [kindNumber?] at h
  simp only [kindOf, h, hnone]

theorem kindOf_of_within {code : Nat} (h : kindNumber? j = some code)
    (hcode : 1 ≤ code ∧ code ≤ 12) : ∃ kind, kindOf j = .ok kind ∧ kind.code = code := by
  obtain ⟨kind, hkind⟩ := Option.isSome_iff_exists.1 (NodeKind.ofCode?_isSome_iff.2 hcode)
  refine ⟨kind, ?_, NodeKind.code_of_ofCode? hkind⟩
  rw [kindNumber?] at h
  simp only [kindOf, h, hkind]

theorem nodeOf_of_defect {e : Fault} (hdepth : depth ≤ maxDepth)
    (h : defect? maxDepth depth j = some e) (parent : Option NodeId) :
    nodeOf parent j = .error e := by
  rw [defect?, if_neg (Nat.not_lt.2 hdepth)] at h
  cases hbackend : backendNumber? j with
  | none =>
      rw [hbackend, Option.some.injEq] at h
      rw [backendNumber?] at hbackend
      rw [nodeOf, hbackend, ← h]
  | some b =>
      have hkind : kindOf j = .error e := by
        rw [hbackend] at h
        cases hcode : kindNumber? j with
        | none =>
            rw [hcode, Option.some.injEq] at h
            rw [kindOf_of_missing hcode, h]
        | some code =>
            simp only [hcode] at h
            split at h
            · cases h
            · rename_i houtside
              rw [Option.some.injEq] at h
              rw [kindOf_of_outside hcode houtside, h]
      rw [backendNumber?] at hbackend
      simp only [nodeOf, hbackend, hkind]

theorem nodeOf_of_sound (h : Sound maxDepth depth j) (parent : Option NodeId) :
    ∃ n, nodeOf parent j = .ok n ∧ n.Carries j ∧ n.parent = parent := by
  obtain ⟨-, ⟨b, hb⟩, code, hcode, hwithin⟩ := h
  obtain ⟨kind, hkind, rfl⟩ := kindOf_of_within hcode hwithin
  have hbackend := hb
  rw [backendNumber?] at hbackend
  simp only [nodeOf, hbackend, hkind]
  refine ⟨_, rfl, ⟨hcode, ⟨b, hb, rfl⟩, rfl, rfl, ?_, rfl⟩, rfl⟩
  intro name value
  exact get?_attributesOf j

end Snapshot

end PhraseMark
