import Mathlib.Algebra.Order.BigOperators.Group.List
import Mathlib.Algebra.Order.Group.Nat
import Mathlib.Algebra.Ring.Nat
import Mathlib.Data.List.Perm.Subperm
import Mathlib.Data.List.SplitBy
import PhraseMark.Pattern.Size
import PhraseMark.Proofs.Pattern.Classes

/-!
# How large a class may become

A range of code points is read by at most as many sequences of byte ranges as it has code points,
and a sequence has at most four byte ranges. Each byte range adds at most one state and one
transition to a machine, so the size of a class is bounded by the number of its code points.
-/

namespace PhraseMark.Pattern.Size

open CharSet (width)

variable {a b m n fuel depth : Nat} {nodes : Nodes} {seqs : List (List ByteRange)}

/-! ## Sequences of byte ranges -/

theorem length_utf8_le (n : Nat) : (utf8 n).length ≤ 4 := by
  unfold utf8
  split
  · simp
  · split
    · simp
    · split <;> simp

/-- A cut parts a range into two ranges of which neither goes beyond it. -/
theorem cut?_bounds (hab : a ≤ b) (h : cut? a b = some (m, n)) : m < n ∧ m ≤ b ∧ a ≤ n := by
  unfold cut? at h
  split at h
  · cases h
    omega
  · split at h
    · rename_i k hk
      cases h
      have hk := List.find?_some hk
      simp only [Bool.and_eq_true, decide_eq_true_eq] at hk
      omega
    · split at h
      · cases h
      · obtain ⟨block, hmem, h⟩ := List.exists_of_findSome?_eq_some h
        have hpos : 0 < block := by
          simp only [List.mem_cons, List.not_mem_nil, or_false] at hmem
          omega
        have hb := Nat.div_mul_le_self b block
        have ha := Nat.lt_div_mul_add hpos (a := a)
        split at h
        · cases h
        · rename_i hne
          have hlt : a / block < b / block :=
            Nat.lt_of_le_of_ne (Nat.div_le_div_right hab) hne
          have hstep : a / block * block + block ≤ b / block * block := by
            rw [← Nat.succ_mul]
            exact Nat.mul_le_mul_right _ hlt
          split at h
          · cases h
            omega
          · split at h
            · cases h
              omega
            · cases h

theorem length_sequences_le (fuel a b : Nat) : (sequences fuel a b).length ≤ b + 1 - a := by
  induction fuel generalizing a b with
  | zero => exact Nat.zero_le _
  | succ fuel ih =>
      unfold sequences
      split
      · exact Nat.zero_le _
      · rename_i hrange
        have hab : a ≤ b := Nat.le_of_not_lt (mt Or.inl hrange)
        split
        · rename_i m n hcut
          have hbounds := cut?_bounds hab hcut
          have hfirst := ih a m
          have hsecond := ih n b
          rw [List.length_append]
          omega
        · rw [List.length_singleton]
          omega

theorem length_of_mem_sequences {s : List ByteRange} (hs : s ∈ sequences fuel a b) :
    s.length ≤ 4 := by
  induction fuel generalizing a b with
  | zero => cases hs
  | succ fuel ih =>
      unfold sequences at hs
      split at hs
      · cases hs
      · split at hs
        · rcases List.mem_append.1 hs with hs | hs
          · exact ih hs
          · exact ih hs
        · rw [List.mem_singleton.1 hs, List.length_zip]
          exact Nat.le_trans (Nat.min_le_left _ _) (length_utf8_le a)

/-- The number of byte ranges in sequences. -/
def bytes (seqs : List (List ByteRange)) : Nat := (seqs.map List.length).sum

@[simp] theorem bytes_nil : bytes [] = 0 := rfl

@[simp] theorem bytes_cons (s : List ByteRange) (seqs : List (List ByteRange)) :
    bytes (s :: seqs) = s.length + bytes seqs := by
  simp [bytes]

@[simp] theorem bytes_append (seqs others : List (List ByteRange)) :
    bytes (seqs ++ others) = bytes seqs + bytes others := by
  simp [bytes]

theorem length_setSequences_le (s : CharSet) : (setSequences s).length ≤ width s.ranges := by
  rw [setSequences]
  induction s.ranges with
  | nil => exact Nat.zero_le _
  | cons r rs ih =>
      rw [List.flatMap_cons, List.length_append, CharSet.width_cons]
      exact Nat.add_le_add (length_sequences_le 32 r.1 r.2) ih

theorem bytes_le_of_forall (h : ∀ s ∈ seqs, s.length ≤ n) : bytes seqs ≤ n * seqs.length := by
  induction seqs with
  | nil => exact Nat.zero_le _
  | cons s seqs ih =>
      have hs := h s List.mem_cons_self
      have hrest := ih (fun t ht => h t (List.mem_cons_of_mem s ht))
      rw [bytes_cons, List.length_cons, Nat.mul_succ]
      omega

theorem bytes_setSequences_le (s : CharSet) : bytes (setSequences s) ≤ 4 * width s.ranges := by
  have hshort : ∀ t ∈ setSequences s, t.length ≤ 4 := by
    intro t ht
    obtain ⟨r, -, ht⟩ := List.mem_flatMap.1 ht
    exact length_of_mem_sequences ht
  have hbytes := bytes_le_of_forall hshort
  have hlength := length_setSequences_le s
  omega

theorem beginnings_le (before : List ByteRange) (seqs : List (List ByteRange)) :
    beginnings before seqs ≤ bytes seqs := by
  induction seqs generalizing before with
  | nil => exact Nat.le_refl _
  | cons s seqs ih =>
      have hrest := ih s
      rw [beginnings, bytes_cons]
      omega

/-! ## Machines that share states -/

/-- The size of a state with given transitions. -/
def weight (transitions : List (Nat × Nat × Nat)) : Nat :=
  stateUnits + transitionUnits * transitions.length

/-- The states weigh at most `n`: they are among some that do. -/
def Bounded (nodes : Nodes) (n : Nat) : Prop :=
  ∃ ts : List (List (Nat × Nat × Nat)), (∀ t ∈ nodes, t ∈ ts) ∧ (ts.map weight).sum ≤ n

namespace Bounded

theorem empty : Bounded {} 0 := ⟨[], fun _ h => absurd h Std.HashMap.not_mem_empty, Nat.le_refl 0⟩

theorem mono (h : Bounded nodes m) (hmn : m ≤ n) : Bounded nodes n := by
  obtain ⟨ts, hts, hsum⟩ := h
  exact ⟨ts, hts, Nat.le_trans hsum hmn⟩

theorem insert (h : Bounded nodes n) (t : List (Nat × Nat × Nat)) (id : Nat) :
    Bounded (nodes.insert t id) (n + weight t) := by
  obtain ⟨ts, hts, hsum⟩ := h
  refine ⟨t :: ts, ?_, ?_⟩
  · intro u hu
    rcases Std.HashMap.mem_insert.1 hu with heq | hu
    · rw [← beq_iff_eq.1 heq]
      exact List.mem_cons_self
    · exact List.mem_cons_of_mem t (hts u hu)
  · rw [List.map_cons, List.sum_cons]
    omega

theorem fold_le (h : Bounded nodes n) :
    nodes.fold (fun k transitions _ => k + stateUnits + transitionUnits * transitions.length)
      stateUnits ≤ stateUnits + n := by
  obtain ⟨ts, hts, hsum⟩ := h
  have hfold : ∀ (l : List (List (Nat × Nat × Nat) × Nat)) (k : Nat),
      l.foldl (fun k t => k + stateUnits + transitionUnits * t.1.length) k =
        k + ((l.map Prod.fst).map weight).sum := by
    intro l
    induction l with
    | nil => exact fun k => rfl
    | cons t l ih =>
        intro k
        rw [List.foldl_cons, ih, List.map_cons, List.map_cons, List.sum_cons, weight]
        omega
  rw [Std.HashMap.fold_eq_foldl_toList, hfold, Std.HashMap.map_fst_toList_eq_keys]
  have hkeys : nodes.keys.Subperm ts := by
    apply Std.HashMap.nodup_keys.subperm
    exact fun t ht => hts t (Std.HashMap.mem_keys.1 ht)
  have hsub : (nodes.keys.map weight).sum ≤ (ts.map weight).sum := by
    obtain ⟨l, hperm, hl⟩ := hkeys
    rw [← (hperm.map weight).sum_nat]
    exact (hl.map weight).sum_le_sum (fun _ _ => Nat.zero_le _)
  omega

end Bounded

/-- The first sequence of a group is not at its end. -/
def goesOn : List (List ByteRange) → Bool
  | (_ :: _) :: _ => true
  | _ => false

/-- Adds the states behind one group of sequences and the transition to them. -/
def addGroup (depth : Nat) (acc : List (Nat × Nat × Nat) × Nodes) (g : List (List ByteRange)) :
    List (Nat × Nat × Nat) × Nodes :=
  match g with
  | (r :: _) :: _ =>
    let (id, nodes) := addNode depth (g.map (·.drop 1)) acc.2
    ((r.1, r.2, id) :: acc.1, nodes)
  | _ => acc

theorem addNode_succ (depth : Nat) (seqs : List (List ByteRange)) (nodes : Nodes) :
    addNode (depth + 1) seqs nodes =
      if seqs.all (·.isEmpty) then (0, nodes)
      else
        let acc := (seqs.splitBy (fun s t => s.head? == t.head?)).foldl (addGroup depth) ([], nodes)
        match acc.2[acc.1]? with
        | some id => (id, acc.2)
        | none => (acc.2.size + 1, acc.2.insert acc.1 (acc.2.size + 1)) := rfl

theorem addGroup_of_goesOn {g : List (List ByteRange)} (hg : goesOn g = true) (depth : Nat)
    (acc : List (Nat × Nat × Nat) × Nodes) :
    ∃ t, addGroup depth acc g = (t :: acc.1, (addNode depth (g.map (·.drop 1)) acc.2).2) := by
  unfold goesOn at hg
  split at hg
  · exact ⟨_, rfl⟩
  · cases hg

theorem addGroup_of_not_goesOn {g : List (List ByteRange)} (hg : ¬ goesOn g = true)
    (acc : List (Nat × Nat × Nat) × Nodes) : addGroup depth acc g = acc := by
  unfold goesOn at hg
  split at hg
  · exact absurd rfl hg
  · rename_i hg
    unfold addGroup
    split
    · rename_i r s rest
      exact absurd rfl (hg r s rest)
    · rfl

/-- The byte ranges of the groups that go on, without the first one of each sequence. -/
def behind (groups : List (List (List ByteRange))) : Nat :=
  ((groups.filter goesOn).map (fun g => bytes (g.map (·.drop 1)))).sum

theorem bytes_drop_le (g : List (List ByteRange)) : bytes (g.map (·.drop 1)) ≤ bytes g := by
  induction g with
  | nil => exact Nat.le_refl _
  | cons s g ih =>
      rw [List.map_cons, bytes_cons, bytes_cons, List.length_drop]
      omega

theorem bytes_drop_lt {g : List (List ByteRange)} (hg : goesOn g = true) :
    bytes (g.map (·.drop 1)) < bytes g := by
  unfold goesOn at hg
  split at hg
  · rename_i r s rest
    have hrest := bytes_drop_le rest
    rw [List.map_cons, bytes_cons, bytes_cons, List.drop_one, List.tail_cons, List.length_cons]
    omega
  · cases hg

theorem behind_add_le (groups : List (List (List ByteRange))) :
    behind groups + (groups.filter goesOn).length ≤ bytes groups.flatten := by
  induction groups with
  | nil => exact Nat.le_refl _
  | cons g groups ih =>
      unfold behind at ih ⊢
      rw [List.flatten_cons, bytes_append]
      by_cases hg : goesOn g = true
      · have hlt := bytes_drop_lt hg
        rw [List.filter_cons_of_pos hg, List.map_cons, List.sum_cons, List.length_cons]
        omega
      · rw [List.filter_cons_of_neg hg]
        omega

/-- Each group costs what is behind it, and gives one transition if it goes on. -/
theorem foldl_addGroup
    (ih : ∀ (seqs : List (List ByteRange)) (nodes : Nodes) (n : Nat), Bounded nodes n →
      Bounded (addNode depth seqs nodes).2 (n + 40 * bytes seqs))
    (groups : List (List (List ByteRange))) (acc : List (Nat × Nat × Nat) × Nodes) (n : Nat)
    (hacc : Bounded acc.2 n) :
    (groups.foldl (addGroup depth) acc).1.length =
        acc.1.length + (groups.filter goesOn).length ∧
      Bounded (groups.foldl (addGroup depth) acc).2 (n + 40 * behind groups) := by
  induction groups generalizing acc n with
  | nil => exact ⟨rfl, hacc⟩
  | cons g groups ihgroups =>
      rw [List.foldl_cons]
      by_cases hg : goesOn g = true
      · obtain ⟨t, ht⟩ := addGroup_of_goesOn hg depth acc
        have hstep : Bounded (addGroup depth acc g).2 (n + 40 * bytes (g.map (·.drop 1))) := by
          rw [ht]
          exact ih _ _ _ hacc
        obtain ⟨hlen, hnodes⟩ := ihgroups _ _ hstep
        have hbehind : behind (g :: groups) = bytes (g.map (·.drop 1)) + behind groups := by
          rw [behind, List.filter_cons_of_pos hg, List.map_cons, List.sum_cons, behind]
        refine ⟨?_, hnodes.mono ?_⟩
        · rw [hlen, ht, List.filter_cons_of_pos hg, List.length_cons, List.length_cons]
          omega
        · rw [hbehind]
          omega
      · rw [addGroup_of_not_goesOn hg, List.filter_cons_of_neg hg, behind,
          List.filter_cons_of_neg hg]
        exact ihgroups acc n hacc

theorem bounded_addNode (depth : Nat) (seqs : List (List ByteRange)) (nodes : Nodes) (n : Nat)
    (h : Bounded nodes n) : Bounded (addNode depth seqs nodes).2 (n + 40 * bytes seqs) := by
  induction depth generalizing seqs nodes n with
  | zero => exact h.mono (Nat.le_add_right _ _)
  | succ depth ih =>
      rw [addNode_succ]
      split
      · exact h.mono (Nat.le_add_right _ _)
      · rename_i hall
        have hpos : 0 < bytes seqs := by
          rw [List.all_eq_true] at hall
          rw [bytes, Nat.pos_iff_ne_zero, Ne, List.sum_eq_zero_iff_forall_eq_nat]
          intro hzero
          apply hall
          intro s hs
          rw [List.isEmpty_iff_length_eq_zero]
          exact hzero _ (List.mem_map_of_mem hs)
        have hgroups := List.flatten_splitBy (fun s t : List ByteRange => s.head? == t.head?) seqs
        generalize seqs.splitBy (fun s t => s.head? == t.head?) = groups at hgroups ⊢
        obtain ⟨hlen, hnodes⟩ := foldl_addGroup ih groups ([], nodes) n h
        have hcost := behind_add_le groups
        rw [hgroups] at hcost
        have hweight : 40 * behind groups + weight (groups.foldl (addGroup depth) ([], nodes)).1 ≤
            40 * bytes seqs := by
          rw [weight, hlen, stateUnits, transitionUnits, List.length_nil, Nat.zero_add]
          rcases Nat.eq_zero_or_pos (groups.filter goesOn).length with hzero | hmany
          · have hnone : behind groups = 0 := by
              rw [behind, List.length_eq_zero_iff.1 hzero]
              rfl
            omega
          · omega
        dsimp only
        split
        · exact hnodes.mono (by omega)
        · exact (hnodes.insert _ _).mono (by omega)

theorem forward_le (seqs : List (List ByteRange)) :
    forward seqs ≤ stateUnits + 40 * bytes seqs := by
  have h := (bounded_addNode 5 seqs {} 0 .empty).fold_le
  rwa [Nat.zero_add] at h

theorem backward_le (seqs : List (List ByteRange)) :
    backward seqs ≤ 2 * stateUnits + branchUnits * seqs.length + stateUnits * bytes seqs :=
  Nat.add_le_add_left (Nat.mul_le_mul_left _ (beginnings_le [] seqs)) _

/-! ## Classes -/

theorem ofSet_le (reversed : Bool) (s : CharSet) :
    ofSet reversed s ≤ 128 + 8 * s.ranges.length + 160 * width s.ranges := by
  have hlength := length_setSequences_le s
  have hbytes := bytes_setSequences_le s
  unfold ofSet
  split
  · rename_i n hn
    have hutf8 := length_utf8_le n
    rw [stateUnits]
    omega
  · rw [stateUnits, transitionUnits]
    split
    · omega
    · split
      · omega
      · split
        · have hback := backward_le (setSequences s)
          rw [stateUnits, branchUnits] at hback
          omega
        · have hforward := forward_le (setSequences s)
          rw [stateUnits] at hforward
          omega

theorem ofSet_folded_le (reversed : Bool) (c : Char) :
    ofSet reversed (.folded c) ≤ 20000 := by
  have hset := ofSet_le reversed (.folded c)
  have hlength := CharSet.length_folded_le c
  have hwidth := CharSet.width_folded_le c
  omega

end PhraseMark.Pattern.Size
