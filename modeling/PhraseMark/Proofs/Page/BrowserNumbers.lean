import PhraseMark.Proofs.Page.Loading

/-!
# Browser numbers on a loaded page

A page keeps the number that the browser gave to a node modulo `UInt32.size`. Of nodes whose numbers
agree modulo `UInt32.size` the index leads to the last one only, though their numbers may differ.
-/

namespace PhraseMark

namespace Snapshot

variable {j : Json} {maxDepth i n : Nat}

theorem getElem?_filterMap_of_forall {α β : Type} {f : α → Option β} {l : List α}
    (h : ∀ a ∈ l, ∃ b, f a = some b) (i : Nat) : (l.filterMap f)[i]? = l[i]?.bind f := by
  induction l generalizing i with
  | nil => rfl
  | cons a l ih =>
      obtain ⟨b, hb⟩ := h a List.mem_cons_self
      rw [List.filterMap_cons_some hb]
      cases i with
      | zero => rw [List.getElem?_cons_zero, List.getElem?_cons_zero, Option.bind_some, hb]
      | succ i =>
          rw [List.getElem?_cons_succ, List.getElem?_cons_succ]
          exact ih (fun c hc => h c (List.mem_cons_of_mem a hc)) i

/-- The numbers that the browser gave to the nodes of a snapshot, in document order. -/
def numbers (top : Json) : List Nat := (walk 0 top).filterMap (fun entry => backendNumber? entry.2)

theorem getElem?_numbers (h : ∀ entry ∈ walk 0 j, Sound maxDepth entry.1 entry.2) :
    (numbers j)[i]? = some n ↔
      ∃ d k, (walk 0 j)[i]? = some (d, k) ∧ backendNumber? k = some n := by
  rw [numbers, getElem?_filterMap_of_forall (fun entry hentry => (h entry hentry).2.1),
    Option.bind_eq_some_iff]
  simp only [Prod.exists]

end Snapshot

namespace Page

open Snapshot

variable {p q : Page} {b : BackendId} {i id maxDepth : Nat} {snapshot top : Json}

theorem find?_reverse_range {f : Nat → Bool} {n : Nat} :
    (List.range n).reverse.find? f = some i ↔
      i < n ∧ f i = true ∧ ∀ k, i < k → k < n → f k = false := by
  induction n with
  | zero => simp
  | succ n ih =>
      rw [List.range_succ, List.reverse_append, List.reverse_singleton, List.singleton_append,
        List.find?_cons]
      cases hn : f n with
      | true =>
          constructor
          · intro h
            rw [Option.some.injEq] at h
            subst h
            exact ⟨Nat.lt_succ_self n, hn, fun k hlt hk => by omega⟩
          · rintro ⟨hi, -, hlast⟩
            by_contra hne
            have hlt : i < n :=
              Nat.lt_of_le_of_ne (Nat.le_of_lt_succ hi) (fun h => hne (congrArg some h.symm))
            rw [hlast n hlt (Nat.lt_succ_self n)] at hn
            cases hn
      | false =>
          rw [ih]
          constructor
          · rintro ⟨hi, hf, hlast⟩
            refine ⟨Nat.lt_succ_of_lt hi, hf, fun k hlt hk => ?_⟩
            rcases Nat.lt_succ_iff_lt_or_eq.1 hk with hk | rfl
            · exact hlast k hlt hk
            · exact hn
          · rintro ⟨hi, hf, hlast⟩
            refine ⟨?_, hf, fun k hlt hk => hlast k hlt (Nat.lt_succ_of_lt hk)⟩
            rcases Nat.lt_succ_iff_lt_or_eq.1 hi with hi | rfl
            · exact hi
            · rw [hn] at hf
              cases hf

theorem lastWithBackend_eq_some_iff : p.lastWithBackend b = some i ↔
    i < p.size ∧ (p.node i).backendId = some b ∧
      ∀ k, i < k → k < p.size → (p.node k).backendId ≠ some b := by
  rw [lastWithBackend, find?_reverse_range]
  simp only [beq_iff_eq, beq_eq_false_iff_ne]

theorem backendId_ofNat_eq_iff {m n : Nat} :
    (UInt32.ofNat m = UInt32.ofNat n) ↔ m % UInt32.size = n % UInt32.size := by
  rw [← UInt32.toNat_inj, UInt32.toNat_ofNat', UInt32.toNat_ofNat']

/-! ## Numbers of a loaded page -/

/-- The nodes of a page have the numbers of a list, as far as the page keeps them. -/
structure KeepsNumbers (q : Page) (ns : List Nat) : Prop where
  anchored : q.Anchored
  size : q.size = ns.length
  backendId : ∀ (i n : Nat), ns[i]? = some n → (q.node i).backendId = some (.ofNat n)

namespace KeepsNumbers

variable {ns : List Nat} {n : Nat} (h : q.KeepsNumbers ns)

include h

theorem exists_number (hi : i < q.size) : ∃ n, ns[i]? = some n :=
  ⟨_, List.getElem?_eq_getElem (h.size ▸ hi)⟩

/-- A node is found under its number unless a later one hides it. -/
theorem ofBackend?_eq_some_iff (hn : ns[i]? = some n) :
    q.ofBackend? (.ofNat n) = some i ↔
      ∀ k m : Nat, i < k → ns[k]? = some m → m % UInt32.size ≠ n % UInt32.size := by
  have hi : i < q.size := h.size ▸ (List.getElem?_eq_some_iff.1 hn).1
  rw [h.anchored.ofBackend?_eq, lastWithBackend_eq_some_iff]
  constructor
  · rintro ⟨-, -, hlast⟩ k m hlt hm heq
    refine hlast k hlt (h.size ▸ (List.getElem?_eq_some_iff.1 hm).1) ?_
    rw [h.backendId k m hm, backendId_ofNat_eq_iff.2 heq]
  · intro hlast
    refine ⟨hi, h.backendId i n hn, fun k hlt hk heq => ?_⟩
    obtain ⟨m, hm⟩ := h.exists_number hk
    rw [h.backendId k m hm, Option.some.injEq, backendId_ofNat_eq_iff] at heq
    exact hlast k m hlt hm heq

theorem all_found_iff :
    (∀ i < q.size, ∀ b, (q.node i).backendId = some b → q.ofBackend? b = some i) ↔
      (ns.map (· % UInt32.size)).Nodup := by
  rw [List.nodup_iff_getElem?_ne_getElem?]
  constructor
  · intro hall i k hlt hk heq
    rw [List.length_map] at hk
    obtain ⟨m, hm⟩ := h.exists_number (h.size ▸ hk)
    obtain ⟨n, hn⟩ := h.exists_number (h.size ▸ Nat.lt_trans hlt hk)
    have hfound := hall i (h.size ▸ Nat.lt_trans hlt hk) _ (h.backendId i n hn)
    rw [List.getElem?_map, List.getElem?_map, hm, hn, Option.map_some, Option.map_some,
      Option.some.injEq] at heq
    exact (h.ofBackend?_eq_some_iff hn).1 hfound k m hlt hm heq.symm
  · intro hnodup i hi b hb
    obtain ⟨n, hn⟩ := h.exists_number hi
    rw [h.backendId i n hn, Option.some.injEq] at hb
    subst hb
    refine (h.ofBackend?_eq_some_iff hn).2 (fun k m hlt hm heq => ?_)
    have hk : k < (ns.map (· % UInt32.size)).length := by
      rw [List.length_map]
      exact (List.getElem?_eq_some_iff.1 hm).1
    apply hnodup i k hlt hk
    rw [List.getElem?_map, List.getElem?_map, hm, hn, Option.map_some, Option.map_some, heq]

end KeepsNumbers

theorem nodup_mod_of_lt {ns : List Nat} (hnodup : ns.Nodup) (hlt : ∀ n ∈ ns, n < UInt32.size) :
    (ns.map (· % UInt32.size)).Nodup := by
  have hsame : ns.map (· % UInt32.size) = ns := by
    rw [List.map_congr_left (fun n hn => Nat.mod_eq_of_lt (hlt n hn)), List.map_id']
  rwa [hsame]

theorem Holds.keepsNumbers (h : q.Holds top)
    (hsound : ∀ entry ∈ walk 0 top, Sound maxDepth entry.1 entry.2) :
    q.KeepsNumbers (numbers top) where
  anchored := h.consistent.toAnchored
  size := by
    rw [h.size, numbers, eq_comm, List.filterMap_length_eq_length]
    intro entry hentry
    exact Option.isSome_iff_exists.2 (hsound entry hentry).2.1
  backendId := by
    intro i n hn
    obtain ⟨d, k, hk, hnumber⟩ := (getElem?_numbers hsound).1 hn
    obtain ⟨m, hm, hbackend⟩ := (h.carries i d k hk).backendId
    rw [hnumber, Option.some.injEq] at hm
    rw [hbackend, hm]

theorem keepsNumbers_of_load (hload : p.load maxDepth snapshot = (q, .ok id))
    (hroot : snapshot.get? "root" = some top) : q.KeepsNumbers (numbers top) := by
  obtain ⟨top', hroot', hsound, hholds⟩ := holds_of_load hload
  rw [hroot, Option.some.injEq] at hroot'
  subst hroot'
  exact hholds.keepsNumbers hsound

/-- The nodes of a loaded page keep the numbers of the snapshot modulo `UInt32.size`. The index
leads from such a number to the last node that has it, so a node is found under the number it keeps
unless the number of a later node differs from its own by a multiple of `UInt32.size`. All nodes are
found just if this is so for no two of them, as when their numbers are different and small
enough. -/
theorem load_numbers (hload : p.load maxDepth snapshot = (q, .ok id))
    (hroot : snapshot.get? "root" = some top) :
    q.size = (numbers top).length ∧
      (∀ i n : Nat, (numbers top)[i]? = some n →
        (q.node i).backendId = some (.ofNat n) ∧
          (q.ofBackend? (.ofNat n) = some i ↔
            ∀ k m : Nat, i < k → (numbers top)[k]? = some m → m % UInt32.size ≠ n % UInt32.size)) ∧
        ((∀ i < q.size, ∀ b, (q.node i).backendId = some b → q.ofBackend? b = some i) ↔
          ((numbers top).map (· % UInt32.size)).Nodup) ∧
          ((numbers top).Nodup → (∀ n ∈ numbers top, n < UInt32.size) →
            ∀ i < q.size, ∀ b, (q.node i).backendId = some b → q.ofBackend? b = some i) := by
  have hkeeps := keepsNumbers_of_load hload hroot
  refine ⟨hkeeps.size, ?_, hkeeps.all_found_iff, ?_⟩
  · intro i n hn
    exact ⟨hkeeps.backendId i n hn, hkeeps.ofBackend?_eq_some_iff hn⟩
  · intro hnodup hlt
    exact hkeeps.all_found_iff.2 (nodup_mod_of_lt hnodup hlt)

/-- A document with a paragraph; the number of the one is that of the other and `UInt32.size`. -/
def twinTop : Json :=
  .object [("backendNodeId", .natural 1), ("nodeType", .natural 9), ("children", .array
    [.object [("backendNodeId", .natural 4294967297), ("nodeType", .natural 1),
      ("nodeName", .string "p")]])]

theorem numbers_twinTop : numbers twinTop = [1, 4294967297] := by
  simp [numbers, walk_eq, childrenOf, twinTop, backendNumber?, Json.get?, Json.items?, Json.nat?]

theorem load_numbers_twinTop :
    ∃ q : Page, empty.load 512 (.object [("root", twinTop)]) = (q, .ok 0) ∧
      (q.node 1).backendId = some 1 ∧ q.ofBackend? 1 = some 1 := by
  have hload : empty.load 512 (.object [("root", twinTop)]) =
      ((empty.load 512 (.object [("root", twinTop)])).1, .ok 0) :=
    Prod.ext rfl (by decide)
  have hroot : (Json.object [("root", twinTop)]).get? "root" = some twinTop := by
    simp [Json.get?]
  obtain ⟨-, hnodes, -⟩ := load_numbers hload hroot
  obtain ⟨hbackend, hfound⟩ := hnodes 1 4294967297 (by rw [numbers_twinTop]; rfl)
  refine ⟨_, hload, hbackend, hfound.2 (fun k m hlt hm => ?_)⟩
  -- no node comes after the paragraph
  rw [numbers_twinTop] at hm
  have hk := (List.getElem?_eq_some_iff.1 hm).1
  rw [List.length_cons, List.length_singleton] at hk
  omega

/-- The numbers differ, but the document is not found under the number it keeps. -/
theorem twinTop_hidden :
    (numbers twinTop).Nodup ∧
      (empty.load 512 (.object [("root", twinTop)])).2 = .ok 0 ∧
        ((empty.load 512 (.object [("root", twinTop)])).1.node 0).backendId = some 1 ∧
          (empty.load 512 (.object [("root", twinTop)])).1.ofBackend? 1 = some 1 := by
  rw [numbers_twinTop]
  decide

end Page

end PhraseMark
