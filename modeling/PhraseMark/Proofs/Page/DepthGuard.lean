import PhraseMark.Proofs.Json.Brackets
import PhraseMark.Proofs.Json.Spellings
import PhraseMark.Proofs.Page.Loading

/-!
# The depth of a snapshot that is given as a text

A node that hangs below another one costs two brackets, one of the list of children and one of its
own, and the brackets of a text are nested at most `Json.Reader.maxDepth` deep, with one pair around
the whole. So no node of a text lies below level 63, and on level 63 there is room only for what
costs no bracket of its own. A chain with a number on that level reaches it.
-/

namespace PhraseMark

namespace Snapshot

variable {j c k : Json} {d depth maxDepth brackets limit : Nat}

theorem nested_of_mem_childrenOf (h : j.Nested brackets) (hc : c ∈ childrenOf j) :
    ∃ inner, brackets = inner + 2 ∧ c.Nested inner := by
  rw [childrenOf] at hc
  cases hget : j.get? "children" with
  | none =>
      rw [hget] at hc
      cases hc
  | some v =>
      rw [hget] at hc
      cases v with
      | array items =>
          obtain ⟨list, rfl, hitems⟩ := h.get? hget
          obtain ⟨inner, rfl, hinner⟩ := hitems.of_mem_items hc
          exact ⟨inner, rfl, hinner⟩
      | _ => cases hc

/-- Every step down in a snapshot takes two brackets. -/
theorem two_mul_le_of_mem_walk (h : j.Nested brackets) (hk : (d, k) ∈ walk depth j) :
    2 * d ≤ 2 * depth + brackets := by
  induction j using induct generalizing depth brackets with
  | step j ih =>
      rw [walk_eq] at hk
      rcases List.mem_cons.1 hk with heq | hk
      · rw [Prod.mk.injEq] at heq
        omega
      · obtain ⟨c, hc, hk⟩ := List.mem_flatMap.1 hk
        obtain ⟨inner, rfl, hinner⟩ := nested_of_mem_childrenOf h hc
        have hle := ih c hc hinner hk
        omega

theorem lt_of_defect?_tooDeep (h : defect? maxDepth depth j = some (.tooDeep d limit)) :
    maxDepth < depth := by
  unfold defect? at h
  split at h
  · assumption
  · split at h
    · cases h
    · cases h
    · split at h <;> cases h

theorem exists_lt_of_firstDefect?_tooDeep {entries : List (Nat × Json)}
    (h : firstDefect? maxDepth entries = some (.tooDeep d limit)) :
    ∃ entry ∈ entries, maxDepth < entry.1 := by
  obtain ⟨entry, hentry, hdefect⟩ := List.exists_of_findSome?_eq_some h
  exact ⟨entry, hentry, lt_of_defect?_tooDeep hdefect⟩

/-! ## Chains -/

/-- An element with one node below it, and so on for some levels. What stands lowest is a number. -/
def chain : Nat → Json
  | 0 => .natural 1
  | levels + 1 =>
    .object [("backendNodeId", .natural 1), ("nodeType", .natural 1),
      ("children", .array [chain levels])]

theorem sound_chain {levels : Nat} (h : depth ≤ maxDepth) :
    Sound maxDepth depth (chain (levels + 1)) :=
  ⟨h, ⟨1, by simp [backendNumber?, chain, Json.get?, Json.nat?]⟩,
    1, by simp [kindNumber?, chain, Json.get?, Json.nat?], Nat.le_refl 1, by decide⟩

theorem childrenOf_chain (levels : Nat) : childrenOf (chain (levels + 1)) = [chain levels] := by
  simp [childrenOf, chain, Json.get?, Json.items?]

/-- A chain that goes below the last level that may be read is refused there. -/
theorem firstDefect?_chain {levels : Nat} (hdepth : depth ≤ maxDepth + 1)
    (hlevels : maxDepth < depth + levels) :
    firstDefect? maxDepth (walk depth (chain levels)) =
      some (.tooDeep (maxDepth + 1) maxDepth) := by
  induction levels generalizing depth with
  | zero =>
      have hlast : depth = maxDepth + 1 := by omega
      rw [walk_eq, firstDefect?, List.findSome?_cons, defect?, if_pos (by omega), hlast]
  | succ levels ih =>
      rw [walk_eq, firstDefect?, List.findSome?_cons]
      rcases Nat.eq_or_lt_of_le hdepth with hlast | hlt
      · rw [defect?, if_pos (by omega), hlast]
      · have hsound : defect? maxDepth depth (chain (levels + 1)) = none :=
          defect?_eq_none_iff.2 (sound_chain (Nat.le_of_lt_succ hlt))
        rw [hsound, childrenOf_chain, List.flatMap_singleton]
        exact ih hlt (by omega)

/-! ## Texts of chains -/

open Json.Reader

/-- The text of a chain, before some other text. -/
def chainText : Nat → List Char → List Char
  | 0, cs => '1' :: cs
  | levels + 1, cs =>
    '{' :: quoted "backendNodeId" (':' :: '1' :: ',' :: quoted "nodeType" (':' :: '1' :: ',' ::
      quoted "children" (':' :: '[' :: chainText levels (']' :: '}' :: cs))))

theorem chainText_eq_cons (levels : Nat) (cs : List Char) :
    ∃ c more, chainText levels cs = c :: more ∧ isGap c = false ∧ c ≠ ']' := by
  cases levels with
  | zero => exact ⟨_, _, rfl, by decide, by decide⟩
  | succ levels => exact ⟨_, _, rfl, by decide, by decide⟩

theorem le_length_chainText (levels : Nat) (cs : List Char) :
    6 * levels + cs.length < (chainText levels cs).length := by
  induction levels generalizing cs with
  | zero =>
      rw [chainText, List.length_cons]
      omega
  | succ levels ih =>
      have hlen := ih (']' :: '}' :: cs)
      simp only [chainText, quoted, List.length_cons, List.length_append] at hlen ⊢
      omega

theorem isPlain_names : ∀ name ∈ ["backendNodeId", "nodeType", "children", "root"],
    ∀ c ∈ name.toList, IsPlain c := by
  have hall : ∀ name ∈ ["backendNodeId", "nodeType", "children", "root"],
      name.toList.all (fun c => decide (IsPlain c)) = true := by
    decide
  intro name hname c hc
  exact of_decide_eq_true (List.all_eq_true.1 (hall name hname) c hc)

/-- A reader that allows two brackets for each level reads a chain. -/
theorem readValue_chainText {levels depth fuel : Nat} {c : Char} (hdepth : 2 * levels ≤ depth)
    (hfuel : 6 * levels < fuel) (hc : c ∈ [',', ']', '}']) (cs : List Char) :
    readValue fuel depth .whole (chainText levels (c :: cs)) = some (chain levels, c :: cs) := by
  induction levels generalizing depth fuel c cs with
  | zero =>
      obtain ⟨fuel, rfl⟩ := Nat.exists_eq_succ_of_ne_zero (n := fuel) (by omega)
      exact readValue_one hc
  | succ levels ih =>
      obtain ⟨fuel, rfl⟩ := Nat.exists_eq_add_of_le' (show 6 ≤ fuel by omega)
      obtain ⟨depth, rfl⟩ := Nat.exists_eq_add_of_le' (show 2 ≤ depth by omega)
      have hchild := @ih depth fuel ']' (by omega) (by omega) (by decide) ('}' :: c :: cs)
      have hlist : readValue (fuel + 2) (depth + 1) .whole
          ('[' :: chainText levels (']' :: '}' :: c :: cs)) =
            some (.array [chain levels], '}' :: c :: cs) := by
        obtain ⟨d, more, hmore, hgap, hne⟩ := chainText_eq_cons levels (']' :: '}' :: c :: cs)
        rw [hmore] at hchild ⊢
        exact readValue_single hgap hne hchild
      have hchildren := readMembers_last (isPlain_names "children" (by decide)) hlist
      have hkind := readMembers_cons (isPlain_names "nodeType" (by decide))
        (readValue_one (by decide)) hchildren
      have hbackend := readMembers_cons (isPlain_names "backendNodeId" (by decide))
        (readValue_one (by decide)) hkind
      exact readValue_object hbackend

/-- The text of a snapshot that is a chain. -/
def snapshotText (levels : Nat) : String :=
  .ofList ('{' :: quoted "root" (':' :: chainText levels ['}']))

theorem parse?_snapshotText {levels : Nat} (h : 2 * levels < Json.Reader.maxDepth) :
    Json.parse? (snapshotText levels) = some (.object [("root", chain levels)]) := by
  obtain ⟨depth, hdepth⟩ : ∃ depth, Json.Reader.maxDepth = depth + 1 := ⟨126, rfl⟩
  have hlong : 6 * levels < ('{' :: quoted "root" (':' :: chainText levels ['}'])).length := by
    have hlen := le_length_chainText levels ['}']
    simp only [quoted, List.length_cons, List.length_append] at hlen ⊢
    omega
  rw [Json.parse?, Json.ofText?, snapshotText, String.toList_ofList]
  generalize htext : '{' :: quoted "root" (':' :: chainText levels ['}']) = text at hlong ⊢
  obtain ⟨fuel, hfuel⟩ := Nat.exists_eq_add_of_le' (show 2 ≤ 2 * (text.length + 1) by omega)
  have hread : readValue (2 * (text.length + 1)) Json.Reader.maxDepth .whole text =
      some (.object [("root", chain levels)], []) := by
    rw [hfuel, hdepth, ← htext]
    apply readValue_object
    apply readMembers_last (isPlain_names "root" (by decide))
    exact readValue_chainText (by omega) (by omega) (by decide) []
  simp only [hread]
  rfl

end Snapshot

namespace Page

open Snapshot

variable {p : Page} {snapshot top : Json} {d maxDepth limit : Nat}

theorem exists_lt_of_load_tooDeep (h : (p.load maxDepth snapshot).2 = .error (.tooDeep d limit)) :
    ∃ top, snapshot.get? "root" = some top ∧ ∃ entry ∈ walk 0 top, maxDepth < entry.1 := by
  cases hroot : snapshot.get? "root" with
  | none =>
      rw [load_of_get?_eq_none hroot] at h
      cases h
  | some top =>
      refine ⟨top, rfl, ?_⟩
      cases hdefect : firstDefect? maxDepth (walk 0 top) with
      | none =>
          obtain ⟨q, -, hload⟩ := load_of_sound hroot (firstDefect?_eq_none_iff.1 hdefect)
          rw [hload p] at h
          cases h
      | some e =>
          rw [load_of_defect hroot hdefect p, Except.error.injEq] at h
          exact exists_lt_of_firstDefect?_tooDeep (h ▸ hdefect)

/-- A text that is read has no node deeper than level 63. -/
theorem lt_of_loadText_tooDeep {text : String}
    (h : (p.loadText maxDepth text).2 = .error (.tooDeep d limit)) : maxDepth < 63 := by
  unfold loadText at h
  split at h
  · cases h
  · rename_i snapshot hparse
    obtain ⟨top, hroot, entry, hentry, hlt⟩ := exists_lt_of_load_tooDeep h
    obtain ⟨inner, hinner, hnested⟩ := (Json.nested_of_ofText? hparse).get? hroot
    have hle := two_mul_le_of_mem_walk hnested hentry
    rw [Json.Reader.maxDepth] at hinner
    omega

theorem loadText_snapshotText (p : Page) (h : maxDepth < 63) :
    (p.loadText maxDepth (snapshotText 63)).2 = .error (.tooDeep (maxDepth + 1) maxDepth) := by
  have hroot : (Json.object [("root", chain 63)]).get? "root" = some (chain 63) := by
    simp [Json.get?]
  rw [loadText, parse?_snapshotText (by decide)]
  exact load_of_defect hroot (firstDefect?_chain (Nat.zero_le _) (by omega)) p

/-- No text is refused because its nodes lie too deep, just if 63 levels may be read below the first
one: the reader of JSON refuses such a text before. -/
theorem loadText_ne_tooDeep_iff (maxDepth : Nat) :
    (∀ (p : Page) (text : String) (depth limit : Nat),
      (p.loadText maxDepth text).2 ≠ .error (.tooDeep depth limit)) ↔ 63 ≤ maxDepth := by
  constructor
  · intro hnever
    by_contra hlt
    exact hnever empty _ _ _ (loadText_snapshotText empty (Nat.not_le.1 hlt))
  · intro hle p text depth limit h
    exact absurd (lt_of_loadText_tooDeep h) (Nat.not_lt.2 hle)

example (text : String) (depth limit : Nat) :
    (p.loadText defaultMaxDepth text).2 ≠ .error (.tooDeep depth limit) :=
  fun h => absurd (lt_of_loadText_tooDeep h) (by decide)

end Page

end PhraseMark
