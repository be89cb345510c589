import Mathlib.Order.Bounds.Defs
import PhraseMark.Channel.Bus

/-!
# What a bus keeps

A bus keeps the last of all messages that were published, as many as its capacity allows. So what a
receiver is told next depends on nothing but what was published since it subscribed, how much of it
the receiver was told of, and whether the bus is open.
-/

namespace PhraseMark

variable {α : Type} {m : α}

/-- An answer to a receiver that was told of the first `told` of the messages `sent` since it
subscribed, by a bus that keeps the last `kept` messages. -/
inductive AccountsFor (kept : Nat) (sent : List α) (isOpen : Prop) (told : Nat) : Reception α → Prop
  /-- The next message, which is kept. -/
  | message (m : α) : sent[told]? = some m → sent.length ≤ told + kept →
      AccountsFor kept sent isOpen told (.message m)
  /-- All messages that are not kept and of which the receiver was not told; there are some. -/
  | lagged (missed : Nat) : 0 < missed → told + missed + kept = sent.length →
      AccountsFor kept sent isOpen told (.lagged missed)
  | empty : told = sent.length → isOpen → AccountsFor kept sent isOpen told .empty
  | closed : told = sent.length → ¬ isOpen → AccountsFor kept sent isOpen told .closed

namespace AccountsFor

variable {kept told : Nat} {sent : List α} {isOpen : Prop} {answer other : Reception α}

/-- There is one answer only. -/
theorem unique (h : AccountsFor kept sent isOpen told answer)
    (h' : AccountsFor kept sent isOpen told other) : answer = other := by
  have hlt {m : α} (hm : sent[told]? = some m) : told < sent.length :=
    (List.getElem?_eq_some_iff.1 hm).1
  cases h with
  | message m hm hkept =>
      have := hlt hm
      cases h' with
      | message m' hm' _ => rw [Option.some.inj (hm.symm.trans hm')]
      | lagged missed hpos heq => omega
      | empty heq _ => omega
      | closed heq _ => omega
  | lagged missed hpos heq =>
      cases h' with
      | message m hm hkept => omega
      | lagged missed' _ heq' => rw [show missed = missed' by omega]
      | empty heq' _ => omega
      | closed heq' _ => omega
  | empty heq hopen =>
      cases h' with
      | message m hm _ => have := hlt hm; omega
      | lagged missed hpos heq' => omega
      | empty => rfl
      | closed _ hclosed => exact absurd hopen hclosed
  | closed heq hclosed =>
      cases h' with
      | message m hm _ => have := hlt hm; omega
      | lagged missed hpos heq' => omega
      | empty _ hopen => exact absurd hopen hclosed
      | closed => rfl

theorem advance_le (h : AccountsFor kept sent isOpen told answer) :
    told + answer.advance ≤ sent.length := by
  cases h with
  | message m hm _ => exact (List.getElem?_eq_some_iff.1 hm).1
  | lagged missed _ heq =>
      simp only [Reception.advance]
      omega
  | empty heq _ => exact Nat.le_of_eq heq
  | closed heq _ => exact Nat.le_of_eq heq

end AccountsFor

namespace Bus

theorem isLeast_roundUp (n : Nat) : IsLeast {k | k.isPowerOfTwo ∧ n ≤ k} (roundUp n) := by
  rw [roundUp]
  split
  · rename_i hle
    exact ⟨⟨Nat.isPowerOfTwo_one, hle⟩, fun k hk => Nat.pos_of_isPowerOfTwo hk.1⟩
  · rename_i hlt
    refine ⟨⟨⟨_, rfl⟩, ?_⟩, ?_⟩
    · have := Nat.lt_log2_self (n := n - 1)
      exact Nat.le_of_pred_lt this
    · rintro k ⟨⟨e, rfl⟩, hle⟩
      -- the power is above `n - 1`, so its exponent is above the logarithm
      have hlog := Nat.log2_self_le (n := n - 1) (by omega)
      have hpow : 2 ^ (n - 1).log2 < 2 ^ e := by omega
      exact Nat.pow_le_pow_right (by decide) ((Nat.pow_lt_pow_iff_right (by decide)).1 hpow)

/-- The bus has seen these messages, and keeps the last of them. -/
structure Holds (b : Bus α) (history : List α) : Prop where
  published : b.published = history.length
  kept : b.kept = history.drop (history.length - b.capacity)

variable {b : Bus α} {history earlier sent : List α} {position told : Nat}

theorem holds_ofCapacity (capacity : Nat) : (ofCapacity capacity : Bus α).Holds [] :=
  ⟨rfl, List.drop_nil.symm⟩

namespace Holds

variable (h : b.Holds history)

include h

theorem push (m : α) : (b.push m).Holds (history ++ [m]) := by
  have hlength := b.length_kept
  rw [h.published] at hlength
  refine ⟨?_, ?_⟩
  · rw [List.length_append, ← h.published]
    rfl
  · have hdrop : (b.push m).kept = (b.kept ++ [m]).drop (b.kept.length + 1 - b.capacity) := rfl
    have hle : history.length - b.capacity ≤ history.length := Nat.sub_le _ _
    rw [hdrop, hlength, h.kept, ← List.drop_append_of_le_length hle, List.drop_drop,
      List.length_append, List.length_singleton]
    congr 1
    change _ = history.length + 1 - b.capacity
    omega

theorem oldest : b.oldest = history.length - b.capacity := by
  rw [Bus.oldest, b.length_kept, h.published]
  omega

theorem getElem?_kept (hle : b.oldest ≤ position) :
    b.kept[position - b.oldest]? = history[position]? := by
  rw [h.kept, List.getElem?_drop, ← h.oldest, Nat.add_sub_cancel' hle]

end Holds

/-- What a receiver is told accounts for the messages since it subscribed. -/
theorem Holds.accounts_answer (h : b.Holds (earlier ++ sent)) (hle : told ≤ sent.length) :
    AccountsFor b.capacity sent (b.isOpen = true) told (b.answer (earlier.length + told)) := by
  have holdest := h.oldest
  rw [List.length_append] at holdest
  rw [answer]
  split
  · rename_i hlt
    exact .lagged _ (by omega) (by omega)
  · rename_i hle'
    have hkept := h.getElem?_kept (Nat.le_of_not_lt hle')
    rw [hkept, List.getElem?_append_right (Nat.le_add_right _ _), Nat.add_sub_cancel_left]
    split
    · rename_i m hm
      exact .message m hm (by omega)
    · rename_i hnone
      have hend : told = sent.length := Nat.le_antisymm hle (List.getElem?_eq_none_iff.1 hnone)
      split
      · rename_i hopen
        exact .empty hend hopen
      · rename_i hclosed
        exact .closed hend hclosed

end Bus

end PhraseMark
