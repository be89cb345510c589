import Mathlib.Algebra.BigOperators.Group.List.Basic
import Mathlib.Algebra.Ring.Nat
import Mathlib.Order.Bounds.Basic
import PhraseMark.Proofs.Channel.Retention

/-!
# Receivers of a bus

Anyone may subscribe, publish, ask, leave and close the bus, in any order. Whatever the order is,
the answers that a receiver gets account for the messages published since it subscribed, one after
the other, and they do not depend on what other receivers ask or when they leave.
-/

namespace PhraseMark

variable {α : Type}

/-- The number of messages that answers account for. -/
def accounted (answers : List (Reception α)) : Nat := (answers.map (·.advance)).sum

theorem accounted_append (answers more : List (Reception α)) :
    accounted (answers ++ more) = accounted answers + accounted more := by
  rw [accounted, List.map_append, List.sum_append]
  rfl

/-- Answers spell out messages: each message that is told stands for itself, and each number of
messages that were dropped stands for as many messages. -/
inductive Spells : List (Reception α) → List α → Prop
  | nil : Spells [] []
  | message {answers : List (Reception α)} {messages : List α} (m : α) : Spells answers messages →
      Spells (.message m :: answers) (m :: messages)
  | lagged {answers : List (Reception α)} {messages : List α} (missed : List α) :
      Spells answers messages → Spells (.lagged missed.length :: answers) (missed ++ messages)
  | empty {answers : List (Reception α)} {messages : List α} : Spells answers messages →
      Spells (.empty :: answers) messages
  | closed {answers : List (Reception α)} {messages : List α} : Spells answers messages →
      Spells (.closed :: answers) messages

/-- An answer spells out the messages that it accounts for. -/
theorem AccountsFor.spells_cons {kept told n : Nat} {sent all : List α} {isOpen : Prop}
    {answer : Reception α} {answers : List (Reception α)}
    (h : AccountsFor kept sent isOpen told answer) (hsent : sent <+: all)
    (hrest : Spells answers ((all.drop (told + answer.advance)).take n)) :
    Spells (answer :: answers) ((all.drop told).take (answer.advance + n)) := by
  have hle := Nat.le_trans h.advance_le hsent.length_le
  rw [List.take_add, List.drop_drop]
  cases h with
  | message m hm hkept =>
      obtain ⟨hlt, heq⟩ := List.getElem?_eq_some_iff.1 hm
      have hfirst : (all.drop told).take (Reception.message m).advance = [m] := by
        obtain ⟨later, rfl⟩ := hsent
        rw [List.drop_append_of_le_length hlt.le, List.drop_eq_getElem_cons hlt, heq]
        rfl
      rw [hfirst]
      exact .message m hrest
  | lagged missed hpos heq =>
      have hlength : ((all.drop told).take missed).length = missed := by
        rw [List.length_take, List.length_drop]
        simp only [Reception.advance] at hle
        omega
      have hspells := Spells.lagged ((all.drop told).take missed) hrest
      rw [hlength] at hspells
      exact hspells
  | empty => exact .empty hrest
  | closed => exact .closed hrest

namespace Bus

/-! ## Steps -/

/-- Something that is done to a bus. -/
inductive Step (α : Type) where
  | subscribe
  | publish (m : α)
  | receive (receiver : Nat)
  | unsubscribe (receiver : Nat)
  | close

namespace Step

/-- The messages that are published in steps, up to the one that closes the bus. -/
def messages : List (Step α) → List α
  | [] => []
  | .publish m :: steps => m :: messages steps
  | .close :: _ => []
  | .subscribe :: steps | .receive _ :: steps | .unsubscribe _ :: steps => messages steps

/-- All steps but those in which some other receiver asks or leaves. -/
def concerns (r : Nat) : Step α → Bool
  | .receive q | .unsubscribe q => q == r
  | .subscribe | .publish _ | .close => true

end Step

/-- The bus after a step. A step that is refused changes nothing. -/
def step (b : Bus α) : Step α → Bus α
  | .subscribe => (b.subscribe?.map (·.2)).getD b
  | .publish m => ((b.publish? m).map (·.2)).getD b
  | .receive r => ((b.receive? r).map (·.2)).getD b
  | .unsubscribe r => b.unsubscribe r
  | .close => b.close

def run (b : Bus α) (steps : List (Step α)) : Bus α := steps.foldl step b

/-- What a receiver is told in a step. -/
def reply? (b : Bus α) (r : Nat) : Step α → Option (Reception α)
  | .receive q => if q = r then (b.receive? r).map (·.1) else none
  | .subscribe | .publish _ | .unsubscribe _ | .close => none

/-- All that a receiver is told in steps that are taken one after the other. -/
def told (b : Bus α) (r : Nat) : List (Step α) → List (Reception α)
  | [] => []
  | s :: steps => (b.reply? r s).toList ++ (b.step s).told r steps

variable {b b' : Bus α} {r : Nat} {s : Step α} {steps more : List (Step α)}

theorem run_cons (b : Bus α) (s : Step α) (steps : List (Step α)) :
    b.run (s :: steps) = (b.step s).run steps := rfl

theorem run_append (b : Bus α) (steps more : List (Step α)) :
    b.run (steps ++ more) = (b.run steps).run more := List.foldl_append

theorem told_append (b : Bus α) (r : Nat) (steps more : List (Step α)) :
    b.told r (steps ++ more) = b.told r steps ++ (b.run steps).told r more := by
  induction steps generalizing b with
  | nil => rfl
  | cons s steps ih => rw [List.cons_append, told, told, ih, run_cons, List.append_assoc]

theorem step_subscribe (b : Bus α) : b.step .subscribe =
    if b.isOpen then { b with positions := b.positions ++ [some b.published] } else b := by
  rw [step, subscribe?]
  split <;> rfl

theorem step_publish (b : Bus α) (m : α) : b.step (.publish m) =
    if b.isOpen ∧ b.hasReceivers then b.push m else b := by
  rw [step, publish?]
  by_cases hopen : b.isOpen = true
  · by_cases hreceivers : b.hasReceivers = true <;> simp [hopen, hreceivers]
  · simp [hopen]

theorem step_receive {position : Nat} (h : b.positions[r]? = some (some position)) :
    b.step (.receive r) =
      { b with
        positions := b.positions.set r (some (position + (b.answer position).advance)) } := by
  rw [step, receive?, h]
  rfl

theorem reply?_receive {position : Nat} (h : b.positions[r]? = some (some position)) :
    b.reply? r (.receive r) = some (b.answer position) := by
  rw [reply?, if_pos rfl, receive?, h]
  rfl

theorem reply?_of_ne (h : s ≠ .receive r) : b.reply? r s = none := by
  cases s with
  | receive q => exact if_neg (fun heq => h (congrArg Step.receive heq))
  | _ => rfl

/-- A step publishes a message that someone may receive, or it changes no more than who listens and
whether the bus is open. -/
theorem step_cases (b : Bus α) (s : Step α) :
    (∃ m, s = .publish m ∧ b.isOpen = true ∧ b.step s = b.push m) ∨
      ((∀ m, s = .publish m → b.isOpen = true → b.hasReceivers = false) ∧
        ∃ positions isOpen, b.step s = { b with positions, isOpen }) := by
  cases s with
  | subscribe =>
      refine .inr ⟨nofun, ?_⟩
      rw [step_subscribe]
      split
      · exact ⟨_, _, rfl⟩
      · exact ⟨b.positions, b.isOpen, rfl⟩
  | publish m =>
      rw [step_publish]
      split
      · rename_i h
        exact .inl ⟨m, rfl, h.1, rfl⟩
      · rename_i h
        refine .inr ⟨fun _ _ hopen => ?_, b.positions, b.isOpen, rfl⟩
        exact Bool.eq_false_iff.2 (fun hreceivers => h ⟨hopen, hreceivers⟩)
  | receive q =>
      refine .inr ⟨nofun, ?_⟩
      rw [step, receive?]
      split
      · exact ⟨_, _, rfl⟩
      · exact ⟨b.positions, b.isOpen, rfl⟩
  | unsubscribe q => exact .inr ⟨nofun, _, _, rfl⟩
  | close => exact .inr ⟨nofun, _, _, rfl⟩

theorem capacity_step (b : Bus α) (s : Step α) : (b.step s).capacity = b.capacity := by
  rcases b.step_cases s with ⟨m, -, -, h⟩ | ⟨-, positions, isOpen, h⟩
  all_goals rw [h]
  rfl

theorem capacity_run (b : Bus α) (steps : List (Step α)) : (b.run steps).capacity = b.capacity := by
  induction steps generalizing b with
  | nil => rfl
  | cons s steps ih => rw [run_cons, ih, capacity_step]

theorem isOpen_step (b : Bus α) (s : Step α) :
    (b.step s).isOpen = true ↔ b.isOpen = true ∧ s ≠ .close := by
  cases s with
  | subscribe =>
      rw [step_subscribe]
      split <;> simp_all
  | publish m =>
      rw [step_publish]
      split <;> simp [push]
  | receive q =>
      rw [step, receive?]
      split <;> simp
  | unsubscribe q => simp [step, unsubscribe]
  | close => simp [step, close]

theorem isOpen_run (b : Bus α) (steps : List (Step α)) :
    (b.run steps).isOpen = true ↔ b.isOpen = true ∧ .close ∉ steps := by
  induction steps generalizing b with
  | nil => simp [run]
  | cons s steps ih =>
      rw [run_cons, ih, isOpen_step, List.mem_cons, not_or, and_assoc, ne_comm]

/-- Steps in which a receiver neither asks nor leaves do not move it. -/
theorem getElem?_positions_step (hr : r < b.positions.length) (hask : s ≠ .receive r)
    (hleave : s ≠ .unsubscribe r) : (b.step s).positions[r]? = b.positions[r]? := by
  cases s with
  | subscribe =>
      rw [step_subscribe]
      split
      · exact List.getElem?_append_left hr
      · rfl
  | publish m =>
      rw [step_publish]
      split <;> rfl
  | receive q =>
      have hne : q ≠ r := fun heq => hask (heq ▸ rfl)
      rw [step, receive?]
      split
      · exact List.getElem?_set_ne hne
      · rfl
  | unsubscribe q =>
      have hne : q ≠ r := fun heq => hleave (heq ▸ rfl)
      exact List.getElem?_set_ne hne
  | close => rfl

theorem length_positions_subscribe (hopen : b.isOpen = true) :
    (b.step .subscribe).positions.length = b.positions.length + 1 := by
  rw [step_subscribe, if_pos hopen]
  exact List.length_append

theorem length_positions_step (hs : ¬ (s = .subscribe ∧ b.isOpen = true)) :
    (b.step s).positions.length = b.positions.length := by
  cases s with
  | subscribe => rw [step_subscribe, if_neg (fun hopen => hs ⟨rfl, hopen⟩)]
  | publish m =>
      rw [step_publish]
      split <;> rfl
  | receive q =>
      rw [step, receive?]
      split
      · exact List.length_set
      · rfl
  | unsubscribe q => exact List.length_set
  | close => rfl

theorem Holds.exists_step {history : List α} (h : b.Holds history) (s : Step α) :
    ∃ history, (b.step s).Holds history := by
  rcases b.step_cases s with ⟨m, -, -, heq⟩ | ⟨-, positions, isOpen, heq⟩
  · exact ⟨_, heq ▸ h.push m⟩
  · exact ⟨history, heq ▸ ⟨h.published, h.kept⟩⟩

/-! ## One receiver among others -/

/-- Since a receiver subscribed the messages `sent` were published, and it was told of the first
`told` of them. -/
structure Follows (b : Bus α) (r : Nat) (sent : List α) (told : Nat) : Prop where
  exists_earlier : ∃ earlier, b.Holds (earlier ++ sent) ∧
    b.positions[r]? = some (some (earlier.length + told))
  told_le : told ≤ sent.length

/-- The messages that are published in steps, none if the bus is closed. -/
def accepted (b : Bus α) (steps : List (Step α)) : List α :=
  if b.isOpen then Step.messages steps else []

theorem accepted_of_ne (b : Bus α) (hs : ∀ m, s ≠ .publish m) : b.accepted [s] = [] := by
  unfold accepted
  split
  · cases s with
    | publish m => exact absurd rfl (hs m)
    | _ => rfl
  · rfl

theorem accepted_cons (b : Bus α) (s : Step α) (steps : List (Step α)) :
    b.accepted (s :: steps) = b.accepted [s] ++ (b.step s).accepted steps := by
  have hopen := b.isOpen_step s
  unfold accepted
  by_cases hb : b.isOpen = true
  · cases s <;> simp_all [Step.messages]
  · simp_all

variable {sent : List α} {told : Nat}

theorem subscribe?_eq_some_iff : b.subscribe? = some (r, b') ↔
    b.isOpen = true ∧ r = b.positions.length ∧ b' = b.step .subscribe := by
  rw [step_subscribe, subscribe?]
  split
  · rename_i hopen
    rw [Option.some.injEq, Prod.mk.injEq, eq_comm (a := r), eq_comm (a := b')]
    exact (and_iff_right hopen).symm
  · rename_i hclosed
    simp [hclosed]

theorem Holds.follows_subscribe {history : List α} (h : b.Holds history)
    (hopen : b.isOpen = true) : (b.step .subscribe).Follows b.positions.length [] 0 := by
  rw [step_subscribe, if_pos hopen]
  refine ⟨⟨history, ?_, ?_⟩, Nat.le_refl 0⟩
  · rw [List.append_nil]
    exact ⟨h.published, h.kept⟩
  · rw [List.getElem?_append_right (Nat.le_refl _), Nat.sub_self, h.published]
    rfl

namespace Follows

variable (h : b.Follows r sent told)

include h

theorem lt_length : r < b.positions.length := by
  obtain ⟨earlier, -, hposition⟩ := h.exists_earlier
  exact (List.getElem?_eq_some_iff.1 hposition).1

theorem hasReceivers : b.hasReceivers = true := by
  obtain ⟨earlier, -, hposition⟩ := h.exists_earlier
  exact List.any_eq_true.2 ⟨_, List.mem_of_getElem? hposition, rfl⟩

/-- A receiver that asks is told what comes next. -/
theorem exists_reply : ∃ answer, b.reply? r (.receive r) = some answer ∧
    AccountsFor b.capacity sent (b.isOpen = true) told answer := by
  obtain ⟨earlier, hholds, hposition⟩ := h.exists_earlier
  exact ⟨_, reply?_receive hposition, hholds.accounts_answer h.told_le⟩

/-- The receiver stays on the track of its messages as long as it does not leave. -/
theorem step (hstay : s ≠ .unsubscribe r) : (b.step s).Follows r (sent ++ b.accepted [s])
    (told + accounted (b.reply? r s).toList) := by
  obtain ⟨earlier, hholds, hposition⟩ := h.exists_earlier
  by_cases hask : s = .receive r
  · subst hask
    obtain ⟨answer, hreply, haccounts⟩ := h.exists_reply
    rw [reply?_receive hposition, Option.some.injEq] at hreply
    have hnone := b.accepted_of_ne (s := .receive r) nofun
    have hadvance : accounted (b.reply? r (.receive r)).toList = answer.advance := by
      rw [reply?_receive hposition, hreply]
      exact Nat.add_zero _
    rw [hnone, List.append_nil, hadvance, step_receive hposition, hreply]
    refine ⟨⟨earlier, ⟨hholds.published, hholds.kept⟩, ?_⟩, haccounts.advance_le⟩
    rw [← Nat.add_assoc]
    exact List.getElem?_set_self h.lt_length
  · have hsame := getElem?_positions_step h.lt_length hask hstay
    rw [reply?_of_ne hask]
    refine ⟨⟨earlier, ?_, hsame.trans hposition⟩,
      Nat.le_trans h.told_le (List.sublist_append_left _ _).length_le⟩
    rw [← List.append_assoc]
    rcases b.step_cases s with ⟨m, rfl, hopen, heq⟩ | ⟨hnone, positions, isOpen, heq⟩
    · rw [heq, accepted, hopen]
      exact hholds.push m
    · have hnone : b.accepted [s] = [] := by
        unfold accepted
        split
        · rename_i hopen
          cases s with
          | publish m => exact absurd (h.hasReceivers.symm.trans (hnone m rfl hopen)) (by decide)
          | _ => rfl
        · rfl
      rw [hnone, List.append_nil, heq]
      exact ⟨hholds.published, hholds.kept⟩

/-- What a receiver that stays was told in a run accounts for what was published in it. -/
theorem run (hstay : .unsubscribe r ∉ steps) :
    (b.run steps).Follows r (sent ++ b.accepted steps) (told + accounted (b.told r steps)) := by
  induction steps generalizing b sent told with
  | nil =>
      have hnone : b.accepted [] = [] := ite_self []
      rw [hnone, List.append_nil]
      exact h
  | cons s steps ih =>
      obtain ⟨hs, hsteps⟩ := not_or.1 (mt List.mem_cons.2 hstay)
      have hrest := ih (h.step (fun heq => hs heq.symm)) hsteps
      rw [List.append_assoc, ← accepted_cons, Nat.add_assoc, ← accounted_append] at hrest
      exact hrest

end Follows

/-! ## What a receiver is told -/

theorem told_of_left (h : b.positions[r]? = some none) : b.told r steps = [] := by
  induction steps generalizing b with
  | nil => rfl
  | cons s steps ih =>
      have hlt := (List.getElem?_eq_some_iff.1 h).1
      have hreceive : b.receive? r = none := by rw [receive?, h]
      have hreply : b.reply? r s = none := by
        by_cases hask : s = .receive r
        · rw [hask, reply?, if_pos rfl, hreceive]
          rfl
        · exact reply?_of_ne hask
      have hleft : (b.step s).positions[r]? = some none := by
        by_cases hask : s = .receive r
        · rw [hask, step, hreceive]
          exact h
        · by_cases hleave : s = .unsubscribe r
          · rw [hleave]
            exact List.getElem?_set_self hlt
          · rw [getElem?_positions_step hlt hask hleave]
            exact h
      rw [told, hreply, ih hleft]
      rfl

theorem Follows.told_unsubscribe (h : b.Follows r sent told) :
    b.told r (.unsubscribe r :: steps) = [] := by
  rw [Bus.told, told_of_left (List.getElem?_set_self h.lt_length)]
  rfl

theorem Follows.spells (h : b.Follows r sent told) (steps : List (Step α)) :
    Spells (b.told r steps)
      (((sent ++ b.accepted steps).drop told).take (accounted (b.told r steps))) := by
  induction steps generalizing b sent told with
  | nil => exact .nil
  | cons s steps ih =>
      by_cases hleave : s = .unsubscribe r
      · rw [hleave, h.told_unsubscribe]
        exact .nil
      · have hrest := ih (h.step hleave)
        rw [List.append_assoc, ← accepted_cons] at hrest
        by_cases hask : s = .receive r
        · subst hask
          obtain ⟨answer, hreply, haccounts⟩ := h.exists_reply
          have hone : accounted (b.reply? r (.receive r)).toList = answer.advance := by
            rw [hreply]
            exact Nat.add_zero _
          rw [hone] at hrest
          rw [Bus.told, accounted_append, hone, hreply]
          exact haccounts.spells_cons (List.prefix_append _ _) hrest
        · rw [reply?_of_ne hask] at hrest
          rw [Bus.told, reply?_of_ne hask]
          exact hrest

/-! ## Receivers do not disturb each other -/

theorem of_concerns_eq_false (h : s.concerns r = false) :
    (s ≠ .receive r ∧ s ≠ .unsubscribe r) ∧ s ≠ .subscribe ∧ s ≠ .close ∧ ∀ m, s ≠ .publish m := by
  cases s with
  | receive q | unsubscribe q =>
      have hne : q ≠ r := by simpa [Step.concerns] using h
      simp [hne]
  | subscribe | publish m | close => cases h

theorem isOpen_step_congr (hopen : b'.isOpen = b.isOpen) (s : Step α) :
    (b'.step s).isOpen = (b.step s).isOpen := by
  rw [Bool.eq_iff_iff, isOpen_step, isOpen_step, hopen]

/-- A step that is left out because it is one of another receiver neither opens nor closes the
bus. -/
theorem isOpen_eq_step (hopen : b'.isOpen = b.isOpen) (hclose : s ≠ .close) :
    b'.isOpen = (b.step s).isOpen := by
  rw [Bool.eq_iff_iff, isOpen_step, hopen]
  exact (and_iff_left hclose).symm

theorem Follows.told_filter (h : b.Follows r sent told) (h' : b'.Follows r sent told)
    (hcapacity : b'.capacity = b.capacity) (hopen : b'.isOpen = b.isOpen)
    (steps : List (Step α)) : b'.told r (steps.filter (·.concerns r)) = b.told r steps := by
  induction steps generalizing b b' sent told with
  | nil => rfl
  | cons s steps ih =>
      cases hconcerns : s.concerns r with
      | false =>
          obtain ⟨⟨hask, hleave⟩, -, hclose, hpublish⟩ := of_concerns_eq_false hconcerns
          have hstep := h.step hleave
          rw [accepted_of_ne b hpublish, List.append_nil, reply?_of_ne hask] at hstep
          rw [List.filter_cons_of_neg (by rw [hconcerns]; decide), Bus.told, reply?_of_ne hask]
          exact ih hstep h' (hcapacity.trans (b.capacity_step s).symm)
            (isOpen_eq_step hopen hclose)
      | true =>
          rw [List.filter_cons_of_pos hconcerns]
          by_cases hleave : s = .unsubscribe r
          · rw [hleave, h.told_unsubscribe, h'.told_unsubscribe]
          · have hreply : b'.reply? r s = b.reply? r s := by
              by_cases hask : s = .receive r
              · obtain ⟨answer, hanswer, haccounts⟩ := h.exists_reply
                obtain ⟨answer', hanswer', haccounts'⟩ := h'.exists_reply
                rw [hcapacity, hopen] at haccounts'
                rw [hask, hanswer, hanswer', haccounts.unique haccounts']
              · rw [reply?_of_ne hask, reply?_of_ne hask]
            have haccepted : b'.accepted [s] = b.accepted [s] := by
              rw [accepted, accepted, hopen]
            have hstep' := h'.step hleave
            rw [hreply, haccepted] at hstep'
            rw [Bus.told, Bus.told, hreply]
            congr 1
            apply ih (h.step hleave) hstep'
            · rw [capacity_step, capacity_step, hcapacity]
            · exact isOpen_step_congr hopen s

theorem reply?_of_absent (h : b.positions.length ≤ r) (s : Step α) : b.reply? r s = none := by
  by_cases hask : s = .receive r
  · rw [hask, reply?, if_pos rfl, receive?, List.getElem?_eq_none h]
    rfl
  · exact reply?_of_ne hask

/-- Before a receiver subscribes it is told nothing, and what other receivers do makes no difference
to what it is told later. -/
theorem Holds.told_filter {history history' : List α} (h : b.Holds history)
    (h' : b'.Holds history') (hcapacity : b'.capacity = b.capacity)
    (hopen : b'.isOpen = b.isOpen) (hlength : b'.positions.length = b.positions.length)
    (habsent : b.positions.length ≤ r) (steps : List (Step α)) :
    b'.told r (steps.filter (·.concerns r)) = b.told r steps := by
  induction steps generalizing b b' history history' with
  | nil => rfl
  | cons s steps ih =>
      have habsent' : b'.positions.length ≤ r := hlength ▸ habsent
      obtain ⟨next, hnext⟩ := h.exists_step s
      obtain ⟨next', hnext'⟩ := h'.exists_step s
      rw [Bus.told, reply?_of_absent habsent]
      cases hconcerns : s.concerns r with
      | false =>
          obtain ⟨-, hsubscribe, hclose, -⟩ := of_concerns_eq_false hconcerns
          rw [List.filter_cons_of_neg (by rw [hconcerns]; decide)]
          have hsame := length_positions_step (b := b) (fun hs => hsubscribe hs.1)
          apply ih hnext h' (hcapacity.trans (b.capacity_step s).symm)
            (isOpen_eq_step hopen hclose) (hlength.trans hsame.symm)
          rw [hsame]
          exact habsent
      | true =>
          rw [List.filter_cons_of_pos hconcerns, Bus.told, reply?_of_absent habsent']
          congr 1
          have hcapacity' : (b'.step s).capacity = (b.step s).capacity := by
            rw [capacity_step, capacity_step, hcapacity]
          have hopen' := isOpen_step_congr hopen s
          by_cases hsubscribe : s = .subscribe ∧ b.isOpen = true
          · obtain ⟨rfl, hb⟩ := hsubscribe
            have hfollows := h.follows_subscribe hb
            have hfollows' := h'.follows_subscribe (hopen.trans hb)
            have hpositions := length_positions_subscribe hb
            have hpositions' := length_positions_subscribe (hopen.trans hb)
            rcases Nat.eq_or_lt_of_le habsent with rfl | hlt
            · exact hfollows.told_filter (hlength ▸ hfollows') hcapacity' hopen' steps
            · exact ih hnext hnext' hcapacity' hopen' (by rw [hpositions, hpositions', hlength])
                (hpositions ▸ hlt)
          · have hsame := length_positions_step hsubscribe
            have hsame' := length_positions_step (b := b') (s := s)
              (fun hs => hsubscribe ⟨hs.1, hopen ▸ hs.2⟩)
            exact ih hnext hnext' hcapacity' hopen' (by rw [hsame, hsame', hlength])
              (hsame.symm ▸ habsent)

theorem length_positions_le_run (b : Bus α) (steps : List (Step α)) :
    b.positions.length ≤ (b.run steps).positions.length := by
  induction steps generalizing b with
  | nil => exact Nat.le_refl _
  | cons s steps ih =>
      refine Nat.le_trans ?_ (ih (b.step s))
      by_cases hs : s = .subscribe ∧ b.isOpen = true
      · rw [hs.1, length_positions_subscribe hs.2]
        exact Nat.le_succ _
      · rw [length_positions_step hs]

theorem told_of_absent (h : (b.run steps).positions.length ≤ r) : b.told r steps = [] := by
  induction steps generalizing b with
  | nil => rfl
  | cons s steps ih =>
      have hlength := Nat.le_trans (b.length_positions_le_run (s :: steps)) h
      rw [told, reply?_of_absent hlength, ih h]
      rfl

theorem exists_holds_run {history : List α} (h : b.Holds history) (steps : List (Step α)) :
    ∃ history, (b.run steps).Holds history := by
  induction steps generalizing b history with
  | nil => exact ⟨history, h⟩
  | cons s steps ih =>
      obtain ⟨next, hnext⟩ := h.exists_step s
      exact ih hnext

/-- The answers that a receiver gets from a bus spell out the messages published since it
subscribed, from the first on and without a gap: each answer is the one that accounts for what comes
next. Steps in which others ask or leave do not change the answers. -/
theorem receiver_accounts (capacity : Nat) :
    ∃ kept, IsLeast {k | k.isPowerOfTwo ∧ capacity ≤ k} kept ∧
      (∀ {before : List (Step α)} {r : Nat} {bus : Bus α},
        ((ofCapacity capacity).run before).subscribe? = some (r, bus) → ∀ steps,
          (ofCapacity capacity).told r (before ++ .subscribe :: steps) = bus.told r steps ∧
          (.unsubscribe r ∉ steps → ∃ answer,
            bus.told r (steps ++ [.receive r]) = bus.told r steps ++ [answer] ∧
              AccountsFor kept (Step.messages steps) (.close ∉ steps) (accounted (bus.told r steps))
                answer) ∧
          Spells (bus.told r steps)
            ((Step.messages steps).take (accounted (bus.told r steps)))) ∧
      ∀ r steps, (ofCapacity capacity : Bus α).told r (steps.filter (·.concerns r)) =
        (ofCapacity capacity).told r steps := by
  refine ⟨_, isLeast_roundUp capacity, ?_, fun r steps => ?_⟩
  · intro before r bus hsubscribe steps
    obtain ⟨history, hholds⟩ := exists_holds_run (holds_ofCapacity (α := α) capacity) before
    obtain ⟨hopen, rfl, rfl⟩ := subscribe?_eq_some_iff.1 hsubscribe
    have hfollows := hholds.follows_subscribe hopen
    have hstart := (isOpen_step _ .subscribe).2 ⟨hopen, nofun⟩
    have haccepted (steps : List (Step α)) :
        (((ofCapacity capacity).run before).step .subscribe).accepted steps =
          Step.messages steps := by
      rw [accepted, if_pos hstart]
    refine ⟨?_, fun hstay => ?_, ?_⟩
    · rw [told_append, told_of_absent (Nat.le_refl _), told]
      rfl
    · have hrun := hfollows.run hstay
      obtain ⟨answer, hreply, haccounts⟩ := hrun.exists_reply
      refine ⟨answer, ?_, ?_⟩
      · rw [told_append, told, hreply]
        rfl
      · rw [capacity_run, capacity_step, capacity_run, isOpen_run, and_iff_right hstart,
          List.nil_append, haccepted, Nat.zero_add] at haccounts
        exact haccounts
    · have hspells := hfollows.spells steps
      rw [List.nil_append, haccepted, List.drop_zero] at hspells
      exact hspells
  · have hempty := holds_ofCapacity (α := α) capacity
    exact hempty.told_filter hempty rfl rfl rfl (Nat.zero_le r) steps

/-- A receiver that comes late and asks late: of the two messages that were published since it came
only the last is kept. -/
theorem receiver_accounts_late :
    let early : Bus Nat := (ofCapacity 1).run [.subscribe, .publish 7]
    let steps : List (Step Nat) := [.publish 8, .receive 0, .publish 9, .unsubscribe 0]
    early.subscribe? = some (1, early.step .subscribe) ∧ .unsubscribe 1 ∉ steps ∧
      (early.step .subscribe).told 1 (steps ++ [.receive 1]) = [.lagged 1] ∧
      AccountsFor 1 [8, 9] (.close ∉ steps) 0 (.lagged 1) ∧ Spells [.lagged 1] [8] := by
  intro early steps
  have hsubscribe : early.subscribe? = some (1, early.step .subscribe) :=
    subscribe?_eq_some_iff.2 ⟨rfl, rfl, rfl⟩
  have hstay : .unsubscribe 1 ∉ steps := by simp [steps]
  have hfirst : (early.step .subscribe).told 1 steps = [] := by decide
  have htold : (early.step .subscribe).told 1 (steps ++ [.receive 1]) = [.lagged 1] := by decide
  obtain ⟨kept, hkept, haccounts, -⟩ := receiver_accounts (α := Nat) 1
  obtain rfl : kept = 1 := hkept.unique (isLeast_roundUp 1)
  obtain ⟨answer, hanswer, haccount⟩ := (haccounts hsubscribe steps).2.1 hstay
  obtain rfl : .lagged 1 = answer := by simpa [htold, hfirst] using hanswer
  rw [hfirst] at haccount
  refine ⟨hsubscribe, hstay, htold, haccount, ?_⟩
  have hspells := (haccounts hsubscribe (steps ++ [.receive 1])).2.2
  rw [htold] at hspells
  exact hspells

end Bus

end PhraseMark
