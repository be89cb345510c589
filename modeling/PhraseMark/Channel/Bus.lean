import PhraseMark.Scan.Log

/-!
# A bounded bus

Every receiver gets the messages published after it subscribed, in order. The bus keeps only the
last of them: a receiver that falls behind is told how many it missed and goes on with the oldest
message that is kept. Publishing never waits, and without receivers it has no effect.
-/

namespace PhraseMark

/-- The last published messages, and where each receiver stands. Messages and receivers are
numbered from zero. -/
structure Bus (α : Type) where
  /-- The number of messages that are kept. -/
  capacity : Nat
  /-- The number of messages published. -/
  published : Nat := 0
  /-- The last messages, oldest first. -/
  kept : List α := []
  length_kept : kept.length = min published capacity := by simp
  /-- The next message of each receiver; none for one that has left. -/
  positions : List (Option Nat) := []
  isOpen : Bool := true

/-- What a receiver is told. -/
inductive Reception (α : Type) where
  | message (m : α)
  /-- This many messages were dropped before the receiver got to them. -/
  | lagged (missed : Nat)
  /-- Nothing is left now. -/
  | empty
  /-- Nothing is left, and nothing will come. -/
  | closed
  deriving DecidableEq, Repr

/-- The number of messages that an answer accounts for. -/
def Reception.advance {α : Type} : Reception α → Nat
  | message _ => 1
  | lagged missed => missed
  | empty => 0
  | closed => 0

namespace Bus

variable {α : Type}

def defaultCapacity : Nat := 1024

/-- The least power of two that is not below a number. -/
def roundUp (n : Nat) : Nat := if n ≤ 1 then 1 else Nat.pow 2 (Nat.log2 (n - 1) + 1)

/-- A bus without messages. The capacity is rounded up to a power of two. It is to be positive: no
channel of capacity zero can be made, and zero gives here the same bus as one. -/
def ofCapacity (capacity : Nat) : Bus α := { capacity := roundUp capacity }

def oldest (b : Bus α) : Nat := b.published - b.kept.length

def hasReceivers (b : Bus α) : Bool := b.positions.any (·.isSome)

/-- Adds a receiver, which is told of what is published from now on. -/
def subscribe? (b : Bus α) : Option (Nat × Bus α) :=
  if b.isOpen then
    some (b.positions.length, { b with positions := b.positions ++ [some b.published] })
  else none

def unsubscribe (b : Bus α) (receiver : Nat) : Bus α :=
  { b with positions := b.positions.set receiver none }

/-- Adds a message and drops the oldest one if there are too many. -/
def push (b : Bus α) (m : α) : Bus α :=
  { b with
    published := b.published + 1
    kept := (b.kept ++ [m]).drop (b.kept.length + 1 - b.capacity)
    length_kept := by
      have := b.length_kept
      simp only [List.length_drop, List.length_append, List.length_singleton]
      omega }

/-- Publishes a message, unless the bus is closed. -/
def publish? (b : Bus α) (m : α) : Option (List LogEvent × Bus α) :=
  if b.isOpen then
    if b.hasReceivers then some ([], b.push m)
    else some ([.debug "[MessageBus] No receivers; message dropped"], b)
  else none

def close (b : Bus α) : Bus α := { b with isOpen := false }

def answer (b : Bus α) (position : Nat) : Reception α :=
  if position < b.oldest then .lagged (b.oldest - position)
  else
    match b.kept[position - b.oldest]? with
    | some m => .message m
    | none => if b.isOpen then .empty else .closed

/-- Tells a receiver what comes next, and moves it on by as much. -/
def receive? (b : Bus α) (receiver : Nat) : Option (Reception α × Bus α) :=
  match b.positions[receiver]? with
  | some (some position) =>
    let r := b.answer position
    some (r, { b with positions := b.positions.set receiver (some (position + r.advance)) })
  | _ => none

theorem length_kept_le (b : Bus α) : b.kept.length ≤ b.published := by
  have := b.length_kept
  omega

/-- An answer that accounts for a message leaves fewer messages. -/
theorem advance_answer_le (b : Bus α) (position : Nat) (h : (b.answer position).advance ≠ 0) :
    position + (b.answer position).advance ≤ b.published := by
  have hle := b.length_kept_le
  have ho : b.oldest = b.published - b.kept.length := rfl
  unfold answer at h ⊢
  split
  · simp only [Reception.advance]
    omega
  · rename_i hlt
    split
    · rename_i m hm
      obtain ⟨hpos, -⟩ := List.getElem?_eq_some_iff.mp hm
      simp only [Reception.advance]
      omega
    · rename_i hm
      simp only [if_neg hlt, hm] at h
      split at h <;> simp [Reception.advance] at h

/-- All that a receiver at a position is told until nothing is left. -/
def drain (b : Bus α) (position : Nat) : List (Reception α) :=
  if h : (b.answer position).advance = 0 then [b.answer position]
  else
    have := b.advance_answer_le position h
    b.answer position :: b.drain (position + (b.answer position).advance)
termination_by b.published - position

end Bus

end PhraseMark
