import Mathlib.Data.List.Induction
import PhraseMark.Channel.Listener
import PhraseMark.Proofs.Channel.Receivers

/-!
# Delivery to observers

A listener on a bus that is closed gets what the bus still keeps, oldest first, and then ends. Every
observer is handed each of these envelopes once, in the order in which they were published.
-/

namespace PhraseMark

/-! ## Draining a bus -/

namespace Bus

variable {α : Type} {b : Bus α} {history : List α} {position r : Nat}

theorem drain_of_advance_eq (h : (b.answer position).advance = 0) :
    b.drain position = [b.answer position] := by
  rw [drain, dif_pos h]

theorem drain_of_advance_ne (h : (b.answer position).advance ≠ 0) :
    b.drain position =
      b.answer position :: b.drain (position + (b.answer position).advance) := by
  rw [drain, dif_neg h]

/-- Messages that are published while nobody listens leave no trace. -/
theorem run_publish_of_not_hasReceivers (hnone : b.hasReceivers = false) (messages : List α) :
    b.run (messages.map .publish) = b := by
  induction messages with
  | nil => rfl
  | cons m messages ih =>
      have hstep : b.step (.publish m) = b := by
        rw [step_publish, if_neg]
        rw [hnone]
        exact fun h => Bool.false_ne_true h.2
      rw [List.map_cons, run_cons, hstep, ih]

/-- Messages that are published while someone listens are all held. -/
theorem Holds.run_publish (h : b.Holds history) (hopen : b.isOpen = true)
    (hsome : b.hasReceivers = true) (messages : List α) :
    (b.run (messages.map .publish)).Holds (history ++ messages) ∧
      (b.run (messages.map .publish)).isOpen = true ∧
      (b.run (messages.map .publish)).positions = b.positions := by
  induction messages generalizing b history with
  | nil =>
      rw [List.append_nil]
      exact ⟨h, hopen, rfl⟩
  | cons m messages ih =>
      have hstep : b.step (.publish m) = b.push m := by
        rw [step_publish, if_pos ⟨hopen, hsome⟩]
      rw [List.map_cons, run_cons, hstep, List.append_cons]
      exact ih (h.push m) hopen hsome

/-- A drain is what a receiver is told that asks until nothing is left. -/
theorem exists_drain_eq_told {positions : List (Option Nat)}
    (h : positions[r]? = some (some position)) :
    ∃ asks, b.drain position =
      ({ b with positions } : Bus α).told r (List.replicate asks (.receive r)) := by
  fun_induction b.drain position generalizing positions with
  | case1 position hlast =>
      refine ⟨1, ?_⟩
      rw [List.replicate_one, told, reply?_receive h]
      rfl
  | case2 position hmore _ ih =>
      obtain ⟨hlt, -⟩ := List.getElem?_eq_some_iff.1 h
      have hmoved : (positions.set r (some (position + (b.answer position).advance)))[r]? =
          some (some (position + (b.answer position).advance)) := List.getElem?_set_self hlt
      obtain ⟨asks, hasks⟩ := ih hmoved
      refine ⟨asks + 1, ?_⟩
      rw [List.replicate_succ, told, reply?_receive h, step_receive h, hasks]
      rfl

/-- What a receiver is told when nothing is left. -/
def ending (b : Bus α) : Reception α := if b.isOpen then .empty else .closed

theorem advance_ending (b : Bus α) : b.ending.advance = 0 := by
  rw [ending]
  split <;> rfl

namespace Holds

variable (h : b.Holds history)

include h

theorem answer_of_le (hle : b.oldest ≤ position) :
    b.answer position = history[position]?.elim b.ending .message := by
  rw [answer, if_neg (Nat.not_lt.2 hle), h.getElem?_kept hle]
  cases history[position]? <;> rfl

theorem drain_of_le (hle : b.oldest ≤ position) :
    b.drain position = (history.drop position).map .message ++ [b.ending] := by
  induction hrest : history.drop position generalizing position with
  | nil =>
      have hanswer := h.answer_of_le hle
      rw [List.getElem?_eq_none (List.drop_eq_nil_iff.1 hrest), Option.elim_none] at hanswer
      rw [drain_of_advance_eq (hanswer ▸ b.advance_ending), hanswer]
      rfl
  | cons m rest ih =>
      have hm : history[position]? = some m := by
        rw [← List.head?_drop, hrest]
        rfl
      have hanswer := h.answer_of_le hle
      rw [hm, Option.elim_some] at hanswer
      have hadvance : (b.answer position).advance = 1 := by
        rw [hanswer]
        rfl
      have hnext : history.drop (position + 1) = rest := by
        rw [← List.drop_drop, hrest]
        rfl
      rw [drain_of_advance_ne (hadvance ▸ Nat.one_ne_zero), hadvance, hanswer,
        ih (Nat.le_succ_of_le hle) hnext]
      rfl

/-- A receiver is told how much it missed, if it did, then what is kept, and then that nothing is
left. -/
theorem drain (position : Nat) :
    b.drain position = (if position < b.oldest then [.lagged (b.oldest - position)] else []) ++
      (history.drop (max position b.oldest)).map .message ++ [b.ending] := by
  split
  · rename_i hlt
    have hanswer : b.answer position = .lagged (b.oldest - position) := if_pos hlt
    have hadvance : (b.answer position).advance = b.oldest - position := by
      rw [hanswer]
      rfl
    rw [drain_of_advance_ne (hadvance ▸ Nat.sub_ne_zero_of_lt hlt), hadvance, hanswer,
      Nat.add_sub_cancel' hlt.le, h.drain_of_le (Nat.le_refl b.oldest), Nat.max_eq_right hlt.le]
    rfl
  · rename_i hle
    rw [h.drain_of_le (Nat.le_of_not_lt hle), Nat.max_eq_left (Nat.le_of_not_lt hle)]
    rfl

end Holds

end Bus

/-! ## Observers -/

namespace Observed

variable {β : Type}

theorem foldl_append (f : β → Observed) (xs : List β) (o : Observed) :
    xs.foldl (fun seen x => seen.append (f x)) o =
      o.append
        { seen := xs.flatMap (fun x => (f x).seen)
          logged := (xs.map (fun x => (f x).logged)).sum
          events := xs.flatMap (fun x => (f x).events) } := by
  induction xs generalizing o with
  | nil => simp [append]
  | cons x xs ih =>
      rw [List.foldl_cons, ih]
      simp [append, Nat.add_assoc]

end Observed

namespace Observer

/-- The name of an observer that keeps what it is handed. -/
def recorderName? : Observer → Option String
  | recorder name => some name
  | detectionLogger => none

theorem seen_observe (o : Observer) (e : Envelope) :
    (o.observe e).seen = o.recorderName?.toList.map (·, e) := by
  cases o <;> rfl

theorem logged_observe (o : Observer) (e : Envelope) :
    (o.observe e).logged = if o = detectionLogger then 1 else 0 := by
  cases o <;> rfl

theorem sum_logged (observers : List Observer) (e : Envelope) :
    (observers.map (fun o => (o.observe e).logged)).sum = observers.count detectionLogger := by
  induction observers with
  | nil => rfl
  | cons o observers ih =>
      rw [List.map_cons, List.sum_cons, ih, logged_observe, List.count_cons, Nat.add_comm]
      simp only [beq_iff_eq]

theorem dispatch_eq (observers : List Observer) (e : Envelope) : dispatch observers e =
    { seen := (observers.filterMap recorderName?).map (·, e)
      logged := observers.count detectionLogger
      events := observers.flatMap (fun o => (o.observe e).events) } := by
  rw [dispatch, Observed.foldl_append, sum_logged]
  simp only [seen_observe, List.filterMap_eq_flatMap_toList, List.map_flatMap, Observed.append,
    List.nil_append, Nat.zero_add]

end Observer

/-! ## Listening -/

namespace Listener

variable {observers : List Observer} {bus : Bus Envelope} {envelopes : List Envelope}

/-- The notice that a message was published while nobody listened. -/
def unheard : LogEvent := .debug "[MessageBus] No receivers; message dropped"

theorem publishAll_of_not_hasReceivers (hopen : bus.isOpen = true)
    (hnone : bus.hasReceivers = false) :
    publishAll bus envelopes = (envelopes.map (fun _ => unheard), bus) := by
  have hpublish (e : Envelope) : bus.publish? e = some ([unheard], bus) := by
    rw [Bus.publish?, if_pos hopen, hnone]
    rfl
  induction envelopes using List.reverseRecOn with
  | nil => rfl
  | append_singleton envelopes e ih =>
      rw [publishAll] at ih ⊢
      rw [List.foldl_append, ih, List.map_append]
      simp only [List.foldl_cons, List.foldl_nil, hpublish, List.map_cons, List.map_nil]

theorem publishAll_of_hasReceivers {history : List Envelope} (h : bus.Holds history)
    (hopen : bus.isOpen = true) (hsome : bus.hasReceivers = true) :
    publishAll bus envelopes = ([], bus.run (envelopes.map .publish)) := by
  induction envelopes using List.reverseRecOn with
  | nil => rfl
  | append_singleton envelopes e ih =>
      obtain ⟨-, hopen', hpositions⟩ := h.run_publish hopen hsome envelopes
      have hsome' : (bus.run (envelopes.map .publish)).hasReceivers = true := by
        rw [Bus.hasReceivers, hpositions]
        exact hsome
      have hrun : bus.run ((envelopes ++ [e]).map .publish) =
          (bus.run (envelopes.map .publish)).push e := by
        rw [List.map_append, Bus.run_append]
        exact (Bus.step_publish _ e).trans (if_pos ⟨hopen', hsome'⟩)
      have hpublish : (bus.run (envelopes.map .publish)).publish? e =
          some ([], (bus.run (envelopes.map .publish)).push e) := by
        rw [Bus.publish?, if_pos hopen', hsome']
        rfl
      rw [publishAll] at ih ⊢
      rw [List.foldl_append, ih, hrun]
      simp only [List.foldl_cons, List.foldl_nil, hpublish, List.append_nil]

theorem handleAll_eq (observers : List Observer) (answers : List (Reception Envelope)) :
    handleAll observers answers =
      { seen := answers.flatMap (fun r => (handle observers r).seen)
        logged := (answers.map (fun r => (handle observers r).logged)).sum
        events := answers.flatMap (fun r => (handle observers r).events) } := by
  rw [handleAll, Observed.foldl_append]
  simp only [Observed.append, List.nil_append, Nat.zero_add]

theorem handleAll_append (observers : List Observer) (answers more : List (Reception Envelope)) :
    handleAll observers (answers ++ more) =
      (handleAll observers answers).append (handleAll observers more) := by
  simp only [handleAll_eq, Observed.append, List.flatMap_append, List.map_append, List.sum_append]

theorem handle_message (observers : List Observer) (e : Envelope) :
    handle observers (.message e) =
      { seen := (observers.filterMap Observer.recorderName?).map (·, e)
        logged := observers.count .detectionLogger
        events := .debug ("[BackgroundService] Message from " ++ e.url) ::
          observers.flatMap (fun o => (o.observe e).events) } := by
  rw [handle, Observer.dispatch_eq]
  simp only [Observed.append, List.nil_append, Nat.zero_add, List.singleton_append]

theorem handleAll_messages (observers : List Observer) (envelopes : List Envelope) :
    handleAll observers (envelopes.map .message) =
      { seen := envelopes.flatMap
          (fun e => (observers.filterMap Observer.recorderName?).map (·, e))
        logged := observers.count .detectionLogger * envelopes.length
        events := envelopes.flatMap
          (fun e => .debug ("[BackgroundService] Message from " ++ e.url) ::
            observers.flatMap (fun o => (o.observe e).events)) } := by
  simp only [handleAll_eq, List.flatMap_map, List.map_map, Function.comp_def, handle_message,
    List.map_const', List.sum_replicate_nat, Nat.mul_comm]

/-- The notice that messages were missed. -/
def missedNotice (missed : Nat) : LogEvent :=
  .warn ("[BackgroundService] Dropped " ++ Nat.repr missed ++ " message(s); receiver lagged")

def closedNotice : LogEvent := .info "[BackgroundService] Channel closed"

/-- What a listener is told if the last `kept` of the messages are kept for it. -/
def answersTo (messages : List Envelope) (kept : Nat) : List (Reception Envelope) :=
  (if kept < messages.length then [.lagged (messages.length - kept)] else []) ++
    (messages.drop (messages.length - kept)).map .message ++ [.closed]

theorem handleAll_answersTo (observers : List Observer) (messages : List Envelope) (kept : Nat) :
    handleAll observers (answersTo messages kept) =
      { seen := (messages.drop (messages.length - kept)).flatMap
          (fun e => (observers.filterMap Observer.recorderName?).map (·, e))
        logged := observers.count .detectionLogger * min messages.length kept
        events :=
          (if kept < messages.length then [missedNotice (messages.length - kept)] else []) ++
            (messages.drop (messages.length - kept)).flatMap
              (fun e => .debug ("[BackgroundService] Message from " ++ e.url) ::
                observers.flatMap (fun o => (o.observe e).events)) ++ [closedNotice] } := by
  have hlength : (messages.drop (messages.length - kept)).length = min messages.length kept := by
    rw [List.length_drop]
    omega
  have hmissed : handleAll observers
      (if kept < messages.length then [.lagged (messages.length - kept)] else []) =
        { events :=
            if kept < messages.length then [missedNotice (messages.length - kept)] else [] } := by
    split <;> rfl
  have hclosed : handleAll observers [.closed] = { events := [closedNotice] } := rfl
  rw [answersTo, handleAll_append, handleAll_append, hmissed, hclosed, handleAll_messages, hlength]
  simp only [Observed.append, List.nil_append, List.append_nil, Nat.zero_add, Nat.add_zero]

/-- A bus with one receiver. -/
def listening (capacity : Nat) : Bus Envelope := (Bus.ofCapacity capacity).step .subscribe

theorem holds_listening (capacity : Nat) : (listening capacity).Holds [] := by
  obtain ⟨hpublished, hkept⟩ := Bus.holds_ofCapacity (α := Envelope) capacity
  exact ⟨hpublished, hkept⟩

/-- The bus at the end of a session: envelopes before anyone subscribes, envelopes for the one
receiver, and the end. -/
def closedBus (capacity : Nat) (before messages : List Envelope) : Bus Envelope :=
  (Bus.ofCapacity capacity).run
    (before.map .publish ++ .subscribe :: messages.map .publish ++ [.close])

theorem closedBus_eq (capacity : Nat) (before messages : List Envelope) :
    closedBus capacity before messages =
      ((listening capacity).run (messages.map .publish)).close := by
  have hbefore : (Bus.ofCapacity capacity : Bus Envelope).run (before.map .publish) =
      .ofCapacity capacity := Bus.run_publish_of_not_hasReceivers rfl before
  rw [closedBus, Bus.run_append, Bus.run_append, hbefore]
  rfl

theorem drain_closedBus (capacity : Nat) (before messages : List Envelope) :
    (closedBus capacity before messages).drain 0 =
      answersTo messages (Bus.roundUp capacity) := by
  obtain ⟨hholds, -, -⟩ := (holds_listening capacity).run_publish rfl rfl messages
  have hclosed : (closedBus capacity before messages).Holds messages := by
    rw [closedBus_eq]
    exact ⟨hholds.published, hholds.kept⟩
  have hcapacity : (closedBus capacity before messages).capacity = Bus.roundUp capacity :=
    Bus.capacity_run _ _
  have hending : (closedBus capacity before messages).ending = .closed := by
    rw [closedBus_eq]
    rfl
  rw [hclosed.drain, hclosed.oldest, hcapacity, hending, answersTo, Nat.zero_max, Nat.sub_zero]
  simp only [Nat.sub_pos_iff_lt]

/-- A listener ends, and what its observers keep, count and log is, for each of the last envelopes
that the bus keeps and in the order in which they were published, what every observer makes of the
envelope, in the order of registration. The listener is told of these envelopes by asking the bus
until the bus is closed. -/
theorem session_delivers (capacity : Nat) (observers : List Observer)
    (before messages : List Envelope) :
    ∃ kept, IsLeast {k | k.isPowerOfTwo ∧ capacity ≤ k} kept ∧
      (∃ asks, (closedBus capacity before messages).told 0 (List.replicate asks (.receive 0)) =
        answersTo messages kept) ∧
      session capacity observers before messages =
        { seen := (messages.drop (messages.length - kept)).flatMap
            (fun e => (observers.filterMap Observer.recorderName?).map (·, e))
          logged := observers.count .detectionLogger * min messages.length kept
          events := before.map (fun _ => unheard) ++
            (observers.map Observer.registration ++ [start observers]) ++
            ((if kept < messages.length then [missedNotice (messages.length - kept)] else []) ++
              (messages.drop (messages.length - kept)).flatMap
                (fun e => .debug ("[BackgroundService] Message from " ++ e.url) ::
                  observers.flatMap (fun o => (o.observe e).events)) ++ [closedNotice]) } := by
  have hdrain := drain_closedBus capacity before messages
  refine ⟨_, Bus.isLeast_roundUp capacity, ?_, ?_⟩
  · obtain ⟨-, -, hpositions⟩ := (holds_listening capacity).run_publish rfl rfl messages
    have hposition : (closedBus capacity before messages).positions[0]? = some (some 0) := by
      rw [closedBus_eq]
      exact congrArg (·[0]?) hpositions
    obtain ⟨asks, hasks⟩ := Bus.exists_drain_eq_told hposition
    exact ⟨asks, hasks.symm.trans hdrain⟩
  · have hearly : publishAll (.ofCapacity capacity) before =
        (before.map (fun _ => unheard), .ofCapacity capacity) :=
      publishAll_of_not_hasReceivers rfl rfl
    have hsubscribe : (Bus.ofCapacity capacity : Bus Envelope).subscribe? =
        some (0, listening capacity) := rfl
    have hlate : publishAll (listening capacity) messages =
        ([], (listening capacity).run (messages.map .publish)) :=
      publishAll_of_hasReceivers (holds_listening capacity) rfl rfl
    have hstart : (Bus.ofCapacity capacity : Bus Envelope).published = 0 := rfl
    rw [session, hearly]
    simp only [hsubscribe, hlate]
    rw [run, ← closedBus_eq capacity before messages, hstart, hdrain, handleAll_answersTo]
    simp only [Observed.append, List.append_nil, List.nil_append, Nat.zero_add, List.append_assoc]

end Listener

end PhraseMark
