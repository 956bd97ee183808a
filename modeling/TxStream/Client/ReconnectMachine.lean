import TxStream.Client.Reconnect
import TxStream.Rust.Automaton

/-!
# The reconnecting wrapper as a state machine

`ReconnectingStream::next` is a loop in an async method: its await points hold
the attempt number and the rest of the loop in the future. Here is the wrapper
without loop and futures. A caller that waits is in one of three phases: it
receives, it backs off, or it subscribes.

* `connect_eq` — the loop at an attempt is the machine's turn for that attempt.
* `reconnect_machine` — the histories of the method are those of the machine.
-/

namespace TxStream

open Wire Rust

variable {κ : Type}

/-- What a pending call of `next` waits for, with all that its future holds. -/
inductive Phase (κ : Type) where
  /-- A message of the attachment. -/
  | receiving (stream : FastpathStream κ)
  /-- The timer in front of the attempt. -/
  | backingOff (attempt : Nat)
  /-- The answer to the attempt. -/
  | subscribing (attempt : Nat)

namespace ReconnectingStream

/-- What a call of `next`, or an answer to it, leads to. -/
abbrev Step (κ : Type) :=
  Turn (ReconnectingStream κ) (Option (Except Error FastpathEvent)) (Phase κ)

/-- What is awaited in a phase, from the wrapper as it is then. -/
@[reducible] def ask (self : ReconnectingStream κ) : Phase κ → Wait κ
  | .receiving stream => .message stream.stream
  | .backingOff attempt => .sleep (delay self.config attempt)
  | .subscribing _ => .subscribe self.filter.intoRequest

/-- The attempt with the given number, if there is one left. -/
def tryAttempt (self : ReconnectingStream κ) (attempt : Nat) : Step κ :=
  if attempt < self.config.maximumAttempts.toNat then
    if self.attachment > 0 ∨ attempt > 0 then .waits self (.backingOff attempt)
    else .waits self (.subscribing attempt)
  else .panics "internal error: entered unreachable code: positive attempt count"

/-- A call of `next`. -/
def begin (self : ReconnectingStream κ) : Step κ :=
  if self.terminal then .returns none self else
  match self.stream with
  | none => tryAttempt self 0
  | some stream =>
    if stream.failed then tryAttempt { self with stream := none } 0
    else .waits self (.receiving stream)

/-- The attempt failed. -/
def refuse (self : ReconnectingStream κ) (attempt : Nat) (error : Error) : Step κ :=
  if !retryable error ∨ attempt + 1 = self.config.maximumAttempts.toNat then
    .returns (some (.error error)) { self with terminal := true }
  else tryAttempt self (attempt + 1)

/-- A message of the attachment was received. -/
def onMessage (self : ReconnectingStream κ) (stream : FastpathStream κ)
    (outcome : Message Proto.ResolvedTransactionFrame) : Step κ :=
  match Attachment.receive FastpathStream.validate outcome stream.validator with
  | .ok tx validator => .returns (some (.ok (.transaction tx)))
      { self with stream := some { stream with validator, failed := false } }
  | .error .panic _ => .panics "validate_resolved"
  | .error (.err error) validator =>
    if !retryable error then
      .returns (some (.error error))
        { self with stream := some { stream with validator, failed := true }, terminal := true }
    else tryAttempt { self with stream := none } 0

/-- The attempt was answered. -/
def onAnswer (self : ReconnectingStream κ) (attempt : Nat) (answer : Option (Except Code κ)) :
    Step κ :=
  match answer with
  | none => refuse self attempt .subscribeTimeout
  | some (.error code) => refuse self attempt (.status code)
  | some (.ok stream) =>
    match u64CheckedAdd self.attachment 1 with
    | none => .panics "attempt to add with overflow"
    | some attachment => .returns (some (.ok (.streamReset attachment)))
        { self with stream := some (.new self.filter.mode stream), attachment }

/-- The answer in a phase. -/
def respond (self : ReconnectingStream κ) :
    (phase : Phase κ) → Wait.Answer (ask self phase) → Step κ
  | .receiving stream, outcome => onMessage self stream outcome
  | .backingOff attempt, () => .waits self (.subscribing attempt)
  | .subscribing attempt, answer => onAnswer self attempt answer

/-- The wrapper without its loop. -/
def machine : Automaton (Wait κ) Wait.Answer (ReconnectingStream κ)
    (Option (Except Error FastpathEvent)) (Phase κ) where
  start := begin
  ask := ask
  respond := respond

-- ---------------------------------------------------------------------------
-- The futures of the machine
-- ---------------------------------------------------------------------------

/-- The turns of the loop behind an attempt. -/
def retries (self : ReconnectingStream κ) (attempt : Nat) :
    Pending κ (Option (Except Error FastpathEvent)) :=
  connect (attempt + 1) (self.config.maximumAttempts.toNat - (attempt + 1)) self

/-- What a pending call goes on with. -/
def resume (self : ReconnectingStream κ) :
    (phase : Phase κ) → Wait.Answer (ask self phase) →
      Pending κ (Option (Except Error FastpathEvent))
  | .receiving stream, outcome => received self stream outcome
  | .backingOff attempt, () => .pending self (.subscribe self.filter.intoRequest)
      (answered attempt (retries self attempt) self)
  | .subscribing attempt, answer => answered attempt (retries self attempt) self answer

/-- A future of the machine. -/
abbrev flat (step : Step κ) : Pending κ (Option (Except Error FastpathEvent)) :=
  machine.future resume step

/-- **The loop at an attempt** is the machine's turn for it. -/
theorem connect_eq (self : ReconnectingStream κ) (attempt : Nat) :
    connect attempt (self.config.maximumAttempts.toNat - attempt) self =
      flat (tryAttempt self attempt) := by
  unfold tryAttempt
  by_cases hLeft : attempt < self.config.maximumAttempts.toNat
  · -- the loop counts what is left, the machine what was tried
    have hRemaining : self.config.maximumAttempts.toNat - attempt =
        self.config.maximumAttempts.toNat - (attempt + 1) + 1 := by omega
    rw [hRemaining, connect_succ, if_pos hLeft, subscribeOnce_apply]
    split
    · rfl
    · rfl
  · rw [if_neg hLeft, Nat.sub_eq_zero_of_le (Nat.le_of_not_lt hLeft)]
    rfl

/-- A failed subscription: the loop goes on where the machine does. -/
theorem refused_eq (self : ReconnectingStream κ) (attempt : Nat) (error : Error) :
    refused attempt (retries self attempt) self error = flat (refuse self attempt error) := by
  unfold refused refuse
  split
  · rfl
  · exact connect_eq self (attempt + 1)

/-- An answer to a subscription has the same future in the loop and in the machine. -/
theorem answered_eq (self : ReconnectingStream κ) (attempt : Nat)
    (answer : Option (Except Code κ)) :
    answered attempt (retries self attempt) self answer =
      flat (onAnswer self attempt answer) := by
  match answer with
  | none => exact refused_eq self attempt .subscribeTimeout
  | some (.error code) => exact refused_eq self attempt (.status code)
  | some (.ok stream) =>
    unfold answered onAnswer
    dsimp only
    cases u64CheckedAdd self.attachment 1 with
    | none => rfl
    | some attachment => rfl

/-- And so has the outcome of a message, also where the attempts start over. -/
theorem received_eq (self : ReconnectingStream κ) (stream : FastpathStream κ)
    (outcome : Message Proto.ResolvedTransactionFrame) :
    received self stream outcome = flat (onMessage self stream outcome) := by
  unfold received onMessage
  cases Attachment.receive FastpathStream.validate outcome stream.validator with
  | ok tx validator => rfl
  | error fault validator =>
    cases fault with
    | panic => rfl
    | err error =>
      dsimp only
      split
      · rfl
      · exact connect_eq { self with stream := none } 0

/-- An attachment that has failed is dropped without an await. -/
theorem next_failed {self : ReconnectingStream κ} {stream : FastpathStream κ}
    (hTerminal : self.terminal = false) (hStream : self.stream = some stream)
    (hFailed : stream.failed = true) :
    next self = connect 0 self.config.maximumAttempts.toNat { self with stream := none } := by
  show (if self.terminal then _ else _ : Method κ _) self = _
  rw [if_neg (by rw [hTerminal]; exact Bool.false_ne_true), hStream]
  show (((FastpathStream.next stream).mapState fun stream =>
    { self with stream := some stream }).bind _) = _
  rw [show FastpathStream.next stream = _ from Attachment.next_failed hFailed]
  rfl

/-- A call begins with the machine's turn. -/
theorem next_eq (self : ReconnectingStream κ) : next self = flat (begin self) := by
  unfold begin
  by_cases hTerminal : self.terminal = true
  · rw [if_pos hTerminal]
    exact next_terminal hTerminal
  · rw [if_neg hTerminal]
    rw [Bool.not_eq_true] at hTerminal
    -- the same three cases: no attachment, one that has failed, one that is live
    match hStream : self.stream with
    | none =>
      rw [next_connect hTerminal hStream]
      exact connect_eq self 0
    | some stream =>
      dsimp only
      by_cases hFailed : stream.failed = true
      · rw [if_pos hFailed, next_failed hTerminal hStream hFailed]
        exact connect_eq { self with stream := none } 0
      · rw [if_neg hFailed]
        rw [Bool.not_eq_true] at hFailed
        exact next_message hTerminal hStream hFailed

/-- `next` is the machine, future by future. -/
def machine_implements : (machine (κ := κ)).Implements next where
  resume := resume
  start_eq := next_eq
  respond_eq := by
    intro self phase answer
    match phase, answer with
    | .receiving stream, outcome => exact received_eq self stream outcome
    | .backingOff attempt, () => rfl
    | .subscribing attempt, answer => exact answered_eq self attempt answer

end ReconnectingStream

open ReconnectingStream (machine resume)

/-- **The wrapper is a state machine.** What can be seen of `next`, and where its
caller can be, is what the machine allows: between calls only the wrapper counts,
and a pending call is the wrapper with a phase. -/
theorem reconnect_machine (self : ReconnectingStream κ) (history caller) :
    Traced ReconnectingStream.next self history caller ↔
      ∃ station, machine.Runs .free self () history station () ∧
        caller = machine.caller resume station :=
  ReconnectingStream.machine_implements.traced_iff

end TxStream
