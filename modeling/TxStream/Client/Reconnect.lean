import TxStream.Client.Attachment
import TxStream.Client.Filter

/-!
# `reconnect.rs` — the reconnecting wrapper

The model of `ReconnectingStream`. `next` awaits three things: a message of the
current attachment, a timer, and the answer to a subscription. They are the
operations of an async method, and the caller may drop it at each.

* `connect_succ` — one turn of the loop of subscription attempts.
* `next_terminal`, `next_connect`, `next_message` — the three ways `next` starts.
-/

namespace TxStream

open Wire Rust

/-- `std::time::Duration`. -/
structure Duration where
  nanos : Nat
  nanos_lt : nanos < 2 ^ 64 * 10 ^ 9
deriving DecidableEq

namespace Duration

/-- `Duration::from_millis`. -/
def ofMillis (millis : UInt64) : Duration where
  nanos := millis.toNat * 10 ^ 6
  nanos_lt := by
    have := millis.toNat_lt
    omega

/-- `Duration::is_zero`. -/
def isZero (self : Duration) : Bool := self.nanos == 0

/-- `self.saturating_mul(n)` for an `n: u32`. -/
def saturatingMul (self : Duration) (n : Nat) : Duration where
  nanos := min (self.nanos * n) (2 ^ 64 * 10 ^ 9 - 1)
  nanos_lt := by omega

/-- `Ord::min`. -/
def min (self other : Duration) : Duration := if self.nanos ≤ other.nanos then self else other

end Duration

/-- `ReconnectConfig`: how long to wait between attempts, and how many to make. -/
structure ReconnectConfig where
  initialDelay : Duration
  maximumDelay : Duration
  maximumAttempts : UInt32
deriving DecidableEq

/-- `ReconnectConfig::default()`: 250 ms to 10 s, five attempts. -/
def ReconnectConfig.default : ReconnectConfig where
  initialDelay := .ofMillis 250
  maximumDelay := .ofMillis 10000
  maximumAttempts := 5

/-- `FastpathEvent`: an attachment began, or delivered a transaction. -/
inductive FastpathEvent where
  | streamReset (attachment : UInt64)
  | transaction (tx : ResolvedTransaction)
deriving DecidableEq

/-- What `next` awaits. A transport stream is known by a handle. -/
inductive Wait (κ : Type) where
  /-- `message()` of a transport stream. -/
  | message (stream : κ)
  /-- `tokio::time::sleep`. -/
  | sleep (duration : Duration)
  /-- The subscription call of the generated client, under its timeout. -/
  | subscribe (request : Proto.SubscribeResolvedTransactionsRequest)

/-- What the environment answers; a subscription may elapse. -/
@[reducible] def Wait.Answer {κ : Type} : Wait κ → Type
  | .message _ => Message Proto.ResolvedTransactionFrame
  | .sleep _ => Unit
  | .subscribe _ => Option (Except Code κ)

/-- The wrapper. Of its client nothing is kept between calls. -/
structure ReconnectingStream (κ : Type) where
  filter : ResolvedFilter
  config : ReconnectConfig
  stream : Option (FastpathStream κ)
  attachment : UInt64
  terminal : Bool

variable {κ σ : Type}

/-- `FastpathStream::next`, with its validator. -/
def FastpathStream.next : Async (Wait κ) Wait.Answer (FastpathStream κ)
    (Option (Except (Fault Error) ResolvedTransaction)) :=
  Attachment.next (fun self => Async.await (Wait.message self.stream) self) FastpathStream.validate

/-- On an attachment that has not failed it awaits one message. The validator and the
flag are written behind the await, together. -/
theorem FastpathStream.next_apply {stream : FastpathStream κ} (h : stream.failed = false) :
    FastpathStream.next stream = .pending stream (.message stream.stream) fun outcome =>
      match Attachment.receive validate outcome stream.validator with
      | .ok tx validator => .ready (some (.ok tx)) { stream with validator, failed := false }
      | .error e validator => .ready (some (.error e)) { stream with validator, failed := true } := by
  refine (Attachment.next_of_not_failed h).trans ?_
  refine congrArg (Future.pending stream (Wait.message stream.stream)) ?_
  funext outcome
  show (Attachment.onValidator (Attachment.receive validate outcome) stream).bind _ = _
  unfold Attachment.onValidator
  cases Attachment.receive validate outcome stream.validator with
  | ok tx validator => rfl
  | error e validator => rfl

/-- `FastpathClient::subscribe`. The mode is taken of the filter before it becomes the
request; an error of the call is not told from one of the timer by anything but its
kind. -/
def FastpathClient.subscribe (filter : ResolvedFilter) :
    Async (Wait κ) Wait.Answer σ (Except Error (FastpathStream κ)) := do
  let mode := filter.mode
  let response : Option (Except Code κ) ← Async.await (Wait.subscribe filter.intoRequest)
  return match response with
    | none => .error .subscribeTimeout
    | some (.error code) => .error (.status code)
    | some (.ok stream) => .ok (.new mode stream)

/-- `delay`: the initial one doubled with each attempt, capped twice: in its factor and
by the maximum. -/
def delay (config : ReconnectConfig) (attempt : Nat) : Duration :=
  -- `2u32.saturating_pow(attempt)`
  (config.initialDelay.saturatingMul (min (2 ^ attempt) (2 ^ 32 - 1))).min config.maximumDelay

/-- `retryable`: what another attempt may cure. No error of the validator is among
them. -/
def retryable (error : Error) : Bool :=
  match error with
  | .endOfStream => true
  | .subscribeTimeout => true
  | .status .unavailable => true
  | .status .deadlineExceeded => true
  | _ => false

namespace ReconnectingStream

/-- `ReconnectingStream::new`: no attachment yet. -/
def new (filter : ResolvedFilter) (config : ReconnectConfig) :
    Except Error (ReconnectingStream κ) :=
  if config.initialDelay.isZero
      ∨ config.maximumDelay.nanos < config.initialDelay.nanos
      ∨ config.maximumAttempts = 0 then
    .error .invalidConfig
  else
    .ok { filter, config, stream := none, attachment := 0, terminal := false }

/-- A method of the wrapper: what is kept when its future is dropped is the wrapper. -/
abbrev Method (κ : Type) (α : Type) := Async (Wait κ) Wait.Answer (ReconnectingStream κ) α

/-- `self.attachment += 1`, with overflow checks. -/
def countAttachment : Method κ Unit := do
  match u64CheckedAdd (← get).attachment 1 with
  | none => Async.panic "attempt to add with overflow"
  | some attachment => modify fun self => { self with attachment }

/-- `self.terminal = true; return Some(Err(error))`. -/
def terminate (error : Error) : Method κ (Option (Except Error FastpathEvent)) := do
  modify fun self => { self with terminal := true }
  return some (.error error)

/-- The subscription of an attempt; `retry` is the next turn of the loop. -/
def subscribeOnce (attempt : Nat) (retry : Method κ (Option (Except Error FastpathEvent))) :
    Method κ (Option (Except Error FastpathEvent)) := do
  let self ← get
  match ← FastpathClient.subscribe self.filter with
  | .ok stream =>
    modify fun self => { self with stream := some stream }
    countAttachment
    return some (.ok (.streamReset (← get).attachment))
  | .error error =>
    if !retryable error ∨ attempt + 1 = self.config.maximumAttempts.toNat then
      terminate error
    else
      retry

/-- The loop over the attempts, at the given one and with the given number left. -/
def connect (attempt : Nat) : Nat → Method κ (Option (Except Error FastpathEvent))
  | 0 => Async.panic "internal error: entered unreachable code: positive attempt count"
  | remaining + 1 => do
    let self ← get
    if self.attachment > 0 ∨ attempt > 0 then
      let _ ← Async.await (Wait.sleep (delay self.config attempt))
    subscribeOnce attempt (connect (attempt + 1) remaining)

/-- `ReconnectingStream::next`. The count of attempts is a local variable of the loop,
so it begins at zero in every call. -/
def next : Method κ (Option (Except Error FastpathEvent)) := do
  let self ← get
  if self.terminal then return none
  match self.stream with
  | none => connect 0 self.config.maximumAttempts.toNat
  | some stream =>
    -- the attachment is a part of the wrapper, and is written back wherever it waits
    let result ← Async.field stream (fun self stream => { self with stream := some stream })
      FastpathStream.next
    match result with
    | some (.ok tx) => return some (.ok (.transaction tx))
    -- the validator has no panic; the branch is there for what it might have
    | some (.error .panic) => Async.panic "validate_resolved"
    | some (.error (.err error)) =>
      if !retryable error then
        terminate error
      else
        modify fun self => { self with stream := none }
        connect 0 self.config.maximumAttempts.toNat
    | none =>
      modify fun self => { self with stream := none }
      connect 0 self.config.maximumAttempts.toNat

-- ---------------------------------------------------------------------------
-- What `next` does, await by await
-- ---------------------------------------------------------------------------

/-- The future of a method of the wrapper. -/
abbrev Pending (κ : Type) (α : Type) := Future (Wait κ) Wait.Answer (ReconnectingStream κ) α

section Turns

variable (attempt : Nat) (retry : Pending κ (Option (Except Error FastpathEvent)))
  (self : ReconnectingStream κ)

/-- A subscription failed. -/
def refused (error : Error) : Pending κ (Option (Except Error FastpathEvent)) :=
  if !retryable error ∨ attempt + 1 = self.config.maximumAttempts.toNat then
    .ready (some (.error error)) { self with terminal := true }
  else retry

/-- A subscription was answered. -/
def answered (answer : Option (Except Code κ)) : Pending κ (Option (Except Error FastpathEvent)) :=
  match answer with
  | none => refused attempt retry self .subscribeTimeout
  | some (.error code) => refused attempt retry self (.status code)
  | some (.ok stream) =>
    match u64CheckedAdd self.attachment 1 with
    | none => .panicked "attempt to add with overflow"
    | some attachment => .ready (some (.ok (.streamReset attachment)))
        { self with stream := some (.new self.filter.mode stream), attachment }

end Turns

/-- A timeout is retried, if an attempt is left. -/
theorem answered_none {attempt : Nat} {retry : Pending κ (Option (Except Error FastpathEvent))}
    {self : ReconnectingStream κ} (hAgain : attempt + 1 ≠ self.config.maximumAttempts.toNat) :
    answered attempt retry self none = retry := by
  unfold answered refused
  refine if_neg ?_
  rintro (hFinal | hLast)
  · cases hFinal
  · exact hAgain hLast

/-- The subscription of an attempt is one await. -/
theorem subscribeOnce_apply (attempt : Nat)
    (retry : Method κ (Option (Except Error FastpathEvent))) (self : ReconnectingStream κ) :
    subscribeOnce attempt retry self =
      .pending self (.subscribe self.filter.intoRequest) (answered attempt (retry self) self) := by
  refine congrArg (Future.pending self (Wait.subscribe self.filter.intoRequest)) ?_
  -- every error of the subscription takes one of two ways
  have hRefused : ∀ error, (if !retryable error
      ∨ attempt + 1 = self.config.maximumAttempts.toNat then terminate error else retry) self =
        refused attempt (retry self) self error := by
    intro error
    unfold refused
    split
    · rfl
    · rfl
  funext answer
  -- the timer, an error of the call, a stream: then the attachment is counted
  match answer with
  | none => exact hRefused .subscribeTimeout
  | some (.error code) => exact hRefused (.status code)
  | some (.ok stream) =>
    show (countAttachment { self with stream := some (.new self.filter.mode stream) }).bind _ = _
    unfold countAttachment answered
    show ((match u64CheckedAdd self.attachment 1 with
      | none => Async.panic "attempt to add with overflow"
      | some attachment => modify fun self => { self with attachment } :
        Method κ Unit) { self with stream := some (.new self.filter.mode stream) }).bind _ = _
    cases u64CheckedAdd self.attachment 1 with
    | none => rfl
    | some attachment => rfl

/-- One turn of the loop: a sleep unless it is the very first one, and a subscription. -/
theorem connect_succ (attempt remaining : Nat) (self : ReconnectingStream κ) :
    connect attempt (remaining + 1) self =
      if self.attachment > 0 ∨ attempt > 0 then
        .pending self (.sleep (delay self.config attempt)) fun _ =>
          subscribeOnce attempt (connect (attempt + 1) remaining) self
      else subscribeOnce attempt (connect (attempt + 1) remaining) self := by
  rw [connect]
  show (if self.attachment > 0 ∨ attempt > 0 then _ else _ : Method κ _) self = _
  split
  · rfl
  · rfl

/-- A terminal wrapper has ended. -/
theorem next_terminal {self : ReconnectingStream κ} (h : self.terminal = true) :
    next self = .ready none self := by
  show (if self.terminal then pure none else _ : Method κ _) self = _
  rw [if_pos h]
  rfl

/-- Without an attachment `next` goes straight to its attempts. -/
theorem next_connect {self : ReconnectingStream κ} (hTerminal : self.terminal = false)
    (hStream : self.stream = none) :
    next self = connect 0 self.config.maximumAttempts.toNat self := by
  show (if self.terminal then _ else _ : Method κ _) self = _
  rw [if_neg (by rw [hTerminal]; exact Bool.false_ne_true), hStream]

/-- Before the first attachment the first attempt does not sleep. -/
theorem next_first {self : ReconnectingStream κ} {remaining : Nat}
    (hTerminal : self.terminal = false) (hStream : self.stream = none)
    (hAttachment : self.attachment = 0)
    (hAttempts : self.config.maximumAttempts.toNat = remaining + 1) :
    next self = .pending self (.subscribe self.filter.intoRequest)
      (answered 0 (connect 1 remaining self) self) := by
  have hFirst : ¬ (self.attachment > 0 ∨ 0 > 0) := by
    rw [hAttachment]
    decide
  rw [next_connect hTerminal hStream, hAttempts, connect_succ, if_neg hFirst, subscribeOnce_apply]

/-- A message of the current attachment was received. -/
def received (self : ReconnectingStream κ) (stream : FastpathStream κ)
    (outcome : Message Proto.ResolvedTransactionFrame) :
    Pending κ (Option (Except Error FastpathEvent)) :=
  match Attachment.receive FastpathStream.validate outcome stream.validator with
  | .ok tx validator => .ready (some (.ok (.transaction tx)))
      { self with stream := some { stream with validator, failed := false } }
  | .error .panic _ => .panicked "validate_resolved"
  | .error (.err error) validator =>
    if !retryable error then
      .ready (some (.error error))
        { self with stream := some { stream with validator, failed := true }, terminal := true }
    else
      connect 0 self.config.maximumAttempts.toNat { self with stream := none }

/-- A transaction is handed on, and the attachment stays. -/
theorem received_ok {self : ReconnectingStream κ} {stream : FastpathStream κ}
    {outcome : Message Proto.ResolvedTransactionFrame} {tx : ResolvedTransaction}
    {validator : CanonicalStreamValidator}
    (h : Attachment.receive FastpathStream.validate outcome stream.validator = .ok tx validator) :
    received self stream outcome = .ready (some (.ok (.transaction tx)))
      { self with stream := some { stream with validator, failed := false } } := by
  rw [received, h]

/-- An attachment is waited for before anything is written. -/
theorem next_message {self : ReconnectingStream κ} {stream : FastpathStream κ}
    (hTerminal : self.terminal = false) (hStream : self.stream = some stream)
    (hFailed : stream.failed = false) :
    next self = .pending self (.message stream.stream) (received self stream) := by
  show (if self.terminal then _ else _ : Method κ _) self = _
  rw [if_neg (by rw [hTerminal]; exact Bool.false_ne_true), hStream]
  -- the wrapper is as it was while it waits
  have hSelf : { self with stream := some stream } = self := by
    rw [← hStream]
  show (((FastpathStream.next stream).mapState fun stream =>
    { self with stream := some stream }).bind _) = _
  rw [FastpathStream.next_apply hFailed]
  show Future.pending { self with stream := some stream } (Wait.message stream.stream) _ = _
  rw [hSelf]
  refine congrArg (Future.pending self (Wait.message stream.stream)) ?_
  funext outcome
  unfold received
  dsimp only
  cases Attachment.receive FastpathStream.validate outcome stream.validator with
  | ok tx validator => rfl
  | error fault validator =>
    cases fault with
    | panic => rfl
    | err error =>
      show (if !retryable error then terminate error else _ : Method κ _) _ = _
      dsimp only
      by_cases hRetryable : (!retryable error) = true
      · rw [if_pos hRetryable, if_pos hRetryable]
        rfl
      · rw [if_neg hRetryable, if_neg hRetryable]
        rfl

end ReconnectingStream

end TxStream
