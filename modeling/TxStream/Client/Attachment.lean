import TxStream.Client.Observations
import TxStream.Rust.Async

/-!
# `FastpathStream` and `TransactionStream`

An attachment is a transport stream with a validator in front. `next` of the two
kinds of attachment does the same around different validators: it is one
definition with the validator as an argument. Another argument is `message()` of
the transport, which is outside of the repository.

Here the transport is the list of what its `message()` calls will return: a call
that finds the list empty is pending. `calls n` makes up to `n` calls of `next`,
each once the one before it has returned.

Main results:

* `exists_delivery` — an attachment delivers the longest prefix of acceptable
  messages, then one error, then `None` for ever.
* `attachment_delivery` — the same for both attachments, with what their items
  contain.
-/

namespace TxStream

open Wire Rust

/-- What `FastpathStream` and `TransactionStream` have in common: a transport stream, a
validator, and whether an error was returned. -/
structure Attachment (κ ν : Type) where
  stream : κ
  validator : ν
  failed : Bool

namespace Attachment

variable {Op : Type} {Res : Op → Type} {κ ν μ α : Type}

/-- What `match self.stream.message().await` makes of one transport outcome. -/
def receive (validate : μ → EStateM (Fault Error) ν α) (outcome : Message μ) :
    EStateM (Fault Error) ν α :=
  match outcome with
  | .message frame => validate frame
  | .endOfStream => run (fail .endOfStream)
  | .status code => run (fail (.status code))

/-- A method call on `self.validator`, whose error is a value here. -/
def onValidator (method : EStateM (Fault Error) ν α) :
    Async Op Res (Attachment κ ν) (Except (Fault Error) α) := fun self =>
  match method self.validator with
  | .ok item validator => .ready (.ok item) { self with validator }
  | .error e validator => .ready (.error e) { self with validator }

/-- `next`, over `self.stream.message()`. -/
def next (message : Async Op Res (Attachment κ ν) (Message μ))
    (validate : μ → EStateM (Fault Error) ν α) :
    Async Op Res (Attachment κ ν) (Option (Except (Fault Error) α)) := do
  if (← get).failed then return none
  let outcome ← message
  let result ← onValidator (receive validate outcome)
  modify fun self => { self with failed := !result.isOk }
  return some result

/-- After an error `next` returns at once. -/
theorem next_failed {message : Async Op Res (Attachment κ ν) (Message μ)}
    {validate : μ → EStateM (Fault Error) ν α} {self : Attachment κ ν}
    (h : self.failed = true) : next message validate self = .ready none self := by
  show (if self.failed then pure none else _ : Async Op Res _ _) self = _
  rw [if_pos h]
  rfl

/-- Otherwise it awaits a message, and writes the flag behind the validator. -/
theorem next_of_not_failed {message : Async Op Res (Attachment κ ν) (Message μ)}
    {validate : μ → EStateM (Fault Error) ν α} {self : Attachment κ ν}
    (h : self.failed = false) :
    next message validate self = (message self).bind fun outcome self =>
      (onValidator (receive validate outcome) self).bind fun result self =>
        .ready (some result) { self with failed := !result.isOk } := by
  show (if self.failed then pure none else _ : Async Op Res _ _) self = _
  rw [if_neg (by rw [h]; exact Bool.false_ne_true)]
  rfl

/-- `message()` of a transport that is the list of its outcomes. -/
def pop : Async Unit (fun _ => Empty) (Attachment (List (Message μ)) ν) (Message μ) := fun self =>
  match self.stream with
  | [] => .pending self () nofun
  | outcome :: stream => .ready outcome { self with stream }

/-- One call of `next`; without a result while `message()` is pending. -/
def poll (validate : μ → EStateM (Fault Error) ν α) (self : Attachment (List (Message μ)) ν) :
    Option (Option (Except (Fault Error) α) × Attachment (List (Message μ)) ν) :=
  (next pop validate self).now?

/-- Up to `n` calls: their results, and the attachment after them. -/
def calls (validate : μ → EStateM (Fault Error) ν α) :
    Nat → Attachment (List (Message μ)) ν →
      List (Option (Except (Fault Error) α)) × Attachment (List (Message μ)) ν
  | 0, self => ([], self)
  | n + 1, self =>
    match poll validate self with
    | none => ([], self)
    | some (result, self') =>
      let (results, self'') := calls validate n self'
      (result :: results, self'')

end Attachment

/-- `FastpathStream`: the validator is the canonical one. -/
abbrev FastpathStream (κ : Type) := Attachment κ CanonicalStreamValidator

namespace FastpathStream

/-- `validate_resolved(&frame.canonical_v1)`, with the message's bytes as the item. -/
def validate (frame : Proto.ResolvedTransactionFrame) :
    EStateM (Fault Error) CanonicalStreamValidator ResolvedTransaction := fun validator =>
  match CanonicalStreamValidator.validateResolved frame.canonicalV1 validator with
  | .ok _ validator => .ok ⟨frame.canonicalV1⟩ validator
  | .error e validator => .error (e.map .stream) validator

/-- The attachment that `subscribe` returns. -/
def new {κ : Type} (mode : CanonicalStreamMode) (stream : κ) : FastpathStream κ where
  stream := stream
  validator := .new mode
  failed := false

end FastpathStream

/-- `TransactionStream`: the validator is that of observations. -/
abbrev TransactionStream (κ : Type) := Attachment κ ObservationValidator

namespace TransactionStream

variable {Op : Type} {Res : Op → Type} {κ : Type}

/-- The attachment that `subscribe_transactions` returns. -/
def new (mode : CanonicalStreamMode) (stream : κ) : TransactionStream κ where
  stream := stream
  validator := .new mode
  failed := false

/-- `next`, over `self.stream.message()`. -/
def next (message : Async Op Res (TransactionStream κ) (Message Proto.TransactionFrame)) :
    Async Op Res (TransactionStream κ) (Option (Except (Fault Error) TransactionObservation)) :=
  Attachment.next message ObservationValidator.validate

end TransactionStream

-- ---------------------------------------------------------------------------
-- Terminal delivery
-- ---------------------------------------------------------------------------

namespace Attachment

variable {ν μ α : Type} {validate : μ → EStateM (Fault Error) ν α} {fresh : ν}

/-- The error that ends an attachment whose validator is in the given state. -/
def EndsWith (validate : μ → EStateM (Fault Error) ν α) (validator : ν) (e : Error) :
    Message μ → Prop
  | .message frame => Run.outcome (validate frame validator) = .error (.err e)
  | .endOfStream => e = .endOfStream
  | .status code => e = .status code

/-- An attachment delivers these messages of its outcomes and stops at the rest. -/
structure Delivery (validate : μ → EStateM (Fault Error) ν α) (fresh : ν)
    (outcomes : List (Message μ)) (messages : List μ) (rest : List (Message μ)) : Prop where
  /-- The messages are a prefix of the outcomes. -/
  split : outcomes = messages.map .message ++ rest
  accepted : Run.Accepts validate fresh messages
  /-- No longer prefix of messages is accepted. -/
  longest : ∀ frame rest', rest = .message frame :: rest' →
    ¬ Run.Accepts validate fresh (messages ++ [frame])
  /-- Each of the first calls consumes one outcome and returns the accepted item. -/
  delivered : ∀ n ≤ messages.length, calls validate n ⟨outcomes, fresh, false⟩ =
    ((Run.results validate fresh (messages.take n)).map some,
      ⟨outcomes.drop n, Run.final validate fresh (messages.take n), false⟩)
  /-- Then a call waits for as long as the transport does. -/
  waits : rest = [] → poll validate ⟨rest, Run.final validate fresh messages, false⟩ = none
  /-- Or it returns one error, and every later call `None`, with the transport untouched. -/
  ends : ∀ last rest', rest = last :: rest' →
    ∃ e validator, EndsWith validate (Run.final validate fresh messages) e last ∧
      ∀ k, calls validate (messages.length + 1 + k) ⟨outcomes, fresh, false⟩ =
        ((Run.results validate fresh messages).map some ++ [some (.error (.err e))]
          ++ List.replicate k none, ⟨rest', validator, true⟩)

/-- One call that finds an outcome. -/
theorem poll_cons (outcome : Message μ) (stream : List (Message μ)) (validator : ν) :
    poll validate ⟨outcome :: stream, validator, false⟩ =
      match receive validate outcome validator with
      | .ok item validator' => some (some (.ok item), ⟨stream, validator', false⟩)
      | .error e validator' => some (some (.error e), ⟨stream, validator', true⟩) := by
  rw [poll, next_of_not_failed rfl]
  show ((onValidator (receive validate outcome) ⟨stream, validator, false⟩).bind _).now? = _
  unfold onValidator
  cases receive validate outcome validator with
  | ok item validator' => rfl
  | error e validator' => rfl

/-- A failed attachment returns `None` and consumes nothing. -/
theorem calls_failed (stream : List (Message μ)) (validator : ν) (n : Nat) :
    calls validate n ⟨stream, validator, true⟩ =
      (List.replicate n none, ⟨stream, validator, true⟩) := by
  induction n with
  | zero => rfl
  | succ n ih =>
    rw [calls, poll, next_failed rfl]
    simp only [Future.now?, ih, List.replicate_succ]

/-- A message that is accepted is one call. -/
theorem calls_message {frame : μ} {item : α} {validator validator' : ν}
    (hOk : validate frame validator = .ok item validator') (stream : List (Message μ)) (n : Nat) :
    calls validate (n + 1) ⟨.message frame :: stream, validator, false⟩ =
      (some (.ok item) :: (calls validate n ⟨stream, validator', false⟩).1,
        (calls validate n ⟨stream, validator', false⟩).2) := by
  have hReceive : receive validate (.message frame) validator = .ok item validator' := hOk
  rw [calls, poll_cons, hReceive]

/-- An outcome that is not is the last one that a call takes. -/
theorem calls_error {outcome : Message μ} {e : Fault Error} {validator validator' : ν}
    (hError : receive validate outcome validator = .error e validator')
    (stream : List (Message μ)) (n : Nat) :
    calls validate (n + 1) ⟨outcome :: stream, validator, false⟩ =
      (some (.error e) :: List.replicate n none, ⟨stream, validator', true⟩) := by
  rw [calls, poll_cons, hError]
  simp only [calls_failed]

/-- Calls that find nothing to take return nothing more. -/
theorem calls_waits {n : Nat} {self self' : Attachment (List (Message μ)) ν}
    {values : List (Option (Except (Fault Error) α))}
    (hCalls : calls validate n self = (values, self')) (hWaits : poll validate self' = none)
    (k : Nat) : calls validate (n + k) self = (values, self') := by
  induction n generalizing self values with
  | zero =>
    obtain ⟨rfl, rfl⟩ := Prod.mk.inj hCalls
    cases k with
    | zero => rfl
    | succ k => rw [Nat.zero_add, calls, hWaits]
  | succ n ih =>
    rw [Nat.succ_add]
    rw [calls] at hCalls ⊢
    cases hFirst : poll validate self with
    | none =>
      rw [hFirst] at hCalls
      exact hCalls
    | some result =>
      obtain ⟨first, next⟩ := result
      rw [hFirst] at hCalls
      obtain ⟨rfl, rfl⟩ := Prod.mk.inj hCalls
      dsimp only
      rw [ih rfl]

/-- Where no outcome is left, further calls return nothing behind the accepted items. -/
theorem Delivery.calls_waits {outcomes : List (Message μ)} {messages : List μ}
    {rest : List (Message μ)} (h : Delivery validate fresh outcomes messages rest)
    (hRest : rest = []) (k : Nat) :
    calls validate (messages.length + k) ⟨outcomes, fresh, false⟩ =
      ((Run.results validate fresh messages).map some,
        ⟨[], Run.final validate fresh messages, false⟩) := by
  have hAll := h.delivered messages.length (Nat.le_refl _)
  have hEmpty : outcomes.drop messages.length = [] := by
    rw [h.split, hRest, List.append_nil, List.drop_eq_nil_iff, List.length_map]
  rw [hEmpty, List.take_length] at hAll
  have hWaits := h.waits hRest
  rw [hRest] at hWaits
  exact Attachment.calls_waits hAll hWaits k

/-- An outcome that is not accepted ends the attachment at once. -/
theorem delivery_error {outcome : Message μ} {e : Error} {validator : ν}
    (hError : receive validate outcome fresh = .error (.err e) validator)
    (outcomes : List (Message μ)) : Delivery validate fresh (outcome :: outcomes) []
      (outcome :: outcomes) where
  split := rfl
  accepted := Run.accepts_nil
  longest := by
    intro frame rest' hRest hAccepts
    obtain ⟨rfl, -⟩ := List.cons.inj hRest
    obtain ⟨item, validator', hOk, -⟩ := Run.accepts_cons.mp hAccepts
    exact nomatch hError.symm.trans hOk
  delivered := by
    intro n hn
    obtain rfl := Nat.le_zero.mp hn
    rfl
  waits := nofun
  ends := by
    intro last rest' hRest
    obtain ⟨rfl, rfl⟩ := List.cons.inj hRest
    refine ⟨e, validator, ?_, fun k => ?_⟩
    · cases outcome with
      | message frame =>
        show Run.outcome (validate frame fresh) = _
        rw [show validate frame fresh = _ from hError]
        rfl
      | endOfStream => exact (Fault.err.inj (EStateM.Result.error.inj hError).1).symm
      | status code => exact (Fault.err.inj (EStateM.Result.error.inj hError).1).symm
    · rw [List.length_nil, Nat.zero_add, Nat.add_comm, calls_error hError]
      rfl

/-- An accepted message in front of a delivery is delivered first. -/
theorem delivery_cons {frame : μ} {item : α} {validator : ν}
    (hOk : validate frame fresh = .ok item validator) {outcomes : List (Message μ)}
    {messages : List μ} {rest : List (Message μ)}
    (h : Delivery validate validator outcomes messages rest) :
    Delivery validate fresh (.message frame :: outcomes) (frame :: messages) rest := by
  -- a run behind an accepted message is a run from the state that it leads to
  have hAccepts : ∀ frames, Run.Accepts validate fresh (frame :: frames) ↔
      Run.Accepts validate validator frames := by
    intro frames
    rw [Run.accepts_cons]
    constructor
    · rintro ⟨item', validator', hOk', hRest⟩
      obtain ⟨rfl, rfl⟩ := EStateM.Result.ok.inj (hOk.symm.trans hOk')
      exact hRest
    · exact fun hRest => ⟨item, validator, hOk, hRest⟩
  have hResults : ∀ frames, Run.results validate fresh (frame :: frames) =
      .ok item :: Run.results validate validator frames := by
    intro frames
    rw [Run.results, hOk]
    rfl
  have hFinal : ∀ frames, Run.final validate fresh (frame :: frames) =
      Run.final validate validator frames := by
    intro frames
    rw [Run.final_cons, hOk]
    rfl
  refine ⟨congrArg _ h.split, (hAccepts _).mpr h.accepted, ?_, ?_, ?_, ?_⟩
  · intro frame' rest' hRest hLonger
    exact h.longest frame' rest' hRest ((hAccepts _).mp hLonger)
  · intro n hn
    cases n with
    | zero => rfl
    | succ n =>
      -- the first call takes the message, and the others are those of the shorter delivery
      have hRest := h.delivered n (Nat.le_of_succ_le_succ hn)
      rw [calls_message hOk, hRest, List.take_succ_cons, hResults, hFinal]
      rfl
  · intro hRest
    rw [hFinal]
    exact h.waits hRest
  · intro last rest' hRest
    obtain ⟨e, validator', hEnds, hCalls⟩ := h.ends last rest' hRest
    refine ⟨e, validator', by rw [hFinal]; exact hEnds, fun k => ?_⟩
    have hCount : (frame :: messages).length + 1 + k = messages.length + 1 + k + 1 := by
      rw [List.length_cons]
      omega
    rw [hCount, calls_message hOk, hCalls, hResults]
    rfl

/-- **Terminal delivery.** For a validator that does not panic, whatever the
transport returns. -/
theorem exists_delivery
    (hReturns : ∀ frame validator, Run.outcome (validate frame validator) ≠ .error .panic)
    (fresh : ν) (outcomes : List (Message μ)) :
    ∃ messages rest, Delivery validate fresh outcomes messages rest := by
  induction outcomes generalizing fresh with
  | nil =>
    refine ⟨[], [], rfl, Run.accepts_nil, nofun, ?_, fun _ => rfl, nofun⟩
    intro n hn
    obtain rfl := Nat.le_zero.mp hn
    rfl
  | cons outcome outcomes ih =>
    cases hStep : receive validate outcome fresh with
    | ok item validator =>
      match outcome with
      | .message frame =>
        obtain ⟨messages, rest, h⟩ := ih validator
        exact ⟨frame :: messages, rest, delivery_cons (show validate frame fresh = _ from hStep) h⟩
      | .endOfStream => exact nomatch hStep
      | .status code => exact nomatch hStep
    | error fault validator =>
      cases fault with
      | err e => exact ⟨[], outcome :: outcomes, delivery_error hStep outcomes⟩
      | panic =>
        -- only the validator could panic
        match outcome with
        | .message frame =>
          exact absurd (by rw [show validate frame fresh = _ from hStep]; rfl)
            (hReturns frame fresh)
        | .endOfStream => exact nomatch hStep
        | .status code => exact nomatch hStep

end Attachment

-- ---------------------------------------------------------------------------
-- The items of both attachments
-- ---------------------------------------------------------------------------

namespace FastpathStream

/-- The wrapper around the canonical validator drops its frame and keeps the bytes. -/
theorem validate_eq_ok {frame : Proto.ResolvedTransactionFrame} {item : ResolvedTransaction}
    {validator validator' : CanonicalStreamValidator} :
    validate frame validator = .ok item validator' ↔
      ∃ f, CanonicalStreamValidator.validateResolved frame.canonicalV1 validator =
        .ok f validator' ∧ item = ⟨frame.canonicalV1⟩ := by
  unfold validate
  cases CanonicalStreamValidator.validateResolved frame.canonicalV1 validator with
  | ok f validator'' =>
    constructor
    · intro h
      obtain ⟨rfl, rfl⟩ := EStateM.Result.ok.inj h
      exact ⟨f, rfl, rfl⟩
    · rintro ⟨f', hOk, rfl⟩
      obtain ⟨-, rfl⟩ := EStateM.Result.ok.inj hOk
      rfl
  | error e validator'' => exact iff_of_false nofun fun ⟨f, hOk, _⟩ => nomatch hOk

/-- The state behind a message is that of the canonical validator. -/
theorem state_validate (frame : Proto.ResolvedTransactionFrame)
    (validator : CanonicalStreamValidator) :
    Run.state (validate frame validator) =
      Run.state (CanonicalStreamValidator.validateResolved frame.canonicalV1 validator) := by
  unfold validate
  cases CanonicalStreamValidator.validateResolved frame.canonicalV1 validator <;> rfl

/-- The state behind a run of messages is that of the canonical validator behind their
payloads. -/
theorem final_validate (validator : CanonicalStreamValidator)
    (frames : List Proto.ResolvedTransactionFrame) :
    Run.final validate validator frames =
      Run.final CanonicalStreamValidator.validateResolved validator
        (frames.map fun frame => frame.canonicalV1) := by
  induction frames generalizing validator with
  | nil => rfl
  | cons frame frames ih => rw [Run.final_cons, ih, state_validate, List.map_cons, Run.final_cons]

/-- The attachment accepts what its canonical validator accepts. -/
theorem accepts_iff {validator : CanonicalStreamValidator}
    {frames : List Proto.ResolvedTransactionFrame} :
    Run.Accepts validate validator frames ↔
      Run.Accepts CanonicalStreamValidator.validateResolved validator
        (frames.map fun frame => frame.canonicalV1) := by
  induction frames generalizing validator with
  | nil => exact iff_of_true Run.accepts_nil Run.accepts_nil
  | cons frame frames ih =>
    rw [List.map_cons, Run.accepts_cons, Run.accepts_cons]
    constructor
    · rintro ⟨item, validator', hStep, hRest⟩
      obtain ⟨f, hOk, -⟩ := validate_eq_ok.mp hStep
      exact ⟨f, validator', hOk, ih.mp hRest⟩
    · rintro ⟨f, validator', hOk, hRest⟩
      exact ⟨_, validator', validate_eq_ok.mpr ⟨f, hOk, rfl⟩, ih.mpr hRest⟩

/-- The canonical validator of the attachment does not panic. -/
theorem validate_returns (frame : Proto.ResolvedTransactionFrame)
    (validator : CanonicalStreamValidator) :
    Run.outcome (validate frame validator) ≠ .error .panic := by
  unfold validate
  rcases validator.validateResolved_cases frame.canonicalV1 with ⟨f, -, -, hOk⟩ | ⟨-, e, hError⟩
  · rw [hOk]
    exact nofun
  · rw [hError]
    exact nofun

end FastpathStream

/-- A validated item can be parsed again: `frame()` does not hit its `expect`. -/
theorem Resolved.frame_eq {bytes : Bytes} {f : ValidatedFrame} (h : Resolved bytes f) :
    (⟨bytes⟩ : ResolvedTransaction).frame = some f := by
  rw [ResolvedTransaction.frame, h.parse]
  rfl

namespace TransactionObservation

/-- The payload that an observation carries. -/
def payload : TransactionObservation → Proto.Payload
  | .resolved tx => .canonicalV1 tx.bytes
  | .unresolved tx => .unresolved tx.wire

end TransactionObservation

/-- Neither domain of the broader stream panics. -/
theorem ObservationValidator.validate_returns (message : Proto.TransactionFrame)
    (validator : ObservationValidator) :
    Run.outcome (validate message validator) ≠ .error .panic := by
  -- the shared epoch is checked behind either domain
  have hEpoch : ∀ (epoch : UInt64) (observation : TransactionObservation)
      (validator' : ObservationValidator),
      Run.outcome ((observeEpoch epoch >>= fun _ => pure observation) validator') ≠
        .error .panic := by
    intro epoch observation validator'
    by_cases h : ∀ e ∈ validator'.epoch, e = epoch
    · rw [bind_of_ok (observeEpoch_ok h)]
      intro hPanic
      cases hPanic
    · rw [bind_of_error (observeEpoch_error h)]
      intro hPanic
      cases hPanic
  obtain ⟨_ | bytes | raw⟩ := message
  · intro hPanic
    cases hPanic
  · show Run.outcome ((validateCanonical bytes >>= fun frame =>
      observeEpoch frame.header.producerEpoch >>= fun _ =>
        pure (TransactionObservation.resolved ⟨bytes⟩)) validator) ≠ _
    rcases validator.canonical.validateResolved_cases bytes with
      ⟨frame, -, -, hOk⟩ | ⟨-, e, hError⟩
    · have hStep : validateCanonical bytes validator =
          .ok frame { validator with canonical := validator.canonical.remember frame } := by
        rw [validateCanonical, hOk]
      rw [bind_of_ok hStep]
      exact hEpoch _ _ _
    · have hStep : validateCanonical bytes validator = .error (.err (.stream e)) validator := by
        rw [validateCanonical, hError]
        rfl
      rw [bind_of_error hStep]
      intro hPanic
      cases hPanic
  · show Run.outcome ((validateUnresolved raw >>= fun _ =>
      observeEpoch raw.producerEpoch >>= fun _ =>
        pure (TransactionObservation.unresolved ⟨raw⟩)) validator) ≠ _
    rcases validateUnresolved_cases raw validator with ⟨-, -, hStep⟩ | ⟨-, e, hStep⟩
    · rw [bind_of_ok hStep]
      exact hEpoch _ _ _
    · rw [bind_of_error hStep]
      intro hPanic
      cases hPanic

/-- **Terminal delivery of both attachments.** They deliver the longest accepted
prefix, one error, and `None` from then on. An item carries the bytes of its
message; they can be parsed again, to the frame that the validator accepted. -/
theorem attachment_delivery (mode : CanonicalStreamMode) :
    (∀ frames, Run.Accepts FastpathStream.validate (.new mode) frames ↔
      Run.Accepts CanonicalStreamValidator.validateResolved (.new mode)
        (frames.map fun frame => frame.canonicalV1)) ∧
    (∀ outcomes : List (Message Proto.ResolvedTransactionFrame), ∃ messages rest,
      Attachment.Delivery FastpathStream.validate (.new mode) outcomes messages rest ∧
      ∀ (i : Nat) (item : ResolvedTransaction),
        (Run.results FastpathStream.validate (.new mode) messages)[i]? = some (.ok item) →
        ∃ message f, messages[i]? = some message ∧
          item.canonicalBytes = message.canonicalV1 ∧
          (CanonicalStreamValidator.answers mode
            (messages.map fun message => message.canonicalV1))[i]? = some (.ok f) ∧
          item.frame = some f ∧ f.bytes = item.canonicalBytes) ∧
    ∀ outcomes : List (Message Proto.TransactionFrame), ∃ messages rest,
      Attachment.Delivery ObservationValidator.validate (.new mode) outcomes messages rest ∧
      ∀ (i : Nat) (item : TransactionObservation),
        (Run.results ObservationValidator.validate (.new mode) messages)[i]? = some (.ok item) →
        ∃ message, messages[i]? = some message ∧ message.payload = some item.payload ∧
          match item with
          | .resolved tx => ∃ f validator, tx.frame = some f ∧ f.bytes = tx.canonicalBytes ∧
            CanonicalStreamValidator.validateResolved tx.canonicalBytes
              (Run.final ObservationValidator.validate (.new mode) (messages.take i)).canonical =
                .ok f validator
          | .unresolved tx => ∃ view, tx.transaction = some view ∧
            view.data = tx.transactionBytes := by
  refine ⟨fun frames => FastpathStream.accepts_iff, fun outcomes => ?_, fun outcomes => ?_⟩
  · obtain ⟨messages, rest, hDelivery⟩ :=
      Attachment.exists_delivery FastpathStream.validate_returns (.new mode) outcomes
    refine ⟨messages, rest, hDelivery, fun i item hItem => ?_⟩
    obtain ⟨message, hMessage, validator', hStep⟩ := Run.step_of_result hItem
    obtain ⟨f, hOk, rfl⟩ := FastpathStream.validate_eq_ok.mp hStep
    have hResolved := ObservationValidator.resolved_of_ok hOk
    refine ⟨message, f, hMessage, rfl, ?_, hResolved.frame_eq, hResolved.bytes_eq⟩
    rw [CanonicalStreamValidator.answers, Run.getElem?_results, List.getElem?_map, hMessage,
      ← List.map_take, ← FastpathStream.final_validate]
    show some (Run.outcome _) = _
    rw [hOk]
    rfl
  · obtain ⟨messages, rest, hDelivery⟩ :=
      Attachment.exists_delivery ObservationValidator.validate_returns (.new mode) outcomes
    refine ⟨messages, rest, hDelivery, fun i item hItem => ?_⟩
    obtain ⟨message, hMessage, validator', hStep⟩ := Run.step_of_result hItem
    obtain ⟨_ | bytes | raw⟩ := message
    · cases hStep
    · obtain ⟨f, canonical, hOk, -, rfl, -⟩ :=
        ObservationValidator.validate_canonical_eq_ok.mp hStep
      have hResolved := ObservationValidator.resolved_of_ok hOk
      exact ⟨_, hMessage, rfl, f, canonical, hResolved.frame_eq, hResolved.bytes_eq, hOk⟩
    · obtain ⟨hValid, -, -, rfl, -⟩ := ObservationValidator.validate_unresolved_eq_ok.mp hStep
      obtain ⟨view, hView⟩ := hValid.accepted
      refine ⟨_, hMessage, rfl, view, ?_, tryNew_data hView⟩
      show (tryNew raw.transaction).toOption = _
      rw [hView]
      rfl

/-- The sample frame and the end of the stream: one item is delivered. -/
theorem attachment_delivery_sample :
    Run.Accepts FastpathStream.validate (.new .matchAll) [⟨samplePayload⟩] ∧
      ∃ rest, Attachment.Delivery FastpathStream.validate (.new .matchAll)
        [.message ⟨samplePayload⟩, .endOfStream] [⟨samplePayload⟩] rest := by
  obtain ⟨hAccepts, hDelivery, -⟩ := attachment_delivery .matchAll
  obtain ⟨validator, hOk⟩ := CanonicalStreamValidator.samplePayload_accepted .matchAll
  have hSample : Run.Accepts FastpathStream.validate (.new .matchAll) [⟨samplePayload⟩] :=
    (hAccepts _).mpr (Run.accepts_cons.mpr ⟨_, validator, hOk, Run.accepts_nil⟩)
  refine ⟨hSample, ?_⟩
  obtain ⟨messages, rest, h, -⟩ := hDelivery [.message ⟨samplePayload⟩, .endOfStream]
  refine ⟨rest, ?_⟩
  match messages, h.split with
  | [], hSplit => exact absurd hSample (h.longest _ _ hSplit.symm)
  | [message], hSplit =>
    obtain ⟨hFirst, -⟩ := List.cons.inj hSplit
    obtain rfl := (Message.message.inj hFirst).symm
    exact h
  | _ :: _ :: _, hSplit => exact nomatch (List.cons.inj (List.cons.inj hSplit).2).1

end TxStream
