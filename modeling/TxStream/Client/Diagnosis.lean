import TxStream.Client.ObservationFeed
import TxStream.Protocol.StreamDiagnosis

/-!
# Why an attachment ends

An attachment delivers items until one error, and its validator carries counters
from message to message. Neither has to be known to explain the error: it reports
the first of the rules that a message breaks behind the messages that were
delivered.

Main results:

* `ObservationValidator.validate_diagnoses` — one call behind accepted messages.
* `attachments_diagnosis` — both attachments, whatever the transport returns.
-/

namespace TxStream

open Wire Rust Run
open Proto.TransactionFrame (canonicalPayload? unresolvedPayload? epoch?)

-- ---------------------------------------------------------------------------
-- Rules
-- ---------------------------------------------------------------------------

/-- The last frame of these payloads. -/
def lastFrame (payloads : List Bytes) : Option ValidatedFrame :=
  (payloads.filterMap fun bytes => (ValidatedFrame.parse bytes).toOption).getLast?

/-- The rules for a canonical payload behind others. -/
def canonicalRules (mode : CanonicalStreamMode) (payloads : List Bytes) (bytes : Bytes) :
    List (Rule CanonicalStreamError) :=
  match ValidatedFrame.parse bytes with
  | .ok frame => frame.streamRules mode (lastFrame payloads) bytes
  | .error (.err invalid) => [⟨False, .invalidFrame invalid⟩]
  | .error .panic => []

/-- The rules for a message of the resolved stream behind delivered ones. -/
def Proto.ResolvedTransactionFrame.rules (mode : CanonicalStreamMode)
    (messages : List Proto.ResolvedTransactionFrame) (message : Proto.ResolvedTransactionFrame) :
    List (Rule Error) :=
  (canonicalRules mode (messages.map fun frame => frame.canonicalV1) message.canonicalV1).map
    (Rule.map .stream)

/-- The epochs of the messages are this one. -/
def SameEpoch (messages : List Proto.TransactionFrame) (epoch : UInt64) : Prop :=
  ∀ known ∈ messages.filterMap epoch?, known = epoch

/-- The rules for a message of the broader stream behind delivered ones. -/
def Proto.TransactionFrame.rules (mode : CanonicalStreamMode)
    (messages : List Proto.TransactionFrame) (message : Proto.TransactionFrame) :
    List (Rule Error) :=
  match message.payload with
  | some (.canonicalV1 bytes) =>
    (canonicalRules mode (messages.filterMap canonicalPayload?) bytes).map (Rule.map .stream) ++
      [⟨∀ epoch, message.epoch? = some epoch → SameEpoch messages epoch,
        .stream .producerEpochChanged⟩]
  | some (.unresolved raw) => [
    ⟨raw.producerEpoch ≠ 0 ∧ raw.structuralSequence ≠ 0
      ∧ (∀ previous ∈ messages.filterMap unresolvedPayload?,
        previous.structuralSequence < raw.structuralSequence)
      ∧ raw.reason.utf8ByteSize ≠ 0 ∧ raw.reason.utf8ByteSize ≤ 128,
      .invalidObservation "invalid unresolved identity"⟩,
    ⟨∃ view, tryNew raw.transaction = .ok view, .invalidObservation "invalid raw transaction"⟩,
    ⟨SameEpoch messages raw.producerEpoch, .stream .producerEpochChanged⟩]
  | none => [⟨False, .invalidObservation "missing payload"⟩]

-- ---------------------------------------------------------------------------
-- One canonical payload
-- ---------------------------------------------------------------------------

section Canonical

variable {mode : CanonicalStreamMode} {payloads : List Bytes}

/-- If all payloads are accepted, the accepted frames are what the payloads parse to. -/
theorem accepted_of_accepts {self : CanonicalStreamValidator}
    (h : Accepts CanonicalStreamValidator.validateResolved self payloads) :
    accepted (results CanonicalStreamValidator.validateResolved self payloads) =
      payloads.filterMap fun bytes => (ValidatedFrame.parse bytes).toOption := by
  induction payloads generalizing self with
  | nil => rfl
  | cons bytes payloads ih =>
    obtain ⟨frame, self', hOk, hRest⟩ := accepts_cons.mp h
    have hParse := (ObservationValidator.resolved_of_ok hOk).parse
    rw [results, hOk, List.filterMap_cons_some (by rw [hParse]; rfl)]
    exact congrArg _ (ih hRest)

/-- The validator remembers the last frame. -/
theorem remembers_lastFrame
    (h : Accepts CanonicalStreamValidator.validateResolved (.new mode) payloads) :
    (final CanonicalStreamValidator.validateResolved (.new mode) payloads).Remembers mode
      (lastFrame payloads) := by
  have hRemembers := CanonicalStreamValidator.remembers_accepted mode payloads
  rw [accepted_of_accepts h] at hRemembers
  exact hRemembers

/-- **One call of the canonical validator** behind accepted payloads. -/
theorem canonical_diagnoses
    (h : Accepts CanonicalStreamValidator.validateResolved (.new mode) payloads) (bytes : Bytes) :
    Diagnoses ((canonicalRules mode payloads bytes).map (Rule.map Fault.err))
      (outcome (CanonicalStreamValidator.validateResolved bytes
        (final CanonicalStreamValidator.validateResolved (.new mode) payloads))) := by
  unfold canonicalRules
  cases hParse : ValidatedFrame.parse bytes with
  | ok frame =>
    exact CanonicalStreamValidator.validateResolved_diagnoses (remembers_lastFrame h) hParse
  | error fault =>
    cases fault with
    -- `parse` has no panic, so its list of rules is never asked for
    | panic => exact absurd hParse (parse_noPanic bytes)
    | err invalid =>
      refine Or.inr ⟨_, .here id, ?_⟩
      rw [CanonicalStreamValidator.validateResolved, run_bind, hParse]
      rfl

end Canonical

-- ---------------------------------------------------------------------------
-- One message
-- ---------------------------------------------------------------------------

/-- The wrapper of an error and that of a panic can be put on in either order. -/
theorem map_stream (rules : List (Rule CanonicalStreamError)) :
    (rules.map (Rule.map Error.stream)).map (Rule.map Fault.err) =
      (rules.map (Rule.map Fault.err)).map (Rule.map (Fault.map Error.stream)) := by
  rw [List.map_map, List.map_map]
  rfl

/-- **One call of the resolved stream**, behind accepted messages. -/
theorem FastpathStream.validate_diagnoses {mode : CanonicalStreamMode}
    {messages : List Proto.ResolvedTransactionFrame}
    (h : Accepts FastpathStream.validate (.new mode) messages)
    (message : Proto.ResolvedTransactionFrame) :
    Diagnoses ((message.rules mode messages).map (Rule.map Fault.err))
      (outcome (FastpathStream.validate message
        (final FastpathStream.validate (.new mode) messages))) := by
  have hCanonical := canonical_diagnoses (FastpathStream.accepts_iff.mp h) message.canonicalV1
  rw [FastpathStream.final_validate, Proto.ResolvedTransactionFrame.rules, map_stream]
  -- the message is wrapped and unwrapped; the validator sees its bytes
  generalize final CanonicalStreamValidator.validateResolved _ _ = validator at hCanonical ⊢
  have hCall : outcome (FastpathStream.validate message validator) =
      ((outcome (CanonicalStreamValidator.validateResolved message.canonicalV1 validator)).mapError
        (Fault.map .stream)).map fun _ => ⟨message.canonicalV1⟩ := by
    unfold FastpathStream.validate
    cases CanonicalStreamValidator.validateResolved message.canonicalV1 validator <;> rfl
  rw [hCall]
  exact (hCanonical.mapError _).map _

namespace ObservationValidator

variable {self : ObservationValidator} {messages : List Proto.TransactionFrame}

/-- The epoch of a canonical message is read from its header. -/
theorem epoch?_of_resolved {bytes : Bytes} {frame : ValidatedFrame} (h : Resolved bytes frame) :
    epoch? ⟨some (.canonicalV1 bytes)⟩ = some frame.header.producerEpoch := by
  simp only [epoch?, h.parse]
  rfl

/-- Behind an epoch that agrees with the known one, either may be compared. -/
theorem forall_mem_some_iff {known : Option UInt64} {epoch : UInt64}
    (h : ∀ k ∈ known, k = epoch) (e : UInt64) :
    (∀ k ∈ some epoch, k = e) ↔ (∀ k ∈ known, k = e) ∧ epoch = e := by
  simp only [Option.mem_some_iff, forall_eq']
  exact ⟨fun hEq => ⟨fun k hk => (h k hk).trans hEq, hEq⟩, fun hBoth => hBoth.2⟩

/-- What the two counters of the validator say about accepted messages. -/
theorem counters_final (h : Accepts validate self messages) :
    (∀ sequence, (final validate self messages).structuralSequence < sequence ↔
      self.structuralSequence < sequence ∧
        ∀ raw ∈ messages.filterMap unresolvedPayload?, raw.structuralSequence < sequence) ∧
    ∀ epoch, (∀ known ∈ (final validate self messages).epoch, known = epoch) ↔
      (∀ known ∈ self.epoch, known = epoch) ∧ SameEpoch messages epoch := by
  -- each accepted message raises one counter to its own number and agrees with the epoch
  induction messages generalizing self with
  | nil => exact ⟨fun _ => (and_iff_left nofun).symm, fun _ => (and_iff_left nofun).symm⟩
  | cons message messages ih =>
    obtain ⟨item, self', hOk, hRest⟩ := accepts_cons.mp h
    obtain ⟨hSequence, hEpoch⟩ := ih hRest
    rw [final_cons, hOk, show state (.ok item self') = self' from rfl]
    match message with
    | ⟨some (.canonicalV1 bytes)⟩ =>
      obtain ⟨frame, canonical, hStep, hSame, -, rfl⟩ := validate_canonical_eq_ok.mp hOk
      refine ⟨hSequence, fun epoch => (hEpoch epoch).trans ?_⟩
      rw [SameEpoch, SameEpoch,
        List.filterMap_cons_some (epoch?_of_resolved (resolved_of_ok hStep)), List.forall_mem_cons,
        ← and_assoc, forall_mem_some_iff hSame]
    | ⟨some (.unresolved raw)⟩ =>
      obtain ⟨-, hLt, hSame, -, rfl⟩ := validate_unresolved_eq_ok.mp hOk
      refine ⟨fun sequence => (hSequence sequence).trans ?_, fun epoch => (hEpoch epoch).trans ?_⟩
      · rw [List.filterMap_cons_some (show unresolvedPayload? ⟨some (.unresolved raw)⟩ = some raw
          from rfl), List.forall_mem_cons, ← and_assoc]
        exact and_congr_left' (and_iff_right_of_imp fun hRaw => UInt64.lt_trans hLt hRaw).symm
      · rw [SameEpoch, SameEpoch, List.filterMap_cons_some (show epoch? ⟨some (.unresolved raw)⟩ =
          some raw.producerEpoch from rfl), List.forall_mem_cons, ← and_assoc,
          forall_mem_some_iff hSame]
    | ⟨none⟩ => cases hOk

/-- The shared epoch is one rule. -/
theorem observeEpoch_diagnoses {epoch : UInt64} {rule : Rule (Fault Error)}
    (hRule : rule.holds ↔ ∀ known ∈ self.epoch, known = epoch)
    (hError : rule.error = .err (.stream .producerEpochChanged)) (item : TransactionObservation) :
    Diagnoses [rule] (outcome ((do
      observeEpoch epoch
      return item : EStateM (Fault Error) ObservationValidator TransactionObservation) self)) := by
  by_cases hSame : ∀ known ∈ self.epoch, known = epoch
  · rw [bind_of_ok (observeEpoch_ok hSame)]
    exact (Diagnoses.ok item).cons (hRule.mpr hSame)
  · rw [bind_of_error (observeEpoch_error hSame)]
    exact Or.inr ⟨_, .here fun h => hSame (hRule.mp h), congrArg _ hError.symm⟩

/-- The raw transaction is one rule, whatever `try_new` finds wrong with it. -/
theorem tryNew_diagnoses (transaction : Bytes) :
    Diagnoses [⟨∃ view, tryNew transaction = .ok view,
      Fault.err (.invalidObservation "invalid raw transaction")⟩]
      (lift ((tryNew transaction).mapError fun _ =>
        Error.invalidObservation "invalid raw transaction")) := by
  cases tryNew transaction with
  | ok view => exact (Diagnoses.ok view).cons ⟨view, rfl⟩
  | error e =>
    refine Or.inr ⟨_, .here ?_, rfl⟩
    rintro ⟨view, hOk⟩
    cases hOk

/-- The checks of an unresolved payload, and those of its epoch. -/
theorem outcome_unresolved (raw : Proto.UnresolvedTransaction) (self : ObservationValidator) :
    outcome (validate ⟨some (.unresolved raw)⟩ self) =
      if raw.producerEpoch = 0 ∨ raw.structuralSequence = 0
          ∨ raw.structuralSequence ≤ self.structuralSequence ∨ raw.reason.utf8ByteSize = 0
          ∨ raw.reason.utf8ByteSize > 128 then
        .error (.err (.invalidObservation "invalid unresolved identity"))
      else lift ((tryNew raw.transaction).mapError fun _ =>
        Error.invalidObservation "invalid raw transaction") >>= fun _ => outcome ((do
          observeEpoch raw.producerEpoch
          return .unresolved ⟨raw⟩ :
            EStateM (Fault Error) ObservationValidator TransactionObservation)
          { self with structuralSequence := raw.structuralSequence }) := by
  show outcome ((validateUnresolved raw >>= fun _ => do
    observeEpoch raw.producerEpoch
    return TransactionObservation.unresolved ⟨raw⟩) self) = _
  split
  · next hIdentity =>
    have hStep : validateUnresolved raw self =
        .error (.err (.invalidObservation "invalid unresolved identity")) self := by
      rw [validateUnresolved, get_bind, if_pos hIdentity]
      rfl
    rw [bind_of_error hStep]
    rfl
  · next hIdentity =>
    cases hTransaction : tryNew raw.transaction with
    | error e =>
      have hStep : validateUnresolved raw self =
          .error (.err (.invalidObservation "invalid raw transaction")) self := by
        rw [validateUnresolved, get_bind, if_neg hIdentity, run_bind, hTransaction]
        rfl
      rw [bind_of_error hStep]
      rfl
    | ok view =>
      have hStep : validateUnresolved raw self =
          .ok () { self with structuralSequence := raw.structuralSequence } := by
        rw [validateUnresolved, get_bind, if_neg hIdentity, run_bind, hTransaction]
        rfl
      rw [bind_of_ok hStep]
      rfl

/-- **One call of the broader stream**, behind accepted messages. -/
theorem validate_diagnoses {mode : CanonicalStreamMode} (h : Accepts validate (.new mode) messages)
    (message : Proto.TransactionFrame) :
    Diagnoses ((message.rules mode messages).map (Rule.map Fault.err))
      (outcome (validate message (final validate (.new mode) messages))) := by
  obtain ⟨hSequence, hEpoch⟩ := counters_final h
  have hEpoch' : ∀ epoch, SameEpoch messages epoch ↔
      ∀ known ∈ (final validate (.new mode) messages).epoch, known = epoch :=
    fun epoch => ((hEpoch epoch).trans (and_iff_right nofun)).symm
  have hCanonical := canonical_diagnoses ((accepts_iff _ _).mp h).canonical
  have hFinal : (final validate (.new mode) messages).canonical =
      final CanonicalStreamValidator.validateResolved (.new mode)
        (messages.filterMap canonicalPayload?) := canonical_final h
  rw [← show (final validate (.new mode) messages).canonical = _ from hFinal] at hCanonical
  generalize final validate (.new mode) messages = self at *
  match message with
  | ⟨none⟩ => exact Or.inr ⟨_, .here id, rfl⟩
  | ⟨some (.canonicalV1 bytes)⟩ =>
    rw [Proto.TransactionFrame.rules, List.map_append, map_stream]
    have hBytes := hCanonical bytes
    show Diagnoses _ (outcome ((validateCanonical bytes >>= fun frame => do
      observeEpoch frame.header.producerEpoch
      return TransactionObservation.resolved ⟨bytes⟩) self))
    cases hStep : CanonicalStreamValidator.validateResolved bytes self.canonical with
    | error e canonical =>
      have hCall : validateCanonical bytes self = .error (e.map .stream) { self with canonical } := by
        rw [validateCanonical, hStep]
      rw [hStep] at hBytes
      rw [bind_of_error hCall]
      exact Or.inr ⟨_, firstBroken_append.mpr (Or.inl ((hBytes.error_iff.mp rfl).map _)), rfl⟩
    | ok frame canonical =>
      have hCall : validateCanonical bytes self = .ok frame { self with canonical } := by
        rw [validateCanonical, hStep]
      rw [hStep] at hBytes
      rw [bind_of_ok hCall]
      -- the rules of the canonical validator are kept, and the shared epoch comes behind them
      refine Diagnoses.prepend (kept_map.mpr (hBytes.ok_iff.mp ⟨frame, rfl⟩))
        (observeEpoch_diagnoses ?_ rfl _)
      show (∀ epoch, _ → _) ↔ _
      rw [epoch?_of_resolved (resolved_of_ok hStep)]
      simp only [Option.some.injEq, forall_eq']
      exact hEpoch' _
  | ⟨some (.unresolved raw)⟩ =>
    rw [outcome_unresolved]
    refine Diagnoses.check ?_ fun _ => ?_
    · show _ ↔ ¬ (_ ∧ _ ∧ _ ∧ _ ∧ _)
      rw [not_and_or, not_and_or, not_and_or, not_and_or, not_not, not_not, not_not, not_le]
      -- the order is compared with zero too, which the rule in front of it excludes
      refine or_congr_right (or_congr_right' fun hNonzero => or_congr_left ?_)
      have hPositive : (0 : UInt64) < raw.structuralSequence := UInt64.pos_iff_ne_zero.mpr hNonzero
      rw [← UInt64.not_lt, hSequence]
      exact not_congr (and_iff_right hPositive)
    · exact Diagnoses.bind (tryNew_diagnoses raw.transaction) fun _ _ =>
        observeEpoch_diagnoses (hEpoch' _) rfl _

end ObservationValidator

-- ---------------------------------------------------------------------------
-- Whole streams
-- ---------------------------------------------------------------------------

namespace Attachment

variable {ν μ α : Type}

/-- The error for the outcome at which an attachment stops. -/
def StopsWith (rules : μ → List (Rule Error)) : Message μ → Error → Prop
  | .message message, e => FirstBroken (rules message) e
  | .endOfStream, e => e = .endOfStream
  | .status code, e => e = .status code

/-- The answers of an attachment are explained by the rules for a message behind
others. -/
structure Explained (validate : μ → EStateM (Fault Error) ν α) (fresh : ν)
    (rules : List μ → μ → List (Rule Error)) (outcomes : List (Message μ)) (messages : List μ)
    (rest : List (Message μ)) : Prop where
  delivery : Delivery validate fresh outcomes messages rest
  /-- The messages that are delivered keep them. -/
  kept : ∀ before message after, messages = before ++ message :: after →
    Kept (rules before message)
  /-- The first outcome that is not delivered is answered by what it breaks. -/
  stops : ∀ last rest', rest = last :: rest' → ∃ e, StopsWith (rules messages) last e ∧
    ∀ n, messages.length < n → (calls validate n ⟨outcomes, fresh, false⟩).1[messages.length]? =
      some (some (.error (.err e)))

/-- A message that is accepted behind others keeps the rules behind them. -/
theorem kept_of_accepts {validate : μ → EStateM (Fault Error) ν α} {fresh : ν}
    {rules : List μ → μ → List (Rule Error)}
    (hRules : ∀ messages, Accepts validate fresh messages → ∀ message,
      Diagnoses ((rules messages message).map (Rule.map Fault.err))
        (outcome (validate message (final validate fresh messages))))
    {before after : List μ} {message : μ}
    (h : Accepts validate fresh (before ++ message :: after)) : Kept (rules before message) := by
  obtain ⟨hBefore, hMessage⟩ := accepts_append.mp h
  obtain ⟨item, validator, hOk, -⟩ := accepts_cons.mp hMessage
  refine kept_map.mp ((hRules before hBefore message).ok_iff.mp ⟨item, ?_⟩)
  rw [hOk]
  rfl

/-- **Any attachment**: if one call is diagnosed behind accepted messages, and does not
panic, then so is the whole stream. -/
theorem exists_explained {validate : μ → EStateM (Fault Error) ν α} {fresh : ν}
    {rules : List μ → μ → List (Rule Error)}
    (hReturns : ∀ frame validator, outcome (validate frame validator) ≠ .error .panic)
    (hRules : ∀ messages, Accepts validate fresh messages → ∀ message,
      Diagnoses ((rules messages message).map (Rule.map Fault.err))
        (outcome (validate message (final validate fresh messages))))
    (outcomes : List (Message μ)) :
    ∃ messages rest, Explained validate fresh rules outcomes messages rest := by
  obtain ⟨messages, rest, hDelivery⟩ := exists_delivery hReturns fresh outcomes
  refine ⟨messages, rest, hDelivery, ?_, ?_⟩
  · rintro before message after rfl
    exact kept_of_accepts hRules hDelivery.accepted
  · intro last rest' hRest
    obtain ⟨e, validator, hEnds, hCalls⟩ := hDelivery.ends last rest' hRest
    refine ⟨e, ?_, fun n hn => ?_⟩
    · match last with
      | .message message =>
        have hError := (hRules messages hDelivery.accepted message).error_iff.mp hEnds
        obtain ⟨e', hBroken, hEq⟩ := firstBroken_map.mp hError
        exact Fault.err.inj hEq ▸ hBroken
      | .endOfStream => exact hEnds
      | .status code => exact hEnds
    · -- the answers in front of the error are those of the delivered messages
      have hLength : ((results validate fresh messages).map some).length = messages.length := by
        rw [List.length_map, length_results]
      obtain ⟨k, rfl⟩ := Nat.exists_eq_add_of_lt hn
      rw [Nat.add_right_comm, hCalls, List.append_assoc,
        List.getElem?_append_right hLength.le, hLength, Nat.sub_self]
      rfl

end Attachment

/-- **Why an attachment ends**, on whatever the transport returns. Both attachments
deliver messages as long as these keep the rules behind the delivered ones, and end
with the error of the first rule that one breaks, or with that of the transport. -/
theorem attachments_diagnosis (mode : CanonicalStreamMode) :
    (∀ outcomes, ∃ messages rest, Attachment.Explained FastpathStream.validate (.new mode)
      (Proto.ResolvedTransactionFrame.rules mode) outcomes messages rest) ∧
    ∀ outcomes, ∃ messages rest, Attachment.Explained ObservationValidator.validate (.new mode)
      (Proto.TransactionFrame.rules mode) outcomes messages rest :=
  ⟨Attachment.exists_explained FastpathStream.validate_returns
      fun _ h => FastpathStream.validate_diagnoses h,
    Attachment.exists_explained ObservationValidator.validate_returns
      fun _ h => ObservationValidator.validate_diagnoses h⟩

end TxStream
