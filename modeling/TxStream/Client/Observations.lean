import TxStream.Client.Transport

/-!
# `observations.rs` — the broader stream

The model of `ObservationValidator` and the independence of its two sequence
domains. A message is canonical, unresolved or empty; canonical messages go
through the nested canonical validator, unresolved ones through a counter of
their own, and one epoch is shared.

Main results:

* `accepts_iff` — what the validator accepts is a statement about the canonical
  messages, one about the unresolved messages, and one about the epochs.
* `observation_domains` — hence interleaving plays no role.
-/

namespace TxStream

open Wire Rust

/-- `ObservationValidator`. Its epoch is not that of the canonical validator: it is set
by unresolved messages too. -/
structure ObservationValidator where
  canonical : CanonicalStreamValidator
  epoch : Option UInt64
  structuralSequence : UInt64
deriving DecidableEq

namespace ObservationValidator

/-- `ObservationValidator::new`. -/
def new (mode : CanonicalStreamMode) : ObservationValidator where
  canonical := .new mode
  epoch := none
  structuralSequence := 0

/-- `self.canonical.validate_resolved(&bytes)?`. -/
def validateCanonical (bytes : Bytes) : EStateM (Fault Error) ObservationValidator ValidatedFrame :=
  fun self =>
    match CanonicalStreamValidator.validateResolved bytes self.canonical with
    | .ok frame canonical => .ok frame { self with canonical }
    | .error e canonical => .error (e.map .stream) { self with canonical }

/-- The arm for an unresolved payload. -/
def validateUnresolved (raw : Proto.UnresolvedTransaction) :
    EStateM (Fault Error) ObservationValidator Unit := do
  let self ← get
  if raw.producerEpoch = 0
      ∨ raw.structuralSequence = 0
      ∨ raw.structuralSequence ≤ self.structuralSequence
      ∨ raw.reason.utf8ByteSize = 0
      ∨ raw.reason.utf8ByteSize > 128 then
    run (fail (.invalidObservation "invalid unresolved identity"))
  else
  let _ ← run (lift ((tryNew raw.transaction).mapError fun _ =>
    Error.invalidObservation "invalid raw transaction"))
  set { self with structuralSequence := raw.structuralSequence }

/-- The shared epoch, checked after either domain. -/
def observeEpoch (epoch : UInt64) : EStateM (Fault Error) ObservationValidator Unit := do
  let self ← get
  if self.epoch.any (· ≠ epoch) then run (fail (.stream .producerEpochChanged)) else
  set { self with epoch := some epoch }

/-- `ObservationValidator::validate`. The state of its own domain is written before the
shared epoch is checked. -/
def validate (frame : Proto.TransactionFrame) :
    EStateM (Fault Error) ObservationValidator TransactionObservation :=
  match frame.payload with
  | some (.canonicalV1 bytes) => do
    let frame ← validateCanonical bytes
    observeEpoch frame.header.producerEpoch
    return .resolved ⟨bytes⟩
  | some (.unresolved raw) => do
    validateUnresolved raw
    observeEpoch raw.producerEpoch
    return .unresolved ⟨raw⟩
  | none => run (fail (.invalidObservation "missing payload"))

-- ---------------------------------------------------------------------------
-- One message
-- ---------------------------------------------------------------------------

variable {self : ObservationValidator}

/-- The epoch is checked and written in one step. -/
theorem observeEpoch_eq (epoch : UInt64) (self : ObservationValidator) :
    observeEpoch epoch self =
      if self.epoch.any (· ≠ epoch) then .error (.err (.stream .producerEpochChanged)) self
      else .ok () { self with epoch := some epoch } := by
  rw [observeEpoch, get_bind]
  split <;> rfl

/-- The check of the source says that a known epoch is the same. -/
theorem any_ne_eq_false {epoch : UInt64} {known : Option UInt64} :
    known.any (· ≠ epoch) = false ↔ ∀ e ∈ known, e = epoch := by
  cases known <;> simp

/-- The same epoch, or the first one, is recorded. -/
theorem observeEpoch_ok {epoch : UInt64} (h : ∀ e ∈ self.epoch, e = epoch) :
    observeEpoch epoch self = .ok () { self with epoch := some epoch } := by
  rw [observeEpoch_eq, any_ne_eq_false.mpr h]
  rfl

/-- Another one leaves the validator alone. -/
theorem observeEpoch_error {epoch : UInt64} (h : ¬ ∀ e ∈ self.epoch, e = epoch) :
    observeEpoch epoch self = .error (.err (.stream .producerEpochChanged)) self := by
  rw [observeEpoch_eq, if_pos]
  rwa [← any_ne_eq_false, Bool.not_eq_false] at h

/-- When a canonical message is accepted, and what the validator is then. -/
theorem validate_canonical_eq_ok {bytes : Bytes} {observation : TransactionObservation}
    {self' : ObservationValidator} :
    validate ⟨some (.canonicalV1 bytes)⟩ self = .ok observation self' ↔
      ∃ frame canonical,
        CanonicalStreamValidator.validateResolved bytes self.canonical = .ok frame canonical ∧
        (∀ epoch ∈ self.epoch, epoch = frame.header.producerEpoch) ∧
        observation = .resolved ⟨bytes⟩ ∧
        self' = { self with canonical, epoch := some frame.header.producerEpoch } := by
  -- the canonical validator decides first, then the shared epoch
  cases hCanonical : CanonicalStreamValidator.validateResolved bytes self.canonical with
  | error e canonical =>
    have hStep : validateCanonical bytes self = .error (e.map .stream) { self with canonical } := by
      rw [validateCanonical, hCanonical]
    refine iff_of_false (fun h => ?_) ?_
    · exact nomatch (bind_of_error hStep).symm.trans h
    · rintro ⟨frame, canonical', hOk, -⟩
      exact nomatch hOk
  | ok frame canonical =>
    have hStep : validateCanonical bytes self = .ok frame { self with canonical } := by
      rw [validateCanonical, hCanonical]
    show (validateCanonical bytes >>= fun frame => do
      observeEpoch frame.header.producerEpoch
      return TransactionObservation.resolved ⟨bytes⟩) self = _ ↔ _
    rw [bind_of_ok hStep]
    by_cases hEpoch : ∀ epoch ∈ self.epoch, epoch = frame.header.producerEpoch
    · rw [bind_of_ok (@observeEpoch_ok { self with canonical } _ hEpoch)]
      constructor
      · intro h
        obtain ⟨rfl, rfl⟩ := EStateM.Result.ok.inj h
        exact ⟨frame, canonical, rfl, hEpoch, rfl, rfl⟩
      · rintro ⟨frame', canonical', hOk, -, rfl, rfl⟩
        obtain ⟨rfl, rfl⟩ := EStateM.Result.ok.inj hOk
        rfl
    · rw [bind_of_error (@observeEpoch_error { self with canonical } _ hEpoch)]
      refine iff_of_false nofun ?_
      rintro ⟨frame', canonical', hOk, hSame, -⟩
      obtain ⟨rfl, rfl⟩ := EStateM.Result.ok.inj hOk
      exact hEpoch hSame

/-- The unresolved messages that are acceptable at all. -/
structure UnresolvedValid (raw : Proto.UnresolvedTransaction) : Prop where
  epoch : raw.producerEpoch ≠ 0
  sequence : raw.structuralSequence ≠ 0
  one_le_reason : 1 ≤ raw.reason.utf8ByteSize
  reason_le : raw.reason.utf8ByteSize ≤ 128
  accepted : ∃ view, tryNew raw.transaction = .ok view

/-- **One unresolved payload** is valid and later than the last one, or it is refused
without a trace. -/
theorem validateUnresolved_cases (raw : Proto.UnresolvedTransaction)
    (self : ObservationValidator) :
    (UnresolvedValid raw ∧ self.structuralSequence < raw.structuralSequence ∧
      validateUnresolved raw self =
        .ok () { self with structuralSequence := raw.structuralSequence }) ∨
    (¬ (UnresolvedValid raw ∧ self.structuralSequence < raw.structuralSequence) ∧
      ∃ e, validateUnresolved raw self = .error (.err e) self) := by
  by_cases hIdentity : raw.producerEpoch = 0 ∨ raw.structuralSequence = 0
      ∨ raw.structuralSequence ≤ self.structuralSequence ∨ raw.reason.utf8ByteSize = 0
      ∨ raw.reason.utf8ByteSize > 128
  · refine Or.inr ⟨?_, .invalidObservation "invalid unresolved identity", ?_⟩
    · rintro ⟨hValid, hLt⟩
      -- each of the five tests of the guard breaks a field or the order
      rcases hIdentity with h | h | h | h | h
      · exact hValid.epoch h
      · exact hValid.sequence h
      · exact absurd hLt (UInt64.not_lt.mpr h)
      · have := hValid.one_le_reason
        omega
      · exact absurd hValid.reason_le (not_le.mpr h)
    · rw [validateUnresolved, get_bind, if_pos hIdentity]
      rfl
  · cases hTransaction : tryNew raw.transaction with
    | error e =>
      refine Or.inr ⟨?_, .invalidObservation "invalid raw transaction", ?_⟩
      · rintro ⟨hValid, -⟩
        obtain ⟨view, hView⟩ := hValid.accepted
        exact nomatch hView.symm.trans hTransaction
      · rw [validateUnresolved, get_bind, if_neg hIdentity, run_bind, hTransaction]
        rfl
    | ok view =>
      have hStep : validateUnresolved raw self =
          .ok () { self with structuralSequence := raw.structuralSequence } := by
        rw [validateUnresolved, get_bind, if_neg hIdentity, run_bind, hTransaction]
        rfl
      simp only [not_or, gt_iff_lt, not_lt, UInt64.not_le] at hIdentity
      obtain ⟨hEpoch, hSequence, hLt, hEmpty, hLong⟩ := hIdentity
      exact Or.inl ⟨⟨hEpoch, hSequence, Nat.one_le_iff_ne_zero.mpr hEmpty, hLong, view,
        hTransaction⟩, hLt, hStep⟩

/-- When an unresolved message is accepted, and what the validator is then. -/
theorem validate_unresolved_eq_ok {raw : Proto.UnresolvedTransaction}
    {observation : TransactionObservation} {self' : ObservationValidator} :
    validate ⟨some (.unresolved raw)⟩ self = .ok observation self' ↔
      UnresolvedValid raw ∧ self.structuralSequence < raw.structuralSequence ∧
        (∀ epoch ∈ self.epoch, epoch = raw.producerEpoch) ∧
        observation = .unresolved ⟨raw⟩ ∧
        self' = { self with
          epoch := some raw.producerEpoch
          structuralSequence := raw.structuralSequence } := by
  show (validateUnresolved raw >>= fun _ => do
    observeEpoch raw.producerEpoch
    return TransactionObservation.unresolved ⟨raw⟩) self = _ ↔ _
  rcases validateUnresolved_cases raw self with ⟨hValid, hLt, hStep⟩ | ⟨hNot, e, hStep⟩
  · rw [bind_of_ok hStep]
    by_cases hEpoch : ∀ epoch ∈ self.epoch, epoch = raw.producerEpoch
    · rw [bind_of_ok (@observeEpoch_ok
        { self with structuralSequence := raw.structuralSequence } _ hEpoch)]
      constructor
      · intro h
        obtain ⟨rfl, rfl⟩ := EStateM.Result.ok.inj h
        exact ⟨hValid, hLt, hEpoch, rfl, rfl⟩
      · rintro ⟨-, -, -, rfl, rfl⟩
        rfl
    · rw [bind_of_error (@observeEpoch_error
        { self with structuralSequence := raw.structuralSequence } _ hEpoch)]
      exact iff_of_false nofun fun h => hEpoch h.2.2.1
  · rw [bind_of_error hStep]
    exact iff_of_false nofun fun h => hNot ⟨h.1, h.2.1⟩

-- ---------------------------------------------------------------------------
-- All messages of a run
-- ---------------------------------------------------------------------------

end ObservationValidator

namespace Proto.TransactionFrame

/-- The frame that a message carries, parsed or not. -/
def canonicalPayload? (message : TransactionFrame) : Option Bytes :=
  match message.payload with
  | some (.canonicalV1 bytes) => some bytes
  | _ => none

/-- The raw transaction that it carries. -/
def unresolvedPayload? (message : TransactionFrame) : Option UnresolvedTransaction :=
  match message.payload with
  | some (.unresolved raw) => some raw
  | _ => none

/-- The producer epoch that a message carries. -/
def epoch? (message : TransactionFrame) : Option UInt64 :=
  match message.payload with
  | some (.canonicalV1 bytes) =>
    (ValidatedFrame.parse bytes).toOption.map fun f => f.header.producerEpoch
  | some (.unresolved raw) => some raw.producerEpoch
  | none => none

end Proto.TransactionFrame

open Proto.TransactionFrame (canonicalPayload? unresolvedPayload? epoch?)

/-- All entries are the same. -/
def AllEqual {α : Type} (xs : List α) : Prop := ∀ x ∈ xs, ∀ y ∈ xs, x = y

/-- An epoch in front of others has to agree with the known one, and then takes its
place. -/
theorem allEqual_insert {α : Type} {known : Option α} {x : α} {xs : List α} :
    AllEqual (known.toList ++ x :: xs) ↔ (∀ y ∈ known, y = x) ∧ AllEqual (x :: xs) := by
  cases known with
  | none => exact ⟨fun h => ⟨nofun, h⟩, fun h => h.2⟩
  | some y =>
    simp only [Option.toList_some, List.singleton_append, Option.mem_some_iff, forall_eq']
    constructor
    · intro h
      exact ⟨h y (List.mem_cons_self ..) x (by simp), fun a ha b hb =>
        h a (List.mem_cons_of_mem _ ha) b (List.mem_cons_of_mem _ hb)⟩
    · rintro ⟨rfl, h⟩ a ha b hb
      have hMem : ∀ c, c ∈ y :: y :: xs → c ∈ y :: xs := fun c hc => by simpa using hc
      exact h a (hMem a ha) b (hMem b hb)

namespace ObservationValidator

/-- The messages that a validator accepts from a state on, domain by domain. -/
structure Acceptable (validator : ObservationValidator) (messages : List Proto.TransactionFrame) :
    Prop where
  payload : ∀ message ∈ messages, message.payload ≠ none
  canonical : Run.Accepts CanonicalStreamValidator.validateResolved validator.canonical
    (messages.filterMap canonicalPayload?)
  valid : ∀ raw ∈ messages.filterMap unresolvedPayload?, UnresolvedValid raw
  increasing : (validator.structuralSequence ::
    (messages.filterMap unresolvedPayload?).map fun raw => raw.structuralSequence).IsChain (· < ·)
  epochs : AllEqual (validator.epoch.toList ++ messages.filterMap epoch?)

/-- What the canonical validator accepts is a resolved frame. -/
theorem resolved_of_ok {bytes : Bytes} {frame : ValidatedFrame}
    {validator validator' : CanonicalStreamValidator}
    (h : CanonicalStreamValidator.validateResolved bytes validator = .ok frame validator') :
    Resolved bytes frame := by
  rcases validator.validateResolved_cases bytes with ⟨frame', hResolved, -, hOk⟩ | ⟨-, e, hError⟩
  · obtain ⟨rfl, -⟩ := EStateM.Result.ok.inj (hOk.symm.trans h)
    exact hResolved
  · exact nomatch hError.symm.trans h

/-- A canonical message in front: it has to pass the canonical validator and the
shared epoch, and touches nothing else. -/
theorem acceptable_canonical {self : ObservationValidator} {bytes : Bytes}
    {messages : List Proto.TransactionFrame} :
    self.Acceptable (⟨some (.canonicalV1 bytes)⟩ :: messages) ↔
      ∃ frame canonical,
        CanonicalStreamValidator.validateResolved bytes self.canonical = .ok frame canonical ∧
        (∀ epoch ∈ self.epoch, epoch = frame.header.producerEpoch) ∧
        Acceptable { self with canonical, epoch := some frame.header.producerEpoch } messages := by
  have hPayloads : (⟨some (.canonicalV1 bytes)⟩ :: messages).filterMap canonicalPayload? =
      bytes :: messages.filterMap canonicalPayload? := rfl
  have hEpochs : ∀ {frame}, Resolved bytes frame →
      (⟨some (.canonicalV1 bytes)⟩ :: messages).filterMap epoch? =
        frame.header.producerEpoch :: messages.filterMap epoch? := fun {frame} h =>
    List.filterMap_cons_some (by simp only [epoch?, h.parse]; rfl)
  constructor
  · intro h
    -- its epoch and its payload come in front of those of the others
    obtain ⟨frame, canonical, hOk, hRest⟩ := Run.accepts_cons.mp (hPayloads ▸ h.canonical)
    have hAll := h.epochs
    rw [hEpochs (resolved_of_ok hOk), allEqual_insert] at hAll
    exact ⟨frame, canonical, hOk, hAll.1, fun m hm => h.payload m (List.mem_cons_of_mem _ hm),
      hRest, h.valid, h.increasing, hAll.2⟩
  · rintro ⟨frame, canonical, hOk, hEpoch, h⟩
    refine ⟨List.forall_mem_cons.mpr ⟨nofun, h.payload⟩,
      hPayloads ▸ Run.accepts_cons.mpr ⟨frame, canonical, hOk, h.canonical⟩, h.valid,
      h.increasing, ?_⟩
    rw [hEpochs (resolved_of_ok hOk), allEqual_insert]
    exact ⟨hEpoch, h.epochs⟩

/-- An unresolved message in front. -/
theorem acceptable_unresolved {self : ObservationValidator} {raw : Proto.UnresolvedTransaction}
    {messages : List Proto.TransactionFrame} :
    self.Acceptable (⟨some (.unresolved raw)⟩ :: messages) ↔
      UnresolvedValid raw ∧ self.structuralSequence < raw.structuralSequence ∧
        (∀ epoch ∈ self.epoch, epoch = raw.producerEpoch) ∧
        Acceptable { self with
          epoch := some raw.producerEpoch
          structuralSequence := raw.structuralSequence } messages := by
  have hEpochs : (⟨some (.unresolved raw)⟩ :: messages).filterMap epoch? =
      raw.producerEpoch :: messages.filterMap epoch? := rfl
  constructor
  · intro h
    have hAll := h.epochs
    rw [hEpochs, allEqual_insert] at hAll
    obtain ⟨hLt, hIncreasing⟩ := List.isChain_cons_cons.mp h.increasing
    exact ⟨h.valid raw (List.mem_cons_self ..), hLt, hAll.1,
      fun m hm => h.payload m (List.mem_cons_of_mem _ hm), h.canonical,
      fun r hr => h.valid r (List.mem_cons_of_mem _ hr), hIncreasing, hAll.2⟩
  · rintro ⟨hValid, hLt, hEpoch, h⟩
    refine ⟨List.forall_mem_cons.mpr ⟨nofun, h.payload⟩, h.canonical,
      List.forall_mem_cons.mpr ⟨hValid, h.valid⟩,
      List.isChain_cons_cons.mpr ⟨hLt, h.increasing⟩, ?_⟩
    rw [hEpochs, allEqual_insert]
    exact ⟨hEpoch, h.epochs⟩

/-- **What the validator accepts**, from any state on. -/
theorem accepts_iff (self : ObservationValidator) (messages : List Proto.TransactionFrame) :
    Run.Accepts validate self messages ↔ self.Acceptable messages := by
  induction messages generalizing self with
  | nil =>
    refine iff_of_true Run.accepts_nil ⟨nofun, Run.accepts_nil, nofun, ?_, ?_⟩
    · exact List.isChain_singleton _
    · -- a single known epoch agrees with itself
      cases self.epoch with
      | none => exact nofun
      | some epoch => simp [AllEqual]
  | cons message messages ih =>
    rw [Run.accepts_cons]
    match message with
    | ⟨some (.canonicalV1 bytes)⟩ =>
      rw [acceptable_canonical]
      constructor
      · rintro ⟨observation, self', hOk, hRest⟩
        obtain ⟨frame, canonical, hStep, hEpoch, -, rfl⟩ := validate_canonical_eq_ok.mp hOk
        exact ⟨frame, canonical, hStep, hEpoch, (ih _).mp hRest⟩
      · rintro ⟨frame, canonical, hStep, hEpoch, hRest⟩
        exact ⟨_, _, validate_canonical_eq_ok.mpr ⟨frame, canonical, hStep, hEpoch, rfl, rfl⟩,
          (ih _).mpr hRest⟩
    | ⟨some (.unresolved raw)⟩ =>
      rw [acceptable_unresolved]
      constructor
      · rintro ⟨observation, self', hOk, hRest⟩
        obtain ⟨hValid, hLt, hEpoch, -, rfl⟩ := validate_unresolved_eq_ok.mp hOk
        exact ⟨hValid, hLt, hEpoch, (ih _).mp hRest⟩
      · rintro ⟨hValid, hLt, hEpoch, hRest⟩
        exact ⟨_, _, validate_unresolved_eq_ok.mpr ⟨hValid, hLt, hEpoch, rfl, rfl⟩,
          (ih _).mpr hRest⟩
    | ⟨none⟩ =>
      refine iff_of_false ?_ fun h => h.payload _ (List.mem_cons_self ..) rfl
      rintro ⟨observation, self', hOk, -⟩
      exact nomatch hOk

-- ---------------------------------------------------------------------------
-- Interleavings, and canonical messages alone
-- ---------------------------------------------------------------------------

/-- What the broader stream makes of an answer of the canonical validator. -/
def observed : Except (Fault CanonicalStreamError) ValidatedFrame →
    Except (Fault Error) TransactionObservation
  | .ok frame => .ok (.resolved ⟨frame.bytes⟩)
  | .error e => .error (e.map .stream)

/-- On canonical messages the two validators agree up to the first error. The
outer epoch is the one that the canonical validator remembers, so the second
epoch check has nothing to add. -/
theorem throughError_canonical {self : ObservationValidator}
    (hEpoch : self.epoch = self.canonical.producerEpoch) (payloads : List Bytes) :
    Run.throughError (Run.results validate self
        (payloads.map fun bytes => ⟨some (.canonicalV1 bytes)⟩)) =
      (Run.throughError (Run.results CanonicalStreamValidator.validateResolved self.canonical
        payloads)).map observed := by
  induction payloads generalizing self with
  | nil => rfl
  | cons bytes payloads ih =>
    rw [List.map_cons, Run.results, Run.results]
    rcases self.canonical.validateResolved_cases bytes with
      ⟨frame, hResolved, hAdmits, hOk⟩ | ⟨-, e, hError⟩
    · have hStep := validate_canonical_eq_ok.mpr
        ⟨frame, _, hOk, hEpoch ▸ hAdmits.1, rfl, rfl⟩
      rw [hStep, hOk, Run.outcome, Run.outcome, Run.state, Run.state, Run.throughError,
        Run.throughError, List.map_cons, observed, hResolved.bytes_eq]
      exact congrArg _ (ih rfl)
    · have hCanonical : validateCanonical bytes self =
          .error (.err (.stream e)) { self with canonical := self.canonical } := by
        rw [validateCanonical, hError]
        rfl
      have hStep : validate ⟨some (.canonicalV1 bytes)⟩ self = .error (.err (.stream e)) self :=
        bind_of_error hCanonical
      rw [hStep, hError]
      rfl

/-- A fresh validator: any first epoch will do, and so will any nonzero sequence. -/
theorem acceptable_new {mode : CanonicalStreamMode} {messages : List Proto.TransactionFrame} :
    (new mode).Acceptable messages ↔
      (∀ message ∈ messages, message.payload ≠ none) ∧
      Run.Accepts CanonicalStreamValidator.validateResolved (.new mode)
        (messages.filterMap canonicalPayload?) ∧
      ((∀ raw ∈ messages.filterMap unresolvedPayload?, UnresolvedValid raw) ∧
        ((messages.filterMap unresolvedPayload?).map
          fun raw => raw.structuralSequence).IsChain (· < ·)) ∧
      AllEqual (messages.filterMap epoch?) := by
  constructor
  · intro h
    -- the counter begins at zero, which a valid message is larger than
    exact ⟨h.payload, h.canonical, ⟨h.valid, (List.isChain_cons.mp h.increasing).2⟩, h.epochs⟩
  · rintro ⟨hPayload, hCanonical, ⟨hValid, hIncreasing⟩, hEpochs⟩
    refine ⟨hPayload, hCanonical, hValid, List.isChain_cons.mpr ⟨?_, hIncreasing⟩, hEpochs⟩
    intro sequence hFirst
    obtain ⟨raw, hRaw, rfl⟩ := List.mem_map.mp (List.mem_of_mem_head? hFirst)
    exact UInt64.pos_iff_ne_zero.mpr (hValid raw hRaw).sequence

/-- The two domains of an interleaving are the two lists. -/
theorem filterMap_interleaving {canonical : List Bytes}
    {unresolved : List Proto.UnresolvedTransaction} {messages : List Proto.TransactionFrame}
    (h : Run.Interleaving (canonical.map fun bytes => ⟨some (.canonicalV1 bytes)⟩)
      (unresolved.map fun raw => ⟨some (.unresolved raw)⟩) messages) :
    messages.filterMap canonicalPayload? = canonical
      ∧ messages.filterMap unresolvedPayload? = unresolved := by
  have hCanonical := h.filterMap canonicalPayload?
  have hUnresolved := h.filterMap unresolvedPayload?
  simp only [List.filterMap_map, Function.comp_def, canonicalPayload?, unresolvedPayload?,
    List.filterMap_some, List.filterMap_none] at hCanonical hUnresolved
  exact ⟨hCanonical.eq_left, hUnresolved.eq_right⟩

/-- Nothing that the validator looks at depends on how the domains are interleaved. -/
theorem acceptable_interleaving {self : ObservationValidator} {canonical : List Bytes}
    {unresolved : List Proto.UnresolvedTransaction}
    {messages messages' : List Proto.TransactionFrame}
    (h : Run.Interleaving (canonical.map fun bytes => ⟨some (.canonicalV1 bytes)⟩)
      (unresolved.map fun raw => ⟨some (.unresolved raw)⟩) messages)
    (h' : Run.Interleaving (canonical.map fun bytes => ⟨some (.canonicalV1 bytes)⟩)
      (unresolved.map fun raw => ⟨some (.unresolved raw)⟩) messages')
    (hAcceptable : self.Acceptable messages) : self.Acceptable messages' := by
  obtain ⟨hCanonical, hUnresolved⟩ := filterMap_interleaving h
  obtain ⟨hCanonical', hUnresolved'⟩ := filterMap_interleaving h'
  -- both have the same messages, and each domain the same list
  have hMem : ∀ message, message ∈ messages' → message ∈ messages := fun message hm =>
    h.mem_iff.mpr (h'.mem_iff.mp hm)
  have hEpoch : ∀ epoch ∈ self.epoch.toList ++ messages'.filterMap epoch?,
      epoch ∈ self.epoch.toList ++ messages.filterMap epoch? := by
    intro epoch hEpoch
    rcases List.mem_append.mp hEpoch with hKnown | hNew
    · exact List.mem_append_left _ hKnown
    · obtain ⟨message, hm, hSome⟩ := List.mem_filterMap.mp hNew
      exact List.mem_append_right _ (List.mem_filterMap.mpr ⟨message, hMem message hm, hSome⟩)
  refine ⟨fun message hm => hAcceptable.payload message (hMem message hm), ?_, ?_, ?_,
    fun x hx y hy => hAcceptable.epochs x (hEpoch x hx) y (hEpoch y hy)⟩
  · rw [hCanonical', ← hCanonical]
    exact hAcceptable.canonical
  · rw [hUnresolved', ← hUnresolved]
    exact hAcceptable.valid
  · rw [hUnresolved', ← hUnresolved]
    exact hAcceptable.increasing

/-- **The two sequence domains are independent.** For a fresh validator:

* all messages are accepted iff none is empty, the canonical ones are accepted
  by a canonical validator, the unresolved ones are valid and increase, and all
  epochs agree;
* so either every interleaving of two lists is accepted or none is;
* on canonical messages the results are those of the canonical validator, up to
  and including the first error. -/
theorem observation_domains (mode : CanonicalStreamMode) :
    (∀ messages : List Proto.TransactionFrame, Run.Accepts validate (new mode) messages ↔
      (∀ message ∈ messages, message.payload ≠ none) ∧
      Run.Accepts CanonicalStreamValidator.validateResolved (.new mode)
        (messages.filterMap canonicalPayload?) ∧
      ((∀ raw ∈ messages.filterMap unresolvedPayload?, UnresolvedValid raw) ∧
        ((messages.filterMap unresolvedPayload?).map
          fun raw => raw.structuralSequence).IsChain (· < ·)) ∧
      AllEqual (messages.filterMap epoch?)) ∧
    (∀ (canonical : List Bytes) (unresolved : List Proto.UnresolvedTransaction)
      (messages messages' : List Proto.TransactionFrame),
      Run.Interleaving (canonical.map fun bytes => ⟨some (.canonicalV1 bytes)⟩)
        (unresolved.map fun raw => ⟨some (.unresolved raw)⟩) messages →
      Run.Interleaving (canonical.map fun bytes => ⟨some (.canonicalV1 bytes)⟩)
        (unresolved.map fun raw => ⟨some (.unresolved raw)⟩) messages' →
      (Run.Accepts validate (new mode) messages ↔ Run.Accepts validate (new mode) messages')) ∧
    ∀ payloads : List Bytes,
      Run.throughError (Run.results validate (new mode)
          (payloads.map fun bytes => ⟨some (.canonicalV1 bytes)⟩)) =
        (Run.throughError (Run.results CanonicalStreamValidator.validateResolved (.new mode)
          payloads)).map observed := by
  refine ⟨fun messages => ?_, ?_, throughError_canonical rfl⟩
  · exact (accepts_iff _ _).trans acceptable_new
  · intro canonical unresolved messages messages' h h'
    rw [accepts_iff, accepts_iff]
    exact ⟨acceptable_interleaving h h', acceptable_interleaving h' h⟩

/-- An unresolved observation of the epoch of the sample frame. -/
def sampleUnresolved : Proto.UnresolvedTransaction where
  producerEpoch := 7
  structuralSequence := 3
  slot := 1000
  transaction := sampleLegacy.serialize
  reason := "lut"

/-- The sample observation is acceptable. -/
theorem sampleUnresolved_valid : UnresolvedValid sampleUnresolved := by
  refine ⟨by decide, by decide, by decide, by decide, sampleLegacy.view, ?_⟩
  rw [sampleUnresolved, tryNew_of_packet sampleLegacy_wellFormed (by decide) (by decide +kernel),
    if_pos (by decide +kernel)]

/-- A canonical and an unresolved message are accepted in either order. -/
theorem observation_domains_sample :
    Run.Accepts validate (new .matchAll)
        [⟨some (.canonicalV1 samplePayload)⟩, ⟨some (.unresolved sampleUnresolved)⟩] ∧
      Run.Accepts validate (new .matchAll)
        [⟨some (.unresolved sampleUnresolved)⟩, ⟨some (.canonicalV1 samplePayload)⟩] := by
  obtain ⟨hAccepts, hInterleaving, -⟩ := observation_domains .matchAll
  obtain ⟨validator, hOk⟩ := CanonicalStreamValidator.samplePayload_accepted .matchAll
  have hCanonical : Run.Accepts CanonicalStreamValidator.validateResolved (.new .matchAll)
      [samplePayload] := Run.accepts_cons.mpr ⟨_, validator, hOk, Run.accepts_nil⟩
  have hEpoch : epoch? ⟨some (.canonicalV1 samplePayload)⟩ = some 7 := by
    simp only [epoch?, samplePayload_resolved.parse]
    rfl
  have hFirst : Run.Accepts validate (new .matchAll)
      [⟨some (.canonicalV1 samplePayload)⟩, ⟨some (.unresolved sampleUnresolved)⟩] := by
    rw [hAccepts, List.filterMap_cons_some hEpoch]
    refine ⟨by simp, hCanonical,
      ⟨List.forall_mem_singleton.mpr sampleUnresolved_valid, List.isChain_singleton _⟩, ?_⟩
    intro x hx y hy
    simp only [List.filterMap_cons, epoch?, sampleUnresolved, List.filterMap_nil, List.mem_cons,
      List.not_mem_nil, or_false, or_self] at hx hy
    rw [hx, hy]
  exact ⟨hFirst, (hInterleaving [samplePayload] [sampleUnresolved] _ _ (.left (.right .nil))
    (.right (.left .nil))).mp hFirst⟩

end ObservationValidator

end TxStream
