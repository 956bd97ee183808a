import TxStream.Client.Attachment

/-!
# The broader stream and the resolved one

The server offers two streams. The broader one has its own validator around the
canonical validator, with an epoch of its own and a counter for unresolved
transactions. On resolved transactions it is not different from the other stream.

Main results:

* `validate_canonical` — one canonical message, for both.
* `streams_agree` — whole runs of calls: what the broader stream resolves, the
  resolved stream delivers.
-/

namespace TxStream

open Wire Rust

-- ---------------------------------------------------------------------------
-- From one stream to the other
-- ---------------------------------------------------------------------------

/-- The resolved stream's outcome in an outcome of the broader stream. -/
def resolvedOutcome? : Message Proto.TransactionFrame → Option (Message Proto.ResolvedTransactionFrame)
  | .message ⟨some (.canonicalV1 bytes)⟩ => some (.message ⟨bytes⟩)
  | .message _ => none
  | .endOfStream => some .endOfStream
  | .status code => some (.status code)

/-- An answer of the resolved stream, as one of the broader stream. -/
def asObservation : Option (Except (Fault Error) ResolvedTransaction) →
    Option (Except (Fault Error) TransactionObservation) :=
  Option.map (Except.map .resolved)

/-- The item of an answer. -/
def item? {α : Type} : Option (Except (Fault Error) α) → Option α
  | some (.ok item) => some item
  | _ => none

/-- The resolved transaction of an answer. -/
def resolvedItem? (answer : Option (Except (Fault Error) TransactionObservation)) :
    Option ResolvedTransaction :=
  match item? answer with
  | some (.resolved tx) => some tx
  | _ => none

-- ---------------------------------------------------------------------------
-- One message
-- ---------------------------------------------------------------------------

/-- The validator of the broader stream has at least the state of the other. -/
structure Agrees (resolved : CanonicalStreamValidator) (broader : ObservationValidator) : Prop where
  canonical : broader.canonical = resolved
  epoch : ∀ epoch ∈ resolved.producerEpoch, broader.epoch = some epoch

variable {resolved : CanonicalStreamValidator} {broader : ObservationValidator}

/-- **One canonical message.** The resolved stream rejects it, and so does the
broader one, with the same error; or the resolved stream accepts it, and the
broader one does so too unless its epoch is another one. -/
theorem validate_canonical (h : Agrees resolved broader) (bytes : Bytes) :
    (∃ e, FastpathStream.validate ⟨bytes⟩ resolved = .error e resolved ∧
      ObservationValidator.validate ⟨some (.canonicalV1 bytes)⟩ broader = .error e broader) ∨
    ∃ resolved', FastpathStream.validate ⟨bytes⟩ resolved = .ok ⟨bytes⟩ resolved' ∧
      ((∃ broader', Agrees resolved' broader' ∧ broader'.epoch = resolved'.producerEpoch ∧
        ObservationValidator.validate ⟨some (.canonicalV1 bytes)⟩ broader =
          .ok (.resolved ⟨bytes⟩) broader') ∨
      broader.epoch ≠ resolved.producerEpoch ∧ ∃ e broader',
        ObservationValidator.validate ⟨some (.canonicalV1 bytes)⟩ broader = .error e broader') := by
  obtain ⟨canonical, epoch, structuralSequence⟩ := broader
  obtain rfl : canonical = resolved := h.canonical
  rcases canonical.validateResolved_cases bytes with ⟨frame, hResolved, hAdmits, hOk⟩ | ⟨-, e, hError⟩
  · refine Or.inr ⟨canonical.remember frame, FastpathStream.validate_eq_ok.mpr ⟨frame, hOk, rfl⟩, ?_⟩
    -- the nested validator is the same; only the shared epoch can still differ
    by_cases hEpoch : ∀ known ∈ epoch, known = frame.header.producerEpoch
    · refine Or.inl ⟨_, ?_, ?_, ObservationValidator.validate_canonical_eq_ok.mpr
        ⟨frame, _, hOk, hEpoch, rfl, rfl⟩⟩
      · exact ⟨rfl, fun _ hMem => hMem⟩
      · rfl
    · refine Or.inr ⟨?_, ?_⟩
      · rintro hSame
        refine hEpoch fun known hMem => hAdmits.1 known ?_
        rw [← show epoch = canonical.producerEpoch from hSame]
        exact hMem
      · cases hStep : ObservationValidator.validate ⟨some (.canonicalV1 bytes)⟩
          ⟨canonical, epoch, structuralSequence⟩ with
        | ok observation broader' =>
          obtain ⟨frame', _, hOk', hEpoch', -⟩ :=
            ObservationValidator.validate_canonical_eq_ok.mp hStep
          obtain ⟨rfl, -⟩ := EStateM.Result.ok.inj (hOk.symm.trans hOk')
          exact absurd hEpoch' hEpoch
        | error e broader' => exact ⟨e, broader', rfl⟩
  · refine Or.inl ⟨.err (.stream e), ?_, ?_⟩
    · rw [FastpathStream.validate, hError]
      rfl
    · have hStep : ObservationValidator.validateCanonical bytes
          ⟨canonical, epoch, structuralSequence⟩ =
          .error (.err (.stream e)) ⟨canonical, epoch, structuralSequence⟩ := by
        rw [ObservationValidator.validateCanonical, hError]
        rfl
      exact bind_of_error hStep

/-- An unresolved transaction does not touch what the streams share. -/
theorem validate_unresolved (h : Agrees resolved broader) {raw : Proto.UnresolvedTransaction}
    {observation : TransactionObservation} {broader' : ObservationValidator}
    (hOk : ObservationValidator.validate ⟨some (.unresolved raw)⟩ broader =
      .ok observation broader') :
    Agrees resolved broader' ∧ observation = .unresolved ⟨raw⟩ := by
  obtain ⟨-, -, hEpoch, rfl, rfl⟩ := ObservationValidator.validate_unresolved_eq_ok.mp hOk
  refine ⟨⟨h.canonical, fun epoch hMem => ?_⟩, rfl⟩
  exact congrArg some (hEpoch epoch (h.epoch epoch hMem)).symm

-- ---------------------------------------------------------------------------
-- Runs of calls
-- ---------------------------------------------------------------------------

/-- Behind an error of the broader stream nothing is resolved. -/
theorem resolvedItems_error {outcome : Message Proto.TransactionFrame} {e : Fault Error}
    {broader' : ObservationValidator} {outcomes : List (Message Proto.TransactionFrame)} {n : Nat}
    {items : List ResolvedTransaction}
    (hError : Attachment.receive ObservationValidator.validate outcome broader =
      .error e broader') :
    (Attachment.calls ObservationValidator.validate (n + 1)
      ⟨outcome :: outcomes, broader, false⟩).1.filterMap resolvedItem? <+: items := by
  rw [Attachment.calls_error hError, List.filterMap_cons, List.filterMap_eq_nil_iff.mpr]
  · exact List.nil_prefix
  · intro answer hMem
    rw [List.eq_of_mem_replicate hMem]
    rfl

/-- What the broader stream resolves, the resolved stream delivers, in as many calls
or more. -/
theorem resolvedItems_prefix (h : Agrees resolved broader)
    (outcomes : List (Message Proto.TransactionFrame)) {n m : Nat} (hLe : n ≤ m) :
    (Attachment.calls ObservationValidator.validate n ⟨outcomes, broader, false⟩).1.filterMap
        resolvedItem? <+:
      (Attachment.calls FastpathStream.validate m
        ⟨outcomes.filterMap resolvedOutcome?, resolved, false⟩).1.filterMap item? := by
  induction outcomes generalizing resolved broader n m with
  | nil =>
    cases n with
    | zero => exact List.nil_prefix
    | succ n => exact List.nil_prefix
  | cons outcome outcomes ih =>
    obtain _ | n := n
    · exact List.nil_prefix
    obtain ⟨m, rfl⟩ : ∃ k, m = k + 1 := ⟨m - 1, by omega⟩
    match outcome with
    | .endOfStream => exact resolvedItems_error rfl
    | .status code => exact resolvedItems_error rfl
    | .message ⟨none⟩ => exact resolvedItems_error rfl
    | .message ⟨some (.unresolved raw)⟩ =>
      -- the broader stream has used up a call, the resolved one has not seen the message
      cases hStep : ObservationValidator.validate ⟨some (.unresolved raw)⟩ broader with
      | error e broader' => exact resolvedItems_error hStep
      | ok observation broader' =>
        obtain ⟨hAgrees, rfl⟩ := validate_unresolved h hStep
        rw [Attachment.calls_message hStep]
        exact ih hAgrees (by omega)
    | .message ⟨some (.canonicalV1 bytes)⟩ =>
      rcases validate_canonical h bytes with ⟨e, -, hError⟩ | ⟨resolved', hFast, hBroad⟩
      · exact resolvedItems_error hError
      · rcases hBroad with ⟨broader', hAgrees, -, hOk⟩ | ⟨-, e, broader', hError⟩
        · show _ <+: (Attachment.calls FastpathStream.validate (m + 1)
            ⟨.message ⟨bytes⟩ :: outcomes.filterMap resolvedOutcome?, resolved, false⟩).1.filterMap _
          rw [Attachment.calls_message hOk, Attachment.calls_message hFast]
          exact (List.prefix_cons_inj _).mpr (ih hAgrees (Nat.le_of_succ_le_succ hLe))
        · exact resolvedItems_error hError

/-- Without unresolved transactions the streams give the same answers. -/
theorem calls_eq (h : Agrees resolved broader) (hEpoch : broader.epoch = resolved.producerEpoch)
    {outcomes : List (Message Proto.TransactionFrame)}
    (hAll : ∀ outcome ∈ outcomes, (resolvedOutcome? outcome).isSome) (n : Nat) :
    (Attachment.calls ObservationValidator.validate n ⟨outcomes, broader, false⟩).1 =
      (Attachment.calls FastpathStream.validate n
        ⟨outcomes.filterMap resolvedOutcome?, resolved, false⟩).1.map asObservation := by
  induction outcomes generalizing resolved broader n with
  | nil =>
    cases n with
    | zero => rfl
    | succ n => rfl
  | cons outcome outcomes ih =>
    obtain _ | n := n
    · rfl
    have hRest := fun outcome hMem => hAll outcome (List.mem_cons_of_mem _ hMem)
    -- an error ends both
    have hError : ∀ {e : Fault Error} {resolved' : CanonicalStreamValidator}
        {broader' : ObservationValidator} {outcome' : Message Proto.ResolvedTransactionFrame},
        resolvedOutcome? outcome = some outcome' →
        Attachment.receive FastpathStream.validate outcome' resolved = .error e resolved' →
        Attachment.receive ObservationValidator.validate outcome broader = .error e broader' →
        (Attachment.calls ObservationValidator.validate (n + 1)
            ⟨outcome :: outcomes, broader, false⟩).1 =
          (Attachment.calls FastpathStream.validate (n + 1)
            ⟨(outcome :: outcomes).filterMap resolvedOutcome?, resolved, false⟩).1.map
              asObservation := by
      intro e resolved' broader' outcome' hOutcome hFast hBroad
      rw [List.filterMap_cons_some hOutcome, Attachment.calls_error hFast,
        Attachment.calls_error hBroad, List.map_cons, List.map_replicate]
      rfl
    match outcome with
    | .endOfStream => exact hError rfl rfl rfl
    | .status code => exact hError rfl rfl rfl
    | .message ⟨none⟩ => exact nomatch hAll _ (List.mem_cons_self ..)
    | .message ⟨some (.unresolved raw)⟩ => exact nomatch hAll _ (List.mem_cons_self ..)
    | .message ⟨some (.canonicalV1 bytes)⟩ =>
      rcases validate_canonical h bytes with ⟨e, hFast, hBroad⟩ | ⟨resolved', hFast, hBroad⟩
      · exact hError rfl hFast hBroad
      · rcases hBroad with ⟨broader', hAgrees, hSame, hOk⟩ | ⟨hOther, -⟩
        · rw [List.filterMap_cons_some (show resolvedOutcome? _ = some (.message ⟨bytes⟩) from rfl),
            Attachment.calls_message hOk, Attachment.calls_message hFast, List.map_cons,
            ih hAgrees hSame hRest]
          rfl
        · exact absurd hEpoch hOther

/-- Fresh validators agree. -/
theorem agrees_new (mode : CanonicalStreamMode) : Agrees (.new mode) (.new mode) := ⟨rfl, nofun⟩

/-- **The two streams agree.** Whatever the transport returns and however often `next`
is called, the resolved transactions of the broader stream are, in order, the first
items of the resolved stream on the same canonical messages. Where nothing is
unresolved, all answers of the two are the same, errors and `None` included. -/
theorem streams_agree (mode : CanonicalStreamMode)
    (outcomes : List (Message Proto.TransactionFrame)) :
    (∀ n, (Attachment.calls ObservationValidator.validate n
          (TransactionStream.new mode outcomes)).1.filterMap resolvedItem? <+:
        (Attachment.calls FastpathStream.validate n
          (FastpathStream.new mode (outcomes.filterMap resolvedOutcome?))).1.filterMap item?) ∧
    ((∀ outcome ∈ outcomes, (resolvedOutcome? outcome).isSome) →
      ∀ n, (Attachment.calls ObservationValidator.validate n
          (TransactionStream.new mode outcomes)).1 =
        (Attachment.calls FastpathStream.validate n
          (FastpathStream.new mode (outcomes.filterMap resolvedOutcome?))).1.map asObservation) :=
  ⟨fun _ => resolvedItems_prefix (agrees_new mode) outcomes le_rfl,
    fun hAll n => calls_eq (agrees_new mode) rfl hAll n⟩

end TxStream
