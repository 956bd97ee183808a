import TxStream.Client.Observations

/-!
# Failed observations

`CanonicalStreamValidator::observe` makes all its checks before it assigns a
field, so a call that fails leaves it as it was. `ObservationValidator::validate`
does not follow this order: each domain moves its own counter, and the shared
epoch is compared behind that. A message that its domain lets through and that
carries another epoch is rejected, but its sequence number is spent.

Main results:

* `validate_cases` — the three things that a call can do.
* `failed_observation` — a call that fails leaves the validator alone exactly if
  the message is not such a one.
* `torn_of_accepts` — on a stream without an error, the canonical message that
  does it is the first canonical one.
-/

namespace TxStream

open Wire Rust

namespace ObservationValidator

variable {self : ObservationValidator} {message : Proto.TransactionFrame}

-- ---------------------------------------------------------------------------
-- Messages of another epoch
-- ---------------------------------------------------------------------------

/-- The message passes the checks of its own domain, but the recorded epoch is
another one. -/
inductive Torn (self : ObservationValidator) : Proto.TransactionFrame → Prop
  | canonical {bytes : Bytes} {frame : ValidatedFrame} {epoch : UInt64} :
      Resolved bytes frame → self.canonical.Admits frame → self.epoch = some epoch →
      epoch ≠ frame.header.producerEpoch → Torn self ⟨some (.canonicalV1 bytes)⟩
  | unresolved {raw : Proto.UnresolvedTransaction} {epoch : UInt64} :
      UnresolvedValid raw → self.structuralSequence < raw.structuralSequence →
      self.epoch = some epoch → epoch ≠ raw.producerEpoch → Torn self ⟨some (.unresolved raw)⟩

/-- The recorded epoch differs, so there is one. -/
theorem exists_epoch_ne {epoch : UInt64} (h : ¬ ∀ e ∈ self.epoch, e = epoch) :
    ∃ recorded, self.epoch = some recorded ∧ recorded ≠ epoch := by
  cases hEpoch : self.epoch with
  | none =>
    refine absurd ?_ h
    intro e he
    rw [hEpoch] at he
    cases he
  | some recorded =>
    refine ⟨recorded, rfl, ?_⟩
    intro hEq
    refine h ?_
    intro e he
    rw [hEpoch] at he
    rw [← Option.mem_some_iff.mp he, hEq]

/-- The other direction: a recorded epoch that differs is enough. -/
theorem not_forall_epoch {epoch recorded : UInt64} (hEpoch : self.epoch = some recorded)
    (hNe : recorded ≠ epoch) : ¬ ∀ e ∈ self.epoch, e = epoch := by
  intro h
  exact hNe (h recorded hEpoch)

end ObservationValidator

/-- A frame that is admitted moves the sequence. -/
theorem CanonicalStreamValidator.Admits.remember_ne {self : CanonicalStreamValidator}
    {frame : ValidatedFrame} (h : self.Admits frame) : self.remember frame ≠ self := by
  intro hEq
  have hSequence : self.lastSequence = some frame.header.canonicalSequence := by
    rw [← hEq]
    rfl
  have hCheck := h.2
  unfold checkSequence at hCheck
  rw [hSequence] at hCheck
  obtain ⟨expected, -, hCheck⟩ := bind_eq_ok hCheck
  -- its own sequence would be a regression
  rw [if_pos (UInt64.le_refl _)] at hCheck
  cases hCheck

open Proto.TransactionFrame (canonicalPayload?)

namespace ObservationValidator

variable {self : ObservationValidator} {message : Proto.TransactionFrame}

-- ---------------------------------------------------------------------------
-- One call
-- ---------------------------------------------------------------------------

/-- The arm for a canonical payload passes on what the nested validator does. -/
theorem validateCanonical_cases (bytes : Bytes) (self : ObservationValidator) :
    (∃ frame, Resolved bytes frame ∧ self.canonical.Admits frame ∧
      validateCanonical bytes self =
        .ok frame { self with canonical := self.canonical.remember frame }) ∨
    ((∀ frame, Resolved bytes frame → ¬ self.canonical.Admits frame) ∧
      ∃ e, validateCanonical bytes self = .error (.err e) self) := by
  unfold validateCanonical
  rcases self.canonical.validateResolved_cases bytes with
    ⟨frame, hResolved, hAdmits, hOk⟩ | ⟨hNone, e, hError⟩
  · rw [hOk]
    exact Or.inl ⟨frame, hResolved, hAdmits, rfl⟩
  · rw [hError]
    exact Or.inr ⟨hNone, .stream e, rfl⟩

/-- **One call of `validate`.** It accepts the message, or rejects it and leaves
everything as it was, or finds another epoch when a counter has moved. -/
theorem validate_cases (message : Proto.TransactionFrame) (self : ObservationValidator) :
    (¬ self.Torn message ∧ ∃ observation self', validate message self = .ok observation self') ∨
    (¬ self.Torn message ∧ ∃ e, validate message self = .error (.err e) self) ∨
    (self.Torn message ∧ ∃ self', self' ≠ self ∧
      validate message self = .error (.err (.stream .producerEpochChanged)) self') := by
  match message with
  | ⟨some (.canonicalV1 bytes)⟩ =>
    rcases validateCanonical_cases bytes self with
      ⟨frame, hResolved, hAdmits, hStep⟩ | ⟨hNone, e, hStep⟩
    · -- the frame has passed its domain, and the sequence has moved
      by_cases hEpoch : ∀ epoch ∈ self.epoch, epoch = frame.header.producerEpoch
      · left
        refine ⟨?_, .resolved ⟨bytes⟩, _, (bind_of_ok hStep).trans
          (bind_of_ok (@observeEpoch_ok { self with canonical := _ } _ hEpoch))⟩
        intro hTorn
        cases hTorn with
        | canonical hResolved' _ hRecorded hNe =>
          obtain rfl := Except.ok.inj (hResolved.parse.symm.trans hResolved'.parse)
          exact not_forall_epoch hRecorded hNe hEpoch
      · right; right
        obtain ⟨recorded, hRecorded, hNe⟩ := exists_epoch_ne hEpoch
        refine ⟨.canonical hResolved hAdmits hRecorded hNe, _, ?_, (bind_of_ok hStep).trans
          (bind_of_error (@observeEpoch_error { self with canonical := _ } _ hEpoch))⟩
        intro hEq
        exact hAdmits.remember_ne (congrArg ObservationValidator.canonical hEq)
    · right; left
      refine ⟨?_, e, bind_of_error hStep⟩
      intro hTorn
      cases hTorn with
      | canonical hResolved hAdmits _ _ => exact hNone _ hResolved hAdmits
  | ⟨some (.unresolved raw)⟩ =>
    rcases validateUnresolved_cases raw self with ⟨hValid, hLt, hStep⟩ | ⟨hNot, e, hStep⟩
    · -- the same for the counter of the other domain
      by_cases hEpoch : ∀ epoch ∈ self.epoch, epoch = raw.producerEpoch
      · left
        refine ⟨?_, .unresolved ⟨raw⟩, _, (bind_of_ok hStep).trans
          (bind_of_ok (@observeEpoch_ok { self with structuralSequence := _ } _ hEpoch))⟩
        intro hTorn
        cases hTorn with
        | unresolved _ _ hRecorded hNe => exact not_forall_epoch hRecorded hNe hEpoch
      · right; right
        obtain ⟨recorded, hRecorded, hNe⟩ := exists_epoch_ne hEpoch
        refine ⟨.unresolved hValid hLt hRecorded hNe, _, ?_, (bind_of_ok hStep).trans
          (bind_of_error (@observeEpoch_error { self with structuralSequence := _ } _ hEpoch))⟩
        intro hEq
        have hSame : raw.structuralSequence = self.structuralSequence :=
          congrArg ObservationValidator.structuralSequence hEq
        rw [hSame] at hLt
        exact UInt64.lt_irrefl _ hLt
    · right; left
      refine ⟨?_, e, bind_of_error hStep⟩
      intro hTorn
      cases hTorn with
      | unresolved hValid hLt _ _ => exact hNot ⟨hValid, hLt⟩
  | ⟨none⟩ =>
    right; left
    refine ⟨?_, _, rfl⟩
    intro hTorn
    cases hTorn

/-- A call that fails leaves the validator alone, unless the message is torn. -/
theorem keeps_iff (message : Proto.TransactionFrame) (self : ObservationValidator) :
    (∀ e self', validate message self = .error e self' → self' = self) ↔
      ¬ self.Torn message := by
  rcases validate_cases message self with
    ⟨hNot, observation, self', hOk⟩ | ⟨hNot, e, hError⟩ | ⟨hTorn, self', hNe, hError⟩
  · refine iff_of_true ?_ hNot
    intro e self'' hError
    rw [hOk] at hError
    cases hError
  · refine iff_of_true ?_ hNot
    intro e' self' hError'
    exact (EStateM.Result.error.inj (hError.symm.trans hError')).2.symm
  · refine iff_of_false ?_ (not_not.mpr hTorn)
    intro hKeeps
    exact hNe (hKeeps _ _ hError)

-- ---------------------------------------------------------------------------
-- Runs
-- ---------------------------------------------------------------------------

/-- An accepted message leaves the canonical epoch the shared one, or unset. -/
theorem synced_of_ok {observation : TransactionObservation} {self' : ObservationValidator}
    (h : validate message self = .ok observation self') :
    ((∀ epoch ∈ self.canonical.producerEpoch, self.epoch = some epoch) →
      ∀ epoch ∈ self'.canonical.producerEpoch, self'.epoch = some epoch) ∧
    (self'.canonical.producerEpoch = none →
      self.canonical.producerEpoch = none ∧ canonicalPayload? message = none) := by
  match message with
  | ⟨some (.canonicalV1 bytes)⟩ =>
    obtain ⟨frame, canonical, hStep, -, -, rfl⟩ := validate_canonical_eq_ok.mp h
    have hEpoch : canonical.producerEpoch = some frame.header.producerEpoch := by
      rcases self.canonical.validateResolved_cases bytes with
        ⟨frame', -, -, hOk⟩ | ⟨-, e, hError⟩
      · obtain ⟨rfl, rfl⟩ := EStateM.Result.ok.inj (hOk.symm.trans hStep)
        rfl
      · rw [hError] at hStep
        cases hStep
    constructor
    · intro _ epoch hMem
      exact hEpoch.symm.trans hMem
    · intro hNone
      exact absurd (hEpoch.symm.trans hNone) (by simp)
  | ⟨some (.unresolved raw)⟩ =>
    obtain ⟨-, -, hSame, -, rfl⟩ := validate_unresolved_eq_ok.mp h
    constructor
    · intro hSynced epoch hMem
      have hEpoch := hSynced epoch hMem
      rw [← hSame epoch hEpoch]
    · intro hNone
      exact ⟨hNone, rfl⟩
  | ⟨none⟩ => cases h

/-- On a stream without an error: the canonical epoch is the shared one, or no canonical
message came. -/
theorem synced_of_accepts {messages : List Proto.TransactionFrame}
    (h : Run.Accepts validate self messages) :
    ((∀ epoch ∈ self.canonical.producerEpoch, self.epoch = some epoch) →
      ∀ epoch ∈ (Run.final validate self messages).canonical.producerEpoch,
        (Run.final validate self messages).epoch = some epoch) ∧
    ((Run.final validate self messages).canonical.producerEpoch = none →
      self.canonical.producerEpoch = none ∧ messages.filterMap canonicalPayload? = []) := by
  induction messages generalizing self with
  | nil => exact ⟨fun hSynced => hSynced, fun hNone => ⟨hNone, rfl⟩⟩
  | cons message messages ih =>
    obtain ⟨observation, self', hOk, hRest⟩ := Run.accepts_cons.mp h
    obtain ⟨hStep, hStepNone⟩ := synced_of_ok hOk
    obtain ⟨hTail, hTailNone⟩ := ih hRest
    rw [Run.final_cons, hOk]
    constructor
    · intro hSynced
      exact hTail (hStep hSynced)
    · intro hNone
      obtain ⟨hMiddle, hTailEmpty⟩ := hTailNone hNone
      obtain ⟨hFirst, hHead⟩ := hStepNone hMiddle
      exact ⟨hFirst, by rw [List.filterMap_cons_none hHead, hTailEmpty]⟩

/-- **On a stream without an error** so far, a canonical message of another epoch
comes before every accepted canonical one: behind them its epoch is compared
first. -/
theorem torn_of_accepts {mode : CanonicalStreamMode} {messages : List Proto.TransactionFrame}
    {bytes : Bytes} (h : Run.Accepts validate (new mode) messages)
    (hTorn : (Run.final validate (new mode) messages).Torn ⟨some (.canonicalV1 bytes)⟩) :
    messages.filterMap canonicalPayload? = [] := by
  obtain ⟨hSynced, hNone⟩ := synced_of_accepts h
  refine (hNone ?_).2
  cases hTorn with
  | canonical _ hAdmits hRecorded hNe =>
    cases hEpoch : (Run.final validate (new mode) messages).canonical.producerEpoch with
    | none => rfl
    | some epoch =>
      -- the nested validator has compared the frame with its own epoch, which is the shared
      -- one
      have hShared := hSynced (by intro epoch hMem; cases hMem) epoch hEpoch
      have hFrame := hAdmits.1 epoch hEpoch
      rw [hRecorded] at hShared
      exact absurd ((Option.some.inj hShared).trans hFrame) hNe

/-- **Failed observations.** In every state that a fresh validator can reach:

* a call that fails changes nothing, whatever the error, iff the message does not
  pass its own domain with another epoch than the recorded one;
* so in a run without such messages no failed call has changed anything;
* and behind accepted messages only, a canonical message is such a one only if no
  canonical message is among them, as the domain's own epoch is compared first. -/
theorem failed_observation (mode : CanonicalStreamMode)
    (messages : List Proto.TransactionFrame) :
    (∀ message,
      (∀ e self', validate message (Run.final validate (new mode) messages) = .error e self' →
        self' = Run.final validate (new mode) messages) ↔
      ¬ (Run.final validate (new mode) messages).Torn message) ∧
    ((∀ (i : Nat) message, messages[i]? = some message →
        ¬ (Run.final validate (new mode) (messages.take i)).Torn message) →
      ∀ (i : Nat) e, (Run.results validate (new mode) messages)[i]? = some (.error e) →
        Run.final validate (new mode) (messages.take (i + 1)) =
          Run.final validate (new mode) (messages.take i)) ∧
    (Run.Accepts validate (new mode) messages → ∀ bytes,
      (Run.final validate (new mode) messages).Torn ⟨some (.canonicalV1 bytes)⟩ →
        messages.filterMap canonicalPayload? = []) := by
  refine ⟨fun message => keeps_iff message _, ?_,
    fun hAccepts bytes hTorn => torn_of_accepts hAccepts hTorn⟩
  intro hNever i e hError
  rw [Run.getElem?_results, Option.map_eq_some_iff] at hError
  obtain ⟨message, hMessage, hOutcome⟩ := hError
  have hKeeps := (keeps_iff message _).mpr (hNever i message hMessage)
  have hTake : messages.take (i + 1) = messages.take i ++ [message] := by
    rw [List.take_add_one, hMessage, Option.toList_some]
  rw [hTake, Run.final_append, Run.final_cons]
  cases hResult : validate message (Run.final validate (new mode) (messages.take i)) with
  | ok observation self' =>
    rw [hResult] at hOutcome
    cases hOutcome
  | error e' self' => exact hKeeps e' self' hResult

/-- What the producer of the sample frame sends after a restart. -/
def sampleRestarted : Proto.UnresolvedTransaction :=
  { sampleUnresolved with producerEpoch := 8, structuralSequence := 4 }

/-- The message behind the restart is acceptable on its own. -/
theorem sampleRestarted_valid : UnresolvedValid sampleRestarted :=
  ⟨by decide, by decide, by decide, by decide, sampleUnresolved_valid.accepted⟩

/-- What a validator remembers of the message before the restart. -/
theorem final_sampleUnresolved :
    Run.final validate (new .matchAll) [⟨some (.unresolved sampleUnresolved)⟩] =
      { new .matchAll with epoch := some 7, structuralSequence := 3 } := by
  have hOk : validate ⟨some (.unresolved sampleUnresolved)⟩ (new .matchAll) =
      .ok (.unresolved ⟨sampleUnresolved⟩)
        { new .matchAll with epoch := some 7, structuralSequence := 3 } :=
    validate_unresolved_eq_ok.mpr
      ⟨sampleUnresolved_valid, by decide, (by intro epoch h; cases h), rfl, rfl⟩
  rw [Run.final_cons, hOk]
  rfl

/-- A message that does not parse leaves the recorded epoch and sequence. -/
theorem failed_observation_sample :
    (∀ e self', validate ⟨some (.canonicalV1 [])⟩
        (Run.final validate (new .matchAll) [⟨some (.unresolved sampleUnresolved)⟩]) =
          .error e self' →
      self' = Run.final validate (new .matchAll) [⟨some (.unresolved sampleUnresolved)⟩]) ∧
    Run.final validate (new .matchAll) [⟨none⟩] = new .matchAll := by
  obtain ⟨hKeeps, -⟩ := failed_observation .matchAll [⟨some (.unresolved sampleUnresolved)⟩]
  obtain ⟨-, hRun, -⟩ := failed_observation .matchAll [⟨none⟩]
  refine ⟨(hKeeps _).mpr ?_, hRun ?_ 0 _ rfl⟩
  · intro hTorn
    cases hTorn with
    | canonical hResolved _ _ _ => cases hResolved.parse
  · intro i message hMessage hTorn
    obtain rfl := List.mem_singleton.mp (List.mem_of_getElem? hMessage)
    cases hTorn

/-- **The sequence of a rejected message is spent.** The producer restarts with a
new epoch: its next message is an error, but moves the sequence from 3 to 4. -/
theorem failed_observation_torn :
    ∃ self', validate ⟨some (.unresolved sampleRestarted)⟩
        (Run.final validate (new .matchAll) [⟨some (.unresolved sampleUnresolved)⟩]) =
          .error (.err (.stream .producerEpochChanged)) self' ∧
      self'.structuralSequence = 4 ∧
      (Run.final validate (new .matchAll)
        [⟨some (.unresolved sampleUnresolved)⟩]).structuralSequence = 3 := by
  rw [final_sampleUnresolved]
  rcases validateUnresolved_cases sampleRestarted
      { new .matchAll with epoch := some 7, structuralSequence := 3 } with
    ⟨-, -, hStep⟩ | ⟨hNot, -⟩
  · refine ⟨_, (bind_of_ok hStep).trans (bind_of_error (observeEpoch_error ?_)), rfl, rfl⟩
    exact not_forall_epoch rfl (by decide)
  · exact absurd ⟨sampleRestarted_valid, by decide⟩ hNot

end ObservationValidator

end TxStream
