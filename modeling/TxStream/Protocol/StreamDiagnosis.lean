import TxStream.Protocol.Stream
import TxStream.Run.Checks

/-!
# What the stream validator reports

The validator remembers two numbers, and goes on after an error. Which error it
gives to a payload is settled by the payload and by the last frame that was
accepted, wherever in the run that was.

Main results:

* `validateResolved_diagnoses` — one call checks six rules of a parsed frame.
* `stream_diagnosis` — the errors of a whole run, and what a payload that was
  accepted before gets.
-/

namespace TxStream

open Wire Rust Run

/-- The rules of `validate_resolved` for a parsed frame, behind the last accepted
one, in the order in which they are checked. -/
def ValidatedFrame.streamRules (mode : CanonicalStreamMode) (last : Option ValidatedFrame)
    (payload : Bytes) (frame : ValidatedFrame) : List (Rule CanonicalStreamError) := [
  ⟨frame.bytes.length = payload.length, .trailingBytes⟩,
  ⟨frame.header.flags.contains .transactionSanitized ∧ frame.header.flags.contains .lutResolved,
    .notResolved⟩,
  ⟨∀ previous ∈ last, frame.header.producerEpoch = previous.header.producerEpoch,
    .producerEpochChanged⟩,
  ⟨∀ previous ∈ last, previous.header.canonicalSequence.toNat + 1 < 2 ^ 64, .sequenceExhausted⟩,
  ⟨∀ previous ∈ last, previous.header.canonicalSequence.toNat <
    frame.header.canonicalSequence.toNat, .sequenceRegressed⟩,
  ⟨mode = .matchAll → ∀ previous ∈ last, frame.header.canonicalSequence.toNat =
    previous.header.canonicalSequence.toNat + 1, .sequenceGap⟩]

/-- The answer to a payload, if it is an error: that of the frame, or the first of
the rules that the frame breaks. -/
def ReportedError (mode : CanonicalStreamMode) (last : Option ValidatedFrame) (payload : Bytes)
    (e : CanonicalStreamError) : Prop :=
  (∃ invalid, ValidatedFrame.parse payload = .error (.err invalid) ∧ e = .invalidFrame invalid) ∨
    ∃ frame, ValidatedFrame.parse payload = .ok frame ∧
      FirstBroken (frame.streamRules mode last payload) e

namespace CanonicalStreamValidator

variable {mode : CanonicalStreamMode} {self : CanonicalStreamValidator}
  {last : Option ValidatedFrame}

-- ---------------------------------------------------------------------------
-- One call
-- ---------------------------------------------------------------------------

/-- The last three rules are those of `checkSequence`. -/
theorem checkSequence_diagnoses (h : self.Remembers mode last) (payload : Bytes)
    (frame : ValidatedFrame) :
    Diagnoses ((frame.streamRules mode last payload).drop 3)
      (self.checkSequence frame.header.canonicalSequence) := by
  unfold checkSequence
  rw [h.sequence, h.mode]
  cases last with
  | none =>
    have hNone : ∀ previous : ValidatedFrame, previous ∈ none → False := Option.not_mem_none
    exact Or.inl ⟨kept_cons.mpr ⟨fun _ h => (hNone _ h).elim, kept_cons.mpr
      ⟨fun _ h => (hNone _ h).elim, kept_cons.mpr ⟨fun _ _ h => (hNone _ h).elim, kept_nil⟩⟩⟩,
      (), rfl⟩
  | some previous =>
    have hNext := frame.header.canonicalSequence.toNat_lt
    show Diagnoses _ (okOr CanonicalStreamError.sequenceExhausted _ >>= fun expected => _)
    by_cases hLast : previous.header.canonicalSequence.toNat + 1 < 2 ^ 64
    · obtain ⟨hAdd, hExpected⟩ := u64CheckedAdd_one hLast
      rw [hAdd, okOr_some, ok_bind]
      refine Diagnoses.cons (fun _ hMem => Option.mem_some_iff.mp hMem ▸ hLast) ?_
      refine Diagnoses.check ?_ fun _ => Diagnoses.check ?_ fun _ => Diagnoses.ok ()
      · simp only [Option.mem_some_iff, forall_eq', UInt64.le_iff_toNat_le, Nat.not_lt]
      · simp only [Option.mem_some_iff, forall_eq', Classical.not_imp, ne_eq, ← UInt64.toNat_inj,
          hExpected]
    · -- the last sequence number is the largest one
      have hExhausted : u64CheckedAdd previous.header.canonicalSequence 1 = none := if_neg hLast
      rw [hExhausted]
      exact Or.inr ⟨_, .here fun hKept => hLast (hKept previous rfl), rfl⟩

/-- The rules of `observe` are those behind the first two, in the order of its
checks. -/
theorem observe_diagnoses (h : self.Remembers mode last) (payload : Bytes)
    (frame : ValidatedFrame) :
    Diagnoses (((frame.streamRules mode last payload).drop 2).map (Rule.map Fault.err))
      (outcome (observe frame.header.producerEpoch frame.header.canonicalSequence self)) := by
  have hObserve : outcome (observe frame.header.producerEpoch frame.header.canonicalSequence self) =
      if self.producerEpoch.any (· ≠ frame.header.producerEpoch) then
        .error (.err .producerEpochChanged)
      else lift (self.checkSequence frame.header.canonicalSequence) := by
    rw [observe, get_bind]
    split
    · rfl
    · rw [run_bind]
      cases self.checkSequence frame.header.canonicalSequence <;> rfl
  rw [hObserve]
  refine Diagnoses.check ?_ fun _ => (checkSequence_diagnoses h payload frame).mapError Fault.err
  rw [h.epoch]
  cases last with
  | none => simp [Rule.map]
  | some previous =>
    show _ ↔ ¬ ∀ p ∈ some previous, _
    simp only [Option.map_some, Option.any_some, decide_eq_true_eq, Option.mem_some_iff,
      forall_eq', ne_eq]
    exact not_congr eq_comm

/-- **One call of `validate_resolved`.** -/
theorem validateResolved_diagnoses (h : self.Remembers mode last) {payload : Bytes}
    {frame : ValidatedFrame} (hParse : ValidatedFrame.parse payload = .ok frame) :
    Diagnoses ((frame.streamRules mode last payload).map (Rule.map Fault.err))
      (outcome (validateResolved payload self)) := by
  have hCall : outcome (validateResolved payload self) =
      if frame.bytes.length ≠ payload.length then .error (.err .trailingBytes) else
      if !frame.header.flags.contains .transactionSanitized
          || !frame.header.flags.contains .lutResolved then .error (.err .notResolved)
      else (outcome (observe frame.header.producerEpoch frame.header.canonicalSequence self)).map
        fun _ => frame := by
    rw [validateResolved, run_bind, hParse]
    show outcome ((if frame.bytes.length ≠ payload.length then run (fail .trailingBytes) else
      if !frame.header.flags.contains .transactionSanitized
          || !frame.header.flags.contains .lutResolved then run (fail .notResolved)
      else do
        observe frame.header.producerEpoch frame.header.canonicalSequence
        return frame :
      EStateM (Fault CanonicalStreamError) CanonicalStreamValidator ValidatedFrame) self) = _
    split
    · rfl
    · split
      · rfl
      · cases hObserve : observe frame.header.producerEpoch frame.header.canonicalSequence self with
        | ok u self' =>
          rw [bind_of_ok hObserve]
          rfl
        | error e self' =>
          rw [bind_of_error hObserve]
          rfl
  rw [hCall]
  refine Diagnoses.check Iff.rfl fun _ => Diagnoses.check ?_ fun _ =>
    (observe_diagnoses h payload frame).map _
  show _ ↔ ¬ (_ ∧ _)
  rw [Bool.or_eq_true, Bool.not_eq_true', Bool.not_eq_true', not_and_or, Bool.not_eq_true,
    Bool.not_eq_true]

-- ---------------------------------------------------------------------------
-- Whole runs
-- ---------------------------------------------------------------------------

variable {payloads : List Bytes}

/-- The error of one call. -/
theorem outcome_error_iff (h : self.Remembers mode last) (payload : Bytes)
    {fault : Fault CanonicalStreamError} :
    outcome (validateResolved payload self) = .error fault ↔
      ∃ e, fault = .err e ∧ ReportedError mode last payload e := by
  cases hParse : ValidatedFrame.parse payload with
  | error parseFault =>
    cases parseFault with
    | panic => exact absurd hParse (parse_noPanic payload)
    | err invalid =>
      have hCall : outcome (validateResolved payload self) =
          .error (.err (.invalidFrame invalid)) := by
        rw [validateResolved, run_bind, hParse]
        rfl
      rw [hCall]
      constructor
      · rintro ⟨⟩
        exact ⟨_, rfl, Or.inl ⟨invalid, hParse, rfl⟩⟩
      · rintro ⟨e, rfl, ⟨invalid', hParse', rfl⟩ | ⟨frame, hOk, -⟩⟩
        · rw [Fault.err.inj (Except.error.inj (hParse.symm.trans hParse'))]
        · cases hParse.symm.trans hOk
  | ok frame =>
    rw [(validateResolved_diagnoses h hParse).error_iff, firstBroken_map]
    refine exists_congr fun e => and_comm.trans (and_congr eq_comm ?_)
    constructor
    · exact fun hBroken => Or.inr ⟨frame, hParse, hBroken⟩
    · rintro (⟨invalid, hError, -⟩ | ⟨frame', hOk, hBroken⟩)
      · cases hParse.symm.trans hError
      · rw [Except.ok.inj (hParse.symm.trans hOk)]
        exact hBroken

/-- The validator remembers the last frame that was accepted. -/
theorem remembers_final (mode : CanonicalStreamMode) (payloads : List Bytes) (i : Nat) :
    (Run.final validateResolved (new mode) (payloads.take i)).Remembers mode
      (acceptedBefore mode payloads i).getLast? := by
  have h := remembers_accepted mode (payloads.take i)
  rw [← Run.take_results] at h
  exact h

/-- The error of a payload, in terms of the payload and the last accepted frame. -/
theorem answer_error_iff {i : Nat} {fault : Fault CanonicalStreamError} :
    (answers mode payloads)[i]? = some (.error fault) ↔
      ∃ payload e, payloads[i]? = some payload ∧ fault = .err e ∧
        ReportedError mode (acceptedBefore mode payloads i).getLast? payload e := by
  rw [answers, Run.getElem?_results, Option.map_eq_some_iff]
  refine exists_congr fun payload => ?_
  rw [outcome_error_iff (remembers_final mode payloads i), exists_and_left]

/-- What was accepted at some point stays among the accepted frames. -/
theorem mem_acceptedBefore {i j : Nat} (hij : i < j) {frame : ValidatedFrame}
    (hFrame : (answers mode payloads)[i]? = some (.ok frame)) :
    frame ∈ acceptedBefore mode payloads j := by
  refine List.mem_filterMap.mpr ⟨.ok frame, List.mem_of_getElem? (i := i) ?_, rfl⟩
  rw [List.getElem?_take_of_lt hij]
  exact hFrame

/-- A frame that was accepted breaks the order behind itself. -/
theorem firstBroken_of_accepted {i j : Nat} (hij : i < j) {payload : Bytes}
    {frame last : ValidatedFrame} (hFrame : (answers mode payloads)[i]? = some (.ok frame))
    (hPayload : payloads[i]? = some payload)
    (hLast : (acceptedBefore mode payloads j).getLast? = some last) :
    FirstBroken (frame.streamRules mode (some last) payload)
      (if last.header.canonicalSequence.toNat + 1 < 2 ^ 64 then .sequenceRegressed
        else .sequenceExhausted) := by
  obtain ⟨payload', hPayload', hResolved, -⟩ := answer_ok_iff.mp hFrame
  obtain rfl := Option.some.inj (hPayload.symm.trans hPayload')
  have hLater := last_later (acceptedBefore_pairwise j) (mem_acceptedBefore hij hFrame) hLast
  have hEpoch : frame.header.producerEpoch = last.header.producerEpoch := by
    rcases hLater with rfl | hLater
    · rfl
    · exact hLater.epoch.symm
  -- the frame is the last accepted one, or older
  have hOrder : ¬ last.header.canonicalSequence.toNat < frame.header.canonicalSequence.toNat := by
    rcases hLater with rfl | hLater
    · exact Nat.lt_irrefl _
    · exact Nat.lt_asymm hLater.sequence
  -- every rule in front of the order is kept: the frame was accepted once
  refine .later hResolved.complete (.later ⟨hResolved.sanitized, hResolved.lutResolved⟩
    (.later (fun _ hMem => Option.mem_some_iff.mp hMem ▸ hEpoch) ?_))
  split
  · next hRoom =>
    exact .later (fun _ hMem => Option.mem_some_iff.mp hMem ▸ hRoom)
      (.here fun hKept => hOrder (hKept last rfl))
  · next hFull => exact .here fun hKept => hFull (hKept last rfl)

/-- A gap is reported in mode `matchAll` alone, and there for a frame in order
that skips a sequence number. -/
theorem firstBroken_gap_iff {payload : Bytes} {frame : ValidatedFrame}
    (hParse : ValidatedFrame.parse payload = .ok frame) :
    FirstBroken (frame.streamRules mode last payload) .sequenceGap ↔
      mode = .matchAll ∧ Resolved payload frame ∧ ∃ previous, last = some previous ∧
        frame.header.producerEpoch = previous.header.producerEpoch ∧
        previous.header.canonicalSequence.toNat + 1 < frame.header.canonicalSequence.toNat := by
  have hBound := frame.header.canonicalSequence.toNat_lt
  simp only [ValidatedFrame.streamRules, firstBroken_cons, not_firstBroken_nil, reduceCtorEq,
    and_false, or_false, false_or, and_true, Classical.not_imp]
  constructor
  · rintro ⟨hComplete, ⟨hSanitized, hLutResolved⟩, hEpoch, -, hOrder, hMode, hGap⟩
    cases last with
    -- without a last frame no rule of the order can be broken
    | none => exact absurd (fun _ h => absurd h (Option.not_mem_none _)) hGap
    | some previous =>
      have hLt := hOrder previous rfl
      have hSkips : frame.header.canonicalSequence.toNat ≠
          previous.header.canonicalSequence.toNat + 1 :=
        fun hEq => hGap fun _ hMem => Option.mem_some_iff.mp hMem ▸ hEq
      exact ⟨hMode, ⟨hParse, hComplete, hSanitized, hLutResolved⟩, previous, rfl,
        hEpoch previous rfl, by omega⟩
  · rintro ⟨hMode, hResolved, previous, rfl, hEpoch, hSkips⟩
    simp only [Option.mem_some_iff, forall_eq']
    exact ⟨hResolved.complete, ⟨hResolved.sanitized, hResolved.lutResolved⟩, hEpoch, by omega,
      by omega, hMode, by omega⟩

/-- **What a run reports.** Feed any payloads to a fresh validator, and go on after
errors:

* a payload gets an error iff it does not parse, or breaks a rule behind the last
  accepted frame; the first rule that it breaks is reported;
* a payload that was accepted before is a regression whenever it comes again, or
  finds the sequence exhausted;
* a gap is reported exactly if sequence numbers are missing between the last
  accepted frame and a resolved one of its epoch, on a match-all stream. -/
theorem stream_diagnosis (mode : CanonicalStreamMode) (payloads : List Bytes) :
    (∀ (i : Nat) fault, (answers mode payloads)[i]? = some (.error fault) ↔
      ∃ payload e, payloads[i]? = some payload ∧ fault = .err e ∧
        ReportedError mode (acceptedBefore mode payloads i).getLast? payload e) ∧
    (∀ (i j : Nat) frame, i < j → (answers mode payloads)[i]? = some (.ok frame) →
      payloads[j]? = payloads[i]? →
      ∃ last, (acceptedBefore mode payloads j).getLast? = some last ∧
        (answers mode payloads)[j]? = some (.error (.err
          (if last.header.canonicalSequence.toNat + 1 < 2 ^ 64 then .sequenceRegressed
            else .sequenceExhausted)))) ∧
    ∀ i : Nat, (answers mode payloads)[i]? = some (.error (.err .sequenceGap)) ↔
      mode = .matchAll ∧ ∃ payload frame previous, payloads[i]? = some payload ∧
        Resolved payload frame ∧ (acceptedBefore mode payloads i).getLast? = some previous ∧
        frame.header.producerEpoch = previous.header.producerEpoch ∧
        previous.header.canonicalSequence.toNat + 1 < frame.header.canonicalSequence.toNat := by
  refine ⟨fun i fault => answer_error_iff, ?_, ?_⟩
  · intro i j frame hij hFrame hAgain
    obtain ⟨payload, hPayload, hResolved, -⟩ := answer_ok_iff.mp hFrame
    obtain ⟨last, hLast⟩ := Option.isSome_iff_exists.mp
      (List.getLast?_isSome.mpr (List.ne_nil_of_mem (mem_acceptedBefore hij hFrame)))
    refine ⟨last, hLast, answer_error_iff.mpr ⟨payload, _, hAgain.trans hPayload, rfl, ?_⟩⟩
    rw [hLast]
    exact Or.inr ⟨frame, hResolved.parse, firstBroken_of_accepted hij hFrame hPayload hLast⟩
  · intro i
    rw [answer_error_iff]
    constructor
    · rintro ⟨payload, e, hPayload, hFault, hReported⟩
      obtain rfl := Fault.err.inj hFault
      rcases hReported with ⟨invalid, -, hEq⟩ | ⟨frame, hParse, hBroken⟩
      · exact nomatch hEq
      · obtain ⟨hMode, hResolved, previous, hLast, hEpoch, hSkips⟩ :=
          (firstBroken_gap_iff hParse).mp hBroken
        exact ⟨hMode, payload, frame, previous, hPayload, hResolved, hLast, hEpoch, hSkips⟩
    · rintro ⟨hMode, payload, frame, previous, hPayload, hResolved, hLast, hEpoch, hSkips⟩
      refine ⟨payload, _, hPayload, rfl, Or.inr ⟨frame, hResolved.parse, ?_⟩⟩
      exact (firstBroken_gap_iff hResolved.parse).mpr
        ⟨hMode, hResolved, previous, hLast, hEpoch, hSkips⟩

/-- The sample frame, sent twice. -/
theorem stream_diagnosis_sample :
    (answers .filtered [samplePayload, samplePayload])[1]? =
      some (.error (.err .sequenceRegressed)) := by
  obtain ⟨-, hAgain, -⟩ := stream_diagnosis .filtered [samplePayload, samplePayload]
  have hFirst : (answers .filtered [samplePayload, samplePayload])[0]? =
      some (.ok (sampleParts.validated sampleMetadata sampleV0.view)) :=
    answer_ok_iff.mpr ⟨_, rfl, samplePayload_resolved, fun _ h => nomatch h⟩
  obtain ⟨last, hLast, hAnswer⟩ := hAgain 0 1 _ (by decide) hFirst rfl
  have hBefore : acceptedBefore .filtered [samplePayload, samplePayload] 1 =
      [sampleParts.validated sampleMetadata sampleV0.view] := by
    rw [acceptedBefore, List.take_one, List.head?_eq_getElem?, hFirst]
    rfl
  rw [hBefore] at hLast
  obtain rfl := Option.some.inj hLast
  exact hAnswer

end CanonicalStreamValidator

end TxStream
