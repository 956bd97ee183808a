import TxStream.Protocol.FrameCodec
import TxStream.Run.Validation

/-!
# `stream.rs` — canonical streams

The model of `CanonicalStreamValidator` and what it accepts over whole runs.
`validate_resolved` takes `&mut self` and returns a `Result`: it is an `EStateM`
program on the validator, and a run goes on after an error.

The two optional fields remember the last accepted frame. With that reading the
validator is a sequencer: a payload is accepted iff it is a complete, resolved
frame that may follow the last accepted one.

Main results:

* `validateResolved_sequencer` — the refinement.
* `validateResolved_law` — the law of canonical streams over whole runs.
-/

namespace TxStream

open Wire Rust

/-- `CanonicalStreamMode`: which gaps a subscriber has to expect. -/
inductive CanonicalStreamMode where
  /-- Every canonical frame is expected, so sequence gaps are data loss. -/
  | matchAll
  /-- Server-side filters may omit frames, but order must remain monotonic. -/
  | filtered
deriving DecidableEq, Repr

/-- `CanonicalStreamError`: why a payload is refused. Only the first has a cause of its
own. -/
inductive CanonicalStreamError where
  | invalidFrame (error : FrameValidationError)
  | trailingBytes
  | notResolved
  | producerEpochChanged
  | sequenceExhausted
  | sequenceRegressed
  | sequenceGap
deriving DecidableEq, Repr

/-- `CanonicalStreamValidator`. In the source both optional fields are set by the same
assignment, in `observe`, so a validator has either both or neither. -/
structure CanonicalStreamValidator where
  producerEpoch : Option UInt64
  lastSequence : Option UInt64
  mode : CanonicalStreamMode
deriving DecidableEq

namespace CanonicalStreamValidator

/-- `CanonicalStreamValidator::new`: nothing has been accepted yet. -/
def new (mode : CanonicalStreamMode) : CanonicalStreamValidator where
  producerEpoch := none
  lastSequence := none
  mode := mode

/-- The `if let Some(previous)` of `observe`. -/
def checkSequence (self : CanonicalStreamValidator) (sequence : UInt64) :
    Except CanonicalStreamError Unit :=
  match self.lastSequence with
  | none => return ()
  | some previous => do
    -- a counter that is at its end is refused in both modes, before any comparison
    let expected ← okOr .sequenceExhausted (u64CheckedAdd previous 1)
    if sequence ≤ previous then throw .sequenceRegressed else
    if self.mode = .matchAll ∧ sequence ≠ expected then throw .sequenceGap else
    return ()

/-- `CanonicalStreamValidator::observe`. Its two assignments come behind all checks, so
an error leaves the validator as it was. -/
def observe (producerEpoch sequence : UInt64) :
    EStateM (Fault CanonicalStreamError) CanonicalStreamValidator Unit := do
  let self ← get
  if self.producerEpoch.any (· ≠ producerEpoch) then run (fail .producerEpochChanged) else
  run (lift (self.checkSequence sequence))
  set { self with producerEpoch := some producerEpoch, lastSequence := some sequence }

/-- `CanonicalStreamValidator::validate_resolved`. The payload is parsed before the
validator is consulted, and `observe` is the last check. -/
def validateResolved (bytes : Bytes) :
    EStateM (Fault CanonicalStreamError) CanonicalStreamValidator ValidatedFrame := do
  let frame ← run (mapErr .invalidFrame (ValidatedFrame.parse bytes))
  if frame.bytes.length ≠ bytes.length then run (fail .trailingBytes) else
  let header := frame.header
  if !header.flags.contains .transactionSanitized || !header.flags.contains .lutResolved then
    run (fail .notResolved)
  else
  observe header.producerEpoch header.canonicalSequence
  return frame

end CanonicalStreamValidator

-- ---------------------------------------------------------------------------
-- What a stream may look like
-- ---------------------------------------------------------------------------

/-- A payload that is one complete frame, sanitized and with its lookups resolved. -/
structure Resolved (bytes : Bytes) (frame : ValidatedFrame) : Prop where
  parse : ValidatedFrame.parse bytes = .ok frame
  complete : frame.bytes.length = bytes.length
  sanitized : frame.header.flags.contains .transactionSanitized = true
  lutResolved : frame.header.flags.contains .lutResolved = true

/-- A complete frame is the whole payload. -/
theorem Resolved.bytes_eq {bytes : Bytes} {frame : ValidatedFrame} (h : Resolved bytes frame) :
    frame.bytes = bytes := by
  obtain ⟨-, rest, rfl⟩ := parse_eq_ok.mp h.parse
  have hLength := h.complete
  rw [ValidatedFrame.bytes, List.length_append] at hLength
  rw [List.length_eq_zero_iff.mp (show rest.length = 0 by omega), List.append_nil]
  rfl

/-- The order that a mode asks of canonical sequences, without a bound on them. -/
def Advances (mode : CanonicalStreamMode) (previous next : ValidatedFrame) : Prop :=
  match mode with
  | .matchAll =>
    next.header.canonicalSequence.toNat = previous.header.canonicalSequence.toNat + 1
  | .filtered =>
    previous.header.canonicalSequence.toNat < next.header.canonicalSequence.toNat

/-- What may follow a frame on one attachment. -/
structure MayFollow (mode : CanonicalStreamMode) (previous next : ValidatedFrame) : Prop where
  epoch : next.header.producerEpoch = previous.header.producerEpoch
  advances : Advances mode previous next

/-- Both orders are strict. -/
theorem Advances.lt {mode : CanonicalStreamMode} {previous next : ValidatedFrame}
    (h : Advances mode previous next) :
    previous.header.canonicalSequence.toNat < next.header.canonicalSequence.toNat := by
  cases mode with
  | matchAll => exact h ▸ Nat.lt_succ_self _
  | filtered => exact h

namespace CanonicalStreamValidator

/-- The fields of a validator that accepted this frame last. -/
structure Remembers (validator : CanonicalStreamValidator) (mode : CanonicalStreamMode)
    (last : Option ValidatedFrame) : Prop where
  mode : validator.mode = mode
  epoch : validator.producerEpoch = last.map fun f => f.header.producerEpoch
  sequence : validator.lastSequence = last.map fun f => f.header.canonicalSequence

/-- A new validator remembers no frame. -/
theorem remembers_new (mode : CanonicalStreamMode) : (new mode).Remembers mode none :=
  ⟨rfl, rfl, rfl⟩

variable {mode : CanonicalStreamMode} {self : CanonicalStreamValidator}
  {last : Option ValidatedFrame}

/-- The sequence check of `observe` is the mode's order: a counter that cannot be
incremented is refused before it could wrap. -/
theorem checkSequence_eq_ok (h : self.Remembers mode last) (frame : ValidatedFrame) :
    self.checkSequence frame.header.canonicalSequence = .ok () ↔
      ∀ previous ∈ last, Advances mode previous frame := by
  unfold checkSequence
  rw [h.sequence, h.mode]
  cases last with
  -- the first frame has no order to keep
  | none => exact iff_of_true rfl fun _ h => nomatch h
  | some previous =>
    have hPrevious := previous.header.canonicalSequence.toNat_lt
    have hNext := frame.header.canonicalSequence.toNat_lt
    simp only [Option.map_some, Option.mem_some_iff, forall_eq']
    by_cases hLast : previous.header.canonicalSequence.toNat + 1 < 2 ^ 64
    · obtain ⟨hAdd, hExpected⟩ := u64CheckedAdd_one hLast
      rw [hAdd, okOr_some, ok_bind]
      by_cases hRegressed :
          frame.header.canonicalSequence ≤ previous.header.canonicalSequence
      · -- not later: an error in both modes
        rw [if_pos hRegressed]
        refine iff_of_false nofun fun hAdvances => ?_
        exact absurd hAdvances.lt (not_lt.mpr (UInt64.le_iff_toNat_le.mp hRegressed))
      · -- later: in order for `filtered`, while `matchAll` wants the next one
        have hLt := Nat.lt_of_not_le (mt UInt64.le_iff_toNat_le.mpr hRegressed)
        rw [if_neg hRegressed]
        cases mode with
        | filtered => exact iff_of_true (if_neg fun h => nomatch h.1) hLt
        | matchAll =>
          have hGap : frame.header.canonicalSequence = previous.header.canonicalSequence + 1 ↔
              Advances .matchAll previous frame := by
            rw [← UInt64.toNat_inj, hExpected]
            rfl
          rw [← hGap]
          by_cases hEq : frame.header.canonicalSequence = previous.header.canonicalSequence + 1
          · exact iff_of_true (if_neg fun h => h.2 hEq) hEq
          · rw [if_pos ⟨rfl, hEq⟩]
            exact iff_of_false nofun hEq
    · -- the last sequence number is the largest one
      have hExhausted : u64CheckedAdd previous.header.canonicalSequence 1 = none := if_neg hLast
      rw [hExhausted]
      refine iff_of_false nofun fun hAdvances => ?_
      have := hAdvances.lt
      omega

/-- The validator after it accepted a frame. -/
def remember (self : CanonicalStreamValidator) (frame : ValidatedFrame) :
    CanonicalStreamValidator :=
  { self with
    producerEpoch := some frame.header.producerEpoch
    lastSequence := some frame.header.canonicalSequence }

/-- The two checks of `observe`. -/
def Admits (self : CanonicalStreamValidator) (frame : ValidatedFrame) : Prop :=
  (∀ epoch ∈ self.producerEpoch, epoch = frame.header.producerEpoch)
    ∧ self.checkSequence frame.header.canonicalSequence = .ok ()

/-- **One call of `observe`** either passes both checks and remembers the frame, or
fails and changes nothing. -/
theorem observe_cases (self : CanonicalStreamValidator) (frame : ValidatedFrame) :
    (self.Admits frame ∧ observe frame.header.producerEpoch frame.header.canonicalSequence self =
      .ok () (self.remember frame)) ∨
    (¬ self.Admits frame ∧ ∃ e,
      observe frame.header.producerEpoch frame.header.canonicalSequence self =
        .error (.err e) self) := by
  by_cases hEpoch : self.producerEpoch.any (· ≠ frame.header.producerEpoch) = true
  · refine Or.inr ⟨?_, .producerEpochChanged, ?_⟩
    · rintro ⟨hSame, -⟩
      obtain ⟨epoch, hEpoch, hNe⟩ := (Option.any_eq_true _ _).mp hEpoch
      exact (decide_eq_true_eq.mp hNe) (hSame epoch hEpoch)
    · rw [observe, get_bind, if_pos hEpoch]
      rfl
  · have hSame : ∀ epoch ∈ self.producerEpoch, epoch = frame.header.producerEpoch := by
      intro epoch hMem
      by_contra hNe
      exact hEpoch ((Option.any_eq_true _ _).mpr ⟨epoch, hMem, decide_eq_true hNe⟩)
    cases hCheck : self.checkSequence frame.header.canonicalSequence with
    | error e =>
      refine Or.inr ⟨fun h => (nomatch hCheck.symm.trans h.2), e, ?_⟩
      rw [observe, get_bind, if_neg hEpoch, run_bind, hCheck]
      rfl
    | ok u =>
      refine Or.inl ⟨⟨hSame, hCheck⟩, ?_⟩
      rw [observe, get_bind, if_neg hEpoch, run_bind, hCheck]
      rfl

/-- **One call of `validate_resolved`.** -/
theorem validateResolved_cases (self : CanonicalStreamValidator) (bytes : Bytes) :
    (∃ frame, Resolved bytes frame ∧ self.Admits frame ∧
      validateResolved bytes self = .ok frame (self.remember frame)) ∨
    ((∀ frame, Resolved bytes frame → ¬ self.Admits frame) ∧
      ∃ e, validateResolved bytes self = .error (.err e) self) := by
  have hReturns := parse_noPanic bytes
  -- the checks in the order of the source: the frame, its end, its flags, the stream
  cases hParse : ValidatedFrame.parse bytes with
  | error fault =>
    refine Or.inr ⟨fun frame h => (nomatch hParse.symm.trans h.parse), ?_⟩
    cases fault with
    | panic => exact absurd hParse hReturns
    | err e => exact ⟨.invalidFrame e, by rw [validateResolved, run_bind, hParse]; rfl⟩
  | ok frame =>
    have hOnly : ∀ other, Resolved bytes other → other = frame := fun other h =>
      Except.ok.inj (h.parse.symm.trans hParse)
    have hStep : validateResolved bytes self =
        (if frame.bytes.length ≠ bytes.length then run (fail .trailingBytes) else
          if !frame.header.flags.contains .transactionSanitized
              || !frame.header.flags.contains .lutResolved then
            run (fail .notResolved)
          else do
            observe frame.header.producerEpoch frame.header.canonicalSequence
            return frame :
          EStateM (Fault CanonicalStreamError) CanonicalStreamValidator ValidatedFrame) self := by
      rw [validateResolved, run_bind, hParse]
      rfl
    by_cases hComplete : frame.bytes.length = bytes.length
    · rw [if_neg (not_not.mpr hComplete)] at hStep
      by_cases hFlags : (!frame.header.flags.contains .transactionSanitized
          || !frame.header.flags.contains .lutResolved) = true
      · rw [if_pos hFlags] at hStep
        refine Or.inr ⟨fun other h => ?_, .notResolved, hStep⟩
        obtain rfl := hOnly other h
        rw [h.sanitized, h.lutResolved] at hFlags
        exact nomatch hFlags
      · rw [if_neg hFlags] at hStep
        simp only [Bool.or_eq_true, Bool.not_eq_true', not_or, Bool.not_eq_false] at hFlags
        have hResolved : Resolved bytes frame := ⟨hParse, hComplete, hFlags.1, hFlags.2⟩
        rcases self.observe_cases frame with ⟨hAdmits, hObserve⟩ | ⟨hRefuses, e, hObserve⟩
        · refine Or.inl ⟨frame, hResolved, hAdmits, ?_⟩
          rw [hStep, bind_of_ok hObserve]
          rfl
        · refine Or.inr ⟨fun other h => hOnly other h ▸ hRefuses, e, ?_⟩
          rw [hStep, bind_of_error hObserve]
    · rw [if_pos hComplete] at hStep
      exact Or.inr ⟨fun other h => absurd (hOnly other h ▸ h.complete) hComplete,
        .trailingBytes, hStep⟩

/-- In mode `matchAll` a frame that skips a sequence number is a gap, whatever else
could be said about it. -/
theorem validateResolved_gap {bytes : Bytes} {previous frame : ValidatedFrame}
    (hRemembers : self.Remembers .matchAll (some previous)) (hResolved : Resolved bytes frame)
    (hEpoch : frame.header.producerEpoch = previous.header.producerEpoch)
    (hGap : previous.header.canonicalSequence.toNat + 1 < frame.header.canonicalSequence.toNat) :
    validateResolved bytes self = .error (.err .sequenceGap) self := by
  have hBound := frame.header.canonicalSequence.toNat_lt
  obtain ⟨hAdd, hExpected⟩ := @u64CheckedAdd_one previous.header.canonicalSequence (by omega)
  have hCheck : self.checkSequence frame.header.canonicalSequence = .error .sequenceGap := by
    unfold checkSequence
    rw [hRemembers.sequence, hRemembers.mode, Option.map_some]
    have hLater : ¬ frame.header.canonicalSequence ≤ previous.header.canonicalSequence := by
      rw [UInt64.le_iff_toNat_le]
      omega
    have hSkips : frame.header.canonicalSequence ≠ previous.header.canonicalSequence + 1 := by
      intro hEq
      rw [hEq, hExpected] at hGap
      exact Nat.lt_irrefl _ hGap
    show (okOr CanonicalStreamError.sequenceExhausted _ >>= fun expected => _) = _
    rw [hAdd, okOr_some, ok_bind, if_neg hLater, if_pos ⟨rfl, hSkips⟩]
    rfl
  have hSame : ¬ self.producerEpoch.any (· ≠ frame.header.producerEpoch) = true := by
    rw [hRemembers.epoch, Option.map_some, Option.any_some, hEpoch]
    simp
  have hObserve : observe frame.header.producerEpoch frame.header.canonicalSequence self =
      .error (.err .sequenceGap) self := by
    rw [observe, get_bind, if_neg hSame, run_bind, hCheck]
    rfl
  rw [validateResolved, run_bind, hResolved.parse]
  show (if frame.bytes.length ≠ bytes.length then run (fail .trailingBytes) else
    if !frame.header.flags.contains .transactionSanitized
        || !frame.header.flags.contains .lutResolved then run (fail .notResolved)
    else do
      observe frame.header.producerEpoch frame.header.canonicalSequence
      return frame :
    EStateM (Fault CanonicalStreamError) CanonicalStreamValidator ValidatedFrame) self = _
  rw [if_neg (not_not.mpr hResolved.complete), hResolved.sanitized, hResolved.lutResolved,
    if_neg (by decide), bind_of_error hObserve]

/-- A validator that remembers the last accepted frame admits what may follow it. -/
theorem admits_iff (h : self.Remembers mode last) (frame : ValidatedFrame) :
    self.Admits frame ↔ ∀ previous ∈ last, MayFollow mode previous frame := by
  rw [Admits, checkSequence_eq_ok h, h.epoch]
  cases last with
  | none => exact iff_of_true ⟨fun _ h => (nomatch h), fun _ h => nomatch h⟩ fun _ h => nomatch h
  | some previous =>
    simp only [Option.map_some, Option.mem_some_iff, forall_eq']
    exact ⟨fun h => ⟨h.1.symm, h.2⟩, fun h => ⟨h.epoch.symm, h.advances⟩⟩

/-- **The validator is a sequencer**: its state stands for the last accepted frame. -/
theorem validateResolved_sequencer (mode : CanonicalStreamMode) :
    Run.Sequencer validateResolved (fun self last => self.Remembers mode last) Resolved
      (MayFollow mode) where
  of_ok := by
    intro self last bytes frame self' hRemembers hStep
    rcases self.validateResolved_cases bytes with ⟨frame', hResolved, hAdmits, hOk⟩ | ⟨-, e, hErr⟩
    · obtain ⟨rfl, rfl⟩ := EStateM.Result.ok.inj (hOk.symm.trans hStep)
      exact ⟨hResolved, (admits_iff hRemembers _).mp hAdmits, hRemembers.mode, rfl, rfl⟩
    · exact nomatch hErr.symm.trans hStep
  ok := by
    intro self last bytes frame hRemembers hResolved hFollows
    rcases self.validateResolved_cases bytes with ⟨frame', hResolved', -, hOk⟩ | ⟨hNone, -⟩
    · obtain rfl := Except.ok.inj (hResolved'.parse.symm.trans hResolved.parse)
      exact ⟨_, hOk⟩
    · exact absurd ((admits_iff hRemembers frame).mpr hFollows) (hNone frame hResolved)
  of_error := by
    intro bytes self e self' hStep
    rcases self.validateResolved_cases bytes with ⟨frame, -, -, hOk⟩ | ⟨-, e', hErr⟩
    · exact nomatch hOk.symm.trans hStep
    · exact (EStateM.Result.error.inj (hErr.symm.trans hStep)).2.symm

/-- Behind any payloads, the validator remembers the last frame that it accepted. -/
theorem remembers_accepted (mode : CanonicalStreamMode) (payloads : List Bytes) :
    (Run.final validateResolved (new mode) payloads).Remembers mode
      (Run.accepted (Run.results validateResolved (new mode) payloads)).getLast? := by
  have h := (validateResolved_sequencer mode).rel_final (remembers_new mode) payloads
  rw [Option.or_none] at h
  exact h

end CanonicalStreamValidator

-- ---------------------------------------------------------------------------
-- Whole runs
-- ---------------------------------------------------------------------------

/-- A frame that comes later on the same attachment. -/
structure Later (earlier later : ValidatedFrame) : Prop where
  epoch : later.header.producerEpoch = earlier.header.producerEpoch
  sequence : earlier.header.canonicalSequence.toNat < later.header.canonicalSequence.toNat

instance : Trans Later Later Later :=
  ⟨fun h h' => ⟨h'.epoch.trans h.epoch, h.sequence.trans h'.sequence⟩⟩

/-- A run of frames that follow each other is in order, not only from one to the
next. -/
theorem pairwise_later {mode : CanonicalStreamMode} {frames : List ValidatedFrame}
    (h : frames.IsChain (MayFollow mode)) : frames.Pairwise Later :=
  List.isChain_iff_pairwise.mp (h.imp fun _ _ h => ⟨h.epoch, h.advances.lt⟩)

/-- The last frame of a run is the given one or later. -/
theorem last_later {frames : List ValidatedFrame} (h : frames.Pairwise Later)
    {frame last : ValidatedFrame} (hFrame : frame ∈ frames) (hLast : last ∈ frames.getLast?) :
    frame = last ∨ Later frame last := by
  obtain ⟨front, rfl⟩ := List.getLast?_eq_some_iff.mp hLast
  rw [List.pairwise_append] at h
  rcases List.mem_append.mp hFrame with hFront | hEnd
  · exact Or.inr (h.2.2 frame hFront last (List.mem_singleton.mpr rfl))
  · exact Or.inl (List.mem_singleton.mp hEnd)

/-- The payload of the sample frame, which every mode accepts first. -/
def samplePayload : Bytes := sampleParts.frame sampleMetadata

/-- The sample payload is complete and resolved. -/
theorem samplePayload_resolved :
    Resolved samplePayload (sampleParts.validated sampleMetadata sampleV0.view) := by
  have hParse := parse_of_canonical sampleParts_encodable.canonical []
  rw [List.append_nil] at hParse
  exact ⟨hParse, rfl, by decide, by decide⟩

namespace CanonicalStreamValidator

section Law

/-- A list with a first element has a last one. -/
theorem exists_last_of_first {frames : List ValidatedFrame} {first : ValidatedFrame}
    (h : first ∈ frames.head?) : ∃ last, last ∈ frames.getLast? :=
  Option.isSome_iff_exists.mp
    (List.getLast?_isSome.mpr (List.ne_nil_of_mem (List.mem_of_mem_head? h)))

/-- A list with a last element has a first one. -/
theorem exists_first_of_last {frames : List ValidatedFrame} {last : ValidatedFrame}
    (h : last ∈ frames.getLast?) : ∃ first, first ∈ frames.head? :=
  Option.isSome_iff_exists.mp
    (List.isSome_head?.mpr (List.ne_nil_of_mem (List.mem_of_mem_getLast? h)))

variable (mode : CanonicalStreamMode) (payloads : List Bytes)

/-- The answers of a fresh validator to a list of payloads. -/
def answers : List (Except (Fault CanonicalStreamError) ValidatedFrame) :=
  Run.results validateResolved (new mode) payloads

/-- The frames accepted before the payload with the given index. -/
def acceptedBefore (i : Nat) : List ValidatedFrame :=
  Run.accepted ((answers mode payloads).take i)

variable {mode payloads}

/-- The accepted frames are in order at any point of the run. -/
theorem acceptedBefore_pairwise (i : Nat) : (acceptedBefore mode payloads i).Pairwise Later := by
  have h := (validateResolved_sequencer mode).isChain_accepted (remembers_new mode)
    (payloads.take i)
  rw [← Run.take_results] at h
  exact pairwise_later h

/-- The sequencer's law for payloads: an answer depends on the payload and on the last
accepted frame alone. -/
theorem answer_ok_iff {i : Nat} {frame : ValidatedFrame} :
    (answers mode payloads)[i]? = some (.ok frame) ↔
      ∃ payload, payloads[i]? = some payload ∧ Resolved payload frame ∧
        ∀ previous ∈ (acceptedBefore mode payloads i).getLast?, MayFollow mode previous frame :=
  (validateResolved_sequencer mode).result_ok_iff (remembers_new mode)

/-- Among the accepted frames the first and the last have the same epoch. -/
theorem epoch_of_first {i : Nat} {first last : ValidatedFrame}
    (hFirst : first ∈ (acceptedBefore mode payloads i).head?)
    (hLast : last ∈ (acceptedBefore mode payloads i).getLast?) :
    last.header.producerEpoch = first.header.producerEpoch := by
  rcases last_later (acceptedBefore_pairwise i) (List.mem_of_mem_head? hFirst) hLast with
    rfl | hLater
  · rfl
  · exact hLater.epoch

/-- Accepted sequences increase over the run, whatever lies between them. -/
theorem answer_sequence_lt {i j : Nat} (hij : i < j) {frame next : ValidatedFrame}
    (hFrame : (answers mode payloads)[i]? = some (.ok frame))
    (hNext : (answers mode payloads)[j]? = some (.ok next)) :
    frame.header.canonicalSequence.toNat < next.header.canonicalSequence.toNat := by
  have hMem : frame ∈ acceptedBefore mode payloads j := by
    refine List.mem_filterMap.mpr ⟨.ok frame, ?_, rfl⟩
    refine List.mem_of_getElem? (i := i) ?_
    rw [List.getElem?_take_of_lt hij]
    exact hFrame
  obtain ⟨last, hLast⟩ := Option.isSome_iff_exists.mp
    (List.getLast?_isSome.mpr (List.ne_nil_of_mem hMem))
  obtain ⟨-, -, -, hFollows⟩ := answer_ok_iff.mp hNext
  have hLt := (hFollows last hLast).advances.lt
  rcases last_later (acceptedBefore_pairwise j) hMem hLast with rfl | hLater
  · exact hLt
  · exact hLater.sequence.trans hLt

/-- A payload that is not accepted gets an error, and the validator is the same
after it as before. -/
theorem answer_error {i : Nat} {fault : Fault CanonicalStreamError}
    (h : (answers mode payloads)[i]? = some (.error fault)) :
    fault ≠ .panic ∧ Run.final validateResolved (new mode) (payloads.take (i + 1)) =
      Run.final validateResolved (new mode) (payloads.take i) := by
  rw [answers, Run.getElem?_results, Option.map_eq_some_iff] at h
  obtain ⟨payload, hPayload, hOutcome⟩ := h
  have hTake : payloads.take (i + 1) = payloads.take i ++ [payload] := by
    rw [List.take_add_one, hPayload, Option.toList_some]
  rw [hTake, Run.final_append]
  rcases validateResolved_cases (Run.final validateResolved (new mode) (payloads.take i)) payload
    with ⟨frame, -, -, hOk⟩ | ⟨-, e, hError⟩
  · rw [hOk] at hOutcome
    exact nomatch hOutcome
  · rw [hError] at hOutcome
    obtain rfl := Except.error.inj hOutcome
    refine ⟨nofun, ?_⟩
    rw [Run.final_cons, hError]
    rfl

end Law

/-- **The law of canonical streams.** Feed any list of payloads to a fresh
validator, and go on after errors:

* a payload is accepted iff it is a complete, resolved frame with the epoch of
  the first accepted one that advances the sequence of the last accepted one;
* a rejected payload gets an error and leaves the validator as it was;
* deleting any set of rejected payloads changes no other result;
* nothing is accepted after the largest sequence number. -/
theorem validateResolved_law (mode : CanonicalStreamMode) (payloads : List Bytes) :
    (∀ (i : Nat) (frame : ValidatedFrame), (answers mode payloads)[i]? = some (.ok frame) ↔
      ∃ payload, payloads[i]? = some payload ∧ Resolved payload frame ∧
        (∀ first ∈ (acceptedBefore mode payloads i).head?,
          frame.header.producerEpoch = first.header.producerEpoch) ∧
        ∀ previous ∈ (acceptedBefore mode payloads i).getLast?, Advances mode previous frame) ∧
    (∀ (i : Nat) fault, (answers mode payloads)[i]? = some (.error fault) → fault ≠ .panic ∧
      Run.final validateResolved (new mode) (payloads.take (i + 1)) =
        Run.final validateResolved (new mode) (payloads.take i)) ∧
    (∀ mask : List Bool, mask.length = payloads.length →
      (∀ i : Nat, mask[i]? = some false →
        ∃ fault, (answers mode payloads)[i]? = some (.error fault)) →
      answers mode (Run.select mask payloads) = Run.select mask (answers mode payloads)) ∧
    ∀ (i j : Nat) (frame : ValidatedFrame), i < j →
      (answers mode payloads)[i]? = some (.ok frame) →
      frame.header.canonicalSequence.toNat = 2 ^ 64 - 1 →
      ∀ next, (answers mode payloads)[j]? ≠ some (.ok next) := by
  refine ⟨?_, ?_, ?_, ?_⟩
  · intro i frame
    rw [answer_ok_iff]
    refine exists_congr fun payload => and_congr_right fun _ => and_congr_right fun _ => ?_
    constructor
    · intro hFollows
      -- the last accepted frame has the epoch of the first, so either may be asked for
      refine ⟨?_, fun previous hPrevious => (hFollows previous hPrevious).advances⟩
      intro first hFirst
      obtain ⟨last, hLast⟩ := exists_last_of_first hFirst
      exact (hFollows last hLast).epoch.trans (epoch_of_first hFirst hLast)
    · rintro ⟨hEpoch, hAdvances⟩ previous hPrevious
      obtain ⟨first, hFirst⟩ := exists_first_of_last hPrevious
      exact ⟨(hEpoch first hFirst).trans (epoch_of_first hFirst hPrevious).symm,
        hAdvances previous hPrevious⟩
  · exact fun i fault => answer_error
  · exact fun mask hLength hMask =>
      Run.results_select (validateResolved_sequencer mode).of_error hLength hMask
  · intro i j frame hij hFrame hMax next hNext
    -- a later frame would have a sequence of more than 64 bits
    have hLt := answer_sequence_lt hij hFrame hNext
    have := next.header.canonicalSequence.toNat_lt
    omega

/-- A fresh validator accepts the sample frame. -/
theorem samplePayload_accepted (mode : CanonicalStreamMode) :
    ∃ validator, validateResolved samplePayload (new mode) =
      .ok (sampleParts.validated sampleMetadata sampleV0.view) validator :=
  (validateResolved_sequencer mode).ok (remembers_new mode) samplePayload_resolved
    fun _ h => nomatch h

/-- The sample frame is accepted, and the empty payload behind it can be deleted. -/
theorem validateResolved_law_sample :
    (answers .matchAll [samplePayload, []])[0]? =
        some (.ok (sampleParts.validated sampleMetadata sampleV0.view)) ∧
      answers .matchAll [samplePayload] =
        Run.select [true, false] (answers .matchAll [samplePayload, []]) := by
  obtain ⟨hAccept, -, hDelete, -⟩ := validateResolved_law .matchAll [samplePayload, []]
  refine ⟨(hAccept 0 _).mpr ⟨_, rfl, samplePayload_resolved,
    fun _ h => (nomatch h), fun _ h => nomatch h⟩, ?_⟩
  refine hDelete [true, false] rfl fun i hFalse => ?_
  match i, hFalse with
  | 1, _ => exact ⟨.err (.invalidFrame .truncatedHeader), by
      rw [answers, Run.getElem?_results]
      rfl⟩

end CanonicalStreamValidator

end TxStream
