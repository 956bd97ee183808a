import TxStream.Client.Attachment
import TxStream.Client.Selection
import TxStream.Run.Received

/-!
# The broader stream, end to end

A producer makes one observation of each transaction: a resolved frame, with the
next canonical sequence number, or an unresolved transaction, with a larger
structural number than the last one. The server sends what the filter selects, in
the order of observation. What the client gets of that, and what it can tell
about a stream from which something is missing:

* `accepts_received_iff` — which lists of observations are accepted.
* `observation_feed` — everything selected is delivered; a resolved frame that is
  missing is a gap, an unresolved transaction is not missed.
-/

namespace TxStream

open Wire Rust

/-- An unresolved transaction of a producer, with what filters look at. -/
structure Unresolvable where
  raw : Proto.UnresolvedTransaction
  valid : ObservationValidator.UnresolvedValid raw
  vote : Bool
  keys : List Bytes

/-- One observation of a producer. -/
inductive Observed where
  | resolved (produced : Produced)
  | unresolved (transaction : Unresolvable)

namespace Observed

/-- The message that carries it. -/
def message : Observed → Proto.TransactionFrame
  | .resolved produced => ⟨some (.canonicalV1 produced.payload)⟩
  | .unresolved transaction => ⟨some (.unresolved transaction.raw)⟩

/-- What the client makes of that. -/
def observation : Observed → TransactionObservation
  | .resolved produced => .resolved ⟨produced.payload⟩
  | .unresolved transaction => .unresolved ⟨transaction.raw⟩

/-- The epoch of an observation. -/
def epoch : Observed → UInt64
  | .resolved produced => produced.frame.header.producerEpoch
  | .unresolved transaction => transaction.raw.producerEpoch

/-- Whether the transaction is a vote. -/
def vote : Observed → Bool
  | .resolved produced => produced.vote
  | .unresolved transaction => transaction.vote

/-- The keys that are known: with the loaded ones, if they are resolved. -/
def keys : Observed → List Bytes
  | .resolved produced => produced.keys
  | .unresolved transaction => transaction.keys

/-- The frame of a resolved observation. -/
def resolved? : Observed → Option Produced
  | .resolved produced => some produced
  | .unresolved _ => none

/-- The transaction of an unresolved one. -/
def unresolved? : Observed → Option Unresolvable
  | .resolved _ => none
  | .unresolved transaction => some transaction

end Observed

/-- The resolved frames of some observations. -/
def resolvedOf (observations : List Observed) : List Produced :=
  observations.filterMap Observed.resolved?

/-- The unresolved transactions of some observations. -/
def unresolvedOf (observations : List Observed) : List Unresolvable :=
  observations.filterMap Observed.unresolved?

/-- The structural number. -/
def Unresolvable.number (transaction : Unresolvable) : Nat :=
  transaction.raw.structuralSequence.toNat

/-- The canonical number. -/
def Produced.number (produced : Produced) : Nat :=
  produced.frame.header.canonicalSequence.toNat

/-- What a producer observes in one epoch, in order. -/
structure ObservationRun (run : List Observed) : Prop where
  epoch : ∀ x ∈ run, ∀ y ∈ run, x.epoch = y.epoch
  resolved : Run.Consecutive Produced.number (resolvedOf run)
  unresolved : Run.Increasing Unresolvable.number (unresolvedOf run)

/-- The observations that a filter selects by the keys that are known. -/
def ResolvedFilter.observed (self : ResolvedFilter) (run : List Observed) : List Observed :=
  run.filter fun x => self.Selects x.vote x.keys

/-- How the received frames must lie in the sent ones. -/
def Intact (mode : CanonicalStreamMode) (received sent : List Produced) : Prop :=
  match mode with
  | .matchAll => received <:+: sent
  | .filtered => received.Sublist sent

-- ---------------------------------------------------------------------------
-- Lists of observations
-- ---------------------------------------------------------------------------

open Proto.TransactionFrame (canonicalPayload? unresolvedPayload? epoch?)

/-- A frame is one of the resolved ones iff it was observed. -/
theorem mem_resolvedOf {observations : List Observed} {produced : Produced} :
    produced ∈ resolvedOf observations ↔ .resolved produced ∈ observations := by
  rw [resolvedOf, List.mem_filterMap]
  constructor
  · rintro ⟨x, hx, hSome⟩
    cases x with
    | resolved produced' => exact Option.some.inj hSome ▸ hx
    | unresolved transaction => exact nomatch hSome
  · exact fun h => ⟨_, h, rfl⟩

/-- A transaction is one of the unresolved ones iff it was observed. -/
theorem mem_unresolvedOf {observations : List Observed} {transaction : Unresolvable} :
    transaction ∈ unresolvedOf observations ↔ .unresolved transaction ∈ observations := by
  rw [unresolvedOf, List.mem_filterMap]
  constructor
  · rintro ⟨x, hx, hSome⟩
    cases x with
    | resolved produced => exact nomatch hSome
    | unresolved transaction' => exact Option.some.inj hSome ▸ hx
  · exact fun h => ⟨_, h, rfl⟩

/-- The canonical messages are the payloads of the resolved frames. -/
theorem canonicalPayloads (observations : List Observed) :
    (observations.map Observed.message).filterMap canonicalPayload? =
      payloads (resolvedOf observations) := by
  rw [List.filterMap_map, payloads, resolvedOf, List.map_filterMap]
  refine List.filterMap_congr fun x _ => ?_
  cases x <;> rfl

/-- The unresolved messages are the raw transactions. -/
theorem unresolvedPayloads (observations : List Observed) :
    (observations.map Observed.message).filterMap unresolvedPayload? =
      (unresolvedOf observations).map Unresolvable.raw := by
  rw [List.filterMap_map, unresolvedOf, List.map_filterMap]
  refine List.filterMap_congr fun x _ => ?_
  cases x <;> rfl

/-- Each message carries the epoch of its observation: a resolved one parses. -/
theorem messageEpochs (observations : List Observed) :
    (observations.map Observed.message).filterMap epoch? = observations.map Observed.epoch := by
  rw [List.filterMap_map, ← List.filterMap_eq_map]
  refine List.filterMap_congr fun x _ => ?_
  cases x with
  | resolved produced =>
    show (ValidatedFrame.parse produced.payload).toOption.map _ = _
    rw [produced.resolved.parse]
    rfl
  | unresolved transaction => rfl

-- ---------------------------------------------------------------------------
-- What is accepted
-- ---------------------------------------------------------------------------

/-- In one epoch, which frames may follow each other is a matter of their numbers. -/
theorem isChain_mayFollow_iff {mode : CanonicalStreamMode} {received sent : List Produced}
    (hEpoch : ∀ x ∈ received, ∀ y ∈ received,
      x.frame.header.producerEpoch = y.frame.header.producerEpoch)
    (hSent : Run.Consecutive Produced.number sent) (hMem : ∀ x ∈ received, x ∈ sent) :
    (received.map Produced.frame).IsChain (MayFollow mode) ↔ Intact mode received sent := by
  have hNumbers : (received.map Produced.frame).IsChain (MayFollow mode) ↔
      received.IsChain fun x y => Advances mode x.frame y.frame := by
    rw [List.isChain_map]
    exact List.IsChain.iff_of_mem_imp fun x y hx hy =>
      ⟨fun h => h.advances, fun h => ⟨hEpoch y hy x hx, h⟩⟩
  rw [hNumbers]
  cases mode with
  | matchAll => exact Run.isInfix_iff hSent hMem
  | filtered =>
    rw [Intact, ← Run.sublist_iff hSent.increasing hMem]
    exact ⟨Run.increasing_of_isChain, List.Pairwise.isChain⟩

/-- **What is accepted of a run's observations**, in whatever order and however
often they are received: in each domain of its own, what the mode asks of it. -/
theorem accepts_received_iff {mode : CanonicalStreamMode} {run received : List Observed}
    (hRun : ObservationRun run) (hMem : ∀ x ∈ received, x ∈ run) :
    Run.Accepts ObservationValidator.validate (.new mode) (received.map Observed.message) ↔
      Intact mode (resolvedOf received) (resolvedOf run) ∧
        (unresolvedOf received).Sublist (unresolvedOf run) := by
  have hResolved : ∀ x ∈ resolvedOf received, x ∈ resolvedOf run := fun x hx =>
    mem_resolvedOf.mpr (hMem _ (mem_resolvedOf.mp hx))
  have hUnresolved : ∀ x ∈ unresolvedOf received, x ∈ unresolvedOf run := fun x hx =>
    mem_unresolvedOf.mpr (hMem _ (mem_unresolvedOf.mp hx))
  have hEpoch : ∀ x ∈ resolvedOf received, ∀ y ∈ resolvedOf received,
      x.frame.header.producerEpoch = y.frame.header.producerEpoch := fun x hx y hy =>
    hRun.epoch _ (hMem _ (mem_resolvedOf.mp hx)) _ (hMem _ (mem_resolvedOf.mp hy))
  -- the five conditions of a fresh validator, of which three hold of every such list
  rw [ObservationValidator.accepts_iff, ObservationValidator.acceptable_new, canonicalPayloads,
    unresolvedPayloads, messageEpochs, CanonicalStreamValidator.accepts_payloads_iff,
    isChain_mayFollow_iff hEpoch hRun.resolved hResolved,
    ← Run.sublist_iff hRun.unresolved hUnresolved, List.map_map]
  constructor
  · rintro ⟨-, hIntact, ⟨-, hIncreasing⟩, -⟩
    exact ⟨hIntact, Run.increasing_of_isChain
      (((List.isChain_map _).mp hIncreasing).imp fun _ _ h => UInt64.lt_iff_toNat_lt.mp h)⟩
  · rintro ⟨hIntact, hIncreasing⟩
    refine ⟨?_, hIntact, ⟨?_, ?_⟩, ?_⟩
    · intro message hMessage
      obtain ⟨x, -, rfl⟩ := List.mem_map.mp hMessage
      cases x <;> exact nofun
    · intro raw hRaw
      obtain ⟨transaction, -, rfl⟩ := List.mem_map.mp hRaw
      exact transaction.valid
    · exact (List.isChain_map _).mpr ((List.Pairwise.isChain hIncreasing).imp
        fun _ _ h => UInt64.lt_iff_toNat_lt.mpr h)
    · intro epoch hEpoch epoch' hEpoch'
      obtain ⟨x, hx, rfl⟩ := List.mem_map.mp hEpoch
      obtain ⟨y, hy, rfl⟩ := List.mem_map.mp hEpoch'
      exact hRun.epoch x (hMem x hx) y (hMem y hy)

-- ---------------------------------------------------------------------------
-- What is delivered
-- ---------------------------------------------------------------------------

namespace Attachment

variable {ν μ α : Type} {validate : μ → EStateM (Fault Error) ν α}

/-- Accepted messages are delivered one by one, and then whatever follows. -/
theorem calls_of_accepts {fresh : ν} {messages : List μ}
    (h : Run.Accepts validate fresh messages) (more : List (Message μ)) (n : Nat) :
    (calls validate (messages.length + n) ⟨messages.map .message ++ more, fresh, false⟩).1 =
      (Run.results validate fresh messages).map some ++
        (calls validate n ⟨more, Run.final validate fresh messages, false⟩).1 := by
  induction messages generalizing fresh with
  | nil =>
    rw [List.length_nil, Nat.zero_add]
    rfl
  | cons message messages ih =>
    obtain ⟨item, validator, hOk, hRest⟩ := Run.accepts_cons.mp h
    rw [List.length_cons, Nat.add_right_comm, List.map_cons, List.cons_append,
      calls_message hOk, ih hRest, Run.results, Run.final_cons, hOk]
    rfl

/-- Then one error and `None`, if what follows is not accepted. -/
theorem calls_ended {fresh : ν} {messages : List μ} (h : Run.Accepts validate fresh messages)
    {outcome : Message μ} {e : Fault Error} {validator : ν}
    (hError : receive validate outcome (Run.final validate fresh messages) = .error e validator)
    (more : List (Message μ)) (k : Nat) :
    (calls validate (messages.length + (k + 1))
        ⟨messages.map .message ++ outcome :: more, fresh, false⟩).1 =
      (Run.results validate fresh messages).map some ++
        some (.error e) :: List.replicate k none := by
  rw [calls_of_accepts h, calls_error hError]

theorem receive_ending (validator : ν) (ending : Ending) :
    receive validate ending.outcome validator = .error (.err ending.error) validator := by
  cases ending <;> rfl

end Attachment

namespace ObservationValidator

/-- An accepted observation is returned as it is. -/
theorem item_of_ok {x : Observed} {item : TransactionObservation}
    {self self' : ObservationValidator} (h : validate x.message self = .ok item self') :
    item = x.observation := by
  cases x with
  | resolved produced =>
    obtain ⟨-, -, -, -, rfl, -⟩ := validate_canonical_eq_ok.mp h
    rfl
  | unresolved transaction =>
    obtain ⟨-, -, -, rfl, -⟩ := validate_unresolved_eq_ok.mp h
    rfl

theorem results_of_accepts {self : ObservationValidator} {received : List Observed}
    (h : Run.Accepts validate self (received.map Observed.message)) :
    Run.results validate self (received.map Observed.message) =
      received.map fun x => .ok x.observation := by
  induction received generalizing self with
  | nil => rfl
  | cons x received ih =>
    rw [List.map_cons] at h
    obtain ⟨item, self', hOk, hRest⟩ := Run.accepts_cons.mp h
    obtain rfl := item_of_ok hOk
    rw [List.map_cons, Run.results, hOk, List.map_cons]
    exact congrArg _ (ih hRest)

/-- The canonical validator has seen the canonical messages. -/
theorem canonical_final {self : ObservationValidator} {messages : List Proto.TransactionFrame}
    (h : Run.Accepts validate self messages) :
    (Run.final validate self messages).canonical =
      Run.final CanonicalStreamValidator.validateResolved self.canonical
        (messages.filterMap canonicalPayload?) := by
  induction messages generalizing self with
  | nil => rfl
  | cons message messages ih =>
    obtain ⟨item, self', hOk, hRest⟩ := Run.accepts_cons.mp h
    rw [Run.final_cons, hOk, show Run.state (.ok item self') = self' from rfl, ih hRest]
    match message with
    | ⟨some (.canonicalV1 bytes)⟩ =>
      obtain ⟨frame, canonical, hStep, -, -, rfl⟩ := validate_canonical_eq_ok.mp hOk
      rw [List.filterMap_cons_some (show canonicalPayload? ⟨some (.canonicalV1 bytes)⟩ =
        some bytes from rfl), Run.final_cons, hStep]
      rfl
    | ⟨some (.unresolved raw)⟩ =>
      obtain ⟨-, -, -, -, rfl⟩ := validate_unresolved_eq_ok.mp hOk
      rfl
    | ⟨none⟩ => exact nomatch hOk

/-- A gap of the canonical validator is one of the broader stream. -/
theorem validate_gap {bytes : Bytes} {self : ObservationValidator}
    (h : CanonicalStreamValidator.validateResolved bytes self.canonical =
      .error (.err .sequenceGap) self.canonical) :
    validate ⟨some (.canonicalV1 bytes)⟩ self = .error (.err (.stream .sequenceGap)) self := by
  have hStep : validateCanonical bytes self = .error (.err (.stream .sequenceGap)) self := by
    rw [validateCanonical, h]
    rfl
  exact bind_of_error hStep

end ObservationValidator

/-- The canonical validator remembers the last of the frames that it accepted. -/
theorem remembers_of_accepts {mode : CanonicalStreamMode} {frames : List Produced}
    (h : Run.Accepts CanonicalStreamValidator.validateResolved (.new mode) (payloads frames))
    {last : Produced} (hLast : last ∈ frames.getLast?) :
    (Run.final CanonicalStreamValidator.validateResolved (.new mode) (payloads frames)).Remembers
      mode (some last.frame) := by
  have hRemembers := CanonicalStreamValidator.remembers_accepted mode (payloads frames)
  rw [show Run.results _ _ _ = _ from CanonicalStreamValidator.answers_of_isChain
    (CanonicalStreamValidator.accepts_payloads_iff.mp h), Run.accepted_map_ok, List.getLast?_map,
    Option.mem_def.mp hLast, Option.map_some] at hRemembers
  exact hRemembers

/-- The last frame in front of the first gap, and the frame behind it. -/
theorem skips_of_firstOmission {received sent : List Produced}
    (first : Run.FirstOmission received sent) (hSent : Run.Consecutive Produced.number sent) :
    ∃ last ∈ first.front.getLast?, last.number + 1 < first.next.number := by
  obtain ⟨last, hLast⟩ := Option.isSome_iff_exists.mp
    (List.getLast?_isSome.mpr first.front_ne_nil)
  obtain ⟨omitted, hOmitted⟩ := List.exists_mem_of_ne_nil _ first.gap_ne_nil
  refine ⟨last, hLast, ?_⟩
  have hIncreasing := hSent.increasing
  rw [first.all_eq] at hIncreasing
  have hBetween : [last, omitted, first.next].Sublist
      (first.skipped ++ first.front ++ first.gap ++ first.next :: first.back) :=
    (((List.singleton_sublist.mpr (List.mem_of_mem_getLast? hLast)).trans
      (List.sublist_append_right ..)).append (List.singleton_sublist.mpr hOmitted)).append
        (List.cons_sublist_cons.mpr (List.nil_sublist _))
  have hOrder := List.Pairwise.sublist hBetween hIncreasing
  simp only [List.pairwise_cons, List.mem_cons, forall_eq_or_imp] at hOrder
  obtain ⟨⟨hOmittedLater, -⟩, ⟨hNextLater, -⟩, -⟩ := hOrder
  omega

/-- Where a resolved frame lies among the observations. -/
theorem exists_split_resolvedOf {received : List Observed} {front rest : List Produced}
    {next : Produced} (h : resolvedOf received = front ++ next :: rest) :
    ∃ before after, received = before ++ .resolved next :: after ∧ resolvedOf before = front := by
  obtain ⟨before, behind, rfl, hBefore, hBehind⟩ := List.filterMap_eq_append_iff.mp h
  obtain ⟨between, x, after, rfl, hBetween, hNext, -⟩ := List.filterMap_eq_cons_iff.mp hBehind
  cases x with
  | unresolved transaction => exact nomatch hNext
  | resolved produced =>
    obtain rfl := Option.some.inj hNext
    refine ⟨before ++ between, after, by simp, ?_⟩
    rw [resolvedOf, List.filterMap_append, hBefore,
      List.filterMap_eq_nil_iff.mpr hBetween, List.append_nil]

/-- In mode `matchAll` the observations are sent as they are. -/
theorem ResolvedFilter.observed_of_matchAll {self : ResolvedFilter} (h : self.mode = .matchAll)
    (run : List Observed) : self.observed run = run :=
  List.filter_eq_self.mpr fun x _ => decide_eq_true (selects_of_matchAll h x.vote x.keys)

section Feed

variable {run : List Observed} (hRun : ObservationRun run)
include hRun

/-- What a filter selects is accepted in the filter's mode. -/
theorem accepts_observed (filter : ResolvedFilter) :
    Run.Accepts ObservationValidator.validate (.new filter.mode)
      ((filter.observed run).map Observed.message) := by
  have hSub : (filter.observed run).Sublist run := List.filter_sublist
  rw [accepts_received_iff hRun fun x hx => hSub.subset hx]
  refine ⟨?_, hSub.filterMap _⟩
  cases hMode : filter.mode with
  | matchAll =>
    rw [ResolvedFilter.observed_of_matchAll hMode]
    exact List.infix_refl _
  | filtered => exact hSub.filterMap _

/-- **A missing frame** ends the attachment at the first frame behind it. -/
theorem exists_gap {received : List Observed} (hSub : received.Sublist run)
    (hOmits : Run.OmitsBetween (resolvedOf received) (resolvedOf run)) :
    ∃ first : Run.FirstOmission (resolvedOf received) (resolvedOf run), ∃ before after,
      received = before ++ .resolved first.next :: after ∧ resolvedOf before = first.front ∧
      Run.Accepts ObservationValidator.validate (.new .matchAll) (before.map Observed.message) ∧
      ObservationValidator.validate (Observed.resolved first.next).message
          (Run.final ObservationValidator.validate (.new .matchAll)
            (before.map Observed.message)) =
        .error (.err (.stream .sequenceGap)) (Run.final ObservationValidator.validate
          (.new .matchAll) (before.map Observed.message)) := by
  have hAsymm : ∀ a b : Produced, a.number < b.number → ¬ b.number < a.number :=
    fun _ _ h => Nat.lt_asymm h
  obtain ⟨first⟩ := Run.exists_firstOmission hAsymm hRun.resolved.increasing
    (hSub.filterMap _) hOmits
  obtain ⟨before, after, hReceived, hBefore⟩ := exists_split_resolvedOf first.kept_eq
  -- the frames in front of the omission are an infix of what was sent
  have hBeforeSub : before.Sublist run := by
    rw [hReceived] at hSub
    exact (List.sublist_append_left _ _).trans hSub
  have hAccepts : Run.Accepts ObservationValidator.validate (.new .matchAll)
      (before.map Observed.message) := by
    rw [accepts_received_iff hRun fun x hx => hBeforeSub.subset hx, hBefore]
    refine ⟨⟨first.skipped, first.gap ++ first.next :: first.back, ?_⟩, hBeforeSub.filterMap _⟩
    exact (List.append_assoc ..).symm.trans first.all_eq.symm
  refine ⟨first, before, after, hReceived, hBefore, hAccepts, ?_⟩
  -- and the canonical validator remembers the last of them
  obtain ⟨last, hLast, hSkips⟩ := skips_of_firstOmission first hRun.resolved
  have hFront : Run.Accepts CanonicalStreamValidator.validateResolved (.new .matchAll)
      (payloads first.front) := by
    have h := (ObservationValidator.acceptable_new.mp
      ((ObservationValidator.accepts_iff _ _).mp hAccepts)).2.1
    rw [canonicalPayloads, hBefore] at h
    exact h
  have hRemembers := remembers_of_accepts hFront hLast
  have hEpoch : first.next.frame.header.producerEpoch = last.frame.header.producerEpoch := by
    have hNextMem : .resolved first.next ∈ run := by
      refine mem_resolvedOf.mp ((congrArg (first.next ∈ ·) first.all_eq).mpr ?_)
      exact List.mem_append_right _ (List.mem_cons_self ..)
    have hLastMem : .resolved last ∈ run := by
      refine hBeforeSub.subset (mem_resolvedOf.mp ?_)
      rw [hBefore]
      exact List.mem_of_mem_getLast? hLast
    exact hRun.epoch _ hNextMem _ hLastMem
  refine ObservationValidator.validate_gap ?_
  rw [ObservationValidator.canonical_final hAccepts, canonicalPayloads, hBefore]
  exact CanonicalStreamValidator.validateResolved_gap hRemembers first.next.resolved hEpoch hSkips

end Feed

/-- What an attachment returns for observations that it accepts, before whatever
is not accepted. -/
theorem calls_observed {mode : CanonicalStreamMode} {received : List Observed}
    (h : Run.Accepts ObservationValidator.validate (.new mode) (received.map Observed.message))
    {outcome : Message Proto.TransactionFrame} {e : Fault Error} {validator : ObservationValidator}
    (hError : Attachment.receive ObservationValidator.validate outcome
      (Run.final ObservationValidator.validate (.new mode) (received.map Observed.message)) =
        .error e validator) (more : List (Message Proto.TransactionFrame)) (k : Nat) :
    (Attachment.calls ObservationValidator.validate (received.length + (k + 1))
        (TransactionStream.new mode
          (received.map (fun x => .message x.message) ++ outcome :: more))).1 =
      received.map (fun x => some (.ok x.observation)) ++
        some (.error e) :: List.replicate k none := by
  have hCalls := Attachment.calls_ended h hError more k
  rw [List.length_map, List.map_map, ObservationValidator.results_of_accepts h,
    List.map_map] at hCalls
  exact hCalls

/-- **The broader stream, end to end.** For a producer's run, a filter, and an
attachment in the filter's mode:

* it returns all that the filter selects, resolved or not, in order and unchanged,
  then one error for the end of the stream, and `None`;
* of observations received in any order, it accepts exactly those lists whose
  unresolved transactions are a sublist of those sent, and whose frames are a
  sublist too, or in mode `matchAll` an infix;
* in mode `matchAll` a frame that is missing between two others is reported as a
  gap at the first frame behind it, whatever lies between them. -/
theorem observation_feed (filter : ResolvedFilter) {run : List Observed}
    (hRun : ObservationRun run) :
    (∀ ending more k, (Attachment.calls ObservationValidator.validate
        ((filter.observed run).length + (k + 1)) (TransactionStream.new filter.mode
          ((filter.observed run).map (fun x => .message x.message) ++
            Ending.outcome ending :: more))).1 =
      (filter.observed run).map (fun x => some (.ok x.observation)) ++
        some (.error (.err ending.error)) :: List.replicate k none) ∧
    (∀ mode (received : List Observed), (∀ x ∈ received, x ∈ run) →
      (Run.Accepts ObservationValidator.validate (.new mode) (received.map Observed.message) ↔
        Intact mode (resolvedOf received) (resolvedOf run) ∧
          (unresolvedOf received).Sublist (unresolvedOf run))) ∧
    (filter.mode = .matchAll → ∀ received : List Observed, received.Sublist run →
      Run.OmitsBetween (resolvedOf received) (resolvedOf run) →
      ∃ first : Run.FirstOmission (resolvedOf received) (resolvedOf run), ∃ before after,
        received = before ++ .resolved first.next :: after ∧ resolvedOf before = first.front ∧
        ∀ more k, (Attachment.calls ObservationValidator.validate (before.length + (k + 1))
            (TransactionStream.new filter.mode
              (received.map (fun x => .message x.message) ++ more))).1 =
          before.map (fun x => some (.ok x.observation)) ++
            some (.error (.err (.stream .sequenceGap))) :: List.replicate k none) := by
  refine ⟨fun ending more k => ?_, fun mode received hMem => accepts_received_iff hRun hMem, ?_⟩
  · exact calls_observed (accepts_observed hRun filter)
      (Attachment.receive_ending _ ending) more k
  · intro hMode received hSub hOmits
    obtain ⟨first, before, after, hReceived, hBefore, hAccepts, hGap⟩ :=
      exists_gap hRun hSub hOmits
    refine ⟨first, before, after, hReceived, hBefore, fun more k => ?_⟩
    have hSplit : received.map (fun x => Message.message x.message) ++ more =
        before.map (fun x => .message x.message) ++
          .message (Observed.resolved first.next).message ::
            (after.map (fun x => .message x.message) ++ more) := by
      rw [congrArg (List.map fun x => Message.message x.message) hReceived, List.map_append,
        List.map_cons, List.append_assoc, List.cons_append]
    have hRefused : Attachment.receive ObservationValidator.validate
        (.message (Observed.resolved first.next).message) _ = .error _ _ := hGap
    rw [hSplit, hMode]
    exact calls_observed hAccepts hRefused _ k

/-- Frames with an unresolved transaction in between. -/
def sampleObservations : List Observed :=
  [.resolved sampleRun[0],
    .unresolved ⟨ObservationValidator.sampleUnresolved,
      ObservationValidator.sampleUnresolved_valid, false, []⟩,
    .resolved sampleRun[1], .resolved sampleRun[2]]

theorem sampleObservations_run : ObservationRun sampleObservations where
  epoch := by
    intro x hx y hy
    have hEpoch : ∀ z ∈ sampleObservations, z.epoch = 7 := by
      intro z hz
      rcases List.mem_cons.mp hz with rfl | hz
      · rfl
      rcases List.mem_cons.mp hz with rfl | hz
      · rfl
      rcases List.mem_cons.mp hz with rfl | hz
      · rfl
      · obtain rfl := List.mem_singleton.mp hz
        rfl
    rw [hEpoch x hx, hEpoch y hy]
  resolved := .cons_cons rfl (.cons_cons rfl (.singleton _))
  unresolved := List.pairwise_singleton _ _

/-- All four observations are delivered. Without the frame behind the unresolved
transaction, the last one is a gap. -/
theorem observation_feed_sample :
    (Attachment.calls ObservationValidator.validate 5 (TransactionStream.new .matchAll
        (sampleObservations.map (fun x => .message x.message) ++ [.endOfStream]))).1 =
      sampleObservations.map (fun x => some (.ok x.observation)) ++
        [some (.error (.err .endOfStream))] ∧
    ¬ Run.Accepts ObservationValidator.validate (.new .matchAll)
      ((sampleObservations.eraseIdx 2).map Observed.message) := by
  obtain ⟨hDelivered, hAccepts, -⟩ := observation_feed .matchAll sampleObservations_run
  constructor
  · have hAll := hDelivered .endOfStream [] 0
    rw [ResolvedFilter.observed_of_matchAll rfl] at hAll
    exact hAll
  · have hSub : (sampleObservations.eraseIdx 2).Sublist sampleObservations :=
      List.eraseIdx_sublist ..
    rw [hAccepts .matchAll _ fun x hx => hSub.subset hx]
    rintro ⟨hIntact, -⟩
    -- an infix of the frames has consecutive numbers
    have hChain := (Run.isInfix_iff sampleObservations_run.resolved fun x hx =>
      hIntact.subset hx).mpr hIntact
    exact absurd (List.isChain_cons_cons.mp hChain).1 (by decide)

end TxStream
