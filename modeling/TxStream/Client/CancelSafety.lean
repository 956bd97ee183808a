import TxStream.Client.Attachment
import TxStream.Rust.Automaton

/-!
# Attachments whose callers drop them

`next` of an attachment awaits one thing, `message()` of the transport. A caller
may drop the future there, and outcomes may arrive at any time.

The transport is tonic's stream, which is outside of the repository. One thing is
assumed of it: an outcome leaves the stream when `message()` returns it and at no other
time, so that a `message()` that is dropped while it waits has taken nothing. In
`Arrivals.environment` this is that only an answer moves `taken`. What is proved here is
that `next` adds no await and no state of its own that a drop could lose.

* `Attachment.consumedAt_of_runs` — what was returned is what uninterrupted calls
  return.
* `attachments_cancelSafe` — hence dropping loses, repeats and reorders nothing.
-/

namespace TxStream

open Wire Rust

/-- The outcomes that have arrived, and the number of those that were taken. -/
structure Arrivals (μ : Type) where
  arrived : List (Message μ)
  taken : Nat

namespace Arrivals

variable {μ : Type}

/-- Nothing has arrived. -/
def empty : Arrivals μ where
  arrived := []
  taken := 0

/-- What is left for `message()`. -/
def waiting (arrivals : Arrivals μ) : List (Message μ) := arrivals.arrived.drop arrivals.taken

/-- The outcomes arrive one after another; `message()` takes the next one when it
returns, and a call that is dropped before that takes none. -/
def environment : Environment Unit (fun _ => Message μ) (Arrivals μ) where
  step arrivals arrivals' := ∃ outcome,
    arrivals' = { arrivals with arrived := arrivals.arrived ++ [outcome] }
  answer _ outcome arrivals arrivals' := arrivals.arrived[arrivals.taken]? = some outcome ∧
    arrivals' = { arrivals with taken := arrivals.taken + 1 }

/-- What is taken is the head of what was left. -/
theorem waiting_cons {arrivals : Arrivals μ} {outcome : Message μ}
    (h : arrivals.arrived[arrivals.taken]? = some outcome) :
    arrivals.waiting = outcome :: arrivals.arrived.drop (arrivals.taken + 1) := by
  obtain ⟨hLt, hGet⟩ := List.getElem?_eq_some_iff.mp h
  rw [waiting, List.drop_eq_getElem_cons hLt, hGet]

end Arrivals

namespace Attachment

variable {κ ν μ α : Type} (validate : μ → EStateM (Fault Error) ν α)

/-- `next` over the transport's `message()`. -/
def nextMessage : Async Unit (fun _ => Message μ) (Attachment κ ν)
    (Option (Except (Fault Error) α)) :=
  next (Async.await ()) validate

-- ---------------------------------------------------------------------------
-- The automaton of an attachment
-- ---------------------------------------------------------------------------

/-- What the outcome of `message()` leads to. -/
def onOutcome (self : Attachment κ ν) (outcome : Message μ) :
    Turn (Attachment κ ν) (Option (Except (Fault Error) α)) Unit :=
  match receive validate outcome self.validator with
  | .ok item validator => .returns (some (.ok item)) { self with validator, failed := false }
  | .error e validator => .returns (some (.error e)) { self with validator, failed := true }

/-- An attachment has one await point. -/
def automaton : Automaton Unit (fun _ => Message μ) (Attachment κ ν)
    (Option (Except (Fault Error) α)) Unit where
  start self := if self.failed then .returns none self else .waits self ()
  ask _ _ := ()
  respond self _ outcome := onOutcome validate self outcome

/-- What a pending call goes on with. -/
def afterMessage (self : Attachment κ ν) (outcome : Message μ) :
    Future Unit (fun _ => Message μ) (Attachment κ ν) (Option (Except (Fault Error) α)) :=
  (onValidator (receive validate outcome) self).bind fun result self =>
    .ready (some result) { self with failed := !result.isOk }

/-- `next` is the automaton. -/
def automaton_implements : (automaton (κ := κ) validate).Implements (nextMessage validate) where
  resume self _ outcome := afterMessage validate self outcome
  start_eq := by
    intro self
    show next _ validate self =
      (automaton validate).future _ (if self.failed then .returns none self else .waits self ())
    by_cases hFailed : self.failed = true
    · rw [if_pos hFailed, next_failed hFailed]
      rfl
    · rw [if_neg hFailed, next_of_not_failed (Bool.not_eq_true _ ▸ hFailed)]
      rfl
  respond_eq := by
    intro self _ outcome
    show afterMessage validate self outcome =
      (automaton validate).future _ (onOutcome validate self outcome)
    unfold afterMessage onOutcome onValidator
    cases receive validate outcome self.validator with
    | ok item validator => rfl
    | error e validator => rfl

-- ---------------------------------------------------------------------------
-- Uninterrupted calls
-- ---------------------------------------------------------------------------

variable {validate}

/-- One more call behind calls that all have returned. -/
theorem calls_concat {n : Nat} {self self' self'' : Attachment (List (Message μ)) ν}
    {values : List (Option (Except (Fault Error) α))} {value : Option (Except (Fault Error) α)}
    (hCalls : calls validate n self = (values, self')) (hLength : values.length = n)
    (hPoll : poll validate self' = some (value, self'')) :
    calls validate (n + 1) self = (values ++ [value], self'') := by
  -- the induction is on the earlier calls, which lead to the state of the last one
  induction n generalizing self values with
  | zero =>
    obtain ⟨rfl, rfl⟩ := Prod.mk.inj hCalls
    rw [calls, hPoll]
    rfl
  | succ n ih =>
    rw [calls] at hCalls ⊢
    cases hFirst : poll validate self with
    | none =>
      rw [hFirst] at hCalls
      obtain ⟨rfl, -⟩ := Prod.mk.inj hCalls
      cases hLength
    | some result =>
      obtain ⟨first, next⟩ := result
      rw [hFirst] at hCalls
      obtain ⟨rfl, rfl⟩ := Prod.mk.inj hCalls
      dsimp only
      rw [ih rfl (Nat.succ.inj hLength)]
      rfl

/-- A call that has returned does not look at what arrives later. -/
theorem poll_grow {self self' : Attachment (List (Message μ)) ν}
    {value : Option (Except (Fault Error) α)} (h : poll validate self = some (value, self'))
    (more : List (Message μ)) : poll validate { self with stream := self.stream ++ more } =
      some (value, { self' with stream := self'.stream ++ more }) := by
  obtain ⟨stream, validator, failed⟩ := self
  cases failed with
  | true =>
    rw [poll, next_failed rfl] at h ⊢
    obtain ⟨rfl, rfl⟩ := Prod.mk.inj (Option.some.inj h)
    rfl
  | false =>
    cases stream with
    | nil => cases h
    | cons outcome stream =>
      rw [poll_cons] at h
      rw [List.cons_append, poll_cons]
      cases hReceive : receive validate outcome validator with
      | ok item validator' =>
        rw [hReceive] at h
        obtain ⟨rfl, rfl⟩ := Prod.mk.inj (Option.some.inj h)
        rfl
      | error e validator' =>
        rw [hReceive] at h
        obtain ⟨rfl, rfl⟩ := Prod.mk.inj (Option.some.inj h)
        rfl

/-- Nor do several. -/
theorem calls_grow {n : Nat} {self self' : Attachment (List (Message μ)) ν}
    {values : List (Option (Except (Fault Error) α))}
    (hCalls : calls validate n self = (values, self')) (hLength : values.length = n)
    (more : List (Message μ)) :
    calls validate n { self with stream := self.stream ++ more } =
      (values, { self' with stream := self'.stream ++ more }) := by
  induction n generalizing self values with
  | zero =>
    obtain ⟨rfl, rfl⟩ := Prod.mk.inj hCalls
    rfl
  | succ n ih =>
    rw [calls] at hCalls ⊢
    cases hFirst : poll validate self with
    | none =>
      rw [hFirst] at hCalls
      obtain ⟨rfl, -⟩ := Prod.mk.inj hCalls
      cases hLength
    | some result =>
      obtain ⟨first, next⟩ := result
      rw [hFirst] at hCalls
      obtain ⟨rfl, rfl⟩ := Prod.mk.inj hCalls
      rw [poll_grow hFirst]
      dsimp only
      rw [ih rfl (Nat.succ.inj hLength)]

-- ---------------------------------------------------------------------------
-- Calls that are dropped
-- ---------------------------------------------------------------------------

/-- The attachment with what is left for it as its transport. -/
def seenWith (self : Attachment κ ν) (arrivals : Arrivals μ) : Attachment (List (Message μ)) ν :=
  { self with stream := arrivals.waiting }

/-- What was returned so far, and where that has left the attachment. -/
structure Consumed (validate : μ → EStateM (Fault Error) ν α) (fresh : ν)
    (values : List (Option (Except (Fault Error) α))) (arrivals : Arrivals μ)
    (attachment : Attachment κ ν) : Prop where
  taken_le : arrivals.taken ≤ arrivals.arrived.length
  calls_eq : calls validate values.length ⟨arrivals.arrived, fresh, false⟩ =
    (values, attachment.seenWith arrivals)

/-- `Consumed` wherever the caller is: a waiting call has not failed yet. -/
def ConsumedAt (validate : μ → EStateM (Fault Error) ν α) (fresh : ν)
    (values : List (Option (Except (Fault Error) α))) (arrivals : Arrivals μ) :
    Station (Attachment κ ν) Unit → Prop
  | .idle self => Consumed validate fresh values arrivals self
  | .waiting self _ => Consumed validate fresh values arrivals self ∧ self.failed = false
  | .unwound => False

variable {fresh : ν} {values : List (Option (Except (Fault Error) α))} {arrivals : Arrivals μ}
  {self : Attachment κ ν}

/-- What arrives does not change what was returned. -/
theorem Consumed.arrive (h : Consumed validate fresh values arrivals self)
    (outcome : Message μ) : Consumed validate fresh values
      { arrivals with arrived := arrivals.arrived ++ [outcome] } self where
  taken_le := by
    rw [List.length_append]
    exact h.taken_le.trans (Nat.le_add_right _ _)
  calls_eq := by
    refine (calls_grow h.calls_eq rfl [outcome]).trans ?_
    unfold seenWith Arrivals.waiting
    dsimp only
    rw [List.drop_append_of_le_length h.taken_le]

/-- A failed attachment returns `None` at once. -/
theorem Consumed.none (h : Consumed validate fresh values arrivals self)
    (hFailed : self.failed = true) :
    Consumed validate fresh (values ++ [Option.none]) arrivals self where
  taken_le := h.taken_le
  calls_eq := by
    rw [List.length_append]
    refine calls_concat h.calls_eq rfl ?_
    have hSeen : (self.seenWith arrivals).failed = true := hFailed
    rw [poll, next_failed hSeen]
    rfl

/-- **What the outcome leads to** is what an uninterrupted call would have returned. -/
theorem Consumed.take (h : Consumed validate fresh values arrivals self)
    (hFailed : self.failed = false) {outcome : Message μ}
    (hTaken : arrivals.arrived[arrivals.taken]? = some outcome) :
    ∃ value self', onOutcome validate self outcome = .returns value self' ∧
      Consumed validate fresh (values ++ [value])
        { arrivals with taken := arrivals.taken + 1 } self' := by
  have hSeen : self.seenWith arrivals =
      ⟨outcome :: arrivals.arrived.drop (arrivals.taken + 1), self.validator, false⟩ := by
    rw [seenWith, Arrivals.waiting_cons hTaken, hFailed]
  have hLe : arrivals.taken + 1 ≤ arrivals.arrived.length :=
    (List.getElem?_eq_some_iff.mp hTaken).1
  have hCalls := h.calls_eq
  rw [hSeen] at hCalls
  unfold onOutcome
  cases hReceive : receive validate outcome self.validator with
  | ok item validator =>
    refine ⟨_, _, rfl, hLe, ?_⟩
    rw [List.length_append]
    refine calls_concat hCalls rfl ?_
    rw [poll_cons, hReceive]
    rfl
  | error e validator =>
    refine ⟨_, _, rfl, hLe, ?_⟩
    rw [List.length_append]
    refine calls_concat hCalls rfl ?_
    rw [poll_cons, hReceive]
    rfl

/-- **The invariant**, over every run. -/
theorem consumedAt_of_runs {stream : κ} {station : Station (Attachment κ ν) Unit}
    {history : List (Occurrence Unit (fun _ => Message μ) (Option (Except (Fault Error) α)))}
    (h : (automaton validate).Runs Arrivals.environment ⟨stream, fresh, false⟩ .empty history
      station arrivals) :
    ConsumedAt validate fresh (returned history) arrivals station := by
  induction h with
  | start => exact ⟨Nat.le_refl _, rfl⟩
  | @move history station arrivals _ _ hStep ih =>
    obtain ⟨outcome, rfl⟩ := hStep
    -- an outcome may arrive at any time, also while a call waits
    match station, ih with
    | .idle self, ih => exact Consumed.arrive ih outcome
    | .waiting self (), ⟨ih, hFailed⟩ => exact ⟨ih.arrive outcome, hFailed⟩
  | @call history self arrivals _ ih =>
    show ConsumedAt _ _ (returned (history ++ [.called] ++ [(automaton validate).occurrence
      (if self.failed then .returns none self else .waits self ())])) _
        (if self.failed then .returns none self else .waits self () : Turn _ _ Unit).station
    -- a call returns at once, or waits with nothing written
    by_cases hFailed : self.failed = true
    · rw [if_pos hFailed, returned_concat, returned_quiet rfl]
      exact Consumed.none ih hFailed
    · rw [if_neg hFailed, returned_quiet rfl, returned_quiet rfl]
      exact ⟨ih, Bool.not_eq_true _ ▸ hFailed⟩
  | @answer history self phase arrivals _ outcome _ hAnswer ih =>
    obtain ⟨ih, hFailed⟩ := ih
    -- the outcome is taken by the call that returns it
    obtain ⟨hTaken, rfl⟩ := hAnswer
    obtain ⟨value, self', hTurn, hConsumed⟩ := ih.take hFailed hTaken
    show ConsumedAt _ _ (returned (history ++ [.resolved () outcome] ++
      [(automaton validate).occurrence (onOutcome validate self outcome)])) _
        (onOutcome validate self outcome).station
    rw [returned_concat, returned_quiet rfl, hTurn]
    exact hConsumed
  | @drop history self phase arrivals _ ih =>
    rw [returned_quiet rfl]
    exact ih.1

-- ---------------------------------------------------------------------------
-- What a caller gets
-- ---------------------------------------------------------------------------

/-- The values of a delivery: accepted items, then one error, then `None`. -/
inductive Values (validate : μ → EStateM (Fault Error) ν α) (fresh : ν) (messages : List μ) :
    List (Option (Except (Fault Error) α)) → Prop where
  | items {n : Nat} (h : n ≤ messages.length) :
      Values validate fresh messages ((Run.results validate fresh (messages.take n)).map some)
  | ended (e : Error) (k : Nat) : Values validate fresh messages
      ((Run.results validate fresh messages).map some ++ [some (.error (.err e))]
        ++ List.replicate k none)

/-- So many calls return items, as many as there are, and then what ends the
attachment. -/
theorem Delivery.values_of_calls {outcomes : List (Message μ)} {messages : List μ}
    {rest : List (Message μ)} (h : Delivery validate fresh outcomes messages rest)
    {self' : Attachment (List (Message μ)) ν}
    (hCalls : calls validate values.length ⟨outcomes, fresh, false⟩ = (values, self')) :
    Values validate fresh messages values := by
  by_cases hItems : values.length ≤ messages.length
  · rw [h.delivered _ hItems] at hCalls
    rw [← (Prod.mk.inj hCalls).1]
    exact .items hItems
  · obtain ⟨k, hk⟩ := Nat.exists_eq_add_of_le (Nat.succ_le_of_lt (Nat.lt_of_not_le hItems))
    cases hRest : rest with
    | nil =>
      -- without an outcome left there are no further values
      rw [hk, show messages.length.succ + k = messages.length + (k + 1) by omega,
        h.calls_waits hRest] at hCalls
      have hLength := congrArg List.length (Prod.mk.inj hCalls).1
      rw [List.length_map, Run.length_results] at hLength
      exact absurd (Nat.le_of_eq hLength.symm) hItems
    | cons last rest' =>
      obtain ⟨e, validator, -, hEnds⟩ := h.ends last rest' hRest
      rw [hk, hEnds k] at hCalls
      rw [← (Prod.mk.inj hCalls).1]
      exact .ended e k

/-- What it means that a caller may drop `next` at any time. -/
structure CancelSafe (validate : μ → EStateM (Fault Error) ν α) (fresh : ν)
    (history : List (Occurrence Unit (fun _ => Message μ) (Option (Except (Fault Error) α))))
    (caller : Caller Unit (fun _ => Message μ) (Attachment κ ν)
      (Option (Except (Fault Error) α))) (arrivals : Arrivals μ) : Prop where
  /-- The values are those of calls that are never dropped, and so is the state. -/
  uninterrupted : ∃ state, caller.state? = some state ∧
    calls validate (returned history).length ⟨arrivals.arrived, fresh, false⟩ =
      (returned history, state.seenWith arrivals)
  /-- They are items of the longest acceptable prefix, one error, and `None`. -/
  delivered : ∃ messages rest, Delivery validate fresh arrivals.arrived messages rest ∧
    Values validate fresh messages (returned history)
  /-- A call that waits is answered as soon as there is an outcome. -/
  answered : ∀ state resume outcome, caller = .waiting state () resume →
    arrivals.arrived[arrivals.taken]? = some outcome →
    ∃ value self', (resume outcome).occurrence = .returned value ∧
      calls validate ((returned history).length + 1) ⟨arrivals.arrived, fresh, false⟩ =
        (returned history ++ [value], self')

/-- **An attachment is safe to drop**, if its validator does not panic. -/
theorem cancelSafe {stream : κ} {caller : Caller Unit (fun _ => Message μ) (Attachment κ ν)
      (Option (Except (Fault Error) α))}
    {history : List (Occurrence Unit (fun _ => Message μ) (Option (Except (Fault Error) α)))}
    (hReturns : ∀ frame validator, Run.outcome (validate frame validator) ≠ .error .panic)
    (h : Joint Arrivals.environment (nextMessage validate) ⟨stream, fresh, false⟩ .empty history
      caller arrivals) : CancelSafe validate fresh history caller arrivals := by
  obtain ⟨station, hRuns, rfl⟩ := (automaton_implements validate).joint_iff.mp h
  have hAt := consumedAt_of_runs hRuns
  obtain ⟨state, hState, hConsumed⟩ : ∃ state, station.state? = some state ∧
      Consumed validate fresh (returned history) arrivals state := by
    match station, hAt with
    | .idle state, hAt => exact ⟨state, rfl, hAt⟩
    | .waiting state (), ⟨hAt, _⟩ => exact ⟨state, rfl, hAt⟩
  refine ⟨⟨state, ?_, hConsumed.calls_eq⟩, ?_, ?_⟩
  · rw [Automaton.state?_caller]
    exact hState
  · obtain ⟨messages, rest, hDelivery⟩ := exists_delivery hReturns fresh arrivals.arrived
    exact ⟨messages, rest, hDelivery, hDelivery.values_of_calls hConsumed.calls_eq⟩
  · intro state resume outcome hWaiting hOutcome
    obtain ⟨phase, rfl, hEq⟩ := Automaton.exists_waiting _ _ hWaiting.symm
    obtain ⟨-, -, hResume⟩ := Caller.waiting.inj hEq
    obtain rfl := eq_of_heq hResume
    obtain ⟨hAt, hFailed⟩ := hAt
    obtain ⟨value, self', hTurn, hNext⟩ := hAt.take hFailed hOutcome
    refine ⟨value, self'.seenWith { arrivals with taken := arrivals.taken + 1 }, ?_, ?_⟩
    · rw [(automaton_implements validate).respond_eq, Automaton.occurrence_future]
      show (automaton validate).occurrence (onOutcome validate _ outcome) = _
      rw [hTurn]
      rfl
    · have hCalls := hNext.calls_eq
      rw [List.length_append] at hCalls
      exact hCalls

end Attachment

/-- **Both attachments are safe to drop.** Outcomes arrive at any time, and the
caller drops `next` at its await whenever it likes. Whatever the interleaving, the
values returned and the state left are those of calls that are never dropped; so
nothing is lost, repeated or reordered, given a transport whose own `message()` takes
an outcome only when it returns it. -/
theorem attachments_cancelSafe {κ : Type} (mode : CanonicalStreamMode) (stream : κ) :
    (∀ history caller arrivals, Joint Arrivals.environment
        (Attachment.nextMessage FastpathStream.validate) (FastpathStream.new mode stream) .empty
        history caller arrivals →
      Attachment.CancelSafe FastpathStream.validate (.new mode) history caller arrivals) ∧
    ∀ history caller arrivals, Joint Arrivals.environment
        (TransactionStream.next (Async.await ())) (TransactionStream.new mode stream)
        .empty history caller arrivals →
      Attachment.CancelSafe ObservationValidator.validate (.new mode) history caller arrivals :=
  ⟨fun _ _ _ h => Attachment.cancelSafe FastpathStream.validate_returns h,
    fun _ _ _ h => Attachment.cancelSafe ObservationValidator.validate_returns h⟩

/-- A call that is dropped, a message that arrives meanwhile, and a call that
returns it. -/
theorem attachments_cancelSafe_sample : ∃ history caller,
    Joint Arrivals.environment (Attachment.nextMessage FastpathStream.validate)
      (FastpathStream.new .matchAll ()) .empty history caller
      ⟨[.message ⟨samplePayload⟩], 1⟩ ∧
    returned history = [some (.ok ⟨samplePayload⟩)] ∧
    Attachment.CancelSafe FastpathStream.validate (.new .matchAll) history caller
      ⟨[.message ⟨samplePayload⟩], 1⟩ := by
  obtain ⟨hFastpath, -⟩ := attachments_cancelSafe .matchAll ()
  obtain ⟨validator, hOk⟩ := CanonicalStreamValidator.samplePayload_accepted .matchAll
  -- nothing below computes with the bytes
  generalize samplePayload = payload at hOk ⊢
  have hNext : Attachment.nextMessage FastpathStream.validate (FastpathStream.new .matchAll ()) =
      .pending (FastpathStream.new .matchAll ()) () (Attachment.afterMessage
        FastpathStream.validate (FastpathStream.new .matchAll ())) := rfl
  have hAfter : Attachment.afterMessage FastpathStream.validate (FastpathStream.new .matchAll ())
      (.message ⟨payload⟩) = .ready (some (.ok ⟨payload⟩)) ⟨(), validator, false⟩ := by
    have hReceive : Attachment.receive FastpathStream.validate (.message ⟨payload⟩)
        (FastpathStream.new .matchAll ()).validator = .ok ⟨payload⟩ validator :=
      FastpathStream.validate_eq_ok.mpr ⟨_, hOk, rfl⟩
    rw [Attachment.afterMessage, Attachment.onValidator, hReceive]
    rfl
  have hStart : Joint Arrivals.environment (Attachment.nextMessage FastpathStream.validate)
      (FastpathStream.new .matchAll ()) .empty [] (.idle (FastpathStream.new .matchAll ()))
      .empty := .start
  have hCalled := hStart.call
  rw [hNext] at hCalled
  have hArrived := hCalled.drop.move ⟨.message ⟨payload⟩, rfl⟩
  have hAgain := hArrived.call
  rw [hNext] at hAgain
  have hReturned := hAgain.resolve (.message ⟨payload⟩) ⟨rfl, rfl⟩
  rw [hAfter] at hReturned
  exact ⟨_, _, hReturned, rfl, hFastpath _ _ _ hReturned⟩

end TxStream
