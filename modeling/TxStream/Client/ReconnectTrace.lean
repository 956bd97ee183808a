import TxStream.Client.Reconnect

/-!
# The discipline of reconnect traces

What a caller of `ReconnectingStream::next` sees, whatever the server answers
and whichever futures the caller drops. A ledger keeps what an observer has to
remember of a history; `Permitted` says what may come next.

* `LoopSteps.upholds_connect` — what the loop of attempts upholds.
* `upholds_next` — a call keeps the discipline at every await point.
* `reconnect_discipline` — so does every history.
-/

namespace TxStream

open Wire Rust
open ReconnectingStream (Pending connect subscribeOnce refused answered received next)

variable {κ : Type}

/-- One thing that is seen of a reconnecting stream. -/
abbrev Seen (κ : Type) :=
  Occurrence (Wait κ) Wait.Answer (Option (Except Error FastpathEvent))

-- ---------------------------------------------------------------------------
-- The loop of attempts
-- ---------------------------------------------------------------------------

/-- The history behind the answer to a subscription. -/
def ReconnectingStream.asked (self : ReconnectingStream κ) (history : List (Seen κ))
    (answer : Option (Except Code κ)) : List (Seen κ) :=
  history ++ [.awaits (.subscribe self.filter.intoRequest)] ++
    [.resolved (.subscribe self.filter.intoRequest) answer]

/-- What is asked of an invariant, for the loop of attempts to uphold it. `Ready`
holds in front of an attempt, and `Rested` in front of its subscription, behind
the sleep if there is one; `asked` is the history behind the answer. -/
structure LoopSteps (wrapper : ReconnectingStream κ)
    (Inv : List (Seen κ) → ReconnectingStream κ → Prop) (Post : List (Seen κ) → Prop)
    (Ready Rested : Nat → List (Seen κ) → Prop) : Prop where
  sleeps : ∀ {attempt : Nat} {history : List (Seen κ)}, Ready attempt history →
    wrapper.attachment > 0 ∨ attempt > 0 →
    Post (history ++ [.awaits (.sleep (delay wrapper.config attempt))]) ∧
      Inv (history ++ [.awaits (.sleep (delay wrapper.config attempt))] ++ [.dropped]) wrapper ∧
      Rested attempt (history ++ [.awaits (.sleep (delay wrapper.config attempt))] ++
        [.resolved (.sleep (delay wrapper.config attempt)) ()])
  skips : ∀ {attempt : Nat} {history : List (Seen κ)}, Ready attempt history →
    ¬ (wrapper.attachment > 0 ∨ attempt > 0) → Rested attempt history
  asks : ∀ {attempt : Nat} {history : List (Seen κ)}, Rested attempt history →
    Post (history ++ [.awaits (.subscribe wrapper.filter.intoRequest)]) ∧
      Inv (history ++ [.awaits (.subscribe wrapper.filter.intoRequest)] ++ [.dropped]) wrapper
  again : ∀ {attempt : Nat} {history : List (Seen κ)} (answer : Option (Except Code κ)),
    Rested attempt history → (∀ stream, answer ≠ some (.ok stream)) →
    attempt + 1 ≠ wrapper.config.maximumAttempts.toNat →
    Ready (attempt + 1) (wrapper.asked history answer)
  gaveUp : ∀ {attempt : Nat} {history : List (Seen κ)} (answer : Option (Except Code κ)),
    Rested attempt history → (∀ stream, answer ≠ some (.ok stream)) → ∀ error,
    retryable error = false ∨ attempt + 1 = wrapper.config.maximumAttempts.toNat →
    Inv (wrapper.asked history answer ++ [.returned (some (.error error))])
      { wrapper with terminal := true }
  attached : ∀ {attempt : Nat} {history : List (Seen κ)} (stream : κ) (attachment : UInt64),
    Rested attempt history → attachment.toNat = wrapper.attachment.toNat + 1 →
    Inv (wrapper.asked history (some (.ok stream)) ++
        [.returned (some (.ok (.streamReset attachment)))])
      { wrapper with stream := some (.new wrapper.filter.mode stream), attachment }
  overflowed : ∀ {attempt : Nat} {history : List (Seen κ)} (stream : κ), Rested attempt history →
    wrapper.attachment.toNat = 2 ^ 64 - 1 →
    Post (wrapper.asked history (some (.ok stream)) ++ [.panicked "attempt to add with overflow"])

namespace LoopSteps

variable {self : ReconnectingStream κ} {Inv : List (Seen κ) → ReconnectingStream κ → Prop}
  {Post : List (Seen κ) → Prop} {Ready Rested : Nat → List (Seen κ) → Prop} {attempt : Nat}
  {history : List (Seen κ)}

/-- A subscription that failed is repeated, or was the last one. -/
theorem upholds_refused (rule : LoopSteps self Inv Post Ready Rested) (h : Rested attempt history)
    {answer : Option (Except Code κ)} (hAnswer : ∀ stream, answer ≠ some (.ok stream))
    {error : Error} {retry : Pending κ (Option (Except Error FastpathEvent))}
    (hRetry : attempt + 1 ≠ self.config.maximumAttempts.toNat →
      Upholds Inv Post (self.asked history answer) retry) :
    Upholds Inv Post (self.asked history answer) (refused attempt retry self error) := by
  unfold refused
  split
  · rename_i hLast
    refine rule.gaveUp answer h hAnswer error ?_
    rw [Bool.not_eq_true'] at hLast
    exact hLast
  · rename_i hAgain
    exact hRetry fun hExhausted => hAgain (Or.inr hExhausted)

/-- The subscription of an attempt, and the turns behind it. -/
theorem upholds_subscribeOnce (rule : LoopSteps self Inv Post Ready Rested)
    (h : Rested attempt history)
    {retry : ReconnectingStream.Method κ (Option (Except Error FastpathEvent))}
    (hRetry : attempt + 1 ≠ self.config.maximumAttempts.toNat → ∀ history,
      Ready (attempt + 1) history → Upholds Inv Post history (retry self)) :
    Upholds Inv Post history (subscribeOnce attempt retry self) := by
  rw [ReconnectingStream.subscribeOnce_apply]
  obtain ⟨hAwaits, hDropped⟩ := rule.asks h
  refine ⟨hAwaits, hDropped, fun answer => ?_⟩
  match answer with
  | none =>
    have hAnswer : ∀ stream, (none : Option (Except Code κ)) ≠ some (.ok stream) := by
      intro stream hEq
      cases hEq
    refine rule.upholds_refused h hAnswer fun hAgain => ?_
    exact hRetry hAgain _ (rule.again _ h hAnswer hAgain)
  | some (.error code) =>
    have hAnswer : ∀ stream, some (.error code : Except Code κ) ≠ some (.ok stream) := by
      intro stream hEq
      cases hEq
    refine rule.upholds_refused h hAnswer fun hAgain => ?_
    exact hRetry hAgain _ (rule.again _ h hAnswer hAgain)
  | some (.ok stream) =>
    show Upholds Inv Post (self.asked history (some (.ok stream))) _
    unfold answered
    have hBound := self.attachment.toNat_lt
    by_cases hFull : self.attachment.toNat + 1 < 2 ^ 64
    · obtain ⟨hAdd, hNext⟩ := u64CheckedAdd_one hFull
      simp only [hAdd]
      exact rule.attached stream _ h hNext
    · have hAdd : u64CheckedAdd self.attachment 1 = none := if_neg hFull
      simp only [hAdd]
      exact rule.overflowed stream h (by omega)

/-- One turn of the loop, and the turns behind it. -/
theorem upholds_turn (rule : LoopSteps self Inv Post Ready Rested) {remaining : Nat}
    (h : Ready attempt history)
    (hRetry : attempt + 1 ≠ self.config.maximumAttempts.toNat → ∀ history,
      Ready (attempt + 1) history →
      Upholds Inv Post history (connect (attempt + 1) remaining self)) :
    Upholds Inv Post history (connect attempt (remaining + 1) self) := by
  rw [ReconnectingStream.connect_succ]
  split
  · rename_i hSleeps
    obtain ⟨hAwaits, hDropped, hRested⟩ := rule.sleeps h hSleeps
    exact ⟨hAwaits, hDropped, fun _ => rule.upholds_subscribeOnce hRested hRetry⟩
  · rename_i hSkips
    exact rule.upholds_subscribeOnce (rule.skips h hSkips) hRetry

/-- **The loop rule.** The loop upholds the invariant at whichever await it is
dropped. -/
theorem upholds_connect (rule : LoopSteps self Inv Post Ready Rested) {remaining : Nat}
    (h : Ready attempt history)
    (hCount : attempt + (remaining + 1) = self.config.maximumAttempts.toNat) :
    Upholds Inv Post history (connect attempt (remaining + 1) self) := by
  induction remaining generalizing attempt history with
  | zero =>
    -- the last attempt ends the loop, one way or the other
    refine rule.upholds_turn h fun hAgain => absurd hCount hAgain
  | succ remaining ih =>
    refine rule.upholds_turn h fun _ history' h' => ?_
    exact ih h' (by omega)

/-- The loop from its start, for a wrapper that has an attempt. -/
theorem upholds_start (rule : LoopSteps self Inv Post Ready Rested) (h : Ready 0 history)
    (hAttempts : 0 < self.config.maximumAttempts.toNat) :
    Upholds Inv Post history (connect 0 self.config.maximumAttempts.toNat self) := by
  obtain ⟨remaining, hRemaining⟩ := Nat.exists_eq_add_one.mpr hAttempts
  rw [hRemaining]
  exact rule.upholds_connect h (by omega)

end LoopSteps

/-- The same for an invariant that does not look at the sleeps. -/
structure LoopRule (wrapper : ReconnectingStream κ)
    (Inv : List (Seen κ) → ReconnectingStream κ → Prop) (Post : List (Seen κ) → Prop)
    (Ready : Nat → List (Seen κ) → Prop) : Prop where
  waits : ∀ {attempt : Nat} {history : List (Seen κ)} (op : Wait κ), Ready attempt history →
    Post (history ++ [.awaits op]) ∧ Inv (history ++ [.awaits op] ++ [.dropped]) wrapper
  slept : ∀ {attempt : Nat} {history : List (Seen κ)} (duration : Duration),
    Ready attempt history →
    Ready attempt (history ++ [.awaits (.sleep duration)] ++ [.resolved (.sleep duration) ()])
  again : ∀ {attempt : Nat} {history : List (Seen κ)} (answer : Option (Except Code κ)),
    Ready attempt history → (∀ stream, answer ≠ some (.ok stream)) →
    attempt + 1 ≠ wrapper.config.maximumAttempts.toNat →
    Ready (attempt + 1) (wrapper.asked history answer)
  gaveUp : ∀ {attempt : Nat} {history : List (Seen κ)} (answer : Option (Except Code κ)),
    Ready attempt history → (∀ stream, answer ≠ some (.ok stream)) → ∀ error,
    retryable error = false ∨ attempt + 1 = wrapper.config.maximumAttempts.toNat →
    Inv (wrapper.asked history answer ++ [.returned (some (.error error))])
      { wrapper with terminal := true }
  attached : ∀ {attempt : Nat} {history : List (Seen κ)} (stream : κ) (attachment : UInt64),
    Ready attempt history → attachment.toNat = wrapper.attachment.toNat + 1 →
    Inv (wrapper.asked history (some (.ok stream)) ++
        [.returned (some (.ok (.streamReset attachment)))])
      { wrapper with stream := some (.new wrapper.filter.mode stream), attachment }
  overflowed : ∀ {attempt : Nat} {history : List (Seen κ)} (stream : κ), Ready attempt history →
    wrapper.attachment.toNat = 2 ^ 64 - 1 →
    Post (wrapper.asked history (some (.ok stream)) ++ [.panicked "attempt to add with overflow"])

namespace LoopRule

variable {self : ReconnectingStream κ} {Inv : List (Seen κ) → ReconnectingStream κ → Prop}
  {Post : List (Seen κ) → Prop} {Ready : Nat → List (Seen κ) → Prop} {history : List (Seen κ)}

/-- A rule with one invariant is one whose two invariants are the same. -/
theorem steps (rule : LoopRule self Inv Post Ready) : LoopSteps self Inv Post Ready Ready where
  sleeps := by
    intro attempt history h _
    obtain ⟨hAwaits, hDropped⟩ := rule.waits (.sleep (delay self.config attempt)) h
    exact ⟨hAwaits, hDropped, rule.slept _ h⟩
  skips := fun h _ => h
  asks := rule.waits _
  again := rule.again
  gaveUp := rule.gaveUp
  attached := rule.attached
  overflowed := rule.overflowed

/-- The loop from its first attempt. -/
theorem upholds_start (rule : LoopRule self Inv Post Ready) (h : Ready 0 history)
    (hAttempts : 0 < self.config.maximumAttempts.toNat) :
    Upholds Inv Post history (connect 0 self.config.maximumAttempts.toNat self) :=
  rule.steps.upholds_start h hAttempts

end LoopRule

-- ---------------------------------------------------------------------------
-- What an observer remembers
-- ---------------------------------------------------------------------------

/-- What an observer remembers. -/
structure Ledger (κ : Type) where
  /-- The resets so far. -/
  resets : Nat
  /-- The transport stream of the last subscription that succeeded. -/
  connected : Option κ
  /-- The transport stream that the last reset announced. -/
  announced : Option κ
  /-- The transactions since the last reset. -/
  delivered : List Bytes
  /-- The subscriptions that failed since the current call began. -/
  failures : Nat
  /-- An error was emitted. -/
  failed : Bool

namespace Ledger

/-- Nothing was seen yet. -/
def empty : Ledger κ where
  resets := 0
  connected := none
  announced := none
  delivered := []
  failures := 0
  failed := false

/-- What one more entry changes. -/
def record (ledger : Ledger κ) : Seen κ → Ledger κ
  | .called => { ledger with failures := 0 }
  | .resolved (.subscribe _) (some (.ok stream)) => { ledger with connected := some stream }
  | .resolved (.subscribe _) _ => { ledger with failures := ledger.failures + 1 }
  | .returned (some (.ok (.streamReset _))) =>
    { ledger with resets := ledger.resets + 1, announced := ledger.connected, delivered := [] }
  | .returned (some (.ok (.transaction tx))) =>
    { ledger with delivered := ledger.delivered ++ [tx.canonicalBytes] }
  | .returned (some (.error _)) => { ledger with failed := true }
  | _ => ledger

end Ledger

/-- What a history amounts to. -/
def ledger (history : List (Seen κ)) : Ledger κ := history.foldl Ledger.record .empty

/-- The ledger is kept entry by entry. -/
theorem ledger_concat (history : List (Seen κ)) (x : Seen κ) :
    ledger (history ++ [x]) = (ledger history).record x := by
  rw [ledger, List.foldl_append]
  rfl

/-- A subscription that failed is counted. -/
theorem failures_asked {self : ReconnectingStream κ} {history : List (Seen κ)}
    {answer : Option (Except Code κ)} (h : ∀ stream, answer ≠ some (.ok stream)) :
    (ledger (self.asked history answer)).failures = (ledger history).failures + 1 := by
  unfold ReconnectingStream.asked
  rw [ledger_concat, ledger_concat]
  match answer, h with
  | none, _ => rfl
  | some (.error _), _ => rfl
  | some (.ok stream), h => exact absurd rfl (h stream)

/-- What may be seen behind a history. -/
def Permitted (config : ReconnectConfig) (filter : ResolvedFilter) (before : List (Seen κ)) :
    Seen κ → Prop
  | .called => True
  -- after an error nothing is awaited, and only `None` is returned
  | .awaits _ => (ledger before).failed = false
  | .resolved _ _ => (ledger before).failed = false
  | .dropped => (ledger before).failed = false
  | .returned none => (ledger before).failed = true
  -- resets are numbered, and each follows the subscription it announces
  | .returned (some (.ok (.streamReset attachment))) =>
    (ledger before).failed = false
      ∧ attachment.toNat = (ledger before).resets + 1
      ∧ ∃ front stream, before =
          front ++ [.resolved (.subscribe filter.intoRequest) (some (.ok stream))]
  -- a transaction has just been received from the announced transport stream, and
  -- a fresh validator accepts all of them since the reset
  | .returned (some (.ok (.transaction tx))) =>
    (ledger before).failed = false
      ∧ (∃ front stream message, before =
          front ++ [.resolved (.message stream) (.message message)]
        ∧ (ledger before).announced = some stream
        ∧ tx.canonicalBytes = message.canonicalV1)
      ∧ Run.Accepts CanonicalStreamValidator.validateResolved (.new filter.mode)
          ((ledger before).delivered ++ [tx.canonicalBytes])
  -- an error cannot be retried, or has been for the last time
  | .returned (some (.error error)) =>
    (ledger before).failed = false
      ∧ (retryable error = false ∨ (ledger before).failures = config.maximumAttempts.toNat)
  -- only the counter of attachments can overflow
  | .panicked message =>
    (ledger before).failed = false
      ∧ message = "attempt to add with overflow" ∧ (ledger before).resets = 2 ^ 64 - 1

section Discipline

variable (config : ReconnectConfig) (filter : ResolvedFilter)

/-- Between calls, and wherever a future can be dropped. -/
structure Disciplined (history : List (Seen κ)) (wrapper : ReconnectingStream κ) : Prop where
  lawful : Lawful (Permitted config filter) history
  config_eq : wrapper.config = config
  filter_eq : wrapper.filter = filter
  attachment : wrapper.attachment.toNat = (ledger history).resets
  terminal : wrapper.terminal = (ledger history).failed
  /-- The stream is the announced one, behind the transactions since the reset. -/
  stream : wrapper.terminal = false → ∀ stream ∈ wrapper.stream,
    stream.failed = false
      ∧ (ledger history).announced = some stream.stream
      ∧ Run.Accepts CanonicalStreamValidator.validateResolved (.new filter.mode)
          (ledger history).delivered
      ∧ stream.validator = Run.final CanonicalStreamValidator.validateResolved (.new filter.mode)
          (ledger history).delivered

variable {config filter} {history : List (Seen κ)} {self : ReconnectingStream κ}

/-- What the invariant does not look at. -/
def Quiet (x : Seen κ) : Prop :=
  ∀ ledger : Ledger κ, (ledger.record x).resets = ledger.resets
    ∧ (ledger.record x).announced = ledger.announced
    ∧ (ledger.record x).delivered = ledger.delivered
    ∧ (ledger.record x).failed = ledger.failed

/-- An entry that the invariant does not look at has only to be permitted. -/
theorem Disciplined.quiet (h : Disciplined config filter history self) {x : Seen κ}
    (hQuiet : Quiet x) (hPermitted : Permitted config filter history x) :
    Disciplined config filter (history ++ [x]) self := by
  obtain ⟨hResets, hAnnounced, hDelivered, hFailed⟩ := hQuiet (ledger history)
  rw [← ledger_concat] at hResets hAnnounced hDelivered hFailed
  refine ⟨lawful_concat.mpr ⟨h.lawful, hPermitted⟩, h.config_eq, h.filter_eq, ?_, ?_, ?_⟩
  · rw [hResets]
    exact h.attachment
  · rw [hFailed]
    exact h.terminal
  · rw [hAnnounced, hDelivered]
    exact h.stream

/-- Only what is returned counts. -/
theorem quiet_of_not_returned {x : Seen κ} (h : ∀ event, x ≠ .returned event) : Quiet x := by
  intro ledger
  match x with
  | .called => exact ⟨rfl, rfl, rfl, rfl⟩
  | .awaits _ => exact ⟨rfl, rfl, rfl, rfl⟩
  | .resolved (.message _) _ => exact ⟨rfl, rfl, rfl, rfl⟩
  | .resolved (.sleep _) _ => exact ⟨rfl, rfl, rfl, rfl⟩
  | .resolved (.subscribe _) none => exact ⟨rfl, rfl, rfl, rfl⟩
  | .resolved (.subscribe _) (some (.error _)) => exact ⟨rfl, rfl, rfl, rfl⟩
  | .resolved (.subscribe _) (some (.ok _)) => exact ⟨rfl, rfl, rfl, rfl⟩
  | .dropped => exact ⟨rfl, rfl, rfl, rfl⟩
  | .returned event => exact absurd rfl (h event)
  | .panicked _ => exact ⟨rfl, rfl, rfl, rfl⟩

/-- `None` is the one thing returned that changes nothing. -/
theorem quiet_none : Quiet (.returned none : Seen κ) := fun _ => ⟨rfl, rfl, rfl, rfl⟩

namespace Disciplined

/-- Nothing is lost when a future is dropped at an operation. -/
theorem waits (h : Disciplined config filter history self) (hTerminal : self.terminal = false)
    (op : Wait κ) :
    Lawful (Permitted config filter) (history ++ [.awaits op]) ∧
      Disciplined config filter (history ++ [.awaits op] ++ [.dropped]) self := by
  have hAwaits := h.quiet (x := .awaits op) (quiet_of_not_returned nofun)
    (h.terminal.symm.trans hTerminal)
  have hOpen := hAwaits.terminal.symm.trans hTerminal
  exact ⟨hAwaits.lawful, hAwaits.quiet (quiet_of_not_returned nofun) hOpen⟩

/-- An answer alone changes nothing. -/
theorem resolved (h : Disciplined config filter history self) (hTerminal : self.terminal = false)
    (op : Wait κ) (answer : op.Answer) :
    Disciplined config filter (history ++ [.awaits op] ++ [.resolved op answer]) self := by
  have hAwaits := h.quiet (x := .awaits op) (quiet_of_not_returned nofun)
    (h.terminal.symm.trans hTerminal)
  exact hAwaits.quiet (quiet_of_not_returned nofun) (hAwaits.terminal.symm.trans hTerminal)

/-- An error is the last thing that is emitted. -/
theorem error (h : Disciplined config filter history self) (hTerminal : self.terminal = false)
    {error : Error}
    (hLast : retryable error = false ∨
      (ledger history).failures = config.maximumAttempts.toNat)
    (stream : Option (FastpathStream κ)) :
    Disciplined config filter (history ++ [.returned (some (.error error))])
      { self with stream, terminal := true } where
  lawful := lawful_concat.mpr ⟨h.lawful, h.terminal.symm.trans hTerminal, hLast⟩
  config_eq := h.config_eq
  filter_eq := h.filter_eq
  attachment := by
    rw [ledger_concat]
    exact h.attachment
  terminal := by
    rw [ledger_concat]
    rfl
  stream := nofun

/-- A reset announces the subscription that was answered. -/
theorem reset {stream : κ} {attachment : UInt64}
    (h : Disciplined config filter
      (history ++ [.resolved (.subscribe filter.intoRequest) (some (.ok stream))]) self)
    (hTerminal : self.terminal = false)
    (hAttachment : attachment.toNat = self.attachment.toNat + 1) :
    Disciplined config filter
      (history ++ [.resolved (.subscribe filter.intoRequest) (some (.ok stream))] ++
        [.returned (some (.ok (.streamReset attachment)))])
      { self with stream := some (.new filter.mode stream), attachment } where
  lawful := lawful_concat.mpr ⟨h.lawful, h.terminal.symm.trans hTerminal,
    hAttachment.trans (congrArg (· + 1) h.attachment), history, stream, rfl⟩
  config_eq := h.config_eq
  filter_eq := h.filter_eq
  attachment := by
    rw [ledger_concat]
    exact hAttachment.trans (congrArg (· + 1) h.attachment)
  terminal := by
    rw [ledger_concat]
    exact h.terminal
  stream := by
    intro _ stream' hStream
    obtain rfl := Option.some.inj hStream
    rw [ledger_concat, ledger_concat]
    exact ⟨rfl, rfl, Run.accepts_nil, rfl⟩

/-- A transaction is the next message of the announced stream, and is accepted. -/
theorem transaction {stream : FastpathStream κ} {message : Proto.ResolvedTransactionFrame}
    {tx : ResolvedTransaction} {validator : CanonicalStreamValidator}
    (h : Disciplined config filter
      (history ++ [.resolved (.message stream.stream) (.message message)]) self)
    (hTerminal : self.terminal = false) (hStream : self.stream = some stream)
    (hStep : FastpathStream.validate message stream.validator = .ok tx validator) :
    Disciplined config filter
      (history ++ [.resolved (.message stream.stream) (.message message)] ++
        [.returned (some (.ok (.transaction tx)))])
      { self with stream := some { stream with validator, failed := false } } := by
  -- the validator is where the transactions since the reset have left it, so it accepts one
  -- more
  obtain ⟨hFailed, hAnnounced, hAccepts, hValidator⟩ := h.stream hTerminal stream hStream
  obtain ⟨f, hOk, rfl⟩ := FastpathStream.validate_eq_ok.mp hStep
  rw [hValidator] at hOk
  have hNext : Run.Accepts CanonicalStreamValidator.validateResolved (.new filter.mode)
      ((ledger (history ++ [.resolved (.message stream.stream) (.message message)])).delivered ++
        [message.canonicalV1]) :=
    Run.accepts_append.mpr ⟨hAccepts, Run.accepts_cons.mpr ⟨f, validator, hOk, Run.accepts_nil⟩⟩
  refine ⟨lawful_concat.mpr ⟨h.lawful, h.terminal.symm.trans hTerminal,
    ⟨history, _, message, rfl, hAnnounced, rfl⟩, hNext⟩, h.config_eq, h.filter_eq, ?_, ?_, ?_⟩
  · rw [ledger_concat]
    exact h.attachment
  · rw [ledger_concat]
    exact h.terminal
  · intro _ stream' hStream'
    obtain rfl := Option.some.inj hStream'
    rw [ledger_concat]
    refine ⟨rfl, hAnnounced, hNext, ?_⟩
    show validator = Run.final _ _ (_ ++ [message.canonicalV1])
    rw [Run.final_append, Run.final_cons, hOk]
    rfl

/-- An attachment may be given up at any time. -/
theorem withoutStream (h : Disciplined config filter history self) :
    Disciplined config filter history { self with stream := none } :=
  ⟨h.lawful, h.config_eq, h.filter_eq, h.attachment, h.terminal, nofun⟩

end Disciplined

/-- **The loop keeps the discipline.** -/
theorem disciplined_loop (hTerminal : self.terminal = false) :
    LoopRule self (Disciplined config filter) (Lawful (Permitted config filter))
      fun attempt history =>
        Disciplined config filter history self ∧ (ledger history).failures = attempt where
  waits := by
    rintro attempt history op ⟨h, -⟩
    exact h.waits hTerminal op
  slept := by
    rintro attempt history duration ⟨h, hFailures⟩
    refine ⟨h.resolved hTerminal _ _, ?_⟩
    rw [ledger_concat, ledger_concat]
    exact hFailures
  again := by
    rintro attempt history answer ⟨h, hFailures⟩ hAnswer -
    exact ⟨h.resolved hTerminal _ _, by rw [failures_asked hAnswer, hFailures]⟩
  gaveUp := by
    rintro attempt history answer ⟨h, hFailures⟩ hAnswer error hLast
    have hResolved := h.resolved hTerminal (.subscribe self.filter.intoRequest) answer
    refine hResolved.error hTerminal (hLast.imp_right fun hExhausted => ?_) self.stream
    rw [← h.config_eq, ← hExhausted, ← hFailures]
    exact failures_asked hAnswer
  attached := by
    rintro attempt history stream attachment ⟨h, -⟩ hNext
    -- what is announced is the stream that has just been answered
    obtain rfl := h.filter_eq
    exact (h.resolved hTerminal _ _).reset hTerminal hNext
  overflowed := by
    rintro attempt history stream ⟨h, -⟩ hFull
    have hResolved := h.resolved hTerminal (.subscribe self.filter.intoRequest) (some (.ok stream))
    refine lawful_concat.mpr ⟨hResolved.lawful, hResolved.terminal.symm.trans hTerminal, rfl, ?_⟩
    -- the counter is the number of resets
    rw [← hFull, hResolved.attachment]
    rfl

/-- What `receive` makes of an outcome that it does not pass on. -/
theorem receive_error {outcome : Message Proto.ResolvedTransactionFrame}
    {validator validator' : CanonicalStreamValidator} {fault : Fault Error}
    (h : Attachment.receive FastpathStream.validate outcome validator = .error fault validator') :
    fault ≠ .panic := by
  rintro rfl
  match outcome with
  | .message message =>
    refine FastpathStream.validate_returns message validator ?_
    rw [show FastpathStream.validate message validator = _ from h]
    rfl
  | .endOfStream => exact nomatch h
  | .status code => exact nomatch h

/-- **What follows a message keeps the discipline.** -/
theorem upholds_received {stream : FastpathStream κ}
    {outcome : Message Proto.ResolvedTransactionFrame}
    (h : Disciplined config filter
      (history ++ [.resolved (.message stream.stream) outcome]) self)
    (hTerminal : self.terminal = false) (hStream : self.stream = some stream)
    (hAttempts : 0 < config.maximumAttempts.toNat) (hFailures : (ledger history).failures = 0) :
    Upholds (Disciplined config filter) (Lawful (Permitted config filter))
      (history ++ [.resolved (.message stream.stream) outcome])
      (received self stream outcome) := by
  unfold received
  cases hReceive : Attachment.receive FastpathStream.validate outcome stream.validator with
  | ok tx validator =>
    match outcome with
    | .message message => exact h.transaction hTerminal hStream hReceive
    | .endOfStream => exact nomatch hReceive
    | .status code => exact nomatch hReceive
  | error fault validator =>
    cases fault with
    | panic => exact absurd rfl (receive_error hReceive)
    | err error =>
      dsimp only
      split
      · rename_i hFinal
        exact h.error hTerminal (Or.inl (by simpa using hFinal)) _
      · -- the attachment is given up: the loop starts over
        have hWithout := h.withoutStream
        rw [← h.config_eq] at hAttempts
        have hLoop := @disciplined_loop κ config filter { self with stream := none } hTerminal
        refine hLoop.upholds_start ⟨hWithout, ?_⟩ hAttempts
        rw [ledger_concat, ← hFailures]
        rfl

/-- **A call keeps the discipline**, at whichever await it is dropped. -/
theorem upholds_next (hAttempts : 0 < config.maximumAttempts.toNat)
    (h : Disciplined config filter history self) :
    Upholds (Disciplined config filter) (Lawful (Permitted config filter))
      (history ++ [.called]) (next self) := by
  have hCalled := h.quiet (x := .called) (quiet_of_not_returned nofun) trivial
  have hFailures : (ledger (history ++ [.called])).failures = 0 := by
    rw [ledger_concat]
    rfl
  cases hTerminal : self.terminal with
  | true =>
    rw [ReconnectingStream.next_terminal hTerminal]
    exact hCalled.quiet quiet_none (hCalled.terminal.symm.trans hTerminal)
  | false =>
    cases hStream : self.stream with
    | none =>
      rw [ReconnectingStream.next_connect hTerminal hStream]
      rw [← h.config_eq] at hAttempts
      exact (disciplined_loop hTerminal).upholds_start ⟨hCalled, hFailures⟩ hAttempts
    | some stream =>
      obtain ⟨hLive, -⟩ := h.stream hTerminal stream hStream
      rw [ReconnectingStream.next_message hTerminal hStream hLive]
      obtain ⟨hAwaits, hDropped⟩ := hCalled.waits hTerminal (.message stream.stream)
      refine ⟨hAwaits, hDropped, fun outcome => ?_⟩
      refine upholds_received (hCalled.resolved hTerminal _ _) hTerminal hStream hAttempts ?_
      rw [ledger_concat, ← hFailures]
      rfl

end Discipline

-- ---------------------------------------------------------------------------
-- What the discipline amounts to
-- ---------------------------------------------------------------------------

section Consequences

variable {config : ReconnectConfig} {filter : ResolvedFilter} {history : List (Seen κ)}

/-- Nothing has happened to a caller to whom nothing has been returned. -/
theorem ledger_of_not_returned (h : ∀ event, .returned event ∉ history) :
    (ledger history).resets = 0 ∧ (ledger history).announced = none
      ∧ (ledger history).failed = false := by
  induction history using List.reverseRecOn with
  | nil => exact ⟨rfl, rfl, rfl⟩
  | append_singleton front x ih =>
    have hQuiet : Quiet x := quiet_of_not_returned fun event hx =>
      h event (List.mem_append_right _ (List.mem_singleton.mpr hx.symm))
    obtain ⟨hResets, hAnnounced, -, hFailed⟩ := hQuiet (ledger front)
    rw [ledger_concat, hResets, hAnnounced, hFailed]
    exact ih fun event hMem => h event (List.mem_append_left _ hMem)

/-- Emitted events start with the first reset or an error. -/
theorem first_event (h : Lawful (Permitted config filter) history) {before after : List (Seen κ)}
    {event : Option (Except Error FastpathEvent)}
    (hEq : history = before ++ .returned event :: after)
    (hFirst : ∀ event, .returned event ∉ before) :
    event = some (.ok (.streamReset 1)) ∨ ∃ error, event = some (.error error) := by
  obtain ⟨hResets, hAnnounced, hFailed⟩ := ledger_of_not_returned hFirst
  have hPermitted := h before _ after hEq
  match event, hPermitted with
  | none, hPermitted => exact absurd (hFailed.symm.trans hPermitted) Bool.false_ne_true
  | some (.error error), _ => exact Or.inr ⟨error, rfl⟩
  | some (.ok (.streamReset attachment)), ⟨_, hNumber, _⟩ =>
    rw [hResets] at hNumber
    rw [UInt64.toNat_inj.mp (show attachment.toNat = (1 : UInt64).toNat from hNumber)]
    exact Or.inl rfl
  | some (.ok (.transaction tx)), ⟨_, ⟨_, _, _, _, hSome, _⟩, _⟩ =>
    exact nomatch hAnnounced.symm.trans hSome

/-- Nothing takes an error back. -/
theorem record_failed {ledger : Ledger κ} (h : ledger.failed = true) (x : Seen κ) :
    (ledger.record x).failed = true := by
  unfold Ledger.record
  split
  all_goals first | exact h | rfl

/-- An error is remembered for ever. -/
theorem ledger_failed (h : (ledger history).failed = true) (more : List (Seen κ)) :
    (ledger (history ++ more)).failed = true := by
  induction more using List.reverseRecOn with
  | nil =>
    rw [List.append_nil]
    exact h
  | append_singleton more x ih =>
    rw [← List.append_assoc, ledger_concat]
    exact record_failed ih x

/-- Once an error was emitted the caller can only call, and gets `None`. -/
theorem permitted_failed {before : List (Seen κ)} {x : Seen κ}
    (hFailed : (ledger before).failed = true) (h : Permitted config filter before x) :
    x = .called ∨ x = .returned none := by
  match x, h with
  | .called, _ => exact Or.inl rfl
  | .returned none, _ => exact Or.inr rfl
  | .awaits _, hOpen => exact absurd (hOpen.symm.trans hFailed) Bool.false_ne_true
  | .resolved _ _, hOpen => exact absurd (hOpen.symm.trans hFailed) Bool.false_ne_true
  | .dropped, hOpen => exact absurd (hOpen.symm.trans hFailed) Bool.false_ne_true
  | .returned (some (.ok (.streamReset _))), ⟨hOpen, _⟩ =>
    exact absurd (hOpen.symm.trans hFailed) Bool.false_ne_true
  | .returned (some (.ok (.transaction _))), ⟨hOpen, _⟩ =>
    exact absurd (hOpen.symm.trans hFailed) Bool.false_ne_true
  | .returned (some (.error _)), ⟨hOpen, _⟩ =>
    exact absurd (hOpen.symm.trans hFailed) Bool.false_ne_true
  | .panicked _, ⟨hOpen, _⟩ => exact absurd (hOpen.symm.trans hFailed) Bool.false_ne_true

/-- Behind an error the ledger says so for ever, and then only calls that return `None`
are permitted. -/
theorem silent_after_error (h : Lawful (Permitted config filter) history)
    {before after : List (Seen κ)} {error : Error}
    (hEq : history = before ++ .returned (some (.error error)) :: after) :
    ∀ x ∈ after, x = .called ∨ x = .returned none := by
  intro x hx
  obtain ⟨front, back, rfl⟩ := List.append_of_mem hx
  have hError : (ledger (before ++ [.returned (some (.error error))])).failed = true := by
    rw [ledger_concat]
    rfl
  refine permitted_failed (ledger_failed hError front) (h _ x back ?_)
  rw [hEq, List.append_assoc, List.append_assoc]
  rfl

/-- The number of a reset. -/
def attachment? : Seen κ → Option UInt64
  | .returned (some (.ok (.streamReset attachment))) => some attachment
  | _ => none

/-- Resets are numbered from one on. -/
theorem attachments_eq (h : Lawful (Permitted config filter) history) :
    (history.filterMap attachment?).map UInt64.toNat =
      List.range' 1 (ledger history).resets := by
  induction history using List.reverseRecOn with
  | nil => rfl
  | append_singleton front x ih =>
    obtain ⟨hFront, hPermitted⟩ := lawful_concat.mp h
    rw [List.filterMap_append, List.map_append, ih hFront, ledger_concat]
    match x, hPermitted with
    | .returned (some (.ok (.streamReset attachment))), ⟨_, hNumber, _⟩ =>
      show _ ++ [attachment.toNat] = List.range' 1 ((ledger front).resets + 1)
      rw [List.range'_1_concat, hNumber, Nat.add_comm]
    | .returned (some (.ok (.transaction _))), _ => exact List.append_nil _
    | .returned (some (.error _)), _ => exact List.append_nil _
    | .returned none, _ => exact List.append_nil _
    | .called, _ => exact List.append_nil _
    | .awaits _, _ => exact List.append_nil _
    | .resolved op answer, _ =>
      -- an answer changes the ledger, but not the number of resets
      obtain ⟨hResets, -⟩ := quiet_of_not_returned (x := .resolved op answer) nofun (ledger front)
      rw [hResets]
      exact List.append_nil _
    | .dropped, _ => exact List.append_nil _
    | .panicked _, _ => exact List.append_nil _

end Consequences

/-- A wrapper that could be built has an attempt, and nothing was seen of it. -/
theorem disciplined_new {filter : ResolvedFilter} {config : ReconnectConfig}
    {self : ReconnectingStream κ} (hNew : ReconnectingStream.new filter config = .ok self) :
    0 < config.maximumAttempts.toNat ∧ Disciplined config filter [] self := by
  obtain ⟨hValid, hSelf⟩ := guard_eq_ok hNew
  obtain rfl := Except.ok.inj hSelf
  refine ⟨Nat.pos_of_ne_zero fun hZero => hValid (Or.inr (Or.inr ?_)),
    lawful_nil, rfl, rfl, rfl, rfl, fun _ _ hStream => ?_⟩
  · exact UInt32.toNat_inj.mp hZero
  · cases hStream

/-- **The discipline of reconnect traces.** Whatever is answered, and whichever
futures are dropped at whichever await:

* emitted events start with the first reset or an error;
* resets are numbered from one on;
* after an error there are only calls that return `None`;
* and everything that is seen is permitted by what was seen before. -/
theorem reconnect_discipline {filter : ResolvedFilter} {config : ReconnectConfig}
    {self : ReconnectingStream κ} (hNew : ReconnectingStream.new filter config = .ok self)
    {history : List (Seen κ)}
    {caller : Caller (Wait κ) Wait.Answer (ReconnectingStream κ)
      (Option (Except Error FastpathEvent))}
    (hTraced : Traced ReconnectingStream.next self history caller) :
    (∀ before event after, history = before ++ .returned event :: after →
      (∀ event, .returned event ∉ before) →
      event = some (.ok (.streamReset 1)) ∨ ∃ error, event = some (.error error)) ∧
    (∃ count, (history.filterMap attachment?).map UInt64.toNat = List.range' 1 count) ∧
    (∀ before error after, history = before ++ .returned (some (.error error)) :: after →
      ∀ x ∈ after, x = .called ∨ x = .returned none) ∧
    ∀ before x after, history = before ++ x :: after → Permitted config filter before x := by
  obtain ⟨hAttempts, hInit⟩ := disciplined_new hNew
  -- one call upholds the discipline, so every history keeps it
  have hCall : ∀ (history : List (Seen κ)) wrapper, Disciplined config filter history wrapper →
      Upholds (Disciplined config filter) (Lawful (Permitted config filter))
        (history ++ [.called]) (next wrapper) := fun _ _ h => upholds_next hAttempts h
  have hLawful := hTraced.of_upholds hInit (fun _ _ h => h.lawful) hCall
  exact ⟨fun _ _ _ hEq hFirst => first_event hLawful hEq hFirst,
    ⟨_, attachments_eq hLawful⟩, fun _ _ _ hEq => silent_after_error hLawful hEq, hLawful⟩

/-- A new wrapper, for transport streams without a name. -/
def sampleWrapper : ReconnectingStream Unit where
  filter := .matchAll
  config := .default
  stream := none
  attachment := 0
  terminal := false

/-- The same, attached for the first time. -/
def sampleAttached : ReconnectingStream Unit :=
  { sampleWrapper with stream := some (.new .matchAll ()), attachment := 1 }

/-- A call that waits for a subscription and returns the first reset, one that is
dropped while it waits for a message, and one that returns that message. -/
theorem reconnect_discipline_sample : ∃ (history : List (Seen Unit)) (front : List (Seen Unit))
    (state : ReconnectingStream Unit),
    Traced ReconnectingStream.next sampleWrapper history (.idle state) ∧
      history = front ++ [.returned (some (.ok (.transaction ⟨samplePayload⟩)))] ∧
      (history.filterMap attachment?).map UInt64.toNat = [1] ∧
      Permitted .default .matchAll front
        (.returned (some (.ok (.transaction ⟨samplePayload⟩)))) := by
  have hSubscribes : next sampleWrapper = .pending sampleWrapper
      (.subscribe (ResolvedFilter.intoRequest .matchAll))
      (answered 0 (connect 1 4 sampleWrapper) sampleWrapper) :=
    ReconnectingStream.next_first rfl rfl rfl rfl
  have hWaits : next sampleAttached = .pending sampleAttached (.message ())
      (received sampleAttached (.new .matchAll ())) :=
    ReconnectingStream.next_message rfl rfl rfl
  obtain ⟨validator, hOk⟩ := CanonicalStreamValidator.samplePayload_accepted .matchAll
  -- nothing below computes with the bytes
  generalize samplePayload = payload at hOk ⊢
  have hReceives : received sampleAttached (.new .matchAll ()) (.message ⟨payload⟩) =
      .ready (some (.ok (.transaction ⟨payload⟩)))
        { sampleAttached with stream := some ⟨(), validator, false⟩ } := by
    exact ReconnectingStream.received_ok (FastpathStream.validate_eq_ok.mpr ⟨_, hOk, rfl⟩)
  have hStart : Traced ReconnectingStream.next sampleWrapper [] (.idle sampleWrapper) := .start
  have hCalled := hStart.call
  rw [hSubscribes] at hCalled
  have hReset := hCalled.resolve (some (.ok ()))
  have hAttached : answered 0 (connect 1 4 sampleWrapper) sampleWrapper (some (.ok ())) =
      .ready (some (.ok (.streamReset 1))) sampleAttached := rfl
  rw [hAttached] at hReset
  have hWaiting := hReset.call
  rw [hWaits] at hWaiting
  have hAgain := hWaiting.drop.call
  rw [hWaits] at hAgain
  have hReceived := hAgain.resolve (.message ⟨payload⟩)
  rw [hReceives] at hReceived
  refine ⟨_, _, _, hReceived, rfl, rfl, ?_⟩
  have hNew : ReconnectingStream.new .matchAll .default = .ok sampleWrapper := rfl
  obtain ⟨-, -, -, hPermitted⟩ := reconnect_discipline hNew hReceived
  exact hPermitted _ _ [] rfl

end TxStream
