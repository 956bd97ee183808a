import TxStream.Client.ReconnectBound

/-!
# How long a subscription is put off

The loop of `ReconnectingStream::next` sleeps in front of every attempt but the
very first one. `delay` saturates twice, in the power and in the product, before
it caps the result.

* `nanos_delay` — the cap absorbs the saturation of the product, not that of the
  power.
* `upholds_backoff` — a call sleeps once in front of each subscription.
* `backoff_schedule` — so does every history without a dropped call, and for which
  configurations the sleeps double until they reach the maximum.
-/

namespace TxStream

open Wire Rust
open ReconnectingStream (Pending connect subscribeOnce refused answered received next)

variable {κ : Type}

-- ---------------------------------------------------------------------------
-- The delay
-- ---------------------------------------------------------------------------

/-- The initial delay doubled for each failure, up to the maximum. -/
def doubled (config : ReconnectConfig) (failures : Nat) : Nat :=
  min (config.initialDelay.nanos * 2 ^ failures) config.maximumDelay.nanos

/-- The same with a factor that is a `u32`. -/
def doubledU32 (config : ReconnectConfig) (failures : Nat) : Nat :=
  min (config.initialDelay.nanos * min (2 ^ failures) (2 ^ 32 - 1)) config.maximumDelay.nanos

section Delay

variable {config : ReconnectConfig} {attempt attempt' : Nat}

/-- The smaller of two durations. -/
theorem nanos_min (duration duration' : Duration) :
    (duration.min duration').nanos = min duration.nanos duration'.nanos := by
  unfold Duration.min
  split
  · omega
  · omega

/-- The cap absorbs the saturation of the product, since it is a `Duration`. -/
theorem nanos_delay : (delay config attempt).nanos = doubledU32 config attempt := by
  have hCap := config.maximumDelay.nanos_lt
  rw [delay, nanos_min]
  show min (min _ (2 ^ 64 * 10 ^ 9 - 1)) config.maximumDelay.nanos = _
  unfold doubledU32
  omega

/-- The delay behind more failures is no shorter. -/
theorem doubledU32_mono (h : attempt ≤ attempt') :
    doubledU32 config attempt ≤ doubledU32 config attempt' := by
  have hPow : 2 ^ attempt ≤ 2 ^ attempt' := Nat.pow_le_pow_right (by decide) h
  exact min_le_min_right _ (Nat.mul_le_mul_left _ (min_le_min_right _ hPow))

/-- No delay is longer than the maximum. -/
theorem doubledU32_le : doubledU32 config attempt ≤ config.maximumDelay.nanos := min_le_right _ _

/-- No delay is shorter than the initial one. -/
theorem le_doubledU32 (h : config.initialDelay.nanos ≤ config.maximumDelay.nanos) :
    config.initialDelay.nanos ≤ doubledU32 config attempt := by
  have hFactor : 1 ≤ min (2 ^ attempt) (2 ^ 32 - 1) := le_min Nat.one_le_two_pow (by decide)
  exact le_min (Nat.le_mul_of_pos_right _ hFactor) h

/-- The first 32 powers are `u32`s, and later ones do not matter behind the cap. -/
theorem doubledU32_eq (h : attempt < 32 ∨
    config.maximumDelay.nanos ≤ config.initialDelay.nanos * (2 ^ 32 - 1)) :
    doubledU32 config attempt = doubled config attempt := by
  unfold doubledU32 doubled
  by_cases hSmall : attempt < 32
  · have hPow : 2 ^ attempt < 2 ^ 32 := Nat.pow_lt_pow_right (by decide) hSmall
    have hFactor : 2 ^ attempt ≤ 2 ^ 32 - 1 := Nat.le_pred_of_lt hPow
    rw [min_eq_left hFactor]
  · have hPow : 2 ^ 32 - 1 ≤ 2 ^ attempt :=
      Nat.le_trans (Nat.sub_le _ 1) (Nat.pow_le_pow_right (by decide) (not_lt.mp hSmall))
    have hCap := h.resolve_left hSmall
    rw [min_eq_right hPow, min_eq_right hCap,
      min_eq_right (Nat.le_trans hCap (Nat.mul_le_mul_left _ hPow))]

end Delay

-- ---------------------------------------------------------------------------
-- The sleeps of a history
-- ---------------------------------------------------------------------------

/-- A subscription is called. -/
def isSubscribe : Seen κ → Bool
  | .awaits (.subscribe _) => true
  | _ => false

/-- A subscription has succeeded. -/
def isConnected : Seen κ → Bool
  | .resolved (.subscribe _) (some (.ok _)) => true
  | _ => false

/-- The sleep that is seen to begin. -/
def sleep? : Seen κ → Option Duration
  | .awaits (.sleep duration) => some duration
  | _ => none

/-- The sleeps behind the last entry that is marked. -/
def sleepsSince (mark : Seen κ → Bool) (history : List (Seen κ)) : List Duration :=
  history.foldl (fun sleeps x => if mark x then [] else sleeps ++ (sleep? x).toList) []

section Sleeps

variable {mark : Seen κ → Bool} {history : List (Seen κ)} {x : Seen κ}

/-- The sleeps of one entry. -/
theorem filterMap_singleton (x : Seen κ) : [x].filterMap sleep? = (sleep? x).toList := by
  cases hSleep : sleep? x with
  | none => simp [hSleep]
  | some duration => simp [hSleep]

/-- A sleep is an await. -/
theorem eq_of_sleep {duration : Duration} (h : sleep? x = some duration) :
    x = .awaits (.sleep duration) := by
  unfold sleep? at h
  split at h
  · rw [Option.some.inj h]
  · cases h

/-- The list is kept entry by entry. -/
theorem sleepsSince_concat (history : List (Seen κ)) (x : Seen κ) :
    sleepsSince mark (history ++ [x]) =
      if mark x then [] else sleepsSince mark history ++ (sleep? x).toList := by
  rw [sleepsSince, List.foldl_append]
  rfl

/-- A mark starts it anew. -/
theorem sleepsSince_mark (h : mark x = true) : sleepsSince mark (history ++ [x]) = [] := by
  rw [sleepsSince_concat, if_pos h]

/-- What is neither marked nor a sleep does not count. -/
theorem sleepsSince_quiet (hMark : mark x = false) (hSleep : sleep? x = none) :
    sleepsSince mark (history ++ [x]) = sleepsSince mark history := by
  rw [sleepsSince_concat, if_neg (by rw [hMark]; exact Bool.false_ne_true), hSleep,
    Option.toList_none, List.append_nil]

/-- Without a mark, all sleeps are added. -/
theorem sleepsSince_append {more : List (Seen κ)} (h : ∀ x ∈ more, mark x = false) :
    sleepsSince mark (history ++ more) = sleepsSince mark history ++ more.filterMap sleep? := by
  induction more using List.reverseRecOn with
  | nil => simp
  | append_singleton more x ih =>
    have hx := h x (List.mem_append_right _ (List.mem_singleton.mpr rfl))
    rw [← List.append_assoc, sleepsSince_concat, if_neg (by rw [hx]; exact Bool.false_ne_true),
      ih fun y hy => h y (List.mem_append_left _ hy), List.append_assoc, List.filterMap_append,
      filterMap_singleton]

end Sleeps

/-- What is asked of the backoff, for a schedule by the failures in the call. -/
structure BackoffSchedule (config : ReconnectConfig) (schedule : Nat → Nat)
    (history : List (Seen κ)) : Prop where
  /-- Nothing is slept in front of the very first subscription. -/
  first : ∀ before request after, history = before ++ .awaits (.subscribe request) :: after →
    (∀ x ∈ before, isSubscribe x = false) → before.filterMap sleep? = []
  /-- Between two subscriptions there is one sleep, of the scheduled length, and the
  second subscription is called when it ends. -/
  between : ∀ before request between request' after, history =
    before ++ .awaits (.subscribe request) :: between ++ .awaits (.subscribe request') :: after →
    (∀ x ∈ between, isSubscribe x = false) →
    ∃ duration, between.filterMap sleep? = [duration]
      ∧ between.getLast? = some (.resolved (.sleep duration) ())
      ∧ duration.nanos =
        schedule (ledger (before ++ .awaits (.subscribe request) :: between)).failures
  /-- While no subscription succeeds, the sleeps do not get shorter. -/
  rising : ∀ before outage after, history = before ++ outage ++ after →
    (∀ x ∈ outage, isConnected x = false) →
    (outage.filterMap sleep?).Pairwise fun earlier later => earlier.nanos ≤ later.nanos
  bounded : ∀ duration, .awaits (.sleep duration) ∈ history →
    config.initialDelay.nanos ≤ duration.nanos ∧ duration.nanos ≤ config.maximumDelay.nanos

-- ---------------------------------------------------------------------------
-- What a call keeps
-- ---------------------------------------------------------------------------

/-- In front of an attempt: nothing was slept since the last subscription, and nothing
longer in the outage. -/
structure Due (config : ReconnectConfig) (attachment : UInt64) (attempt : Nat)
    (history : List (Seen κ)) : Prop where
  pause : sleepsSince isSubscribe history = []
  outage : ∀ duration ∈ sleepsSince isConnected history,
    duration.nanos ≤ (delay config attempt).nanos
  begun : attachment > 0 ∨ attempt > 0 ↔ ∃ x ∈ history, isSubscribe x = true

/-- In front of a subscription: it is the very first one, or its sleep has ended. -/
structure Rested (config : ReconnectConfig) (attempt : Nat) (history : List (Seen κ)) :
    Prop where
  pause : ((∀ x ∈ history, isSubscribe x = false) ∧ sleepsSince isSubscribe history = [])
    ∨ ((∃ x ∈ history, isSubscribe x = true)
      ∧ sleepsSince isSubscribe history = [delay config attempt]
      ∧ history.getLast? = some (.resolved (.sleep (delay config attempt)) ()))
  outage : ∀ duration ∈ sleepsSince isConnected history,
    duration.nanos ≤ (delay config attempt).nanos

/-- What may be seen behind a history, as long as no call is dropped. -/
def OnSchedule (config : ReconnectConfig) (before : List (Seen κ)) : Seen κ → Prop
  | .awaits (.subscribe _) => .dropped ∉ before → Rested config (ledger before).failures before
  | .awaits (.sleep duration) => duration = delay config (ledger before).failures
      ∧ (.dropped ∉ before → ∀ earlier ∈ sleepsSince isConnected before,
        earlier.nanos ≤ duration.nanos)
  | _ => True

/-- Between calls, and wherever a future can be dropped. -/
structure Timed (config : ReconnectConfig) (history : List (Seen κ))
    (wrapper : ReconnectingStream κ) : Prop where
  lawful : Lawful (OnSchedule config) history
  config_eq : wrapper.config = config
  due : .dropped ∉ history → wrapper.terminal = false → Due config wrapper.attachment 0 history

/-- Inside a call, at the given attempt. -/
structure Timing (config : ReconnectConfig) (At : List (Seen κ) → Prop) (attempt : Nat)
    (history : List (Seen κ)) (wrapper : ReconnectingStream κ) : Prop where
  lawful : Lawful (OnSchedule config) history
  config_eq : wrapper.config = config
  failures : (ledger history).failures = attempt
  at_point : .dropped ∉ history → At history

section Backoff

variable {config : ReconnectConfig} {filter : ResolvedFilter} {history : List (Seen κ)}
  {self : ReconnectingStream κ} {attachment : UInt64} {attempt : Nat}

/-- What the schedule does not look at. -/
structure Untimed (x : Seen κ) : Prop where
  subscribe : isSubscribe x = false
  connected : isConnected x = false
  sleep : sleep? x = none

/-- What is not dropped in a longer history is not in a shorter one. -/
theorem not_dropped {x : Seen κ} (h : .dropped ∉ history ++ [x]) : .dropped ∉ history :=
  fun hMem => h (List.mem_append_left _ hMem)

namespace Due

theorem untimed (h : Due config attachment attempt history) {x : Seen κ} (hx : Untimed x) :
    Due config attachment attempt (history ++ [x]) where
  pause := by
    rw [sleepsSince_quiet hx.subscribe hx.sleep]
    exact h.pause
  outage := by
    rw [sleepsSince_quiet hx.connected hx.sleep]
    exact h.outage
  begun := by
    rw [h.begun]
    constructor
    · rintro ⟨y, hy, hSubscribe⟩
      exact ⟨y, List.mem_append_left _ hy, hSubscribe⟩
    · rintro ⟨y, hy, hSubscribe⟩
      rcases List.mem_append.mp hy with hOld | hNew
      · exact ⟨y, hOld, hSubscribe⟩
      · rw [List.mem_singleton.mp hNew, hx.subscribe] at hSubscribe
        cases hSubscribe

/-- The sleep of an attempt is the only one since the last subscription. -/
theorem slept (h : Due config attachment attempt history)
    (hSleeps : attachment > 0 ∨ attempt > 0) :
    Rested config attempt (history ++ [.awaits (.sleep (delay config attempt))] ++
      [.resolved (.sleep (delay config attempt)) ()]) where
  pause := by
    obtain ⟨x, hx, hSubscribe⟩ := h.begun.mp hSleeps
    refine Or.inr ⟨⟨x, ?_, hSubscribe⟩, ?_, List.getLast?_concat⟩
    · exact List.mem_append_left _ (List.mem_append_left _ hx)
    · rw [sleepsSince_quiet rfl rfl, sleepsSince_concat, h.pause]
      rfl
  outage := by
    rw [sleepsSince_quiet rfl rfl, sleepsSince_concat]
    intro duration hMem
    rcases List.mem_append.mp hMem with hOld | hNew
    · exact h.outage duration hOld
    · rw [List.mem_singleton.mp hNew]

/-- Only the very first attempt does not sleep. -/
theorem unslept (h : Due config attachment attempt history)
    (hFirst : ¬ (attachment > 0 ∨ attempt > 0)) : Rested config attempt history where
  pause := by
    refine Or.inl ⟨fun x hx => ?_, h.pause⟩
    cases hSubscribe : isSubscribe x with
    | false => rfl
    | true => exact absurd (h.begun.mpr ⟨x, hx, hSubscribe⟩) hFirst
  outage := h.outage

end Due

namespace Rested

/-- The subscriptions of a history, behind one more. -/
theorem begun_asked (answer : Option (Except Code κ)) :
    ∃ x ∈ self.asked history answer, isSubscribe x = true :=
  ⟨.awaits (.subscribe self.filter.intoRequest),
    List.mem_append_left _ (List.mem_append_right _ (List.mem_singleton.mpr rfl)), rfl⟩

/-- Behind a subscription nothing has been slept yet. -/
theorem pause_asked (answer : Option (Except Code κ)) :
    sleepsSince isSubscribe (self.asked history answer) = [] := by
  unfold ReconnectingStream.asked
  rw [sleepsSince_quiet rfl rfl, sleepsSince_mark rfl]

/-- A subscription that failed makes the next sleep no shorter. -/
theorem failed (h : Rested config attempt history) {answer : Option (Except Code κ)}
    (hAnswer : ∀ stream, answer ≠ some (.ok stream)) :
    Due config attachment (attempt + 1) (self.asked history answer) where
  pause := pause_asked answer
  outage := by
    have hConnected : isConnected
        (.resolved (.subscribe self.filter.intoRequest) answer : Seen κ) = false := by
      match answer, hAnswer with
      | none, _ => rfl
      | some (.error _), _ => rfl
      | some (.ok stream), hAnswer => exact absurd rfl (hAnswer stream)
    unfold ReconnectingStream.asked
    rw [sleepsSince_quiet hConnected rfl, sleepsSince_quiet rfl rfl]
    intro duration hMem
    have hLe := h.outage duration hMem
    rw [nanos_delay] at hLe ⊢
    exact Nat.le_trans hLe (doubledU32_mono (Nat.le_succ attempt))
  begun := iff_of_true (Or.inr (Nat.succ_pos attempt)) (begun_asked answer)

end Rested

/-- Behind a reset an outage has not begun. -/
theorem due_reset {stream : κ} (event : Option (Except Error FastpathEvent))
    (hAttachment : attachment > 0) :
    Due config attachment 0 (self.asked history (some (.ok stream)) ++ [.returned event]) := by
  refine Due.untimed ⟨Rested.pause_asked _, ?_, ?_⟩ ⟨rfl, rfl, rfl⟩
  · unfold ReconnectingStream.asked
    rw [sleepsSince_mark rfl]
    exact nofun
  · exact iff_of_true (Or.inl hAttachment) (Rested.begun_asked _)

namespace Timed

/-- A dropped call is excused from everything that comes later. -/
theorem dropped (hLawful : Lawful (OnSchedule config) history) (hConfig : self.config = config) :
    Timed config (history ++ [.dropped]) self where
  lawful := lawful_concat.mpr ⟨hLawful, trivial⟩
  config_eq := hConfig
  due := fun hKept _ => absurd (List.mem_append_right _ (List.mem_singleton.mpr rfl)) hKept

theorem error (hLawful : Lawful (OnSchedule config) history) (hConfig : self.config = config)
    (error : Error) (stream : Option (FastpathStream κ)) :
    Timed config (history ++ [.returned (some (.error error))])
      { self with stream, terminal := true } where
  lawful := lawful_concat.mpr ⟨hLawful, trivial⟩
  config_eq := hConfig
  due := by
    intro _ hTerminal
    cases hTerminal

end Timed

namespace Timing

variable {At : List (Seen κ) → Prop}

/-- What is no await of the schedule is on schedule. -/
theorem lawful_untimed (h : Timing config At attempt history self) {x : Seen κ}
    (hx : Untimed x) : Lawful (OnSchedule config) (history ++ [x]) := by
  refine lawful_concat.mpr ⟨h.lawful, ?_⟩
  match x, hx with
  -- the two awaits that the schedule looks at are timed
  | .awaits (.subscribe _), hx => cases hx.subscribe
  | .awaits (.sleep _), hx => cases hx.sleep
  | .awaits (.message _), _ => trivial
  | .called, _ => trivial
  | .resolved _ _, _ => trivial
  | .dropped, _ => trivial
  | .returned _, _ => trivial
  | .panicked _, _ => trivial

/-- A subscription is called on schedule. -/
theorem lawful_asks (h : Timing config (Rested config attempt) attempt history self)
    (request : Proto.SubscribeResolvedTransactionsRequest) :
    Lawful (OnSchedule config) (history ++ [.awaits (.subscribe request)]) := by
  refine lawful_concat.mpr ⟨h.lawful, fun hKept => ?_⟩
  rw [h.failures]
  exact h.at_point hKept

/-- The answer to a subscription is on schedule, whatever it is. -/
theorem lawful_asked (h : Timing config (Rested config attempt) attempt history self)
    (answer : Option (Except Code κ)) :
    Lawful (OnSchedule config) (self.asked history answer) :=
  lawful_concat.mpr ⟨h.lawful_asks _, trivial⟩

/-- The sleep of an attempt is on schedule. -/
theorem lawful_sleeps (h : Timing config (Due config attachment attempt) attempt history self) :
    Lawful (OnSchedule config) (history ++ [.awaits (.sleep (delay config attempt))]) := by
  refine lawful_concat.mpr ⟨h.lawful, ?_, fun hKept => ?_⟩
  · rw [h.failures]
  · exact (h.at_point hKept).outage

/-- Nothing is slept while a call waits for a message or runs. -/
theorem untimed (h : Timing config (Due config attachment attempt) attempt history self)
    {x : Seen κ} (hx : Untimed x)
    (hLedger : ∀ ledger : Ledger κ, (ledger.record x).failures = ledger.failures) :
    Timing config (Due config attachment attempt) attempt (history ++ [x]) self where
  lawful := h.lawful_untimed hx
  config_eq := h.config_eq
  failures := by
    rw [ledger_concat, hLedger]
    exact h.failures
  at_point := fun hKept => (h.at_point (not_dropped hKept)).untimed hx

end Timing

/-- **The loop keeps the schedule.** -/
theorem backoff_loop : LoopSteps self (Timed config) (Lawful (OnSchedule config))
    (fun attempt history =>
      Timing config (Due config self.attachment attempt) attempt history self)
    (fun attempt history => Timing config (Rested config attempt) attempt history self) where
  sleeps := by
    intro attempt history h hSleeps
    obtain rfl := h.config_eq
    refine ⟨h.lawful_sleeps, Timed.dropped h.lawful_sleeps rfl, ?_, rfl, ?_, ?_⟩
    · exact lawful_concat.mpr ⟨h.lawful_sleeps, trivial⟩
    · rw [ledger_concat, ledger_concat]
      exact h.failures
    · exact fun hKept => (h.at_point (not_dropped (not_dropped hKept))).slept hSleeps
  skips := by
    intro attempt history h hFirst
    exact ⟨h.lawful, h.config_eq, h.failures, fun hKept => (h.at_point hKept).unslept hFirst⟩
  asks := by
    intro attempt history h
    exact ⟨h.lawful_asks _, Timed.dropped (h.lawful_asks _) h.config_eq⟩
  again := by
    intro attempt history answer h hAnswer _
    refine ⟨h.lawful_asked answer, h.config_eq, ?_, fun hKept => ?_⟩
    · rw [failures_asked hAnswer, h.failures]
    · exact (h.at_point (not_dropped (not_dropped hKept))).failed hAnswer
  gaveUp := by
    intro attempt history answer h _ error _
    exact Timed.error (h.lawful_asked answer) h.config_eq error self.stream
  attached := by
    intro attempt history stream attachment h hNext
    refine ⟨lawful_concat.mpr ⟨h.lawful_asked _, trivial⟩, h.config_eq, fun _ _ => ?_⟩
    -- the counter has just become positive
    refine due_reset _ (UInt64.lt_iff_toNat_lt.mpr ?_)
    show 0 < attachment.toNat
    omega
  overflowed := by
    intro attempt history stream h _
    exact lawful_concat.mpr ⟨h.lawful_asked _, trivial⟩

/-- Behind a message nothing has been slept. -/
theorem upholds_received_backoff {stream : FastpathStream κ}
    {outcome : Message Proto.ResolvedTransactionFrame}
    (h : Timing config (Due config self.attachment 0) 0 history self)
    (hAttempts : 0 < config.maximumAttempts.toNat) :
    Upholds (Timed config) (Lawful (OnSchedule config)) history (received self stream outcome) := by
  unfold received
  cases Attachment.receive FastpathStream.validate outcome stream.validator with
  | ok tx validator =>
    refine ⟨h.lawful_untimed ⟨rfl, rfl, rfl⟩, h.config_eq, fun hKept _ => ?_⟩
    exact (h.at_point (not_dropped hKept)).untimed ⟨rfl, rfl, rfl⟩
  | error fault validator =>
    cases fault with
    | panic => exact h.lawful_untimed ⟨rfl, rfl, rfl⟩
    | err error =>
      dsimp only
      split
      · exact Timed.error h.lawful h.config_eq error _
      · -- the attachment is given up: the loop starts over
        have hWithout : Timing config (Due config self.attachment 0) 0 history
            { self with stream := none } := ⟨h.lawful, h.config_eq, h.failures, h.at_point⟩
        rw [← h.config_eq] at hAttempts
        have hLoop := @backoff_loop κ config { self with stream := none }
        exact hLoop.upholds_start hWithout hAttempts

/-- **A call keeps the schedule**, at whichever await it is dropped. -/
theorem upholds_backoff (hAttempts : 0 < config.maximumAttempts.toNat)
    (hDisciplined : Disciplined config filter history self) (h : Timed config history self) :
    Upholds (Timed config) (Lawful (OnSchedule config)) (history ++ [.called]) (next self) := by
  have hCalled : Lawful (OnSchedule config) (history ++ [.called]) :=
    lawful_concat.mpr ⟨h.lawful, trivial⟩
  cases hTerminal : self.terminal with
  | true =>
    rw [ReconnectingStream.next_terminal hTerminal]
    refine ⟨lawful_concat.mpr ⟨hCalled, trivial⟩, h.config_eq, fun _ hOpen => ?_⟩
    exact absurd (hOpen.symm.trans hTerminal) Bool.false_ne_true
  | false =>
    have hStart : Timing config (Due config self.attachment 0) 0 (history ++ [.called]) self := by
      refine ⟨hCalled, h.config_eq, ?_, fun hKept => ?_⟩
      · rw [ledger_concat]
        rfl
      · exact (h.due (not_dropped hKept) hTerminal).untimed ⟨rfl, rfl, rfl⟩
    cases hStream : self.stream with
    | none =>
      rw [ReconnectingStream.next_connect hTerminal hStream]
      rw [← h.config_eq] at hAttempts
      exact backoff_loop.upholds_start hStart hAttempts
    | some stream =>
      obtain ⟨hLive, -⟩ := hDisciplined.stream hTerminal stream hStream
      rw [ReconnectingStream.next_message hTerminal hStream hLive]
      have hAwaits := hStart.untimed (x := .awaits (.message stream.stream)) ⟨rfl, rfl, rfl⟩
        fun _ => rfl
      refine ⟨hAwaits.lawful, Timed.dropped hAwaits.lawful h.config_eq, fun outcome => ?_⟩
      exact upholds_received_backoff (hAwaits.untimed ⟨rfl, rfl, rfl⟩ fun _ => rfl) hAttempts

end Backoff

-- ---------------------------------------------------------------------------
-- Every history
-- ---------------------------------------------------------------------------

section Histories

variable {config : ReconnectConfig} {filter : ResolvedFilter} {history : List (Seen κ)}
  {self : ReconnectingStream κ}

/-- Every history keeps the schedule, since every call does. -/
theorem lawful_backoff (hNew : ReconnectingStream.new filter config = .ok self)
    {caller : Caller (Wait κ) Wait.Answer (ReconnectingStream κ)
      (Option (Except Error FastpathEvent))}
    (hTraced : Traced next self history caller) : Lawful (OnSchedule config) history := by
  obtain ⟨hAttempts, hDisciplined⟩ := disciplined_new hNew
  have hTimed : Timed config ([] : List (Seen κ)) self := by
    obtain ⟨-, hSelf⟩ := guard_eq_ok hNew
    obtain rfl := Except.ok.inj hSelf
    exact ⟨lawful_nil, rfl, fun _ _ => ⟨rfl, nofun, by simp⟩⟩
  have hCall : ∀ (history : List (Seen κ)) wrapper,
      Disciplined config filter history wrapper ∧ Timed config history wrapper →
      Upholds
        (fun history wrapper =>
          Disciplined config filter history wrapper ∧ Timed config history wrapper)
        (fun history => Lawful (Permitted config filter) history ∧
          Lawful (OnSchedule config) history)
        (history ++ [.called]) (next wrapper) := by
    rintro history wrapper ⟨hDisciplined, hTimed⟩
    exact (upholds_next hAttempts hDisciplined).and
      (upholds_backoff hAttempts hDisciplined hTimed)
  have hBoth := hTraced.of_upholds ⟨hDisciplined, hTimed⟩
    (fun _ _ h => ⟨h.1.lawful, h.2.lawful⟩) hCall
  exact hBoth.2

/-- In an outage each sleep is at least as long as the ones before it. -/
theorem rising_of_lawful {before outage : List (Seen κ)}
    (hLawful : Lawful (OnSchedule config) (before ++ outage)) (hKept : .dropped ∉ before ++ outage)
    (hOutage : ∀ x ∈ outage, isConnected x = false) :
    (outage.filterMap sleep?).Pairwise fun earlier later => earlier.nanos ≤ later.nanos := by
  induction outage using List.reverseRecOn with
  | nil => exact List.Pairwise.nil
  | append_singleton outage x ih =>
    rw [← List.append_assoc] at hLawful hKept
    obtain ⟨hFront, hLast⟩ := lawful_concat.mp hLawful
    have hOutage' : ∀ y ∈ outage, isConnected y = false := fun y hy =>
      hOutage y (List.mem_append_left _ hy)
    have hRising := ih hFront (not_dropped hKept) hOutage'
    rw [List.filterMap_append, filterMap_singleton]
    -- a sleep is compared with all since the outage began, when it begins
    cases hSleep : sleep? x with
    | none =>
      rw [Option.toList_none, List.append_nil]
      exact hRising
    | some duration =>
      obtain rfl := eq_of_sleep hSleep
      refine List.pairwise_append.mpr ⟨hRising, List.pairwise_singleton _ _, ?_⟩
      intro earlier hEarlier later hLater
      obtain rfl := List.mem_singleton.mp hLater
      refine hLast.2 (not_dropped hKept) earlier ?_
      rw [sleepsSince_append hOutage']
      exact List.mem_append_right _ hEarlier

/-- Between two subscriptions there is the sleep of the attempt. -/
theorem Rested.between {attempt : Nat} {before between : List (Seen κ)}
    {request : Proto.SubscribeResolvedTransactionsRequest}
    (h : Rested config attempt (before ++ .awaits (.subscribe request) :: between))
    (hBetween : ∀ x ∈ between, isSubscribe x = false) :
    between.filterMap sleep? = [delay config attempt] ∧
      between.getLast? = some (.resolved (.sleep (delay config attempt)) ()) := by
  rcases h.pause with ⟨hNever, -⟩ | ⟨-, hSleeps, hLast⟩
  · -- the first subscription of the two rules out the first case
    have hFalse := hNever (.awaits (.subscribe request))
      (List.mem_append_right _ (List.mem_cons_self ..))
    cases hFalse
  · constructor
    · have hSplit : before ++ .awaits (.subscribe request) :: between =
          before ++ [.awaits (.subscribe request)] ++ between := by
        rw [List.append_assoc, List.singleton_append]
      rw [← hSleeps, hSplit, sleepsSince_append hBetween, sleepsSince_mark rfl, List.nil_append]
    · rw [List.getLast?_append, List.getLast?_cons] at hLast
      cases hEmpty : between.getLast? with
      | none =>
        rw [hEmpty] at hLast
        cases hLast
      | some last =>
        rw [hEmpty] at hLast
        exact hLast

/-- What the law says entry by entry, in terms of pairs of subscriptions. -/
theorem backoffSchedule_of_lawful (hNew : ReconnectingStream.new filter config = .ok self)
    (hLawful : Lawful (OnSchedule config) history) (hKept : .dropped ∉ history) :
    BackoffSchedule config (doubledU32 config) history := by
  have hDelays : config.initialDelay.nanos ≤ config.maximumDelay.nanos := by
    obtain ⟨hValid, -⟩ := guard_eq_ok hNew
    exact not_lt.mp fun hLess => hValid (Or.inr (Or.inl hLess))
  refine ⟨?_, ?_, ?_, ?_⟩
  · intro before request after hEq hNever
    have hRested : Rested config (ledger before).failures before := by
      refine hLawful before _ after hEq fun hMem => hKept ?_
      rw [hEq]
      exact List.mem_append_left _ hMem
    have hSleeps : sleepsSince isSubscribe ([] ++ before) = before.filterMap sleep? :=
      (sleepsSince_append hNever).trans (List.nil_append _)
    rcases hRested.pause with ⟨-, hNone⟩ | ⟨⟨x, hx, hSubscribe⟩, -⟩
    · exact hSleeps.symm.trans hNone
    · rw [hNever x hx] at hSubscribe
      cases hSubscribe
  · intro before request between request' after hEq hBetween
    have hRested := hLawful _ _ after hEq fun hMem => hKept (by
      rw [hEq]
      exact List.mem_append_left _ hMem)
    obtain ⟨hSleeps, hLast⟩ := hRested.between hBetween
    exact ⟨_, hSleeps, hLast, nanos_delay⟩
  · intro before outage after hEq hOutage
    rw [hEq] at hLawful hKept
    exact rising_of_lawful (lawful_of_append hLawful)
      (fun hMem => hKept (List.mem_append_left _ hMem)) hOutage
  · intro duration hMem
    obtain ⟨before, after, hEq⟩ := List.append_of_mem hMem
    obtain ⟨rfl, -⟩ := hLawful before _ after hEq
    rw [nanos_delay]
    exact ⟨le_doubledU32 hDelays, doubledU32_le⟩

/-- A schedule is looked at where a subscription is called. -/
theorem BackoffSchedule.congr {schedule schedule' : Nat → Nat}
    (h : BackoffSchedule config schedule history)
    (hSame : ∀ before request after, history = before ++ .awaits (.subscribe request) :: after →
      schedule (ledger before).failures = schedule' (ledger before).failures) :
    BackoffSchedule config schedule' history where
  first := h.first
  between := by
    intro before request between request' after hEq hBetween
    obtain ⟨duration, hSleeps, hLast, hNanos⟩ :=
      h.between before request between request' after hEq hBetween
    exact ⟨duration, hSleeps, hLast, hNanos.trans (hSame _ _ _ hEq)⟩
  rising := h.rising
  bounded := h.bounded

/-- Where something is awaited an attempt is left. -/
theorem failures_lt (hNew : ReconnectingStream.new filter config = .ok self)
    {caller : Caller (Wait κ) Wait.Answer (ReconnectingStream κ)
      (Option (Except Error FastpathEvent))}
    (hTraced : Traced next self history caller) {before after : List (Seen κ)} {op : Wait κ}
    (hEq : history = before ++ .awaits op :: after) :
    (ledger before).failures < config.maximumAttempts.toNat := by
  obtain ⟨hPermitted, hAllotted⟩ := lawful_attempts hNew hTraced
  have hOpen : (ledger before).failed = false := hPermitted before _ after hEq
  rcases hAllotted before _ after hEq with hFailed | ⟨error, hError⟩ | ⟨hLeft, -⟩
  · exact absurd (hOpen.symm.trans hFailed) Bool.false_ne_true
  · cases hError
  · exact hLeft

/-- What is seen from one subscription to the next, if the first one times out. -/
def timedOut (self : ReconnectingStream κ) (attempt : Nat) : List (Seen κ) :=
  [.resolved (.subscribe self.filter.intoRequest) none,
    .awaits (.sleep (delay self.config (attempt + 1))),
    .resolved (.sleep (delay self.config (attempt + 1))) ()]

/-- A call that waits for the given attempt, all before it having timed out. -/
structure FailingRun (start wrapper : ReconnectingStream κ) (attempt remaining : Nat)
    (front : List (Seen κ)) : Prop where
  traced : Traced next start (front ++ [.awaits (.subscribe wrapper.filter.intoRequest)])
    (.waiting wrapper (.subscribe wrapper.filter.intoRequest)
      (answered attempt (connect (attempt + 1) remaining wrapper) wrapper))
  failures : (ledger front).failures = attempt
  kept : .dropped ∉ front

namespace FailingRun

variable {start : ReconnectingStream κ} {attempt remaining : Nat} {front : List (Seen κ)}

/-- Waiting for an answer is no drop. -/
theorem kept_asks (h : FailingRun start self attempt remaining front) :
    .dropped ∉ front ++ [.awaits (.subscribe self.filter.intoRequest)] := by
  intro hMem
  rcases List.mem_append.mp hMem with hDropped | hAwaits
  · exact h.kept hDropped
  · cases List.mem_singleton.mp hAwaits

/-- One more attempt times out. -/
theorem more (h : FailingRun start self attempt (remaining + 1) front)
    (hCount : attempt + 1 ≠ self.config.maximumAttempts.toNat) :
    FailingRun start self (attempt + 1) remaining
      (front ++ [.awaits (.subscribe self.filter.intoRequest)] ++ timedOut self attempt) := by
  have hRefused := h.traced.resolve none
  rw [ReconnectingStream.answered_none hCount, ReconnectingStream.connect_succ,
    if_pos (Or.inr (Nat.succ_pos attempt))] at hRefused
  have hSlept := hRefused.resolve ()
  rw [ReconnectingStream.subscribeOnce_apply] at hSlept
  -- the entries of a failure and of the sleep behind it
  have hFront : front ++ [.awaits (.subscribe self.filter.intoRequest)] ++ timedOut self attempt =
      self.asked front none ++ [.awaits (.sleep (delay self.config (attempt + 1)))] ++
        [.resolved (.sleep (delay self.config (attempt + 1))) ()] := by
    simp [ReconnectingStream.asked, timedOut]
  rw [hFront]
  refine ⟨hSlept, ?_, ?_⟩
  · rw [ledger_concat, ledger_concat]
    show (ledger (self.asked front none)).failures = _
    rw [failures_asked nofun, h.failures]
  · have hKept := h.kept
    simp [ReconnectingStream.asked, hKept]

/-- As many attempts can time out as there are. -/
theorem exists_front (hNew : ReconnectingStream.new filter config = .ok self)
    (hCount : attempt + remaining + 1 = config.maximumAttempts.toNat) :
    ∃ front, FailingRun self self attempt remaining front := by
  obtain ⟨-, hSelf⟩ := guard_eq_ok hNew
  obtain rfl := Except.ok.inj hSelf
  induction attempt generalizing remaining with
  | zero =>
    have hAttempts : config.maximumAttempts.toNat = remaining + 1 := by omega
    refine ⟨[.called], ?_, rfl, by simp⟩
    have hCalled := (Traced.start : Traced next _ [] (.idle
      (⟨filter, config, none, 0, false⟩ : ReconnectingStream κ))).call
    rw [ReconnectingStream.next_first rfl rfl rfl hAttempts] at hCalled
    exact hCalled
  | succ attempt ih =>
    have hLeft : attempt + (remaining + 1) + 1 = config.maximumAttempts.toNat := by omega
    obtain ⟨front, h⟩ := ih hLeft
    exact ⟨_, h.more (by show attempt + 1 ≠ config.maximumAttempts.toNat; omega)⟩

end FailingRun

/-- With 33 attempts, and a maximum out of reach of a `u32`, the sleep behind the
32nd failure is too short. -/
theorem not_doubled (hNew : ReconnectingStream.new filter config = .ok self)
    (hMany : 32 < config.maximumAttempts.toNat)
    (hFar : config.initialDelay.nanos * (2 ^ 32 - 1) < config.maximumDelay.nanos) :
    ∃ (history : List (Seen κ)) (caller : _), Traced next self history caller ∧
      .dropped ∉ history ∧ ¬ BackoffSchedule config (doubled config) history := by
  obtain ⟨hPositive, hConfig⟩ : 0 < config.initialDelay.nanos ∧ self.config = config := by
    obtain ⟨hValid, hSelf⟩ := guard_eq_ok hNew
    obtain rfl := Except.ok.inj hSelf
    exact ⟨Nat.pos_of_ne_zero fun hZero => hValid (Or.inl (beq_iff_eq.mpr hZero)), rfl⟩
  obtain ⟨remaining, hRemaining⟩ := Nat.exists_eq_add_of_lt hMany
  have hCount : 31 + (remaining + 1) + 1 = config.maximumAttempts.toNat := by omega
  obtain ⟨front, hRun⟩ := FailingRun.exists_front hNew hCount
  have hMore := hRun.more (by rw [hConfig]; omega)
  refine ⟨_, _, hMore.traced, hMore.kept_asks, fun hSchedule => ?_⟩
  -- between the last two subscriptions there is the sleep behind the 32nd failure
  have hSplit : front ++ .awaits (.subscribe self.filter.intoRequest) :: timedOut self 31 =
      front ++ [.awaits (.subscribe self.filter.intoRequest)] ++ timedOut self 31 := by
    rw [List.append_assoc, List.singleton_append]
  obtain ⟨duration, hSleeps, -, hNanos⟩ := hSchedule.between front
    self.filter.intoRequest (timedOut self 31) self.filter.intoRequest [] (by rw [hSplit])
    (by simp [timedOut, isSubscribe])
  have hDuration : [delay self.config 32] = [duration] := hSleeps
  rw [hSplit, hMore.failures, ← (List.cons.inj hDuration).1, nanos_delay, hConfig] at hNanos
  have hFactor : min (2 ^ 32) (2 ^ 32 - 1) = 2 ^ 32 - 1 := rfl
  unfold doubledU32 doubled at hNanos
  rw [hFactor] at hNanos
  omega

/-- **The backoff schedule.** Between two subscriptions there is one sleep, and in
every history without a dropped call

* it lasts the initial delay times the smaller of `2 ^ a` and `2 ^ 32 - 1`, up to
  the maximum, behind `a` failures in the call;
* it lasts the initial delay times `2 ^ a`, up to the maximum, exactly for the
  configurations with at most 32 attempts or a maximum that the largest `u32`
  reaches. -/
theorem backoff_schedule (hNew : ReconnectingStream.new filter config = .ok self) :
    (∀ (history : List (Seen κ)) caller, Traced next self history caller →
      .dropped ∉ history → BackoffSchedule config (doubledU32 config) history) ∧
    ((∀ (history : List (Seen κ)) caller, Traced next self history caller →
      .dropped ∉ history → BackoffSchedule config (doubled config) history) ↔
        config.maximumAttempts.toNat ≤ 32 ∨
          config.maximumDelay.nanos ≤ config.initialDelay.nanos * (2 ^ 32 - 1)) := by
  have hSchedule : ∀ (history : List (Seen κ)) caller, Traced next self history caller →
      .dropped ∉ history → BackoffSchedule config (doubledU32 config) history :=
    fun history caller hTraced => backoffSchedule_of_lawful hNew (lawful_backoff hNew hTraced)
  refine ⟨hSchedule, ?_, ?_⟩
  · intro hAlways
    by_contra hNeither
    rw [not_or, not_le, not_le] at hNeither
    obtain ⟨history, caller, hTraced, hKept, hNot⟩ := not_doubled hNew hNeither.1 hNeither.2
    exact hNot (hAlways history caller hTraced hKept)
  · intro hReach history caller hTraced hKept
    refine (hSchedule history caller hTraced hKept).congr fun before request after hEq => ?_
    have hLess := failures_lt hNew hTraced hEq
    exact doubledU32_eq (hReach.imp_left fun hFew => Nat.lt_of_lt_of_le hLess hFew)

end Histories

/-- Two subscriptions with the default configuration, half a second apart. -/
theorem backoff_schedule_sample : ∃ (history : List (Seen Unit)) (caller : _),
    Traced next sampleWrapper history caller ∧
      .awaits (.sleep (.ofMillis 500)) ∈ history ∧
      BackoffSchedule .default (doubled .default) history := by
  have hNew : ReconnectingStream.new .matchAll .default = .ok sampleWrapper := rfl
  obtain ⟨front, hRun⟩ : ∃ front, FailingRun sampleWrapper sampleWrapper 0 (3 + 1) front :=
    FailingRun.exists_front hNew rfl
  have hMore := hRun.more (by decide)
  obtain ⟨-, hDoubles⟩ := backoff_schedule hNew
  refine ⟨_, _, hMore.traced, ?_,
    hDoubles.mpr (Or.inl (by decide)) _ _ hMore.traced hMore.kept_asks⟩
  have hSleep : delay sampleWrapper.config (0 + 1) = .ofMillis 500 := by decide
  simp [timedOut, hSleep]

/-- Thirty-four attempts, from one nanosecond up to ten seconds. -/
def patientConfig : ReconnectConfig where
  initialDelay := ⟨1, by decide⟩
  maximumDelay := .ofMillis 10000
  maximumAttempts := 34

/-- **A sleep that is too short**: behind 32 failures it lasts `2 ^ 32 - 1` nanoseconds,
not `2 ^ 32`, in a history without a dropped call. -/
theorem backoff_schedule_saturated :
    (delay patientConfig 32).nanos = 4294967295 ∧ doubled patientConfig 32 = 4294967296 ∧
    ∃ (self : ReconnectingStream Unit) (history : List (Seen Unit)) (caller : _),
      ReconnectingStream.new .matchAll patientConfig = .ok self ∧
      Traced next self history caller ∧ .dropped ∉ history ∧
      ¬ BackoffSchedule patientConfig (doubled patientConfig) history := by
  refine ⟨by decide, by decide, ?_⟩
  have hNew : ReconnectingStream.new .matchAll patientConfig =
      .ok (⟨.matchAll, patientConfig, none, 0, false⟩ : ReconnectingStream Unit) := rfl
  obtain ⟨history, caller, hTraced, hKept, hNot⟩ := not_doubled hNew (by decide) (by decide)
  exact ⟨_, history, caller, hNew, hTraced, hKept, hNot⟩

end TxStream
