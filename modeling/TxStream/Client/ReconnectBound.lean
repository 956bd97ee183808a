import TxStream.Client.ReconnectTrace

/-!
# How often a subscription may fail

The loop of `ReconnectingStream::next` counts its attempts in a local variable,
so the count is lost with a future that the caller drops. `streak` counts over
the whole history instead: the subscriptions that failed since the last one that
succeeded.

* `upholds_attempts` — a call fails at most as often as the configuration
  allows, and the last time it emits the error.
* `attempts_unbounded` — a caller that drops every call in its backoff can let
  subscriptions fail for ever, if a configuration allows two attempts.
* `attempts_bounded` — otherwise the bound holds over all calls together.
-/

namespace TxStream

open Wire Rust
open ReconnectingStream (Pending connect subscribeOnce refused answered received next)

variable {κ : Type}

-- ---------------------------------------------------------------------------
-- Consecutive failures
-- ---------------------------------------------------------------------------

/-- One more subscription has failed, or one has succeeded. -/
def countFailure (failures : Nat) : Seen κ → Nat
  | .resolved (.subscribe _) (some (.ok _)) => 0
  | .resolved (.subscribe _) _ => failures + 1
  | _ => failures

/-- The subscriptions that failed since the last one that succeeded, over however
many calls. -/
def streak (history : List (Seen κ)) : Nat := history.foldl countFailure 0

/-- The streak is kept entry by entry. -/
theorem streak_concat (history : List (Seen κ)) (x : Seen κ) :
    streak (history ++ [x]) = countFailure (streak history) x := by
  unfold streak
  rw [List.foldl_append]
  rfl

/-- A subscription that failed makes it longer. -/
theorem streak_asked {self : ReconnectingStream κ} {history : List (Seen κ)}
    {answer : Option (Except Code κ)} (h : ∀ stream, answer ≠ some (.ok stream)) :
    streak (self.asked history answer) = streak history + 1 := by
  unfold ReconnectingStream.asked
  rw [streak_concat, streak_concat]
  match answer, h with
  | none, _ => rfl
  | some (.error _), _ => rfl
  | some (.ok stream), h => exact absurd rfl (h stream)

/-- No call is dropped after a subscription has failed in it. -/
def CountKept (history : List (Seen κ)) : Prop :=
  Lawful (fun before x => x = .dropped → (ledger before).failures = 0) history

/-- What is asked of the attempts. -/
structure AttemptsBounded (config : ReconnectConfig) (history : List (Seen κ)) : Prop where
  /-- No more subscriptions fail in a row than there are attempts. -/
  streak_le : ∀ before after, history = before ++ after →
    streak before ≤ config.maximumAttempts.toNat
  /-- Behind the last one comes the error. -/
  exhausted : ∀ before x after, history = before ++ x :: after →
    streak before = config.maximumAttempts.toNat →
    (∀ error, .returned (some (.error error)) ∉ before) →
    ∃ error, x = .returned (some (.error error))
  /-- Behind the error there is no subscription. -/
  silent : ∀ before error after, history = before ++ .returned (some (.error error)) :: after →
    ∀ request, .awaits (.subscribe request) ∉ after

/-- Until the error is emitted an attempt is left, and nothing else is seen. -/
def Allotted (config : ReconnectConfig) (before : List (Seen κ)) (x : Seen κ) : Prop :=
  (ledger before).failed = true
    ∨ (∃ error, x = .returned (some (.error error)))
    ∨ ((ledger before).failures < config.maximumAttempts.toNat
      ∧ (CountKept before → streak before < config.maximumAttempts.toNat))

section Attempts

variable {config : ReconnectConfig} {filter : ResolvedFilter} {history : List (Seen κ)}
  {self : ReconnectingStream κ} {attempt : Nat}

/-- Between calls, and wherever a future can be dropped: no failure is pending. -/
structure Settled (config : ReconnectConfig) (history : List (Seen κ))
    (wrapper : ReconnectingStream κ) : Prop where
  lawful : Lawful (Allotted config) history
  config_eq : wrapper.config = config
  failures : wrapper.terminal = false →
    (ledger history).failures < config.maximumAttempts.toNat
  streak_eq : wrapper.terminal = false → CountKept history → streak history = 0

/-- Inside a call, in front of the given attempt. -/
structure Attempting (config : ReconnectConfig) (attempt : Nat) (history : List (Seen κ))
    (wrapper : ReconnectingStream κ) : Prop where
  lawful : Lawful (Allotted config) history
  config_eq : wrapper.config = config
  failures : (ledger history).failures = attempt
  streak_eq : CountKept history → streak history = attempt
  left : attempt < config.maximumAttempts.toNat

namespace Settled

/-- A call returns without a failure that a later call would have to count. -/
theorem returned (hLawful : Lawful (Allotted config) history) (hConfig : self.config = config)
    (hFailures : (ledger history).failures < config.maximumAttempts.toNat)
    (hStreak : CountKept history → streak history = 0)
    (event : Option (Except Error FastpathEvent)) :
    Settled config (history ++ [.returned event]) self := by
  have hSame : (ledger (history ++ [.returned event])).failures = (ledger history).failures := by
    rw [ledger_concat]
    match event with
    | none => rfl
    | some (.error _) => rfl
    | some (.ok (.streamReset _)) => rfl
    | some (.ok (.transaction _)) => rfl
  refine ⟨lawful_concat.mpr ⟨hLawful, Or.inr (Or.inr ⟨hFailures, ?_⟩)⟩, hConfig, ?_, ?_⟩
  · intro hKept
    rw [hStreak hKept]
    omega
  · intro _
    rw [hSame]
    exact hFailures
  · intro _ hKept
    rw [streak_concat]
    exact hStreak (lawful_concat.mp hKept).1

/-- Behind an error nothing is asked any more. -/
theorem error (hLawful : Lawful (Allotted config) history) (hConfig : self.config = config)
    (error : Error) (stream : Option (FastpathStream κ)) :
    Settled config (history ++ [.returned (some (.error error))])
      { self with stream, terminal := true } where
  lawful := lawful_concat.mpr ⟨hLawful, Or.inr (Or.inl ⟨error, rfl⟩)⟩
  config_eq := hConfig
  failures := by
    intro hTerminal
    cases hTerminal
  streak_eq := by
    intro hTerminal
    cases hTerminal

end Settled

namespace Attempting

/-- Whatever is seen, an attempt is left in front of it. -/
theorem allotted (h : Attempting config attempt history self) (x : Seen κ) :
    Lawful (Allotted config) (history ++ [x]) := by
  refine lawful_concat.mpr ⟨h.lawful, Or.inr (Or.inr ⟨?_, ?_⟩)⟩
  · rw [h.failures]
    exact h.left
  · intro hKept
    rw [h.streak_eq hKept]
    exact h.left

/-- What is no call and no answer to a subscription is not counted. -/
theorem uncounted (h : Attempting config attempt history self) {x : Seen κ}
    (hLedger : ∀ ledger : Ledger κ, (ledger.record x).failures = ledger.failures)
    (hStreak : ∀ failures, countFailure failures x = failures) :
    Attempting config attempt (history ++ [x]) self where
  lawful := h.allotted x
  config_eq := h.config_eq
  failures := by
    rw [ledger_concat, hLedger]
    exact h.failures
  streak_eq := by
    intro hKept
    rw [streak_concat, hStreak]
    exact h.streak_eq (lawful_concat.mp hKept).1
  left := h.left

/-- An await is not counted. -/
theorem awaits (h : Attempting config attempt history self) (op : Wait κ) :
    Attempting config attempt (history ++ [.awaits op]) self :=
  h.uncounted (fun _ => rfl) (fun _ => rfl)

/-- A call can be dropped at an operation: either nothing has failed in it, or
the drop is one that loses a count. -/
theorem waits (h : Attempting config attempt history self) (op : Wait κ) :
    Lawful (Allotted config) (history ++ [.awaits op]) ∧
      Settled config (history ++ [.awaits op] ++ [.dropped]) self := by
  have hAwaits := h.awaits op
  refine ⟨hAwaits.lawful, hAwaits.allotted _, h.config_eq, ?_, ?_⟩
  · intro _
    rw [ledger_concat]
    show (ledger (history ++ [.awaits op])).failures < _
    rw [hAwaits.failures]
    exact h.left
  · intro _ hKept
    obtain ⟨hKept, hZero⟩ := lawful_concat.mp hKept
    rw [streak_concat]
    show streak (history ++ [.awaits op]) = 0
    rw [hAwaits.streak_eq hKept, ← hAwaits.failures]
    exact hZero rfl

/-- Behind a subscription that succeeded nothing is in a row any more. -/
theorem attached (h : Attempting config attempt history self) (stream : κ) :
    Lawful (Allotted config) (self.asked history (some (.ok stream))) ∧
      (ledger (self.asked history (some (.ok stream)))).failures < config.maximumAttempts.toNat ∧
      streak (self.asked history (some (.ok stream))) = 0 := by
  have hAwaits := h.awaits (.subscribe self.filter.intoRequest)
  refine ⟨hAwaits.allotted _, ?_, ?_⟩
  · unfold ReconnectingStream.asked
    rw [ledger_concat]
    show (ledger (history ++ [.awaits (.subscribe self.filter.intoRequest)])).failures < _
    rw [hAwaits.failures]
    exact h.left
  · unfold ReconnectingStream.asked
    rw [streak_concat]
    rfl

end Attempting

/-- **The loop** uses up the attempts that are left. -/
theorem attempts_loop : LoopRule self (Settled config) (Lawful (Allotted config))
    fun attempt history => Attempting config attempt history self where
  waits := by
    intro attempt history op h
    exact h.waits op
  slept := by
    intro attempt history duration h
    exact (h.awaits _).uncounted (fun _ => rfl) (fun _ => rfl)
  again := by
    intro attempt history answer h hAnswer hAgain
    -- the attempt was not the last one, so another is left
    have hLeft := h.left
    rw [h.config_eq] at hAgain
    refine ⟨(h.awaits _).allotted _, h.config_eq, ?_, ?_, by omega⟩
    · rw [failures_asked hAnswer, h.failures]
    · intro hKept
      obtain ⟨hKept, -⟩ := lawful_concat.mp hKept
      rw [streak_asked hAnswer, h.streak_eq (lawful_concat.mp hKept).1]
  gaveUp := by
    intro attempt history answer h _ error _
    exact Settled.error ((h.awaits _).allotted _) h.config_eq error self.stream
  attached := by
    intro attempt history stream attachment h _
    obtain ⟨hLawful, hFailures, hStreak⟩ := h.attached stream
    refine Settled.returned hLawful ?_ hFailures (fun _ => hStreak) _
    exact h.config_eq
  overflowed := by
    intro attempt history stream h _
    obtain ⟨hLawful, hFailures, hStreak⟩ := h.attached stream
    refine lawful_concat.mpr ⟨hLawful, Or.inr (Or.inr ⟨hFailures, ?_⟩)⟩
    intro _
    rw [hStreak]
    exact Nat.zero_lt_of_lt hFailures

/-- Behind a message nothing has failed yet. -/
theorem upholds_received_attempts {stream : FastpathStream κ}
    {outcome : Message Proto.ResolvedTransactionFrame} (h : Attempting config 0 history self) :
    Upholds (Settled config) (Lawful (Allotted config)) history (received self stream outcome) := by
  unfold received
  cases Attachment.receive FastpathStream.validate outcome stream.validator with
  | ok tx validator =>
    show Settled config (_ ++ [.returned _]) _
    refine Settled.returned h.lawful ?_ ?_ h.streak_eq _
    · exact h.config_eq
    · rw [h.failures]
      exact h.left
  | error fault validator =>
    cases fault with
    | panic => exact h.allotted _
    | err error =>
      dsimp only
      split
      · exact Settled.error h.lawful h.config_eq error _
      · -- the attachment is given up: the loop starts over
        have hWithout : Attempting config 0 history { self with stream := none } :=
          ⟨h.lawful, h.config_eq, h.failures, h.streak_eq, h.left⟩
        have hAttempts := h.left
        rw [← h.config_eq] at hAttempts
        exact attempts_loop.upholds_start hWithout hAttempts

/-- **A call fails at most as often as it is allowed to**, wherever it is dropped. -/
theorem upholds_attempts (hAttempts : 0 < config.maximumAttempts.toNat)
    (hDisciplined : Disciplined config filter history self) (h : Settled config history self) :
    Upholds (Settled config) (Lawful (Allotted config)) (history ++ [.called]) (next self) := by
  cases hTerminal : self.terminal with
  | true =>
    -- a terminal wrapper has emitted its error, and nothing is asked of it
    have hFailed : (ledger history).failed = true := hDisciplined.terminal.symm.trans hTerminal
    have hCalled : Lawful (Allotted config) (history ++ [.called]) :=
      lawful_concat.mpr ⟨h.lawful, Or.inl hFailed⟩
    have hReturned : Lawful (Allotted config) (history ++ [.called] ++ [.returned none]) := by
      refine lawful_concat.mpr ⟨hCalled, Or.inl ?_⟩
      rw [ledger_concat]
      exact hFailed
    rw [ReconnectingStream.next_terminal hTerminal]
    refine ⟨hReturned, h.config_eq, ?_, ?_⟩
    · intro hOpen
      exact absurd (hOpen.symm.trans hTerminal) Bool.false_ne_true
    · intro hOpen
      exact absurd (hOpen.symm.trans hTerminal) Bool.false_ne_true
  | false =>
    have hStart : Attempting config 0 (history ++ [.called]) self := by
      refine ⟨lawful_concat.mpr ⟨h.lawful, Or.inr (Or.inr ⟨h.failures hTerminal, ?_⟩)⟩,
        h.config_eq, ?_, ?_, hAttempts⟩
      · intro hKept
        rw [h.streak_eq hTerminal hKept]
        exact hAttempts
      · rw [ledger_concat]
        rfl
      · intro hKept
        rw [streak_concat]
        exact h.streak_eq hTerminal (lawful_concat.mp hKept).1
    cases hStream : self.stream with
    | none =>
      rw [ReconnectingStream.next_connect hTerminal hStream]
      rw [← h.config_eq] at hAttempts
      exact attempts_loop.upholds_start hStart hAttempts
    | some stream =>
      obtain ⟨hLive, -⟩ := hDisciplined.stream hTerminal stream hStream
      rw [ReconnectingStream.next_message hTerminal hStream hLive]
      obtain ⟨hAwaits, hDropped⟩ := hStart.waits (.message stream.stream)
      refine ⟨hAwaits, hDropped, fun outcome => upholds_received_attempts ?_⟩
      exact (hStart.awaits _).uncounted (fun _ => rfl) (fun _ => rfl)

end Attempts

-- ---------------------------------------------------------------------------
-- Every history
-- ---------------------------------------------------------------------------

section Histories

variable {config : ReconnectConfig} {filter : ResolvedFilter} {history : List (Seen κ)}
  {self : ReconnectingStream κ}

/-- Every history keeps both laws, since every call does. -/
theorem lawful_attempts (hNew : ReconnectingStream.new filter config = .ok self)
    {caller : Caller (Wait κ) Wait.Answer (ReconnectingStream κ)
      (Option (Except Error FastpathEvent))}
    (hTraced : Traced next self history caller) :
    Lawful (Permitted config filter) history ∧ Lawful (Allotted config) history := by
  obtain ⟨hAttempts, hDisciplined⟩ := disciplined_new hNew
  have hSettled : Settled config ([] : List (Seen κ)) self :=
    ⟨lawful_nil, hDisciplined.config_eq, fun _ => hAttempts, fun _ _ => rfl⟩
  have hCall : ∀ (history : List (Seen κ)) wrapper,
      Disciplined config filter history wrapper ∧ Settled config history wrapper →
      Upholds
        (fun history wrapper =>
          Disciplined config filter history wrapper ∧ Settled config history wrapper)
        (fun history => Lawful (Permitted config filter) history ∧ Lawful (Allotted config) history)
        (history ++ [.called]) (next wrapper) := by
    rintro history wrapper ⟨hDisciplined, hSettled⟩
    exact (upholds_next hAttempts hDisciplined).and
      (upholds_attempts hAttempts hDisciplined hSettled)
  have hBoth := hTraced.of_upholds ⟨hDisciplined, hSettled⟩
    (fun _ _ h => ⟨h.1.lawful, h.2.lawful⟩) hCall
  exact hBoth

/-- One entry adds at most one failure. -/
theorem countFailure_le (failures : Nat) (x : Seen κ) : countFailure failures x ≤ failures + 1 := by
  unfold countFailure
  split <;> omega

/-- Failures add up to the attempts of a call at most. -/
theorem streak_le_of_lawful (hPermitted : Lawful (Permitted config filter) history)
    (hAllotted : Lawful (Allotted config) history) (hKept : CountKept history) :
    streak history ≤ config.maximumAttempts.toNat := by
  induction history using List.reverseRecOn with
  | nil => exact Nat.zero_le _
  | append_singleton front x ih =>
    obtain ⟨hPermitted, hx⟩ := lawful_concat.mp hPermitted
    obtain ⟨hAllotted, hLeft⟩ := lawful_concat.mp hAllotted
    obtain ⟨hKept, -⟩ := lawful_concat.mp hKept
    have hFront := ih hPermitted hAllotted hKept
    rw [streak_concat]
    rcases hLeft with hFailed | ⟨error, rfl⟩ | ⟨-, hStreak⟩
    · rcases permitted_failed hFailed hx with rfl | rfl
      · exact hFront
      · exact hFront
    · exact hFront
    · -- in front of the entry an attempt was left
      have hMore := countFailure_le (streak front) x
      have hLess := hStreak hKept
      omega

/-- An error that is remembered was emitted. -/
theorem error_of_failed (h : (ledger history).failed = true) :
    ∃ error, .returned (some (.error error)) ∈ history := by
  induction history using List.reverseRecOn with
  | nil => cases h
  | append_singleton front x ih =>
    by_cases hError : ∃ error, x = .returned (some (.error error))
    · obtain ⟨error, rfl⟩ := hError
      exact ⟨error, List.mem_append_right _ (List.mem_singleton.mpr rfl)⟩
    · have hFront : (ledger front).failed = true := by
        rw [ledger_concat] at h
        unfold Ledger.record at h
        split at h
        all_goals first | exact h | exact absurd ⟨_, rfl⟩ hError
      obtain ⟨error, hMem⟩ := ih hFront
      exact ⟨error, List.mem_append_left _ hMem⟩

/-- With a single attempt there is no backoff to be dropped in. -/
theorem countKept_of_one (hOne : config.maximumAttempts = 1)
    (hPermitted : Lawful (Permitted config filter) history)
    (hAllotted : Lawful (Allotted config) history) : CountKept history := by
  intro before x after hEq hDropped
  subst hDropped
  have hOpen : (ledger before).failed = false := hPermitted before _ after hEq
  rcases hAllotted before _ after hEq with hFailed | ⟨error, hError⟩ | ⟨hLeft, -⟩
  · exact absurd (hOpen.symm.trans hFailed) Bool.false_ne_true
  · cases hError
  · rw [hOne] at hLeft
    exact Nat.lt_one_iff.mp hLeft

/-- What the law says entry by entry, in terms of whole histories. -/
theorem attemptsBounded_of_lawful (hPermitted : Lawful (Permitted config filter) history)
    (hAllotted : Lawful (Allotted config) history) (hKept : CountKept history) :
    AttemptsBounded config history where
  streak_le := by
    intro before after hEq
    rw [hEq] at hPermitted hAllotted hKept
    exact streak_le_of_lawful (lawful_of_append hPermitted) (lawful_of_append hAllotted)
      (lawful_of_append hKept)
  exhausted := by
    intro before x after hEq hStreak hNoError
    rcases hAllotted before x after hEq with hFailed | hError | ⟨-, hLeft⟩
    · obtain ⟨error, hMem⟩ := error_of_failed hFailed
      exact absurd hMem (hNoError error)
    · exact hError
    · rw [hEq] at hKept
      have hLess := hLeft (lawful_of_append hKept)
      omega
  silent := by
    intro before error after hEq request hMem
    rcases silent_after_error hPermitted hEq _ hMem with hCalled | hNone
    · cases hCalled
    · cases hNone

/-- A call whose first subscription fails, and that waits to repeat it. -/
theorem traced_refused {start : ReconnectingStream κ} {more : Nat}
    (h : Traced next start history (.idle self)) (hTerminal : self.terminal = false)
    (hStream : self.stream = none) (hAttachment : self.attachment = 0)
    (hAttempts : self.config.maximumAttempts.toNat = more + 1 + 1) :
    ∃ resume, Traced next start
      (history ++ [.called] ++ [.awaits (.subscribe self.filter.intoRequest)] ++
        [.resolved (.subscribe self.filter.intoRequest) none] ++
        [.awaits (.sleep (delay self.config 1))])
      (.waiting self (.sleep (delay self.config 1)) resume) := by
  have hCalled := h.call
  rw [ReconnectingStream.next_first hTerminal hStream hAttachment hAttempts] at hCalled
  have hRefused := hCalled.resolve none
  rw [ReconnectingStream.answered_none (by omega), ReconnectingStream.connect_succ,
    if_pos (Or.inr Nat.one_pos)] at hRefused
  exact ⟨_, hRefused⟩

/-- **Failures without an end.** The caller drops every call in the backoff behind
its first failure, and the next call starts to count from zero. -/
theorem attempts_unbounded (hNew : ReconnectingStream.new filter config = .ok self)
    (hMany : 1 < config.maximumAttempts.toNat) (n : Nat) :
    ∃ history : List (Seen κ), Traced next self history (.idle self) ∧ streak history = n ∧
      ∀ event, .returned event ∉ history := by
  obtain ⟨-, hSelf⟩ := guard_eq_ok hNew
  obtain rfl := Except.ok.inj hSelf
  obtain ⟨more, hMore⟩ := Nat.exists_eq_add_of_lt hMany
  have hAttempts : config.maximumAttempts.toNat = more + 1 + 1 := by omega
  induction n with
  | zero =>
    refine ⟨[], .start, rfl, ?_⟩
    intro event hMem
    cases hMem
  | succ n ih =>
    obtain ⟨history, hTraced, hStreak, hNothing⟩ := ih
    obtain ⟨resume, hRefused⟩ := traced_refused hTraced rfl rfl rfl hAttempts
    refine ⟨_, hRefused.drop, ?_, ?_⟩
    · rw [streak_concat, streak_concat, streak_concat, streak_concat, streak_concat, hStreak]
      rfl
    · intro event hMem
      simp [hNothing event] at hMem

/-- **Attempts are bounded unless a count is dropped.** Subscriptions that fail in
a row are at most as many as the configuration allows, and the last one is
followed by the error, in every history

* in which no call is dropped after a subscription has failed in it;
* at all, exactly for the configurations with a single attempt. -/
theorem attempts_bounded (hNew : ReconnectingStream.new filter config = .ok self) :
    (∀ (history : List (Seen κ)) caller, Traced next self history caller →
      CountKept history → AttemptsBounded config history) ∧
    ((∀ (history : List (Seen κ)) caller, Traced next self history caller →
      AttemptsBounded config history) ↔ config.maximumAttempts = 1) := by
  refine ⟨?_, ?_, ?_⟩
  · intro history caller hTraced hKept
    obtain ⟨hPermitted, hAllotted⟩ := lawful_attempts hNew hTraced
    exact attemptsBounded_of_lawful hPermitted hAllotted hKept
  · intro hAlways
    by_contra hSeveral
    obtain ⟨hAttempts, -⟩ := disciplined_new hNew
    have hOne : config.maximumAttempts.toNat ≠ 1 := fun hOne =>
      hSeveral (UInt32.toNat_inj.mp hOne)
    obtain ⟨history, hTraced, hStreak, -⟩ :=
      attempts_unbounded hNew (by omega) (config.maximumAttempts.toNat + 1)
    have hBound := (hAlways history _ hTraced).streak_le history [] (List.append_nil _).symm
    omega
  · intro hOne history caller hTraced
    obtain ⟨hPermitted, hAllotted⟩ := lawful_attempts hNew hTraced
    exact attemptsBounded_of_lawful hPermitted hAllotted
      (countKept_of_one hOne hPermitted hAllotted)

end Histories

/-- A first subscription that fails, and the call that waits to repeat it. -/
theorem attempts_bounded_sample : ∃ (history : List (Seen Unit)) (caller : _),
    Traced next sampleWrapper history caller ∧ streak history = 1 ∧
      AttemptsBounded .default history := by
  have hNew : ReconnectingStream.new .matchAll .default = .ok sampleWrapper := rfl
  obtain ⟨hBounded, -⟩ := attempts_bounded hNew
  have hAttempts : sampleWrapper.config.maximumAttempts.toNat = 3 + 1 + 1 := rfl
  obtain ⟨resume, hRefused⟩ := traced_refused .start rfl rfl rfl hAttempts
  refine ⟨_, _, hRefused, rfl, hBounded _ _ hRefused ?_⟩
  -- nothing was dropped
  intro before x after hEq hDropped
  have hMem : x ∈ before ++ x :: after := List.mem_append_right _ (List.mem_cons_self ..)
  rw [← hEq, hDropped] at hMem
  simp at hMem

/-- **Six failures where five are allowed**: six calls, each dropped in the backoff
behind a subscription that timed out. Nothing was returned to the caller. -/
theorem attempts_bounded_dropped : ∃ history : List (Seen Unit),
    Traced next sampleWrapper history (.idle sampleWrapper) ∧
      streak history = 6 ∧ ReconnectConfig.default.maximumAttempts = 5 ∧
      (∀ event, .returned event ∉ history) ∧ ¬ AttemptsBounded .default history := by
  have hNew : ReconnectingStream.new .matchAll .default = .ok sampleWrapper := rfl
  obtain ⟨history, hTraced, hStreak, hNothing⟩ := attempts_unbounded hNew (by decide) 6
  refine ⟨history, hTraced, hStreak, rfl, hNothing, ?_⟩
  intro hBounded
  have hBound := hBounded.streak_le history [] (List.append_nil _).symm
  rw [hStreak] at hBound
  exact absurd hBound (by decide)

end TxStream
