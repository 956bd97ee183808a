import TxStream.Client.ReconnectBackoff
import TxStream.Client.ReconnectMachine

/-!
# What one call may wait for

A caller that drops futures makes `next` start over, and over all its calls
together nothing is bounded. Within one call everything is: what it may wait for
is a list that the wrapper fixes before the call begins.

* `leads_begin`, `leads_respond` — a turn of the machine goes one step down that
  list, or ends the call.
* `exists_exhausted` — a call in which every attempt times out goes all the way.
* `call_bounded` — hence the answers that a call needs are bounded, and so is the
  time that it sleeps and subscribes.
-/

namespace TxStream

open Wire Rust
open ReconnectingStream (Step machine ask tryAttempt refuse)

variable {κ : Type}

namespace ReconnectingStream

/-- The message that is waited for first, if there is an attachment to receive from. -/
def receives (self : ReconnectingStream κ) : List (Wait κ) :=
  match self.stream with
  | none => []
  | some stream => if stream.failed then [] else [.message stream.stream]

/-- The timer in front of the attempt. -/
def pause (self : ReconnectingStream κ) (attempt : Nat) : List (Wait κ) :=
  if self.attachment > 0 ∨ attempt > 0 then [.sleep (delay self.config attempt)] else []

/-- What is waited for in one turn of the loop. -/
def turn (self : ReconnectingStream κ) (attempt : Nat) : List (Wait κ) :=
  self.pause attempt ++ [.subscribe self.filter.intoRequest]

/-- What is waited for in front of the given attempt. -/
def upTo (self : ReconnectingStream κ) (attempt : Nat) : List (Wait κ) :=
  self.receives ++ (List.range attempt).flatMap self.turn

/-- All that a call may wait for, in order. -/
def plan (self : ReconnectingStream κ) : List (Wait κ) :=
  if self.terminal then [] else self.upTo self.config.maximumAttempts.toNat

/-- How much of that a call has waited for by the time it is in the phase. -/
def reached (self : ReconnectingStream κ) : Phase κ → List (Wait κ)
  | .receiving stream => [.message stream.stream]
  | .backingOff attempt => self.upTo attempt ++ [.sleep (delay self.config attempt)]
  | .subscribing attempt => self.upTo attempt ++ self.turn attempt

/-- The phases of a call of the wrapper. -/
def InPlan (self : ReconnectingStream κ) : Phase κ → Prop
  | .receiving stream => self.receives = [.message stream.stream]
  | .backingOff attempt => attempt < self.config.maximumAttempts.toNat
      ∧ self.pause attempt = [.sleep (delay self.config attempt)]
  | .subscribing attempt => attempt < self.config.maximumAttempts.toNat

end ReconnectingStream

open ReconnectingStream (InPlan)

section Plan

variable {self wrapper : ReconnectingStream κ} {attempt : Nat}

/-- One more turn of the loop. -/
theorem upTo_succ (self : ReconnectingStream κ) (attempt : Nat) :
    self.upTo (attempt + 1) = self.upTo attempt ++ self.turn attempt := by
  rw [ReconnectingStream.upTo, List.range_succ, List.flatMap_append, List.flatMap_singleton,
    ← List.append_assoc]
  rfl

/-- Earlier attempts come first. -/
theorem upTo_isPrefix {attempts : Nat} (h : attempt ≤ attempts) :
    self.upTo attempt <+: self.upTo attempts := by
  induction attempts, h using Nat.le_induction with
  | base => exact List.prefix_rfl
  | succ attempts _ ih =>
    rw [upTo_succ]
    exact ih.trans (List.prefix_append ..)

/-- Every phase is on the way through the plan. -/
theorem reached_isPrefix (hTerminal : self.terminal = false) {phase : Phase κ}
    (h : InPlan self phase) : self.reached phase <+: self.plan := by
  rw [ReconnectingStream.plan, if_neg (by rw [hTerminal]; exact Bool.false_ne_true)]
  match phase, h with
  | .receiving stream, hReceives =>
    -- the message is all that comes in front of the attempts
    have hFirst : self.upTo 0 <+: self.upTo self.config.maximumAttempts.toNat :=
      upTo_isPrefix (Nat.zero_le _)
    have hUpTo : self.upTo 0 = [.message stream.stream] := by
      rw [ReconnectingStream.upTo, hReceives]
      rfl
    rw [hUpTo] at hFirst
    exact hFirst
  | .backingOff attempt, ⟨hLeft, hPause⟩ =>
    -- the timer is the first half of a turn
    refine List.IsPrefix.trans ?_ (upTo_isPrefix hLeft)
    rw [upTo_succ, ReconnectingStream.turn, hPause]
    exact ⟨[.subscribe self.filter.intoRequest], by simp [ReconnectingStream.reached]⟩
  | .subscribing attempt, hLeft =>
    rw [ReconnectingStream.reached, ← upTo_succ]
    exact upTo_isPrefix hLeft

/-- What a call that waits has left of the wrapper: nothing of it bears on the plan. -/
structure Continues (begun wrapper : ReconnectingStream κ) : Prop where
  terminal : begun.terminal = false
  filter : wrapper.filter = begun.filter
  config : wrapper.config = begun.config
  attachment : wrapper.attachment = begun.attachment

/-- The turn goes one step down the plan, if it does not end the call. -/
def Leads (self : ReconnectingStream κ) (asked : List (Wait κ)) : Step κ → Prop
  | .waits wrapper phase => Continues self wrapper ∧ InPlan self phase ∧
      self.reached phase = asked ++ [ask wrapper phase]
  | .returns _ _ => True
  | .panics _ => True

/-- Dropping the attachment does not change the plan, which was fixed before. -/
theorem Continues.withoutStream (h : Continues self wrapper) :
    Continues self { wrapper with stream := none } where
  terminal := h.terminal
  filter := h.filter
  config := h.config
  attachment := h.attachment

/-- An attempt begins with its timer, or with its subscription if it has none. -/
theorem leads_tryAttempt (h : Continues self wrapper) (attempt : Nat) :
    Leads self (self.upTo attempt) (tryAttempt wrapper attempt) := by
  unfold tryAttempt
  rw [h.config, h.attachment]
  split
  · rename_i hLeft
    split
    · rename_i hPause
      refine ⟨h, ⟨hLeft, if_pos hPause⟩, ?_⟩
      rw [ReconnectingStream.ask, h.config]
      rfl
    · rename_i hPause
      refine ⟨h, hLeft, ?_⟩
      rw [ReconnectingStream.ask, h.filter, ReconnectingStream.reached, ReconnectingStream.turn,
        ReconnectingStream.pause, if_neg hPause]
      rfl
  · exact trivial

/-- A call begins with the first entry of the plan. -/
theorem leads_begin (self : ReconnectingStream κ) : Leads self [] (machine.start self) := by
  show Leads self [] (ReconnectingStream.begin self)
  unfold ReconnectingStream.begin
  split
  · exact trivial
  · rename_i hTerminal
    have hSelf : Continues self self := ⟨Bool.not_eq_true _ ▸ hTerminal, rfl, rfl, rfl⟩
    split
    · rename_i hStream
      -- no attachment: nothing comes in front of the attempts
      have hFirst := leads_tryAttempt hSelf 0
      rw [ReconnectingStream.upTo, ReconnectingStream.receives, hStream] at hFirst
      exact hFirst
    · rename_i stream hStream
      split
      · rename_i hFailed
        -- an attachment that has failed is not asked again
        have hFirst := leads_tryAttempt hSelf.withoutStream 0
        rw [ReconnectingStream.upTo, ReconnectingStream.receives, hStream] at hFirst
        dsimp only at hFirst
        rw [if_pos hFailed] at hFirst
        exact hFirst
      · rename_i hFailed
        refine ⟨hSelf, ?_, rfl⟩
        rw [InPlan, ReconnectingStream.receives, hStream]
        exact if_neg hFailed

/-- A subscription that fails is the end of its turn. -/
theorem leads_refuse (h : Continues self wrapper) (attempt : Nat) (error : Error) :
    Leads self (self.reached (.subscribing attempt)) (refuse wrapper attempt error) := by
  unfold refuse
  split
  · exact trivial
  · rw [ReconnectingStream.reached, ← upTo_succ]
    exact leads_tryAttempt h (attempt + 1)

/-- Every answer takes the call one entry further, or ends it. -/
theorem leads_respond (h : Continues self wrapper) {phase : Phase κ} (hPhase : InPlan self phase)
    (answer : Wait.Answer (ask wrapper phase)) :
    Leads self (self.reached phase) (machine.respond wrapper phase answer) := by
  match phase, hPhase, answer with
  | .receiving stream, hReceives, outcome =>
    show Leads self _ (ReconnectingStream.onMessage wrapper stream outcome)
    unfold ReconnectingStream.onMessage
    split
    · exact trivial
    · exact trivial
    · split
      · exact trivial
      · -- the attachment ended, and the attempts begin
        have hFirst := leads_tryAttempt h.withoutStream 0
        rw [ReconnectingStream.upTo, hReceives] at hFirst
        exact hFirst
  | .backingOff attempt, ⟨hLeft, hPause⟩, () =>
    refine ⟨h, hLeft, ?_⟩
    show self.upTo attempt ++ (self.pause attempt ++ [.subscribe self.filter.intoRequest]) =
      self.upTo attempt ++ [.sleep (delay self.config attempt)] ++
        [.subscribe wrapper.filter.intoRequest]
    rw [h.filter, hPause, List.append_assoc]
  | .subscribing attempt, _, answer =>
    show Leads self _ (ReconnectingStream.onAnswer wrapper attempt answer)
    unfold ReconnectingStream.onAnswer
    split
    · exact leads_refuse h attempt _
    · exact leads_refuse h attempt _
    · split <;> exact trivial

end Plan

-- ---------------------------------------------------------------------------
-- One call
-- ---------------------------------------------------------------------------

section Calls

variable {self : ReconnectingStream κ} {after : List (Seen κ)}

/-- Where a call is in the plan of the wrapper that it began with. -/
def OnPlan (self : ReconnectingStream κ) (after : List (Seen κ)) :
    Station (ReconnectingStream κ) (Phase κ) → Prop
  | .waiting wrapper phase => Continues self wrapper ∧ InPlan self phase ∧
      awaited after = self.reached phase ∧ answers after + 1 = (awaited after).length
  | .idle _ => awaited after <+: self.plan
  | .unwound => awaited after <+: self.plan

/-- Wherever the call is, it has kept to the plan. -/
theorem OnPlan.isPrefix {station : Station (ReconnectingStream κ) (Phase κ)}
    (h : OnPlan self after station) : awaited after <+: self.plan := by
  match station, h with
  | .waiting wrapper phase, ⟨hContinues, hPhase, hAwaited, _⟩ =>
    rw [hAwaited]
    exact reached_isPrefix hContinues.terminal hPhase
  | .idle _, h => exact h
  | .unwound, h => exact h

/-- What a turn that goes down the plan leads to. -/
theorem Leads.onPlan {step : Step κ} (h : Leads self (awaited after) step)
    (hPrefix : awaited after <+: self.plan) (hAnswers : answers after = (awaited after).length) :
    OnPlan self (after ++ [machine.occurrence step]) step.station := by
  match step, h with
  | .waits wrapper phase, ⟨hContinues, hPhase, hReached⟩ =>
    refine ⟨hContinues, hPhase, ?_, ?_⟩
    · rw [awaited_concat, hReached]
      rfl
    · rw [awaited_concat, answers_concat, List.length_append, ← hAnswers]
      rfl
  | .returns value wrapper, _ =>
    show awaited (after ++ _) <+: _
    rw [awaited_concat]
    exact (List.append_nil _).symm ▸ hPrefix
  | .panics message, _ =>
    show awaited (after ++ _) <+: _
    rw [awaited_concat]
    exact (List.append_nil _).symm ▸ hPrefix

/-- **A call keeps to the plan**, whatever is answered. -/
theorem onPlan_of_call {station : Station (ReconnectingStream κ) (Phase κ)}
    (h : machine.Call self after station) : OnPlan self after station := by
  induction h with
  -- a call that has begun has had no answer yet
  | begin =>
    have hBegin : Leads self (awaited ([] : List (Seen κ))) (machine.start self) :=
      leads_begin self
    exact hBegin.onPlan List.nil_prefix rfl
  | @answer after wrapper phase result _ ih =>
    obtain ⟨hContinues, hPhase, hAwaited, hAnswers⟩ := ih
    -- an answer is not a wait, so it leaves the place in the plan
    have hSame : awaited (after ++ [.resolved (machine.ask wrapper phase) result] :
        List (Seen κ)) = awaited after := by
      rw [awaited_concat]
      exact List.append_nil _
    refine Leads.onPlan ?_ ?_ ?_
    · rw [hSame, hAwaited]
      exact leads_respond hContinues hPhase result
    · rw [hSame, hAwaited]
      exact reached_isPrefix hContinues.terminal hPhase
    · rw [hSame, answers_concat]
      exact hAnswers
  | drop _ ih =>
    show awaited (_ ++ _) <+: _
    rw [awaited_concat]
    exact (List.append_nil _).symm ▸ ih.isPrefix

end Calls

-- ---------------------------------------------------------------------------
-- The length of the plan
-- ---------------------------------------------------------------------------

section Costs

variable {self : ReconnectingStream κ}

/-- What the attempts cost together, if every sleep and subscription has a cost. -/
def attemptsCost (cost : Wait κ → Nat) (self : ReconnectingStream κ) : Nat :=
  ((List.range self.config.maximumAttempts.toNat).map fun attempt =>
    cost (.sleep (delay self.config attempt)) + cost (.subscribe self.filter.intoRequest)).sum

/-- A turn is at most a timer and a subscription. -/
theorem cost_turn_le (cost : Wait κ → Nat) (self : ReconnectingStream κ) (attempt : Nat) :
    ((self.turn attempt).map cost).sum ≤
      cost (.sleep (delay self.config attempt)) + cost (.subscribe self.filter.intoRequest) := by
  unfold ReconnectingStream.turn ReconnectingStream.pause
  split <;> simp

/-- By induction on the attempts. -/
theorem cost_upTo_le (cost : Wait κ → Nat) (self : ReconnectingStream κ) (attempts : Nat) :
    ((self.upTo attempts).map cost).sum ≤ (self.receives.map cost).sum +
      ((List.range attempts).map fun attempt =>
        cost (.sleep (delay self.config attempt)) +
          cost (.subscribe self.filter.intoRequest)).sum := by
  induction attempts with
  | zero => simp [ReconnectingStream.upTo]
  | succ attempts ih =>
    have hTurn := cost_turn_le cost self attempts
    rw [upTo_succ, List.range_succ, List.map_append, List.map_append, List.sum_append,
      List.sum_append, List.map_singleton, List.sum_singleton]
    omega

/-- **What a call may cost**: a message, and the attempts. -/
theorem cost_plan_le (cost : Wait κ → Nat) (self : ReconnectingStream κ) :
    (self.plan.map cost).sum ≤ (self.receives.map cost).sum + attemptsCost cost self := by
  unfold ReconnectingStream.plan
  split
  · exact Nat.zero_le _
  · exact cost_upTo_le cost self _

/-- At most one message is waited for. -/
theorem length_receives_le (self : ReconnectingStream κ) : self.receives.length ≤ 1 := by
  unfold ReconnectingStream.receives
  split
  · exact Nat.zero_le _
  · split
    · exact Nat.zero_le _
    · exact Nat.le_refl _

/-- Every operation counts as one. -/
theorem length_plan_le (self : ReconnectingStream κ) :
    self.plan.length ≤ 1 + 2 * self.config.maximumAttempts.toNat := by
  have hCost := cost_plan_le (fun _ => 1) self
  have hReceives := length_receives_le self
  simp only [attemptsCost, List.map_const', List.sum_replicate_nat, List.length_range] at hCost
  omega

/-- How long an operation takes at most, apart from the wait for a message, if a
subscription times out. -/
def busy (timeout : Duration) : Wait κ → Nat
  | .message _ => 0
  | .sleep duration => duration.nanos
  | .subscribe _ => timeout.nanos

/-- Time is a cost as well, and the message costs none. -/
theorem busy_plan_le (timeout : Duration) (self : ReconnectingStream κ) :
    (self.plan.map (busy timeout)).sum ≤
      ((List.range self.config.maximumAttempts.toNat).map fun attempt =>
        doubledU32 self.config attempt + timeout.nanos).sum := by
  have hCost := cost_plan_le (busy timeout) self
  have hReceives : (self.receives.map (busy timeout)).sum = 0 := by
    unfold ReconnectingStream.receives
    split
    · rfl
    · split <;> rfl
  rw [hReceives, Nat.zero_add] at hCost
  simp only [attemptsCost, busy, nanos_delay] at hCost
  exact hCost

end Costs

-- ---------------------------------------------------------------------------
-- Calls that go all the way
-- ---------------------------------------------------------------------------

section Exhausted

variable {self wrapper : ReconnectingStream κ} {after : List (Seen κ)} {attempt : Nat}

/-- The timer in front of an attempt elapses, if there is one. -/
theorem exists_subscribing (hCall : machine.Call self after (tryAttempt wrapper attempt).station)
    (hLeft : attempt < wrapper.config.maximumAttempts.toNat) :
    ∃ after, machine.Call self after (.waiting wrapper (.subscribing attempt)) := by
  unfold tryAttempt at hCall
  rw [if_pos hLeft] at hCall
  split at hCall
  · exact ⟨_, hCall.answer ()⟩
  · exact ⟨_, hCall⟩

/-- An attachment may end before anything else is received. -/
theorem exists_attempt (hTerminal : self.terminal = false) :
    ∃ after wrapper, machine.Call self after (tryAttempt wrapper 0).station ∧
      Continues self wrapper := by
  have hSelf : Continues self self := ⟨hTerminal, rfl, rfl, rfl⟩
  have hBegin : machine.Call self _ (ReconnectingStream.begin self).station := .begin
  unfold ReconnectingStream.begin at hBegin
  rw [if_neg (by rw [hTerminal]; exact Bool.false_ne_true)] at hBegin
  -- nothing to receive, an attachment that has failed, or one whose stream may end
  match hStream : self.stream with
  | none =>
    rw [hStream] at hBegin
    exact ⟨_, _, hBegin, hSelf⟩
  | some stream =>
    rw [hStream] at hBegin
    dsimp only at hBegin
    by_cases hFailed : stream.failed = true
    · rw [if_pos hFailed] at hBegin
      exact ⟨_, _, hBegin, hSelf.withoutStream⟩
    · rw [if_neg hFailed] at hBegin
      exact ⟨_, _, hBegin.answer .endOfStream, hSelf.withoutStream⟩

/-- As many attempts can time out as there are. -/
theorem exists_timedOut (hTerminal : self.terminal = false)
    (hLeft : attempt < self.config.maximumAttempts.toNat) :
    ∃ after wrapper, machine.Call self after (.waiting wrapper (.subscribing attempt)) ∧
      Continues self wrapper := by
  induction attempt with
  | zero =>
    obtain ⟨_, wrapper, hCall, hContinues⟩ := exists_attempt hTerminal
    obtain ⟨after, hSubscribes⟩ := exists_subscribing hCall (hContinues.config ▸ hLeft)
    exact ⟨after, wrapper, hSubscribes, hContinues⟩
  | succ attempt ih =>
    obtain ⟨_, wrapper, hCall, hContinues⟩ := ih (Nat.lt_of_succ_lt hLeft)
    have hTimeout := hCall.answer none
    -- a timeout is retried while an attempt is left
    have hAgain : machine.respond wrapper (.subscribing attempt) none =
        tryAttempt wrapper (attempt + 1) := by
      refine if_neg ?_
      rintro (hFinal | hLast)
      · cases hFinal
      · rw [hContinues.config] at hLast
        omega
    rw [hAgain] at hTimeout
    obtain ⟨after, hSubscribes⟩ := exists_subscribing hTimeout (hContinues.config ▸ hLeft)
    exact ⟨after, wrapper, hSubscribes, hContinues⟩

/-- **The plan is what a call can wait for at worst.** -/
theorem exists_exhausted (hAttempts : 0 < self.config.maximumAttempts.toNat) :
    ∃ after station, machine.Call self after station ∧ awaited after = self.plan := by
  by_cases hTerminal : self.terminal = true
  · have hPlan : self.plan = [] := if_pos hTerminal
    have hBegin : machine.Call self _ (ReconnectingStream.begin self).station := .begin
    refine ⟨_, _, hBegin, ?_⟩
    show awaited [machine.occurrence (ReconnectingStream.begin self)] = _
    rw [hPlan, ReconnectingStream.begin, if_pos hTerminal]
    rfl
  · rw [Bool.not_eq_true] at hTerminal
    -- the last attempt has nothing behind it in the plan
    obtain ⟨attempt, hLast⟩ := Nat.exists_eq_add_of_lt hAttempts
    rw [Nat.zero_add] at hLast
    obtain ⟨after, wrapper, hCall, -⟩ := exists_timedOut hTerminal
      (show attempt < self.config.maximumAttempts.toNat by omega)
    obtain ⟨-, -, hAwaited, -⟩ := onPlan_of_call hCall
    have hPlan : self.plan = self.upTo self.config.maximumAttempts.toNat :=
      if_neg (by rw [hTerminal]; exact Bool.false_ne_true)
    refine ⟨after, _, hCall, ?_⟩
    rw [hAwaited, ReconnectingStream.reached, ← upTo_succ, hPlan, hLast]

end Exhausted

-- ---------------------------------------------------------------------------
-- Every call
-- ---------------------------------------------------------------------------

/-- The wrapper is configured as it was built, wherever the caller is. -/
def Configured (config : ReconnectConfig) : Station (ReconnectingStream κ) (Phase κ) → Prop
  | .idle wrapper => wrapper.config = config
  | .waiting wrapper _ => wrapper.config = config
  | .unwound => True

/-- An attempt does not write the configuration. -/
theorem configured_tryAttempt (wrapper : ReconnectingStream κ) (attempt : Nat) :
    Configured wrapper.config (tryAttempt wrapper attempt).station := by
  unfold tryAttempt
  split
  · split <;> rfl
  · exact trivial

/-- A failed subscription only marks the wrapper as terminal. -/
theorem configured_refuse (wrapper : ReconnectingStream κ) (attempt : Nat) (error : Error) :
    Configured wrapper.config (refuse wrapper attempt error).station := by
  unfold refuse
  split
  · rfl
  · exact configured_tryAttempt wrapper (attempt + 1)

/-- A call begins with the configuration it finds. -/
theorem configured_begin (wrapper : ReconnectingStream κ) :
    Configured wrapper.config (machine.start wrapper).station := by
  show Configured _ (ReconnectingStream.begin wrapper).station
  unfold ReconnectingStream.begin
  split
  · rfl
  · split
    · exact configured_tryAttempt wrapper 0
    · split
      · exact configured_tryAttempt { wrapper with stream := none } 0
      · rfl

/-- No answer changes the configuration. -/
theorem configured_respond (wrapper : ReconnectingStream κ) (phase : Phase κ)
    (answer : Wait.Answer (ask wrapper phase)) :
    Configured wrapper.config (machine.respond wrapper phase answer).station := by
  match phase, answer with
  | .receiving stream, outcome =>
    show Configured _ (ReconnectingStream.onMessage wrapper stream outcome).station
    unfold ReconnectingStream.onMessage
    split
    · rfl
    · exact trivial
    · split
      · rfl
      · exact configured_tryAttempt { wrapper with stream := none } 0
  | .backingOff attempt, () => rfl
  | .subscribing attempt, answer =>
    show Configured _ (ReconnectingStream.onAnswer wrapper attempt answer).station
    unfold ReconnectingStream.onAnswer
    split
    · exact configured_refuse wrapper attempt _
    · exact configured_refuse wrapper attempt _
    · split
      · exact trivial
      · rfl

/-- The configuration is the same in all histories, whoever answers. -/
theorem configured_of_runs {S : Type} {env : Environment (Wait κ) Wait.Answer S}
    {self : ReconnectingStream κ} {server s : S} {history : List (Seen κ)}
    {station : Station (ReconnectingStream κ) (Phase κ)}
    (h : machine.Runs env self server history station s) : Configured self.config station := by
  induction h with
  | start => rfl
  | move _ _ ih => exact ih
  | call _ ih =>
    have hConfig : _ = self.config := ih
    exact hConfig ▸ configured_begin _
  | answer result _ _ ih =>
    have hConfig : _ = self.config := ih
    exact hConfig ▸ configured_respond _ _ result
  | drop _ ih => exact ih

/-- **What one call may wait for.** In any history, from the place of a call to the
next one:

* the call waits for what is planned, in that order, and for nothing else;
* it waits no longer when it has had as many answers as there are entries, at most
  two for each attempt and one;
* apart from the wait for a message it takes no longer than the delays of all
  attempts and their timeouts together;
* and a call in this place can wait for all that is planned. -/
theorem call_bounded {filter : ResolvedFilter} {config : ReconnectConfig}
    {self : ReconnectingStream κ} (hNew : ReconnectingStream.new filter config = .ok self)
    {before after : List (Seen κ)} {caller : Caller (Wait κ) Wait.Answer (ReconnectingStream κ)
      (Option (Except Error FastpathEvent))}
    (hTraced : Traced ReconnectingStream.next self (before ++ .called :: after) caller)
    (hLast : .called ∉ after) :
    ∃ wrapper, Traced ReconnectingStream.next self before (.idle wrapper) ∧
      awaited after <+: wrapper.plan ∧
      (∀ state op resume, caller = .waiting state op resume →
        answers after < wrapper.plan.length) ∧
      wrapper.plan.length ≤ 1 + 2 * config.maximumAttempts.toNat ∧
      (∀ timeout, ((awaited after).map (busy timeout)).sum ≤
        ((List.range config.maximumAttempts.toNat).map fun attempt =>
          doubledU32 config attempt + timeout.nanos).sum) ∧
      ∃ exhausted caller,
        Traced ReconnectingStream.next self (before ++ .called :: exhausted) caller ∧
          awaited exhausted = wrapper.plan := by
  obtain ⟨hAttempts, -⟩ := disciplined_new hNew
  obtain ⟨-, hSelf⟩ := guard_eq_ok hNew
  have hConfig : self.config = config := congrArg ReconnectingStream.config
    (Except.ok.inj hSelf).symm
  -- the history is one of the machine, and its last call began with some wrapper
  obtain ⟨station, hRuns, rfl⟩ := ReconnectingStream.machine_implements.traced_iff.mp hTraced
  obtain ⟨wrapper, ⟨⟩, hBefore, hCall⟩ := hRuns.last_call hLast
  have hSame : wrapper.config = config := (configured_of_runs hBefore).trans hConfig
  have hPlan := onPlan_of_call hCall
  have hLength := length_plan_le wrapper
  refine ⟨wrapper, ReconnectingStream.machine_implements.traced_iff.mpr ⟨_, hBefore, rfl⟩,
    hPlan.isPrefix, ?_, hSame ▸ hLength, ?_, ?_⟩
  · intro state op resume hWaiting
    have hAwaited := hPlan.isPrefix.length_le
    obtain ⟨phase, rfl, -⟩ := machine.exists_waiting ReconnectingStream.resume hWaiting.symm
    obtain ⟨-, -, -, hAnswers⟩ := hPlan
    omega
  · intro timeout
    have hBusy := busy_plan_le timeout wrapper
    rw [hSame] at hBusy
    exact ((hPlan.isPrefix.sublist.map _).sum_le_sum fun _ _ => Nat.zero_le _).trans hBusy
  · have hLeft : 0 < wrapper.config.maximumAttempts.toNat := by
      rw [hSame]
      exact hAttempts
    obtain ⟨exhausted, station, hCall, hAwaited⟩ := exists_exhausted hLeft
    exact ⟨exhausted, _, ReconnectingStream.machine_implements.traced_iff.mpr
      ⟨station, hCall.runs hBefore, rfl⟩, hAwaited⟩

/-- A call that has lost its first attempt: with the default configuration it takes
no longer than 57.75 seconds, if a subscription times out in ten. -/
theorem call_bounded_sample : ∃ (after : List (Seen Unit)) (caller : _),
    Traced ReconnectingStream.next sampleWrapper ([] ++ .called :: after) caller ∧
      awaited after = [.subscribe sampleWrapper.filter.intoRequest, .sleep (.ofMillis 500)] ∧
      ((awaited after).map (busy (.ofMillis 10000))).sum ≤ 57750 * 10 ^ 6 := by
  have hNew : ReconnectingStream.new .matchAll .default = .ok sampleWrapper := rfl
  have hBegin : machine.Call sampleWrapper [.awaits (.subscribe sampleWrapper.filter.intoRequest)]
      (.waiting sampleWrapper (.subscribing 0)) := .begin
  have hCall := hBegin.answer none
  have hTraced := ReconnectingStream.machine_implements.traced_iff.mpr
    ⟨_, hCall.runs (.start : machine.Runs .free sampleWrapper () [] _ ()), rfl⟩
  obtain ⟨wrapper, -, -, -, -, hBusy, -⟩ := call_bounded hNew hTraced hCall.called_notMem
  have hSum : ((List.range ReconnectConfig.default.maximumAttempts.toNat).map fun attempt =>
      doubledU32 .default attempt + (Duration.ofMillis 10000).nanos).sum = 57750 * 10 ^ 6 := by
    decide
  exact ⟨_, _, hTraced, rfl, hSum ▸ hBusy (.ofMillis 10000)⟩

end TxStream
