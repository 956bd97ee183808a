import TxStream.Rust.Async

/-!
# Async methods as automata, in an environment

A future keeps the rest of its method in a continuation. Where the await points
of a method can be told apart by data, the method is an automaton: what a call
leads to and what an answer leads to are two functions, and a caller that waits
is a state with a phase.

An environment has a state and steps of its own. A `Joint` run is one of a caller
and of the environment that answers it, interleaved in any way.

Main results:

* `Implements.joint_iff` — a method runs like the automaton that it implements,
  in every environment.
* `Implements.traced_iff` — hence its histories are those of the automaton.
* `Joint.traced` — what an environment allows is a history.
* `Runs.last_call` — a run is made of calls.
-/

namespace Rust

variable {Op : Type} {Res : Op → Type} {σ α S : Type}

-- ---------------------------------------------------------------------------
-- Environments
-- ---------------------------------------------------------------------------

/-- Something that moves on its own and answers what is awaited. -/
structure Environment (Op : Type) (Res : Op → Type) (S : Type) where
  step : S → S → Prop
  answer : (op : Op) → Res op → S → S → Prop

/-- The environment that gives any answer at any time. -/
def Environment.free : Environment Op Res Unit where
  step _ _ := False
  answer _ _ _ _ := True

/-- The runs of a caller, who may drop every future, and of its environment. -/
inductive Joint (env : Environment Op Res S) (method : Async Op Res σ α) (self : σ) (server : S) :
    List (Occurrence Op Res α) → Caller Op Res σ α → S → Prop where
  | start : Joint env method self server [] (.idle self) server
  | move {history : List (Occurrence Op Res α)} {caller : Caller Op Res σ α} {s s' : S} :
      Joint env method self server history caller s → env.step s s' →
      Joint env method self server history caller s'
  | call {history : List (Occurrence Op Res α)} {state : σ} {s : S} :
      Joint env method self server history (.idle state) s →
      Joint env method self server (history ++ [.called] ++ [(method state).occurrence])
        (method state).caller s
  | resolve {history : List (Occurrence Op Res α)} {state : σ} {op : Op}
      {resume : Res op → Future Op Res σ α} {s s' : S} (result : Res op) :
      Joint env method self server history (.waiting state op resume) s →
      env.answer op result s s' →
      Joint env method self server
        (history ++ [.resolved op result] ++ [(resume result).occurrence])
        (resume result).caller s'
  | drop {history : List (Occurrence Op Res α)} {state : σ} {op : Op}
      {resume : Res op → Future Op Res σ α} {s : S} :
      Joint env method self server history (.waiting state op resume) s →
      Joint env method self server (history ++ [.dropped]) (.idle state) s

/-- The value that is seen to be returned. -/
def Occurrence.returned? : Occurrence Op Res α → Option α
  | .returned value => some value
  | _ => none

/-- All values that were returned, in order. -/
def returned (history : List (Occurrence Op Res α)) : List α :=
  history.filterMap Occurrence.returned?

/-- The returned values are kept entry by entry. -/
theorem returned_concat (history : List (Occurrence Op Res α)) (x : Occurrence Op Res α) :
    returned (history ++ [x]) = returned history ++ x.returned?.toList := by
  rw [returned, List.filterMap_append, List.filterMap_cons, List.filterMap_nil]
  cases x.returned? <;> rfl

/-- Nothing is returned by what is not a return. -/
theorem returned_quiet {x : Occurrence Op Res α} (h : x.returned? = none)
    (history : List (Occurrence Op Res α)) : returned (history ++ [x]) = returned history := by
  rw [returned_concat, h]
  exact List.append_nil _

/-- The operation that is seen to be awaited. -/
def Occurrence.awaited? : Occurrence Op Res α → Option Op
  | .awaits op => some op
  | _ => none

/-- All operations that were awaited, in order. -/
def awaited (history : List (Occurrence Op Res α)) : List Op :=
  history.filterMap Occurrence.awaited?

/-- An operation was answered. -/
def Occurrence.isResolved : Occurrence Op Res α → Bool
  | .resolved _ _ => true
  | _ => false

/-- How many operations were answered. -/
def answers (history : List (Occurrence Op Res α)) : Nat := history.countP Occurrence.isResolved

/-- The awaited operations are kept entry by entry. -/
theorem awaited_concat (history : List (Occurrence Op Res α)) (x : Occurrence Op Res α) :
    awaited (history ++ [x]) = awaited history ++ x.awaited?.toList := by
  rw [awaited, List.filterMap_append, List.filterMap_cons, List.filterMap_nil]
  cases x.awaited? <;> rfl

/-- The answers are counted entry by entry. -/
theorem answers_concat (history : List (Occurrence Op Res α)) (x : Occurrence Op Res α) :
    answers (history ++ [x]) = answers history + x.isResolved.toNat := by
  rw [answers, List.countP_append, List.countP_singleton]
  cases x.isResolved <;> rfl

/-- A history has one place behind which nothing is called. -/
theorem split_unique {before before' after after' : List (Occurrence Op Res α)}
    (h : .called ∉ after) (h' : .called ∉ after')
    (hEq : before ++ .called :: after = before' ++ .called :: after') :
    before = before' ∧ after' = after := by
  rcases List.append_eq_append_iff.mp hEq with ⟨more, rfl, hMore⟩ | ⟨more, rfl, hMore⟩
  · cases more with
    | nil => exact ⟨(List.append_nil _).symm, (List.cons.inj hMore).2.symm⟩
    -- the longer one would have the other call behind its own
    | cons x more =>
      rw [(List.cons.inj hMore).2] at h
      exact absurd (List.mem_append_right _ (List.mem_cons_self ..)) h
  · cases more with
    | nil => exact ⟨List.append_nil _, (List.cons.inj hMore).2⟩
    | cons x more =>
      rw [(List.cons.inj hMore).2] at h'
      exact absurd (List.mem_append_right _ (List.mem_cons_self ..)) h'

/-- What the caller's future has left in `self` so far. -/
def Caller.state? : Caller Op Res σ α → Option σ
  | .idle state => some state
  | .waiting state _ _ => some state
  | .unwound => none

section Environments

variable {env : Environment Op Res S} {method : Async Op Res σ α} {self : σ} {server s : S}
  {history : List (Occurrence Op Res α)} {caller : Caller Op Res σ α}

/-- An environment only takes histories away. -/
theorem Joint.traced (h : Joint env method self server history caller s) :
    Traced method self history caller := by
  induction h with
  | start => exact .start
  | move _ _ ih => exact ih
  | call _ ih => exact ih.call
  | resolve result _ _ ih => exact ih.resolve result
  | drop _ ih => exact ih.drop

/-- The free environment takes none away. -/
theorem joint_free_iff :
    Joint .free method self () history caller () ↔ Traced method self history caller := by
  constructor
  · exact Joint.traced
  · intro h
    induction h with
    | start => exact .start
    | call _ ih => exact ih.call
    | resolve result _ ih => exact ih.resolve result trivial
    | drop _ ih => exact ih.drop

end Environments

-- ---------------------------------------------------------------------------
-- Automata
-- ---------------------------------------------------------------------------

/-- What a call or an answer leads to. -/
inductive Turn (σ α Phase : Type) : Type where
  | returns (value : α) (state : σ)
  | waits (state : σ) (phase : Phase)
  | panics (message : String)

/-- Where a caller of an automaton is. -/
inductive Station (σ Phase : Type) : Type where
  | idle (state : σ)
  | waiting (state : σ) (phase : Phase)
  | unwound

/-- An async method whose await points are told apart by a phase. -/
structure Automaton (Op : Type) (Res : Op → Type) (σ α Phase : Type) where
  start : σ → Turn σ α Phase
  ask : σ → Phase → Op
  respond : (state : σ) → (phase : Phase) → Res (ask state phase) → Turn σ α Phase

variable {Phase : Type}

/-- Where a turn leaves the caller. -/
def Turn.station : Turn σ α Phase → Station σ Phase
  | .returns _ state => .idle state
  | .waits state phase => .waiting state phase
  | .panics _ => .unwound

/-- What is left in `self` at a station. -/
def Station.state? : Station σ Phase → Option σ
  | .idle state => some state
  | .waiting state _ => some state
  | .unwound => none

namespace Automaton

variable (A : Automaton Op Res σ α Phase)

/-- What is seen of a turn. -/
def occurrence : Turn σ α Phase → Occurrence Op Res α
  | .returns value _ => .returned value
  | .waits state phase => .awaits (A.ask state phase)
  | .panics message => .panicked message

/-- The runs of a caller of the automaton, and of its environment. -/
inductive Runs (env : Environment Op Res S) (self : σ) (server : S) :
    List (Occurrence Op Res α) → Station σ Phase → S → Prop where
  | start : Runs env self server [] (.idle self) server
  | move {history : List (Occurrence Op Res α)} {station : Station σ Phase} {s s' : S} :
      Runs env self server history station s → env.step s s' →
      Runs env self server history station s'
  | call {history : List (Occurrence Op Res α)} {state : σ} {s : S} :
      Runs env self server history (.idle state) s →
      Runs env self server (history ++ [.called] ++ [A.occurrence (A.start state)])
        (A.start state).station s
  | answer {history : List (Occurrence Op Res α)} {state : σ} {phase : Phase} {s s' : S}
      (result : Res (A.ask state phase)) :
      Runs env self server history (.waiting state phase) s →
      env.answer (A.ask state phase) result s s' →
      Runs env self server
        (history ++ [.resolved (A.ask state phase) result]
          ++ [A.occurrence (A.respond state phase result)])
        (A.respond state phase result).station s'
  | drop {history : List (Occurrence Op Res α)} {state : σ} {phase : Phase} {s : S} :
      Runs env self server history (.waiting state phase) s →
      Runs env self server (history ++ [.dropped]) (.idle state) s

-- ---------------------------------------------------------------------------
-- Single calls
-- ---------------------------------------------------------------------------

/-- What is seen of one call, and where its caller is. -/
inductive Call (self : σ) : List (Occurrence Op Res α) → Station σ Phase → Prop where
  | begin : Call self [A.occurrence (A.start self)] (A.start self).station
  | answer {after : List (Occurrence Op Res α)} {state : σ} {phase : Phase}
      (result : Res (A.ask state phase)) :
      Call self after (.waiting state phase) →
      Call self (after ++ [.resolved (A.ask state phase) result]
          ++ [A.occurrence (A.respond state phase result)])
        (A.respond state phase result).station
  | drop {after : List (Occurrence Op Res α)} {state : σ} {phase : Phase} :
      Call self after (.waiting state phase) → Call self (after ++ [.dropped]) (.idle state)

section Calls

variable {A} {env : Environment Op Res S} {self : σ} {server s : S}
  {history before after : List (Occurrence Op Res α)} {station : Station σ Phase}

/-- A call is seen to begin once, in front of the call. -/
theorem Call.called_notMem (h : A.Call self after station) : .called ∉ after := by
  have hTurn : ∀ turn : Turn σ α Phase, Occurrence.called ≠ A.occurrence turn := by
    intro turn
    cases turn <;> exact nofun
  induction h with
  | begin => exact fun hMem => hTurn _ (List.mem_singleton.mp hMem)
  | answer result _ ih => simp [ih, hTurn]
  | drop _ ih => simp [ih]

/-- **A run is made of calls**: behind some run there is the last one. -/
theorem Runs.exists_call (h : A.Runs env self server history station s)
    (hCalled : .called ∈ history) :
    ∃ before state s₀ after, history = before ++ .called :: after ∧
      A.Runs env self server before (.idle state) s₀ ∧ A.Call state after station := by
  induction h with
  | start => cases hCalled
  | move _ _ ih => exact ih hCalled
  -- the call that begins here is the last one
  | @call before state s₀ hRuns _ => exact ⟨before, state, s₀, _, by simp, hRuns, .begin⟩
  | answer result _ _ ih =>
    rw [List.append_assoc] at hCalled
    have hBefore := (List.mem_append.mp hCalled).resolve_right <| by
      cases A.respond _ _ result <;> simp [occurrence]
    obtain ⟨before, state, s₀, after, rfl, hRuns, hCall⟩ := ih hBefore
    exact ⟨before, state, s₀, _, by simp, hRuns, hCall.answer result⟩
  | drop _ ih =>
    have hBefore := (List.mem_append.mp hCalled).resolve_right (by simp)
    obtain ⟨before, state, s₀, after, rfl, hRuns, hCall⟩ := ih hBefore
    exact ⟨before, state, s₀, _, by simp, hRuns, hCall.drop⟩

/-- The last call is the one behind which nothing is called. -/
theorem Runs.last_call (h : A.Runs env self server (before ++ .called :: after) station s)
    (hLast : .called ∉ after) : ∃ state s₀,
      A.Runs env self server before (.idle state) s₀ ∧ A.Call state after station := by
  obtain ⟨before', state, s₀, after', hEq, hRuns, hCall⟩ := h.exists_call (by simp)
  obtain ⟨rfl, hAfter⟩ := split_unique hLast hCall.called_notMem hEq
  exact ⟨state, s₀, hRuns, hAfter ▸ hCall⟩

/-- Behind a run whose caller is idle there can be any call. -/
theorem Call.runs (h : A.Call self after station) {start : σ}
    (hRuns : A.Runs .free start () before (.idle self) ()) :
    A.Runs .free start () (before ++ .called :: after) station () := by
  induction h with
  | begin =>
    rw [List.append_cons before .called]
    exact hRuns.call
  | answer result _ ih =>
    have hAnswer : A.Runs .free start () _ _ () := ih.answer result trivial
    rw [List.append_assoc, List.append_assoc, List.cons_append] at hAnswer
    rw [List.append_assoc]
    exact hAnswer
  | drop _ ih =>
    have hDrop := ih.drop
    rw [List.append_assoc, List.cons_append] at hDrop
    exact hDrop

end Calls

section Futures

variable (resume : (state : σ) → (phase : Phase) → Res (A.ask state phase) → Future Op Res σ α)

/-- The future of a turn, given the futures behind the answers. -/
def future : Turn σ α Phase → Future Op Res σ α
  | .returns value state => .ready value state
  | .waits state phase => .pending state (A.ask state phase) (resume state phase)
  | .panics message => .panicked message

/-- The caller of a method at a station of the automaton. -/
def caller : Station σ Phase → Caller Op Res σ α
  | .idle state => .idle state
  | .waiting state phase => .waiting state (A.ask state phase) (resume state phase)
  | .unwound => .unwound

/-- A future and its turn show the same. -/
theorem occurrence_future (turn : Turn σ α Phase) :
    (A.future resume turn).occurrence = A.occurrence turn := by
  cases turn <;> rfl

/-- A future leads the caller to the station of its turn. -/
theorem caller_future (turn : Turn σ α Phase) :
    (A.future resume turn).caller = A.caller resume turn.station := by
  cases turn <;> rfl

/-- The caller of a station has left in `self` what the station says. -/
theorem state?_caller (station : Station σ Phase) :
    (A.caller resume station).state? = station.state? := by
  cases station <;> rfl

/-- The caller is at a station that is idle. -/
theorem eq_idle {station : Station σ Phase} {state : σ}
    (h : .idle state = A.caller resume station) : station = .idle state := by
  cases station with
  | idle state' => rw [Caller.idle.inj h]
  | waiting state' phase => cases h
  | unwound => cases h

/-- The caller is at a station that waits. -/
theorem exists_waiting {station : Station σ Phase} {state : σ} {op : Op}
    {next : Res op → Future Op Res σ α} (h : .waiting state op next = A.caller resume station) :
    ∃ phase, station = .waiting state phase ∧
      Caller.waiting state op next =
        .waiting state (A.ask state phase) (resume state phase) := by
  cases station with
  | idle state' => cases h
  | waiting state' phase =>
    obtain rfl := (Caller.waiting.inj h).1
    exact ⟨phase, rfl, h⟩
  | unwound => cases h

end Futures

/-- The futures of a method are those of the turns of the automaton. -/
structure Implements (method : Async Op Res σ α) where
  resume : (state : σ) → (phase : Phase) → Res (A.ask state phase) → Future Op Res σ α
  start_eq : ∀ state, method state = A.future resume (A.start state)
  respond_eq : ∀ state phase result,
    resume state phase result = A.future resume (A.respond state phase result)

namespace Implements

variable {A} {method : Async Op Res σ α} (h : A.Implements method) {env : Environment Op Res S}
  {self : σ} {server s : S} {history : List (Occurrence Op Res α)} {caller : Caller Op Res σ α}
include h

/-- **The method runs like the automaton**, in every environment. -/
theorem joint_iff : Joint env method self server history caller s ↔
    ∃ station, A.Runs env self server history station s ∧ caller = A.caller h.resume station := by
  constructor
  · intro hJoint
    induction hJoint with
    | start => exact ⟨_, .start, rfl⟩
    | move _ hStep ih =>
      obtain ⟨station, hRuns, hCaller⟩ := ih
      exact ⟨station, hRuns.move hStep, hCaller⟩
    | call _ ih =>
      obtain ⟨station, hRuns, hCaller⟩ := ih
      obtain rfl := A.eq_idle h.resume hCaller
      rw [h.start_eq, occurrence_future, caller_future]
      exact ⟨_, hRuns.call, rfl⟩
    | resolve result _ hAnswer ih =>
      obtain ⟨station, hRuns, hCaller⟩ := ih
      obtain ⟨phase, rfl, hWaiting⟩ := A.exists_waiting h.resume hCaller
      obtain ⟨-, rfl, hResume⟩ := Caller.waiting.inj hWaiting
      -- the future that is resumed is the one of the phase
      obtain rfl := eq_of_heq hResume
      rw [h.respond_eq, occurrence_future, caller_future]
      exact ⟨_, hRuns.answer result hAnswer, rfl⟩
    | drop _ ih =>
      obtain ⟨station, hRuns, hCaller⟩ := ih
      obtain ⟨phase, rfl, -⟩ := A.exists_waiting h.resume hCaller
      exact ⟨_, hRuns.drop, rfl⟩
  · rintro ⟨station, hRuns, rfl⟩
    induction hRuns with
    | start => exact .start
    | move _ hStep ih => exact ih.move hStep
    | call _ ih =>
      have hCall := ih.call
      rw [h.start_eq, occurrence_future, caller_future] at hCall
      exact hCall
    | answer result _ hAnswer ih =>
      have hResolve := Joint.resolve result ih hAnswer
      rw [h.respond_eq, occurrence_future, caller_future] at hResolve
      exact hResolve
    | drop _ ih => exact ih.drop

/-- **The histories of the method are those of the automaton.** -/
theorem traced_iff : Traced method self history caller ↔
    ∃ station, A.Runs .free self () history station () ∧
      caller = A.caller h.resume station := by
  rw [← joint_free_iff, h.joint_iff]

end Implements

end Automaton

end Rust
