import Mathlib.Data.List.Basic

/-!
# Async methods and callers that drop them

An async method on `&mut self` runs until it awaits something. What it has
written by then stays in `self`; what it keeps in local variables lives in the
future and is lost when the caller drops the future.

* A `Future` is a finite tree: it has returned, or it awaits an operation and
  goes on with the operation's result, or it has panicked.
* `Traced method self` are the histories of a caller that calls the method,
  has its operations answered, and drops it at any await point, in any order.

Main results:

* `Traced.of_upholds` — what a single call upholds holds of every history.
* `lawful_concat` — a law about the entries of a history is proved entry by entry.
-/

namespace Rust

/-- A future with what it leaves in `self` at each point where it can be dropped. -/
inductive Future (Op : Type) (Res : Op → Type) (σ α : Type) : Type where
  | ready (value : α) (state : σ)
  | pending (state : σ) (op : Op) (resume : Res op → Future Op Res σ α)
  | panicked (message : String)

/-- An async method on `&mut self`. -/
def Async (Op : Type) (Res : Op → Type) (σ α : Type) : Type := σ → Future Op Res σ α

variable {Op : Type} {Res : Op → Type} {σ τ α β : Type}

namespace Future

/-- What comes behind a future goes on where it has returned, and is not reached behind
a panic. -/
def bind (future : Future Op Res σ α) (f : α → Async Op Res σ β) : Future Op Res σ β :=
  match future with
  | .ready value state => f value state
  | .pending state op resume => .pending state op fun result => (resume result).bind f
  | .panicked message => .panicked message

/-- The same future of a larger `self`. -/
def mapState (put : τ → σ) : Future Op Res τ α → Future Op Res σ α
  | .ready value state => .ready value (put state)
  | .pending state op resume => .pending (put state) op fun result => (resume result).mapState put
  | .panicked message => .panicked message

/-- What has been returned, if there is nothing to wait for. -/
def now? : Future Op Res σ α → Option (α × σ)
  | .ready value state => some (value, state)
  | _ => none

end Future

namespace Async

instance : Monad (Async Op Res σ) where
  pure a := fun state => .ready a state
  bind x f := fun state => (x state).bind f

instance : MonadStateOf σ (Async Op Res σ) where
  get := fun state => .ready state state
  set state := fun _ => .ready () state
  modifyGet f := fun state => .ready (f state).1 (f state).2

/-- `.await` of an operation of the environment. -/
def await (op : Op) : Async Op Res σ (Res op) :=
  fun state => .pending state op fun result => .ready result state

/-- `panic!`: the caller is unwound, and `self` is not looked at again. -/
def panic (message : String) : Async Op Res σ α := fun _ => .panicked message

/-- A method on a field of `self`. -/
def field (inner : τ) (put : σ → τ → σ) (method : Async Op Res τ α) : Async Op Res σ α :=
  fun state => (method inner).mapState (put state)

end Async

-- ---------------------------------------------------------------------------
-- Callers
-- ---------------------------------------------------------------------------

/-- What is seen of a method's calls, one thing after another. -/
inductive Occurrence (Op : Type) (Res : Op → Type) (α : Type) : Type where
  | called
  | awaits (op : Op)
  | resolved (op : Op) (result : Res op)
  /-- The future was dropped at the operation it awaits. -/
  | dropped
  | returned (value : α)
  | panicked (message : String)

/-- Between calls, at an await point, or unwound by a panic. -/
inductive Caller (Op : Type) (Res : Op → Type) (σ α : Type) : Type where
  | idle (state : σ)
  | waiting (state : σ) (op : Op) (resume : Res op → Future Op Res σ α)
  | unwound

namespace Future

/-- What is seen next of a future that runs. -/
def occurrence : Future Op Res σ α → Occurrence Op Res α
  | .ready value _ => .returned value
  | .pending _ op _ => .awaits op
  | .panicked message => .panicked message

/-- Where that leaves the caller. -/
def caller : Future Op Res σ α → Caller Op Res σ α
  | .ready _ state => .idle state
  | .pending state op resume => .waiting state op resume
  | .panicked _ => .unwound

end Future

/-- The histories of a caller that starts with `self` and may drop every future. -/
inductive Traced (method : Async Op Res σ α) (self : σ) :
    List (Occurrence Op Res α) → Caller Op Res σ α → Prop where
  | start : Traced method self [] (.idle self)
  | call {history : List (Occurrence Op Res α)} {state : σ} :
      Traced method self history (.idle state) →
      Traced method self (history ++ [.called] ++ [(method state).occurrence])
        (method state).caller
  | resolve {history : List (Occurrence Op Res α)} {state : σ} {op : Op}
      {resume : Res op → Future Op Res σ α} (result : Res op) :
      Traced method self history (.waiting state op resume) →
      Traced method self (history ++ [.resolved op result] ++ [(resume result).occurrence])
        (resume result).caller
  | drop {history : List (Occurrence Op Res α)} {state : σ} {op : Op}
      {resume : Res op → Future Op Res σ α} :
      Traced method self history (.waiting state op resume) →
      Traced method self (history ++ [.dropped]) (.idle state)

section Invariants

variable (Inv : List (Occurrence Op Res α) → σ → Prop) (Post : List (Occurrence Op Res α) → Prop)

/-- A future that runs behind a history restores the invariant wherever it
returns or can be dropped, and has the postcondition at each point. -/
def Upholds : List (Occurrence Op Res α) → Future Op Res σ α → Prop
  | history, .ready value state => Inv (history ++ [.returned value]) state
  | history, .pending state op resume =>
    Post (history ++ [.awaits op])
      ∧ Inv (history ++ [.awaits op] ++ [.dropped]) state
      ∧ ∀ result, Upholds (history ++ [.awaits op] ++ [.resolved op result]) (resume result)
  | history, .panicked message => Post (history ++ [.panicked message])

/-- What is known of a caller between two steps. -/
def Caller.Holds (history : List (Occurrence Op Res α)) : Caller Op Res σ α → Prop
  | .idle state => Inv history state
  | .waiting state op resume =>
    Post history
      ∧ Inv (history ++ [.dropped]) state
      ∧ ∀ result, Upholds Inv Post (history ++ [.resolved op result]) (resume result)
  | .unwound => Post history

variable {Inv Post}

/-- The first point of a future that upholds the invariant. -/
theorem Upholds.holds {history : List (Occurrence Op Res α)} {future : Future Op Res σ α}
    (h : Upholds Inv Post history future) :
    future.caller.Holds Inv Post (history ++ [future.occurrence]) := by
  cases future with
  | ready value state => exact h
  | pending state op resume => exact h
  | panicked message => exact h

/-- Two invariants that a call upholds on its own, it upholds together. -/
theorem Upholds.and {Inv' : List (Occurrence Op Res α) → σ → Prop}
    {Post' : List (Occurrence Op Res α) → Prop} {history : List (Occurrence Op Res α)}
    {future : Future Op Res σ α} (h : Upholds Inv Post history future)
    (h' : Upholds Inv' Post' history future) :
    Upholds (fun history state => Inv history state ∧ Inv' history state)
      (fun history => Post history ∧ Post' history) history future := by
  induction future generalizing history with
  | ready value state => exact ⟨h, h'⟩
  | pending state op resume ih =>
    obtain ⟨hPost, hDrop, hResume⟩ := h
    obtain ⟨hPost', hDrop', hResume'⟩ := h'
    refine ⟨⟨hPost, hPost'⟩, ⟨hDrop, hDrop'⟩, ?_⟩
    intro result
    exact ih result (hResume result) (hResume' result)
  | panicked message => exact ⟨h, h'⟩

/-- **What each call upholds holds of every history**, wherever the caller is. -/
theorem Traced.of_upholds {method : Async Op Res σ α} {self : σ} (hInit : Inv [] self)
    (hPost : ∀ history state, Inv history state → Post history)
    (hCall : ∀ history state, Inv history state →
      Upholds Inv Post (history ++ [.called]) (method state))
    {history : List (Occurrence Op Res α)} {caller : Caller Op Res σ α}
    (h : Traced method self history caller) : Post history := by
  -- the induction is on the history, and carries what is known of the caller
  have hHolds : caller.Holds Inv Post history := by
    induction h with
    | start => exact hInit
    | call _ ih => exact (hCall _ _ ih).holds
    | resolve result _ ih =>
      obtain ⟨-, -, hResume⟩ := ih
      exact (hResume result).holds
    | drop _ ih =>
      obtain ⟨-, hDrop, -⟩ := ih
      exact hDrop
  cases caller with
  | idle state => exact hPost history state hHolds
  | waiting state op resume => exact hHolds.1
  | unwound => exact hHolds

end Invariants

-- ---------------------------------------------------------------------------
-- Laws about histories
-- ---------------------------------------------------------------------------

section Laws

variable {ω : Type}

/-- Every entry is allowed by what comes before it. -/
def Lawful (Allowed : List ω → ω → Prop) (history : List ω) : Prop :=
  ∀ before x after, history = before ++ x :: after → Allowed before x

variable {Allowed : List ω → ω → Prop}

/-- A history in which nothing is seen. -/
theorem lawful_nil : Lawful Allowed [] :=
  fun before _ _ h => absurd h.symm (List.append_ne_nil_of_right_ne_nil before (List.cons_ne_nil _ _))

/-- What comes later allows nothing. -/
theorem lawful_of_append {history more : List ω} (h : Lawful Allowed (history ++ more)) :
    Lawful Allowed history := by
  intro before x after hEq
  refine h before x (after ++ more) ?_
  rw [hEq, List.append_assoc, List.cons_append]

theorem lawful_concat {history : List ω} {x : ω} :
    Lawful Allowed (history ++ [x]) ↔ Lawful Allowed history ∧ Allowed history x := by
  constructor
  · intro h
    exact ⟨lawful_of_append h, h history x [] rfl⟩
  · rintro ⟨hHistory, hLast⟩ before y after hEq
    -- the entry is the last one, or one of the history
    rcases List.eq_nil_or_concat after with rfl | ⟨front, z, rfl⟩
    · obtain ⟨rfl, hy⟩ := List.append_inj' hEq rfl
      obtain rfl := (List.cons.inj hy).1
      exact hLast
    · rw [List.concat_eq_append, ← List.cons_append, ← List.append_assoc] at hEq
      obtain ⟨rfl, -⟩ := List.append_inj' hEq rfl
      exact hHistory before y front rfl

end Laws

end Rust
