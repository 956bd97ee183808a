import TxStream.Client.Attachment
import TxStream.Protocol.Accessors
import TxStream.Rust.Counts
import TxStream.Rust.Program

/-!
# The example programs

`subscribe-resolved` prints a line for each transaction, up to a maximum, and
`subscribe-transactions` counts observations until a deadline. Each is a loop
around `next` that unwraps what it gets: `frame()` and `transaction()` parse again,
and `signatures()[0]` is an index. Their counters are `u64` and their sums panic where
these are full; `println!` panics where stdout does not take a line, and which lines
it takes is an argument of the programs. Connecting and the arguments of the command
line are left out here, and so is the base58 spelling of what is printed.

Main results:

* `Attachment.drive_eq_foldlM`, `Attachment.Delivery.drive_items`,
  `Attachment.Delivery.drive_error` — a loop around `next` sees the delivered items,
  then the error.
* `subscribe_resolved`, `subscribe_transactions` — what the programs print and how they
  end, on any stdout; nothing they unwrap is missing.
-/

namespace TxStream

open Wire Rust

-- ---------------------------------------------------------------------------
-- Loops around `next`
-- ---------------------------------------------------------------------------

namespace Attachment

variable {ν μ α σ : Type} {m : Type → Type} [Monad m]

/-- A loop whose body looks at what `next` returned, and goes on with a new value or
leaves: up to `n` rounds, each once the call of `next` before it has returned. -/
def drive (validate : μ → EStateM (Fault Error) ν α)
    (body : σ → Option (Except (Fault Error) α) → m σ) :
    Nat → σ → Attachment (List (Message μ)) ν → m σ
  | 0, s, _ => pure s
  | n + 1, s, self =>
    match poll validate self with
    | none => pure s
    | some (result, self) => do drive validate body n (← body s result) self

/-- The loop is its body, for the answers of `next` one after the other. -/
theorem drive_eq_foldlM (validate : μ → EStateM (Fault Error) ν α)
    (body : σ → Option (Except (Fault Error) α) → m σ) (n : Nat) (s : σ)
    (self : Attachment (List (Message μ)) ν) :
    drive validate body n s self = (calls validate n self).1.foldlM body s := by
  induction n generalizing s self with
  | zero => rfl
  | succ n ih =>
    rw [drive, calls]
    cases poll validate self with
    | none => rfl
    | some answer =>
      obtain ⟨result, self'⟩ := answer
      rw [List.foldlM_cons]
      exact bind_congr fun s' => ih s' self'

variable {validate : μ → EStateM (Fault Error) ν α}

/-- A loop that has been left makes no more calls. -/
theorem drive_of_le {ε β : Type} {body : σ → Option (Except (Fault Error) α) → Program ε β σ}
    {n n' : Nat} {s : σ} {self : Attachment (List (Message μ)) ν} {printed printed' : List β}
    {exit : Exit ε} (hLeft : drive validate body n s self printed = .error exit printed')
    (hLe : n ≤ n') : drive validate body n' s self printed = .error exit printed' := by
  induction n generalizing n' s self printed with
  | zero => cases hLeft
  | succ n ih =>
    obtain ⟨n', rfl⟩ : ∃ k, n' = k + 1 := ⟨n' - 1, by omega⟩
    rw [drive] at hLeft ⊢
    cases hPoll : poll validate self with
    | none =>
      rw [hPoll] at hLeft
      cases hLeft
    | some answer =>
      obtain ⟨result, self'⟩ := answer
      rw [hPoll] at hLeft
      dsimp only at hLeft ⊢
      cases hBody : body s result printed with
      | ok s' middle =>
        rw [bind_of_ok hBody] at hLeft ⊢
        exact ih hLeft (Nat.le_of_succ_le_succ hLe)
      | error exit' middle =>
        rw [bind_of_error hBody] at hLeft ⊢
        exact hLeft

/-- The items of accepted messages, each from a call that accepted it. -/
theorem exists_items {fresh : ν} {messages : List μ} (h : Run.Accepts validate fresh messages) :
    ∃ items, Run.results validate fresh messages = items.map .ok ∧
      List.Forall₂ (fun message item => ∃ validator validator',
        validate message validator = .ok item validator') messages items := by
  induction messages generalizing fresh with
  | nil => exact ⟨[], rfl, .nil⟩
  | cons message messages ih =>
    obtain ⟨item, validator, hOk, hRest⟩ := Run.accepts_cons.mp h
    obtain ⟨items, hResults, hItems⟩ := ih hRest
    refine ⟨item :: items, ?_, .cons ⟨_, _, hOk⟩ hItems⟩
    rw [Run.results, hOk, Run.outcome, Run.state, hResults, List.map_cons]

section Delivery

variable {fresh : ν} {outcomes : List (Message μ)} {messages : List μ}
  {rest : List (Message μ)} {items : List α}

/-- The answers while the attachment delivers or waits. -/
theorem Delivery.answers_eq (h : Delivery validate fresh outcomes messages rest)
    (hItems : Run.results validate fresh messages = items.map .ok) {n : Nat}
    (hn : n ≤ messages.length ∨ rest = []) :
    (calls validate n ⟨outcomes, fresh, false⟩).1 = (items.take n).map fun item => some (.ok item) := by
  have hTake : ∀ n, Run.results validate fresh (messages.take n) = (items.take n).map .ok := by
    intro n
    rw [← Run.take_results, hItems, List.map_take]
  by_cases hLe : n ≤ messages.length
  · rw [h.delivered n hLe, hTake, List.map_map]
    rfl
  · -- the transport has nothing more
    have hRest := hn.resolve_left hLe
    have hLength : items.length = messages.length := by
      have := congrArg List.length hItems
      rw [Run.length_results, List.length_map] at this
      exact this.symm
    have hCount : n = messages.length + (n - messages.length) := by omega
    rw [hCount, h.calls_waits hRest, hItems, List.map_map, List.take_of_length_le (by omega)]
    rfl

/-- The answers behind the last item. -/
theorem Delivery.answers_error (h : Delivery validate fresh outcomes messages rest)
    (hItems : Run.results validate fresh messages = items.map .ok) {last : Message μ}
    {rest' : List (Message μ)} (hRest : rest = last :: rest') :
    ∃ e, EndsWith validate (Run.final validate fresh messages) e last ∧
      ∀ n, messages.length < n → ∃ k, (calls validate n ⟨outcomes, fresh, false⟩).1 =
        (items.map fun item => some (.ok item)) ++ some (.error (.err e)) :: List.replicate k none := by
  obtain ⟨e, validator, hEnds, hCalls⟩ := h.ends last rest' hRest
  refine ⟨e, hEnds, fun n hn => ⟨n - messages.length - 1, ?_⟩⟩
  have hCount : n = messages.length + 1 + (n - messages.length - 1) := by omega
  rw [hCount, hCalls, hItems, List.map_map, List.append_assoc, List.singleton_append,
    show messages.length + 1 + (n - messages.length - 1) - messages.length - 1 =
      n - messages.length - 1 by omega]
  rfl

/-- A loop sees the items for as long as the attachment delivers or waits. -/
theorem Delivery.drive_items [LawfulMonad m] (h : Delivery validate fresh outcomes messages rest)
    (hItems : Run.results validate fresh messages = items.map .ok)
    (body : σ → Option (Except (Fault Error) α) → m σ) (s : σ) {n : Nat}
    (hn : n ≤ messages.length ∨ rest = []) :
    drive validate body n s ⟨outcomes, fresh, false⟩ =
      (items.take n).foldlM (fun s item => body s (some (.ok item))) s := by
  rw [drive_eq_foldlM, h.answers_eq hItems hn, List.foldlM_map]

/-- Behind the last item a loop sees the error, and what its body makes of that. -/
theorem Delivery.drive_error {ε β : Type} (h : Delivery validate fresh outcomes messages rest)
    (hItems : Run.results validate fresh messages = items.map .ok)
    (body : σ → Option (Except (Fault Error) α) → Program ε β σ) (failure : Error → ε)
    (hBody : ∀ s e, body s (some (.error (.err e))) = throw (.err (failure e))) (s : σ)
    {last : Message μ} {rest' : List (Message μ)} (hRest : rest = last :: rest') :
    ∃ e, EndsWith validate (Run.final validate fresh messages) e last ∧
      ∀ n, messages.length < n → drive validate body n s ⟨outcomes, fresh, false⟩ =
        items.foldlM (fun s item => body s (some (.ok item))) s >>= fun _ =>
          throw (.err (failure e)) := by
  obtain ⟨e, hEnds, hCalls⟩ := h.answers_error hItems hRest
  refine ⟨e, hEnds, fun n hn => ?_⟩
  obtain ⟨k, hAnswers⟩ := hCalls n hn
  rw [drive_eq_foldlM, hAnswers, List.foldlM_append, List.foldlM_map]
  refine bind_congr fun s' => ?_
  -- the body leaves, and the calls behind it are not made
  rw [List.foldlM_cons, hBody]
  rfl

end Delivery

end Attachment

-- ---------------------------------------------------------------------------
-- What is printed
-- ---------------------------------------------------------------------------

/-- `signatures()[0]`. -/
def SanitizedTransactionView.firstSignature (view : SanitizedTransactionView) :
    Option (FixedBytes 64) := do
  let signatures ← view.signatures
  signatures[0]?

theorem signatures_of_readout {view : SanitizedTransactionView} {r : Readout}
    (h : view.readout = some r) : view.signatures = some r.signatures := by
  obtain ⟨signatures, hSignatures, h⟩ := Option.bind_eq_some_iff.mp h
  obtain ⟨keys, -, h⟩ := Option.bind_eq_some_iff.mp h
  obtain ⟨blockhash, -, h⟩ := Option.bind_eq_some_iff.mp h
  cases hConfig : view.transactionConfig with
  | none =>
    rw [hConfig] at h
    obtain rfl := Option.some.inj h
    exact hSignatures
  | some config =>
    rw [hConfig] at h
    obtain ⟨read, -, h⟩ := Option.bind_eq_some_iff.mp h
    obtain rfl := Option.some.inj h
    exact hSignatures

/-- Every accepted transaction is signed. -/
theorem exists_firstSignature {bytes : Bytes} {view : SanitizedTransactionView}
    (h : tryNew bytes = .ok view) : ∃ signature, view.firstSignature = some signature := by
  have hSigned : ∃ signatures, view.signatures = some signatures ∧ 0 < signatures.length := by
    cases tryNew_eq_ok.mp h with
    | packet tx hValid _ _ hEq hShort =>
      subst hEq
      exact ⟨_, signatures_of_readout (tx.readout_view hValid hShort), hValid.one_le_signatures⟩
    | v1 tx hValid hSanitary hEq hShort =>
      subst hEq
      refine ⟨_, signatures_of_readout (tx.readout_view hValid hShort), ?_⟩
      show 0 < tx.signatures.length
      rw [hValid.signatures_eq]
      exact hSanitary.one_le_required
  obtain ⟨signatures, hSignatures, hPositive⟩ := hSigned
  refine ⟨signatures[0], ?_⟩
  rw [SanitizedTransactionView.firstSignature, hSignatures]
  exact List.getElem?_eq_getElem hPositive

/-- A line of `subscribe-resolved`. -/
structure ResolvedLine where
  slot : UInt64
  canonicalSequence : UInt64
  producerEpoch : UInt64
  messageVersion : MessageVersion
  signature : FixedBytes 64
  loadedWritableCount : UInt16
  loadedReadonlyCount : UInt16
deriving DecidableEq

/-- The line of a transaction; `none` where the program panics. -/
def ResolvedTransaction.line (tx : ResolvedTransaction) : Option ResolvedLine := do
  let frame ← tx.frame
  let header := frame.header
  return {
    slot := header.slot
    canonicalSequence := header.canonicalSequence
    producerEpoch := header.producerEpoch
    messageVersion := header.messageVersion
    signature := ← frame.transactionView.firstSignature
    loadedWritableCount := header.loadedWritableCount
    loadedReadonlyCount := header.loadedReadonlyCount }

/-- A line of `subscribe-transactions`: one for each observation, and at the end the
summary and one for each reason. -/
inductive TransactionsLine where
  | resolved (slot : UInt64) (signature : FixedBytes 64)
      (loadedWritableCount loadedReadonlyCount : UInt16)
  | unresolved (slot : UInt64) (signature : FixedBytes 64) (reason : String)
  | summary (seconds resolved unresolved total : UInt64)
  | reason (reason : String) (count : UInt64)
deriving DecidableEq

/-- The line of an observation; `none` where the program panics. -/
def TransactionObservation.line : TransactionObservation → Option TransactionsLine
  | .resolved tx => do
    let frame ← tx.frame
    let header := frame.header
    return .resolved header.slot (← frame.transactionView.firstSignature)
      header.loadedWritableCount header.loadedReadonlyCount
  | .unresolved tx => do
    let transaction ← tx.transaction
    return .unresolved tx.wire.slot (← transaction.firstSignature) tx.wire.reason

theorem Resolved.firstSignature {bytes : Bytes} {frame : ValidatedFrame} (h : Resolved bytes frame) :
    ∃ signature, frame.transactionView.firstSignature = some signature :=
  exists_firstSignature (parse_inv h.parse).1.view

/-- What was validated can be printed. -/
theorem exists_resolvedLine {bytes : Bytes} {frame : ValidatedFrame} (h : Resolved bytes frame) :
    ∃ line, (⟨bytes⟩ : ResolvedTransaction).line = some line := by
  obtain ⟨signature, hSignature⟩ := h.firstSignature
  rw [ResolvedTransaction.line, h.frame_eq]
  simp only [Option.bind_eq_bind, Option.bind_some, hSignature]
  exact ⟨_, rfl⟩

theorem exists_observationLine {message : Proto.TransactionFrame} {item : TransactionObservation}
    {validator validator' : ObservationValidator}
    (h : ObservationValidator.validate message validator = .ok item validator') :
    ∃ line, item.line = some line := by
  obtain ⟨_ | bytes | raw⟩ := message
  · cases h
  · obtain ⟨frame, canonical, hOk, -, rfl, -⟩ :=
      ObservationValidator.validate_canonical_eq_ok.mp h
    have hResolved := ObservationValidator.resolved_of_ok hOk
    obtain ⟨signature, hSignature⟩ := hResolved.firstSignature
    rw [TransactionObservation.line, hResolved.frame_eq]
    simp only [Option.bind_eq_bind, Option.bind_some, hSignature]
    exact ⟨_, rfl⟩
  · obtain ⟨hValid, -, -, rfl, -⟩ := ObservationValidator.validate_unresolved_eq_ok.mp h
    obtain ⟨view, hView⟩ := hValid.accepted
    obtain ⟨signature, hSignature⟩ := exists_firstSignature hView
    have hTransaction : (⟨raw⟩ : UnresolvedTransaction).transaction = some view := by
      rw [UnresolvedTransaction.transaction, hView]
      rfl
    rw [TransactionObservation.line, hTransaction]
    simp only [Option.bind_eq_bind, Option.bind_some, hSignature]
    exact ⟨_, rfl⟩

/-- Each item has its line. -/
theorem exists_of_mem {α β : Type} {R : α → β → Prop} {items : List α} {lines : List β}
    (h : List.Forall₂ R items lines) {item : α} (hMem : item ∈ items) : ∃ line, R item line := by
  have hBoth : List.Forall₂ (fun item line => (∃ line, R item line) ∧ R item line) items lines :=
    h.imp fun _ line hLine => ⟨⟨line, hLine⟩, hLine⟩
  exact ((List.forall₂_and_left items lines).mp hBoth).1 item hMem

-- ---------------------------------------------------------------------------
-- `subscribe-resolved`
-- ---------------------------------------------------------------------------

namespace SubscribeResolved

/-- The body of `while let Some(result) = stream.next().await`, with `count` as the
value of a round. The loop is left by `break`, by `?` and by a panic; behind it `main`
returns `Ok(())`. -/
def body (takes : Nat → Bool) (maximum : Option UInt64) (count : UInt64) :
    Option (Except (Fault Error) ResolvedTransaction) → Program Error ResolvedLine UInt64
  | none => throw .ok
  | some (.error .panic) => throw (.panic .missing)
  | some (.error (.err e)) => throw (.err e)
  | some (.ok tx) => do
    println takes (← orPanic .missing tx.line)
    let count ← orPanic .overflow (u64CheckedAdd count 1)
    if maximum = some count then throw .ok
    return count

/-- The loop of `main`, for up to `n` calls of `next`. -/
def loop (takes : Nat → Bool) (maximum : Option UInt64) (mode : CanonicalStreamMode) (n : Nat)
    (outcomes : List (Message Proto.ResolvedTransactionFrame)) :
    Program Error ResolvedLine UInt64 :=
  Attachment.drive FastpathStream.validate (body takes maximum) n 0 (FastpathStream.new mode outcomes)

/-- How the program ends in the round behind `k` others, if it does, and how many lines
are out by then. The line is printed first, then counted, and the count is compared
with the maximum. -/
def leaves (takes : Nat → Bool) (maximum : Option UInt64) (k : Nat) : Option (Exit Error × Nat) :=
  if takes k = false then some (.panic .stdout, k)
  else if k + 1 = 2 ^ 64 then some (.panic .overflow, k + 1)
  else if maximum = some (UInt64.ofNat (k + 1)) then some (.ok, k + 1)
  else none

section Rounds

variable (takes : Nat → Bool) (maximum : Option UInt64) {printed lines : List ResolvedLine}
  {items : List ResolvedTransaction} {count : UInt64}

omit takes maximum in
theorem le_of_leaves {takes : Nat → Bool} {maximum : Option UInt64} {k out : Nat} {exit : Exit Error}
    (h : leaves takes maximum k = some (exit, out)) : out ≤ k + 1 := by
  rw [leaves] at h
  grind

/-- One round. -/
theorem body_line {tx : ResolvedTransaction} {line : ResolvedLine} (hLine : tx.line = some line)
    (hCount : count.toNat = printed.length) :
    body takes maximum count (some (.ok tx)) printed =
      match leaves takes maximum printed.length with
      | none => .ok (count + 1) (printed ++ [line])
      | some (exit, out) => .error exit ((printed ++ [line]).take out) := by
  have hAll : (printed ++ [line]).take (printed.length + 1) = printed ++ [line] :=
    List.take_of_length_le (by rw [List.length_append, List.length_singleton])
  rw [body, hLine, orPanic_some, pure_bind, leaves]
  by_cases hTakes : takes printed.length = false
  · -- the line is refused
    rw [if_pos hTakes, bind_of_error (println_of_refuses line hTakes)]
    dsimp only
    rw [List.take_left]
  · rw [if_neg hTakes, bind_of_ok (println_of_takes line (by simpa using hTakes))]
    by_cases hFull : printed.length + 1 = 2 ^ 64
    · -- the counter is full
      have hNone : u64CheckedAdd count 1 = none := if_neg (by
        show ¬count.toNat + 1 < 2 ^ 64
        omega)
      rw [if_pos hFull, hNone]
      dsimp only
      rw [hAll]
      rfl
    · have hBound := count.toNat_lt
      obtain ⟨hSome, hNext⟩ := u64CheckedAdd_one (show count.toNat + 1 < 2 ^ 64 by omega)
      have hValue : UInt64.ofNat (printed.length + 1) = count + 1 := by
        rw [← hCount, ← hNext, UInt64.ofNat_toNat]
      rw [if_neg hFull, hSome, orPanic_some, pure_bind, hValue]
      by_cases hMaximum : maximum = some (count + 1)
      · rw [if_pos hMaximum, if_pos hMaximum]
        dsimp only
        rw [hAll]
        rfl
      · rw [if_neg hMaximum, if_neg hMaximum]
        rfl

variable {takes maximum} in
theorem toNat_of_stays (hCount : count.toNat = printed.length)
    (hStays : leaves takes maximum printed.length = none) :
    (count + 1).toNat = printed.length + 1 := by
  have hBound := count.toNat_lt
  have hNotFull : printed.length + 1 ≠ 2 ^ 64 := by
    intro hFull
    rw [leaves, if_pos hFull] at hStays
    split at hStays <;> cases hStays
  rw [(u64CheckedAdd_one (show count.toNat + 1 < 2 ^ 64 by omega)).2, hCount]

/-- Rounds in none of which the program ends. -/
theorem rounds_of_stays (hLines : List.Forall₂ (fun tx line => tx.line = some line) items lines)
    (hCount : count.toNat = printed.length)
    (hStays : ∀ i < items.length, leaves takes maximum (printed.length + i) = none) :
    ∃ count', (items.foldlM (fun count tx => body takes maximum count (some (.ok tx))) count)
        printed = .ok count' (printed ++ lines) ∧
      count'.toNat = (printed ++ lines).length := by
  induction hLines generalizing count printed with
  | nil =>
    rw [List.append_nil]
    exact ⟨count, rfl, hCount⟩
  | @cons tx line items lines hLine _ ih =>
    have hFirst : leaves takes maximum printed.length = none := hStays 0 (Nat.succ_pos _)
    have hRound := body_line takes maximum hLine hCount
    rw [hFirst] at hRound
    have hLength : (printed ++ [line]).length = printed.length + 1 := by
      rw [List.length_append, List.length_singleton]
    obtain ⟨count', hRest, hCount'⟩ := ih ((toNat_of_stays hCount hFirst).trans hLength.symm) (by
      intro i hi
      rw [hLength, Nat.add_assoc, Nat.add_comm 1 i]
      exact hStays (i + 1) (Nat.succ_lt_succ hi))
    rw [List.append_assoc, List.singleton_append] at hRest hCount'
    refine ⟨count', ?_, hCount'⟩
    rw [List.foldlM_cons, bind_of_ok hRound, hRest]

/-- A program that ends in none of its rounds so far. -/
theorem loop_of_stays (hLines : List.Forall₂ (fun tx line => tx.line = some line) items lines)
    (hStays : ∀ i < items.length, leaves takes maximum i = none) :
    ∃ count, (items.foldlM (fun count tx => body takes maximum count (some (.ok tx))) 0) [] =
        .ok count lines ∧ count.toNat = lines.length := by
  have hZero : (0 : UInt64).toNat = ([] : List ResolvedLine).length := rfl
  refine rounds_of_stays takes maximum hLines hZero fun i hi => ?_
  rw [List.length_nil, Nat.zero_add, hStays i hi]

/-- The first round in which the program ends. -/
theorem rounds_of_leaves (hLines : List.Forall₂ (fun tx line => tx.line = some line) items lines)
    {k out : Nat} {exit : Exit Error} (hk : k < items.length)
    (hStays : ∀ i < k, leaves takes maximum i = none)
    (hLeaves : leaves takes maximum k = some (exit, out)) :
    (items.foldlM (fun count tx => body takes maximum count (some (.ok tx))) 0) [] =
      .error exit (lines.take out) := by
  have hLength : (items.take k).length = k := List.length_take_of_le (Nat.le_of_lt hk)
  have hFront := List.forall₂_take k hLines
  obtain ⟨count, hRounds, hCount⟩ := loop_of_stays takes maximum hFront (by rwa [hLength])
  have hPrinted : (lines.take k).length = k := by
    rw [← hFront.length_eq, hLength]
  have hk' : k < lines.length := by rwa [← hLines.length_eq]
  have hBack := List.forall₂_drop k hLines
  rw [List.drop_eq_getElem_cons hk, List.drop_eq_getElem_cons hk'] at hBack
  obtain ⟨hLine, -⟩ := List.forall₂_cons.mp hBack
  have hRound := body_line takes maximum hLine hCount
  rw [hPrinted, hLeaves] at hRound
  have hSplit : items = items.take k ++ items[k] :: items.drop (k + 1) := by
    rw [← List.drop_eq_getElem_cons hk, List.take_append_drop]
  rw [hSplit, List.foldlM_append, bind_of_ok hRounds, List.foldlM_cons, bind_of_error hRound,
    ← List.take_succ_eq_append_getElem, List.take_take,
    Nat.min_eq_left (le_of_leaves hLeaves)]

/-- A line that can be made is not missing. -/
theorem exits_body {tx : ResolvedTransaction} {line : ResolvedLine} (hLine : tx.line = some line) :
    Exits (· ≠ .panic .missing) (body takes maximum count (some (.ok tx))) := by
  rw [body, hLine, orPanic_some, pure_bind]
  refine (Exits.println nofun takes line).bind fun _ => ?_
  refine (Exits.orPanic nofun _).bind fun count' => ?_
  by_cases hMaximum : maximum = some count'
  · rw [if_pos hMaximum]
    exact (Exits.throw nofun).bind fun _ => Exits.pure _
  · rw [if_neg hMaximum]
    exact Exits.pure _

end Rounds

/-- The lines of accepted messages. -/
theorem exists_lines {messages : List Proto.ResolvedTransactionFrame}
    {items : List ResolvedTransaction}
    (h : List.Forall₂ (fun message item => ∃ validator validator',
      FastpathStream.validate message validator = .ok item validator') messages items) :
    ∃ lines, List.Forall₂ (fun message line =>
        (⟨message.canonicalV1⟩ : ResolvedTransaction).line = some line) messages lines ∧
      List.Forall₂ (fun tx line => tx.line = some line) items lines := by
  induction h with
  | nil => exact ⟨[], .nil, .nil⟩
  | @cons message item messages items hItem _ ih =>
    obtain ⟨validator, validator', hStep⟩ := hItem
    obtain ⟨frame, hOk, rfl⟩ := FastpathStream.validate_eq_ok.mp hStep
    obtain ⟨line, hLine⟩ := exists_resolvedLine (ObservationValidator.resolved_of_ok hOk)
    obtain ⟨lines, hMessages, hItems⟩ := ih
    exact ⟨line :: lines, .cons hLine hMessages, .cons hLine hItems⟩

end SubscribeResolved

open SubscribeResolved in
/-- **`subscribe-resolved`.** The program prints a line for each message it takes, in
order and once. A round ends it when stdout refuses the line, when the count is full,
or when the maximum is reached; with no such round it waits for as long as the
transport does, or ends with the error of the attachment behind all the lines. It never
panics for want of a value: `frame()` and `signatures()[0]` find what was validated. -/
theorem subscribe_resolved (takes : Nat → Bool) (maximum : Option UInt64)
    (mode : CanonicalStreamMode) (outcomes : List (Message Proto.ResolvedTransactionFrame)) :
    ∃ messages rest lines,
      Attachment.Delivery FastpathStream.validate (.new mode) outcomes messages rest ∧
      List.Forall₂ (fun message line =>
        (⟨message.canonicalV1⟩ : ResolvedTransaction).line = some line) messages lines ∧
      (∀ n, n ≤ messages.length ∨ rest = [] →
        (∀ k < min n messages.length, leaves takes maximum k = none) →
        ∃ count, loop takes maximum mode n outcomes [] = .ok count (lines.take n) ∧
          count.toNat = min n messages.length) ∧
      (∀ k < messages.length, (∀ i < k, leaves takes maximum i = none) →
        ∀ exit out, leaves takes maximum k = some (exit, out) →
          ∀ n, k < n → loop takes maximum mode n outcomes [] = .error exit (lines.take out)) ∧
      (∀ last rest', rest = last :: rest' →
        (∀ k < messages.length, leaves takes maximum k = none) →
        ∃ e, Attachment.EndsWith FastpathStream.validate
            (Run.final FastpathStream.validate (.new mode) messages) e last ∧
          ∀ n, messages.length < n → loop takes maximum mode n outcomes [] = .error (.err e) lines) ∧
      ∀ n exit printed, loop takes maximum mode n outcomes [] = .error exit printed →
        exit ≠ .panic .missing := by
  obtain ⟨messages, rest, hDelivery⟩ :=
    Attachment.exists_delivery FastpathStream.validate_returns (.new mode) outcomes
  obtain ⟨items, hResults, hItems⟩ := Attachment.exists_items hDelivery.accepted
  obtain ⟨lines, hMessages, hLines⟩ := exists_lines hItems
  have hLength := hItems.length_eq
  have hLoop := fun n (hn : n ≤ messages.length ∨ rest = []) =>
    hDelivery.drive_items hResults (body takes maximum) 0 hn
  have hError := fun last rest' (hRest : rest = last :: rest') =>
    hDelivery.drive_error hResults (body takes maximum) id (fun _ _ => rfl) 0 hRest
  refine ⟨messages, rest, lines, hDelivery, hMessages, ?_, ?_, ?_, ?_⟩
  · intro n hn hStays
    have hTake : (items.take n).length = min n messages.length := by
      rw [List.length_take, hLength]
    obtain ⟨count, hRounds, hCount⟩ := loop_of_stays takes maximum (List.forall₂_take n hLines)
      (by rwa [hTake])
    refine ⟨count, ?_, ?_⟩
    · rw [loop, FastpathStream.new, hLoop n hn]
      exact hRounds
    · rw [hCount, List.length_take, ← hLines.length_eq, hLength]
  · intro k hk hStays exit out hLeaves n hn
    have hRounds := rounds_of_leaves takes maximum (List.forall₂_take (k + 1) hLines)
      (show k < (items.take (k + 1)).length by rw [List.length_take]; omega) hStays hLeaves
    rw [List.take_take, Nat.min_eq_left (le_of_leaves hLeaves)] at hRounds
    refine Attachment.drive_of_le ?_ hn
    rw [FastpathStream.new, hLoop (k + 1) (.inl hk)]
    exact hRounds
  · intro last rest' hRest hStays
    obtain ⟨e, hEnds, hCalls⟩ := hError last rest' hRest
    obtain ⟨count, hRounds, -⟩ := loop_of_stays takes maximum hLines (by rwa [← hLength])
    refine ⟨e, hEnds, fun n hn => ?_⟩
    rw [loop, FastpathStream.new, hCalls n hn, bind_of_ok hRounds]
    rfl
  · -- every item has its line
    have hRounds : ∀ n, Exits (· ≠ .panic .missing)
        ((items.take n).foldlM (fun count tx => body takes maximum count (some (.ok tx))) 0) :=
      fun n => Exits.foldlM (fun count tx hMem =>
        (exists_of_mem hLines (List.mem_of_mem_take hMem)).elim fun _ hLine =>
          exits_body takes maximum hLine) 0
    intro n exit printed hExit
    rw [loop, FastpathStream.new] at hExit
    by_cases hn : n ≤ messages.length ∨ rest = []
    · rw [hLoop n hn] at hExit
      exact hRounds n _ _ _ hExit
    · rw [not_or] at hn
      obtain ⟨last, rest', hRest⟩ := List.exists_cons_of_ne_nil hn.2
      obtain ⟨e, -, hCalls⟩ := hError last rest' hRest
      have hAll := hRounds items.length
      rw [List.take_length] at hAll
      rw [hCalls n (by omega)] at hExit
      have hError : Exits (· ≠ .panic .missing)
          (throw (.err e) : Program Error ResolvedLine UInt64) := Exits.throw nofun
      exact hAll.bind (fun _ => hError) _ _ _ hExit

open SubscribeResolved in
/-- A pipe that is closed behind two lines ends the program before its maximum does. -/
example : leaves (fun k => k < 2) (some 5) 1 = none ∧
    leaves (fun k => k < 2) (some 5) 2 = some (.panic .stdout, 2) ∧
    leaves (fun _ => true) (some 5) 4 = some (.ok, 5) := by decide

-- ---------------------------------------------------------------------------
-- `subscribe-transactions`
-- ---------------------------------------------------------------------------

/-- The reason that an unresolved transaction has. -/
def TransactionObservation.reason? : TransactionObservation → Option String
  | .resolved _ => none
  | .unresolved tx => some tx.wire.reason

/-- The reason in a message. -/
def Proto.TransactionFrame.reason? (message : Proto.TransactionFrame) : Option String :=
  match message.payload with
  | some (.unresolved raw) => some raw.reason
  | _ => none

namespace SubscribeTransactions

/-- The errors that `main` returns from the loop. -/
inductive Failure where
  /-- `result?`. -/
  | client (e : Error)
  /-- `"stream ended"`. -/
  | streamEnded
deriving DecidableEq

/-- The counters of `main`. -/
structure Counters where
  resolved : UInt64
  unresolved : UInt64
  reasons : Std.TreeMap String UInt64

/-- The counting part of the `match`; `none` where a counter is full. -/
def Counters.count (self : Counters) : TransactionObservation → Option Counters
  | .resolved _ => do
    let resolved ← u64CheckedAdd self.resolved 1
    return { self with resolved }
  | .unresolved tx => do
    let unresolved ← u64CheckedAdd self.unresolved 1
    let reasons ← countOne self.reasons tx.wire.reason
    return { self with unresolved, reasons }

/-- The body of the loop, for an answer before the deadline: an observation is counted
first, then printed. -/
def body (takes : Nat → Bool) (summary : Bool) (self : Counters) :
    Option (Except (Fault Error) TransactionObservation) → Program Failure TransactionsLine Counters
  | none => throw (.err .streamEnded)
  | some (.error .panic) => throw (.panic .missing)
  | some (.error (.err e)) => throw (.err (.client e))
  | some (.ok observation) => do
    let self ← orPanic .overflow (self.count observation)
    if !summary then println takes (← orPanic .missing observation.line)
    return self

/-- What `main` does behind the loop. -/
def finish (takes : Nat → Bool) (seconds : UInt64) (self : Counters) :
    Program Failure TransactionsLine Unit := do
  let total ← orPanic .overflow (u64CheckedAdd self.resolved self.unresolved)
  println takes (.summary seconds self.resolved self.unresolved total)
  forM self.reasons.toList fun (reason, count) => println takes (.reason reason count)

/-- `main`, with a deadline that passes after `n` calls of `next`, or while a call
waits. -/
def main (takes : Nat → Bool) (summary : Bool) (seconds : UInt64) (mode : CanonicalStreamMode)
    (n : Nat) (outcomes : List (Message Proto.TransactionFrame)) :
    Program Failure TransactionsLine Unit := do
  let self ← Attachment.drive ObservationValidator.validate (body takes summary) n ⟨0, 0, ∅⟩
    (TransactionStream.new mode outcomes)
  finish takes seconds self

/-- The counters are those of so many observations, of which the unresolved ones have
these reasons. -/
structure Counters.Tally (counters : Counters) (taken : Nat) (given : List String) : Prop where
  taken_eq : counters.resolved.toNat + counters.unresolved.toNat = taken
  given_eq : counters.unresolved.toNat = given.length
  reasons : Counted given counters.reasons

theorem Counters.Tally.zero : Counters.Tally ⟨0, 0, ∅⟩ 0 [] where
  taken_eq := rfl
  given_eq := rfl
  reasons := Counted.empty

/-- With fewer than `2 ^ 64` observations no counter is full. -/
theorem Counters.Tally.count {self : Counters} {taken : Nat} {given : List String}
    (h : self.Tally taken given) (hRoom : taken + 1 < 2 ^ 64) (item : TransactionObservation) :
    ∃ self', self.count item = some self' ∧
      self'.Tally (taken + 1) (given ++ item.reason?.toList) := by
  have hTaken := h.taken_eq
  have hGiven := h.given_eq
  cases item with
  | resolved tx =>
    obtain ⟨hAdd, hNext⟩ := u64CheckedAdd_one (show self.resolved.toNat + 1 < 2 ^ 64 by omega)
    refine ⟨{ self with resolved := self.resolved + 1 }, ?_, ?_, ?_, ?_⟩
    · rw [Counters.count, hAdd]
      rfl
    · show (self.resolved + 1).toNat + self.unresolved.toNat = taken + 1
      omega
    · exact hGiven.trans (congrArg List.length (List.append_nil given).symm)
    · exact (List.append_nil given).symm ▸ h.reasons
  | unresolved tx =>
    obtain ⟨hAdd, hNext⟩ := u64CheckedAdd_one (show self.unresolved.toNat + 1 < 2 ^ 64 by omega)
    obtain ⟨reasons, hOne, hReasons⟩ := h.reasons.countOne tx.wire.reason (by omega)
    refine ⟨{ self with unresolved := self.unresolved + 1, reasons }, ?_, ?_, ?_, hReasons⟩
    · rw [Counters.count, hAdd]
      show (countOne self.reasons tx.wire.reason).bind _ = _
      rw [hOne]
      rfl
    · show self.resolved.toNat + (self.unresolved + 1).toNat = taken + 1
      omega
    · show (self.unresolved + 1).toNat = (given ++ [tx.wire.reason]).length
      rw [List.length_append, List.length_singleton]
      omega

section Rounds

variable (takes : Nat → Bool) (summary : Bool) {items : List TransactionObservation}
  {lines : List TransactionsLine}

/-- One round counts, and prints its line unless only the summary is wanted. -/
theorem body_line {item : TransactionObservation} {line : TransactionsLine} {self self' : Counters}
    (hLine : item.line = some line) (hCount : self.count item = some self') :
    body takes summary self (some (.ok item)) =
      (printAll takes (if summary then [] else [line]) >>= fun _ => pure self') := by
  rw [body, hCount, hLine, orPanic_some, pure_bind]
  cases summary with
  | true => rfl
  | false =>
    rw [if_neg Bool.false_ne_true, printAll_singleton]
    rfl

/-- The rounds of observations: their lines, and their counters. -/
theorem rounds_eq (hLines : List.Forall₂ (fun item line => item.line = some line) items lines)
    {self : Counters} {taken : Nat} {given : List String} (hTally : self.Tally taken given)
    (hRoom : taken + items.length < 2 ^ 64) :
    ∃ self', items.foldlM (fun self item => body takes summary self (some (.ok item))) self =
        (printAll takes (if summary then [] else lines) >>= fun _ => pure self') ∧
      self'.Tally (taken + items.length)
        (given ++ items.filterMap TransactionObservation.reason?) := by
  induction hLines generalizing self taken given with
  | nil =>
    refine ⟨self, ?_, ?_⟩
    · rw [ite_self]
      rfl
    · rwa [List.filterMap_nil, List.append_nil]
  | @cons item line items lines hLine _ ih =>
    rw [List.length_cons] at hRoom
    obtain ⟨middle, hCount, hMiddle⟩ := hTally.count (by omega) item
    obtain ⟨self', hRest, hSelf'⟩ := ih hMiddle (by omega)
    refine ⟨self', ?_, ?_⟩
    · rw [List.foldlM_cons, body_line takes summary hLine hCount, bind_assoc]
      simp only [pure_bind]
      rw [hRest, ← bind_assoc, ← printAll_append]
      cases summary <;> rfl
    · have hReasons : given ++ (item :: items).filterMap TransactionObservation.reason? =
          given ++ item.reason?.toList ++ items.filterMap TransactionObservation.reason? := by
        cases item with
        | resolved tx => exact (List.append_assoc given [] _).symm
        | unresolved tx => exact (List.append_assoc given [tx.wire.reason] _).symm
      rw [hReasons, List.length_cons, Nat.add_comm items.length 1, ← Nat.add_assoc]
      exact hSelf'

end Rounds

/-- The lines behind the loop: the summary, and one for each reason. -/
def ending (seconds resolved unresolved total : UInt64) (reasons : List (String × UInt64)) :
    List TransactionsLine :=
  .summary seconds resolved unresolved total ::
    reasons.map fun (reason, count) => .reason reason count

theorem finish_eq (takes : Nat → Bool) (seconds : UInt64) {self : Counters} {taken : Nat}
    {given : List String} (h : self.Tally taken given) (hRoom : taken < 2 ^ 64) :
    (self.resolved + self.unresolved).toNat = taken ∧
      finish takes seconds self = printAll takes (ending seconds self.resolved self.unresolved
        (self.resolved + self.unresolved) self.reasons.toList) := by
  have hSum : self.resolved.toNat + self.unresolved.toNat < 2 ^ 64 := by
    rw [h.taken_eq]
    exact hRoom
  have hAdd : u64CheckedAdd self.resolved self.unresolved =
      some (self.resolved + self.unresolved) := if_pos hSum
  refine ⟨?_, ?_⟩
  · rw [UInt64.toNat_add, Nat.mod_eq_of_lt hSum, h.taken_eq]
  · rw [finish, hAdd, orPanic_some, pure_bind, ending, printAll_cons, printAll, List.forM_map]

/-- An observation that can be printed is not missing. -/
theorem exits_body {takes : Nat → Bool} {summary : Bool} {item : TransactionObservation}
    {line : TransactionsLine} (hLine : item.line = some line) (self : Counters) :
    Exits (fun exit => exit ≠ .panic .missing ∧ exit ≠ .err .streamEnded)
      (body takes summary self (some (.ok item))) := by
  rw [body, hLine]
  refine (Exits.orPanic ⟨nofun, nofun⟩ _).bind fun self' => ?_
  cases summary with
  | true => exact Exits.pure _
  | false => exact (Exits.println ⟨nofun, nofun⟩ takes line).bind fun _ => Exits.pure _

theorem exits_finish (takes : Nat → Bool) (seconds : UInt64) (self : Counters) :
    Exits (fun exit => exit ≠ .panic .missing ∧ exit ≠ .err .streamEnded)
      (finish takes seconds self) := by
  refine (Exits.orPanic ⟨nofun, nofun⟩ _).bind fun total => ?_
  refine (Exits.println ⟨nofun, nofun⟩ takes _).bind fun _ => ?_
  rw [← List.forM_map (f := println takes)]
  exact Exits.printAll ⟨nofun, nofun⟩ takes _

/-- The lines and reasons of accepted messages. -/
theorem exists_lines {messages : List Proto.TransactionFrame} {items : List TransactionObservation}
    (h : List.Forall₂ (fun message item => ∃ validator validator',
      ObservationValidator.validate message validator = .ok item validator') messages items) :
    (∃ lines, List.Forall₂ (fun message line => ∃ item : TransactionObservation,
        message.payload = some item.payload ∧ item.line = some line) messages lines ∧
      List.Forall₂ (fun item line => item.line = some line) items lines) ∧
    items.filterMap TransactionObservation.reason? =
      messages.filterMap Proto.TransactionFrame.reason? := by
  induction h with
  | nil => exact ⟨⟨[], .nil, .nil⟩, rfl⟩
  | @cons message item messages items hItem _ ih =>
    obtain ⟨validator, validator', hStep⟩ := hItem
    obtain ⟨line, hLine⟩ := exists_observationLine hStep
    obtain ⟨⟨lines, hMessages, hItems⟩, hReasons⟩ := ih
    have hPayload : message.payload = some item.payload ∧ item.reason? = message.reason? := by
      obtain ⟨_ | bytes | raw⟩ := message
      · cases hStep
      · obtain ⟨-, -, -, -, rfl, -⟩ := ObservationValidator.validate_canonical_eq_ok.mp hStep
        exact ⟨rfl, rfl⟩
      · obtain ⟨-, -, -, rfl, -⟩ := ObservationValidator.validate_unresolved_eq_ok.mp hStep
        exact ⟨rfl, rfl⟩
    refine ⟨⟨line :: lines, .cons ⟨item, hPayload.1, hLine⟩ hMessages, .cons hLine hItems⟩, ?_⟩
    rw [List.filterMap_cons, List.filterMap_cons, hPayload.2, hReasons]

end SubscribeTransactions

open SubscribeTransactions in
/-- **`subscribe-transactions`.** Whenever the deadline passes, the summary counts
the messages that were taken: resolved and unresolved ones are all of them, every
reason has its number of unresolved transactions, these numbers add up, and the reasons
are in order. In front of the summary every message has its line, unless only the
summary is wanted. An error of the attachment ends the program behind these lines.
That is so for fewer than `2 ^ 64` messages, and up to the first line that stdout
refuses. For any number of messages and any stdout, nothing that is unwrapped is
missing, and the error `stream ended` is never returned. -/
theorem subscribe_transactions (takes : Nat → Bool) (summary : Bool) (seconds : UInt64)
    (mode : CanonicalStreamMode) (outcomes : List (Message Proto.TransactionFrame)) :
    ∃ messages rest lines,
      Attachment.Delivery ObservationValidator.validate (.new mode) outcomes messages rest ∧
      List.Forall₂ (fun message line => ∃ item : TransactionObservation,
        message.payload = some item.payload ∧ item.line = some line) messages lines ∧
      (∀ n, n ≤ messages.length ∨ rest = [] → (messages.take n).length < 2 ^ 64 →
        ∃ resolved unresolved total reasons,
          resolved.toNat + unresolved.toNat = total.toNat ∧
          total.toNat = (messages.take n).length ∧
          unresolved.toNat =
            ((messages.take n).filterMap Proto.TransactionFrame.reason?).length ∧
          (reasons.map fun entry => entry.2.toNat).sum = unresolved.toNat ∧
          (∀ reason count, (reason, count) ∈ reasons ↔
            reason ∈ (messages.take n).filterMap Proto.TransactionFrame.reason? ∧
            count.toNat =
              ((messages.take n).filterMap Proto.TransactionFrame.reason?).count reason) ∧
          reasons.Pairwise (fun entry entry' => compare entry.1 entry'.1 = .lt) ∧
          Prints takes ((if summary then [] else lines.take n) ++
              ending seconds resolved unresolved total reasons) (EStateM.Result.ok ())
            (main takes summary seconds mode n outcomes [])) ∧
      (∀ last rest', rest = last :: rest' →
        ∃ e, Attachment.EndsWith ObservationValidator.validate
            (Run.final ObservationValidator.validate (.new mode) messages) e last ∧
          (messages.length < 2 ^ 64 → ∀ n, messages.length < n →
            Prints takes (if summary then [] else lines)
              (EStateM.Result.error (.err (.client e)))
              (main takes summary seconds mode n outcomes []))) ∧
      ∀ n exit printed, main takes summary seconds mode n outcomes [] = .error exit printed →
        exit ≠ .panic .missing ∧ exit ≠ .err .streamEnded := by
  obtain ⟨messages, rest, hDelivery⟩ :=
    Attachment.exists_delivery ObservationValidator.validate_returns (.new mode) outcomes
  obtain ⟨items, hResults, hItems⟩ := Attachment.exists_items hDelivery.accepted
  obtain ⟨⟨lines, hMessages, hLines⟩, -⟩ := exists_lines hItems
  have hLength := hItems.length_eq
  have hLoop := fun n (hn : n ≤ messages.length ∨ rest = []) =>
    hDelivery.drive_items hResults (body takes summary) ⟨0, 0, ∅⟩ hn
  have hError := fun last rest' (hRest : rest = last :: rest') =>
    hDelivery.drive_error hResults (body takes summary) Failure.client (fun _ _ => rfl)
      ⟨0, 0, ∅⟩ hRest
  refine ⟨messages, rest, lines, hDelivery, hMessages, ?_, ?_, ?_⟩
  · intro n hn hRoom
    have hTaken := List.forall₂_take n hItems
    obtain ⟨-, hSame⟩ := exists_lines hTaken
    obtain ⟨counters, hRounds, hTally⟩ := rounds_eq takes summary
      (List.forall₂_take n hLines) Counters.Tally.zero (by
        rw [Nat.zero_add, ← hTaken.length_eq]
        exact hRoom)
    rw [Nat.zero_add, List.nil_append, ← hTaken.length_eq, hSame] at hTally
    obtain ⟨hTotal, hFinish⟩ := finish_eq takes seconds hTally hRoom
    refine ⟨counters.resolved, counters.unresolved, counters.resolved + counters.unresolved,
      counters.reasons.toList, hTally.taken_eq.trans hTotal.symm, hTotal, hTally.given_eq,
      hTally.reasons.total_eq.trans hTally.given_eq.symm, fun _ _ => hTally.reasons.mem_toList,
      Std.TreeMap.ordered_keys_toList, ?_⟩
    have hMain : main takes summary seconds mode n outcomes =
        (printAll takes ((if summary then [] else lines.take n) ++ ending seconds
          counters.resolved counters.unresolved (counters.resolved + counters.unresolved)
          counters.reasons.toList) >>= fun _ => pure ()) := by
      rw [main, TransactionStream.new, hLoop n hn, hRounds, bind_assoc]
      simp only [pure_bind]
      rw [hFinish, ← printAll_append]
      exact (bind_pure _).symm
    rw [hMain]
    exact Prints.of_printAll takes _ (pure ())
  · intro last rest' hRest
    obtain ⟨e, hEnds, hCalls⟩ := hError last rest' hRest
    refine ⟨e, hEnds, fun hRoom n hn => ?_⟩
    obtain ⟨counters, hRounds, -⟩ := rounds_eq takes summary hLines
      Counters.Tally.zero (by omega)
    have hMain : main takes summary seconds mode n outcomes =
        (printAll takes (if summary then [] else lines) >>= fun _ =>
          throw (.err (.client e))) := by
      rw [main, TransactionStream.new, hCalls n hn, hRounds, bind_assoc, bind_assoc]
      rfl
    rw [hMain]
    exact Prints.of_printAll takes _ (throw (.err (Failure.client e)))
  · -- every item has its line
    have hRounds : ∀ n, Exits (fun exit => exit ≠ .panic .missing ∧ exit ≠ .err .streamEnded)
        ((items.take n).foldlM (fun self item => body takes summary self (some (.ok item)))
          ⟨0, 0, ∅⟩) :=
      fun n => Exits.foldlM (fun self item hMem =>
        (exists_of_mem hLines (List.mem_of_mem_take hMem)).elim fun _ hLine =>
          exits_body hLine self) _
    intro n exit printed hExit
    rw [main, TransactionStream.new] at hExit
    by_cases hn : n ≤ messages.length ∨ rest = []
    · rw [hLoop n hn] at hExit
      exact (hRounds n).bind (exits_finish takes seconds) _ _ _ hExit
    · rw [not_or] at hn
      obtain ⟨last, rest', hRest⟩ := List.exists_cons_of_ne_nil hn.2
      obtain ⟨e, -, hCalls⟩ := hError last rest' hRest
      have hAll := hRounds items.length
      rw [List.take_length] at hAll
      have hError : Exits (fun exit => exit ≠ .panic .missing ∧ exit ≠ .err .streamEnded)
          (throw (.err (.client e)) : Program Failure TransactionsLine Counters) :=
        Exits.throw ⟨nofun, nofun⟩
      rw [hCalls n (by omega)] at hExit
      exact (hAll.bind fun _ => hError).bind (exits_finish takes seconds) _ _ _ hExit

end TxStream
