import TxStream.Client.Attachment
import TxStream.Client.FilterRequest

/-!
# What the message limit costs

`from_channel` has the transport refuse messages beyond `max_message_bytes` before
they are decoded, so before any validator has seen them. What it compares with the
limit is the length on the wire. This is not a function of the payload: a sender may
add unknown fields, or write a field more than once. So the length is part of what is
received here, and the payload is what it decodes to.

`connect` bounds the limit from below, with a constant that is compared with nothing
else. What a validator can accept is short: a frame is, and so is an unresolved
transaction with its reason.

* `length_canonical_le`, `length_unresolved_le` — how long accepted messages are, in
  the encoding that has nothing to spare.
* `Attachment.calls_within_iff` — a limit cannot be told from none, but by the error that
  ends the attachment, exactly if it refuses no message that is delivered without it.
* `limits_transparent` — the limits of a checked configuration.
-/

namespace TxStream

open Wire Rust

/-- A message as it comes over the wire: what it decodes to, and the bytes that it
takes up there. -/
structure WireMessage (μ : Type) where
  payload : μ
  length : Nat

/-- `message()` of a transport that decodes everything. -/
def Message.decoded {μ : Type} : Message (WireMessage μ) → Message μ
  | .message wire => .message wire.payload
  | .endOfStream => .endOfStream
  | .status code => .status code

/-- `message()` of a transport that does not decode what is longer than the limit, and
answers with a status of its own instead. -/
def Message.within {μ : Type} (limit : Nat) (code : Code) :
    Message (WireMessage μ) → Message μ
  | .message wire => if wire.length > limit then .status code else .message wire.payload
  | .endOfStream => .endOfStream
  | .status code => .status code

/-- What decodes to messages are messages. -/
theorem Message.decoded_eq_messages {μ : Type} {outcomes : List (Message (WireMessage μ))}
    {messages : List μ} (h : outcomes.map Message.decoded = messages.map Message.message) :
    ∃ wires : List (WireMessage μ), outcomes = wires.map Message.message ∧
      messages = wires.map WireMessage.payload := by
  induction outcomes generalizing messages with
  | nil => exact ⟨[], rfl, List.map_eq_nil_iff.mp h.symm⟩
  | cons outcome outcomes ih =>
    cases messages with
    | nil => cases h
    | cons message messages =>
      obtain ⟨hFirst, hRest⟩ := List.cons.inj h
      obtain ⟨wires, rfl, rfl⟩ := ih hRest
      cases outcome with
      | message wire =>
        obtain rfl := Message.message.inj hFirst
        exact ⟨wire :: wires, rfl, rfl⟩
      | endOfStream => cases hFirst
      | status code => cases hFirst

-- ---------------------------------------------------------------------------
-- Attachments with a limit
-- ---------------------------------------------------------------------------

namespace Attachment

variable {ν μ α : Type} {validate : μ → EStateM (Fault Error) ν α} {limit : Nat} {code : Code}
  {validator : ν}

/-- The outcomes of the transport, with and without a limit. -/
def unlimited (fresh : ν) (outcomes : List (Message (WireMessage μ))) :
    Attachment (List (Message μ)) ν :=
  ⟨outcomes.map .decoded, fresh, false⟩

def limited (limit : Nat) (code : Code) (fresh : ν) (outcomes : List (Message (WireMessage μ))) :
    Attachment (List (Message μ)) ν :=
  ⟨outcomes.map (.within limit code), fresh, false⟩

/-- The result of a call without the error that it carries. -/
def item? (result : Option (Except (Fault Error) α)) : Option (Option α) :=
  result.map Except.toOption

/-- The results of `n` calls without the errors that they carry. -/
def items (validate : μ → EStateM (Fault Error) ν α) (n : Nat)
    (self : Attachment (List (Message μ)) ν) : List (Option (Option α)) :=
  (calls validate n self).1.map item?

/-- What is not accepted is not accepted behind the limit either. -/
theorem receive_within_error {outcome : Message (WireMessage μ)} {e : Fault Error}
    {validator' : ν} (h : receive validate outcome.decoded validator = .error e validator') :
    ∃ e' validator'', receive validate (outcome.within limit code) validator =
      .error e' validator'' := by
  cases outcome with
  | message wire =>
    by_cases hLong : wire.length > limit
    · rw [Message.within, if_pos hLong]
      exact ⟨_, _, rfl⟩
    · rw [Message.within, if_neg hLong]
      exact ⟨_, _, h⟩
  | endOfStream => exact ⟨_, _, h⟩
  | status code => exact ⟨_, _, h⟩

/-- At the first outcome that is not accepted, there is one error with or without the
limit, and `None` from then on. -/
theorem items_stop {rest : List (Message (WireMessage μ))}
    (hStops : ∀ last rest', rest = last :: rest' →
      ∃ e validator', receive validate last.decoded validator = .error e validator') (n : Nat) :
    items validate n (limited limit code validator rest) =
      items validate n (unlimited validator rest) := by
  cases n with
  | zero => rfl
  | succ n =>
    cases rest with
    | nil => rfl
    | cons last rest =>
      obtain ⟨e, validator', hDecoded⟩ := hStops last rest rfl
      obtain ⟨e', validator'', hWithin⟩ := receive_within_error hDecoded
      unfold items limited unlimited
      rw [List.map_cons, List.map_cons, calls_error hDecoded, calls_error hWithin]
      rfl

/-- **When a limit costs nothing.** Let these be the messages that are delivered without
a limit, and the outcome behind them one that is not accepted. Then a limit leaves every
call with the result that it has without, the error apart, exactly if none of these
messages is longer. -/
theorem calls_within_iff {wires : List (WireMessage μ)} {rest : List (Message (WireMessage μ))}
    (hAccepts : Run.Accepts validate validator (wires.map WireMessage.payload))
    (hStops : ∀ last rest', rest = last :: rest' → ∃ e validator', receive validate last.decoded
      (Run.final validate validator (wires.map WireMessage.payload)) = .error e validator') :
    (∀ n, items validate n (limited limit code validator (wires.map .message ++ rest)) =
        items validate n (unlimited validator (wires.map .message ++ rest))) ↔
      ∀ wire ∈ wires, wire.length ≤ limit := by
  induction wires generalizing validator with
  | nil => exact iff_of_true (fun n => items_stop hStops n) nofun
  | cons wire wires ih =>
    obtain ⟨item, validator', hOk, hRest⟩ := Run.accepts_cons.mp hAccepts
    rw [List.map_cons, Run.final_cons, hOk] at hStops
    have hUnlimited : ∀ n, items validate (n + 1) (unlimited validator
        ((wire :: wires).map .message ++ rest)) =
          some (some item) :: items validate n (unlimited validator' (wires.map .message ++ rest)) := by
      intro n
      unfold items unlimited
      rw [List.map_cons, List.cons_append, List.map_cons, Message.decoded, calls_message hOk]
      rfl
    rw [List.forall_mem_cons]
    by_cases hLong : wire.length > limit
    · -- the first call returns an error instead of the item
      refine iff_of_false (fun hSame => ?_) fun hShort => Nat.not_lt.mpr hShort.1 hLong
      have hFirst := hSame 1
      have hError : receive validate (Message.within limit code (.message wire)) validator =
          .error (.err (.status code)) validator := by
        rw [Message.within, if_pos hLong]
        rfl
      rw [hUnlimited] at hFirst
      unfold items limited at hFirst
      rw [List.map_cons, List.cons_append, List.map_cons, calls_error hError] at hFirst
      cases hFirst
    · have hLimited : ∀ n, items validate (n + 1) (limited limit code validator
          ((wire :: wires).map .message ++ rest)) =
            some (some item) ::
              items validate n (limited limit code validator' (wires.map .message ++ rest)) := by
        intro n
        unfold items limited
        rw [List.map_cons, List.cons_append, List.map_cons, Message.within, if_neg hLong,
          calls_message hOk]
        rfl
      rw [and_iff_right (Nat.not_lt.mp hLong), ← ih hRest hStops]
      constructor
      · intro hSame n
        have hNext := hSame (n + 1)
        rw [hLimited, hUnlimited] at hNext
        exact (List.cons.inj hNext).2
      · intro hSame n
        cases n with
        | zero => rfl
        | succ n => rw [hLimited, hUnlimited, hSame n]

/-- Only what has a short encoding is accepted, in whatever state. -/
def Fits (validate : μ → EStateM (Fault Error) ν α) (encode : μ → Bytes) (limit : Nat) : Prop :=
  ∀ frame validator item validator', validate frame validator = .ok item validator' →
    (encode frame).length ≤ limit

/-- Hence so has everything that is delivered. -/
theorem Fits.of_accepts {encode : μ → Bytes} (hFits : Fits validate encode limit)
    {messages : List μ} (h : Run.Accepts validate validator messages) {message : μ}
    (hMem : message ∈ messages) : (encode message).length ≤ limit := by
  obtain ⟨before, after, rfl⟩ := List.append_of_mem hMem
  obtain ⟨-, hMessage⟩ := Run.accepts_append.mp h
  obtain ⟨item, validator', hOk, -⟩ := Run.accepts_cons.mp hMessage
  exact hFits _ _ _ _ hOk

end Attachment

-- ---------------------------------------------------------------------------
-- How long accepted messages are
-- ---------------------------------------------------------------------------

/-- A complete frame. -/
theorem Resolved.length_le {bytes : Bytes} {frame : ValidatedFrame} (h : Resolved bytes frame) :
    bytes.length ≤ 9648 := by
  obtain ⟨hCanonical, -⟩ := parse_eq_ok.mp h.parse
  have hEncodable := hCanonical.encodable
  have hFrame := FrameParts.length_frame frame.header.metadata hEncodable
  have hBound := FrameParts.frameLength_le (FrameParts.bodyLength_le hEncodable.accepted
    hEncodable.writableCount hEncodable.readonlyCount)
  rw [hCanonical.parts_frame, List.length_append, List.length_drop, length_zeros] at hFrame
  rw [← h.complete]
  omega

/-- Either message around a complete frame. -/
theorem length_canonical_le {bytes : Bytes} {frame : ValidatedFrame} (h : Resolved bytes frame) :
    (Proto.ResolvedTransactionFrame.mk bytes).encode.length ≤ 9651 ∧
      (Proto.TransactionFrame.mk (some (.canonicalV1 bytes))).encode.length ≤ 9651 := by
  have hLength := h.length_le
  obtain ⟨hResolved, hTransaction⟩ := @Proto.length_encode_le bytes (by omega)
  exact ⟨by omega, by omega⟩

/-- A number field of 64 bits. -/
theorem length_varintField_le {field : Nat} (hField : field < 16) (value : UInt64) :
    (varintField field value.toNat).length ≤ 11 := by
  have hTag := length_varint_le 0 (show 8 * field < 128 ^ 1 by omega)
  have hValue := length_varint_le 9 (show value.toNat < 128 ^ 10 from
    Nat.lt_trans value.toNat_lt (by decide))
  unfold varintField
  split
  · exact Nat.zero_le _
  · rw [List.length_append]
    omega

theorem length_bytesField_le {field : Nat} {payload : Bytes} (hField : field < 15)
    (hPayload : payload.length < 16384) :
    (bytesField field payload).length ≤ payload.length + 3 := by
  unfold bytesField
  split
  · exact Nat.zero_le _
  · exact length_lengthDelimited_le hField hPayload

theorem length_toList_loop (bytes : ByteArray) (i : Nat) (front : List UInt8) :
    (ByteArray.toList.loop bytes i front).length = front.length + (bytes.size - i) := by
  fun_induction ByteArray.toList.loop bytes i front with
  | case1 i front hLess ih =>
    rw [ih, List.length_cons]
    omega
  | case2 i front hDone =>
    rw [List.length_reverse]
    omega

theorem length_toList (bytes : ByteArray) : bytes.toList.length = bytes.size :=
  (length_toList_loop bytes 0 []).trans (Nat.zero_add _)

/-- An unresolved transaction with its reason. -/
theorem length_unresolved_le {raw : Proto.UnresolvedTransaction}
    (h : ObservationValidator.UnresolvedValid raw) :
    (Proto.TransactionFrame.mk (some (.unresolved raw))).encode.length ≤ 9651 := by
  have hTransaction : raw.transaction.length ≤ 4096 := by
    obtain ⟨view, hView⟩ := h.accepted
    cases tryNew_eq_ok.mp hView with
    | packet tx _ _ _ _ hShort => omega
    | v1 tx _ _ _ hShort => exact hShort
  have hReason : raw.reason.toUTF8.toList.length ≤ 128 := by
    rw [length_toList]
    exact h.reason_le
  have hEpoch := length_varintField_le (show 1 < 16 by decide) raw.producerEpoch
  have hSequence := length_varintField_le (show 2 < 16 by decide) raw.structuralSequence
  have hSlot := length_varintField_le (show 3 < 16 by decide) raw.slot
  have hBytes := length_bytesField_le (show 4 < 15 by decide)
    (show raw.transaction.length < 16384 by omega)
  have hText := length_bytesField_le (show 5 < 15 by decide)
    (show raw.reason.toUTF8.toList.length < 16384 by omega)
  have hRaw : raw.encode.length ≤ 4263 := by
    unfold Proto.UnresolvedTransaction.encode
    simp only [List.length_append]
    omega
  have hField := length_lengthDelimited_le (show 2 < 15 by decide)
    (show raw.encode.length < 16384 by omega)
  show (lengthDelimited 2 raw.encode).length ≤ 9651
  omega

theorem FastpathStream.fits {limit : Nat} (hLimit : 9651 ≤ limit) :
    Attachment.Fits FastpathStream.validate Proto.ResolvedTransactionFrame.encode limit := by
  intro frame validator item validator' hOk
  obtain ⟨f, hResolved, -⟩ := FastpathStream.validate_eq_ok.mp hOk
  rcases validator.validateResolved_cases frame.canonicalV1 with ⟨f', h, -, -⟩ | ⟨-, e, hError⟩
  · exact (length_canonical_le h).1.trans hLimit
  · rw [hError] at hResolved
    cases hResolved

theorem ObservationValidator.fits {limit : Nat} (hLimit : 9651 ≤ limit) :
    Attachment.Fits ObservationValidator.validate Proto.TransactionFrame.encode limit := by
  rintro ⟨payload⟩ validator item validator' hOk
  match payload with
  | none => cases hOk
  | some (.canonicalV1 bytes) =>
    obtain ⟨f, canonical, hResolved, -⟩ := ObservationValidator.validate_canonical_eq_ok.mp hOk
    rcases validator.canonical.validateResolved_cases bytes with ⟨f', h, -, -⟩ | ⟨-, e, hError⟩
    · exact (length_canonical_le h).2.trans hLimit
    · rw [hError] at hResolved
      cases hResolved
  | some (.unresolved raw) =>
    obtain ⟨hValid, -⟩ := ObservationValidator.validate_unresolved_eq_ok.mp hOk
    exact (length_unresolved_le hValid).trans hLimit

/-- The bytes that a message may have beyond its shortest encoding. -/
def spareBytes : Nat := 12300 - 9651

/-- What a limit costs one attachment, whose messages without a limit are these. -/
structure Attachment.Transparent {μ ν α : Type} (validate : μ → EStateM (Fault Error) ν α)
    (encode : μ → Bytes) (limit : Nat) (code : Code) (fresh : ν)
    (outcomes : List (Message (WireMessage μ))) (wires : List (WireMessage μ))
    (rest : List (Message (WireMessage μ))) : Prop where
  split : outcomes = wires.map .message ++ rest
  delivery : Delivery validate fresh (outcomes.map .decoded) (wires.map WireMessage.payload)
    (rest.map .decoded)
  /-- The limit shows exactly if one of them is longer. -/
  same_iff : (∀ n, items validate n (limited limit code fresh outcomes) =
    items validate n (unlimited fresh outcomes)) ↔ ∀ wire ∈ wires, wire.length ≤ limit
  /-- And never with a sender that has little to spare. -/
  same : (∀ wire ∈ wires, wire.length ≤ (encode wire.payload).length + spareBytes) →
    ∀ n, items validate n (limited limit code fresh outcomes) =
      items validate n (unlimited fresh outcomes)

theorem Attachment.exists_transparent {μ ν α : Type} {validate : μ → EStateM (Fault Error) ν α}
    (hReturns : ∀ frame validator, Run.outcome (validate frame validator) ≠ .error .panic)
    {encode : μ → Bytes} {limit : Nat} (hFits : Fits validate encode 9651) (hLimit : 12300 ≤ limit)
    (code : Code) (fresh : ν) (outcomes : List (Message (WireMessage μ))) :
    ∃ wires rest, Transparent validate encode limit code fresh outcomes wires rest := by
  obtain ⟨messages, rest, hDelivery⟩ := exists_delivery hReturns fresh (outcomes.map .decoded)
  obtain ⟨front, back, rfl, hFront, rfl⟩ := List.map_eq_append_iff.mp hDelivery.split
  obtain ⟨wires, rfl, rfl⟩ := Message.decoded_eq_messages hFront
  have hStops : ∀ last rest', back = last :: rest' → ∃ e validator', receive validate last.decoded
      (Run.final validate fresh (wires.map WireMessage.payload)) = .error e validator' := by
    rintro last rest' rfl
    -- otherwise one more message would be accepted
    cases hStep : receive validate last.decoded
        (Run.final validate fresh (wires.map WireMessage.payload)) with
    | error e validator' => exact ⟨e, validator', rfl⟩
    | ok item validator' =>
      cases last with
      | message wire =>
        refine absurd ?_ (hDelivery.longest wire.payload _ rfl)
        exact Run.accepts_append.mpr
          ⟨hDelivery.accepted, Run.accepts_cons.mpr ⟨item, validator', hStep, Run.accepts_nil⟩⟩
      | endOfStream => cases hStep
      | status code => cases hStep
  have hIff : (∀ n, items validate n (limited limit code fresh (wires.map .message ++ back)) =
      items validate n (unlimited fresh (wires.map .message ++ back))) ↔
      ∀ wire ∈ wires, wire.length ≤ limit := calls_within_iff hDelivery.accepted hStops
  refine ⟨wires, back, rfl, hDelivery, hIff, fun hSpare => hIff.mpr fun wire hMem => ?_⟩
  have hEncoded := hFits.of_accepts hDelivery.accepted (List.mem_map_of_mem hMem)
  have hWire := hSpare wire hMem
  unfold spareBytes at hWire
  omega

/-- **What the message limit costs.** With any configuration that `connect` checks, and
whatever arrives: every call of `next` of either attachment returns what it would return
without a limit on messages, the same items in the same places, and an error or `None`
where it would return one, exactly if no message that is delivered without a limit is
longer on the wire than `max_message_bytes`. None is, if it takes up at most
2649 bytes more than its shortest encoding. Only the error may be another, since what
is too long is not decoded. -/
theorem limits_transparent {config : TransportConfig}
    (hConfig : FastpathClient.checkConfig config = .ok ()) (mode : CanonicalStreamMode)
    (code : Code) :
    (∀ outcomes, ∃ wires rest, Attachment.Transparent FastpathStream.validate
      Proto.ResolvedTransactionFrame.encode
      (FastpathClient.fromChannel config).wire.maxDecodingMessageSize code (.new mode)
      outcomes wires rest) ∧
    ∀ outcomes, ∃ wires rest, Attachment.Transparent ObservationValidator.validate
      Proto.TransactionFrame.encode
      (FastpathClient.fromChannel config).observations.maxDecodingMessageSize code (.new mode)
      outcomes wires rest := by
  have hLimit : 12300 ≤ config.maxMessageBytes := FastpathClient.maxMessageBytes_ge hConfig
  exact ⟨Attachment.exists_transparent FastpathStream.validate_returns
      (FastpathStream.fits le_rfl) hLimit code (.new mode),
    Attachment.exists_transparent ObservationValidator.validate_returns
      (ObservationValidator.fits le_rfl) hLimit code (.new mode)⟩

/-- The sample frame, with as many unknown bytes as there is room for, is delivered
behind the default limit. -/
theorem limits_transparent_sample :
    Attachment.items FastpathStream.validate 1 (Attachment.limited
        (FastpathClient.fromChannel .default).wire.maxDecodingMessageSize .outOfRange
        (.new .matchAll) [.message ⟨⟨samplePayload⟩,
          (Proto.ResolvedTransactionFrame.encode ⟨samplePayload⟩).length + spareBytes⟩]) =
      [some (some ⟨samplePayload⟩)] := by
  obtain ⟨hResolved, -⟩ := limits_transparent FastpathClient.default_checked .matchAll .outOfRange
  obtain ⟨validator, hOk⟩ := CanonicalStreamValidator.samplePayload_accepted .matchAll
  have hValidate : FastpathStream.validate ⟨samplePayload⟩ (.new .matchAll) =
      .ok ⟨samplePayload⟩ validator := FastpathStream.validate_eq_ok.mpr ⟨_, hOk, rfl⟩
  -- nothing below computes with the bytes
  generalize samplePayload = payload at hValidate ⊢
  obtain ⟨wires, rest, h⟩ := hResolved [.message ⟨⟨payload⟩,
    (Proto.ResolvedTransactionFrame.encode ⟨payload⟩).length + spareBytes⟩]
  refine (h.same (fun wire hMem => ?_) 1).trans ?_
  · have hOutcome : Message.message wire ∈ wires.map .message ++ rest :=
      List.mem_append_left _ (List.mem_map_of_mem hMem)
    rw [← h.split] at hOutcome
    obtain rfl := Message.message.inj (List.mem_singleton.mp hOutcome)
    exact le_rfl
  · unfold Attachment.items Attachment.unlimited
    rw [List.map_singleton, Message.decoded, Attachment.calls_message hValidate]
    rfl

end TxStream
