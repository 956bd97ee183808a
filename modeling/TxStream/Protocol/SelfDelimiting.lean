import TxStream.Protocol.Classify
import TxStream.Protocol.FrameBounds
import TxStream.Wire.PrefixFree

/-!
# Frames and transactions end where they say

Neither a frame nor a transaction needs a separator behind it. A frame declares
its words in its header, a transaction is the encoding of its wire format, and
both refuse every input that is cut off.

Main results:

* `parse_of_prefix`, `parseFront_readsFront` — a frame that is cut off, and a
  frame with something behind it.
* `frames_self_delimiting` — frames need no separators.
* `tryNew_of_prefix`, `tryNew_of_extension` — the same for transactions.
* `transactions_prefix_free` — accepted transactions form a prefix-free set.
-/

namespace TxStream

open Wire Rust Format

-- ---------------------------------------------------------------------------
-- A frame that is cut off
-- ---------------------------------------------------------------------------

/-- A frame is at least as long as its header. -/
theorem ValidatedFrame.Canonical.header_le {f : ValidatedFrame} (h : f.Canonical) :
    frameHeaderBytes ≤ f.bytes.length := by
  have hWords := (FrameHeaderV1.bodyLayout_of_validate h.header_valid).words
  have hHeaderBytes : frameHeaderBytes = 256 := rfl
  unfold ValidatedFrame.bytes
  rw [h.length]
  omega

/-- A proper prefix of a frame is refused: without a whole header for the
header's sake, otherwise because the declared words are not there. -/
theorem parse_of_prefix {f : ValidatedFrame} (h : f.Canonical) {cut rest : Bytes}
    (hEq : f.bytes = cut ++ rest) (hRest : rest ≠ []) :
    ValidatedFrame.parse cut = .error (.err
      (if cut.length < frameHeaderBytes then .truncatedHeader else .truncatedFrame)) := by
  have hShorter : cut.length < f.bytes.length := by
    have := List.length_pos_iff.mpr hRest
    rw [hEq, List.length_append]
    omega
  by_cases hShort : cut.length < frameHeaderBytes
  · unfold ValidatedFrame.parse
    rw [FrameHeaderV1.decode_of_short hShort, if_pos hShort]
    rfl
  · -- the header is whole, and `decode` does not look behind it
    have hDecode : FrameHeaderV1.decode cut = .ok f.header := by
      rw [← h.decode []]
      refine FrameHeaderV1.decode_congr fun i _ hHigh => ?_
      have hFront : f.frame ++ [] = cut ++ rest := (List.append_nil _).trans hEq
      rw [hFront, List.getElem?_append_left (by omega)]
    rw [parse_of_short hDecode ?_, if_neg hShort]
    rw [Nat.mul_comm, ← h.length]
    exact hShorter

-- ---------------------------------------------------------------------------
-- A stream of frames
-- ---------------------------------------------------------------------------

/-- One frame off the front, and what follows it. -/
def parseFront (bytes : Bytes) : Option (ValidatedFrame × Bytes) :=
  match ValidatedFrame.parse bytes with
  | .error _ => none
  | .ok f => some (f, bytes.drop f.bytes.length)

/-- Parse frames off the front until nothing is left. -/
def splitFrames (bytes : Bytes) : Option (List ValidatedFrame) := splitAll parseFront bytes

/-- `parseFront` undoes concatenation: no frame is empty, and what it reads off the
front of a frame with anything behind it is that frame. -/
theorem parseFront_readsFront :
    ReadsFront parseFront ValidatedFrame.bytes ValidatedFrame.Canonical where
  nonempty f hf hEmpty := by
    have hLong := hf.header_le
    rw [hEmpty] at hLong
    exact absurd hLong (by decide)
  read_append f hf rest := by
    unfold parseFront
    rw [show f.bytes ++ rest = f.frame ++ rest from rfl, parse_of_canonical hf rest]
    simp only [ValidatedFrame.bytes, List.drop_left]

/-- **Frames are self-delimiting.** For every accepted string, its frame is a
prefix of it; every proper prefix of the frame is refused, with
`TruncatedHeader` below 256 bytes and `TruncatedFrame` otherwise; whatever
follows the frame, it parses to the same result. A concatenation of accepted
frames is split into these frames by repeated parsing, and no accepted frame is
a proper prefix of another. -/
theorem frames_self_delimiting :
    (∀ (bytes : Bytes) (f : ValidatedFrame), ValidatedFrame.parse bytes = .ok f →
      f.bytes <+: bytes ∧
      (∀ cut rest, f.bytes = cut ++ rest → rest ≠ [] →
        ValidatedFrame.parse cut = .error (.err
          (if cut.length < frameHeaderBytes then .truncatedHeader else .truncatedFrame))) ∧
      ∀ suffix, ValidatedFrame.parse (f.bytes ++ suffix) = .ok f) ∧
    (∀ frames : List ValidatedFrame,
      (∀ f ∈ frames, ∃ bytes, ValidatedFrame.parse bytes = .ok f) →
      splitFrames (frames.flatMap ValidatedFrame.bytes) = some frames) ∧
    PrefixFree fun w => ∃ bytes f, ValidatedFrame.parse bytes = .ok f ∧ f.bytes = w := by
  refine ⟨?_, ?_, ?_⟩
  · intro bytes f hParse
    obtain ⟨hCanonical, rest, hBytes⟩ := parse_inv hParse
    refine ⟨⟨rest, hBytes.symm⟩, ?_, parse_of_canonical hCanonical⟩
    intro cut rest' hEq hRest
    exact parse_of_prefix hCanonical hEq hRest
  · intro frames hFrames
    refine parseFront_readsFront.splitAll_flatMap fun f hf => ?_
    obtain ⟨bytes, hParse⟩ := hFrames f hf
    exact (parse_inv hParse).1
  · rintro w s ⟨bytes, f, hParse, hWord⟩ ⟨bytes', f', hParse', hWord'⟩
    exact parseFront_readsFront.prefixFree w s ⟨f, (parse_inv hParse).1, hWord⟩
      ⟨f', (parse_inv hParse').1, hWord'⟩

/-- The sample frame: cut off, followed by itself, and split again. -/
theorem frames_self_delimiting_sample :
    ∃ f, ValidatedFrame.parse (sampleParts.frame sampleMetadata) = .ok f ∧
      f.bytes <+: sampleParts.frame sampleMetadata ∧
      ValidatedFrame.parse (f.bytes.take 100) = .error (.err .truncatedHeader) ∧
      splitFrames ([f, f].flatMap ValidatedFrame.bytes) = some [f, f] := by
  obtain ⟨hEach, hSplit, -⟩ := frames_self_delimiting
  have hCanonical := sampleParts_encodable.canonical
  have hParse : ValidatedFrame.parse (sampleParts.frame sampleMetadata) =
      .ok (sampleParts.validated sampleMetadata sampleV0.view) := by
    have h := parse_of_canonical hCanonical []
    rwa [List.append_nil] at h
  have hLong : 256 ≤ (sampleParts.validated sampleMetadata sampleV0.view).bytes.length :=
    hCanonical.header_le
  obtain ⟨hPrefix, hCut, -⟩ := hEach _ _ hParse
  refine ⟨_, hParse, hPrefix, ?_, hSplit _ ?_⟩
  · have hTake := List.length_take_of_le (Nat.le_trans (show 100 ≤ 256 by decide) hLong)
    rw [hCut _ _ (List.take_append_drop 100 _).symm, if_pos]
    · rw [hTake]
      decide
    · rw [ne_eq, List.drop_eq_nil_iff]
      omega
  · intro f hf
    rw [List.mem_pair, or_self] at hf
    subst hf
    exact ⟨_, hParse⟩

-- ---------------------------------------------------------------------------
-- Transactions
-- ---------------------------------------------------------------------------

/-- Serializations of legacy and v0 transactions are prefix free. -/
theorem PacketTransaction.serialize_prefixFree :
    PrefixFree fun w => ∃ tx : PacketTransaction, tx.WellFormed ∧ tx.serialize = w := by
  have h := (packetFormat compactU16).prefixFree
  simpa only [packetFormat_valid_iff, @packetFormat_encode compactU16 rfl] using h

/-- Serializations of v1 transactions are prefix free. -/
theorem V1Transaction.serialize_prefixFree :
    PrefixFree fun w => ∃ tx : V1Transaction, tx.WellFormed ∧ tx.serialize = w := by
  rintro w s ⟨tx, hValid, hWord⟩ ⟨tx', hValid', hWord'⟩
  refine v1Format.prefixFree w s ⟨tx, (v1Format_valid_iff tx).mpr hValid, ?_⟩
    ⟨tx', (v1Format_valid_iff tx').mpr hValid', ?_⟩
  · rw [v1Format_encode tx hValid, hWord]
  · rw [v1Format_encode tx' hValid', hWord']

/-- A short string with a legacy or v0 start that is no serialization. -/
theorem tryNew_of_not_packet {bytes : Bytes} {b : UInt8} (hFirst : bytes.head? = some b)
    (hLow : b.toNat < 0x80) (hShort : bytes.length ≤ 1232)
    (hNone : ∀ tx : PacketTransaction, tx.WellFormed → tx.serialize ≠ bytes) :
    tryNew bytes = .error .parse := by
  rw [tryNew_of_lowBit hFirst hLow, if_neg (not_lt.mpr hShort)]
  rcases tryNewLegacyV0_cases (show bytes.length < 16384 by omega) with
    ⟨-, hNew⟩ | ⟨tx, hDec, -, -⟩
  · exact hNew
  · obtain ⟨hValid, hEq⟩ := (packetFormat_decode_iff (by omega) tx).mp hDec
    exact absurd hEq (hNone tx hValid)

/-- A short string with a v1 start that is no serialization. -/
theorem tryNew_of_not_v1 {bytes : Bytes} (hFirst : bytes.head? = some v1Prefix)
    (hShort : bytes.length ≤ 4096)
    (hNone : ∀ tx : V1Transaction, tx.WellFormed → tx.serialize ≠ bytes) :
    tryNew bytes = .error .parse := by
  rw [tryNew_of_v1Prefix hFirst]
  rcases tryNewV1_cases hShort hFirst with ⟨-, hNew⟩ | ⟨tx, hDec, -⟩
  · exact hNew
  · obtain ⟨hValid, hEq⟩ := (v1Format_decode_iff tx).mp hDec
    exact absurd hEq (hNone tx hValid)

/-- A legacy or v0 serialization starts below the version prefix. -/
theorem PacketTransaction.first_lt {tx : PacketTransaction} (h : tx.WellFormed) :
    (UInt8.ofNat tx.signatures.length).toNat < 0x80 := by
  have := h.signatures_le
  rw [UInt8.toNat_ofNat']
  omega

/-- A transaction that is cut off does not parse. -/
theorem tryNew_of_prefix {bytes cut rest : Bytes} {view : SanitizedTransactionView}
    (h : tryNew bytes = .ok view) (hEq : bytes = cut ++ rest) (hRest : rest ≠ []) :
    tryNew cut = .error .parse := by
  cases cut with
  | nil => exact tryNew_nil
  | cons b cut =>
    have hCut : (b :: cut).length ≤ bytes.length := by
      rw [hEq, List.length_append]
      omega
    cases tryNew_eq_ok.mp h with
    | packet tx hValid _ _ hBytes hShort =>
      have hFirst : some (UInt8.ofNat tx.signatures.length) = some b := by
        rw [← head?_serialize, hBytes, hEq]
        rfl
      refine tryNew_of_not_packet rfl ?_ (by omega) fun tx' hValid' hEq' => ?_
      · rw [← Option.some.inj hFirst]
        exact tx.first_lt hValid
      · exact hRest (PacketTransaction.serialize_prefixFree _ rest ⟨tx', hValid', hEq'⟩
          ⟨tx, hValid, hBytes.trans hEq⟩)
    | v1 tx hValid _ hBytes hShort =>
      have hFirst : (b :: cut).head? = some v1Prefix := by
        rw [← head?_serialize_v1 tx, hBytes, hEq]
        rfl
      refine tryNew_of_not_v1 hFirst (by omega) fun tx' hValid' hEq' => ?_
      exact hRest (V1Transaction.serialize_prefixFree _ rest ⟨tx', hValid', hEq'⟩
        ⟨tx, hValid, hBytes.trans hEq⟩)

/-- A transaction with something behind it does not parse, or is too long. -/
theorem tryNew_of_extension {bytes suffix : Bytes} {view : SanitizedTransactionView}
    (h : tryNew bytes = .ok view) (hSuffix : suffix ≠ []) :
    tryNew (bytes ++ suffix) = .error
      (if (bytes ++ suffix).length ≤ rawLimit view.messageVersion.wireVersion then .parse
        else .sanitize) := by
  have hAccepted := tryNew_eq_ok.mp h
  by_cases hShort : (bytes ++ suffix).length ≤ rawLimit view.messageVersion.wireVersion
  · rw [if_pos hShort]
    cases hAccepted with
    | packet tx hValid _ _ hBytes _ =>
      have hFirst : (bytes ++ suffix).head? = some (UInt8.ofNat tx.signatures.length) := by
        rw [List.head?_append, ← hBytes, head?_serialize]
        rfl
      rw [tx.rawLimit_eq hValid] at hShort
      refine tryNew_of_not_packet hFirst (tx.first_lt hValid) hShort fun tx' hValid' hEq' => ?_
      exact hSuffix (PacketTransaction.serialize_prefixFree _ suffix ⟨tx, hValid, hBytes⟩
        ⟨tx', hValid', hEq'⟩)
    | v1 tx hValid _ hBytes _ =>
      have hFirst : (bytes ++ suffix).head? = some v1Prefix := by
        rw [List.head?_append, ← hBytes, head?_serialize_v1]
        rfl
      refine tryNew_of_not_v1 hFirst hShort fun tx' hValid' hEq' => ?_
      exact hSuffix (V1Transaction.serialize_prefixFree _ suffix ⟨tx, hValid, hBytes⟩
        ⟨tx', hValid', hEq'⟩)
  · rw [if_neg hShort]
    exact tryNew_oversize (hAccepted.announced.append suffix) (not_le.mp hShort)

/-- **Accepted transactions form a prefix-free set**, across the legacy, v0 and
v1 formats. Every proper prefix of an accepted string is refused with `Parse`,
and every proper extension with `Parse` up to the raw limit of the version and
with `Sanitize` beyond it. -/
theorem transactions_prefix_free :
    (∀ (bytes : Bytes) (view : SanitizedTransactionView), tryNew bytes = .ok view →
      (∀ cut rest, bytes = cut ++ rest → rest ≠ [] → tryNew cut = .error .parse) ∧
      ∀ suffix, suffix ≠ [] → tryNew (bytes ++ suffix) = .error
        (if (bytes ++ suffix).length ≤ rawLimit view.messageVersion.wireVersion then .parse
          else .sanitize)) ∧
    PrefixFree fun w => ∃ view, tryNew w = .ok view := by
  refine ⟨?_, ?_⟩
  · intro bytes view hAccepted
    exact ⟨fun cut rest hEq hRest => tryNew_of_prefix hAccepted hEq hRest,
      fun suffix hSuffix => tryNew_of_extension hAccepted hSuffix⟩
  · rintro w s ⟨view, hAccepted⟩ ⟨view', hAccepted'⟩
    by_contra hSuffix
    rw [tryNew_of_extension hAccepted hSuffix] at hAccepted'
    cases hAccepted'

/-- The sample v0 transaction without its last byte, with one byte more, and
with a thousand bytes more. -/
theorem transactions_prefix_free_sample :
    tryNew sampleV0.serialize.dropLast = .error .parse ∧
    tryNew (sampleV0.serialize ++ [0]) = .error .parse ∧
    tryNew (sampleV0.serialize ++ zeros 1232) = .error .sanitize := by
  obtain ⟨hEach, -⟩ := transactions_prefix_free
  obtain ⟨hCut, hExtend⟩ := hEach _ _ tryNew_sampleV0
  have hNonempty : sampleV0.serialize ≠ [] := by decide
  refine ⟨hCut _ _ (List.dropLast_concat_getLast hNonempty).symm (List.cons_ne_nil _ _), ?_, ?_⟩
  · rw [hExtend [0] (List.cons_ne_nil _ _), if_pos (by decide +kernel)]
  · rw [hExtend (zeros 1232) (by decide), if_neg (by decide +kernel)]

end TxStream
