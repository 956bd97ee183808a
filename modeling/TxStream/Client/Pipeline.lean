import TxStream.Client.ObservationFeed

/-!
# From the encoder to the consumer

A producer encodes its frames with `encode_into`, each into a buffer that may hold
anything. What a consumer reads from the transactions that its attachment delivers
is what the encoder was given.

* `Publication.produced` — what was encoded is a frame of a producer.
* `pipeline` — encoder, filter, transport and both attachments, end to end.
-/

namespace TxStream

open Wire Rust

/-- A frame that was encoded, with what filters look at. -/
structure Publication where
  metadata : FrameMetadataV1
  parts : FrameParts
  /-- The buffer before and after. -/
  output : Bytes
  output' : Bytes
  length : Nat
  encoded : FrameEncoder.encodeInto metadata parts output = .ok length output'
  sanitized : metadata.flags.contains .transactionSanitized = true
  lutResolved : metadata.flags.contains .lutResolved = true
  vote : Bool
  keys : List Bytes

namespace Publication

/-- What is sent of the buffer. -/
def payload (self : Publication) : Bytes := self.output'.take self.length

/-- A call that succeeded was given parts that can be encoded, and wrote their frame. -/
theorem exists_encodable (self : Publication) : ∃ view,
    self.parts.Encodable self.metadata view ∧
      self.payload = self.parts.frame self.metadata := by
  rcases FrameEncoder.encodeInto_cases self.metadata self.parts self.output with
    ⟨view, hEncodable, -, hOk⟩ | ⟨e, hError⟩
  · refine ⟨view, hEncodable, ?_⟩
    obtain ⟨hLength, hOutput⟩ := EStateM.Result.ok.inj (self.encoded.symm.trans hOk)
    rw [payload, hLength, hOutput]
    exact List.take_left' (FrameParts.length_frame self.metadata hEncodable)
  · exact nomatch self.encoded.symm.trans hError

/-- The transaction of the parts was accepted. -/
theorem view_isSome (self : Publication) : (tryNew self.parts.transaction).toOption.isSome := by
  obtain ⟨view, hEncodable, -⟩ := self.exists_encodable
  rw [hEncodable.accepted]
  rfl

/-- The view of that transaction. -/
def view (self : Publication) : SanitizedTransactionView :=
  (tryNew self.parts.transaction).toOption.get self.view_isSome

/-- The view of a publication is what `try_new` returns. -/
theorem tryNew_eq (self : Publication) : tryNew self.parts.transaction = .ok self.view := by
  obtain ⟨view, hEncodable, -⟩ := self.exists_encodable
  have hView : self.view = view := by
    rw [Publication.view]
    simp only [hEncodable.accepted, Except.toOption, Option.get_some]
  rw [hView]
  exact hEncodable.accepted

/-- The parts can be encoded, with that view. -/
theorem encodable (self : Publication) : self.parts.Encodable self.metadata self.view := by
  obtain ⟨view, hEncodable, -⟩ := self.exists_encodable
  obtain rfl := Except.ok.inj (hEncodable.accepted.symm.trans self.tryNew_eq)
  exact hEncodable

/-- What is sent does not depend on the buffer that was written to. -/
theorem payload_eq (self : Publication) : self.payload = self.parts.frame self.metadata := by
  obtain ⟨-, -, hPayload⟩ := self.exists_encodable
  exact hPayload

/-- **What was encoded is a frame of a producer.** -/
def produced (self : Publication) : Produced where
  payload := self.payload
  frame := self.parts.validated self.metadata self.view
  resolved := by
    have hParse := parse_of_canonical self.encodable.canonical []
    rw [List.append_nil] at hParse
    -- the decoder undoes the encoder; the flags are those of the metadata
    rw [self.payload_eq]
    exact ⟨hParse, rfl, self.sanitized, self.lutResolved⟩
  vote := self.vote
  keys := self.keys

end Publication

/-- One epoch, and consecutive canonical sequences. -/
def PublicationRun (publications : List Publication) : Prop :=
  publications.IsChain fun previous next =>
    next.metadata.producerEpoch = previous.metadata.producerEpoch ∧
      next.metadata.canonicalSequence.toNat = previous.metadata.canonicalSequence.toNat + 1

/-- The headers have the numbers of the metadata, so the frames of such a run are those
of a producer. -/
theorem PublicationRun.producerRun {publications : List Publication}
    (h : PublicationRun publications) : ProducerRun (publications.map Publication.produced) :=
  (List.isChain_map _).mpr h

/-- The publications that a filter selects. -/
def ResolvedFilter.publications (self : ResolvedFilter) (publications : List Publication) :
    List Publication :=
  publications.filter fun publication => self.Selects publication.vote publication.keys

/-- A filter does not look at how a frame was made. -/
theorem ResolvedFilter.selected_produced (self : ResolvedFilter)
    (publications : List Publication) :
    self.selected (publications.map Publication.produced) =
      (self.publications publications).map Publication.produced := by
  rw [selected, List.filter_map]
  rfl

/-- A delivered transaction reads as what was given to the encoder. -/
structure Reads (publication : Publication) (tx : ResolvedTransaction) : Prop where
  bytes : tx.canonicalBytes = publication.payload
  frame : ∃ frame, tx.frame = some frame ∧
    frame.header.metadata = publication.metadata ∧
    frame.transactionBytes = publication.parts.transaction ∧
    tryNew publication.parts.transaction = .ok frame.transactionView ∧
    frame.loadedWritableBytes = publication.parts.loadedWritable.flatMap FixedBytes.toList ∧
    frame.loadedReadonlyBytes = publication.parts.loadedReadonly.flatMap FixedBytes.toList

/-- Reading a frame gives back what `encode_into` was given. -/
theorem Publication.reads (self : Publication) : Reads self ⟨self.payload⟩ where
  bytes := rfl
  frame := ⟨self.produced.frame, self.produced.resolved.frame_eq, rfl,
    tryNew_data self.tryNew_eq, self.tryNew_eq, rfl, rfl⟩

-- ---------------------------------------------------------------------------
-- Both attachments
-- ---------------------------------------------------------------------------

namespace FastpathStream

/-- An accepted frame is returned as it is. -/
theorem results_of_accepts {validator : CanonicalStreamValidator}
    {frames : List Proto.ResolvedTransactionFrame} (h : Run.Accepts validate validator frames) :
    Run.results validate validator frames =
      frames.map fun frame => .ok ⟨frame.canonicalV1⟩ := by
  induction frames generalizing validator with
  | nil => rfl
  | cons frame frames ih =>
    obtain ⟨item, validator', hOk, hRest⟩ := Run.accepts_cons.mp h
    obtain ⟨-, -, rfl⟩ := validate_eq_ok.mp hOk
    rw [Run.results, hOk, List.map_cons]
    exact congrArg _ (ih hRest)

end FastpathStream

/-- The messages of the exact stream. -/
def fastpathMessages (publications : List Publication) :
    List (Message Proto.ResolvedTransactionFrame) :=
  publications.map fun publication => .message ⟨publication.payload⟩

/-- The messages of the broader stream. -/
def observationMessages (publications : List Publication) :
    List (Message Proto.TransactionFrame) :=
  publications.map fun publication => .message ⟨some (.canonicalV1 publication.payload)⟩

section Delivery

variable {publications : List Publication} (hRun : PublicationRun publications)
  (filter : ResolvedFilter) (ending : Ending)
include hRun

/-- What is selected is delivered by the exact stream. -/
theorem calls_fastpath (more : List (Message Proto.ResolvedTransactionFrame)) (k : Nat) :
    (Attachment.calls FastpathStream.validate
        ((filter.publications publications).length + (k + 1)) (FastpathStream.new filter.mode
          (fastpathMessages (filter.publications publications) ++ ending.outcome :: more))).1 =
      (filter.publications publications).map (fun publication =>
        some (.ok ⟨publication.payload⟩)) ++
          some (.error (.err ending.error)) :: List.replicate k none := by
  have hAccepts : Run.Accepts FastpathStream.validate (.new filter.mode)
      ((filter.publications publications).map fun publication => ⟨publication.payload⟩) := by
    have hChain := hRun.producerRun.isChain_selected filter
    rw [filter.selected_produced] at hChain
    have h := CanonicalStreamValidator.accepts_payloads_iff.mpr hChain
    rw [FastpathStream.accepts_iff, List.map_map]
    rw [payloads, List.map_map] at h
    exact h
  -- the ending is not accepted in any state
  have hCalls := Attachment.calls_ended hAccepts
    (Attachment.receive_ending (Run.final FastpathStream.validate (.new filter.mode)
      ((filter.publications publications).map fun publication => ⟨publication.payload⟩)) ending)
    more k
  rw [FastpathStream.results_of_accepts hAccepts, List.length_map, List.map_map, List.map_map,
    List.map_map] at hCalls
  exact hCalls

end Delivery

/-- Publications are observations, all of them resolved. -/
def Publication.observed (self : Publication) : Observed := .resolved self.produced

/-- The filter selects the same of them. -/
theorem ResolvedFilter.observed_publications (self : ResolvedFilter)
    (publications : List Publication) :
    self.observed (publications.map Publication.observed) =
      (self.publications publications).map Publication.observed := by
  rw [ResolvedFilter.observed, List.filter_map]
  rfl

/-- All publications are resolved. -/
theorem resolvedOf_observed (publications : List Publication) :
    resolvedOf (publications.map Publication.observed) =
      publications.map Publication.produced := by
  rw [resolvedOf, List.filterMap_map, ← List.filterMap_eq_map]
  rfl

/-- None of them is an unresolved transaction. -/
theorem unresolvedOf_observed (publications : List Publication) :
    unresolvedOf (publications.map Publication.observed) = [] := by
  rw [unresolvedOf, List.filterMap_map]
  exact List.filterMap_eq_nil_iff.mpr fun _ _ => rfl

/-- A run of publications is one of the broader stream as well, with nothing in its
second domain. -/
theorem PublicationRun.observationRun {publications : List Publication}
    (hRun : PublicationRun publications) :
    ObservationRun (publications.map Publication.observed) where
  epoch := by
    have hEpochs : (publications.map Publication.observed).Pairwise fun x y =>
        x.epoch = y.epoch :=
      List.pairwise_map.mpr ((List.pairwise_map.mp hRun.producerRun.pairwise).imp
        fun h => h.epoch.symm)
    have : Std.Symm fun x y : Observed => x.epoch = y.epoch := ⟨fun _ _ h => h.symm⟩
    exact hEpochs.forall_of_forall fun _ _ => rfl
  resolved := by
    rw [resolvedOf_observed]
    exact hRun.producerRun.imp fun _ _ h => h.2
  unresolved := by
    rw [unresolvedOf_observed]
    exact List.Pairwise.nil

/-- What is selected is delivered by the broader stream. -/
theorem calls_observations {publications : List Publication} (hRun : PublicationRun publications)
    (filter : ResolvedFilter) (ending : Ending) (more : List (Message Proto.TransactionFrame))
    (k : Nat) :
    (Attachment.calls ObservationValidator.validate
        ((filter.publications publications).length + (k + 1)) (TransactionStream.new filter.mode
          (observationMessages (filter.publications publications) ++ ending.outcome :: more))).1 =
      (filter.publications publications).map (fun publication =>
        some (.ok (.resolved ⟨publication.payload⟩))) ++
          some (.error (.err ending.error)) :: List.replicate k none := by
  have hAccepts := accepts_observed hRun.observationRun filter
  rw [filter.observed_publications] at hAccepts
  have hCalls := calls_observed hAccepts (Attachment.receive_ending _ ending) more k
  rw [List.length_map, List.map_map, List.map_map] at hCalls
  exact hCalls

/-- **End to end.** A producer encodes frames with consecutive numbers, each into
whatever buffer; a filter selects some; both attachments deliver one transaction for
each of these, in order, and then the end of the stream. What can be read from a
transaction is the metadata, the signed transaction and the loaded keys that the
encoder was given. -/
theorem pipeline (filter : ResolvedFilter) {publications : List Publication}
    (hRun : PublicationRun publications) : ∃ items : List ResolvedTransaction,
    List.Forall₂ Reads (filter.publications publications) items ∧
    (∀ ending more k, (Attachment.calls FastpathStream.validate (items.length + (k + 1))
        (FastpathStream.new filter.mode
          (fastpathMessages (filter.publications publications) ++ Ending.outcome ending :: more))).1 =
      items.map (fun tx => some (.ok tx)) ++
        some (.error (.err ending.error)) :: List.replicate k none) ∧
    ∀ ending more k, (Attachment.calls ObservationValidator.validate (items.length + (k + 1))
        (TransactionStream.new filter.mode
          (observationMessages (filter.publications publications) ++
            Ending.outcome ending :: more))).1 =
      items.map (fun tx => some (.ok (.resolved tx))) ++
        some (.error (.err ending.error)) :: List.replicate k none := by
  refine ⟨(filter.publications publications).map fun publication => ⟨publication.payload⟩,
    ?_, fun ending more k => ?_, fun ending more k => ?_⟩
  · rw [List.forall₂_map_right_iff, List.forall₂_same]
    exact fun publication _ => publication.reads
  · rw [List.length_map, List.map_map]
    exact calls_fastpath hRun filter ending more k
  · rw [List.length_map, List.map_map]
    exact calls_observations hRun filter ending more k

/-- The sample with another sequence number, encoded into a slot of ones. -/
def samplePublication (sequence : UInt64)
    (h : sampleParts.Encodable { sampleMetadata with canonicalSequence := sequence }
      sampleV0.view) : Publication where
  metadata := { sampleMetadata with canonicalSequence := sequence }
  parts := sampleParts
  output := List.replicate 12288 0xff
  output' := sampleParts.frame { sampleMetadata with canonicalSequence := sequence } ++
    (List.replicate 12288 0xff).drop sampleParts.frameLength
  length := sampleParts.frameLength
  encoded := by
    have hFits : ¬ (List.replicate 12288 (0xff : UInt8)).length < sampleParts.frameLength := by
      rw [List.length_replicate]
      decide +kernel
    rw [FrameEncoder.encodeInto_eq _ h.accepted h.version h.writableCount h.readonlyCount,
      if_neg hFits, h.header_valid]
  sanitized := show sampleMetadata.flags.contains .transactionSanitized = true by decide
  lutResolved := show sampleMetadata.flags.contains .lutResolved = true by decide
  vote := true
  keys := [zeros 32]

/-- The sample parts can be encoded under the next number too. -/
theorem sampleParts_encodable_next :
    sampleParts.Encodable { sampleMetadata with canonicalSequence := 42 } sampleV0.view :=
  ⟨tryNew_sampleV0, rfl, by decide, by decide, by decide +kernel⟩

/-- Two of them, in order. -/
def samplePublications : List Publication :=
  [samplePublication 41 sampleParts_encodable, samplePublication 42 sampleParts_encodable_next]

/-- Both frames are delivered, and read as what was encoded. -/
theorem pipeline_sample : ∃ items : List ResolvedTransaction,
    List.Forall₂ Reads samplePublications items ∧
    (Attachment.calls FastpathStream.validate (items.length + 1) (FastpathStream.new .matchAll
        (fastpathMessages samplePublications ++ [.endOfStream]))).1 =
      items.map (fun tx => some (.ok tx)) ++ [some (.error (.err .endOfStream))] := by
  have hRun : PublicationRun samplePublications := .cons_cons ⟨rfl, rfl⟩ (.singleton _)
  obtain ⟨items, hReads, hFastpath, -⟩ := pipeline .matchAll hRun
  have hAll : ResolvedFilter.matchAll.publications samplePublications = samplePublications :=
    List.filter_eq_self.mpr fun publication _ =>
      decide_eq_true (ResolvedFilter.selects_of_matchAll rfl publication.vote publication.keys)
  rw [hAll] at hReads hFastpath
  exact ⟨items, hReads, hFastpath .endOfStream [] 0⟩

end TxStream
