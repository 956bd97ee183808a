import TxStream.Client.Filter
import TxStream.Run.Omission

/-!
# Filters and sequences, end to end

What a filter selects is the server's business; here it is a definition that
follows the documentation. A producer numbers its frames without gaps. The
frames that a filter selects from such a run are what the client should get:

* `mode_eq_matchAll_iff`, `selects_of_matchAll` — which filters have mode `matchAll`;
  they select every frame, so that a gap is a loss.
* `selection_law` — a validator in the filter's mode accepts the selected frames,
  refuses them repeated or reordered, and in mode `matchAll` reports an omission.
-/

namespace TxStream

open Wire Rust

-- ---------------------------------------------------------------------------
-- What is selected
-- ---------------------------------------------------------------------------

namespace Proto.ResolvedTransactionFilter

/-- A rule requires its vote flag if it is set, one of the included keys if there
are any, all of the required keys and none of the excluded ones. -/
def Selects (rule : ResolvedTransactionFilter) (vote : Bool) (keys : List Bytes) : Prop :=
  (∀ v ∈ rule.vote, v = vote)
    ∧ (rule.accountInclude = [] ∨ ∃ key ∈ rule.accountInclude, key ∈ keys)
    ∧ (∀ key ∈ rule.accountRequired, key ∈ keys)
    ∧ ∀ key ∈ rule.accountExclude, key ∉ keys

instance (flag : Option Bool) (vote : Bool) : Decidable (∀ v ∈ flag, v = vote) :=
  Option.decidableForallMem _

instance (rule : ResolvedTransactionFilter) (vote : Bool) (keys : List Bytes) :
    Decidable (rule.Selects vote keys) :=
  inferInstanceAs (Decidable (_ ∧ _ ∧ _ ∧ _))

end Proto.ResolvedTransactionFilter

namespace ResolvedFilter

/-- Without rules everything is selected; rules are alternatives. -/
def Selects (self : ResolvedFilter) (vote : Bool) (keys : List Bytes) : Prop :=
  self.filters = [] ∨ ∃ rule ∈ self.filters, rule.Selects vote keys

instance (self : ResolvedFilter) (vote : Bool) (keys : List Bytes) :
    Decidable (self.Selects vote keys) :=
  inferInstanceAs (Decidable (_ ∨ _))

/-- The filters for which the mode is `matchAll`: those without rules, and those with a
rule that asks for nothing. -/
theorem mode_eq_matchAll {self : ResolvedFilter} : self.mode = .matchAll ↔
    self.filters = [] ∨ ∃ rule ∈ self.filters, rule.vote = none ∧ rule.accountInclude = [] ∧
      rule.accountExclude = [] ∧ rule.accountRequired = [] := by
  have hTest : self.mode = .matchAll ↔ (self.filters.isEmpty
      || self.filters.any fun f => f.vote.isNone && f.accountInclude.isEmpty
          && f.accountExclude.isEmpty && f.accountRequired.isEmpty) = true := by
    rw [mode]
    split
    · rename_i hMatchAll
      exact iff_of_true rfl hMatchAll
    · rename_i hFiltered
      exact iff_of_false nofun hFiltered
  rw [hTest]
  simp only [Bool.or_eq_true, List.isEmpty_iff, List.any_eq_true, Bool.and_eq_true,
    Option.isNone_iff_eq_none, and_assoc]

/-- A rule that selects whatever there is asks for nothing: any flag that it wants, any
key that it mentions, is one that some transaction goes against. -/
theorem selects_all_iff {rule : Proto.ResolvedTransactionFilter} :
    (∀ vote keys, rule.Selects vote keys) ↔ rule.vote = none ∧ rule.accountInclude = [] ∧
      rule.accountExclude = [] ∧ rule.accountRequired = [] := by
  constructor
  · intro h
    refine ⟨?_, ?_, ?_, ?_⟩
    · -- votes and other transactions
      refine Option.eq_none_iff_forall_not_mem.mpr fun v hv => ?_
      have hOther := (h (!v) []).1 v hv
      cases v <;> cases hOther
    · -- a transaction without keys
      refine ((h true []).2.1).resolve_right ?_
      rintro ⟨key, -, hKey⟩
      exact List.not_mem_nil hKey
    · -- a transaction with just that key
      refine List.eq_nil_iff_forall_not_mem.mpr fun key hKey => ?_
      exact (h true [key]).2.2.2 key hKey (List.mem_singleton.mpr rfl)
    · refine List.eq_nil_iff_forall_not_mem.mpr fun key hKey => ?_
      exact List.not_mem_nil ((h true []).2.2.1 key hKey)
  · rintro ⟨hVote, hInclude, hExclude, hRequired⟩ vote keys
    refine ⟨?_, Or.inl hInclude, ?_, ?_⟩
    · rw [hVote]
      exact nofun
    · rw [hRequired]
      exact nofun
    · rw [hExclude]
      exact nofun

/-- **What the mode means**: it is `matchAll` exactly where there are no rules or one of
the rules selects everything. Rules that cover everything only together are `filtered`. -/
theorem mode_eq_matchAll_iff {self : ResolvedFilter} : self.mode = .matchAll ↔
    self.filters = [] ∨ ∃ rule ∈ self.filters, ∀ vote keys, rule.Selects vote keys := by
  simp only [mode_eq_matchAll, selects_all_iff]

/-- **The mode is sound**: in mode `matchAll` nothing is filtered out. -/
theorem selects_of_matchAll {self : ResolvedFilter} (h : self.mode = .matchAll) (vote : Bool)
    (keys : List Bytes) : self.Selects vote keys :=
  (mode_eq_matchAll_iff.mp h).imp_right fun ⟨rule, hMem, hAll⟩ => ⟨rule, hMem, hAll vote keys⟩

end ResolvedFilter

-- ---------------------------------------------------------------------------
-- Producer runs
-- ---------------------------------------------------------------------------

/-- A frame of a producer, with what filters look at. -/
structure Produced where
  payload : Bytes
  frame : ValidatedFrame
  resolved : Resolved payload frame
  vote : Bool
  keys : List Bytes

/-- One epoch, and consecutive canonical sequences. -/
def ProducerRun (run : List Produced) : Prop :=
  run.IsChain fun previous next =>
    next.frame.header.producerEpoch = previous.frame.header.producerEpoch ∧
      next.frame.header.canonicalSequence.toNat =
        previous.frame.header.canonicalSequence.toNat + 1

/-- The payloads of the frames, as a server sends them. -/
def payloads (frames : List Produced) : List Bytes := frames.map Produced.payload

/-- Payloads are taken frame by frame. -/
theorem payloads_append (frames frames' : List Produced) :
    payloads (frames ++ frames') = payloads frames ++ payloads frames' := List.map_append

/-- The payload of the first frame comes first. -/
theorem payloads_cons (produced : Produced) (frames : List Produced) :
    payloads (produced :: frames) = produced.payload :: payloads frames := List.map_cons

namespace ResolvedFilter

/-- The frames of a run that a filter selects. -/
def selected (self : ResolvedFilter) (run : List Produced) : List Produced :=
  run.filter fun produced => self.Selects produced.vote produced.keys

/-- In mode `matchAll` the run is sent as it is. -/
theorem selected_of_matchAll {self : ResolvedFilter} (h : self.mode = .matchAll)
    (run : List Produced) : self.selected run = run :=
  List.filter_eq_self.mpr fun produced _ =>
    decide_eq_true (selects_of_matchAll h produced.vote produced.keys)

end ResolvedFilter

/-- The frame of the one comes later than the frame of the other. -/
def LaterFrame (earlier later : Produced) : Prop := Later earlier.frame later.frame

/-- No two frames come behind each other. -/
theorem laterFrame_asymm (a b : Produced) (h : LaterFrame a b) : ¬ LaterFrame b a :=
  fun h' => absurd (h.sequence.trans h'.sequence) (Nat.lt_irrefl _)

/-- Frames that follow each other are in strict order. -/
theorem pairwise_laterFrame {mode : CanonicalStreamMode} {frames : List Produced}
    (h : (frames.map Produced.frame).IsChain (MayFollow mode)) : frames.Pairwise LaterFrame := by
  have hLater := pairwise_later h
  rw [List.pairwise_map] at hLater
  exact hLater

/-- Each payload is read as the frame that was produced. -/
theorem forall₂_resolved (frames : List Produced) :
    List.Forall₂ Resolved (payloads frames) (frames.map Produced.frame) := by
  rw [payloads, List.forall₂_map_left_iff, List.forall₂_map_right_iff, List.forall₂_same]
  exact fun produced _ => produced.resolved

namespace CanonicalStreamValidator

variable {mode : CanonicalStreamMode} {frames : List Produced}

/-- Produced frames are all accepted when each may follow the one before it. -/
theorem answers_of_isChain (h : (frames.map Produced.frame).IsChain (MayFollow mode)) :
    answers mode (payloads frames) = (frames.map Produced.frame).map .ok :=
  (validateResolved_sequencer mode).results_of_isChain (remembers_new mode)
    (forall₂_resolved frames) h

/-- **What is accepted of produced frames**: runs of frames that may follow each other. -/
theorem accepts_payloads_iff :
    Run.Accepts validateResolved (new mode) (payloads frames) ↔
      (frames.map Produced.frame).IsChain (MayFollow mode) := by
  rw [(validateResolved_sequencer mode).accepts_iff (remembers_new mode), Option.toList_none]
  constructor
  · rintro ⟨read, hRead, hChain⟩
    -- a payload can be read in one way only
    have hUnique : Relator.RightUnique Resolved := fun _ _ _ h h' =>
      Except.ok.inj (h.parse.symm.trans h'.parse)
    rw [List.nil_append, List.right_unique_forall₂' hUnique hRead (forall₂_resolved frames)]
      at hChain
    exact hChain
  · exact fun hChain => ⟨_, forall₂_resolved frames, hChain⟩

/-- Produced frames that are all accepted come in strict order. -/
theorem pairwise_of_accepts (h : Run.Accepts validateResolved (new mode) (payloads frames)) :
    frames.Pairwise LaterFrame :=
  pairwise_laterFrame (accepts_payloads_iff.mp h)

end CanonicalStreamValidator

namespace ProducerRun

variable {run : List Produced} (h : ProducerRun run)
include h

/-- A whole run is what mode `matchAll` asks for. -/
theorem isChain : (run.map Produced.frame).IsChain (MayFollow .matchAll) :=
  (List.isChain_map Produced.frame).mpr (h.imp fun _ _ h => ⟨h.1, h.2⟩)

/-- A producer's frames are in strict order. -/
theorem pairwise : run.Pairwise LaterFrame := pairwise_laterFrame h.isChain

/-- Whatever is selected is what mode `filtered` asks for. -/
theorem isChain_sublist {frames : List Produced} (hSub : frames.Sublist run) :
    (frames.map Produced.frame).IsChain (MayFollow .filtered) :=
  (List.isChain_map Produced.frame).mpr
    ((h.pairwise.sublist hSub).isChain.imp fun _ _ h => ⟨h.epoch, h.sequence⟩)

/-- What is selected is what the filter's mode asks for. -/
theorem isChain_selected (filter : ResolvedFilter) :
    ((filter.selected run).map Produced.frame).IsChain (MayFollow filter.mode) := by
  cases hMode : filter.mode with
  | matchAll =>
    rw [ResolvedFilter.selected_of_matchAll hMode]
    exact h.isChain
  | filtered => exact h.isChain_sublist List.filter_sublist

end ProducerRun

section Gap

variable {skipped front gap rest back : List Produced} {next : Produced}
  (h : ProducerRun (skipped ++ front ++ gap ++ next :: back))
include h

/-- Behind an omission the sequence number skips at least one. -/
theorem skips_of_gap {last omitted : Produced} (hLast : last ∈ front) (hOmitted : omitted ∈ gap) :
    next.frame.header.producerEpoch = last.frame.header.producerEpoch ∧
      last.frame.header.canonicalSequence.toNat + 1 <
        next.frame.header.canonicalSequence.toNat := by
  have hBetween : [last, omitted, next].Sublist (skipped ++ front ++ gap ++ next :: back) :=
    (((List.singleton_sublist.mpr hLast).trans (List.sublist_append_right ..)).append
      (List.singleton_sublist.mpr hOmitted)).append
      (List.cons_sublist_cons.mpr (List.nil_sublist _))
  have hLater := h.pairwise.sublist hBetween
  simp only [List.pairwise_cons, List.mem_cons, forall_eq_or_imp] at hLater
  obtain ⟨⟨hOmittedLater, hNextLater, -⟩, ⟨hNext, -⟩, -⟩ := hLater
  exact ⟨hNextLater.epoch, Nat.lt_of_le_of_lt (Nat.succ_le_of_lt hOmittedLater.sequence)
    hNext.sequence⟩

/-- **An omission is a gap** in mode `matchAll`, at the first frame behind it. -/
theorem answers_gap (hFrontNe : front ≠ []) (hGapNe : gap ≠ []) :
    ∃ others, CanonicalStreamValidator.answers .matchAll (payloads (front ++ next :: rest)) =
      front.map (fun produced => .ok produced.frame) ++ .error (.err .sequenceGap) :: others := by
  -- the frames in front of the omission are accepted
  have hInfix : front <:+: skipped ++ front ++ gap ++ next :: back :=
    ⟨skipped, gap ++ next :: back, (List.append_assoc ..).symm⟩
  have hFront : (front.map Produced.frame).IsChain (MayFollow .matchAll) :=
    List.IsChain.infix h.isChain (hInfix.map Produced.frame)
  have hAnswers := CanonicalStreamValidator.answers_of_isChain hFront
  -- and the validator remembers the last of them
  obtain ⟨last, hLast⟩ := Option.isSome_iff_exists.mp (List.getLast?_isSome.mpr hFrontNe)
  have hRemembers := (CanonicalStreamValidator.validateResolved_sequencer .matchAll).rel_final
    (CanonicalStreamValidator.remembers_new .matchAll) (payloads front)
  rw [show Run.results _ _ _ = _ from hAnswers, Run.accepted_map_ok, List.getLast?_map, hLast,
    Option.map_some, Option.some_or] at hRemembers
  obtain ⟨omitted, hOmitted⟩ := List.exists_mem_of_ne_nil _ hGapNe
  obtain ⟨hEpoch, hSkips⟩ := skips_of_gap h (List.mem_of_mem_getLast? hLast) hOmitted
  have hStep := CanonicalStreamValidator.validateResolved_gap hRemembers next.resolved hEpoch
    hSkips
  refine ⟨Run.results CanonicalStreamValidator.validateResolved
    (Run.final CanonicalStreamValidator.validateResolved (.new .matchAll) (payloads front))
    (payloads rest), ?_⟩
  rw [payloads_append, payloads_cons, CanonicalStreamValidator.answers, Run.results_append,
    Run.results, hStep, show Run.results _ _ _ = _ from hAnswers, List.map_map]
  rfl

end Gap

/-- **No false gap, and no missed loss.** For a filter from a chain of calls of
`rule` and a producer's run:

* the filter has one rule for each call, with the keys of the call's texts;
* its mode is `matchAll` exactly where it has no rules or a rule that selects whatever
  there is;
* a fresh validator in the filter's mode accepts the selected frames;
* it rejects some frame when selected frames are repeated or come in another
  order;
* in mode `matchAll`, when a frame between two retained ones is missing, it
  accepts what comes before the first such omission and reports a gap at the
  first frame behind it. -/
theorem selection_law {decode : String → Option Bytes} {calls : List RuleCall}
    {filter : ResolvedFilter} (hBuild : ResolvedFilter.build decode calls = .ok filter)
    {run : List Produced} (hRun : ProducerRun run) :
    List.Forall₂ (RuleCall.Decodes decode) calls filter.filters ∧
    (filter.mode = .matchAll ↔
      filter.filters = [] ∨ ∃ rule ∈ filter.filters, ∀ vote keys, rule.Selects vote keys) ∧
    Run.Accepts CanonicalStreamValidator.validateResolved (.new filter.mode)
      (payloads (filter.selected run)) ∧
    (∀ frames : List Produced, (∀ x, x ∈ frames ↔ x ∈ filter.selected run) →
      frames ≠ filter.selected run → ∃ (i : Nat) (fault : Fault CanonicalStreamError),
        (CanonicalStreamValidator.answers filter.mode (payloads frames))[i]? =
          some (.error fault)) ∧
    (filter.mode = .matchAll → ∀ kept : List Produced, kept.Sublist (filter.selected run) →
      Run.OmitsBetween kept (filter.selected run) →
      ∃ first : Run.FirstOmission kept (filter.selected run),
        (∀ i < first.front.length, ∃ f,
          (CanonicalStreamValidator.answers filter.mode (payloads kept))[i]? = some (.ok f)) ∧
        (CanonicalStreamValidator.answers filter.mode (payloads kept))[first.front.length]? =
          some (.error (.err .sequenceGap))) := by
  have hSelected := hRun.isChain_selected filter
  refine ⟨ResolvedFilter.decodes_of_build hBuild, ResolvedFilter.mode_eq_matchAll_iff,
    CanonicalStreamValidator.accepts_payloads_iff.mpr hSelected, ?_, ?_⟩
  · intro frames hMem hNe
    refine Run.exists_error fun hAccepts => hNe ?_
    -- both lists come in the order of their sequence numbers
    exact Run.eq_of_mem_iff laterFrame_asymm
      (CanonicalStreamValidator.pairwise_of_accepts hAccepts) (pairwise_laterFrame hSelected) hMem
  · intro hMode kept hSub hOmits
    rw [hMode]
    rw [ResolvedFilter.selected_of_matchAll hMode] at hSub hOmits ⊢
    obtain ⟨first⟩ := Run.exists_firstOmission laterFrame_asymm hRun.pairwise hSub hOmits
    have hWhole := hRun
    rw [first.all_eq] at hWhole
    obtain ⟨others, hAnswers⟩ := @answers_gap _ _ _ first.rest _ _ hWhole first.front_ne_nil
      first.gap_ne_nil
    rw [← first.kept_eq] at hAnswers
    refine ⟨first, fun i hi => ⟨first.front[i].frame, ?_⟩, ?_⟩
    · rw [hAnswers, List.getElem?_append_left (by rwa [List.length_map])]
      simp [hi]
    · rw [hAnswers, List.getElem?_append_right (by rw [List.length_map]), List.length_map,
        Nat.sub_self]
      rfl

/-- Base58 of the texts made of the digit 1, which stands for a zero byte. -/
def decodeOnes (text : String) : Option Bytes :=
  if text.toList.all (· == '1') then some (zeros text.length) else none

/-- The sample frame with another sequence number, as a vote that mentions the zero key. -/
def sampleProduced (sequence : UInt64)
    (h : sampleParts.Encodable { sampleMetadata with canonicalSequence := sequence }
      sampleV0.view) : Produced where
  payload := sampleParts.frame { sampleMetadata with canonicalSequence := sequence }
  frame := sampleParts.validated { sampleMetadata with canonicalSequence := sequence } sampleV0.view
  resolved := by
    have hParse := parse_of_canonical h.canonical []
    rw [List.append_nil] at hParse
    have hFlags : sampleMetadata.flags.contains .transactionSanitized = true
        ∧ sampleMetadata.flags.contains .lutResolved = true := by decide
    exact ⟨hParse, rfl, hFlags.1, hFlags.2⟩
  vote := true
  keys := [zeros 32]

/-- Three frames with consecutive numbers. -/
def sampleRun : List Produced :=
  [sampleProduced 41 sampleParts_encodable,
    sampleProduced 42 ⟨tryNew_sampleV0, rfl, by decide, by decide, by decide +kernel⟩,
    sampleProduced 43 ⟨tryNew_sampleV0, rfl, by decide, by decide, by decide +kernel⟩]

/-- A producer may send them. -/
theorem sampleRun_producerRun : ProducerRun sampleRun :=
  .cons_cons ⟨rfl, rfl⟩ (.cons_cons ⟨rfl, rfl⟩ (.singleton _))

/-- One rule: votes that mention the key of 32 zero bytes. -/
def sampleCalls : List RuleCall :=
  [⟨some true, ["11111111111111111111111111111111"], [], []⟩]

/-- A filter for votes that mention the zero key gets the whole run; without a
filter the frame behind a missing one is refused. -/
theorem selection_law_sample :
    (∃ filter, ResolvedFilter.build decodeOnes sampleCalls = .ok filter ∧
      filter.mode = .filtered ∧ filter.selected sampleRun = sampleRun ∧
      Run.Accepts CanonicalStreamValidator.validateResolved (.new .filtered)
        (payloads sampleRun)) ∧
    ∃ first : Run.FirstOmission (sampleRun.eraseIdx 1) sampleRun,
      (CanonicalStreamValidator.answers .matchAll
        (payloads (sampleRun.eraseIdx 1)))[first.front.length]? =
          some (.error (.err .sequenceGap)) := by
  have hBuild : ResolvedFilter.build decodeOnes sampleCalls =
      .ok ⟨[⟨some true, [zeros 32], [], []⟩]⟩ := by decide +kernel
  have hSelected : ResolvedFilter.selected ⟨[⟨some true, [zeros 32], [], []⟩]⟩ sampleRun =
      sampleRun := rfl
  constructor
  · obtain ⟨-, -, hAccepts, -⟩ := selection_law hBuild sampleRun_producerRun
    rw [hSelected] at hAccepts
    exact ⟨_, hBuild, rfl, hSelected, hAccepts⟩
  · obtain ⟨-, -, -, -, hOmission⟩ := selection_law
      (show ResolvedFilter.build decodeOnes [] = .ok .matchAll from rfl) sampleRun_producerRun
    rw [ResolvedFilter.selected_of_matchAll rfl] at hOmission
    -- the sequence numbers tell the frames apart
    have hNe : ∀ x y : Produced, x = y →
        x.frame.header.canonicalSequence = y.frame.header.canonicalSequence :=
      fun _ _ h => h ▸ rfl
    have hOmits : Run.OmitsBetween (sampleRun.eraseIdx 1) sampleRun := by
      refine ⟨sampleRun[0], sampleRun[1], sampleRun[2], List.Sublist.refl _,
        List.mem_cons_self .., ?_, List.mem_cons_of_mem _ (List.mem_cons_self ..)⟩
      intro hMem
      rcases List.mem_cons.mp hMem with hEq | hMem
      · exact absurd (hNe _ _ hEq) (by decide)
      · exact absurd (hNe _ _ (List.mem_singleton.mp hMem)) (by decide)
    obtain ⟨first, -, hGap⟩ := hOmission rfl _ (List.eraseIdx_sublist ..) hOmits
    exact ⟨first, hGap⟩

end TxStream
