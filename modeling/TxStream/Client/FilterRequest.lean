import TxStream.Client.MessageSize
import TxStream.Wire.TextEncoding

/-!
# Requests for a filter

`ResolvedFilter::rule` counts rules and keys, and `from_channel` limits the
request in bytes, in another file. The keys of a rule have a fixed size, so the
counts bound the bytes.

Main results:

* `rule_isOk_iff`, `rule_call` — which calls of `rule` succeed, and that every rule
  can be asked for.
* `Limited.length_encode_le` — how large a request can be.
* `rule_law` — every chain of calls, and that its request can be sent.
-/

namespace TxStream

open Wire Rust

-- ---------------------------------------------------------------------------
-- The client and its messages
-- ---------------------------------------------------------------------------

/-- What a generated client is told about the size of its messages. -/
structure MessageLimits where
  maxDecodingMessageSize : Nat
  maxEncodingMessageSize : Nat

/-- A client without its channel and key. -/
structure FastpathClient where
  observations : MessageLimits
  wire : MessageLimits
  config : TransportConfig

/-- `FastpathClient::from_channel`: both generated clients get the same limits, of which
only one is configured. -/
def FastpathClient.fromChannel (config : TransportConfig) : FastpathClient where
  observations := { maxDecodingMessageSize := config.maxMessageBytes
                    maxEncodingMessageSize := 512 * 1024 }
  wire := { maxDecodingMessageSize := config.maxMessageBytes
            maxEncodingMessageSize := 512 * 1024 }
  config

namespace Proto

/-- The fields of a rule; the vote is optional, so `false` is written. -/
def ResolvedTransactionFilter.encode (filter : ResolvedTransactionFilter) : Bytes :=
  optionalField 1 (filter.vote.map Bool.toNat)
    ++ repeatedField 2 filter.accountInclude
    ++ repeatedField 3 filter.accountExclude
    ++ repeatedField 4 filter.accountRequired

/-- The rules, each as a message of its own. -/
def SubscribeResolvedTransactionsRequest.encode (request : SubscribeResolvedTransactionsRequest) :
    Bytes :=
  repeatedField 1 (request.filters.map ResolvedTransactionFilter.encode)

end Proto

-- ---------------------------------------------------------------------------
-- Which calls succeed
-- ---------------------------------------------------------------------------

/-- The texts of one list of a call: each is the base58 form of 32 bytes, and no two
are of the same bytes. -/
structure KeyTexts (decode : String → Option Bytes) (texts : List String) : Prop where
  decodes : ∀ text ∈ texts, ∃ key, decode text = some key ∧ key.length = 32
  distinct : (texts.map decode).Nodup

/-- What a call of `rule` has to meet on its own. -/
structure RuleCall.Admissible (decode : String → Option Bytes) (call : RuleCall) : Prop where
  total : call.included.length + call.excluded.length + call.required.length ≤ 256
  included : KeyTexts decode call.included
  excluded : KeyTexts decode call.excluded
  required : KeyTexts decode call.required

section Calls

variable {decode : String → Option Bytes}

/-- The conditions on single texts are those on the list that they decode to. -/
theorem keyTexts_iff {texts : List String} : KeyTexts decode texts ↔
    ∃ keys : List Bytes, texts.map decode = keys.map some ∧ (∀ key ∈ keys, key.length = 32) ∧
      keys.Nodup := by
  constructor
  · rintro ⟨hDecodes, hDistinct⟩
    -- every text decodes, so the decoded list can be written down
    have hKeys : texts.map decode = (texts.map fun text => (decode text).getD []).map some := by
      rw [List.map_map]
      refine List.map_congr_left fun text hText => ?_
      obtain ⟨key, hKey, -⟩ := hDecodes text hText
      show decode text = some ((decode text).getD [])
      rw [hKey]
      rfl
    refine ⟨_, hKeys, fun key hMem => ?_, ?_⟩
    · obtain ⟨text, hText, rfl⟩ := List.mem_map.mp hMem
      obtain ⟨key, hKey, hLength⟩ := hDecodes text hText
      rw [hKey]
      exact hLength
    · rw [hKeys] at hDistinct
      exact hDistinct.of_map some
  · rintro ⟨keys, hKeys, hLength, hNodup⟩
    refine ⟨fun text hText => ?_, ?_⟩
    · have hMem : decode text ∈ keys.map some := hKeys ▸ List.mem_map_of_mem hText
      obtain ⟨key, hKey, hSome⟩ := List.mem_map.mp hMem
      exact ⟨key, hSome.symm, hLength key hKey⟩
    · rw [hKeys]
      exact hNodup.map (Option.some_injective _)

/-- **Which calls of `rule` succeed.** -/
theorem rule_isOk_iff {self : ResolvedFilter} {call : RuleCall} :
    (∃ filter, self.rule decode call.vote call.included call.excluded call.required = .ok filter) ↔
      self.filters.length < 16 ∧ call.Admissible decode := by
  constructor
  · rintro ⟨filter, hRule⟩
    obtain ⟨hRules, hTotal, added, hDecodes, hAll, -⟩ := ResolvedFilter.rule_eq_ok.mp hRule
    simp only [List.forall_mem_cons] at hAll
    obtain ⟨hIncluded, hExcluded, hRequired, -⟩ := hAll
    exact ⟨hRules, hTotal, keyTexts_iff.mpr ⟨_, hDecodes.included, hIncluded⟩,
      keyTexts_iff.mpr ⟨_, hDecodes.excluded, hExcluded⟩,
      keyTexts_iff.mpr ⟨_, hDecodes.required, hRequired⟩⟩
  · rintro ⟨hRules, hTotal, hIncluded, hExcluded, hRequired⟩
    obtain ⟨accountInclude, hInclude, hIncluded⟩ := keyTexts_iff.mp hIncluded
    obtain ⟨accountExclude, hExclude, hExcluded⟩ := keyTexts_iff.mp hExcluded
    obtain ⟨accountRequired, hRequire, hRequired⟩ := keyTexts_iff.mp hRequired
    refine ⟨_, ResolvedFilter.rule_eq_ok.mpr ⟨hRules, hTotal,
      ⟨call.vote, accountInclude, accountExclude, accountRequired⟩,
      ⟨rfl, hInclude, hExclude, hRequire⟩, ?_, rfl⟩⟩
    simp only [List.forall_mem_cons]
    exact ⟨hIncluded, hExcluded, hRequired, nofun⟩

end Calls

-- ---------------------------------------------------------------------------
-- Which rules can be asked for
-- ---------------------------------------------------------------------------

/-- A rule that `rule` has added. -/
structure Proto.ResolvedTransactionFilter.Limited (filter : Proto.ResolvedTransactionFilter) :
    Prop where
  total : filter.accountInclude.length + filter.accountExclude.length
    + filter.accountRequired.length ≤ 256
  keys : ∀ keys ∈ [filter.accountInclude, filter.accountExclude, filter.accountRequired],
    (∀ key ∈ keys, key.length = 32) ∧ keys.Nodup

/-- The call for a rule, with its keys in base 58. -/
def Proto.ResolvedTransactionFilter.call (filter : Proto.ResolvedTransactionFilter) : RuleCall where
  vote := filter.vote
  included := filter.accountInclude.map base58Encode
  excluded := filter.accountExclude.map base58Encode
  required := filter.accountRequired.map base58Encode

/-- Keys written in base 58 are read back. -/
theorem map_base58Decode (keys : List Bytes) :
    (keys.map base58Encode).map base58Decode = keys.map some := by
  rw [List.map_map]
  exact List.map_congr_left fun key _ => base58Decode_encode key

/-- **Every rule can be asked for**, while there are fewer than 16. -/
theorem rule_call {self : ResolvedFilter} {filter : Proto.ResolvedTransactionFilter}
    (hRules : self.filters.length < 16) (h : filter.Limited) :
    self.rule base58Decode filter.call.vote filter.call.included filter.call.excluded
      filter.call.required = .ok ⟨self.filters ++ [filter]⟩ := by
  refine ResolvedFilter.rule_eq_ok.mpr ⟨hRules, ?_, filter, ⟨rfl, map_base58Decode _,
    map_base58Decode _, map_base58Decode _⟩, h.keys, rfl⟩
  unfold Proto.ResolvedTransactionFilter.call
  simp only [List.length_map]
  exact h.total

-- ---------------------------------------------------------------------------
-- How large a request is
-- ---------------------------------------------------------------------------

/-- A filter that a chain of calls has built. -/
structure ResolvedFilter.Limited (filter : ResolvedFilter) : Prop where
  rules_le : filter.filters.length ≤ 16
  rules : ∀ rule ∈ filter.filters, rule.Limited

section Sizes

variable {decode : String → Option Bytes}

/-- A call keeps the limits. -/
theorem ResolvedFilter.Limited.rule {self filter : ResolvedFilter} (h : self.Limited)
    {call : RuleCall} (hRule : self.rule decode call.vote call.included call.excluded
      call.required = .ok filter) : filter.Limited := by
  obtain ⟨hRules, hTotal, added, hDecodes, hAll, rfl⟩ := ResolvedFilter.rule_eq_ok.mp hRule
  -- a text makes one key, so the limit on texts is one on keys
  have hIncluded := congrArg List.length hDecodes.included
  have hExcluded := congrArg List.length hDecodes.excluded
  have hRequired := congrArg List.length hDecodes.required
  simp only [List.length_map] at hIncluded hExcluded hRequired
  refine ⟨?_, fun rule hMem => ?_⟩
  · rw [List.length_append]
    exact hRules
  · rcases List.mem_append.mp hMem with hOld | hNew
    · exact h.rules rule hOld
    · obtain rfl := List.mem_singleton.mp hNew
      exact ⟨by omega, hAll⟩

/-- **Every chain of calls keeps the limits.** -/
theorem ResolvedFilter.limited_of_build {calls : List RuleCall} {filter : ResolvedFilter}
    (h : ResolvedFilter.build decode calls = .ok filter) : filter.Limited := by
  induction calls using List.reverseRecOn generalizing filter with
  | nil =>
    obtain rfl := Except.ok.inj h
    exact ⟨Nat.zero_le _, nofun⟩
  | append_singleton calls call ih =>
    obtain ⟨self, hSelf, hRule⟩ := ResolvedFilter.build_concat h
    exact (ih hSelf).rule hRule

/-- A rule takes up 35 bytes for each key, and two for the vote. -/
theorem Proto.ResolvedTransactionFilter.Limited.length_encode_le
    {filter : Proto.ResolvedTransactionFilter} (h : filter.Limited) :
    filter.encode.length ≤ 8962 := by
  obtain ⟨vote, accountInclude, accountExclude, accountRequired⟩ := filter
  have hTotal := h.total
  have hKeys := h.keys
  simp only [List.forall_mem_cons] at hTotal hKeys
  obtain ⟨hInclude, hExclude, hRequired, -⟩ := hKeys
  have hFlag : (optionalField 1 (vote.map Bool.toNat)).length ≤ 2 := by
    refine length_optionalField_le (by decide) fun v hv => ?_
    obtain ⟨b, -, rfl⟩ := Option.map_eq_some_iff.mp hv
    exact Nat.lt_of_le_of_lt b.toNat_le (by decide)
  -- a key of 32 bytes takes up a tag, a length and itself
  have hIncludeBytes := length_repeatedField_le (show 2 < 15 by decide) (by decide)
    fun key hKey => (hInclude.1 key hKey).le
  have hExcludeBytes := length_repeatedField_le (show 3 < 15 by decide) (by decide)
    fun key hKey => (hExclude.1 key hKey).le
  have hRequiredBytes := length_repeatedField_le (show 4 < 15 by decide) (by decide)
    fun key hKey => (hRequired.1 key hKey).le
  simp only [Proto.ResolvedTransactionFilter.encode, List.length_append]
  omega

/-- **How large a request can be.** -/
theorem ResolvedFilter.Limited.length_encode_le {self : ResolvedFilter} (h : self.Limited) :
    self.intoRequest.encode.length ≤ 143440 := by
  have hRules := h.rules_le
  have hBytes := length_repeatedField_le (show 1 < 15 by decide) (show 8962 < 16384 by decide)
    (List.forall_mem_map.mpr fun filter hMem => (h.rules filter hMem).length_encode_le)
  rw [List.length_map] at hBytes
  show (repeatedField 1 (self.filters.map _)).length ≤ _
  omega

/-- **The calls of `rule`, and the request.** Behind every chain of calls

* a call succeeds if and only if there are fewer than 16 rules and the call is
  admissible: at most 256 keys, each of 32 bytes, and none twice in a list;
* the new filter has the rules from before and one more behind them, with the vote
  and the keys of the call;
* every rule of the filter keeps the limits, and with base 58 each rule that keeps them
  can be asked for next, while there are fewer than 16;
* and the request is smaller than the limit of either generated client. -/
theorem rule_law {calls : List RuleCall} {self : ResolvedFilter}
    (hBuild : ResolvedFilter.build decode calls = .ok self) :
    (∀ call : RuleCall,
      ((∃ filter, self.rule decode call.vote call.included call.excluded call.required =
          .ok filter) ↔ self.filters.length < 16 ∧ call.Admissible decode) ∧
      ∀ filter, self.rule decode call.vote call.included call.excluded call.required =
          .ok filter →
        ∃ added, call.Decodes decode added ∧
          filter.intoRequest.filters = self.intoRequest.filters ++ [added]) ∧
    self.Limited ∧
    (∀ added : Proto.ResolvedTransactionFilter, added.Limited → self.filters.length < 16 →
      self.rule base58Decode added.call.vote added.call.included added.call.excluded
        added.call.required = .ok ⟨self.filters ++ [added]⟩) ∧
    ∀ config,
      self.intoRequest.encode.length <
          (FastpathClient.fromChannel config).wire.maxEncodingMessageSize ∧
        self.intoRequest.encode.length <
          (FastpathClient.fromChannel config).observations.maxEncodingMessageSize := by
  have hLimited := ResolvedFilter.limited_of_build hBuild
  refine ⟨fun call => ⟨rule_isOk_iff, fun filter hRule => ?_⟩, hLimited,
    fun added hAdded hRules => rule_call hRules hAdded, fun config => ?_⟩
  · obtain ⟨-, -, added, hDecodes, -, rfl⟩ := ResolvedFilter.rule_eq_ok.mp hRule
    exact ⟨added, hDecodes, rfl⟩
  · have hLength := hLimited.length_encode_le
    have hLimit : 143440 < 512 * 1024 := by decide
    exact ⟨Nat.lt_of_le_of_lt hLength hLimit, Nat.lt_of_le_of_lt hLength hLimit⟩

end Sizes

/-- The key of 32 zero bytes, and one that ends in a one. -/
def sampleTexts : List String :=
  ["11111111111111111111111111111111", "11111111111111111111111111111112"]

/-- A rule for the two keys is added, and its request can be sent; a rule for one of
them twice is refused. -/
theorem rule_law_sample : ∃ filter,
    ResolvedFilter.build base58Decode [⟨some true, sampleTexts, [], []⟩] = .ok filter ∧
      filter.intoRequest.filters =
        [⟨some true, [zeros 32, zeros 31 ++ [1]], [], []⟩] ∧
      filter.intoRequest.encode.length <
        (FastpathClient.fromChannel .default).wire.maxEncodingMessageSize ∧
      ¬ ∃ filter', filter.rule base58Decode none [] (sampleTexts ++ sampleTexts) [] =
        .ok filter' := by
  have hBuild : ResolvedFilter.build base58Decode [⟨some true, sampleTexts, [], []⟩] =
      .ok ⟨[⟨some true, [zeros 32, zeros 31 ++ [1]], [], []⟩]⟩ := by decide +kernel
  obtain ⟨hCalls, -, -, hSizes⟩ := rule_law hBuild
  refine ⟨_, hBuild, rfl, (hSizes .default).1, fun hTwice => ?_⟩
  obtain ⟨-, hAdmissible⟩ := (hCalls ⟨none, [], sampleTexts ++ sampleTexts, []⟩).1.mp hTwice
  have hDistinct := hAdmissible.excluded.distinct
  rw [List.map_append] at hDistinct
  exact (List.nodup_append.mp hDistinct).2.2 _ (List.mem_map_of_mem (List.mem_cons_self ..)) _
    (List.mem_map_of_mem (List.mem_cons_self ..)) rfl

end TxStream
