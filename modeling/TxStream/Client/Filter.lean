import TxStream.Client.Transport

/-!
# `filter.rs` — what a subscription asks for

The builder of a filter and the test that chooses the validator's mode. Base58
decoding is outside of the repository: it is a parameter, `none` where the text
is no base58.

* `keys_eq_ok`, `rule_eq_ok` — when a rule is added, and which.
* `decodes_of_build` — the request has the rules of the calls, in order.
-/

namespace TxStream

open Wire Rust

namespace Proto

/-- The message for one rule. -/
structure ResolvedTransactionFilter where
  vote : Option Bool
  accountInclude : List Bytes
  accountExclude : List Bytes
  accountRequired : List Bytes
deriving DecidableEq

/-- The request of a subscription. Rules are alternatives, and none at all select
everything. -/
structure SubscribeResolvedTransactionsRequest where
  filters : List ResolvedTransactionFilter
deriving DecidableEq

end Proto

/-- `ResolvedFilter`: the rules in the order in which they were added. -/
structure ResolvedFilter where
  filters : List Proto.ResolvedTransactionFilter
deriving DecidableEq

namespace ResolvedFilter

/-- `ResolvedFilter::match_all`: no rules. -/
def matchAll : ResolvedFilter where
  filters := []

section Builder

variable (decode : String → Option Bytes)

/-- `bs58::decode(value).onto(&mut [0u8; 32])`: what is written, if it fits. -/
def decodeOnto (value : String) : Option Bytes :=
  (decode value).filter fun bytes => bytes.length ≤ 32

/-- The loop of `keys`, behind the keys it has pushed. -/
def keysFrom (result : List Bytes) : List String → Except Error (List Bytes)
  | [] => .ok result
  | value :: values => do
    let bytes ← okOr (.invalidFilter "key must be base58 encoding 32 bytes")
      (decodeOnto decode value)
    if bytes.length ≠ 32 then .error (.invalidFilter "key must encode 32 bytes") else
    if bytes ∈ result then .error (.invalidFilter "duplicate key") else
    keysFrom (result ++ [bytes]) values

/-- `keys`: the decoded texts, in their order. -/
def keys (values : List String) : Except Error (List Bytes) := keysFrom decode [] values

/-- `ResolvedFilter::rule`. The limits are compared with the texts, before any of them
is decoded. -/
def rule (self : ResolvedFilter) (vote : Option Bool) (included excluded required : List String) :
    Except Error ResolvedFilter := do
  if self.filters.length ≥ 16 then .error (.invalidFilter "maximum 16 rules") else
  if included.length + excluded.length + required.length > 256 then
    .error (.invalidFilter "maximum 256 keys per rule")
  else
  -- the struct literal decodes the three lists in the order of its fields
  let accountInclude ← keys decode included
  let accountExclude ← keys decode excluded
  let accountRequired ← keys decode required
  let added : Proto.ResolvedTransactionFilter :=
    { vote, accountInclude, accountExclude, accountRequired }
  return { filters := self.filters ++ [added] }

end Builder

/-- `ResolvedFilter::mode`: whether gaps are expected. It looks for a rule without any
condition, and does not ask what the rules select together. -/
def mode (self : ResolvedFilter) : CanonicalStreamMode :=
  if self.filters.isEmpty
      || self.filters.any fun f =>
        f.vote.isNone
          && f.accountInclude.isEmpty
          && f.accountExclude.isEmpty
          && f.accountRequired.isEmpty then
    .matchAll
  else
    .filtered

/-- `ResolvedFilter::into_request`. -/
def intoRequest (self : ResolvedFilter) : Proto.SubscribeResolvedTransactionsRequest where
  filters := self.filters

end ResolvedFilter

/-- The arguments of a call of `rule`. -/
structure RuleCall where
  vote : Option Bool
  included : List String
  excluded : List String
  required : List String

namespace ResolvedFilter

variable {decode : String → Option Bytes}

/-- A chain of `rule` calls from `match_all()`, each on the filter of the last. -/
def build (decode : String → Option Bytes) (calls : List RuleCall) :
    Except Error ResolvedFilter :=
  calls.foldlM (fun self call =>
    rule decode self call.vote call.included call.excluded call.required) matchAll

-- ---------------------------------------------------------------------------
-- Which rule a call adds
-- ---------------------------------------------------------------------------

/-- The loop succeeds iff what is left decodes to 32 bytes each, without repetitions
among all keys. The keys that were pushed before are the invariant. -/
theorem keysFrom_eq_ok {result : List Bytes} {values : List String} {decoded : List Bytes}
    (hResult : result.Nodup) :
    keysFrom decode result values = .ok decoded ↔
      ∃ more, decoded = result ++ more ∧ values.map decode = more.map some ∧
        (∀ key ∈ more, key.length = 32) ∧ decoded.Nodup := by
  induction values generalizing result with
  | nil =>
    rw [keysFrom]
    constructor
    · intro h
      obtain rfl := Except.ok.inj h
      exact ⟨[], (List.append_nil _).symm, rfl, nofun, hResult⟩
    · rintro ⟨more, rfl, hMore, -, -⟩
      obtain rfl := List.map_eq_nil_iff.mp hMore.symm
      rw [List.append_nil]
  | cons value values ih =>
    rw [keysFrom]
    -- a key is refused because of its text, its length, or an equal key before it
    by_cases hKey : ∃ key, decode value = some key ∧ key.length = 32 ∧ key ∉ result
    · obtain ⟨key, hDecode, hLength, hNew⟩ := hKey
      have hOnto : decodeOnto decode value = some key := by
        rw [decodeOnto, hDecode, Option.filter_some, if_pos (by simp [hLength])]
      have hNodup : (result ++ [key]).Nodup :=
        List.nodup_append.mpr ⟨hResult, List.pairwise_singleton .., by
          intro a ha b hb hEq
          rw [List.mem_singleton.mp hb] at hEq
          exact hNew (hEq ▸ ha)⟩
      rw [hOnto, okOr_some, ok_bind, if_neg (not_not.mpr hLength), if_neg hNew, ih hNodup]
      constructor
      · rintro ⟨more, rfl, hMore, hAll, hDistinct⟩
        exact ⟨key :: more, List.append_assoc .., by rw [List.map_cons, hDecode, hMore]; rfl,
          List.forall_mem_cons.mpr ⟨hLength, hAll⟩, hDistinct⟩
      · -- read backwards, the first text decodes to the first of the new keys
        rintro ⟨_ | ⟨key', more⟩, rfl, hMore, hAll, hDistinct⟩
        · exact nomatch hMore
        · rw [List.map_cons, List.map_cons, hDecode] at hMore
          obtain ⟨hHead, hTail⟩ := List.cons.inj hMore
          obtain rfl := Option.some.inj hHead
          exact ⟨more, (List.append_assoc result [key] more).symm, hTail,
            fun k hk => hAll k (List.mem_cons_of_mem _ hk), hDistinct⟩
    · refine iff_of_false (fun h => ?_) ?_
      · -- a key that passes the three checks is one of that kind
        obtain ⟨key, hOnto, h⟩ := bind_eq_ok h
        obtain ⟨hLength, h⟩ := guard_eq_ok h
        obtain ⟨hNew, -⟩ := guard_eq_ok h
        obtain ⟨hDecode, -⟩ := Option.filter_eq_some_iff.mp (okOr_eq_ok hOnto)
        exact hKey ⟨key, hDecode, not_not.mp hLength, hNew⟩
      · rintro ⟨_ | ⟨key, more⟩, rfl, hMore, hAll, hDistinct⟩
        · exact nomatch hMore
        · refine hKey ⟨key, (List.cons.inj hMore).1, hAll key (List.mem_cons_self ..), ?_⟩
          intro hOld
          exact (List.nodup_append.mp hDistinct).2.2 key hOld key (List.mem_cons_self ..) rfl

/-- Every text has to be the base58 form of 32 bytes, and no two of the same. -/
theorem keys_eq_ok {values : List String} {decoded : List Bytes} :
    keys decode values = .ok decoded ↔
      values.map decode = decoded.map some ∧ (∀ key ∈ decoded, key.length = 32) ∧
        decoded.Nodup := by
  rw [keys, keysFrom_eq_ok List.nodup_nil]
  constructor
  · rintro ⟨more, rfl, h⟩
    exact h
  · exact fun h => ⟨decoded, rfl, h⟩

end ResolvedFilter

/-- The rule that the request has for a call: the same vote, and the keys of the
texts in their order. -/
structure RuleCall.Decodes (decode : String → Option Bytes) (call : RuleCall)
    (rule : Proto.ResolvedTransactionFilter) : Prop where
  vote : rule.vote = call.vote
  included : call.included.map decode = rule.accountInclude.map some
  excluded : call.excluded.map decode = rule.accountExclude.map some
  required : call.required.map decode = rule.accountRequired.map some

namespace ResolvedFilter

variable {decode : String → Option Bytes}

/-- When a rule is added, and which. -/
theorem rule_eq_ok {self filter : ResolvedFilter} {call : RuleCall} :
    rule decode self call.vote call.included call.excluded call.required = .ok filter ↔
      self.filters.length < 16 ∧
      call.included.length + call.excluded.length + call.required.length ≤ 256 ∧
      ∃ added, call.Decodes decode added ∧
        (∀ keys ∈ [added.accountInclude, added.accountExclude, added.accountRequired],
          (∀ key ∈ keys, key.length = 32) ∧ keys.Nodup) ∧
        filter = ⟨self.filters ++ [added]⟩ := by
  rw [rule]
  constructor
  · intro h
    -- two limits, then the three lists in the order of the fields
    obtain ⟨hRules, h⟩ := guard_eq_ok h
    obtain ⟨hKeys, h⟩ := guard_eq_ok h
    obtain ⟨accountInclude, hInclude, h⟩ := bind_eq_ok h
    obtain ⟨accountExclude, hExclude, h⟩ := bind_eq_ok h
    obtain ⟨accountRequired, hRequired, h⟩ := bind_eq_ok h
    obtain ⟨hIncluded, hInclude⟩ := keys_eq_ok.mp hInclude
    obtain ⟨hExcluded, hExclude⟩ := keys_eq_ok.mp hExclude
    obtain ⟨hRequires, hRequired⟩ := keys_eq_ok.mp hRequired
    refine ⟨not_le.mp hRules, not_lt.mp hKeys, _, ⟨rfl, hIncluded, hExcluded, hRequires⟩, ?_,
      (Except.ok.inj h).symm⟩
    simp only [List.forall_mem_cons]
    exact ⟨hInclude, hExclude, hRequired, nofun⟩
  · rintro ⟨hRules, hKeys, ⟨vote, accountInclude, accountExclude, accountRequired⟩,
      ⟨rfl, hIncluded, hExcluded, hRequires⟩, hAll, rfl⟩
    simp only [List.forall_mem_cons] at hAll
    obtain ⟨hInclude, hExclude, hRequired, -⟩ := hAll
    rw [if_neg (not_le.mpr hRules), if_neg (not_lt.mpr hKeys),
      keys_eq_ok.mpr ⟨hIncluded, hInclude⟩, ok_bind, keys_eq_ok.mpr ⟨hExcluded, hExclude⟩,
      ok_bind, keys_eq_ok.mpr ⟨hRequires, hRequired⟩]
    rfl

/-- The last call of a chain is on the filter of the others. -/
theorem build_concat {calls : List RuleCall} {call : RuleCall} {filter : ResolvedFilter}
    (h : build decode (calls ++ [call]) = .ok filter) : ∃ self, build decode calls = .ok self ∧
      rule decode self call.vote call.included call.excluded call.required = .ok filter := by
  rw [build, List.foldlM_append] at h
  obtain ⟨self, hSelf, h⟩ := bind_eq_ok h
  obtain ⟨filter', hRule, h⟩ := bind_eq_ok h
  obtain rfl := Except.ok.inj h
  exact ⟨self, hSelf, hRule⟩

/-- **The request has the rules of the calls**, in order. -/
theorem decodes_of_build {calls : List RuleCall} {filter : ResolvedFilter}
    (h : build decode calls = .ok filter) :
    List.Forall₂ (RuleCall.Decodes decode) calls filter.filters := by
  induction calls using List.reverseRecOn generalizing filter with
  | nil =>
    obtain rfl := Except.ok.inj h
    exact .nil
  | append_singleton calls call ih =>
    obtain ⟨self, hSelf, hRule⟩ := build_concat h
    obtain ⟨-, -, added, hDecodes, -, rfl⟩ := rule_eq_ok.mp hRule
    exact List.rel_append (ih hSelf) (.cons hDecodes .nil)

end ResolvedFilter

end TxStream
