import Hartevo.Foundation.Keyed
import Hartevo.Foundation.Loops
import Hartevo.Mission.DigestBinding

/-!
# What the digest of an effect policy binds

An approval of an effect carries a digest of the permission evidence and of the policy it was given
under, and an effect is executed only if the digest under the policy in force is the same.
`EffectPolicy.fields` lists the hashed fields of a policy in their order.  In the bytes every field
is preceded by its length, so that they determine the sequence, but the sets among the limits are
written without their numbers of elements, and a capability is any text: the name of an effect class
can be a capability of one policy and an allowed class of another
(`capability_read_as_class`).  Policies with the same bytes have the same limits exactly when they
have the same number of capabilities (`sameLimits_iff_of_preimage_eq`): the class names end where
the currency codes begin, and a currency code is no number, which fixes where the rules begin.
-/

namespace Hartevo

open List

instance : Ord CurrencyCode := ⟨compareOn CurrencyCode.code⟩

instance : Std.TransOrd CurrencyCode :=
  inferInstanceAs (Std.TransCmp (compareOn CurrencyCode.code))

instance : Std.TransOrd EffectClass where
  eq_swap := by
    intro a b
    cases a <;> cases b <;> rfl
  isLE_trans := by
    intro a b c
    cases a <;> cases b <;> cases c <;> decide

instance : Std.LawfulEqOrd EffectClass where
  eq_of_compare := by
    intro a b h
    cases a <;> cases b <;> first | rfl | cases h

inductive BrokerError
  | invalidPolicy (message : String)

@[ext] structure EffectRateLimit where
  (ruleId provider capability : String)
  (maxExecutions windowSeconds : ℕ)

structure EffectPolicy where
  version : String
  allowedCapabilities : BTreeSet String
  allowedClasses : BTreeSet EffectClass
  maxAmountsMinor : BTreeMap CurrencyCode ℤ
  rateLimits : List EffectRateLimit

namespace EffectRateLimit

def validate (self : EffectRateLimit) : Except BrokerError Unit :=
  rejectIf (isBlank self.ruleId || isBlank self.provider || isBlank self.capability ||
    self.maxExecutions == 0 || self.windowSeconds == 0 || 2 ^ 63 - 1 < self.windowSeconds)
    (.invalidPolicy ("rate-limit rules require a stable id, exact provider/capability, " ++
      "and positive bounded window/capacity"))

def fields (self : EffectRateLimit) : List String :=
  [self.ruleId, self.provider, self.capability, toString self.maxExecutions,
    toString self.windowSeconds]

end EffectRateLimit

/-- The fields of a currency limit. -/
def limitFields (limit : CurrencyCode × ℤ) : List String :=
  [limit.1.code, toString limit.2]

def authorizationPreimage (permissionDigest policyDigest : String) : List UInt8 :=
  ["hartevo-effect-authorization/v1", permissionDigest, policyDigest].flatMap hashField

namespace EffectPolicy

/-- One round of the loop over the rules, given the rules before it. -/
def validateRule (seen : List EffectRateLimit) (rule : EffectRateLimit) :
    Except BrokerError Unit := do
  rule.validate
  rejectIf (seen.any fun earlier => earlier.ruleId == rule.ruleId ||
    (earlier.provider == rule.provider && earlier.capability == rule.capability))
    (.invalidPolicy "rate-limit rule ids and provider/capability selectors must be unique")

def validate (self : EffectPolicy) : Except BrokerError Unit := do
  rejectIf (isBlank self.version || self.allowedCapabilities.isEmpty ||
    self.allowedClasses.isEmpty || self.maxAmountsMinor.isEmpty ||
    self.maxAmountsMinor.vals.any (· < 0) || self.rateLimits.isEmpty)
    (.invalidPolicy
      "policy version, capability/class/currency limits, and rate-limit rules are required")
  forSeen validateRule [] self.rateLimits

/-- The fields that `canonical_digest` hashes, in their order. -/
def fields (self : EffectPolicy) : List String :=
  ["hartevo-effect-policy/v1", self.version] ++ (self.allowedCapabilities.toList ++
  (self.allowedClasses.toList.map effectClassName ++
  (self.maxAmountsMinor.toList.flatMap limitFields ++
    (sortByKey (·.ruleId) self.rateLimits).flatMap (·.fields))))

def preimage (self : EffectPolicy) : List UInt8 :=
  self.fields.flatMap hashField

def canonicalDigest (enc : MissionEncoding) (self : EffectPolicy) : String :=
  enc.digest self.preimage

def authorizationDigest (enc : MissionEncoding) (self : EffectPolicy)
    (permissionDigest : String) : String :=
  enc.digest (authorizationPreimage permissionDigest (self.canonicalDigest enc))

/-- The comparison of an approval with the policy in force, before the effect is executed. -/
def permitsApproval (enc : MissionEncoding) (self : EffectPolicy) (permissionDigest : String)
    (approval : Approval) : Bool :=
  approval.permissionDigest == self.authorizationDigest enc permissionDigest

/-! ## The binding -/

/-- The same limits, the rules up to their order. -/
structure SameLimits (p q : EffectPolicy) : Prop where
  version : p.version = q.version
  allowedCapabilities : p.allowedCapabilities = q.allowedCapabilities
  allowedClasses : p.allowedClasses = q.allowedClasses
  maxAmountsMinor : p.maxAmountsMinor = q.maxAmountsMinor
  rateLimits : ∀ rule, rule ∈ p.rateLimits ↔ rule ∈ q.rateLimits

/-- What `validate` makes sure of, as far as the digest needs it. -/
structure Bounded (p : EffectPolicy) : Prop where
  currencies : p.maxAmountsMinor.toList ≠ []
  amounts : ∀ limit ∈ p.maxAmountsMinor.toList, 0 ≤ limit.2
  rules : p.rateLimits ≠ []

variable {p q : EffectPolicy} {enc : MissionEncoding}

lemma bounded (h : p.validate = .ok ()) : p.Bounded := by
  have hr := (check_ok.mp h).1
  simp only [rejectIf_ok, Bool.or_eq_false_iff, any_eq_false, decide_eq_true_eq] at hr
  obtain ⟨⟨⟨-, hcurrencies⟩, hamounts⟩, hrules⟩ := hr
  refine ⟨?_, fun limit hl => not_lt.mp (hamounts _ (mem_map_of_mem hl)), by simpa using hrules⟩
  rw [← isEmpty_eq_false_iff, Std.ExtTreeMap.isEmpty_toList]
  exact hcurrencies

/-- A currency code is neither the name of an effect class nor a number. -/
lemma code_ne_effectClassName (currency : CurrencyCode) (c : EffectClass) :
    currency.code ≠ effectClassName c := by
  intro h
  have hupper := currency.wellFormed.2
  rw [h] at hupper
  cases c <;> simp [effectClassName] at hupper

lemma code_ne_toString (currency : CurrencyCode) (n : ℕ) : currency.code ≠ toString n := by
  intro h
  obtain ⟨hlen, hupper⟩ := currency.wellFormed
  cases hl : currency.code.toList with
  | nil => simp [strLen, hl] at hlen
  | cons c rest =>
    have hd : c.isDigit = true := isDigit_of_mem_toString (n := n) (by simp [← h, hl])
    have hu : c.isUpper = true := all_eq_true.mp hupper c (by simp [hl])
    simp only [Char.isDigit, Char.isUpper, Bool.and_eq_true, decide_eq_true_eq,
      UInt32.le_iff_toNat_le] at hd hu
    exact absurd (hu.1.trans hd.2) (by decide)

lemma prefixCode_limitFields : PrefixCode {limit | 0 ≤ limit.2} limitFields := by
  refine prefixCode_of_length (n := 2) ?_ fun _ _ => rfl
  rintro ⟨currency, amount⟩ ha ⟨currency', amount'⟩ hb heq
  simp only [limitFields, cons.injEq, and_true] at heq
  have hm : Money.mk amount currency = ⟨amount', currency'⟩ :=
    Money.eq_of_toString ha hb heq.2 heq.1
  cases hm
  rfl

lemma prefixCode_ruleFields : PrefixCode Set.univ EffectRateLimit.fields := by
  refine prefixCode_of_length (n := 5) ?_ fun _ _ => rfl
  intro rule _ rule' _ heq
  simp only [EffectRateLimit.fields, cons.injEq, and_true] at heq
  obtain ⟨hid, hprovider, hcapability, hmax, hwindow⟩ := heq
  exact EffectRateLimit.ext hid hprovider hcapability (toString_nat_injective hmax)
    (toString_nat_injective hwindow)

section Limits

variable {limits limits' : List (CurrencyCode × ℤ)} {rules rules' : List EffectRateLimit}

lemma length_flatMap_limitFields : (limits.flatMap limitFields).length = 2 * limits.length := by
  simp [length_flatMap, limitFields, mul_comm]

lemma length_flatMap_ruleFields : (rules.flatMap (·.fields)).length = 5 * rules.length := by
  simp [length_flatMap, EffectRateLimit.fields, mul_comm]

/-- Rules that were read as limits would be at least five limits, and the window of the first rule
would be the currency of the third of them. -/
lemma limits_length_le (hrules : rules ≠ []) (hrules' : rules' ≠ [])
    (h : limits.flatMap limitFields ++ rules.flatMap (·.fields) =
      limits'.flatMap limitFields ++ rules'.flatMap (·.fields)) :
    limits'.length ≤ limits.length := by
  by_contra! hlt
  have hlen := congrArg length h
  simp only [length_append, length_flatMap_limitFields, length_flatMap_ruleFields] at hlen
  have hr' := length_pos_iff.mpr hrules'
  obtain ⟨rule, rest, rfl⟩ := exists_cons_of_ne_nil hrules
  have hthird : limits.length + 2 < limits'.length := by omega
  rw [← take_append_drop (limits.length + 2) limits', drop_eq_getElem_cons hthird, flatMap_append,
    flatMap_cons, flatMap_cons, EffectRateLimit.fields, limitFields] at h
  have hcut : limits.flatMap limitFields ++ [rule.ruleId, rule.provider, rule.capability,
      toString rule.maxExecutions] ++ toString rule.windowSeconds :: rest.flatMap (·.fields) = _ :=
    (append_assoc _ _ _).trans (h.trans (append_assoc _ _ _))
  have hhead := (append_inj hcut (by
    simp only [length_append, length_flatMap_limitFields, length_take, length_cons, length_nil]
    omega)).2
  exact code_ne_toString _ _ (cons.inj hhead).1.symm

end Limits

lemma head_limits {others : List String} (hcurrencies : p.maxAmountsMinor.toList ≠ []) :
    ∀ field ∈ (p.maxAmountsMinor.toList.flatMap limitFields ++ others).head?,
      ¬ ∃ c, effectClassName c = field := by
  obtain ⟨limit, rest, hcons⟩ := exists_cons_of_ne_nil hcurrencies
  rw [hcons]
  rintro field ⟨⟩ ⟨c, hc⟩
  exact code_ne_effectClassName limit.1 c hc.symm

/-- After the capabilities, the cuts between the sets of limits are where the class names end and
where the rules begin. -/
lemma sameLimits_of_fields_eq (hp : p.Bounded) (hq : q.Bounded)
    (hcaps : p.allowedCapabilities.size = q.allowedCapabilities.size) (h : p.fields = q.fields) :
    p.SameLimits q := by
  obtain ⟨hversion, h⟩ := append_inj h rfl
  obtain ⟨hcapabilities, h⟩ := append_inj h (by simpa using hcaps)
  obtain ⟨hclasses, h⟩ := append_inj_of_forall (P := (∃ c, effectClassName c = ·))
    (by simp) (by simp) (head_limits hp.currencies) (head_limits hq.currencies) h
  have hrules : ∀ r : EffectPolicy, r.Bounded → sortByKey (·.ruleId) r.rateLimits ≠ [] := by
    intro r hr
    rw [← length_pos_iff, length_sortByKey, length_pos_iff]
    exact hr.rules
  have hlen : p.maxAmountsMinor.toList.length = q.maxAmountsMinor.toList.length :=
    le_antisymm (limits_length_le (hrules q hq) (hrules p hp) h.symm)
      (limits_length_le (hrules p hp) (hrules q hq) h)
  obtain ⟨hlimits, h⟩ := append_inj h (by
    rw [length_flatMap_limitFields, length_flatMap_limitFields, hlen])
  have hlimits := prefixCode_limitFields.flatMap_inj (fun _ _ => cons_ne_nil _ _) hp.amounts
    hq.amounts hlimits
  have hrates := prefixCode_ruleFields.flatMap_inj (fun _ _ => cons_ne_nil _ _)
    (fun _ _ => trivial) (fun _ _ => trivial) h
  refine ⟨(cons.inj (cons.inj hversion).2).1, Std.ExtTreeSet.toList_inj.mp hcapabilities,
    Std.ExtTreeSet.toList_inj.mp (map_injective_iff.mpr effectClassName_injective hclasses),
    Std.ExtTreeMap.toList_inj.mp hlimits, fun rule => ?_⟩
  rw [← (sortByKey_perm (·.ruleId) p.rateLimits).mem_iff, hrates, mem_sortByKey]

lemma strLen_digest (bytes : List UInt8) : strLen (enc.digest bytes) < 2 ^ 64 := by
  have hd := digest_lowerHex (enc.sha256 bytes)
  simp only [digest, Bool.and_eq_true, beq_iff_eq] at hd
  rw [MissionEncoding.digest, hd.1]
  decide

/-- Two policies that are hashed alike have the same limits exactly when they allow the same number
of capabilities, and an approval that was given under one passes the comparison under the other only
if they are hashed alike. -/
theorem sameLimits_iff_of_preimage_eq (enc : MissionEncoding) (hp : p.validate = .ok ())
    (hq : q.validate = .ok ()) (hfits : ∀ field ∈ p.fields, strLen field < 2 ^ 64)
    (hfits' : ∀ field ∈ q.fields, strLen field < 2 ^ 64) :
    (p.preimage = q.preimage →
      (p.SameLimits q ↔ p.allowedCapabilities.size = q.allowedCapabilities.size)) ∧
      ∀ (evidence evidence' : String) (approval : Approval),
        strLen evidence < 2 ^ 64 → strLen evidence' < 2 ^ 64 →
        Set.InjOn enc.sha256 {p.preimage, q.preimage,
          authorizationPreimage evidence (p.canonicalDigest enc),
          authorizationPreimage evidence' (q.canonicalDigest enc)} →
        approval.permissionDigest = p.authorizationDigest enc evidence →
        q.permitsApproval enc evidence' approval = true →
        (p.SameLimits q ↔ p.allowedCapabilities.size = q.allowedCapabilities.size) := by
  have hcode := prefixCode_hashField
  have hbytes : p.preimage = q.preimage →
      (p.SameLimits q ↔ p.allowedCapabilities.size = q.allowedCapabilities.size) := by
    refine fun h => ⟨fun hsame => by rw [hsame.allowedCapabilities], fun hcaps => ?_⟩
    exact sameLimits_of_fields_eq (bounded hp) (bounded hq) hcaps
      (hcode.flatMap_inj (fun value _ => hashField_ne_nil value) hfits hfits' h)
  refine ⟨hbytes, ?_⟩
  intro evidence evidence' approval hevidence hevidence' hsha happroval hpermits
  rw [permitsApproval, beq_iff_eq, happroval] at hpermits
  have hauth := hsha (by simp) (by simp) (lowerHex_injective hpermits)
  have hdigests := hcode.flatMap_inj (fun value _ => hashField_ne_nil value)
    (by simpa using ⟨by decide, hevidence, strLen_digest _⟩)
    (by simpa using ⟨by decide, hevidence', strLen_digest _⟩) hauth
  simp only [cons.injEq, and_true, true_and] at hdigests
  exact hbytes (hsha (by simp) (by simp) (lowerHex_injective hdigests.2))

/-- A policy with one currency, and rules with the given ids. -/
def sample (capabilities : List String) (classes : List EffectClass) (ids : List String) :
    EffectPolicy where
  version := "1"
  allowedCapabilities := .ofList capabilities
  allowedClasses := .ofList classes
  maxAmountsMinor := .ofList [(EffectSpec.sample.amount.currency, (1 : ℤ))]
  rateLimits := ids.map fun id => ⟨id, id, "send", 1, 60⟩

/-- The order of the rules does not matter. -/
theorem sameLimits_sample :
    SameLimits (sample ["send"] [.spend] ["a", "b"]) (sample ["send"] [.spend] ["b", "a"]) := by
  let enc : MissionEncoding := ⟨fun bytes => bytes.length, fun _ => ""⟩
  have h : (sample ["send"] [.spend] ["a", "b"]).preimage =
    (sample ["send"] [.spend] ["b", "a"]).preimage := by decide +kernel
  have hd : (sample ["send"] [.spend] ["a", "b"]).canonicalDigest enc =
    (sample ["send"] [.spend] ["b", "a"]).canonicalDigest enc := congrArg enc.digest h
  refine ((@sameLimits_iff_of_preimage_eq (sample ["send"] [.spend] ["a", "b"])
    (sample ["send"] [.spend] ["b", "a"]) enc rfl rfl (by decide +kernel)
    (by decide +kernel)).2 "e" "e"
    { Approval.sample with permissionDigest := authorizationDigest enc _ "e" } (by decide)
    (by decide) ?_ rfl (by simp [permitsApproval, authorizationDigest, hd])).mpr rfl
  rw [h, hd, Set.insert_eq_of_mem (Set.mem_insert _ _), Set.pair_eq_singleton, Set.injOn_pair]
  exact fun hlen => absurd hlen (by decide +kernel)

/-- The name of a class is a capability of one policy and a class of another. -/
theorem capability_read_as_class :
    let p := sample ["pay"] [.read, .spend] ["a"]
    let q := sample ["pay", "read"] [.spend] ["a"]
    p.validate = .ok () ∧ q.validate = .ok () ∧ p.preimage = q.preimage ∧
      "read" ∉ p.allowedCapabilities ∧ "read" ∈ q.allowedCapabilities ∧
      .read ∈ p.allowedClasses ∧ .read ∉ q.allowedClasses :=
  ⟨rfl, rfl, by decide +kernel, by decide +kernel⟩

end EffectPolicy

end Hartevo
