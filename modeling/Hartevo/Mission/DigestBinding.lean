import Hartevo.Mission.EffectCommands

/-!
# What an approval digest binds

`Effect.approvalPreimage` writes the fields of an effect one after another, each preceded by its
length, so that the bytes determine the sequence of the written fields.  The sequence does not say
where the required scopes, the assets or an optional group end.  On a specification that
`Mission.validateEffectSpec` accepts it can be read all the same, from both ends:

* the terms, the two guards, the consent and the time zone are cut off the back.  A guard ends with
  a digest, its absence with a mark that is none, and the consent has one of three shapes;
* a schedule is told from its absence by the field before it, since the content ends with a digest;
* the content starts at the last field that is not a digest, the tag of the audience;
* the ids and the connection are cut off the front, and the scopes are what is left.
-/

namespace Hartevo

open List

/-! ## The bytes of a field -/

lemma length_utf8 (s : String) : (utf8 s).length = strLen s := by
  simp only [utf8, strLen, length_flatMap, String.length_utf8EncodeChar]

lemma utf8_injective : Function.Injective utf8 := by
  intro s t h
  have hb : s.toList.utf8Encode = t.toList.utf8Encode := congrArg List.toByteArray h
  rw [String.utf8Encode_toList, String.utf8Encode_toList] at hb
  exact String.toByteArray_inj.mp hb

lemma length_lengthBytes (n : ℕ) : (lengthBytes n).length = 8 := by
  simp only [lengthBytes, length_map, length_range]

lemma prefixCode_lengthBytes : PrefixCode {n | n < 2 ^ 64} lengthBytes := by
  refine prefixCode_of_length ?_ fun n _ => length_lengthBytes n
  intro n hn m hm h
  have hd : ∀ i < 8, n / 256 ^ i % 256 = m / 256 ^ i % 256 := by
    intro i hi
    have hb := map_inj_left.mp h (7 - i) (mem_range.mpr (by omega))
    have hp : 7 - (7 - i) = i := by omega
    rw [hp] at hb
    simpa using congrArg UInt8.toNat hb
  have hw : 2 ^ 64 = 256 ^ 8 := by norm_num
  have hmod := mod_pow_eq_of_digits hd
  rwa [← hw, Nat.mod_eq_of_lt hn, Nat.mod_eq_of_lt hm] at hmod

lemma hashField_eq (value : String) :
    hashField value = lengthBytes (utf8 value).length ++ utf8 value := by
  rw [hashField, length_utf8]

lemma prefixCode_hashField : PrefixCode {value | strLen value < 2 ^ 64} hashField := by
  intro a ha b hb s t h
  rw [hashField_eq, hashField_eq] at h
  refine prefixCode_lengthBytes.lengthPrefixed.comp utf8_injective a ?_ b ?_ s t h
  · rwa [Set.mem_preimage, Set.mem_ofPred_eq, length_utf8]
  · rwa [Set.mem_preimage, Set.mem_ofPred_eq, length_utf8]

lemma hashField_ne_nil (value : String) : hashField value ≠ [] := by
  intro h
  have hlen := congrArg List.length (append_eq_nil_iff.mp h).1
  rw [length_lengthBytes, length_nil] at hlen
  omega

/-! ## The sequence of the written fields -/

/-- The fields that `hashOptional` writes. -/
def optionalFields : Option String → List String
  | some value => ["some", value]
  | none => ["none"]

def ConsentRequirement.fields (requirement : ConsentRequirement) : List String :=
  ["consent_requirement", requirement.personId, requirement.purpose.json,
    requirement.channel.json, requirement.market]

def ConversationEffectGuard.fields (guard : ConversationEffectGuard) : List String :=
  ["conversation_guard", guard.conversationId, toString guard.controlGeneration,
    guard.scopeDigest]

def CreatorContactEffectGuard.fields (guard : CreatorContactEffectGuard) : List String :=
  ["creator_contact_guard", guard.hiringId, guard.creatorId, guard.partnerId, guard.scopeDigest,
    guard.permissionEvidenceDigest]

namespace EffectSpec

attribute [ext] EffectSpec

/-- Who acts, through what connection. -/
def authorityFields (spec : EffectSpec) : List String :=
  [spec.id, spec.actorId, spec.capability, spec.provider] ++
    (optionalFields spec.connectionId ++ (optionalFields spec.accountId ++
      spec.requiredScopes.toList))

def contentFields (spec : EffectSpec) : List String :=
  optionalFields spec.audienceDigest ++ spec.payloadDigest :: spec.assetDigests.toList

def consentFields (spec : EffectSpec) : List String :=
  consentName spec.consent :: optionalFields spec.consentRecordId ++
    spec.consentRequirement.elim ["no_consent_requirement"] ConsentRequirement.fields

def termFields (enc : MissionEncoding) (spec : EffectSpec) : List String :=
  [spec.policyVersion, riskName spec.risk, spec.idempotencyKey, toString spec.amount.amountMinor,
    spec.amount.currency.code, enc.toRfc3339 spec.expiresAt]

/-- The fields of a specification, in the order in which they are hashed. -/
def approvalFields (enc : MissionEncoding) (spec : EffectSpec) : List String :=
  spec.authorityFields ++
    [effectClassName spec.effectClass, spec.description, spec.targetResource] ++
    spec.contentFields ++ optionalFields (spec.scheduledFor.map enc.toRfc3339) ++
    [spec.timezone] ++ spec.consentFields ++
    spec.conversationGuard.elim ["no_conversation_guard"] ConversationEffectGuard.fields ++
    spec.creatorContactGuard.elim ["no_creator_contact_guard"] CreatorContactEffectGuard.fields ++
    spec.termFields enc

end EffectSpec

def Effect.spec (self : Effect) : EffectSpec where
  id := self.id
  actorId := self.actorId
  capability := self.capability
  provider := self.provider
  connectionId := self.connectionId
  accountId := self.accountId
  requiredScopes := self.requiredScopes
  effectClass := self.effectClass
  description := self.description
  targetResource := self.targetResource
  audienceDigest := self.audienceDigest
  payloadDigest := self.payloadDigest
  assetDigests := self.assetDigests
  scheduledFor := self.scheduledFor
  timezone := self.timezone
  consent := self.consent
  consentRecordId := self.consentRecordId
  consentRequirement := self.consentRequirement
  conversationGuard := self.conversationGuard
  creatorContactGuard := self.creatorContactGuard
  policyVersion := self.policyVersion
  risk := self.risk
  idempotencyKey := self.idempotencyKey
  amount := self.amount
  expiresAt := self.expiresAt

/-- The fields of an effect, in the order in which they are hashed. -/
def Effect.approvalFields (enc : MissionEncoding) (self : Effect) : List String :=
  [self.tenantId, self.projectId, self.missionId] ++ self.spec.approvalFields enc

lemma flatMap_optionalFields (value : Option String) :
    (optionalFields value).flatMap hashField = hashOptional value := by
  cases value <;> simp [optionalFields, hashOptional]

lemma flatMap_consentRequirement (requirement : Option ConsentRequirement) :
    (requirement.elim ["no_consent_requirement"] ConsentRequirement.fields).flatMap hashField =
      ConsentRequirement.preimage requirement := by
  cases requirement <;> simp [ConsentRequirement.fields, ConsentRequirement.preimage]

lemma flatMap_conversationGuard (guard : Option ConversationEffectGuard) :
    (guard.elim ["no_conversation_guard"] ConversationEffectGuard.fields).flatMap hashField =
      ConversationEffectGuard.preimage guard := by
  cases guard <;> simp [ConversationEffectGuard.fields, ConversationEffectGuard.preimage]

lemma flatMap_creatorContactGuard (guard : Option CreatorContactEffectGuard) :
    (guard.elim ["no_creator_contact_guard"] CreatorContactEffectGuard.fields).flatMap hashField =
      CreatorContactEffectGuard.preimage guard := by
  cases guard <;> simp [CreatorContactEffectGuard.fields, CreatorContactEffectGuard.preimage]

lemma Effect.approvalPreimage_eq (enc : MissionEncoding) (e : Effect) :
    e.approvalPreimage enc = (e.approvalFields enc).flatMap hashField := by
  unfold approvalPreimage approvalFields EffectSpec.approvalFields EffectSpec.authorityFields
    EffectSpec.contentFields EffectSpec.consentFields EffectSpec.termFields
  simp only [flatMap_append, flatMap_cons, flatMap_nil, flatMap_optionalFields,
    flatMap_consentRequirement, flatMap_conversationGuard, flatMap_creatorContactGuard,
    append_assoc, append_nil, cons_append, nil_append]
  rfl

lemma Effect.approvalFields_inj {enc : MissionEncoding} {e e' : Effect}
    (hf : ∀ field ∈ e.approvalFields enc, strLen field < 2 ^ 64)
    (hf' : ∀ field ∈ e'.approvalFields enc, strLen field < 2 ^ 64)
    (h : e.approvalPreimage enc = e'.approvalPreimage enc) :
    e.approvalFields enc = e'.approvalFields enc := by
  rw [approvalPreimage_eq, approvalPreimage_eq] at h
  exact prefixCode_hashField.flatMap_inj (fun value _ => hashField_ne_nil value) hf hf' h

/-! ## What is told apart -/

lemma effectClassName_injective : Function.Injective effectClassName := by
  intro a b h
  cases a <;> cases b <;> first | rfl | simp [effectClassName] at h

lemma consentName_injective : Function.Injective consentName := by
  intro a b h
  cases a <;> cases b <;> first | rfl | simp [consentName] at h

lemma riskName_injective : Function.Injective riskName := by
  intro a b h
  cases a <;> cases b <;> first | rfl | simp [riskName] at h

lemma ConsentPurpose.json_injective : Function.Injective ConsentPurpose.json := by
  intro a b h
  cases a <;> cases b <;> first | rfl | simp [ConsentPurpose.json] at h

lemma ContactChannel.json_injective : Function.Injective ContactChannel.json := by
  intro a b h
  cases a <;> cases b <;> first | rfl | simp [ContactChannel.json] at h

lemma Money.eq_of_toString {a b : Money} (ha : 0 ≤ a.amountMinor) (hb : 0 ≤ b.amountMinor)
    (hm : toString a.amountMinor = toString b.amountMinor)
    (hc : a.currency.code = b.currency.code) : a = b := by
  rcases a with ⟨minor, ⟨code, hw⟩⟩
  rcases b with ⟨minor', ⟨code', hw'⟩⟩
  obtain ⟨n, rfl⟩ := Int.eq_ofNat_of_zero_le ha
  obtain ⟨n', rfl⟩ := Int.eq_ofNat_of_zero_le hb
  obtain rfl := toString_nat_injective hm
  obtain rfl : code = code' := hc
  rfl

lemma ne_of_isSha256 {value mark : String}
    (h : isSha256 value = true) (hm : strLen mark ≠ 64) : value ≠ mark := by
  rintro rfl
  simp only [isSha256, Bool.and_eq_true, beq_iff_eq] at h
  exact hm h.1

lemma prefixCode_optionalFields : PrefixCode Set.univ optionalFields := by
  intro a _ b _ s t h
  cases a <;> cases b <;> simp_all [optionalFields]

lemma optionalFields_inj_right {s t : List String} {a b : Option String}
    (hs : "some" ∉ s.getLast?) (ht : "some" ∉ t.getLast?)
    (h : s ++ optionalFields a = t ++ optionalFields b) : s = t ∧ a = b := by
  have hm : ∀ (v : String) (s t : List String), "some" ∉ t.getLast? →
      s ++ ["some", v] ≠ t ++ ["none"] := by
    intro v s t ht h
    rw [append_cons s "some" [v]] at h
    rw [← (append_inj' h rfl).1, getLast?_concat] at ht
    exact ht rfl
  cases a with
  | none =>
    cases b with
    | none => exact ⟨append_cancel_right h, rfl⟩
    | some w => exact absurd h.symm (hm w t s hs)
  | some v =>
    cases b with
    | none => exact absurd h (hm v s t ht)
    | some w => simpa [optionalFields] using append_inj' h rfl

/-! ## Guards and consent -/

lemma suffixCode_conversationGuard : SuffixCode {o | ∀ guard ∈ o, isSha256 guard.scopeDigest = true}
      (Option.elim · ["no_conversation_guard"] ConversationEffectGuard.fields) := by
  refine SuffixCode.option (suffixCode_of_length (n := 4) ?_ fun _ _ => rfl) ?_
  · intro a _ b _ h
    simp only [ConversationEffectGuard.fields, List.cons.injEq, true_and, and_true] at h
    obtain ⟨hid, hg, hd⟩ := h
    have hg := toString_nat_injective hg
    cases a; cases b
    simp_all
  · intro a ha
    exact ⟨a.scopeDigest, rfl, ne_of_isSha256 ha (by decide)⟩

lemma suffixCode_creatorContactGuard :
    SuffixCode {o | ∀ guard ∈ o, isSha256 guard.permissionEvidenceDigest = true}
      (Option.elim · ["no_creator_contact_guard"] CreatorContactEffectGuard.fields) := by
  refine SuffixCode.option (suffixCode_of_length (n := 6) ?_ fun _ _ => rfl) ?_
  · intro a _ b _ h
    simp only [CreatorContactEffectGuard.fields, List.cons.injEq, true_and, and_true] at h
    cases a; cases b
    simp_all
  · intro a ha
    exact ⟨a.permissionEvidenceDigest, rfl, ne_of_isSha256 ha (by decide)⟩

lemma suffixCode_consentRequirement : SuffixCode Set.univ ConsentRequirement.fields := by
  refine suffixCode_of_length (n := 5) ?_ fun _ _ => rfl
  intro a _ b _ h
  simp only [ConsentRequirement.fields, List.cons.injEq, true_and, and_true] at h
  obtain ⟨hpe, hp, hc, hm⟩ := h
  have hp := ConsentPurpose.json_injective hp
  have hc := ContactChannel.json_injective hc
  cases a; cases b
  simp_all

/-- The three shapes of the consent of an effect. -/
inductive ConsentShape
  | notRequired
  | missing (requirement : ConsentRequirement)
  | recorded (consent : ConsentState) (recordId : ConsentRecordId)
    (requirement : ConsentRequirement)

namespace ConsentShape

def consent : ConsentShape → ConsentState
  | notRequired => .notRequired
  | missing _ => .missing
  | recorded consent _ _ => consent

def recordId : ConsentShape → Option ConsentRecordId
  | notRequired | missing _ => none
  | recorded _ recordId _ => some recordId

def requirement : ConsentShape → Option ConsentRequirement
  | notRequired => none
  | missing requirement | recorded _ _ requirement => some requirement

def fields : ConsentShape → List String
  | notRequired => ["not_required", "none", "no_consent_requirement"]
  | missing requirement => ["missing", "none"] ++ requirement.fields
  | recorded consent recordId requirement =>
    [consentName consent, "some", recordId] ++ requirement.fields

end ConsentShape

lemma exists_consentShape {spec : EffectSpec} (h : validateEffectConsentScope spec = .ok ()) :
    ∃ shape : ConsentShape, spec.consent = shape.consent ∧
      spec.consentRecordId = shape.recordId ∧ spec.consentRequirement = shape.requirement := by
  simp only [validateEffectConsentScope, passed] at h
  have hr : spec.consentRecordId.isSome = true →
      spec.consentRequirement.any ConsentRequirement.validate = true →
      ∃ recordId requirement, spec.consentRecordId = some recordId ∧
        spec.consentRequirement = some requirement := by
    intro hrec hreq
    obtain ⟨recordId, hrec⟩ := Option.isSome_iff_exists.mp hrec
    obtain ⟨requirement, hreq, -⟩ := (Option.any_eq_true _ _).mp hreq
    exact ⟨recordId, requirement, hrec, hreq⟩
  cases hc : spec.consent with
  | notRequired =>
    simp only [hc, Bool.and_eq_true, Option.isNone_iff_eq_none] at h
    exact ⟨.notRequired, rfl, h.1, h.2⟩
  | missing =>
    simp only [hc, Bool.and_eq_true, Option.isNone_iff_eq_none] at h
    obtain ⟨requirement, hreq, -⟩ := (Option.any_eq_true _ _).mp h.2
    exact ⟨.missing requirement, rfl, h.1, hreq⟩
  | confirmed =>
    simp only [hc, Bool.and_eq_true] at h
    obtain ⟨recordId, requirement, hrec, hreq⟩ := hr h.1 h.2
    exact ⟨.recorded .confirmed recordId requirement, rfl, hrec, hreq⟩
  | withdrawn =>
    simp only [hc, Bool.and_eq_true] at h
    obtain ⟨recordId, requirement, hrec, hreq⟩ := hr h.1 h.2
    exact ⟨.recorded .withdrawn recordId requirement, rfl, hrec, hreq⟩

lemma ConsentShape.fields_eq {spec : EffectSpec} {shape : ConsentShape}
    (hc : spec.consent = shape.consent) (hrec : spec.consentRecordId = shape.recordId)
    (hreq : spec.consentRequirement = shape.requirement) : spec.consentFields = shape.fields := by
  unfold EffectSpec.consentFields
  rw [hc, hrec, hreq]
  cases shape <;> rfl

lemma ConsentShape.suffixCode_fields : SuffixCode Set.univ ConsentShape.fields := by
  have hr := suffixCode_consentRequirement
  -- The last field but one is the printed channel, which is not the tag of an absent record.
  have hn : ∀ (r : ConsentRequirement) (s t : List String),
      s ++ fields notRequired ≠ t ++ r.fields := by
    intro r s t h
    have hl := congrArg List.reverse h
    simp only [fields, ConsentRequirement.fields, reverse_append, reverse_cons,
      reverse_nil, nil_append, cons_append, List.cons.injEq] at hl
    exact absurd hl.2.1 (by cases r.channel <;> decide)
  have htag : ∀ (consent : ConsentState) (recordId : String) (s t : List String),
      s ++ ["missing", "none"] ≠ t ++ [consentName consent, "some", recordId] := by
    intro consent recordId s t h
    have hl := congrArg List.reverse h
    simp at hl
  intro a _ b _ s t h
  cases a with
  | notRequired =>
    cases b with
    | notRequired => exact ⟨append_cancel_right h, rfl⟩
    | missing r => exact absurd ((append_assoc ..).trans h.symm).symm (hn r _ _)
    | recorded c i r => exact absurd (h.trans (append_assoc ..).symm) (hn r _ _)
  | missing r =>
    rw [fields, ← append_assoc] at h
    cases b with
    | notRequired => exact absurd h.symm (hn r _ _)
    | missing r' =>
      rw [fields, ← append_assoc] at h
      obtain ⟨hf, rfl⟩ := hr r trivial r' trivial _ _ h
      exact ⟨append_cancel_right hf, rfl⟩
    | recorded c' i' r' =>
      rw [fields, ← append_assoc] at h
      exact absurd (hr r trivial r' trivial _ _ h).1 (htag c' i' _ _)
  | recorded c i r =>
    rw [fields, ← append_assoc] at h
    cases b with
    | notRequired => exact absurd h.symm (hn r _ _)
    | missing r' =>
      rw [fields, ← append_assoc] at h
      exact absurd (hr r trivial r' trivial _ _ h).1.symm (htag c i _ _)
    | recorded c' i' r' =>
      rw [fields, ← append_assoc] at h
      obtain ⟨hf, rfl⟩ := hr r trivial r' trivial _ _ h
      obtain ⟨rfl, hrec⟩ := append_inj' hf rfl
      simp only [List.cons.injEq, true_and, and_true] at hrec
      obtain ⟨hna, rfl⟩ := hrec
      rw [consentName_injective hna]
      exact ⟨rfl, rfl⟩

/-! ## Accepted specifications -/

/-- What acceptance says about the fields from which the sequence is read. -/
structure EffectSpec.Readable (spec : EffectSpec) : Prop where
  amount : 0 ≤ spec.amount.amountMinor
  payload : isSha256 spec.payloadDigest = true
  audience : ∀ digest ∈ spec.audienceDigest, isSha256 digest = true
  assets : ∀ digest ∈ spec.assetDigests.toList, isSha256 digest = true
  conversation : ∀ guard ∈ spec.conversationGuard, isSha256 guard.scopeDigest = true
  creator : ∀ guard ∈ spec.creatorContactGuard, isSha256 guard.permissionEvidenceDigest = true
  consent : validateEffectConsentScope spec = .ok ()

lemma EffectSpec.readable_of_validate {spec : EffectSpec} {now : DateTime}
    {m : Mission} (h : m.validateEffectSpec spec now = .ok ()) : spec.Readable := by
  simp only [Mission.validateEffectSpec, check_ok, rejectIf_ok] at h
  obtain ⟨-, -, hamt, -, -, -, hco, hcon, -⟩ := h
  simp only [validateEffectContentScope, passed, Option.any_eq_false, any_eq_false,
    Bool.not_eq_true', and_assoc, Bool.not_eq_false] at hco
  obtain ⟨-, -, -, -, -, -, hp, ha, has, -, -, -, -, hc, hcr⟩ := hco
  exact {
    amount := not_lt.mp (of_decide_eq_false hamt)
    payload := hp
    audience := fun digest hmem => ha digest hmem
    assets := has
    conversation := fun guard hmem => (hc guard hmem).2.2
    creator := fun guard hmem => (hcr guard hmem).2.2.2.2.1
    consent := hcon }

namespace EffectSpec

variable {enc : MissionEncoding} {spec spec' : EffectSpec} {front front' : List String}

lemma termFields_inj (hrfc : Function.Injective enc.toRfc3339)
    (hamt : 0 ≤ spec.amount.amountMinor) (hamt' : 0 ≤ spec'.amount.amountMinor)
    (h : spec.termFields enc = spec'.termFields enc) :
    spec.policyVersion = spec'.policyVersion ∧ spec.risk = spec'.risk ∧
      spec.idempotencyKey = spec'.idempotencyKey ∧ spec.amount = spec'.amount ∧
      spec.expiresAt = spec'.expiresAt := by
  simp only [termFields, List.cons.injEq, and_true] at h
  obtain ⟨hp, hr, hkey, hm, hc, he⟩ := h
  exact ⟨hp, riskName_injective hr, hkey, Money.eq_of_toString hamt hamt' hm hc, hrfc he⟩

lemma authorityFields_inj (h : spec.authorityFields = spec'.authorityFields) :
    (spec.id = spec'.id ∧ spec.actorId = spec'.actorId ∧ spec.capability = spec'.capability ∧
      spec.provider = spec'.provider) ∧ spec.connectionId = spec'.connectionId ∧
      spec.accountId = spec'.accountId ∧ spec.requiredScopes = spec'.requiredScopes := by
  obtain ⟨hids, h⟩ := append_inj h rfl
  obtain ⟨hc, h⟩ := prefixCode_optionalFields _ trivial _ trivial _ _ h
  obtain ⟨ha, h⟩ := prefixCode_optionalFields _ trivial _ trivial _ _ h
  simp only [List.cons.injEq, and_true] at hids
  exact ⟨hids, hc, ha, Std.ExtTreeSet.toList_inj.mp h⟩

lemma some_notMem_getLast?_contentFields (hs : spec.Readable) :
    "some" ∉ (front ++ spec.contentFields).getLast? := by
  intro hmem
  rw [contentFields, ← append_assoc, getLast?_append_of_ne_nil _ (cons_ne_nil _ _)]
    at hmem
  have hd : isSha256 "some" = true := by
    rcases mem_cons.mp (mem_of_getLast? hmem) with heq | ha
    · rw [heq]
      exact hs.payload
    · exact hs.assets _ ha
  exact absurd hd (by decide)

lemma contentFields_inj (hs : spec.Readable) (hs' : spec'.Readable)
    (h : front ++ spec.contentFields = front' ++ spec'.contentFields) :
    front = front' ∧ spec.audienceDigest = spec'.audienceDigest ∧
      spec.payloadDigest = spec'.payloadDigest ∧ spec.assetDigests = spec'.assetDigests := by
  have hsp : ∀ {spec : EffectSpec}, spec.Readable → ∃ tag digests,
      spec.contentFields = tag :: digests ∧ ¬ isSha256 tag = true ∧
        ∀ digest ∈ digests, isSha256 digest = true := by
    intro spec hs
    have hc : ∀ digest ∈ spec.payloadDigest :: spec.assetDigests.toList,
        isSha256 digest = true := forall_mem_cons.mpr ⟨hs.payload, hs.assets⟩
    cases ha : spec.audienceDigest with
    | none =>
      refine ⟨"none", _, by rw [contentFields, ha]; rfl, by decide, hc⟩
    | some audience =>
      refine ⟨"some", _, by rw [contentFields, ha]; rfl, by decide, ?_⟩
      exact forall_mem_cons.mpr ⟨hs.audience audience ha, hc⟩
  obtain ⟨tag, digests, htag, hnot, hall⟩ := hsp hs
  obtain ⟨tag', digests', htag', hnot', hall'⟩ := hsp hs'
  have hc := h
  rw [htag, htag'] at hc
  obtain ⟨rfl, rfl, rfl⟩ := append_cons_inj_of_forall
    (P := fun value => isSha256 value = true) hnot hnot' hall hall' hc
  have hf : spec.contentFields = spec'.contentFields := htag.trans htag'.symm
  obtain ⟨ha, hr⟩ := prefixCode_optionalFields _ trivial _ trivial _ _ hf
  obtain ⟨hp, has⟩ := List.cons.inj hr
  exact ⟨rfl, ha, hp, Std.ExtTreeSet.toList_inj.mp has⟩

lemma consentFields_inj (hs : spec.Readable) (hs' : spec'.Readable)
    (h : front ++ spec.consentFields = front' ++ spec'.consentFields) :
    front = front' ∧ spec.consent = spec'.consent ∧ spec.consentRecordId = spec'.consentRecordId ∧
      spec.consentRequirement = spec'.consentRequirement := by
  obtain ⟨shape, hc, hrec, hreq⟩ := exists_consentShape hs.consent
  obtain ⟨shape', hc', hrec', hreq'⟩ := exists_consentShape hs'.consent
  rw [ConsentShape.fields_eq hc hrec hreq, ConsentShape.fields_eq hc' hrec' hreq'] at h
  obtain ⟨hf, rfl⟩ := ConsentShape.suffixCode_fields _ trivial _ trivial _ _ h
  exact ⟨hf, hc.trans hc'.symm, hrec.trans hrec'.symm, hreq.trans hreq'.symm⟩

lemma eq_of_approvalFields (hrfc : Function.Injective enc.toRfc3339)
    (hs : spec.Readable) (hs' : spec'.Readable)
    (h : spec.approvalFields enc = spec'.approvalFields enc) : spec = spec' := by
  unfold approvalFields at h
  -- From the back: terms, guards, consent, time zone, schedule, content.
  obtain ⟨h, hte⟩ := append_inj' h rfl
  obtain ⟨h, hcr⟩ := suffixCode_creatorContactGuard _ hs.creator _ hs'.creator _ _ h
  obtain ⟨h, hc⟩ := suffixCode_conversationGuard _ hs.conversation _ hs'.conversation _ _ h
  obtain ⟨h, hcon, hrec, hreq⟩ := consentFields_inj hs hs' h
  obtain ⟨h, ht⟩ := append_inj' h rfl
  obtain ⟨h, hsch⟩ := optionalFields_inj_right
    (some_notMem_getLast?_contentFields hs) (some_notMem_getLast?_contentFields hs') h
  obtain ⟨h, hau, hpa, has⟩ := contentFields_inj hs hs' h
  obtain ⟨h, ha⟩ := append_inj' h rfl
  obtain ⟨⟨hid, hact, hca, hp⟩, hco, hac, hsc⟩ := authorityFields_inj h
  obtain ⟨hpo, hr, hkey, hamt, he⟩ := termFields_inj hrfc hs.amount hs'.amount hte
  simp only [List.cons.injEq, and_true] at ha ht
  exact EffectSpec.ext hid hact hca hp hco hac hsc
    (effectClassName_injective ha.1) ha.2.1 ha.2.2 hau hpa has
    (Option.map_injective hrfc hsch) ht hcon hrec hreq hc
    hcr hpo hr hkey hamt he

end EffectSpec

/-! ## The binding -/

/-- The bytes that an approval digest hashes determine every field that it covers, for effects whose
specifications were accepted.  A length is a machine word, and distinct instants print
differently. -/
theorem Effect.covered_eq_of_approvalPreimage_eq {enc : MissionEncoding}
    (hrfc : Function.Injective enc.toRfc3339) {e e' : Effect} {m m' : Mission}
    {now now' : DateTime} (haccepted : m.validateEffectSpec e.spec now = .ok ())
    (haccepted' : m'.validateEffectSpec e'.spec now' = .ok ())
    (hfits : ∀ field ∈ e.approvalFields enc, strLen field < 2 ^ 64)
    (hfits' : ∀ field ∈ e'.approvalFields enc, strLen field < 2 ^ 64)
    (h : e.approvalPreimage enc = e'.approvalPreimage enc) :
    e.tenantId = e'.tenantId ∧ e.projectId = e'.projectId ∧ e.missionId = e'.missionId ∧
      e.spec = e'.spec := by
  have hf := approvalFields_inj hfits hfits' h
  obtain ⟨hs, hsp⟩ := append_inj hf rfl
  simp only [List.cons.injEq, and_true] at hs
  obtain ⟨ht, hp, hm⟩ := hs
  exact ⟨ht, hp, hm,
    EffectSpec.eq_of_approvalFields hrfc (EffectSpec.readable_of_validate haccepted)
      (EffectSpec.readable_of_validate haccepted') hsp⟩

/-- An encoding that prints the instants from 100 to 999 nanoseconds after the epoch in the form of
RFC 3339, and every other instant differently. -/
def MissionEncoding.nanoseconds : MissionEncoding where
  sha256 _ := 0
  toRfc3339
    | .ofNat n => "1970-01-01T00:00:00.000000" ++ toString n ++ "+00:00"
    | .negSucc n => "-" ++ toString n

lemma MissionEncoding.toRfc3339_nanoseconds_injective :
    Function.Injective MissionEncoding.nanoseconds.toRfc3339 := by
  intro a b h
  have hl := congrArg String.toList h
  cases a <;> cases b <;>
    simp only [nanoseconds, String.toList_append, List.append_cancel_left_eq,
      List.append_cancel_right_eq] at hl
  case ofNat.ofNat => rw [toString_nat_injective (String.toList_inj.mp hl)]
  case negSucc.negSucc => rw [toString_nat_injective (String.toList_inj.mp hl)]
  all_goals exact absurd (congrArg List.head? hl) (by simp)

/-- An effect keeps what its digest covers when it is cancelled. -/
theorem Effect.covered_eq_sample :
    let proposed := Mission.sample.proposedEffect .sample
    let cancelled := { proposed with status := .cancelled }
    proposed.tenantId = cancelled.tenantId ∧ proposed.projectId = cancelled.projectId ∧
      proposed.missionId = cancelled.missionId ∧ proposed.spec = cancelled.spec :=
  Effect.covered_eq_of_approvalPreimage_eq MissionEncoding.toRfc3339_nanoseconds_injective
    (show Mission.sample.validateEffectSpec .sample 0 = .ok () by rfl)
    (show Mission.sample.validateEffectSpec .sample 0 = .ok () by rfl)
    (by decide +kernel) (by decide +kernel) rfl

end Hartevo
