import Hartevo.Mission.DigestBinding
import Hartevo.RuntimeTurn.Recording

/-!
# Private text streams

The text of an assistant is kept as increments.  Each one is bound to the entry of the evidence that
observed it, and its chain digest is the hash of the chain digest before it and of what it adds.

The fields that are hashed are printed with colons between them and contain none, so the text that
is hashed determines them (`chainText_inj`).  Where the hash has no collision among the texts of two
streams, the last chain digest determines the whole stream: the number of increments, and each of
them from the last to the first.
-/

namespace Hartevo

open List

def maxPrivateMessageBytes : ℕ := 4 * 1024 * 1024

structure RuntimeTurnPrivateTextDelta where
  tenantId : TenantId
  projectId : ProjectId
  missionId : MissionId
  runtimeTurnAttemptId : RuntimeTurnAttemptId
  evidenceSequence : ℕ
  streamSequence : ℕ
  workerGeneration : ℕ
  itemIdDigest : String
  delta : String
  deltaDigest : String
  cumulativeByteCount : ℕ
  chainDigest : String
  eventDigest : String
  observedAt : DateTime
deriving DecidableEq

def chainText (previousChainDigest itemIdDigest : String) (streamSequence cumulativeByteCount : ℕ)
    (deltaDigest : String) (evidenceSequence : ℕ) : String :=
  previousChainDigest ++ ":" ++ itemIdDigest ++ ":" ++ toString streamSequence ++ ":" ++
    toString cumulativeByteCount ++ ":" ++ deltaDigest ++ ":" ++ toString evidenceSequence

def privateTextDeltaChainDigest (enc : MissionEncoding)
    (previousChainDigest itemIdDigest : String) (streamSequence cumulativeByteCount : ℕ)
    (deltaDigest : String) (evidenceSequence : ℕ) : String :=
  enc.textDigest (chainText previousChainDigest itemIdDigest streamSequence
    cumulativeByteCount deltaDigest evidenceSequence)

namespace RuntimeTurnPrivateTextDelta

structure Position where
  sequence : ℕ
  chainDigest : String
  byteCount : ℕ

def nextPosition : Option RuntimeTurnPrivateTextDelta → Except RuntimeTurnError Position
  | some previous => do
    let sequence ← okOr (checkedAdd 64 previous.streamSequence 1) .revisionOverflow
    return ⟨sequence, previous.chainDigest, previous.cumulativeByteCount⟩
  | none => return ⟨1, "runtime-text-stream-v1", 0⟩

/-- The increment does not go on with the stream of the one before it. -/
def leavesStream (self previous : RuntimeTurnPrivateTextDelta) : Bool :=
  previous.tenantId != self.tenantId || previous.projectId != self.projectId ||
    previous.missionId != self.missionId ||
    previous.runtimeTurnAttemptId != self.runtimeTurnAttemptId ||
    previous.workerGeneration != self.workerGeneration ||
    previous.itemIdDigest != self.itemIdDigest ||
    decide (self.evidenceSequence ≤ previous.evidenceSequence)

def validateFor (enc : MissionEncoding) (self : RuntimeTurnPrivateTextDelta)
    (attempt : RuntimeTurnAttempt) (previous : Option RuntimeTurnPrivateTextDelta) :
    Except RuntimeTurnError Unit := do
  let evidence ← okOr (attempt.evidence.find? (·.sequence == self.evidenceSequence))
    .invalidPrivateTextDelta
  let deltaByteCount ← okOr (tryFromCount 64 (strLen self.delta)) .invalidPrivateTextDelta
  rejectIf (previous.any self.leavesStream) .invalidPrivateTextDelta
  let position ← nextPosition previous
  let expectedCumulative ← okOr (checkedAdd 64 position.byteCount deltaByteCount)
    .invalidPrivateTextDelta
  let expectedChain := privateTextDeltaChainDigest enc position.chainDigest self.itemIdDigest
    self.streamSequence self.cumulativeByteCount self.deltaDigest self.evidenceSequence
  rejectIf (self.tenantId != attempt.scope.tenantId || self.projectId != attempt.scope.projectId ||
    self.missionId != attempt.scope.missionId || self.runtimeTurnAttemptId != attempt.id ||
    self.workerGeneration != attempt.scope.workerGeneration ||
    evidence.kind != .agentMessageDelta || self.streamSequence != position.sequence ||
    self.delta.isEmpty || decide (maxPrivateMessageBytes < strLen self.delta) ||
    !isSha256 self.itemIdDigest || self.deltaDigest != enc.textDigest self.delta ||
    self.cumulativeByteCount != expectedCumulative ||
    decide (maxPrivateMessageBytes < self.cumulativeByteCount) ||
    self.chainDigest != expectedChain || self.eventDigest != evidence.evidenceDigest ||
    self.observedAt != evidence.observedAt) .invalidPrivateTextDelta

def capture (enc : MissionEncoding) (attempt : RuntimeTurnAttempt)
    (itemIdDigest delta : String) (previous : Option RuntimeTurnPrivateTextDelta) :
    Except RuntimeTurnError RuntimeTurnPrivateTextDelta := do
  let evidence ← okOr attempt.evidence.getLast? .invalidPrivateTextDelta
  let deltaByteCount ← okOr (tryFromCount 64 (strLen delta)) .invalidPrivateTextDelta
  let position ← nextPosition previous
  let cumulativeByteCount ← okOr (checkedAdd 64 position.byteCount deltaByteCount)
    .invalidPrivateTextDelta
  let deltaDigest := enc.textDigest delta
  let record : RuntimeTurnPrivateTextDelta :=
    { tenantId := attempt.scope.tenantId
      projectId := attempt.scope.projectId
      missionId := attempt.scope.missionId
      runtimeTurnAttemptId := attempt.id
      evidenceSequence := evidence.sequence
      streamSequence := position.sequence
      workerGeneration := attempt.scope.workerGeneration
      itemIdDigest := itemIdDigest
      delta := delta
      deltaDigest := deltaDigest
      cumulativeByteCount := cumulativeByteCount
      chainDigest := privateTextDeltaChainDigest enc position.chainDigest itemIdDigest
        position.sequence cumulativeByteCount deltaDigest evidence.sequence
      eventDigest := evidence.evidenceDigest
      observedAt := evidence.observedAt }
  record.validateFor enc attempt previous
  return record

/-- Increments that are validated in order, each against the one before it. -/
def validateStream (enc : MissionEncoding) (attempt : RuntimeTurnAttempt) :
    Option RuntimeTurnPrivateTextDelta → List RuntimeTurnPrivateTextDelta →
      Except RuntimeTurnError Unit
  | _, [] => .ok ()
  | previous, delta :: rest => do
    delta.validateFor enc attempt previous
    validateStream enc attempt (some delta) rest

/-! ## One increment -/

/-- What validation says of an increment. -/
structure Linked (enc : MissionEncoding) (attempt : RuntimeTurnAttempt)
    (previous : Option RuntimeTurnPrivateTextDelta) (delta : RuntimeTurnPrivateTextDelta) :
    Prop where
  evidence : ∃ evidence, attempt.evidence.find? (·.sequence == delta.evidenceSequence) =
    some evidence ∧ delta.eventDigest = evidence.evidenceDigest ∧
    delta.observedAt = evidence.observedAt
  tenant : delta.tenantId = attempt.scope.tenantId
  project : delta.projectId = attempt.scope.projectId
  mission : delta.missionId = attempt.scope.missionId
  turn : delta.runtimeTurnAttemptId = attempt.id
  generation : delta.workerGeneration = attempt.scope.workerGeneration
  sequence : delta.streamSequence = (previous.map (·.streamSequence)).getD 0 + 1
  item : isSha256 delta.itemIdDigest = true
  digest : delta.deltaDigest = enc.textDigest delta.delta
  cumulative : delta.cumulativeByteCount =
    (previous.map (·.cumulativeByteCount)).getD 0 + strLen delta.delta
  bounded : delta.cumulativeByteCount ≤ maxPrivateMessageBytes
  chain : delta.chainDigest = privateTextDeltaChainDigest enc
    ((previous.map (·.chainDigest)).getD "runtime-text-stream-v1") delta.itemIdDigest
    delta.streamSequence delta.cumulativeByteCount delta.deltaDigest delta.evidenceSequence

section Streams

variable {enc : MissionEncoding} {attempt : RuntimeTurnAttempt}
  {previous : Option RuntimeTurnPrivateTextDelta} {delta delta' : RuntimeTurnPrivateTextDelta}
  {dls deltas' : List RuntimeTurnPrivateTextDelta} {dl : RuntimeTurnPrivateTextDelta}
  {texts texts' : List String}

lemma nextPosition_ok {position : Position} (h : nextPosition previous = .ok position) :
    position = ⟨(previous.map (·.streamSequence)).getD 0 + 1,
      (previous.map (·.chainDigest)).getD "runtime-text-stream-v1",
      (previous.map (·.cumulativeByteCount)).getD 0⟩ := by
  cases previous with
  | none =>
    cases h
    rfl
  | some previous =>
    obtain ⟨sequence, hseq, h⟩ := bind_ok.mp h
    rw [okOr_ok, checkedAdd_eq_some] at hseq
    obtain ⟨-, rfl⟩ := hseq
    cases h
    rfl

lemma linked_of_validateFor (h : delta.validateFor enc attempt previous = .ok ()) :
    Linked enc attempt previous delta := by
  obtain ⟨evd, hev, h⟩ := bind_ok.mp h
  obtain ⟨count, hc, h⟩ := bind_ok.mp h
  obtain ⟨-, h⟩ := check_ok.mp h
  obtain ⟨position, hp, h⟩ := bind_ok.mp h
  obtain ⟨cumulative, hcum, h⟩ := bind_ok.mp h
  rw [okOr_ok] at hev
  rw [okOr_ok, tryFromCount_eq_some] at hc
  rw [okOr_ok, checkedAdd_eq_some] at hcum
  obtain ⟨-, rfl⟩ := hc
  obtain ⟨-, rfl⟩ := hcum
  obtain rfl := nextPosition_ok hp
  simp only [passed, and_assoc] at h
  obtain ⟨ht, hpr, hm, htu, hgen, -, hseq, -, -, hi, hd, hcum, hb, hch, he, ho⟩ := h
  exact ⟨⟨evd, hev, he, ho⟩, ht, hpr, hm, htu, hgen, hseq, hi, hd, hcum, hb, hch⟩

/-! ## Streams -/

lemma validateStream_concat : validateStream enc attempt previous (dls ++ [delta]) = .ok () ↔
      validateStream enc attempt previous dls = .ok () ∧
        delta.validateFor enc attempt (dls.getLast?.or previous) = .ok () := by
  induction dls generalizing previous with
  | nil => simp [validateStream, check_ok]
  | cons first dls ih =>
    have hl : (first :: dls).getLast?.or previous = dls.getLast?.or (some first) := by
      rw [getLast?_cons]
      cases dls.getLast? <;> rfl
    rw [cons_append, validateStream, validateStream, check_ok, check_ok, ih, hl, and_assoc]

/-- The texts that the increments of a stream have hashed: their own, and those of the chain. -/
def hashedTexts (previous : Option RuntimeTurnPrivateTextDelta) :
    List RuntimeTurnPrivateTextDelta → List String
  | [] => []
  | delta :: rest =>
    [delta.delta, chainText ((previous.map (·.chainDigest)).getD "runtime-text-stream-v1")
      delta.itemIdDigest delta.streamSequence delta.cumulativeByteCount delta.deltaDigest
      delta.evidenceSequence] ++ hashedTexts (some delta) rest

lemma hashedTexts_concat :
    hashedTexts previous (dls ++ [delta]) = hashedTexts previous dls ++ [delta.delta, chainText
        (((dls.getLast?.or previous).map (·.chainDigest)).getD "runtime-text-stream-v1")
        delta.itemIdDigest delta.streamSequence delta.cumulativeByteCount delta.deltaDigest
        delta.evidenceSequence] := by
  induction dls generalizing previous with
  | nil => rfl
  | cons first dls ih =>
    have hl : (first :: dls).getLast?.or previous = dls.getLast?.or (some first) := by
      rw [getLast?_cons]
      cases dls.getLast? <;> rfl
    rw [cons_append, hashedTexts, hashedTexts, ih, hl, append_assoc]

lemma streamSequence_eq_length (h : validateStream enc attempt none (dls ++ [delta]) = .ok ()) :
    delta.streamSequence = dls.length + 1 := by
  induction dls using List.reverseRecOn generalizing delta with
  | nil =>
    obtain ⟨-, hd⟩ := validateStream_concat.mp h
    exact (linked_of_validateFor hd).sequence
  | append_singleton dls last ih =>
    obtain ⟨hde, hd⟩ := validateStream_concat.mp h
    have hl := ih hde
    have hs := (linked_of_validateFor hd).sequence
    rw [getLast?_concat] at hs
    simp only [Option.some_or, Option.map_some, Option.getD_some] at hs
    rw [hs, hl, length_append, length_singleton]

lemma sum_strLen_eq (h : validateStream enc attempt none (dls ++ [delta]) = .ok ()) :
    ((dls ++ [delta]).map (strLen ·.delta)).sum = delta.cumulativeByteCount := by
  induction dls using List.reverseRecOn generalizing delta with
  | nil =>
    obtain ⟨-, hd⟩ := validateStream_concat.mp h
    have hc := (linked_of_validateFor hd).cumulative
    simpa using hc.symm
  | append_singleton dls last ih =>
    obtain ⟨hde, hd⟩ := validateStream_concat.mp h
    have hc := (linked_of_validateFor hd).cumulative
    rw [getLast?_concat] at hc
    simp only [Option.some_or, Option.map_some, Option.getD_some] at hc
    rw [map_append, sum_append, ih hde, hc]
    simp

/-! ## Reading the hashed text -/

lemma colon_notMem_of_isSha256 {value : String}
    (h : isSha256 value = true) : ':' ∉ value.toList := by
  simp only [isSha256, Bool.and_eq_true, all_eq_true] at h
  intro hc
  have hhex := h.2 ':' hc
  revert hhex
  decide

lemma colon_notMem_toString (n : ℕ) : ':' ∉ (toString n).toList := by
  intro hc
  have hd := isDigit_of_mem_toString hc
  revert hd
  decide

lemma toList_chainText (previousChainDigest itemIdDigest : String)
    (streamSequence cumulativeByteCount : ℕ) (deltaDigest : String) (evidenceSequence : ℕ) :
    (chainText previousChainDigest itemIdDigest streamSequence cumulativeByteCount deltaDigest
        evidenceSequence).toList =
      previousChainDigest.toList ++ [itemIdDigest.toList, (toString streamSequence).toList,
        (toString cumulativeByteCount).toList, deltaDigest.toList,
        (toString evidenceSequence).toList].flatMap (':' :: ·) := by
  simp [chainText]

lemma colon_notMem_words
    (hi : isSha256 dl.itemIdDigest = true) (hd : isSha256 dl.deltaDigest = true) :
    ∀ word ∈ [dl.itemIdDigest.toList, (toString dl.streamSequence).toList,
      (toString dl.cumulativeByteCount).toList, dl.deltaDigest.toList,
      (toString dl.evidenceSequence).toList], ':' ∉ word := by
  intro word hw
  simp only [mem_cons, not_mem_nil, or_false] at hw
  rcases hw with rfl | rfl | rfl | rfl | rfl
  · exact colon_notMem_of_isSha256 hi
  · exact colon_notMem_toString _
  · exact colon_notMem_toString _
  · exact colon_notMem_of_isSha256 hd
  · exact colon_notMem_toString _

lemma chainText_inj {previousDigest previousDigest' : String} {dl' : RuntimeTurnPrivateTextDelta}
    (hi : isSha256 dl.itemIdDigest = true) (hi' : isSha256 dl'.itemIdDigest = true)
    (hd : isSha256 dl.deltaDigest = true) (hd' : isSha256 dl'.deltaDigest = true)
    (h : chainText previousDigest dl.itemIdDigest dl.streamSequence dl.cumulativeByteCount
        dl.deltaDigest dl.evidenceSequence =
      chainText previousDigest' dl'.itemIdDigest dl'.streamSequence
        dl'.cumulativeByteCount dl'.deltaDigest dl'.evidenceSequence) :
    previousDigest = previousDigest' ∧ dl.itemIdDigest = dl'.itemIdDigest ∧
      dl.streamSequence = dl'.streamSequence ∧
      dl.cumulativeByteCount = dl'.cumulativeByteCount ∧
      dl.deltaDigest = dl'.deltaDigest ∧
      dl.evidenceSequence = dl'.evidenceSequence := by
  have hl := congrArg String.toList h
  rw [toList_chainText, toList_chainText] at hl
  obtain ⟨hp, hw⟩ := separated_inj (colon_notMem_words hi hd)
    (colon_notMem_words hi' hd') (by simp only [length_cons]) hl
  simp only [List.cons.injEq, and_true, String.toList_inj] at hw
  obtain ⟨hit, hseq, hcum, hdi, hev⟩ := hw
  exact ⟨String.toList_inj.mp hp, hit, toString_nat_injective hseq,
    toString_nat_injective hcum, hdi, toString_nat_injective hev⟩

/-! ## The chain binds the stream -/

/-- The hash has no collision among these texts. -/
def CollisionFree (enc : MissionEncoding) (texts : List String) : Prop :=
  ∀ text ∈ texts, ∀ text' ∈ texts,
    enc.sha256 (utf8 text) = enc.sha256 (utf8 text') → text = text'

instance decidableCollisionFree (enc : MissionEncoding) (texts : List String) :
    Decidable (CollisionFree enc texts) :=
  inferInstanceAs (Decidable (∀ text ∈ texts, ∀ text' ∈ texts, _ → text = text'))

lemma CollisionFree.mono (h : CollisionFree enc texts')
    (hsub : texts ⊆ texts') : CollisionFree enc texts :=
  fun text ht text' ht' => h text (hsub ht) text' (hsub ht')

lemma CollisionFree.eq_of_textDigest {text text' : String} (h : CollisionFree enc texts)
    (ht : text ∈ texts) (ht' : text' ∈ texts)
    (hd : enc.textDigest text = enc.textDigest text') : text = text' :=
  h text ht text' ht' (lowerHex_injective hd)

lemma Linked.eq (h : Linked enc attempt previous delta) (h' : Linked enc attempt previous delta')
    (hi : delta.itemIdDigest = delta'.itemIdDigest) (ht : delta.delta = delta'.delta)
    (hev : delta.evidenceSequence = delta'.evidenceSequence) : delta = delta' := by
  obtain ⟨evd, hf, he, ho⟩ := h.evidence
  obtain ⟨evd', hf', he', ho'⟩ := h'.evidence
  rw [hev, hf'] at hf
  obtain rfl := Option.some.inj hf
  have hs := h.sequence.trans h'.sequence.symm
  have hd : delta.deltaDigest = delta'.deltaDigest := by
    rw [h.digest, h'.digest, ht]
  have hcum : delta.cumulativeByteCount = delta'.cumulativeByteCount := by
    rw [h.cumulative, h'.cumulative, ht]
  have hc : delta.chainDigest = delta'.chainDigest := by
    rw [h.chain, h'.chain, hi, hs, hcum, hd, hev]
  have hte := h.tenant.trans h'.tenant.symm
  have hp := h.project.trans h'.project.symm
  have hm := h.mission.trans h'.mission.symm
  have htu := h.turn.trans h'.turn.symm
  have hg := h.generation.trans h'.generation.symm
  have heve := he.trans he'.symm
  have hin := ho.trans ho'.symm
  cases delta
  cases delta'
  simp_all

lemma stream_eq (h : validateStream enc attempt none dls = .ok ())
    (h' : validateStream enc attempt none deltas' = .ok ())
    (hf : CollisionFree enc (hashedTexts none dls ++ hashedTexts none deltas'))
    (hla : dls.getLast?.map (·.chainDigest) = deltas'.getLast?.map (·.chainDigest)) :
    dls = deltas' := by
  -- from the last increment to the first: the chain digest gives the text that was hashed, and
  -- this the chain digest before
  induction dls using List.reverseRecOn generalizing deltas' with
  | nil => simpa [eq_comm] using hla
  | append_singleton dls delta ih =>
    obtain rfl | ⟨init, delta', rfl⟩ := eq_nil_or_concat deltas'
    · simp at hla
    rw [concat_eq_append] at h' hf hla ⊢
    have hlen := streamSequence_eq_length h
    have hlen' := streamSequence_eq_length h'
    obtain ⟨hdelt, hde⟩ := validateStream_concat.mp h
    obtain ⟨hi, hde'⟩ := validateStream_concat.mp h'
    have hl := linked_of_validateFor hde
    have hl' := linked_of_validateFor hde'
    simp only [Option.or_none] at hl hl'
    rw [hashedTexts_concat, hashedTexts_concat] at hf
    simp only [Option.or_none] at hf
    simp only [getLast?_concat, Option.map_some, Option.some.injEq] at hla
    have hd : isSha256 delta.deltaDigest = true := by
      rw [hl.digest]
      exact isSha256_of_digest (digest_lowerHex _)
    have hd' : isSha256 delta'.deltaDigest = true := by
      rw [hl'.digest]
      exact isSha256_of_digest (digest_lowerHex _)
    have hte := hf.eq_of_textDigest (by simp) (by simp)
      (hl.chain.symm.trans (hla.trans hl'.chain))
    obtain ⟨hp, hit, hseq, -, hdi, hev⟩ := chainText_inj hl.item hl'.item hd hd' hte
    have hdel : delta.delta = delta'.delta := hf.eq_of_textDigest (by simp) (by simp)
        (hl.digest.symm.trans (hdi.trans hl'.digest))
    have hle : dls.length = init.length := by omega
    have hb : dls.getLast?.map (·.chainDigest) = init.getLast?.map (·.chainDigest) := by
      rcases eq_nil_or_concat dls with rfl | ⟨front, last, rfl⟩
      · rw [length_nil, eq_comm, length_eq_zero_iff] at hle
        rw [hle]
      · rcases eq_nil_or_concat init with rfl | ⟨front', last', rfl⟩
        · simp at hle
        · simpa using hp
    have hs : dls = init := by
      refine ih hdelt hi (hf.mono ?_) hb
      intro text ht
      rcases mem_append.mp ht with ht | ht
      · simp [ht]
      · simp [ht]
    subst hs
    rw [hl.eq hl' hit hdel hev]

/-- Two streams that are validated against one attempt and end in the same chain digest are the
same, and the last count of a stream is the size of its texts, within the bound. -/
theorem text_stream_bound :
    (∀ deltas deltas', validateStream enc attempt none deltas = .ok () →
      validateStream enc attempt none deltas' = .ok () →
      CollisionFree enc (hashedTexts none deltas ++ hashedTexts none deltas') →
      deltas.getLast?.map (·.chainDigest) = deltas'.getLast?.map (·.chainDigest) →
      deltas = deltas') ∧
    ∀ deltas, validateStream enc attempt none deltas = .ok () →
      ∀ last ∈ deltas.getLast?, (deltas.map (strLen ·.delta)).sum = last.cumulativeByteCount ∧
        last.cumulativeByteCount ≤ maxPrivateMessageBytes := by
  refine ⟨fun deltas deltas' h h' hf hl => stream_eq h h' hf hl, ?_⟩
  intro deltas h last hl
  rcases eq_nil_or_concat deltas with rfl | ⟨init, delta, rfl⟩
  · cases hl
  · rw [concat_eq_append] at h hl ⊢
    rw [getLast?_concat] at hl
    cases hl
    exact ⟨sum_strLen_eq h, (linked_of_validateFor (validateStream_concat.mp h).2).bounded⟩

end Streams

/-! ## A sample -/

/-- An encoding that tells the texts of the sample from each other. -/
def mixEncoding : MissionEncoding where
  sha256 bytes := .ofNat 256 (bytes.map (·.toNat)).sum
  toRfc3339 _ := ""

/-- An attempt whose evidence observed up to two increments. -/
def deltaAttempt (count : ℕ) : RuntimeTurnAttempt :=
  { RuntimeTurnAttempt.blank "turn" .sample 0 with
    evidence := [⟨2, .agentMessageDelta, turnDigest, .running, 3⟩,
      ⟨3, .agentMessageDelta, turnDigest, .running, 4⟩].take count }

/-- A stream of two increments, each captured when it was observed. -/
def sampleStream (second : String) :
    Except RuntimeTurnError (List RuntimeTurnPrivateTextDelta) := do
  let first ← capture mixEncoding (deltaAttempt 1) turnDigest "a" none
  let next ← capture mixEncoding (deltaAttempt 2) turnDigest second (some first)
  return [first, next]

/-- Two streams that differ in their last increment end in different chain digests. -/
theorem text_stream_bound_sampleStream :
    ∃ stream other, sampleStream "b" = .ok stream ∧ sampleStream "c" = .ok other ∧
      stream.getLast?.map (·.chainDigest) ≠ other.getLast?.map (·.chainDigest) ∧
      ∀ last ∈ stream.getLast?, (stream.map (strLen ·.delta)).sum = last.cumulativeByteCount := by
  have hrun : (sampleStream "b").toOption.any (fun stream => (sampleStream "c").toOption.any
      fun other => stream != other &&
        decide (validateStream mixEncoding (deltaAttempt 2) none stream = .ok ()) &&
        decide (validateStream mixEncoding (deltaAttempt 2) none other = .ok ()) &&
        decide (CollisionFree mixEncoding (hashedTexts none stream ++ hashedTexts none other))) =
      true := by
    decide +kernel
  rcases hs : sampleStream "b" with e | stream
  · rw [hs] at hrun
    cases hrun
  rcases ho : sampleStream "c" with e | other
  · rw [hs, ho] at hrun
    cases hrun
  rw [hs, ho] at hrun
  simp only [Except.toOption, Option.any_some, Bool.and_eq_true, bne_iff_ne,
    decide_eq_true_eq] at hrun
  obtain ⟨⟨⟨hne, hv⟩, hv'⟩, hf⟩ := hrun
  refine ⟨stream, other, rfl, rfl, fun hl => hne (text_stream_bound.1 _ _ hv hv' hf hl), ?_⟩
  exact fun last hl => (text_stream_bound.2 _ hv last hl).1

end RuntimeTurnPrivateTextDelta

end Hartevo
