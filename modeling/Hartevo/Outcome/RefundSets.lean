import Hartevo.Mission.DigestBinding
import Hartevo.Outcome.Normalization

/-!
# The digest of a set of refunds

A commission names the digest of the refunds of its order that were known at its instant.  The
digest is made of the refunds in the order of their arrival, so that it is the digest of a list: two
ledgers that took in the same events hash the same bytes exactly when the refunds that are known
arrived in the same order (`refundsJson_iff_sameOrder`).

Everything else that a commission is calculated from depends on the set of the events only.
-/

namespace Hartevo

open Command List

namespace OutcomeLedger

variable {l l' : OutcomeLedger} {enc : OutcomeEncoding}

/-! ## What depends on the set of the events only -/

lemma order?_perm (h : l.Projected) (h' : l'.Projected) (hp : l.events.Perm l'.events)
    (oid : OrderId) : l.order? oid = l'.order? oid := by
  have ho : l.orders.Perm l'.orders := by
    rw [h.orders, h'.orders]
    exact hp.filterMap _
  exact find?_key_perm ho h.orderIds oid

lemma netOrderAmount_perm (h : l.Projected) (h' : l'.Projected)
    (hp : l.events.Perm l'.events) (oid : OrderId) :
    l.netOrderAmount oid = l'.netOrderAmount oid := by
  have hr : (l.refundsOf oid).Perm (l'.refundsOf oid) := by
    unfold refundsOf
    rw [h.refunds, h'.refunds]
    exact (hp.filterMap _).filter _
  have hsum : refundedMinor (l.refundsOf oid) = refundedMinor (l'.refundsOf oid) :=
    (hr.map _).sum_eq
  unfold netOrderAmount
  rw [order?_perm h h' hp]
  rcases hf : l'.order? oid with _ | order
  · rfl
  · obtain ⟨hmem, rfl⟩ := order?_eq_some hf
    have hf' : l.order? order.id = some order := (order?_perm h h' hp _).trans hf
    obtain ⟨net, hnet, -⟩ := h.net order (order?_eq_some hf').1
    obtain ⟨net', hnet', -⟩ := h'.net order hmem
    have hs : net = net' := by
      rw [(subtractRefunds_ok hnet).2, (subtractRefunds_ok hnet').2, hsum]
    subst hs
    exact hnet.trans hnet'.symm

lemma latestRefundObservedAt_perm (hp : l.events.Perm l'.events) (oid : OrderId) :
    l.latestRefundObservedAt oid = l'.latestRefundObservedAt oid := by
  unfold latestRefundObservedAt
  have hi := (hp.filter fun ev => ev.kind == .refundIssued &&
    ev.orderId == some oid).map (·.receivedAt)
  refine Option.ext fun latest => ?_
  rw [max?_eq_some_iff, max?_eq_some_iff, hi.mem_iff]
  exact and_congr_right fun _ => forall_congr' fun instant => by rw [hi.mem_iff]

/-- The commission that is calculated is the same up to the digest of the refunds. -/
lemma checkCommission_perm (h : l.EventsOnly) (h' : l'.EventsOnly) (hpe : l.events.Perm l'.events)
    (enc : OutcomeEncoding) (id : CommissionId) (oid : OrderId) (partnerId : PartnerId)
    (rate : Decimal) (terms : String) (at_ : DateTime) :
    (fun made => { made.2.2 with refundSetDigest := l'.refundSetDigestAt enc oid at_ }) <$>
        l.checkCommission enc id oid partnerId rate terms at_ =
      (fun made => made.2.2) <$> l'.checkCommission enc id oid partnerId rate terms at_ := by
  have hp := h.kept.projected
  have hp' := h'.kept.projected
  have hrev : l.nextRevision = l'.nextRevision := by
    unfold nextRevision
    rw [h.kept.count, h'.kept.count, hpe.length_eq, h.attributions, h'.attributions,
      h.commissions, h'.commissions]
  have hact : l.activeCommissionIndex oid partnerId = l'.activeCommissionIndex oid partnerId := by
    unfold activeCommissionIndex
    rw [h.commissions, h'.commissions]
  unfold checkCommission
  rw [h.commissions, h'.commissions, hrev, hact, order?_perm hp hp' hpe,
    latestRefundObservedAt_perm hpe, netOrderAmount_perm hp hp' hpe]
  simp only [map_bind, map_pure]
  rcases hf : l'.order? oid with _ | order
  · exact bind_congr fun _ => bind_congr fun _ => rfl
  · -- A ledger with an order has an event, and that names the tenant and the project.
    obtain ⟨hmem, -⟩ := order?_eq_some hf
    rw [hp'.orders] at hmem
    obtain ⟨e, he, -⟩ := mem_filterMap.mp hmem
    obtain ⟨ht, hpr⟩ := h.tenants e (hpe.mem_iff.mpr he)
    obtain ⟨ht', hpr'⟩ := h'.tenants e he
    rw [← ht, ← hpr, ← ht', ← hpr']

lemma exec_calculateCommission_fst (enc : OutcomeEncoding) (id : CommissionId) (oid : OrderId)
    (pid : PartnerId) (rate : Decimal) (terms : String) (at_ : DateTime) :
    ((calculateCommission enc id oid pid rate terms at_).exec l).1 =
      (fun made => made.2.2) <$> l.checkCommission enc id oid pid rate terms at_ := by
  unfold calculateCommission
  generalize hr : (fun self : OutcomeLedger => self.checkCommission enc id oid pid rate terms at_) =
    read
  have hs : l.checkCommission enc id oid pid rate terms at_ = read l := congrFun hr l
  rw [hs]
  rcases hm : read l with error | made
  · rw [exec_check_bind_of_error hm]
    rfl
  · rw [exec_check_bind_of_ok hm]
    rfl

/-- A call that succeeds gives the same record on both ledgers exactly when the digests of the
refunds are the same; one that fails gives the same error. -/
lemma calculateCommission_eq_iff (h : l.EventsOnly) (h' : l'.EventsOnly)
    (hpe : l.events.Perm l'.events) (enc : OutcomeEncoding) (id : CommissionId) (oid : OrderId)
    (pid : PartnerId) (rate : Decimal) (terms : String) (at_ : DateTime) :
    ((calculateCommission enc id oid pid rate terms at_).exec l).1 =
        ((calculateCommission enc id oid pid rate terms at_).exec l').1 ↔
      (∃ e, ((calculateCommission enc id oid pid rate terms at_).exec l).1 = .error e) ∨
        l.refundSetDigestAt enc oid at_ = l'.refundSetDigestAt enc oid at_ := by
  have hown := checkCommission_perm h h (List.Perm.refl _) enc id oid pid rate terms at_
  have hother := checkCommission_perm h h' hpe enc id oid pid rate terms at_
  rw [exec_calculateCommission_fst, exec_calculateCommission_fst, ← hother]
  generalize l.checkCommission enc id oid pid rate terms at_ = result at hown ⊢
  cases result with
  | error e => exact iff_of_true rfl (Or.inl ⟨e, rfl⟩)
  | ok made =>
    have hdigest := congrArg CommissionRecord.refundSetDigest (Except.ok.inj hown)
    constructor
    · intro heq
      exact .inr (hdigest.trans (congrArg CommissionRecord.refundSetDigest (Except.ok.inj heq)))
    · rintro (⟨e, he⟩ | hd)
      · cases he
      · rw [← hd]
        exact hown.symm

/-! ## The bytes determine the order of the refunds -/

/-- The first character of an escaped text, and the rest of the text. -/
def unescape : List Char → Option (Char × List Char)
  | '\\' :: 'u' :: _ :: _ :: high :: low :: rest =>
    some (Char.ofNat (16 * "0123456789abcdef".toList.idxOf high +
      "0123456789abcdef".toList.idxOf low), rest)
  | '\\' :: 'b' :: rest => some (Char.ofNat 8, rest)
  | '\\' :: 't' :: rest => some (Char.ofNat 9, rest)
  | '\\' :: 'n' :: rest => some (Char.ofNat 10, rest)
  | '\\' :: 'f' :: rest => some (Char.ofNat 12, rest)
  | '\\' :: 'r' :: rest => some (Char.ofNat 13, rest)
  | '\\' :: c :: rest => some (c, rest)
  | c :: rest => some (c, rest)
  | [] => none

lemma hexDigits_eq : ∀ n < 32, 16 * "0123456789abcdef".toList.idxOf (hexDigit (n / 16)) +
    "0123456789abcdef".toList.idxOf (hexDigit n) = n := by
  decide +kernel

/-- A character can be read off the front of a text that begins with its escaped form. -/
lemma unescape_jsonChar (c : Char) (rest : List Char) :
    unescape (jsonChar c ++ rest) = some (c, rest) := by
  have hc : Char.ofNat c.toNat = c := Char.ofNat_toNat c
  unfold jsonChar
  split_ifs with hquote hslash hb ht hn hf hr hctl
  · simp_all [unescape]
  · simp_all [unescape]
  · rw [← hc, beq_iff_eq.mp hb]; rfl
  · rw [← hc, beq_iff_eq.mp ht]; rfl
  · rw [← hc, beq_iff_eq.mp hn]; rfl
  · rw [← hc, beq_iff_eq.mp hf]; rfl
  · rw [← hc, beq_iff_eq.mp hr]; rfl
  · simp only [cons_append, unescape, nil_append, hexDigits_eq _ hctl, hc]
  · rw [cons_append, nil_append, unescape]
    all_goals simp_all

/-- A quoted text can be read off the front, since no escaped character begins with a quote. -/
lemma jsonString_inj {a b : String} {s t : List Char}
    (h : jsonString a ++ s = jsonString b ++ t) : a = b := by
  have hmark : ∀ c u v, '"' :: u ≠ jsonChar c ++ v := by
    intro c u v heq
    have hc := (congrArg unescape heq).trans (unescape_jsonChar c v)
    obtain ⟨rfl, -⟩ : '"' = c ∧ u = v := by simpa [unescape] using hc
    simp [jsonChar] at heq
  have hcode := prefixCode_of_decode (D := Set.univ) fun c _ => unescape_jsonChar c
  simp only [jsonString, cons_append, append_assoc, nil_append, cons.injEq, true_and] at h
  exact String.toList_inj.mp (hcode.flatMap_append_inj (fun a _ => hmark a _)
    (fun a _ => hmark a _) (fun _ _ => trivial) (fun _ _ => trivial) h).1

lemma intercalate_cons (a b : List Char) (rest : List (List Char)) :
    intercalate [','] (a :: b :: rest) = a ++ ',' :: intercalate [','] (b :: rest) := by
  simp [intercalate]

/-- The JSON form of a refund begins with its identifier. -/
lemma json_id_inj {rf rf' : OutcomeRefund} {s t : List Char}
    (h : rf.json enc ++ s = rf'.json enc ++ t) : rf.id = rf'.id := by
  simp only [OutcomeRefund.json, jsonArray, intercalate_cons, cons_append, append_assoc,
    cons.injEq, true_and] at h
  exact jsonString_inj h

/-- Lists of the same refunds with the same bytes are the same: the first identifier can be read off
the bytes, and names the first refund of both. -/
lemma refunds_eq_of_intercalate {rfs rfs' : List OutcomeRefund} (hp : rfs.Perm rfs')
    (hn : (rfs.map (·.id)).Nodup) (h : intercalate [','] (rfs.map (OutcomeRefund.json enc)) =
      intercalate [','] (rfs'.map (OutcomeRefund.json enc))) : rfs = rfs' := by
  induction rfs generalizing rfs' with
  | nil => exact (nil_perm.mp hp).symm
  | cons rf rfs ih =>
    cases rfs' with
    | nil => exact perm_nil.mp hp
    | cons rf' rfs' =>
      have htail : ∀ (r : OutcomeRefund) rs, ∃ s, intercalate [',']
          ((r :: rs).map (OutcomeRefund.json enc)) = r.json enc ++ s := by
        intro r rs
        cases rs with
        | nil => exact ⟨[], by simp [intercalate]⟩
        | cons r' rs => exact ⟨_, intercalate_cons _ _ _⟩
      obtain ⟨s, hs⟩ := htail rf rfs
      obtain ⟨t, ht⟩ := htail rf' rfs'
      have hid := json_id_inj (hs.symm.trans (h.trans ht))
      obtain rfl : rf = rf' := inj_on_of_nodup_map hn (by simp) (hp.mem_iff.mpr (by simp)) hid
      have hp := hp.cons_inv
      cases rfs with
      | nil => rw [nil_perm.mp hp]
      | cons r rs =>
        cases rfs' with
        | nil => exact absurd (perm_nil.mp hp) (by simp)
        | cons r' rs' =>
          rw [map_cons, map_cons, map_cons, map_cons, intercalate_cons,
            intercalate_cons, append_cancel_left_eq, cons.injEq] at h
          rw [ih hp (List.Nodup.of_cons hn) h.2]

lemma refundsJson_eq_iff (h : l.Projected) (h' : l'.Projected) (hp : l.events.Perm l'.events)
    (enc : OutcomeEncoding) (oid : OrderId) (at_ : DateTime) :
    refundsJson enc (l.refundsKnownAt oid at_) = refundsJson enc (l'.refundsKnownAt oid at_) ↔
      (l.refundsKnownAt oid at_).map (·.id) = (l'.refundsKnownAt oid at_).map (·.id) := by
  have hknown : (l.refundsKnownAt oid at_).Perm (l'.refundsKnownAt oid at_) := by
    rw [h.refundsKnownAt_eq, h'.refundsKnownAt_eq]
    exact hp.filterMap _
  have hnodup : ((l.refundsKnownAt oid at_).map (·.id)).Nodup :=
    h.refundIds.sublist (filter_sublist.map _)
  constructor
  · intro heq
    have hchars := String.ofList_injective (utf8_injective heq)
    simp only [jsonArray, cons_append, cons.injEq, append_cancel_right_eq, true_and] at hchars
    rw [refunds_eq_of_intercalate hknown hnodup hchars]
  · intro hids
    refine congrArg _ (ext_getElem (by simpa using congrArg length hids) ?_)
    intro i hi hi'
    refine inj_on_of_nodup_map hnodup (getElem_mem hi)
      (hknown.mem_iff.mpr (getElem_mem hi')) ?_
    have hkey := getElem_of_eq hids (i := i) (by simpa using hi)
    rwa [getElem_map, getElem_map] at hkey

/-- Two ledgers that took in the same events hash the same bytes for an order and an instant exactly
when the refunds that are known arrived in the same order.  If SHA-256 separates the two texts, this
decides whether the digests agree, and whether the same call gives the same commission. -/
theorem refundsJson_iff_sameOrder (enc : OutcomeEncoding)
    {tenantId tenantId' : TenantId} {projectId projectId' : ProjectId}
    (h : OutcomeLedger.new tenantId projectId = .ok l)
    (h' : OutcomeLedger.new tenantId' projectId' = .ok l') (events events' : List OutcomeEvent)
    (hperm : (run ingestStep l events).events.Perm (run ingestStep l' events').events)
    (orderId : OrderId) (knownAt : DateTime) :
    let t := run ingestStep l events
    let t' := run ingestStep l' events'
    let refunds := t.refundsKnownAt orderId knownAt
    let refunds' := t'.refundsKnownAt orderId knownAt
    (refundsJson enc refunds = refundsJson enc refunds' ↔
        refunds.map (·.id) = refunds'.map (·.id)) ∧
      (Set.InjOn enc.sha256 {refundsJson enc refunds, refundsJson enc refunds'} →
        (t.refundSetDigestAt enc orderId knownAt =
            t'.refundSetDigestAt enc orderId knownAt ↔
          refunds.map (·.id) = refunds'.map (·.id)) ∧
        ∀ id partnerId rate termsDigest,
          let calculate :=
            calculateCommission enc id orderId partnerId rate termsDigest knownAt
          (calculate.exec t).1 = (calculate.exec t').1 ↔
            (∃ e, (calculate.exec t).1 = .error e) ∨
              refunds.map (·.id) = refunds'.map (·.id)) := by
  have hf := eventsOnly_run h events
  have hs := eventsOnly_run h' events'
  have hbytes :=
    refundsJson_eq_iff hf.kept.projected hs.kept.projected hperm enc orderId knownAt
  refine ⟨hbytes, fun hsha => ?_⟩
  have hdigest := lowerHex_injective.eq_iff.trans
    ((hsha.eq_iff (Set.mem_insert _ _) (Set.mem_insert_of_mem _ rfl)).trans hbytes)
  refine ⟨hdigest, fun id partnerId rate termsDigest => ?_⟩
  exact (calculateCommission_eq_iff hf hs hperm enc id orderId partnerId rate termsDigest
    knownAt).trans (or_congr_right hdigest)

/-- Another order, of the same amount. -/
def otherOrder : OutcomeEvent :=
  { OutcomeEvent.sampleOrder with
    id := "other-event"
    sourceEventId := "other-source"
    orderId := some "other" }

/-- Another order that arrives between two refunds does not change the digest of the refunds. -/
theorem refundsJson_iff_sameOrder_otherOrder :
    (run ingestStep sample [.sampleOrder, firstRefund, otherOrder, secondRefund]).refundSetDigestAt
        .sample "order" 9 =
      (run ingestStep sample
        [.sampleOrder, firstRefund, secondRefund, otherOrder]).refundSetDigestAt
        .sample "order" 9 := by
  have hperm : (run ingestStep sample
      [.sampleOrder, firstRefund, otherOrder, secondRefund]).events.Perm
      (run ingestStep sample [.sampleOrder, firstRefund, secondRefund, otherOrder]).events := by
    have he : (run ingestStep sample [.sampleOrder, firstRefund, otherOrder, secondRefund]).events =
        [.sampleOrder, firstRefund, otherOrder, secondRefund] ∧
      (run ingestStep sample [.sampleOrder, firstRefund, secondRefund, otherOrder]).events =
        [.sampleOrder, firstRefund, secondRefund, otherOrder] := by decide +kernel
    rw [he.1, he.2]
    exact ((List.Perm.swap _ _ _).cons _).cons _
  obtain ⟨hbytes, hdigest⟩ :=
    refundsJson_iff_sameOrder .sample new_sample new_sample _ _ hperm "order" 9
  have hids := hbytes.mpr (by decide +kernel)
  refine (hdigest ?_).1.mpr (hbytes.mp hids)
  rw [hids]
  simp

/-! ## Refunds in another order -/

lemma refundsKnownAt_of_refunds :
    ((run ingestStep sample [.sampleOrder, firstRefund, secondRefund]).refundsKnownAt "order" 9).map
        (·.id) = ["first", "second"] ∧
      ((run ingestStep sample [.sampleOrder, secondRefund, firstRefund]).refundsKnownAt "order"
        9).map (·.id) = ["second", "first"] := by
  decide +kernel

/-- Two refunds that arrive in the other order make another preimage, whatever the encoding is, so
that the digests are the same only if SHA-256 has the same value for both. -/
theorem refundSetDigestAt_of_otherOrder :
    let t := run ingestStep sample [.sampleOrder, firstRefund, secondRefund]
    let t' := run ingestStep sample [.sampleOrder, secondRefund, firstRefund]
    t.events.Perm t'.events ∧ ∀ enc : OutcomeEncoding,
      refundsJson enc (t.refundsKnownAt "order" 9) ≠
        refundsJson enc (t'.refundsKnownAt "order" 9) ∧
      (t.refundSetDigestAt enc "order" 9 = t'.refundSetDigestAt enc "order" 9 ↔
        enc.sha256 (refundsJson enc (t.refundsKnownAt "order" 9)) =
          enc.sha256 (refundsJson enc (t'.refundsKnownAt "order" 9))) := by
  have hperm : (run ingestStep sample [.sampleOrder, firstRefund, secondRefund]).events.Perm
      (run ingestStep sample [.sampleOrder, secondRefund, firstRefund]).events := by
    rw [events_of_refunds.1, events_of_refunds.2]
    exact List.Perm.cons _ (List.Perm.swap _ _ _)
  refine ⟨hperm, fun enc => ⟨fun hbytes => ?_, lowerHex_injective.eq_iff⟩⟩
  have hids := (refundsJson_eq_iff (eventsOnly_run new_sample _).kept.projected
    (eventsOnly_run new_sample _).kept.projected hperm enc "order" 9).mp hbytes
  rw [refundsKnownAt_of_refunds.1, refundsKnownAt_of_refunds.2] at hids
  exact absurd hids (by decide)

end OutcomeLedger

end Hartevo
