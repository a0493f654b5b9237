import Hartevo.Outcome.Projection

/-!
# The ledger conserves money

Whatever commands are given, the refunds of an order are positive amounts in its currency that never
exceed it, so that the net amount of the order is defined and lies between zero and the order.  Only
events change it.  For an order and a partner at most one commission is active.

`OutcomeLedger.Kept` is what every command keeps: the ledger is the replay of its events, with the
records next to them.
-/

namespace Hartevo

open Command List

namespace OutcomeLedger

variable {l : OutcomeLedger} {e : OutcomeEvent} {enc : OutcomeEncoding} {β : Type}
  {oid : OrderId} {pid : ProjectId} {index : Option ℕ} {record : CommissionRecord} {tid : TenantId}
  {order : OutcomeOrder}

/-! ## Active commissions -/

def activeKeys (commissions : List CommissionRecord) : List (OrderId × PartnerId) :=
  (commissions.filter CommissionRecord.isActive).map fun record =>
    (record.orderId, record.partnerId)

lemma requireRecalculation_eq (oid : OrderId) (record : CommissionRecord) :
    requireRecalculation oid record =
      { record with status := (requireRecalculation oid record).status } ∧
      (requireRecalculation oid record).isActive = record.isActive := by
  unfold requireRecalculation
  split
  · next hcur =>
    simp only [Bool.and_eq_true, beq_iff_eq] at hcur
    refine ⟨rfl, ?_⟩
    rw [CommissionRecord.isActive, CommissionRecord.isActive, hcur.2]
    rfl
  · exact ⟨rfl, rfl⟩

lemma activeKeys_requireRecalculation (oid : OrderId) (commissions : List CommissionRecord) :
    activeKeys (commissions.map (requireRecalculation oid)) = activeKeys commissions := by
  unfold activeKeys
  rw [filter_map, map_map]
  have hact : CommissionRecord.isActive ∘ requireRecalculation oid = CommissionRecord.isActive :=
    funext fun record => (requireRecalculation_eq oid record).2
  rw [hact]
  refine map_congr_left fun record _ => ?_
  rw [Function.comp_apply, (requireRecalculation_eq oid record).1]

lemma getElem?_supersede (cms : List CommissionRecord) (index : Option ℕ) (i : ℕ) :
    (supersede cms index)[i]? = if index = some i then
      cms[i]?.map fun record => { record with status := .superseded }
    else cms[i]? := by
  unfold supersede
  rcases index with _ | index
  · simp
  · rw [getElem?_modify]
    by_cases hi : index = i <;> simp [hi]

/-- Replacing a commission changes its status only. -/
lemma map_supersede (f : CommissionRecord → β) (cms : List CommissionRecord)
    (index : Option ℕ) (hf : ∀ record, f { record with status := .superseded } = f record) :
    (supersede cms index).map f = cms.map f := by
  refine ext_getElem? fun i => ?_
  rw [getElem?_map, getElem?_map, getElem?_supersede]
  split
  · rcases cms[i]? with _ | record
    · rfl
    · simp [hf record]
  · rfl

lemma activeKeys_supersede_sublist (cms : List CommissionRecord) (index : Option ℕ) :
    (activeKeys (supersede cms index)).Sublist (activeKeys cms) := by
  rcases index with _ | index
  · exact List.Sublist.refl _
  · refine List.Sublist.map _ ?_
    unfold supersede
    induction cms generalizing index with
    | nil => simp
    | cons record cms ih =>
      rcases index with _ | index
      · simp only [modify_zero_cons, filter_cons]
        split <;> split
        · next hsup _ => simp [CommissionRecord.isActive] at hsup
        · next hsup _ => simp [CommissionRecord.isActive] at hsup
        · exact sublist_cons_self _ _
        · exact List.Sublist.refl _
      · simp only [modify_succ_cons, filter_cons]
        split
        · exact (ih index).cons_cons _
        · exact ih index

lemma notMem_activeKeys_supersede (h : l.IsActiveIndex oid pid index) :
    (oid, pid) ∉ activeKeys (supersede l.commissions index) := by
  intro hmem
  obtain ⟨record, hrec, hkey⟩ := mem_map.mp hmem
  obtain ⟨hrec, hact⟩ := mem_filter.mp hrec
  obtain ⟨ho, hp⟩ := Prod.ext_iff.mp hkey
  have hs : record.status ≠ .superseded := bne_iff_ne.mp hact
  obtain ⟨i, hi⟩ := mem_iff_getElem?.mp hrec
  rw [getElem?_supersede] at hi
  by_cases hin : index = some i
  · rw [if_pos hin] at hi
    obtain ⟨old, -, rfl⟩ := Option.map_eq_some_iff.mp hi
    exact hs rfl
  · rw [if_neg hin] at hi
    rcases index with _ | index
    · exact h record (mem_of_getElem? hi) ⟨ho, hp, hs⟩
    · exact hin (congrArg some (h.2 i record hi ⟨ho, hp, hs⟩).symm)

lemma nodup_activeKeys_calculated
    (h : (activeKeys l.commissions).Nodup) (hc : l.Calculated enc index record) :
    (activeKeys (l.calculated index record).commissions).Nodup := by
  have hr := h.sublist (activeKeys_supersede_sublist l.commissions index)
  have hact : record.isActive = true := by
    rw [CommissionRecord.isActive, hc.status]
    rfl
  have hs : activeKeys (l.calculated index record).commissions =
      activeKeys (supersede l.commissions index) ++ [(record.orderId, record.partnerId)] := by
    simp [activeKeys, calculated, hact]
  rw [hs, nodup_append]
  refine ⟨hr, by simp, fun key hkey other ho => ?_⟩
  rw [mem_singleton.mp ho]
  rintro rfl
  exact notMem_activeKeys_supersede (isActiveIndex_of_ok hc.position) hkey

/-! ## What every command keeps -/

/-- The ledger is the replay of its events, which were all verified, and of the records next to
them. -/
structure Kept (l : OutcomeLedger) : Prop where
  replays : replay l.tenantId l.projectId l.events = .ok l.bare
  verified : ∀ e ∈ l.events, e.validate = .ok ()
  count : l.revision = l.events.length + l.attributions.length + l.commissions.length + 1
  bounded : l.revision < 2 ^ 64
  attributionIds : (l.attributions.map (·.id)).Nodup
  attributions : ∀ record ∈ l.attributions, ∃ order, l.order? record.orderId = some order ∧
    record.validate l.tenantId l.projectId order = .ok ()
  commissionIds : (l.commissions.map (·.id)).Nodup
  active : (activeKeys l.commissions).Nodup

lemma Kept.projected (h : l.Kept) : l.Projected :=
  (projected_of_replay h.replays).1.congr rfl rfl rfl

lemma Kept.length_lt (h : l.Kept) : l.events.length + 1 ≤ l.revision := by
  have hc := h.count
  omega

lemma kept_of_new (h : new tid pid = .ok l) : l.Kept := by
  obtain ⟨-, rfl⟩ := new_ok.mp h
  constructor
  · exact replay_nil.trans h
  · exact fun e he => absurd he not_mem_nil
  · rfl
  · norm_num
  · exact nodup_nil
  · exact fun record hrec => absurd hrec not_mem_nil
  · exact nodup_nil
  · exact nodup_nil

lemma order?_accept (h : l.order? oid = some order) : (l.accept e).order? oid = some order := by
  unfold order? accept at *
  rw [find?_append, h]
  rfl

lemma commissions_accept (l : OutcomeLedger) (e : OutcomeEvent) :
    (l.accept e).commissions = l.commissions ∨ ∃ rf, e.refund = some rf ∧
        (l.accept e).commissions = l.commissions.map (requireRecalculation rf.orderId) := by
  unfold accept
  rcases e.refund with _ | rf
  · exact .inl rfl
  · exact .inr ⟨rf, rfl, rfl⟩

/-- An event changes the status of commissions only. -/
lemma map_commissions_accept (f : CommissionRecord → β)
    (hf : ∀ record status, f { record with status := status } = f record) :
    (l.accept e).commissions.map f = l.commissions.map f := by
  rcases commissions_accept l e with hs | ⟨rf, -, hmap⟩
  · rw [hs]
  · rw [hmap, map_map]
    refine map_congr_left fun record _ => ?_
    rw [Function.comp_apply, (requireRecalculation_eq rf.orderId record).1, hf]

lemma Kept.accept (h : l.Kept) (hv : e.validate = .ok ()) (hadm : l.Admissible e) :
    (l.accept e).Kept := by
  have hl : (l.accept e).commissions.length = l.commissions.length := by
    have hmap := congrArg List.length (map_commissions_accept (l := l) (e := e) (fun _ => ())
      fun _ _ => rfl)
    simpa using hmap
  constructor
  · refine replay_concat_ok.mpr ⟨l.bare, h.replays, persisted_of_validate hv,
      hadm.bare h.length_lt, bare_accept.symm⟩
  · intro stored hs
    rcases mem_append.mp hs with hmem | hmem
    · exact h.verified stored hmem
    · rw [mem_singleton.mp hmem]
      exact hv
  · have hc := h.count
    rw [hl]
    simp only [OutcomeLedger.accept, length_append, length_singleton]
    omega
  · exact hadm.revision
  · exact h.attributionIds
  · intro record hrec
    obtain ⟨order, hf, hr⟩ := h.attributions record hrec
    exact ⟨order, order?_accept hf, hr⟩
  · rw [map_commissions_accept _ fun _ _ => rfl]
    exact h.commissionIds
  · rcases commissions_accept l e with hsa | ⟨rf, -, hmap⟩
    · rw [hsa]
      exact h.active
    · rw [hmap, activeKeys_requireRecalculation]
      exact h.active

lemma Kept.attributed {record : AttributionRecord} (h : l.Kept)
    (ha : l.Attributable record) : (l.attributed record).Kept := by
  constructor
  · exact h.replays
  · exact h.verified
  · have hc := h.count
    simp only [OutcomeLedger.attributed, length_append, length_singleton]
    omega
  · exact ha.revision
  · exact nodup_map_concat h.attributionIds ha.fresh
  · intro stored hs
    rcases mem_append.mp hs with hmem | hmem
    · exact h.attributions stored hmem
    · rw [mem_singleton.mp hmem]
      exact ha.order
  · exact h.commissionIds
  · exact h.active

lemma Kept.calculated (h : l.Kept)
    (hc : l.Calculated enc index record) : (l.calculated index record).Kept := by
  have hids : (supersede l.commissions index).map (·.id) = l.commissions.map (·.id) :=
    map_supersede _ _ _ fun _ => rfl
  constructor
  · exact h.replays
  · exact h.verified
  · have hco := h.count
    have hl := congrArg List.length hids
    simp only [length_map] at hl
    simp only [OutcomeLedger.calculated, length_append, length_singleton, hl]
    omega
  · exact hc.revision
  · exact h.attributionIds
  · exact h.attributions
  · refine nodup_map_concat (hids ▸ h.commissionIds) fun stored hs => ?_
    have hid : stored.id ∈ l.commissions.map (·.id) := hids ▸ mem_map_of_mem hs
    obtain ⟨old, hold, hsa⟩ := mem_map.mp hid
    rw [← hsa]
    exact hc.fresh old hold
  · exact nodup_activeKeys_calculated h.active hc

lemma Kept.step (h : l.Kept) (cmd : OutcomeCommand) : (l.step enc cmd).2.Kept := by
  rcases hout : (l.step enc cmd).1 with error | reply
  · rw [step_of_error hout]
    exact h
  · have ht := transition_of_ok hout
    generalize (l.step enc cmd).2 = t at ht ⊢
    cases ht with
    | ingest e hv hadm => exact h.accept hv hadm
    | attributeRecord record ha => exact h.attributed ha
    | calculateCommission index record hc => exact h.calculated hc

lemma kept_run (h : new tid pid = .ok l) (cmds : List OutcomeCommand) :
    (run (step enc) l cmds).Kept := by
  refine run_invariant (step enc) (fun t cmd hk => ?_) (kept_of_new h) cmds
  exact Kept.step hk cmd

/-! ## Conservation -/

/-- A command appends to events, orders and refunds, and only an event does so. -/
lemma step_appends (enc : OutcomeEncoding) (l : OutcomeLedger) (cmd : OutcomeCommand) :
    (l.events <+: (l.step enc cmd).2.events ∧ l.orders <+: (l.step enc cmd).2.orders ∧
      l.refunds <+: (l.step enc cmd).2.refunds) ∧
    ((∀ e, cmd ≠ .ingest e) → ∀ oid,
      (l.step enc cmd).2.netOrderAmount oid = l.netOrderAmount oid) := by
  rcases hout : (l.step enc cmd).1 with error | reply
  · rw [step_of_error hout]
    exact ⟨⟨prefix_rfl, prefix_rfl, prefix_rfl⟩, fun _ _ => rfl⟩
  · have ht := transition_of_ok hout
    generalize (l.step enc cmd).2 = t at ht ⊢
    cases ht with
    | ingest e =>
      exact ⟨⟨prefix_append _ _, prefix_append _ _, prefix_append _ _⟩, fun ho => absurd rfl (ho e)⟩
    | attributeRecord => exact ⟨⟨prefix_rfl, prefix_rfl, prefix_rfl⟩, fun _ _ => rfl⟩
    | calculateCommission =>
      exact ⟨⟨prefix_rfl, prefix_rfl, prefix_rfl⟩, fun _ _ => rfl⟩

/-- What is left of an order lies between nothing and the order. -/
lemma Projected.netOrderAmount_eq (h : l.Projected) (hmem : order ∈ l.orders) :
    refundedMinor (l.refundsOf order.id) ≤ order.originalAmount.amountMinor ∧
      ∃ net, l.netOrderAmount order.id = .ok net ∧
        net.currency = order.originalAmount.currency ∧ 0 ≤ net.amountMinor ∧
        net.amountMinor ≤ order.originalAmount.amountMinor := by
  obtain ⟨net, hnet, hp⟩ := h.net order hmem
  obtain ⟨-, rfl⟩ := subtractRefunds_ok hnet
  have hf : l.order? order.id = some order := h.order?_eq_some_iff.mpr ⟨hmem, rfl⟩
  have hsum : 0 ≤ refundedMinor (l.refundsOf order.id) := by
    refine sum_nonneg fun amount hamt => ?_
    obtain ⟨rf, hr, rfl⟩ := mem_map.mp hamt
    exact (h.refund_positive (mem_filter.mp hr).1).le
  have hn : l.netOrderAmount order.id = subtractRefunds order.originalAmount
      (l.refundsOf order.id) := by
    rw [netOrderAmount, hf]
    rfl
  refine ⟨by simpa using hp, _, hn.trans hnet, rfl, hp, ?_⟩
  simpa using hsum

/-- In every run from a new ledger, the refunds of an order are positive amounts in its currency
that do not exceed it, and its net amount is defined and between zero and the order.  For an order
and a partner at most one commission is active.  Events, orders and refunds are only appended, a
command that fails changes nothing, and attributions and commissions leave every net amount as it
is. -/
theorem money_conserved (enc : OutcomeEncoding) {tenantId : TenantId} {projectId : ProjectId}
    (h : OutcomeLedger.new tenantId projectId = .ok l) (commands : List OutcomeCommand) :
    let t := run (step enc) l commands
    (∀ order ∈ t.orders,
      (∀ refund ∈ t.refundsOf order.id,
        refund.amount.currency = order.originalAmount.currency ∧ 0 < refund.amount.amountMinor) ∧
      refundedMinor (t.refundsOf order.id) ≤ order.originalAmount.amountMinor ∧
      ∃ net, t.netOrderAmount order.id = .ok net ∧
        net.currency = order.originalAmount.currency ∧ 0 ≤ net.amountMinor ∧
        net.amountMinor ≤ order.originalAmount.amountMinor) ∧
    (activeKeys t.commissions).Nodup ∧
    ∀ command, let t' := (t.step enc command).2
      (t.events <+: t'.events ∧ t.orders <+: t'.orders ∧ t.refunds <+: t'.refunds) ∧
      (∀ error, (t.step enc command).1 = .error error → t' = t) ∧
      ((∀ e, command ≠ .ingest e) → ∀ orderId,
        t'.netOrderAmount orderId = t.netOrderAmount orderId) := by
  intro t
  have hk : t.Kept := kept_run h commands
  have hp := hk.projected
  refine ⟨fun order ho => ⟨fun refund hr => ?_, hp.netOrderAmount_eq ho⟩,
    hk.active, fun command => ?_⟩
  · obtain ⟨net, hnet, -⟩ := hp.net order ho
    exact ⟨(subtractRefunds_ok hnet).1 refund hr, hp.refund_positive (mem_filter.mp hr).1⟩
  · obtain ⟨ha, hnet⟩ := step_appends enc t command
    exact ⟨ha, fun error => step_of_error, hnet⟩

/-- An order, a refund of 30 euros, a commission, and a refund that would exceed the order. -/
def refundedRun : List OutcomeCommand :=
  [.ingest .sampleOrder, .ingest (.sampleRefund "first" 3000 4), .sampleCommission "commission" 5,
    .ingest (.sampleRefund "second" 8000 6)]

lemma new_sample : new "tenant" "project" = .ok sample := by
  decide +kernel

/-- The refunded run nets its order to 7000. -/
theorem money_conserved_refundedRun :
    let t := run (step .sample) sample refundedRun
    (t.orders.map (·.id) = ["order"] ∧ t.refunds.map (·.id) = ["first"] ∧
      t.commissions.length = 1 ∧
      (t.netOrderAmount "order").toOption.map (·.amountMinor) = some 7000) ∧
    (activeKeys t.commissions).Nodup := by
  refine ⟨by decide +kernel, ?_⟩
  exact (money_conserved .sample new_sample refundedRun).2.1

end OutcomeLedger

end Hartevo
