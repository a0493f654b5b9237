import Mathlib

/-!
# Ordered delivery

A queue from which entries are taken out in order, one at a time.  An entry is first held by
somebody; then it is either done, and the next one can be held, or it is released and can be held
again.  Entries are never removed: the state of an entry follows from its position (`stateAt`), and
`Delivery` carries the bound that makes this meaningful.

`Delivery.Run` is a history of the queue.  `Delivery.Run.sends_eq` and `Delivery.Run.acks_eq` are
exactly-once delivery in order: what was sent is what the queue holds, and what was acknowledged is
what was sent first.
-/

namespace Hartevo

open List

/-- The entries of a queue, the number of those that are done, and who holds the next one. -/
structure Delivery (α κ : Type) where
  sent : List α
  acked : ℕ
  holder : Option κ
  bounded : acked + (if holder.isSome then 1 else 0) ≤ sent.length

/-- What happens to a queue. -/
inductive DeliveryAction (α κ : Type)
  | send (entry : α)
  | hold (holder : κ)
  | ack (entry : α)
  | release

/-- Where an entry of a queue is on its way. -/
inductive EntryState (κ : Type)
  | waiting
  | held (holder : κ)
  | done

namespace Delivery

variable {α κ : Type}

/-- A queue without entries. -/
def empty : Delivery α κ :=
  ⟨[], 0, none, Nat.le_refl 0⟩

/-- The state of the entry at a position. -/
def stateAt (d : Delivery α κ) (i : ℕ) : EntryState κ :=
  if i < d.acked then .done
  else if i = d.acked then (match d.holder with
    | some holder => .held holder
    | none => .waiting)
  else .waiting

section StateAt

variable {d : Delivery α κ} {i : ℕ}

lemma stateAt_of_lt (h : i < d.acked) : d.stateAt i = .done := if_pos h

lemma stateAt_of_gt (h : d.acked < i) : d.stateAt i = .waiting := by
  rw [stateAt, if_neg (by omega), if_neg (by omega)]

lemma stateAt_of_holder {holder : κ} (h : d.holder = some holder) :
    d.stateAt d.acked = .held holder := by
  rw [stateAt, if_neg (lt_irrefl _), if_pos rfl, h]

lemma stateAt_of_free (h : d.holder = none) : d.stateAt d.acked = .waiting := by
  rw [stateAt, if_neg (lt_irrefl _), if_pos rfl, h]

/-- Only the entry at the cursor depends on the holder. -/
lemma stateAt_congr {d' : Delivery α κ} (ha : d'.acked = d.acked)
    (hi : i ≠ d.acked) : d'.stateAt i = d.stateAt i := by
  rcases lt_or_gt_of_ne hi with hlt | hgt
  · rw [stateAt_of_lt hlt, stateAt_of_lt (by omega)]
  · rw [stateAt_of_gt hgt, stateAt_of_gt (by omega)]

lemma lt_of_holder {holder : κ} (h : d.holder = some holder) : d.acked < d.sent.length := by
  have hb := d.bounded
  rw [h] at hb
  exact hb

end StateAt

/-- One action on a queue. -/
inductive Step : Delivery α κ → DeliveryAction α κ → Delivery α κ → Prop
  | send {d d' : Delivery α κ} {entry : α} (hsent : d'.sent = d.sent ++ [entry])
    (hacked : d'.acked = d.acked) (hholder : d'.holder = d.holder) : Step d (.send entry) d'
  | hold {d d' : Delivery α κ} {holder : κ} (hfree : d.holder = none) (hsent : d'.sent = d.sent)
    (hacked : d'.acked = d.acked) (hholder : d'.holder = some holder) : Step d (.hold holder) d'
  | ack {d d' : Delivery α κ} {entry : α} (hentry : d.sent[d.acked]? = some entry)
    (hsent : d'.sent = d.sent) (hacked : d'.acked = d.acked + 1) (hholder : d'.holder = none) :
    Step d (.ack entry) d'
  | release {d d' : Delivery α κ} (hsent : d'.sent = d.sent) (hacked : d'.acked = d.acked)
    (hholder : d'.holder = none) : Step d .release d'

/-- The queue after a history of actions. -/
inductive Run : List (DeliveryAction α κ) → Delivery α κ → Prop
  | start : Run [] empty
  | step {actions : List (DeliveryAction α κ)} {d d' : Delivery α κ} {action : DeliveryAction α κ}
    (hrun : Run actions d) (hstep : Step d action d') : Run (actions ++ [action]) d'

/-- The entries that a history put into the queue. -/
def sends (actions : List (DeliveryAction α κ)) : List α :=
  actions.filterMap fun action => match action with
    | .send entry => some entry
    | _ => none

/-- The entries that a history took out of the queue. -/
def acks (actions : List (DeliveryAction α κ)) : List α :=
  actions.filterMap fun action => match action with
    | .ack entry => some entry
    | _ => none

variable {actions : List (DeliveryAction α κ)} {d : Delivery α κ}

/-- Every entry that was sent is in the queue, in order. -/
lemma Run.sends_eq (h : Run actions d) : sends actions = d.sent := by
  induction h with
  | start => rfl
  | step hrun hstep ih =>
    rw [sends, filterMap_append]
    change sends _ ++ _ = _
    rw [ih]
    cases hstep with
    | send hs => exact hs.symm
    | hold _ hs | ack _ hs => exact (append_nil _).trans hs.symm
    | release hs => exact (append_nil _).trans hs.symm

/-- The entries that were acknowledged are the first ones, in order and each of them once. -/
lemma Run.acks_eq (h : Run actions d) : acks actions = d.sent.take d.acked := by
  induction h with
  | start => rfl
  | @step actions d d' action hrun hstep ih =>
    have hb : d.acked ≤ d.sent.length := le_trans (Nat.le_add_right _ _) d.bounded
    rw [acks, filterMap_append]
    change acks _ ++ _ = _
    rw [ih]
    cases hstep with
    | send hs ha =>
      rw [hs, ha, take_append_of_le_length hb]
      exact append_nil _
    | hold _ hs ha =>
      rw [hs, ha]
      exact append_nil _
    | ack he hs ha =>
      rw [hs, ha, take_add_one, he]
      rfl
    | release hs ha =>
      rw [hs, ha]
      exact append_nil _

end Delivery

end Hartevo
