import Mathlib

/-!
# Fallible computations and commands

Two kinds of fallible code are modelled throughout.

A computation that reads its arguments and may fail is a term of `Except ε α`.  The inversion
lemmas `bind_ok`, `rejectIf_ok` and `okOr_ok` take a successful computation
apart step by step, so that no proof has to unfold the monad.

A command that works on a state through a mutable reference and may fail on the way is a term of
`Command σ ε α`.  What it wrote before it failed stays written: `Command.exec` returns the outcome
together with the state that is left, in both cases.  `Command.focus` runs a command on a part of
the state, and `Command.onCopy` runs one on a copy, where a failure leaves nothing behind.
-/

namespace Hartevo

/-! ## Computations that may fail -/

section Fallible

variable {ε α β : Type} {condition : Bool} {error : ε} {u : Unit} {f : α → Except ε β}
  {x : Except ε α} {value : Option α} {a : α} {b : β} {l : List α} {r : List β}

/-- A bind succeeds exactly when both of its computations do. -/
lemma bind_ok : (x >>= f) = .ok b ↔ ∃ a, x = .ok a ∧ f a = .ok b := by
  cases x <;> simp [Bind.bind, Except.bind]

/-- A bind fails with the error of its first computation, or with the one of the second. -/
lemma bind_eq_error {e : ε} :
    (x >>= f) = .error e ↔ x = .error e ∨ ∃ a, x = .ok a ∧ f a = .error e := by
  cases x <;> simp [Bind.bind, Except.bind]

/-- After a check, a computation goes on exactly when the check is passed. -/
lemma check_ok {x : Except ε Unit} {f : Unit → Except ε β} :
    (x >>= f) = .ok b ↔ x = .ok () ∧ f () = .ok b := by
  cases x <;> simp [Bind.bind, Except.bind]

/-- A mapped computation succeeds exactly when the computation does. -/
lemma map_ok {f : α → β} : f <$> x = .ok b ↔ ∃ a, x = .ok a ∧ f a = b := by
  cases x <;> simp [Functor.map, Except.map]

/-- Fail with `error` when the condition holds. -/
def rejectIf (condition : Bool) (error : ε) : Except ε Unit :=
  if condition then .error error else .ok ()

/-- A guard is passed exactly when its condition is false. -/
@[simp] lemma rejectIf_ok : rejectIf condition error = .ok u ↔ condition = false := by
  cases condition <;> simp [rejectIf]

/-- How a passed guard reads: none of the refusals in its condition applies. -/
lemma passed :
    (∀ {ε : Type} {b : Bool} {e : ε} {u : Unit}, rejectIf b e = .ok u ↔ b = false) ∧
    (∀ {a b : Bool}, (a || b) = false ↔ a = false ∧ b = false) ∧
    (∀ {a : Bool}, (!a) = false ↔ a = true) ∧
    (∀ {α : Type} [BEq α] [LawfulBEq α] {a b : α}, (a != b) = false ↔ a = b) ∧
    (∀ {p : Prop} [Decidable p], decide p = false ↔ ¬p) ∧
    ∀ {α : Type} [LinearOrder α] {a b : α}, ¬a < b ↔ b ≤ a :=
  ⟨rejectIf_ok, Bool.or_eq_false_iff, iff_of_eq (Bool.not_eq_false' _), bne_eq_false_iff_eq,
    decide_eq_false_iff_not, not_lt⟩

/-- A passed guard goes on. -/
lemma rejectIf_bind {f : Unit → Except ε β} (h : condition = false) :
    (rejectIf condition error >>= f) = f () := by
  subst h
  rfl

/-- Read an optional value, failing with `error` when it is absent. -/
def okOr (value : Option α) (error : ε) : Except ε α :=
  match value with
  | some a => .ok a
  | none => .error error

/-- Reading an optional value succeeds exactly when it is present. -/
@[simp] lemma okOr_ok : okOr value error = .ok a ↔ value = some a := by
  cases value <;> simp [okOr]

/-- Fail with an error made from an optional value, if there is one. -/
def rejectSome (value : Option α) (error : α → ε) : Except ε Unit :=
  match value with
  | some a => .error (error a)
  | none => .ok ()

@[simp] lemma rejectSome_ok {error : α → ε} : rejectSome value error = .ok u ↔ value = none := by
  cases value <;> simp [rejectSome]

/-- Checking the elements of a list one after the other succeeds exactly when each check does. -/
lemma mapM_eq_ok_iff : l.mapM f = .ok r ↔ List.Forall₂ (fun a b => f a = .ok b) l r := by
  induction l generalizing r with
  | nil => simp [pure, Except.pure, eq_comm]
  | cons a l ih =>
    rw [List.mapM_cons, bind_ok]
    constructor
    · rintro ⟨b, hb, h⟩
      obtain ⟨bs, hbs, h⟩ := bind_ok.mp h
      cases h
      exact List.Forall₂.cons hb (ih.mp hbs)
    · intro h
      cases h with
      | cons hb hbs => exact ⟨_, hb, bind_ok.mpr ⟨_, ih.mpr hbs, rfl⟩⟩

/-- Every result of a traversal was computed from some element of the list. -/
lemma exists_of_mem_mapM (h : l.mapM f = .ok r) (hb : b ∈ r) : ∃ a ∈ l, f a = .ok b := by
  have hall := mapM_eq_ok_iff.mp h
  clear h
  induction hall with
  | nil => cases hb
  | cons hh _ ih =>
    rcases List.mem_cons.mp hb with rfl | hb
    · exact ⟨_, List.mem_cons_self, hh⟩
    · obtain ⟨a, ha, hfa⟩ := ih hb
      exact ⟨a, List.mem_cons_of_mem _ ha, hfa⟩

/-- A loop of checks over a list succeeds exactly when every check does. -/
lemma forM_eq_ok_iff {f : α → Except ε Unit} : l.forM f = .ok () ↔ ∀ a ∈ l, f a = .ok () := by
  induction l with
  | nil => simp [pure, Except.pure]
  | cons a l ih =>
    change (f a >>= fun _ => l.forM f) = .ok () ↔ _
    simp only [check_ok, List.mem_cons, forall_eq_or_imp, ih]

/-- A chain of refusals gives no reason exactly when no condition of it holds. -/
lemma refusal_eq_none_iff {c : Prop} [Decidable c] {reason : α} {rest : Option α} :
    (if c then some reason else rest) = none ↔ ¬c ∧ rest = none := by
  by_cases hc : c <;> simp [hc]

end Fallible

/-! ## Commands on a mutable state -/

/-- A command on a state of type `σ`.  A failure keeps what was written before it. -/
abbrev Command (σ ε α : Type) := ExceptT ε (StateM σ) α

namespace Command

variable {σ τ ρ ε α β : Type}

/-- Run a command on a state: its outcome and the state it leaves. -/
def exec (c : Command σ ε α) (s : σ) : Except ε α × σ :=
  c.run.run s

/-- Evaluate a fallible reading of the state. -/
def check (f : σ → Except ε α) : Command σ ε α :=
  ExceptT.mk fun s => (f s, s)

/-- Run a command on a part of the state. -/
def focus (get : σ → τ) (set : τ → σ → σ) (c : Command τ ε α) : Command σ ε α :=
  ExceptT.mk fun s =>
    let result := c.exec (get s)
    (result.1, set result.2 s)

/-- Run a command on an optional part of the state, if there is one. -/
def focusSome (get : σ → Option τ) (set : τ → σ → σ) (c : Command τ ε Unit) : Command σ ε Unit :=
  ExceptT.mk fun s =>
    match get s with
    | none => (.ok (), s)
    | some t =>
      let result := c.exec t
      (result.1, set result.2 s)

/-- Run one of two commands, by a condition on the state. -/
def branch (condition : σ → Bool) (c d : Command σ ε α) : Command σ ε α :=
  ExceptT.mk fun s => if condition s then c.exec s else d.exec s

/-- Run a command on a copy of the state, and store the copy if it succeeds. -/
def onCopy (c : Command σ ε α) : Command σ ε α :=
  ExceptT.mk fun s =>
    match c.exec s with
    | (.ok a, s') => (.ok a, s')
    | (.error e, _) => (.error e, s)

variable {s s' t : σ} {a : α} {b : β} {e : ε} {u : Unit} {x y c d : Command σ ε α}
  {g : σ → Except ε α} {f k : α → Command σ ε β} {p : σ → Bool} {get : σ → Option τ}
  {set : τ → σ → σ}

@[simp] lemma exec_pure (a : α) (s : σ) : (pure a : Command σ ε α).exec s = (.ok a, s) := rfl

@[simp] lemma exec_throw (e : ε) (s : σ) : (throw e : Command σ ε α).exec s = (.error e, s) := rfl

@[simp] lemma exec_modify (f : σ → σ) (s : σ) :
    (modify f : Command σ ε Unit).exec s = (.ok (), f s) := rfl

@[simp] lemma exec_check (f : σ → Except ε α) (s : σ) : (check f).exec s = (f s, s) := rfl

@[simp] lemma exec_branch (condition : σ → Bool) (c d : Command σ ε α) (s : σ) :
    (branch condition c d).exec s = if condition s then c.exec s else d.exec s := rfl

@[simp] lemma exec_focus (get : σ → τ) (set : τ → σ → σ) (c : Command τ ε α) (s : σ) :
    (focus get set c).exec s = ((c.exec (get s)).1, set (c.exec (get s)).2 s) := rfl

lemma exec_focusSome_of_none {c : Command τ ε Unit} (h : get s = none) :
    (focusSome get set c).exec s = (.ok (), s) := by
  change (match get s with
    | none => (Except.ok (), s)
    | some t => ((c.exec t).1, set (c.exec t).2 s)) = _
  rw [h]

lemma exec_focusSome_of_some {c : Command τ ε Unit} {t : τ} (h : get s = some t) :
    (focusSome get set c).exec s = ((c.exec t).1, set (c.exec t).2 s) := by
  change (match get s with
    | none => (Except.ok (), s)
    | some t => ((c.exec t).1, set (c.exec t).2 s)) = _
  rw [h]

/-- A sequence goes on from where its first command succeeded. -/
lemma exec_bind_of_ok (h : x.exec s = (.ok a, t)) : (x >>= f).exec s = (f a).exec t := by
  change (match x.exec s with | (r, t) => (ExceptT.bindCont f r).run t) = _
  rw [h]
  rfl

/-- A sequence stops where its first command failed. -/
lemma exec_bind_of_error (h : x.exec s = (.error e, s')) : (x >>= f).exec s = (.error e, s') := by
  change (match x.exec s with | (r, t) => (ExceptT.bindCont f r).run t) = _
  rw [h]
  rfl

/-- What a sequence does depends on what its first command does. -/
lemma exec_bind_congr (h : x.exec s = y.exec s) : (x >>= f).exec s = (y >>= f).exec s := by
  rcases hy : y.exec s with ⟨e | a, t⟩
  · rw [exec_bind_of_error hy, exec_bind_of_error (h.trans hy)]
  · rw [exec_bind_of_ok hy, exec_bind_of_ok (h.trans hy)]

/-- A mapped command does the same and maps its result. -/
lemma exec_map (f : α → β) (c : Command σ ε α) (s : σ) :
    (f <$> c).exec s = (f <$> (c.exec s).1, (c.exec s).2) := by
  rw [← bind_pure_comp]
  rcases h : c.exec s with ⟨e | a, t⟩
  · exact exec_bind_of_error h
  · exact exec_bind_of_ok h

@[simp] lemma exec_modify_bind (g : σ → σ) (f : Unit → Command σ ε β) (s : σ) :
    ((modify g : Command σ ε Unit) >>= f).exec s = (f ()).exec (g s) := rfl

lemma exec_read_bind (g : σ → α) (f : α → Command σ ε β) (s : σ) :
    (check (fun s => .ok (g s)) >>= f).exec s = (f (g s)).exec s := rfl

/-- A command that starts with a reading goes on when the reading succeeds. -/
lemma exec_check_bind_of_ok (h : g s = .ok a) : (check g >>= f).exec s = (f a).exec s :=
  exec_bind_of_ok (by rw [exec_check, h])

/-- A command that starts with a reading does nothing when the reading fails. -/
lemma exec_check_bind_of_error (h : g s = .error e) : (check g >>= f).exec s = (.error e, s) :=
  exec_bind_of_error (by rw [exec_check, h])

/-! ## Successful commands -/

/-- A sequence succeeds exactly when both of its commands do. -/
lemma exec_bind_ok :
    (x >>= f).exec s = (.ok b, s') ↔ ∃ a t, x.exec s = (.ok a, t) ∧ (f a).exec t = (.ok b, s') := by
  rcases h : x.exec s with ⟨e | a, t⟩
  · simp [exec_bind_of_error h]
  · rw [exec_bind_of_ok h]
    constructor
    · intro hr
      exact ⟨a, t, rfl, hr⟩
    · rintro ⟨a', t', hf, hr⟩
      cases hf
      exact hr

/-- A command that starts with a reading succeeds exactly when the reading and the rest do. -/
lemma exec_check_ok :
    (check g >>= f).exec s = (.ok b, s') ↔ ∃ a, g s = .ok a ∧ (f a).exec s = (.ok b, s') := by
  rw [exec_bind_ok]
  constructor
  · rintro ⟨a, t, hc, hr⟩
    rw [exec_check, Prod.mk.injEq] at hc
    obtain ⟨hc, rfl⟩ := hc
    exact ⟨a, hc, hr⟩
  · rintro ⟨a, hc, hr⟩
    exact ⟨a, s, by rw [exec_check, hc], hr⟩

/-- A mapped command succeeds with a mapped result. -/
lemma exec_map_ok {f : α → β} (h : ((f <$> c).exec s).1 = .ok b) :
    ∃ a s', c.exec s = (.ok a, s') ∧ f a = b ∧ ((f <$> c).exec s).2 = s' := by
  rw [exec_map] at h ⊢
  obtain ⟨a, ha, hb⟩ := map_ok.mp h
  rcases he : c.exec s with ⟨r, t⟩
  rw [he] at ha
  cases ha
  exact ⟨a, t, rfl, hb, rfl⟩

/-- A command on a copy succeeds exactly when the command does. -/
lemma exec_onCopy_ok : (onCopy c).exec s = (.ok a, s') ↔ c.exec s = (.ok a, s') := by
  change (match c.exec s with
    | (.ok a, s') => (Except.ok a, s')
    | (.error e, _) => (.error e, s)) = _ ↔ _
  rcases c.exec s with ⟨_ | _, _⟩ <;> simp

/-- A command on a part of the state succeeds exactly when the command does. -/
lemma exec_focus_ok {get : σ → τ} {c : Command τ ε α} :
    (focus get set c).exec s = (.ok a, s') ↔ ∃ t, c.exec (get s) = (.ok a, t) ∧ s' = set t s := by
  rw [exec_focus]
  rcases c.exec (get s) with ⟨r, t⟩
  simp only [Prod.mk.injEq]
  constructor
  · rintro ⟨rfl, rfl⟩
    exact ⟨t, ⟨rfl, rfl⟩, rfl⟩
  · rintro ⟨_, ⟨rfl, rfl⟩, rfl⟩
    exact ⟨rfl, rfl⟩

/-- A command on an optional part succeeds exactly when there is none or the command does. -/
lemma exec_focusSome_ok {c : Command τ ε Unit} :
    (focusSome get set c).exec s = (.ok u, s') ↔ (get s = none ∧ s' = s) ∨
        ∃ t t', get s = some t ∧ c.exec t = (.ok (), t') ∧ s' = set t' s := by
  cases hget : get s with
  | none => simp [exec_focusSome_of_none hget, eq_comm]
  | some t =>
    rw [exec_focusSome_of_some hget]
    rcases hrun : c.exec t with ⟨e | ⟨⟩, t'⟩
    · simp [hrun]
    · simp [hrun, eq_comm]

/-! ## Readings that a command keeps -/

/-- The command leaves a reading of the state as it is, whether it succeeds or fails. -/
def Keeps (f : σ → τ) (c : Command σ ε α) : Prop :=
  ∀ s, f (c.exec s).2 = f s

section Keeps

variable {f : σ → τ}

lemma keeps_pure (a : α) : Keeps f (pure a : Command σ ε α) := fun _ => rfl

lemma keeps_check (g : σ → Except ε α) : Keeps f (check g) := fun _ => rfl

lemma keeps_throw (e : ε) : Keeps f (throw e : Command σ ε α) := fun _ => rfl

lemma keeps_modify {g : σ → σ} (h : ∀ s, f (g s) = f s) : Keeps f (modify g : Command σ ε Unit) := h

/-- A sequence keeps what its commands keep. -/
lemma Keeps.bind (hx : Keeps f x) (hk : ∀ a, Keeps f (k a)) : Keeps f (x >>= k) := by
  intro s
  have hf := hx s
  rcases h : x.exec s with ⟨_ | a, s'⟩
  · rw [exec_bind_of_error h]
    rwa [h] at hf
  · rw [exec_bind_of_ok h, hk a s']
    rwa [h] at hf

/-- After a reading of the state, only a reading that succeeded has to be looked at. -/
lemma Keeps.check_bind (h : ∀ s a, g s = .ok a → f ((k a).exec s).2 = f s) :
    Keeps f (check g >>= k) := by
  intro s
  cases hg : g s with
  | error => rw [exec_check_bind_of_error hg]
  | ok a => rw [exec_check_bind_of_ok hg, h s a hg]

lemma Keeps.branch (hc : Keeps f c) (hd : Keeps f d) : Keeps f (branch p c d) := by
  intro s
  rw [exec_branch]
  split
  · exact hc s
  · exact hd s

/-- A command on a part of the state keeps what does not depend on that part. -/
lemma Keeps.focusSome {get : σ → Option ρ} {set : ρ → σ → σ} {c : Command ρ ε Unit}
    (h : ∀ t s, (get s).isSome = true → f (set t s) = f s) : Keeps f (focusSome get set c) := by
  intro s
  cases hget : get s with
  | none => rw [exec_focusSome_of_none hget]
  | some t => rw [exec_focusSome_of_some hget, h _ s (by rw [hget]; rfl)]

lemma Keeps.onCopy (hc : Keeps f c) : Keeps f (onCopy c) := by
  intro s
  have hco := hc s
  change f (match c.exec s with
    | (.ok a, s') => (Except.ok a, s')
    | (.error e, _) => (.error e, s)).2 = f s
  split
  · next h => rwa [h] at hco
  · rfl

end Keeps

/-! ## Relations that a command moves along -/

/-- The states before and after the command are related, whether it succeeds or fails. -/
def Moves (R : σ → σ → Prop) (c : Command σ ε α) : Prop :=
  ∀ s, R s (c.exec s).2

section Moves

variable {R : σ → σ → Prop}

lemma moves_pure [Std.Refl R] (a : α) : Moves R (pure a : Command σ ε α) := fun s => refl s

lemma moves_check [Std.Refl R] (g : σ → Except ε α) : Moves R (check g) := fun s => refl s

lemma moves_throw [Std.Refl R] (e : ε) : Moves R (throw e : Command σ ε α) := fun s => refl s

lemma moves_modify {g : σ → σ} (h : ∀ s, R s (g s)) : Moves R (modify g : Command σ ε Unit) := h

/-- A sequence moves along a transitive relation that its commands move along. -/
lemma Moves.bind [IsTrans σ R] (hx : Moves R x) (hk : ∀ a, Moves R (k a)) : Moves R (x >>= k) := by
  intro s
  have hf := hx s
  rcases h : x.exec s with ⟨_ | a, t⟩
  · rw [exec_bind_of_error h]
    rwa [h] at hf
  · rw [exec_bind_of_ok h]
    rw [h] at hf
    exact Trans.trans hf (hk a t)

lemma Moves.branch (hc : Moves R c) (hd : Moves R d) : Moves R (branch p c d) := by
  intro s
  rw [exec_branch]
  split
  · exact hc s
  · exact hd s

lemma Moves.map (f : α → β) (hc : Moves R c) : Moves R (f <$> c) := by
  intro s
  rw [exec_map]
  exact hc s

end Moves

/-! ## Refused commands -/

/-- The command fails on a state and leaves it as it is. -/
def Refuses (c : Command σ ε α) (s : σ) : Prop :=
  ∃ e, c.exec s = (.error e, s)

/-- A command that starts with a reading refuses what the reading refuses, and what it refuses
after it. -/
lemma Refuses.check_bind (h : ∀ a, g s = .ok a → Refuses (k a) s) : Refuses (check g >>= k) s := by
  cases hg : g s with
  | error e => exact ⟨e, exec_check_bind_of_error hg⟩
  | ok a =>
    obtain ⟨e, he⟩ := h a hg
    exact ⟨e, (exec_check_bind_of_ok hg).trans he⟩

/-- A sequence refuses what its first command refuses. -/
lemma Refuses.bind (h : Refuses x s) : Refuses (x >>= k) s := by
  obtain ⟨e, he⟩ := h
  exact ⟨e, exec_bind_of_error he⟩

lemma Refuses.map (f : α → β) (h : Refuses c s) : Refuses (f <$> c) s := by
  obtain ⟨e, he⟩ := h
  exact ⟨e, by rw [exec_map, he]; rfl⟩

lemma Refuses.onCopy (h : Refuses c s) : Refuses (onCopy c) s := by
  obtain ⟨e, he⟩ := h
  refine ⟨e, ?_⟩
  change (match c.exec s with
    | (.ok a, s') => (Except.ok a, s')
    | (.error e, _) => (.error e, s)) = _
  rw [he]

/-! ## Failures that leave nothing behind -/

/-- If the command fails on a state, it leaves it as it is. -/
def AtomicAt (c : Command σ ε α) (s : σ) : Prop :=
  ∀ e, (c.exec s).1 = .error e → (c.exec s).2 = s

lemma atomicAt_modify (g : σ → σ) (s : σ) : AtomicAt (modify g : Command σ ε Unit) s :=
  fun _ h => by cases h

lemma atomicAt_onCopy (c : Command σ ε α) (s : σ) : AtomicAt (onCopy c) s := by
  have hex : (onCopy c).exec s = match c.exec s with
      | (.ok a, s') => (.ok a, s')
      | (.error e, _) => (.error e, s) := rfl
  intro e he
  rw [hex] at he ⊢
  split at he
  · cases he
  · rfl

lemma atomicAt_map (f : α → β) : AtomicAt (f <$> c) s ↔ AtomicAt c s := by
  have he : ∀ e, ((f <$> c).exec s).1 = .error e ↔ (c.exec s).1 = .error e := by
    intro e
    rw [exec_map]
    cases (c.exec s).1 <;> simp [Functor.map, Except.map]
  unfold AtomicAt
  simp only [he]
  rw [exec_map]

/-- What only computes a result from the one of a command fails with it. -/
lemma AtomicAt.bind_pure {f : α → β} (h : AtomicAt c s) :
    AtomicAt (c >>= fun a => pure (f a)) s := by
  have hmap : (c >>= fun a => pure (f a)) = f <$> c := bind_pure_comp f c
  rw [hmap]
  exact (atomicAt_map f).mpr h

/-- A command on a part of the state is atomic when it is atomic on the part. -/
lemma AtomicAt.focus {get : σ → τ} {c : Command τ ε α} (hset : set (get s) s = s)
    (h : AtomicAt c (get s)) : AtomicAt (focus get set c) s := by
  intro e he
  rw [exec_focus] at he ⊢
  rw [h e he]
  exact hset

lemma AtomicAt.of_ok (h : (c.exec s).1 = .ok a) : AtomicAt c s := by
  intro e he
  rw [h] at he
  cases he

/-- A failure that wrote is not atomic. -/
lemma not_atomicAt (h : c.exec s = (.error e, t)) (hw : t ≠ s) : ¬AtomicAt c s := by
  intro ha
  have hs := ha e (by rw [h])
  rw [h] at hs
  exact hw hs

/-- The command fails on a state. -/
def Fails (c : Command σ ε α) (s : σ) : Prop :=
  ∃ e, (c.exec s).1 = .error e

/-- A command that changes the state anyway is atomic exactly when it does not fail. -/
lemma atomicAt_iff_not_fails (hw : (c.exec s).2 ≠ s) : AtomicAt c s ↔ ¬Fails c s := by
  constructor
  · rintro ha ⟨e, he⟩
    exact hw (ha e he)
  · intro hok e he
    exact absurd ⟨e, he⟩ hok

lemma not_fails_pure (a : α) (s : σ) : ¬Fails (pure a : Command σ ε α) s := by
  rintro ⟨e, he⟩
  cases he

lemma not_fails_modify (g : σ → σ) (s : σ) : ¬Fails (modify g : Command σ ε Unit) s := by
  rintro ⟨e, he⟩
  cases he

lemma fails_modify_bind {g : σ → σ} {k : Unit → Command σ ε α} :
    Fails ((modify g : Command σ ε Unit) >>= k) s ↔ Fails (k ()) (g s) := by
  rw [Fails, exec_modify_bind, Fails]

/-- A sequence whose second command cannot fail fails with its first one. -/
lemma fails_bind_iff (hk : ∀ a s, ¬Fails (k a) s) : Fails (x >>= k) s ↔ Fails x s := by
  rcases h : x.exec s with ⟨e | a, s'⟩
  · simp [Fails, exec_bind_of_error h, h]
  · refine iff_of_false (fun hf => ?_) (by simp [Fails, h])
    rw [Fails, exec_bind_of_ok h] at hf
    exact hk a s' hf

lemma fails_bind_modify {g : α → σ → σ} : Fails (x >>= fun a => modify (g a)) s ↔ Fails x s :=
  fails_bind_iff fun a => not_fails_modify (g a)

/-- A write at the end of a command cannot fail. -/
lemma atomicAt_bind_modify {x : Command σ ε Unit} {g : σ → σ} :
    AtomicAt (x >>= fun _ => modify g) s ↔ AtomicAt x s := by
  rcases h : x.exec s with ⟨e | ⟨⟩, t⟩
  · simp [AtomicAt, exec_bind_of_error h, h]
  · refine iff_of_true (AtomicAt.of_ok (a := ()) ?_) (AtomicAt.of_ok (a := ()) (by rw [h]))
    rw [exec_bind_of_ok h, exec_modify]

/-- A command that starts with its checks is atomic unless what follows them fails too late. -/
lemma atomicAt_check_bind_iff {L : α → Prop} (h : ∀ a, g s = .ok a → (AtomicAt (k a) s ↔ ¬L a)) :
    AtomicAt (check g >>= k) s ↔ ¬∃ a, g s = .ok a ∧ L a := by
  cases hg : g s with
  | error =>
    refine iff_of_true (fun _ _ => ?_) ?_
    · rw [exec_check_bind_of_error hg]
    · rintro ⟨a, ha, -⟩
      cases ha
  | ok a =>
    have he : (check g >>= k).exec s = (k a).exec s := exec_check_bind_of_ok hg
    have hs : AtomicAt (check g >>= k) s ↔ AtomicAt (k a) s := by
      rw [AtomicAt, he, AtomicAt]
    rw [hs, h a hg]
    constructor
    · rintro hl ⟨b, hb, hL⟩
      cases hb
      exact hl hL
    · intro hn hL
      exact hn ⟨a, rfl, hL⟩

/-- A command that is atomic after its checks is atomic. -/
lemma AtomicAt.check_bind (h : ∀ a, g s = .ok a → AtomicAt (k a) s) : AtomicAt (check g >>= k) s :=
  (atomicAt_check_bind_iff (L := fun _ => False) fun a ha => iff_of_true (h a ha) id).mpr
    fun ⟨_, _, hn⟩ => hn

end Command

end Hartevo
