import Mathlib

/-!
# Machines, runs and traces

A machine is a function `step : σ → ι → ω × σ`: on an input it returns an output and moves to the
next state.  `run` is the state after a list of inputs and `trace` the list of the events on the
way, each with the state before and after it.

Four rules prove every statement about whole runs.  `run_invariant` is for a property of states that
each step keeps.  `run_rely` is for one that holds as long as the events meet a condition, and for
what each event then guarantees; `states_iff` is for a condition that is also necessary.
`trace_invariant` is for a property that relates the state to everything that happened before, such
as "each element of this set was accepted by exactly one event".
-/

namespace Hartevo

open List

/-- One step of a machine, with the state before and the state after it. -/
structure Event (σ ι ω : Type) where
  before : σ
  input : ι
  output : ω
  after : σ

section Machine

variable {σ ι ω : Type} (step : σ → ι → ω × σ) {s : σ} {inputs : List ι}

/-- The event of taking one step. -/
def eventOf (s : σ) (i : ι) : Event σ ι ω :=
  ⟨s, i, (step s i).1, (step s i).2⟩

/-- The state after a list of inputs. -/
def run (s : σ) : List ι → σ
  | [] => s
  | i :: inputs => run (step s i).2 inputs

/-- The events of a list of inputs, in order. -/
def trace (s : σ) : List ι → List (Event σ ι ω)
  | [] => []
  | i :: inputs => eventOf step s i :: trace (step s i).2 inputs

@[simp] lemma run_nil (s : σ) : run step s [] = s := rfl

@[simp] lemma run_cons (s : σ) (i : ι) (inputs : List ι) :
    run step s (i :: inputs) = run step (step s i).2 inputs := rfl

@[simp] lemma trace_nil (s : σ) : trace step s [] = [] := rfl

@[simp] lemma trace_cons (s : σ) (i : ι) (inputs : List ι) :
    trace step s (i :: inputs) = eventOf step s i :: trace step (step s i).2 inputs := rfl

/-- A run of two lists of inputs is a run of the second from where the first ended. -/
lemma run_append (s : σ) (inputs inputs' : List ι) :
    run step s (inputs ++ inputs') = run step (run step s inputs) inputs' := by
  induction inputs generalizing s with
  | nil => rfl
  | cons i inputs ih => exact ih _

/-- The events of two lists of inputs are those of the first and then those of the second. -/
lemma trace_append (s : σ) (inputs inputs' : List ι) : trace step s (inputs ++ inputs') =
      trace step s inputs ++ trace step (run step s inputs) inputs' := by
  induction inputs generalizing s with
  | nil => rfl
  | cons i inputs ih => simp [ih]

/-- A property that every step keeps holds after every run. -/
lemma run_invariant {I : σ → Prop} (hstep : ∀ s i, I s → I (step s i).2) (hs : I s)
    (inputs : List ι) : I (run step s inputs) := by
  induction inputs generalizing s with
  | nil => exact hs
  | cons i inputs ih => exact ih (hstep s i hs)

/-- A relation between the events so far and the current state that every step extends holds of
every run. -/
lemma trace_invariant {J : List (Event σ ι ω) → σ → Prop} (hs : J [] s)
    (hstep : ∀ evs t i, J evs t → J (evs ++ [eventOf step t i]) (step t i).2)
    (inputs : List ι) : J (trace step s inputs) (run step s inputs) := by
  induction inputs using reverseRecOn with
  | nil => exact hs
  | append_singleton inputs i ih =>
    rw [trace_append, run_append]
    exact hstep _ _ i ih

/-- As long as every event of a run meets a condition, a property of states that such a step keeps
goes on to hold, and every event has what such a step guarantees. -/
lemma run_rely {I : σ → Prop} {C P : Event σ ι ω → Prop}
    (hstep : ∀ s i, I s → C (eventOf step s i) → I (step s i).2 ∧ P (eventOf step s i)) (hs : I s)
    (hC : ∀ e ∈ trace step s inputs, C e) :
    I (run step s inputs) ∧ ∀ e ∈ trace step s inputs, P e := by
  induction inputs generalizing s with
  | nil => exact ⟨hs, nofun⟩
  | cons i inputs ih =>
    obtain ⟨hn, heve⟩ := hstep s i hs (hC _ mem_cons_self)
    obtain ⟨hend, hev⟩ := ih hn fun e he => hC e (mem_cons_of_mem _ he)
    refine ⟨hend, fun e he => ?_⟩
    rcases mem_cons.mp he with rfl | he
    · exact heve
    · exact hev e he

/-- A property of states that holds at first, and that a step keeps exactly under a condition, holds
in every state of a run exactly when every step of the run meets the condition.  `R` is an invariant
of the run that may be used for it, and `G` what is known about its events. -/
lemma states_iff {R I : σ → Prop} {G : Event σ ι ω → Prop} {C : σ → ι → Prop}
    (hR : ∀ s i, R s → G (eventOf step s i) → R (step s i).2)
    (hI : ∀ s i, R s → G (eventOf step s i) → I s → (I (step s i).2 ↔ C s i)) (hs : R s)
    (hi : I s) (hG : ∀ e ∈ trace step s inputs, G e) :
    (∀ earlier later, inputs = earlier ++ later → I (run step s earlier)) ↔
      ∀ e ∈ trace step s inputs, C e.before e.input := by
  induction inputs generalizing s with
  | nil =>
    refine iff_of_true (fun earlier later hsp => ?_) (fun e he => absurd he not_mem_nil)
    obtain ⟨rfl, -⟩ := append_eq_nil_iff.mp hsp.symm
    exact hi
  | cons i inputs ih =>
    have hf : G (eventOf step s i) := hG _ mem_cons_self
    have hn := hI s i hs hf hi
    have hr : ∀ e ∈ trace step (step s i).2 inputs, G e :=
      fun e he => hG e (mem_cons_of_mem _ he)
    rw [trace_cons, forall_mem_cons]
    constructor
    · intro hall
      have ha : I (step s i).2 := hall [i] inputs rfl
      refine ⟨hn.mp ha, (ih (hR s i hs hf) ha hr).mp ?_⟩
      rintro earlier later rfl
      exact hall (i :: earlier) later rfl
    · rintro ⟨hco, hc⟩ earlier later hsp
      cases earlier with
      | nil => exact hi
      | cons j earlier =>
        obtain ⟨rfl, rfl⟩ := cons.inj hsp
        have ha := hn.mpr hco
        exact (ih (hR s i hs hf) ha hr).mpr hc earlier later rfl

/-- Every event of a run is one step taken from the state some part of the run reached. -/
lemma mem_trace_iff {e : Event σ ι ω} : e ∈ trace step s inputs ↔
      ∃ earlier i later, inputs = earlier ++ i :: later ∧
        e = eventOf step (run step s earlier) i := by
  induction inputs generalizing s with
  | nil => simp
  | cons j inputs ih =>
    rw [trace_cons, mem_cons, ih]
    constructor
    · rintro (rfl | ⟨earlier, i, later, rfl, rfl⟩)
      · exact ⟨[], j, inputs, rfl, rfl⟩
      · exact ⟨j :: earlier, i, later, rfl, rfl⟩
    · rintro ⟨_ | ⟨k, earlier⟩, i, later, hs, rfl⟩
      · obtain ⟨rfl, rfl⟩ := cons.inj hs
        exact .inl rfl
      · obtain ⟨rfl, rfl⟩ := cons.inj hs
        exact .inr ⟨earlier, i, later, rfl, rfl⟩

/-- What no step decreases does not decrease from one event to a later one. -/
lemma trace_pairwise_le {τ : Type} [Preorder τ] {f : σ → τ}
    (hstep : ∀ s i, f s ≤ f (step s i).2) (s : σ) (inputs : List ι) :
    (trace step s inputs).Pairwise fun e e' => f e.after ≤ f e'.before := by
  induction inputs generalizing s with
  | nil => exact List.Pairwise.nil
  | cons i inputs ih =>
    refine List.Pairwise.cons (fun e he => ?_) (ih _)
    obtain ⟨earlier, j, later, -, rfl⟩ := (mem_trace_iff step).mp he
    exact run_invariant step (I := fun t => f (step s i).2 ≤ f t)
      (fun t k hle => hle.trans (hstep t k)) le_rfl earlier

end Machine

end Hartevo
