import Mathlib.Tactic

/-!
# Runs of a deterministic machine

A machine is a step function; a run feeds it a list of events. The induction over runs is done here
once: what every step keeps holds after every run, and what the steps of one run keep holds after
that run.
-/

namespace Machine

variable {σ ε : Type*} (step : σ → ε → σ)

def run (s : σ) (events : List ε) : σ := events.foldl step s

@[simp]
theorem run_nil (s : σ) : run step s [] = s := rfl

@[simp]
theorem run_cons (s : σ) (e : ε) (events : List ε) :
    run step s (e :: events) = run step (step s e) events := rfl

theorem run_append (s : σ) (first second : List ε) :
    run step s (first ++ second) = run step (run step s first) second :=
  List.foldl_append

variable {step}

/-- The invariant rule. The step premise may use which events the run is made of. -/
theorem run_invariant_of_forall_mem (Inv : σ → Prop) {events : List ε}
    (hstep : ∀ s, ∀ e ∈ events, Inv s → Inv (step s e)) {s : σ} (hinit : Inv s) :
    Inv (run step s events) := by
  induction events generalizing s with
  | nil => exact hinit
  | cons e events ih =>
      apply ih
      · intro s' e' hmem
        exact hstep s' e' (List.mem_cons_of_mem e hmem)
      · exact hstep s e List.mem_cons_self hinit

theorem run_invariant (Inv : σ → Prop) (hstep : ∀ s e, Inv s → Inv (step s e)) {s : σ}
    (hinit : Inv s) (events : List ε) : Inv (run step s events) :=
  run_invariant_of_forall_mem Inv (fun s e _ => hstep s e) hinit

/-- Every step of the run meets the condition in the state it starts from. -/
def RunMeets (Q : σ → ε → Prop) (step : σ → ε → σ) : σ → List ε → Prop
  | _, [] => True
  | s, e :: events => Q s e ∧ RunMeets Q step (step s e) events

instance RunMeets.decidable (Q : σ → ε → Prop) [∀ s e, Decidable (Q s e)] (step : σ → ε → σ) (s : σ)
    (events : List ε) : Decidable (RunMeets Q step s events) :=
  match events with
  | [] => inferInstanceAs (Decidable True)
  | e :: rest =>
      have := RunMeets.decidable Q step (step s e) rest
      inferInstanceAs (Decidable (Q s e ∧ RunMeets Q step (step s e) rest))

theorem RunMeets.invariant {Q : σ → ε → Prop} (Inv : σ → Prop)
    (hstep : ∀ s e, Q s e → Inv s → Inv (step s e)) {s : σ} {events : List ε}
    (hmeets : RunMeets Q step s events) (hinit : Inv s) : Inv (run step s events) := by
  induction events generalizing s with
  | nil => exact hinit
  | cons e events ih =>
      obtain ⟨hfirst, hrest⟩ := hmeets
      exact ih hrest (hstep s e hfirst hinit)

/-- What an invariant gives for every step. -/
theorem RunMeets.of_invariant {Q : σ → ε → Prop} (Inv : σ → Prop)
    (hstep : ∀ s e, Inv s → Inv (step s e)) (hmeets : ∀ s e, Inv s → Q s e) {s : σ}
    (hinit : Inv s) (events : List ε) : RunMeets Q step s events := by
  induction events generalizing s with
  | nil => trivial
  | cons e events ih => exact ⟨hmeets s e hinit, ih (hstep s e hinit)⟩

theorem RunMeets.of_append {Q : σ → ε → Prop} {s : σ} {first second : List ε}
    (h : RunMeets Q step s (first ++ second)) : RunMeets Q step (run step s first) second := by
  induction first generalizing s with
  | nil => exact h
  | cons e first ih => exact ih h.2

theorem RunMeets.of_append_left {Q : σ → ε → Prop} {s : σ} {first second : List ε}
    (h : RunMeets Q step s (first ++ second)) : RunMeets Q step s first := by
  induction first generalizing s with
  | nil => trivial
  | cons e first ih => exact ⟨h.1, ih h.2⟩

theorem RunMeets.and {P Q : σ → ε → Prop} {s : σ} {events : List ε}
    (hp : RunMeets P step s events) (hq : RunMeets Q step s events) :
    RunMeets (fun s e => P s e ∧ Q s e) step s events := by
  induction events generalizing s with
  | nil => trivial
  | cons e events ih => exact ⟨⟨hp.1, hq.1⟩, ih hp.2 hq.2⟩

/-- Two conditions that agree wherever an invariant holds, which either of them keeps. -/
theorem RunMeets.iff_of_invariant {P Q : σ → ε → Prop} (Inv : σ → Prop)
    (hiff : ∀ s e, Inv s → (P s e ↔ Q s e)) (hstep : ∀ s e, Q s e → Inv s → Inv (step s e)) {s : σ}
    (hinit : Inv s) (events : List ε) : RunMeets P step s events ↔ RunMeets Q step s events := by
  induction events generalizing s with
  | nil => exact Iff.rfl
  | cons e events ih =>
      constructor
      · rintro ⟨hfirst, hrest⟩
        have hq := (hiff s e hinit).mp hfirst
        exact ⟨hq, (ih (hstep s e hq hinit)).mp hrest⟩
      · rintro ⟨hfirst, hrest⟩
        exact ⟨(hiff s e hinit).mpr hfirst, (ih (hstep s e hfirst hinit)).mpr hrest⟩

/-- The ranking rule: a machine whose rank falls until it rests comes to rest. -/
theorem run_rests (Inv Rests : σ → Prop) (rank : σ → Nat)
    (hstep : ∀ s e, Inv s → Inv (step s e))
    (hstays : ∀ s e, Rests s → Rests (step s e))
    (hfalls : ∀ s e, Inv s → Rests s ∨ rank (step s e) < rank s) {s : σ} {events : List ε}
    (hinit : Inv s) (hlong : rank s < events.length) : Rests (run step s events) := by
  induction events generalizing s with
  | nil => exact absurd hlong (Nat.not_lt_zero _)
  | cons e events ih =>
      rcases hfalls s e hinit with hrests | hfall
      · exact run_invariant Rests hstays (hstays s e hrests) events
      · rw [List.length_cons] at hlong
        exact ih (hstep s e hinit) (by omega)

/-- An event that comes once in a run: what holds until its turn, the turn itself, and what holds
from then on. -/
theorem run_once (Before After : σ → Prop) {e : ε} {events : List ε} (hmem : e ∈ events)
    (hnodup : events.Nodup) (hbefore : ∀ s, ∀ e' ≠ e, Before s → Before (step s e'))
    (hturn : ∀ s, Before s → After (step s e))
    (hafter : ∀ s, ∀ e' ≠ e, After s → After (step s e')) {s : σ} (hinit : Before s) :
    After (run step s events) := by
  obtain ⟨first, second, rfl⟩ := List.append_of_mem hmem
  have hnotFirst : e ∉ first := by
    intro h
    exact (List.disjoint_of_nodup_append hnodup) h List.mem_cons_self
  have hnotSecond : e ∉ second := (List.nodup_cons.mp hnodup.of_append_right).1
  rw [run_append, run_cons]
  apply run_invariant_of_forall_mem After
  · intro s' e' he'
    apply hafter
    rintro rfl
    exact hnotSecond he'
  · apply hturn
    apply run_invariant_of_forall_mem Before
    · intro s' e' he'
      apply hbefore
      rintro rfl
      exact hnotFirst he'
    · exact hinit

end Machine
