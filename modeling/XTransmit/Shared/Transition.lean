import Mathlib.Data.List.Basic

set_option autoImplicit false

namespace Transition

universe u v

variable {State : Type u} {Label : Type v}

def run (step : State → Label → Option State) : State → List Label → Option State
  | state, [] => some state
  | state, label :: rest => (step state label).bind (run step · rest)

theorem run_append (step : State → Label → Option State) (state : State) (earlier later : List Label) :
    run step state (earlier ++ later) = (run step state earlier).bind (run step · later) := by
  induction earlier generalizing state with
  | nil => rfl
  | cons label rest ih =>
      rw [List.cons_append, run, run, Option.bind_assoc]
      congr 1
      funext next
      exact ih next

inductive Reachable (step : State → Label → Option State) (allowed : State → Label → Prop)
    (initial : State) : State → Prop
  | initial : Reachable step allowed initial initial
  | step {state next : State} (label : Label) :
      Reachable step allowed initial state → allowed state label →
      step state label = some next → Reachable step allowed initial next

def Unrestricted (_ : State) (_ : Label) : Prop := True

def AllowedRun (step : State → Label → Option State) (allowed : State → Label → Prop) :
    State → List Label → Prop
  | _, [] => True
  | state, label :: rest =>
      allowed state label ∧ ∀ next, step state label = some next → AllowedRun step allowed next rest

instance decidableAllowedRun (step : State → Label → Option State) (allowed : State → Label → Prop)
    [∀ state label, Decidable (allowed state label)] :
    (state : State) → (labels : List Label) → Decidable (AllowedRun step allowed state labels)
  | _, [] => .isTrue trivial
  | state, label :: rest =>
      have : Decidable (∀ next, step state label = some next → AllowedRun step allowed next rest) :=
        match step state label with
        | none => .isTrue fun _ absurd => nomatch absurd
        | some next =>
            have := decidableAllowedRun step allowed next rest
            decidable_of_iff (AllowedRun step allowed next rest)
              ⟨fun later _ same => Option.some.inj same ▸ later, fun later => later next rfl⟩
      inferInstanceAs (Decidable (_ ∧ _))

theorem allowedRun_of_forall {step : State → Label → Option State}
    {allowed : State → Label → Prop} {labels : List Label}
    (always : ∀ label ∈ labels, ∀ state, allowed state label) (state : State) :
    AllowedRun step allowed state labels := by
  induction labels generalizing state with
  | nil => trivial
  | cons label rest ih =>
      exact ⟨always label (by simp) state,
        fun next _ => ih (fun later member => always later (List.mem_cons_of_mem _ member)) next⟩

theorem Reachable.run {step : State → Label → Option State} {allowed : State → Label → Prop}
    {initial state final : State} (reached : Reachable step allowed initial state)
    (labels : List Label) (inside : AllowedRun step allowed state labels)
    (result : Transition.run step state labels = some final) :
    Reachable step allowed initial final := by
  induction labels generalizing state with
  | nil =>
      cases result
      exact reached
  | cons label rest ih =>
      obtain ⟨next, taken, continued⟩ := Option.bind_eq_some_iff.mp result
      exact ih (.step label reached inside.1 taken) (inside.2 next taken) continued

theorem Reachable.weaken {step : State → Label → Option State} {allowed weaker : State → Label → Prop}
    {initial state : State} (implied : ∀ state label, allowed state label → weaker state label)
    (reached : Reachable step allowed initial state) : Reachable step weaker initial state := by
  induction reached with
  | initial => exact .initial
  | step label _ permitted taken ih => exact .step label ih (implied _ label permitted) taken

theorem Reachable.invariant {step : State → Label → Option State}
    {allowed : State → Label → Prop} {initial : State} (holds : State → Prop)
    (start : holds initial)
    (preserved : ∀ state label next, holds state → allowed state label →
      step state label = some next → holds next)
    {state : State} (reached : Reachable step allowed initial state) : holds state := by
  induction reached with
  | initial => exact start
  | step label _ permitted taken ih => exact preserved _ label _ ih permitted taken

section Runs

variable {step : State → Label → Option State} {state final : State} (labels : List Label)

theorem run_invariant (holds : State → Prop)
    (preserved : ∀ state, ∀ label ∈ labels, ∀ next, holds state → step state label = some next → holds next)
    (start : holds state) (taken : Transition.run step state labels = some final) : holds final := by
  induction labels generalizing state with
  | nil =>
      cases taken
      exact start
  | cons label rest ih =>
      obtain ⟨next, first, continued⟩ := Option.bind_eq_some_iff.mp taken
      exact ih (fun state later member => preserved state later (List.mem_cons_of_mem _ member))
        (preserved state label (by simp) next start first) continued

-- A resource that no action gives back bounds the actions that use it, as long as the goal is not reached.
theorem run_reaches (goal holds : State → Prop) (counted : Label → Bool) (resource : State → Nat)
    (kept : ∀ state, ∀ label ∈ labels, ∀ next, goal state → step state label = some next → goal next)
    (used : ∀ state, ∀ label ∈ labels, ∀ next, holds state → step state label = some next →
      goal next ∨ holds next ∧ resource next + (if counted label then 1 else 0) ≤ resource state)
    (start : holds state) (taken : Transition.run step state labels = some final) :
    goal final ∨ holds final ∧ resource final + labels.countP counted ≤ resource state := by
  induction labels generalizing state with
  | nil =>
      cases taken
      exact .inr ⟨start, Nat.le_refl _⟩
  | cons label rest ih =>
      obtain ⟨next, first, continued⟩ := Option.bind_eq_some_iff.mp taken
      have keptLater := fun state later member => kept state later (List.mem_cons_of_mem label member)
      rcases used state label (by simp) next start first with reached | ⟨holding, here⟩
      · exact .inl (run_invariant rest goal keptLater reached continued)
      · rcases ih keptLater (fun state later member => used state later (List.mem_cons_of_mem label member)) holding
          continued with reached | ⟨holding, later⟩
        · exact .inl reached
        · rw [List.countP_cons]
          exact .inr ⟨holding, by omega⟩

end Runs

end Transition
