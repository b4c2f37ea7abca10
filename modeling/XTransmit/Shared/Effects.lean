import Mathlib.Logic.Basic

set_option autoImplicit false

namespace Effects

universe u

variable {Error State α β : Type u}

def Returns (computation : EStateM Error State α) (state : State) (value : α) (next : State) : Prop :=
  computation state = .ok value next

theorem returns_pure {value result : α} {state next : State} :
    Returns (pure value : EStateM Error State α) state result next ↔ value = result ∧ state = next := by
  simp [Returns, pure, EStateM.pure]

theorem returns_bind {computation : EStateM Error State α} {continuation : α → EStateM Error State β}
    {state next : State} {value : β} :
    Returns (computation >>= continuation) state value next ↔
      ∃ first middle, Returns computation state first middle ∧ Returns (continuation first) middle value next := by
  simp only [Returns, bind, EStateM.bind]
  cases computation state with
  | ok first middle =>
      constructor
      · intro continued
        exact ⟨first, middle, rfl, continued⟩
      · rintro ⟨_, _, same, continued⟩
        cases same
        exact continued
  | error error middle => simp

theorem returns_get {state value next : State} :
    Returns (get : EStateM Error State State) state value next ↔ state = value ∧ state = next := by
  change EStateM.Result.ok state state = EStateM.Result.ok value next ↔ _
  simp

theorem returns_modify {change : State → State} {state next : State} {value : PUnit} :
    Returns (modify change : EStateM Error State PUnit) state value next ↔ change state = next := by
  change EStateM.Result.ok PUnit.unit (change state) = EStateM.Result.ok value next ↔ _
  simp

theorem not_returns_throw {error : Error} {state next : State} {value : α} :
    ¬ Returns (throw error : EStateM Error State α) state value next := by
  change ¬ EStateM.Result.error error state = EStateM.Result.ok value next
  simp

theorem returns_tryCatch {computation : EStateM Error State α} {handler : Error → EStateM Error State α}
    (rethrows : ∀ error state value next, ¬ Returns (handler error) state value next)
    {state next : State} {value : α} :
    Returns (tryCatch computation handler) state value next ↔ Returns computation state value next := by
  change EStateM.tryCatch computation handler state = .ok value next ↔ computation state = .ok value next
  delta EStateM.tryCatch
  cases computation state with
  | ok first middle => rfl
  | error error middle => simpa [Returns] using rethrows error _ value next

def finalState (computation : EStateM Error State α) (state : State) : State :=
  match computation state with
  | .ok _ next => next
  | .error _ next => next

def Relates (related : State → State → Prop) (computation : EStateM Error State α) : Prop :=
  ∀ state, related state (finalState computation state)

section Relates

variable {related : State → State → Prop}

theorem relates_pure (refl : ∀ state, related state state) (value : α) :
    Relates related (pure value : EStateM Error State α) := refl

theorem relates_throw (refl : ∀ state, related state state) (error : Error) :
    Relates related (throw error : EStateM Error State α) := refl

theorem relates_bind (trans : ∀ first second third, related first second → related second third → related first third)
    {computation : EStateM Error State α} {continuation : α → EStateM Error State β}
    (first : Relates related computation) (rest : ∀ value, Relates related (continuation value)) :
    Relates related (computation >>= continuation) := by
  intro state
  have moved := first state
  simp only [finalState, bind, EStateM.bind] at moved ⊢
  cases result : computation state with
  | ok value middle =>
      rw [result] at moved
      exact trans _ _ _ moved (rest value middle)
  | error error middle =>
      rw [result] at moved
      exact moved

end Relates

end Effects
