/- Methods on a mutable record that can fail part-way, as programs of `EStateM`.

   A method of `&mut self` returning `Result<α, ε>` keeps what it wrote before an early
   error, and that is what `EStateM ε σ α` computes. `runOn` reads off the record a method
   leaves behind together with its result; `runOn_of_triple` turns a Hoare triple of
   `Std.Do`, proved with `mvcgen`, into a statement about `runOn`, so that the loops and
   tables built over such methods never unfold them. -/

import Mathlib

set_option autoImplicit false
set_option relaxedAutoImplicit false

namespace Libtelio.Lib.EState

open Std.Do

variable {ε σ α : Type}

/-- The record a method leaves behind, with its result. -/
def runOn (x : EStateM ε σ α) (s : σ) : σ × Except ε α :=
  match x.run s with
  | .ok a s => (s, .ok a)
  | .error e s => (s, .error e)

@[simp] theorem runOn_pure (a : α) (s : σ) : runOn (pure a : EStateM ε σ α) s = (s, .ok a) := rfl

@[simp] theorem runOn_throw (e : ε) (s : σ) :
    runOn (throw e : EStateM ε σ α) s = (s, .error e) := rfl

@[simp] theorem runOn_modify (f : σ → σ) (s : σ) :
    runOn (modify f : EStateM ε σ PUnit) s = (f s, .ok ⟨⟩) := rfl

/-- The soundness rule: a triple of `x` describes each outcome of running `x` from a state
meeting its precondition. -/
theorem runOn_of_triple {x : EStateM ε σ α} {P : σ → Prop} {Q : α → σ → Prop}
    {R : ε → σ → Prop}
    (spec : ⦃fun s => ⌜P s⌝⦄ x ⦃post⟨fun a s => ⌜Q a s⌝, fun e s => ⌜R e s⌝⟩⦄)
    {s : σ} (pre : P s) :
    match runOn x s with
    | (s', .ok a) => Q a s'
    | (s', .error e) => R e s' := by
  have holds := spec s pre
  simp only [wp, PredTrans.apply] at holds
  unfold runOn EStateM.run
  cases ran : x s with
  | ok a s' => simpa [EStateM.run, ran] using holds
  | error e s' => simpa [EStateM.run, ran] using holds

/-- The completeness rule: what holds of each outcome of running `x` from every state meeting
`P` is a triple of `x`. -/
theorem triple_of_runOn {x : EStateM ε σ α} {P : σ → Prop} {Q : α → σ → Prop}
    {R : ε → σ → Prop}
    (outcome : ∀ s, P s → match runOn x s with
      | (s', .ok a) => Q a s'
      | (s', .error e) => R e s') :
    ⦃fun s => ⌜P s⌝⦄ x ⦃post⟨fun a s => ⌜Q a s⌝, fun e s => ⌜R e s⌝⟩⦄ := by
  intro s pre
  have holds := outcome s pre
  simp only [wp, PredTrans.apply]
  unfold runOn EStateM.run at holds
  cases ran : x s with
  | ok a s' => simpa [EStateM.run, ran] using holds
  | error e s' => simpa [EStateM.run, ran] using holds

/-- A triple whose two exits both promise `I` of the state gives `I` of the record left
behind, whichever way the method ends. -/
theorem state_runOn_of_triple {x : EStateM ε σ α} {P I : σ → Prop}
    (spec : ⦃fun s => ⌜P s⌝⦄ x ⦃post⟨fun _ s => ⌜I s⌝, fun _ s => ⌜I s⌝⟩⦄)
    {s : σ} (pre : P s) : I (runOn x s).1 := by
  have outcome := runOn_of_triple spec pre
  split at outcome
  all_goals rename_i s' _ ran
  all_goals rw [ran]
  all_goals exact outcome

/-- A method whose errors are converted, as a `map_err` or the `?` of a `From` conversion
does. -/
def mapError {ε' : Type} (f : ε → ε') (x : EStateM ε σ α) : EStateM ε' σ α :=
  fun s =>
    match x s with
    | .ok a s => .ok a s
    | .error e s => .error (f e) s

@[simp] theorem runOn_mapError {ε' : Type} (f : ε → ε') (x : EStateM ε σ α) (s : σ) :
    runOn (mapError f x) s = ((runOn x s).1, (runOn x s).2.mapError f) := by
  simp only [mapError, runOn, EStateM.run]
  cases x s <;> rfl

theorem mapError_invariant {ε' : Type} (f : ε → ε') {x : EStateM ε σ α} {P I : σ → Prop}
    (spec : ⦃fun s => ⌜P s⌝⦄ x ⦃post⟨fun _ s => ⌜I s⌝, fun _ s => ⌜I s⌝⟩⦄) :
    ⦃fun s => ⌜P s⌝⦄ mapError f x ⦃post⟨fun _ s => ⌜I s⌝, fun _ s => ⌜I s⌝⟩⦄ := by
  apply triple_of_runOn
  intro s pre
  have kept := state_runOn_of_triple spec pre
  rw [runOn_mapError]
  cases (runOn x s).2 <;> exact kept

/-- A method of a component run as a method of the record that holds it: it runs on the
component that `view` reads, and `update` stores what it leaves behind, on error as well. -/
def zoom {τ : Type} (view : σ → τ) (update : σ → τ → σ) (x : EStateM ε τ α) : EStateM ε σ α :=
  fun s =>
    match runOn x (view s) with
    | (t, .ok a) => .ok a (update s t)
    | (t, .error e) => .error e (update s t)

@[simp] theorem runOn_zoom {τ : Type} (view : σ → τ) (update : σ → τ → σ) (x : EStateM ε τ α)
    (s : σ) :
    runOn (zoom view update x) s = (update s (runOn x (view s)).1, (runOn x (view s)).2) := by
  simp only [zoom, runOn, EStateM.run]
  cases x (view s) <;> rfl

/-- The rule for a component's method run in its record: from the record `s0`, the method runs
on the component `s0` holds and the record ends with the component it leaves, every other part
as it was. -/
theorem zoom_spec {τ : Type} (view : σ → τ) (update : σ → τ → σ) {x : EStateM ε τ α}
    {Q : α → τ → Prop} {R : ε → τ → Prop} (s0 : σ)
    (spec : ⦃fun t => ⌜t = view s0⌝⦄ x ⦃post⟨fun a t => ⌜Q a t⌝, fun e t => ⌜R e t⌝⟩⦄) :
    ⦃fun s => ⌜s = s0⌝⦄ zoom view update x
    ⦃post⟨fun a s => ⌜∃ t, s = update s0 t ∧ Q a t⌝,
      fun e s => ⌜∃ t, s = update s0 t ∧ R e t⌝⟩⦄ := by
  apply triple_of_runOn
  rintro s rfl
  have inner := runOn_of_triple spec (s := view s) rfl
  rw [runOn_zoom]
  split at inner
  all_goals rename_i t _ ran
  all_goals rw [ran]
  all_goals exact ⟨t, rfl, inner⟩


/-- The invariant rule for a component's method: the record keeps `P` when the method keeps,
on the component, a property `I s` that `P s` gives and from which `P` follows again. -/
theorem zoom_invariant {τ : Type} (view : σ → τ) (update : σ → τ → σ) {x : EStateM ε τ α}
    {P : σ → Prop} {I : σ → τ → Prop}
    (spec : ∀ s, P s → ⦃fun t => ⌜I s t⌝⦄ x ⦃post⟨fun _ t => ⌜I s t⌝, fun _ t => ⌜I s t⌝⟩⦄)
    (start : ∀ s, P s → I s (view s)) (frame : ∀ s t, P s → I s t → P (update s t)) :
    ⦃fun s => ⌜P s⌝⦄ zoom view update x ⦃post⟨fun _ s => ⌜P s⌝, fun _ s => ⌜P s⌝⟩⦄ := by
  apply triple_of_runOn
  intro s pre
  have kept := state_runOn_of_triple (spec s pre) (start s pre)
  rw [runOn_zoom]
  cases (runOn x (view s)).2 <;> exact frame s _ pre kept

/-- The frame rule: what no value of the component affects is kept by each of its methods. -/
theorem zoom_frame {τ : Type} (view : σ → τ) (update : σ → τ → σ) (x : EStateM ε τ α)
    {P : σ → Prop} (frame : ∀ s t, P s → P (update s t)) :
    ⦃fun s => ⌜P s⌝⦄ zoom view update x ⦃post⟨fun _ s => ⌜P s⌝, fun _ s => ⌜P s⌝⟩⦄ := by
  apply zoom_invariant view update (I := fun _ _ => True)
  · intro s _
    apply triple_of_runOn
    intro t _
    split <;> trivial
  · intro _ _
    trivial
  · intro s t pre _
    exact frame s t pre

end Libtelio.Lib.EState
