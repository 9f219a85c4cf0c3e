/- Runs of a deterministic transition function over a list of inputs.

   `run` folds a step function over the inputs, `run_invariant` is the rule that a predicate
   established at the start and kept by every step holds after every run, and `Since` is the
   past-time operator "P has held ever since an E step": the shape of every provenance
   statement about a state built by a sequence of operations. -/

import Mathlib.Data.List.Induction
import Mathlib.Data.List.TakeDrop

set_option autoImplicit false
set_option relaxedAutoImplicit false

namespace Libtelio.Lib.Run

variable {σ ι : Type*}

/-- The state reached from `s` by feeding the inputs `ops` to `step`, first input first. -/
def run (step : σ → ι → σ) (s : σ) (ops : List ι) : σ :=
  ops.foldl step s

@[simp] theorem run_nil (step : σ → ι → σ) (s : σ) : run step s [] = s := rfl

@[simp] theorem run_append_singleton (step : σ → ι → σ) (s : σ) (ops : List ι) (a : ι) :
    run step s (ops ++ [a]) = step (run step s ops) a := by
  simp only [run, List.foldl_append, List.foldl_cons, List.foldl_nil]

theorem run_append (step : σ → ι → σ) (s : σ) (ops more : List ι) :
    run step s (ops ++ more) = run step (run step s ops) more := by
  simp only [run, List.foldl_append]

/-- The invariant rule: what holds at `s` and is kept by every step holds after every run. -/
theorem run_invariant {step : σ → ι → σ} {P : σ → Prop} {s : σ} (init : P s)
    (keep : ∀ t a, P t → P (step t a)) (ops : List ι) : P (run step s ops) := by
  induction ops using List.reverseRecOn with
  | nil => exact init
  | append_singleton ops a ih =>
    rw [run_append_singleton]
    exact keep _ a ih

/-- The invariant rule for runs whose inputs all satisfy `A`: each step need keep the invariant
only for the inputs `A` admits. -/
theorem run_invariant_of_admissible {step : σ → ι → σ} {P : σ → Prop} {A : ι → Prop} {s : σ}
    (init : P s) (keep : ∀ t a, A a → P t → P (step t a)) (ops : List ι)
    (admissible : ∀ a ∈ ops, A a) : P (run step s ops) := by
  induction ops using List.reverseRecOn with
  | nil => exact init
  | append_singleton ops a ih =>
    rw [run_append_singleton]
    apply keep _ a (admissible a (by simp))
    exact ih fun b hb => admissible b (by simp [hb])

/-- A pass over distinct keys, where the visit of a key changes what `view` shows at that key
only and turns a view that satisfies `P` into one that satisfies `Q`. Afterwards `Q` holds at
every key visited, and every other key shows what it showed at the start. -/
theorem run_pass {κ ν : Type*} (visit : σ → κ → σ) (view : σ → κ → ν)
    (frame : ∀ s k j, j ≠ k → view (visit s k) j = view s j) {P Q : κ → ν → Prop}
    (turn : ∀ s k, P k (view s k) → Q k (view (visit s k) k)) :
    ∀ (keys : List κ) (s : σ), keys.Nodup → (∀ k ∈ keys, P k (view s k)) →
      ∀ k, (k ∈ keys → Q k (view (run visit s keys) k)) ∧
        (k ∉ keys → view (run visit s keys) k = view s k)
  | [], _, _, _, _ => ⟨fun mem => absurd mem List.not_mem_nil, fun _ => rfl⟩
  | a :: rest, s, nodup, holds, k => by
    obtain ⟨fresh, nodupRest⟩ := List.nodup_cons.mp nodup
    -- the keys after `a` meet the views `a`'s visit left them, the ones they started with
    have restHolds : ∀ j ∈ rest, P j (view (visit s a) j) := fun j mem => by
      rw [frame s a j (fun same => fresh (same ▸ mem))]
      exact holds j (List.mem_cons_of_mem a mem)
    have after := run_pass visit view frame turn rest (visit s a) nodupRest restHolds k
    change (k ∈ a :: rest → Q k (view (run visit (visit s a) rest) k)) ∧
      (k ∉ a :: rest → view (run visit (visit s a) rest) k = view s k)
    by_cases same : k = a
    · subst same
      refine ⟨fun _ => ?_, fun absent => absurd List.mem_cons_self absent⟩
      rw [after.2 fresh]
      exact turn s k (holds k List.mem_cons_self)
    · refine ⟨fun mem => after.1 ((List.mem_cons.mp mem).resolve_left same), fun absent => ?_⟩
      rw [after.2 (fun mem => absent (List.mem_cons_of_mem a mem)), frame s a k same]

/-- The pass with the keys it skips accounted for: `Q` holds at every key afterwards when it
holds at the start at each key not visited. -/
theorem run_pass_all {κ ν : Type*} (visit : σ → κ → σ) (view : σ → κ → ν)
    (frame : ∀ s k j, j ≠ k → view (visit s k) j = view s j) {P Q : κ → ν → Prop}
    (turn : ∀ s k, P k (view s k) → Q k (view (visit s k) k)) (keys : List κ) (s : σ)
    (nodup : keys.Nodup) (holds : ∀ k ∈ keys, P k (view s k))
    (skipped : ∀ k ∉ keys, Q k (view s k)) (k : κ) : Q k (view (run visit s keys) k) := by
  obtain ⟨visited, unvisited⟩ := run_pass visit view frame turn keys s nodup holds k
  by_cases mem : k ∈ keys
  · exact visited mem
  · rw [unvisited mem]
    exact skipped k mem

/-- Every input of the run of `ops` from `s` is one that `G` allows at the state it is given
in. -/
def Guarded (step : σ → ι → σ) (G : σ → ι → Prop) : σ → List ι → Prop
  | _, [] => True
  | s, a :: ops => G s a ∧ Guarded step G (step s a) ops

instance decidableGuarded (step : σ → ι → σ) (G : σ → ι → Prop) [∀ s a, Decidable (G s a)] :
    ∀ s ops, Decidable (Guarded step G s ops)
  | _, [] => isTrue trivial
  | s, a :: ops =>
    have := decidableGuarded step G (step s a) ops
    inferInstanceAs (Decidable (G s a ∧ Guarded step G (step s a) ops))

/-- The invariant rule for guarded runs: each step need keep the invariant only for an input
`G` allows at the state it meets. -/
theorem run_invariant_of_guarded {step : σ → ι → σ} {P : σ → Prop} {G : σ → ι → Prop}
    (keep : ∀ t a, G t a → P t → P (step t a)) :
    ∀ {s : σ} (ops : List ι), P s → Guarded step G s ops → P (run step s ops)
  | _, [], init, _ => init
  | s, a :: ops, init, ⟨allowed, guarded⟩ =>
    run_invariant_of_guarded keep ops (keep s a allowed init) guarded

/-- `Since step P E s ops`: some step of the run of `ops` from `s`, taking input `a` at a state
`t`, was an `E t a` event, and every state from the one that step produced up to the last one
satisfies `P`. -/
def Since (step : σ → ι → σ) (P : σ → Prop) (E : σ → ι → Prop) (s : σ) (ops : List ι) : Prop :=
  ∃ pre a post, ops = pre ++ a :: post ∧ E (run step s pre) a ∧
    ∀ n, n ≤ post.length → P (run step s (pre ++ a :: post.take n))

section Since

variable {step : σ → ι → σ} {P : σ → Prop} {E : σ → ι → Prop} {s : σ}

/-- The last state of a run satisfying `Since` satisfies `P`. -/
theorem Since.holds {ops : List ι} (h : Since step P E s ops) : P (run step s ops) := by
  obtain ⟨pre, a, post, rfl, -, always⟩ := h
  simpa using always post.length (Nat.le_refl _)

/-- A step that is an `E` event and ends in a `P` state starts a `Since`. -/
theorem since_snoc_event {ops : List ι} {a : ι} (event : E (run step s ops) a)
    (after : P (run step s (ops ++ [a]))) : Since step P E s (ops ++ [a]) := by
  refine ⟨ops, a, [], rfl, event, ?_⟩
  intro n hn
  simpa using after

/-- A `Since` survives a step that ends in a `P` state. -/
theorem since_snoc {ops : List ι} {a : ι} (h : Since step P E s ops)
    (after : P (run step s (ops ++ [a]))) : Since step P E s (ops ++ [a]) := by
  obtain ⟨pre, b, post, rfl, event, always⟩ := h
  refine ⟨pre, b, post ++ [a], by simp, event, ?_⟩
  intro n hn
  rcases Nat.lt_or_ge n (post.length + 1) with small | large
  · rw [List.take_append_of_le_length (by omega)]
    exact always n (by omega)
  · have whole : (post ++ [a]).take n = post ++ [a] :=
      List.take_of_length_le (by simp only [List.length_append, List.length_singleton]; omega)
    rw [whole]
    simpa using after

/-- The rule for `Since`: if `P` fails at the start and every step that makes `P` true either
found it true already or was an `E` event, then whenever `P` holds it has held since an `E`
event. -/
theorem since_of_runs (start : ¬ P s)
    (origin : ∀ ops a, P (run step s (ops ++ [a])) →
      P (run step s ops) ∨ E (run step s ops) a) :
    ∀ ops, P (run step s ops) → Since step P E s ops := by
  intro ops
  induction ops using List.reverseRecOn with
  | nil => exact fun h => absurd h start
  | append_singleton ops a ih =>
    intro after
    rcases origin ops a after with before | event
    · exact since_snoc (ih before) after
    · exact since_snoc_event event after

end Since

end Libtelio.Lib.Run
