/- A publisher of changes: a component that remembers the last value it published and publishes
   a new observation only when it differs from that one.

   Over a sequence of observations `xs`, starting from the remembered value `last`, what it
   publishes is `changes last xs`: Mathlib's `destutter'` of `xs` by `≠` from `last`, without
   `last` itself. `Settled last out` is what such a channel satisfies at any time: no value
   twice in a row, and the last one sent is the value remembered. -/

import Mathlib

set_option autoImplicit false
set_option relaxedAutoImplicit false

namespace Libtelio.Lib.Changes

variable {α : Type*} [DecidableEq α]

/-- The observations of `xs` that differ from the one before them, the first compared with
`last`. -/
def changes (last : α) (xs : List α) : List α :=
  (xs.destutter' (· ≠ ·) last).tail

/-- `destutter'` keeps its start in front. -/
private theorem destutter'_eq_cons_tail (last : α) (xs : List α) :
    xs.destutter' (· ≠ ·) last = last :: (xs.destutter' (· ≠ ·) last).tail := by
  induction xs generalizing last with
  | nil => rfl
  | cons x xs ih =>
    by_cases differs : last ≠ x
    · rw [List.destutter'_cons_pos xs differs, List.tail_cons]
    · rw [List.destutter'_cons_neg xs differs]
      exact ih last

@[simp] theorem changes_nil (last : α) : changes last [] = [] := rfl

theorem changes_cons_of_ne {last x : α} (differs : last ≠ x) (xs : List α) :
    changes last (x :: xs) = x :: changes x xs := by
  rw [changes, List.destutter'_cons_pos xs differs, List.tail_cons, changes,
    ← destutter'_eq_cons_tail]

theorem changes_cons_self (x : α) (xs : List α) : changes x (x :: xs) = changes x xs := by
  rw [changes, List.destutter'_cons_neg xs (not_not.mpr rfl), changes]

/-- A channel as a change publisher leaves it: no value twice in a row, and the last value
sent is the one the publisher remembers. -/
def Settled (last : α) (out : List α) : Prop :=
  out.IsChain (· ≠ ·) ∧ out.getLastD last = last

omit [DecidableEq α] in
theorem settled_nil (last : α) : Settled last ([] : List α) :=
  ⟨List.isChain_nil, rfl⟩

omit [DecidableEq α] in
/-- Publishing a value that differs from the remembered one keeps a channel settled. -/
theorem Settled.append {last x : α} {out : List α} (settled : Settled last out)
    (differs : last ≠ x) : Settled x (out ++ [x]) := by
  obtain ⟨chain, ends⟩ := settled
  refine ⟨chain.append (List.isChain_singleton x) ?_, by simp⟩
  intro y mem z head
  have last_eq : y = last := by
    rw [← ends, List.getLastD_eq_getLast?, mem, Option.getD_some]
  rw [last_eq, ← Option.mem_some_iff.mp head]
  exact differs

end Libtelio.Lib.Changes
