/- `Iterator::max_by`: the greatest element of a sequence under a comparison, and of several
   equally great ones the last.

   Under a comparison of keys in a linear order (`compareOn f`, the closure
   `|o, t| f(o).cmp(f(t))`) the result is an element whose key no element
   exceeds (`le_of_maxBy`). When the keys are distinct that element is fixed by the elements
   alone and the order they come in does not matter (`maxBy_perm`); when several share the
   greatest key, the one that comes last wins (`maxBy_append_of_le`). -/

import Mathlib

set_option autoImplicit false
set_option relaxedAutoImplicit false

namespace Libtelio.Lib.MaxBy

variable {α β : Type*}

/-- `cmp::max_by(v1, v2, compare)`: `v2` unless `v1` compares greater. -/
def maxStep (compare : α → α → Ordering) (v1 v2 : α) : α :=
  if compare v1 v2 = .gt then v1 else v2

/-- `Iterator::max_by`: `reduce` with `cmp::max_by`. -/
def maxBy (compare : α → α → Ordering) : List α → Option α
  | [] => none
  | x :: xs => some (xs.foldl (maxStep compare) x)

theorem maxBy_eq_none_iff (compare : α → α → Ordering) (xs : List α) :
    maxBy compare xs = none ↔ xs = [] := by
  cases xs <;> simp [maxBy]

theorem foldl_maxStep_mem (compare : α → α → Ordering) (x : α) (xs : List α) :
    xs.foldl (maxStep compare) x ∈ x :: xs := by
  induction xs generalizing x with
  | nil => simp
  | cons y ys ih =>
    rw [List.foldl_cons]
    have kept := ih (maxStep compare x y)
    -- the accumulator after the first step is `x` or `y`
    have first : maxStep compare x y = x ∨ maxStep compare x y = y := by
      unfold maxStep
      split <;> simp
    rcases List.mem_cons.mp kept with here | later
    · rcases first with h | h <;> rw [here, h] <;> simp
    · exact List.mem_cons_of_mem _ (List.mem_cons_of_mem _ later)

theorem mem_of_maxBy {compare : α → α → Ordering} {xs : List α} {m : α}
    (h : maxBy compare xs = some m) : m ∈ xs := by
  cases xs with
  | nil => simp [maxBy] at h
  | cons x xs =>
    rw [maxBy, Option.some_inj] at h
    exact h ▸ foldl_maxStep_mem compare x xs

section Key

variable [LinearOrder β] (f : α → β)

theorem maxStep_compareOn (a b : α) :
    maxStep (compareOn f) a b = if f b < f a then a else b := by
  simp only [maxStep, compareOn, compare_gt_iff_gt]

theorem le_foldl_maxStep (x : α) (xs : List α) :
    ∀ y ∈ x :: xs, f y ≤ f (xs.foldl (maxStep (compareOn f)) x) := by
  induction xs generalizing x with
  | nil => simp
  | cons z zs ih =>
    intro y mem
    rw [List.foldl_cons]
    have first : f x ≤ f (maxStep (compareOn f) x z) ∧ f z ≤ f (maxStep (compareOn f) x z) := by
      rw [maxStep_compareOn]
      split
      · exact ⟨le_rfl, le_of_lt ‹_›⟩
      · exact ⟨not_lt.mp ‹_›, le_rfl⟩
    have later := ih (maxStep (compareOn f) x z)
    rcases List.mem_cons.mp mem with rfl | rest
    · exact first.1.trans (later _ List.mem_cons_self)
    · rcases List.mem_cons.mp rest with rfl | rest
      · exact first.2.trans (later _ List.mem_cons_self)
      · exact later y (List.mem_cons_of_mem _ rest)

/-- No element's key exceeds the result's. -/
theorem le_of_maxBy {xs : List α} {m : α} (h : maxBy (compareOn f) xs = some m) :
    ∀ y ∈ xs, f y ≤ f m := by
  cases xs with
  | nil => simp [maxBy] at h
  | cons x xs =>
    rw [maxBy, Option.some_inj] at h
    exact h ▸ le_foldl_maxStep f x xs

/-- With distinct keys the result is the element of greatest key. -/
theorem maxBy_eq_some_of_injOn {xs : List α} {m : α} (inj : ∀ a ∈ xs, ∀ b ∈ xs, f a = f b → a = b)
    (mem : m ∈ xs) (greatest : ∀ y ∈ xs, f y ≤ f m) : maxBy (compareOn f) xs = some m := by
  obtain ⟨r, found⟩ := Option.ne_none_iff_exists'.mp
    (fun none => List.ne_nil_of_mem mem ((maxBy_eq_none_iff _ xs).mp none))
  have same : f r = f m := le_antisymm (greatest r (mem_of_maxBy found)) (le_of_maxBy f found m mem)
  rw [found, inj r (mem_of_maxBy found) m mem same]

/-- With distinct keys the order of the elements does not matter. -/
theorem maxBy_perm {xs ys : List α} (p : xs.Perm ys)
    (inj : ∀ a ∈ xs, ∀ b ∈ xs, f a = f b → a = b) :
    maxBy (compareOn f) xs = maxBy (compareOn f) ys := by
  cases found : maxBy (compareOn f) xs with
  | none =>
    rw [maxBy_eq_none_iff] at found
    subst found
    rw [List.nil_perm.mp p]
    rfl
  | some m =>
    have mem := mem_of_maxBy found
    have greatest := le_of_maxBy f found
    have injYs : ∀ a ∈ ys, ∀ b ∈ ys, f a = f b → a = b := fun a ha b hb =>
      inj a (p.mem_iff.mpr ha) b (p.mem_iff.mpr hb)
    refine (maxBy_eq_some_of_injOn f injYs (p.mem_iff.mp mem) fun y hy => ?_).symm
    exact greatest y (p.mem_iff.mpr hy)

/-- Of several elements of the greatest key the last one wins. -/
theorem maxBy_append_of_le {xs : List α} {x : α} (le : ∀ y ∈ xs, f y ≤ f x) :
    maxBy (compareOn f) (xs ++ [x]) = some x := by
  cases xs with
  | nil => rfl
  | cons y ys =>
    have before := le (ys.foldl (maxStep (compareOn f)) y) (foldl_maxStep_mem _ y ys)
    rw [List.cons_append, maxBy, List.foldl_append, List.foldl_cons, List.foldl_nil,
      maxStep_compareOn, if_neg (not_lt.mpr before)]

end Key

end Libtelio.Lib.MaxBy
