/- A buffer written in place.

   `write buf off xs` is `buf[off..off + xs.len()].copy_from_slice(xs)`, element by element, and
   `read buf off n` is the slice `&buf[off..off + n]` of a read inside the buffer. A write keeps
   the length and changes only the positions it covers (`getElem?_write`); the read lemmas a
   packet view needs, the written bytes read back and the others unchanged, follow from it. -/

import Mathlib.Data.List.Basic

set_option autoImplicit false
set_option relaxedAutoImplicit false

namespace Libtelio.Lib.Buffer

variable {α : Type}

/-- `buf[off..off + xs.len()].copy_from_slice(xs)`. -/
def write : List α → Nat → List α → List α
  | buf, _, [] => buf
  | buf, off, x :: xs => write (buf.set off x) (off + 1) xs

/-- `&buf[off..off + n]`. -/
def read (buf : List α) (off n : Nat) : List α :=
  (buf.drop off).take n

/-- `&buf[a..b]`, or a panic (`none`) unless `a ≤ b ≤ buf.len()`. -/
def slice (buf : List α) (a b : Nat) : Option (List α) :=
  if a ≤ b ∧ b ≤ buf.length then some (read buf a (b - a)) else none

@[simp] theorem length_write (buf : List α) (off : Nat) (xs : List α) :
    (write buf off xs).length = buf.length := by
  induction xs generalizing buf off with
  | nil => rfl
  | cons x xs ih => simp [write, ih]

theorem getElem?_write (buf : List α) (off : Nat) (xs : List α) (j : Nat) :
    (write buf off xs)[j]? =
      if off ≤ j ∧ j < off + xs.length ∧ j < buf.length then xs[j - off]? else buf[j]? := by
  induction xs generalizing buf off with
  | nil => rw [if_neg (by simp only [List.length_nil]; omega)]; rfl
  | cons x xs ih =>
    rw [write, ih, List.getElem?_set, List.length_set, List.length_cons]
    -- the position is the one set first, one of the later ones, or outside the write
    by_cases first : off = j
    · subst first
      rw [if_neg (by omega), if_pos rfl]
      by_cases inside : off < buf.length
      · simp [inside]
      · simp [inside]
    · by_cases later : off + 1 ≤ j ∧ j < off + 1 + xs.length ∧ j < buf.length
      · rw [if_pos later, if_pos (by omega), show j - off = j - (off + 1) + 1 by omega]
        rfl
      · rw [if_neg later, if_neg first, if_neg (by omega)]

theorem getElem_write (buf : List α) (off : Nat) (xs : List α) (j : Nat)
    (h : j < (write buf off xs).length) :
    (write buf off xs)[j] =
      if inside : off ≤ j ∧ j < off + xs.length then xs.get ⟨j - off, by omega⟩
      else buf.get ⟨j, by simpa using h⟩ := by
  have read := getElem?_write buf off xs j
  have inBuf : j < buf.length := by simpa using h
  rw [List.getElem?_eq_getElem h] at read
  by_cases inside : off ≤ j ∧ j < off + xs.length
  · rw [if_pos ⟨inside.1, inside.2, inBuf⟩, List.getElem?_eq_getElem (by omega)] at read
    rw [dif_pos inside, List.get_eq_getElem]
    exact Option.some.inj read
  · rw [if_neg (fun c => inside ⟨c.1, c.2.1⟩), List.getElem?_eq_getElem inBuf] at read
    rw [dif_neg inside, List.get_eq_getElem]
    exact Option.some.inj read

theorem read_zero (buf : List α) (n : Nat) : read buf 0 n = buf.take n := by
  simp [read]

theorem length_read (buf : List α) (off n : Nat) :
    (read buf off n).length = min n (buf.length - off) := by
  simp [read]

/-- What a write covers reads back. -/
theorem read_write_self {buf : List α} {off : Nat} {xs : List α}
    (fits : off + xs.length ≤ buf.length) : read (write buf off xs) off xs.length = xs := by
  apply List.ext_getElem?
  intro j
  rw [read, List.getElem?_take, List.getElem?_drop, getElem?_write]
  by_cases inside : j < xs.length
  · rw [if_pos inside, if_pos (by omega), Nat.add_sub_cancel_left]
  · rw [if_neg inside, List.getElem?_eq_none (by omega)]

theorem read_write_of_length {buf : List α} {off : Nat} {xs : List α} {n : Nat}
    (length : n = xs.length) (fits : off + xs.length ≤ buf.length) :
    read (write buf off xs) off n = xs := by
  subst length
  exact read_write_self fits

/-- A read beside a write sees the old contents. -/
theorem read_write_of_disjoint {buf : List α} {off : Nat} {xs : List α} {o n : Nat}
    (apart : o + n ≤ off ∨ off + xs.length ≤ o) : read (write buf off xs) o n = read buf o n := by
  apply List.ext_getElem?
  intro j
  simp only [read, List.getElem?_take, List.getElem?_drop, getElem?_write]
  split_ifs <;> first | rfl | omega

theorem take_write {buf : List α} {off : Nat} {xs : List α} {n : Nat}
    (fits : off + xs.length ≤ n) : (write buf off xs).take n = write (buf.take n) off xs := by
  apply List.ext_getElem?
  intro j
  simp only [List.getElem?_take, getElem?_write, List.length_take]
  split_ifs <;> first | rfl | omega

theorem read_take {buf : List α} {k off n : Nat} (within : off + n ≤ k) :
    read (buf.take k) off n = read buf off n := by
  apply List.ext_getElem?
  intro j
  simp only [read, List.getElem?_take, List.getElem?_drop]
  split_ifs <;> first | rfl | omega

theorem drop_write_of_le {buf : List α} {off : Nat} {xs : List α} {n : Nat}
    (before : off + xs.length ≤ n) : (write buf off xs).drop n = buf.drop n := by
  apply List.ext_getElem?
  intro j
  simp only [List.getElem?_drop, getElem?_write]
  split_ifs <;> first | rfl | omega

/-- A write that reaches the end of the buffer is what lies after its offset. -/
theorem drop_write_end {buf : List α} {off : Nat} {xs : List α}
    (reaches : off + xs.length = buf.length) : (write buf off xs).drop off = xs := by
  apply List.ext_getElem?
  intro j
  simp only [List.getElem?_drop, getElem?_write]
  split_ifs
  · rw [Nat.add_sub_cancel_left]
  · rw [List.getElem?_eq_none (by omega), List.getElem?_eq_none (by omega)]

/-- The slice up to the end of a write into the buffer's tail: the head, then what was written. -/
theorem take_write_end {buf : List α} {off : Nat} {xs : List α}
    (fits : off + xs.length ≤ buf.length) :
    (write buf off xs).take (off + xs.length) = buf.take off ++ xs := by
  apply List.ext_getElem?
  intro j
  have head : min off buf.length = off := by omega
  simp only [List.getElem?_take, getElem?_write, List.getElem?_append, List.length_take, head]
  split_ifs <;> first | rfl | omega | (simp_all; omega)

end Libtelio.Lib.Buffer
