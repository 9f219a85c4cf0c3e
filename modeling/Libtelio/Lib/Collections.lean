/- `std::collections::HashMap` over association lists.

   A map is its entries, one for each key (an `AList`). The order the model keeps them in
   stands for no iteration order of the real map, which is fixed by a random hasher: where a
   result depends on the order a map is walked in, the walk is given separately, as any list of
   the map's entries (`IsWalk`). The operations are those of the entry API and of `collect`. -/

import Mathlib.Data.List.AList

set_option autoImplicit false
set_option relaxedAutoImplicit false

namespace Libtelio.Lib.Collections

/-- A `HashMap<K, V>`: its entries, one for each key. -/
abbrev HashMap (K V : Type*) := AList (fun _ : K => V)

variable {K V : Type*} [DecidableEq K]

/-- The entries as pairs, in the model's order. -/
def toPairs (m : HashMap K V) : List (K × V) :=
  m.entries.map fun e => (e.1, e.2)

/-- `xs` is an order `iter()` may walk `m` in: each of its entries once. -/
def IsWalk (xs : List (K × V)) (m : HashMap K V) : Prop :=
  xs.Perm (toPairs m)

/-- `entry(k).or_insert(v)`. -/
def orInsert (k : K) (v : V) (m : HashMap K V) : HashMap K V :=
  if k ∈ m then m else m.insert k v

/-- `*entry(k).or_insert(d) = f(..)`: the value of `k`, or `d` where there is none, changed by
`f`. -/
def modify (k : K) (d : V) (f : V → V) (m : HashMap K V) : HashMap K V :=
  m.insert k (f ((m.lookup k).getD d))

/-- `iter_mut().for_each(|(_, v)| *v = f(v))`. -/
def mapValues (f : V → V) (m : HashMap K V) : HashMap K V :=
  ⟨m.entries.map (Sigma.map id fun _ => f), m.nodupKeys.map₂ _ _⟩

/-- `retain(|k, v| keep(k, v))`. -/
def retain (keep : K → V → Bool) (m : HashMap K V) : HashMap K V :=
  ⟨m.entries.filter fun e => keep e.1 e.2, m.nodupKeys.sublist List.filter_sublist⟩

/-- `collect()` of pairs: each is inserted in turn, so of two pairs of one key the later stays. -/
def fromIter (xs : List (K × V)) : HashMap K V :=
  xs.foldl (fun m e => m.insert e.1 e.2) ∅

theorem mem_toPairs {m : HashMap K V} {k : K} {v : V} :
    (k, v) ∈ toPairs m ↔ m.lookup k = some v := by
  rw [← Option.mem_def, AList.mem_lookup_iff, toPairs, List.mem_map]
  constructor
  · rintro ⟨⟨k', v'⟩, mem, same⟩
    cases same
    exact mem
  · intro mem
    exact ⟨_, mem, rfl⟩

omit [DecidableEq K] in
/-- The model's own order is a walk, and so is its reverse. -/
theorem isWalk_toPairs (m : HashMap K V) : IsWalk (toPairs m) m := List.Perm.refl _

omit [DecidableEq K] in
theorem isWalk_reverse_toPairs (m : HashMap K V) : IsWalk (toPairs m).reverse m :=
  List.reverse_perm _

omit [DecidableEq K] in
theorem map_fst_toPairs (m : HashMap K V) : (toPairs m).map Prod.fst = m.keys := by
  simp [toPairs, AList.keys, List.keys]

theorem IsWalk.mem_iff {xs : List (K × V)} {m : HashMap K V} (walk : IsWalk xs m) {k : K} {v : V} :
    (k, v) ∈ xs ↔ m.lookup k = some v :=
  (List.Perm.mem_iff walk).trans mem_toPairs

omit [DecidableEq K] in
theorem IsWalk.nodup_keys {xs : List (K × V)} {m : HashMap K V} (walk : IsWalk xs m) :
    (xs.map Prod.fst).Nodup := by
  rw [(walk.map Prod.fst).nodup_iff, map_fst_toPairs]
  exact m.keys_nodup

/-- In a walk a key comes with one value. -/
theorem IsWalk.eq_of_fst_eq {xs : List (K × V)} {m : HashMap K V} (walk : IsWalk xs m)
    {a b : K × V} (ha : a ∈ xs) (hb : b ∈ xs) (same : a.1 = b.1) : a = b := by
  have la := (walk.mem_iff (k := a.1) (v := a.2)).mp ha
  have lb := (walk.mem_iff (k := b.1) (v := b.2)).mp hb
  rw [same, lb, Option.some_inj] at la
  exact Prod.ext same la.symm

theorem lookup_eq_some_getD {m : HashMap K V} {k : K} (mem : k ∈ m) (d : V) :
    m.lookup k = some ((m.lookup k).getD d) := by
  obtain ⟨v, found⟩ := Option.isSome_iff_exists.mp (AList.lookup_isSome.mpr mem)
  rw [found, Option.getD_some]

theorem mem_orInsert {k a : K} {v : V} {m : HashMap K V} : a ∈ orInsert k v m ↔ a = k ∨ a ∈ m := by
  unfold orInsert
  split
  · constructor
    · exact Or.inr
    · rintro (rfl | mem) <;> assumption
  · exact AList.mem_insert m

theorem lookup_modify (k a : K) (d : V) (f : V → V) (m : HashMap K V) :
    (modify k d f m).lookup a = if a = k then some (f ((m.lookup k).getD d)) else m.lookup a := by
  unfold modify
  split
  · subst a
    exact AList.lookup_insert m
  · exact AList.lookup_insert_ne ‹_›

theorem mem_modify {k a : K} {d : V} {f : V → V} {m : HashMap K V} :
    a ∈ modify k d f m ↔ a = k ∨ a ∈ m :=
  AList.mem_insert m

theorem mem_foldl_insert (xs : List (K × V)) (m : HashMap K V) (k : K) :
    k ∈ xs.foldl (fun m e => m.insert e.1 e.2) m ↔ k ∈ m ∨ k ∈ xs.map Prod.fst := by
  induction xs generalizing m with
  | nil => simp
  | cons e rest ih =>
    rw [List.foldl_cons, ih, AList.mem_insert, List.map_cons, List.mem_cons]
    tauto

theorem mem_fromIter (xs : List (K × V)) (k : K) : k ∈ fromIter xs ↔ k ∈ xs.map Prod.fst := by
  rw [fromIter, mem_foldl_insert]
  simp [AList.notMem_empty]

/-- Inserting pairs of distinct keys in turn: a key maps to its pair's value, or keeps the value
it had when no pair has it. -/
theorem lookup_foldl_insert_eq_some {xs : List (K × V)} (nodup : (xs.map Prod.fst).Nodup)
    (m : HashMap K V) (k : K) (v : V) :
    (xs.foldl (fun m e => m.insert e.1 e.2) m).lookup k = some v ↔
      (k, v) ∈ xs ∨ (k ∉ xs.map Prod.fst ∧ m.lookup k = some v) := by
  induction xs generalizing m with
  | nil => simp
  | cons e rest ih =>
    obtain ⟨fresh, restNodup⟩ := List.nodup_cons.mp nodup
    rw [List.foldl_cons, ih restNodup]
    obtain ⟨a, w⟩ := e
    by_cases here : k = a
    · subst here
      have absent : (k, v) ∉ rest := fun mem => fresh (List.mem_map.mpr ⟨_, mem, rfl⟩)
      simp only [AList.lookup_insert, Option.some_inj, List.mem_cons, List.map_cons, absent,
        fresh, not_false_eq_true, true_and, or_false, Prod.mk.injEq, false_or, not_true_eq_false,
        false_and]
      exact eq_comm
    · rw [AList.lookup_insert_ne here]
      simp [here]

/-- Collecting a walk of `m` with its values changed by `f` gives `m` with its values changed by
`f`, whatever the order of the walk. -/
theorem lookup_fromIter_of_isWalk {xs : List (K × V)} {m : HashMap K V} (walk : IsWalk xs m)
    (f : V → V) (k : K) :
    (fromIter (xs.map fun e => (e.1, f e.2))).lookup k = (m.lookup k).map f := by
  have nodup : ((xs.map fun e => (e.1, f e.2)).map Prod.fst).Nodup := by
    simpa [List.map_map, Function.comp_def] using walk.nodup_keys
  apply Option.ext
  intro v
  rw [fromIter, lookup_foldl_insert_eq_some nodup]
  simp only [List.mem_map, Prod.mk.injEq, AList.lookup_empty, reduceCtorEq, and_false, or_false,
    Option.map_eq_some_iff]
  constructor
  · rintro ⟨⟨a, w⟩, mem, rfl, rfl⟩
    exact ⟨w, walk.mem_iff.mp mem, rfl⟩
  · rintro ⟨w, found, rfl⟩
    exact ⟨(k, w), walk.mem_iff.mpr found, rfl, rfl⟩

end Libtelio.Lib.Collections
