/- A map with two keys, as the `multi_map` crate's `MultiMap<K1, K2, V>` is built: a value map
   from the primary key to the secondary key and the value, and a key map from the secondary
   key back to the primary one.

   `All P m` says every stored value satisfies `P`; each operation keeps it, and so does a
   pass over all entries that updates each in turn and may stop at the first error, the
   shape of every `for (_, (_, entry)) in map.iter_mut()` loop with `?` in its body. -/

import Mathlib.Data.List.AList

set_option autoImplicit false
set_option relaxedAutoImplicit false

namespace Libtelio.Lib

/-- `MultiMap<K1, K2, V>`. -/
structure MultiMap (K1 K2 V : Type) [DecidableEq K1] [DecidableEq K2] where
  valueMap : AList (fun _ : K1 => K2 × V)
  keyMap : AList (fun _ : K2 => K1)

namespace MultiMap

variable {K1 K2 V ε : Type} [DecidableEq K1] [DecidableEq K2]

/-- `MultiMap::new`. -/
def new : MultiMap K1 K2 V := ⟨∅, ∅⟩

/-- `MultiMap::insert`: the value under both keys. -/
def insert (m : MultiMap K1 K2 V) (keyOne : K1) (keyTwo : K2) (value : V) : MultiMap K1 K2 V :=
  ⟨m.valueMap.insert keyOne (keyTwo, value), m.keyMap.insert keyTwo keyOne⟩

/-- `MultiMap::get`. -/
def get (m : MultiMap K1 K2 V) (key : K1) : Option V :=
  (m.valueMap.lookup key).map Prod.snd

/-- `MultiMap::contains_key`. -/
def containsKey (m : MultiMap K1 K2 V) (key : K1) : Bool :=
  (m.valueMap.lookup key).isSome

/-- `MultiMap::get_alt_with_key`: the primary key and the value stored under a secondary key. -/
def getAltWithKey (m : MultiMap K1 K2 V) (key : K2) : Option (K1 × V) :=
  match m.keyMap.lookup key with
  | some keyOne => (m.get keyOne).map fun value => (keyOne, value)
  | none => none

/-- `MultiMap::remove`: the value and its secondary key go. -/
def remove (m : MultiMap K1 K2 V) (key : K1) : MultiMap K1 K2 V × Option V :=
  match m.valueMap.lookup key with
  | some (keyTwo, value) => (⟨m.valueMap.erase key, m.keyMap.erase keyTwo⟩, some value)
  | none => (m, none)

/-- Write back through `get_mut`: the value under `key`, if any, replaced by `f` of it. -/
def modify (m : MultiMap K1 K2 V) (key : K1) (f : V → V) : MultiMap K1 K2 V :=
  match m.valueMap.lookup key with
  | some (keyTwo, value) => ⟨m.valueMap.insert key (keyTwo, f value), m.keyMap⟩
  | none => m

/-- The primary keys, in iteration order. -/
def keys (m : MultiMap K1 K2 V) : List K1 := m.valueMap.keys

/-- A pass over the keys `ks`: each stored value is replaced by the first component of `f`,
and the pass stops after the first entry whose second component is an error. -/
def updateEachFrom (f : K1 → V → V × Except ε Unit) :
    List K1 → MultiMap K1 K2 V → MultiMap K1 K2 V × Except ε Unit
  | [], m => (m, .ok ())
  | key :: ks, m =>
    match m.valueMap.lookup key with
    | none => updateEachFrom f ks m
    | some (keyTwo, value) =>
      let m' : MultiMap K1 K2 V := ⟨m.valueMap.insert key (keyTwo, (f key value).1), m.keyMap⟩
      match (f key value).2 with
      | .ok () => updateEachFrom f ks m'
      | .error e => (m', .error e)

/-- `for (key, (_, value)) in m.iter_mut() { ... ? }`: the pass over all keys. -/
def updateEach (f : K1 → V → V × Except ε Unit) (m : MultiMap K1 K2 V) :
    MultiMap K1 K2 V × Except ε Unit :=
  updateEachFrom f m.keys m

/-- Every stored value satisfies `P`. -/
def All (P : V → Prop) (m : MultiMap K1 K2 V) : Prop :=
  ∀ keyOne keyTwo value, m.valueMap.lookup keyOne = some (keyTwo, value) → P value

section All

variable {P : V → Prop}

theorem all_new : All P (new : MultiMap K1 K2 V) := by
  intro keyOne keyTwo value found
  simp [new] at found

theorem all_insert {m : MultiMap K1 K2 V} (all : All P m) (keyOne : K1) (keyTwo : K2) {value : V}
    (holds : P value) : All P (m.insert keyOne keyTwo value) := by
  intro k k2 v found
  by_cases same : k = keyOne
  · subst same
    simp only [insert, AList.lookup_insert, Option.some.injEq, Prod.mk.injEq] at found
    rw [← found.2]
    exact holds
  · rw [insert, AList.lookup_insert_ne same] at found
    exact all k k2 v found

theorem all_remove {m : MultiMap K1 K2 V} (all : All P m) (key : K1) : All P (m.remove key).1 := by
  unfold remove
  split
  · intro k k2 v found
    by_cases same : k = key
    · subst same
      simp at found
    · rw [AList.lookup_erase_ne same] at found
      exact all k k2 v found
  · exact all

theorem all_modify {m : MultiMap K1 K2 V} (all : All P m) (key : K1) {f : V → V}
    (keep : ∀ value, P value → P (f value)) : All P (m.modify key f) := by
  unfold modify
  split
  · rename_i keyTwo value found
    intro k k2 v lookedUp
    by_cases same : k = key
    · subst same
      simp only [AList.lookup_insert, Option.some.injEq, Prod.mk.injEq] at lookedUp
      rw [← lookedUp.2]
      exact keep value (all k keyTwo value found)
    · rw [AList.lookup_insert_ne same] at lookedUp
      exact all k k2 v lookedUp
  · exact all

/-- A pass whose update keeps `P` of every value keeps `All P`, wherever it stops. -/
theorem all_updateEachFrom {f : K1 → V → V × Except ε Unit}
    (keep : ∀ key value, P value → P (f key value).1) :
    ∀ (ks : List K1) (m : MultiMap K1 K2 V), All P m → All P (updateEachFrom f ks m).1 := by
  intro ks
  induction ks with
  | nil => exact fun m all => all
  | cons key ks ih =>
    intro m all
    unfold updateEachFrom
    split
    · exact ih m all
    · rename_i keyTwo value found
      -- the entry written back satisfies `P`, whichever way the pass goes on
      have written : All P (⟨m.valueMap.insert key (keyTwo, (f key value).1), m.keyMap⟩ :
          MultiMap K1 K2 V) :=
        all_insert all key keyTwo (keep key value (all key keyTwo value found))
      split
      · exact ih _ written
      · exact written

theorem all_updateEach {f : K1 → V → V × Except ε Unit}
    (keep : ∀ key value, P value → P (f key value).1) {m : MultiMap K1 K2 V} (all : All P m) :
    All P (updateEach f m).1 :=
  all_updateEachFrom keep m.keys m all

/-- A value read through the primary key satisfies `P`. -/
theorem All.of_get {m : MultiMap K1 K2 V} (all : All P m) {key : K1} {value : V}
    (found : m.get key = some value) : P value := by
  unfold get at found
  obtain ⟨⟨keyTwo, v⟩, lookedUp, rfl⟩ := Option.map_eq_some_iff.mp found
  exact all key keyTwo v lookedUp

/-- A value read through the secondary key satisfies `P`. -/
theorem All.of_getAltWithKey {m : MultiMap K1 K2 V} (all : All P m) {key : K2} {keyOne : K1}
    {value : V} (found : m.getAltWithKey key = some (keyOne, value)) : P value := by
  unfold getAltWithKey at found
  split at found
  · obtain ⟨v, got, same⟩ := Option.map_eq_some_iff.mp found
    cases same
    exact all.of_get got
  · cases found

end All

@[simp] theorem get_modify_self (m : MultiMap K1 K2 V) (key : K1) (f : V → V) :
    (m.modify key f).get key = (m.get key).map f := by
  unfold modify get
  split <;> simp_all

end MultiMap

end Libtelio.Lib
