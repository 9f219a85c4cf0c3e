/- Logs of events each of which concerns one key.

   A component that reports changes per key (a peer, a connection) writes a log in which the
   events of different keys interleave. What a reader of the log learns about one key is the
   subsequence of that key's events: `forKey`. These are the rules by which that subsequence is
   computed for a log built by appending batches, and by which a batch produced one key at a
   time, each key's events in its own slot, projects to the slot of one key. -/

import Mathlib.Data.List.Induction
import Mathlib.Data.List.Sigma

set_option autoImplicit false
set_option relaxedAutoImplicit false

namespace Libtelio.Lib.EventLog

variable {E K : Type*} [DecidableEq K] (key : E → K)

/-- The events of `log` that concern `k`, in the order of the log. -/
def forKey (log : List E) (k : K) : List E :=
  log.filter fun e => key e = k

/-- The last event of `log` that concerns `k`. -/
def lastFor (log : List E) (k : K) : Option E :=
  (forKey key log k).getLast?

variable {key}

@[simp] theorem forKey_nil (k : K) : forKey key [] k = [] := rfl

@[simp] theorem forKey_append (log more : List E) (k : K) :
    forKey key (log ++ more) k = forKey key log k ++ forKey key more k := by
  simp [forKey, List.filter_append]

theorem forKey_cons_of_key (e : E) (log : List E) (k : K) (h : key e = k) :
    forKey key (e :: log) k = e :: forKey key log k := by
  simp [forKey, h]

theorem forKey_cons_of_ne (e : E) (log : List E) (k : K) (h : key e ≠ k) :
    forKey key (e :: log) k = forKey key log k := by
  simp [forKey, h]

theorem forKey_eq_nil_iff (log : List E) (k : K) :
    forKey key log k = [] ↔ ∀ e ∈ log, key e ≠ k := by
  simp [forKey, List.filter_eq_nil_iff]

/-- A batch produced key by key, each slot holding only events of its own key, projects to the
slot of `k` when every key has one slot. -/
theorem forKey_flatMap (keys : List K) (slot : K → List E)
    (keyed : ∀ k e, e ∈ slot k → key e = k) (nodup : keys.Nodup) (k : K) :
    forKey key (keys.flatMap slot) k = if k ∈ keys then slot k else [] := by
  induction keys with
  | nil => simp
  | cons a rest ih =>
    obtain ⟨fresh, nodup⟩ := List.nodup_cons.mp nodup
    -- the slot of `a` projects to itself for `a` and to nothing for any other key
    have own : forKey key (slot a) k = if a = k then slot a else [] := by
      split
      · subst_vars
        exact List.filter_eq_self.mpr fun e he => by simpa using keyed _ e he
      · exact (forKey_eq_nil_iff _ _).mpr fun e he h => by simp_all [keyed a e he]
    rw [List.flatMap_cons, forKey_append, own, ih nodup]
    by_cases hk : a = k
    · subst hk
      simp [fresh]
    · simp [hk, Ne.symm hk]

/-- A batch of one event for each of distinct keys, carrying its key, projects to the event of
`k`. -/
theorem forKey_map (keys : List K) (f : K → E) (keyed : ∀ k, key (f k) = k) (nodup : keys.Nodup)
    (k : K) : forKey key (keys.map f) k = if k ∈ keys then [f k] else [] := by
  rw [List.map_eq_flatMap]
  exact forKey_flatMap keys (fun k => [f k]) (by simp [keyed]) nodup k

/-- A batch with one event for each entry of a map with distinct keys, carrying the entry's
key, projects to the event of the entry of `k`. -/
theorem forKey_map_entries {V : Type*} (entries : List (Σ _ : K, V)) (nodup : entries.NodupKeys)
    (f : (Σ _ : K, V) → E) (keyed : ∀ e ∈ entries, key (f e) = e.1) (k : K) :
    forKey key (entries.map f) k = ((entries.dlookup k).map fun v => f ⟨k, v⟩).toList := by
  induction entries with
  | nil => simp
  | cons entry rest ih =>
    obtain ⟨k', v⟩ := entry
    obtain ⟨fresh, nodup⟩ := List.nodupKeys_cons.mp nodup
    have rest_keyed : ∀ e ∈ rest, key (f e) = e.1 := fun e h => keyed e (List.mem_cons_of_mem _ h)
    have own : key (f ⟨k', v⟩) = k' := keyed _ (by simp)
    rw [List.map_cons]
    by_cases hk : k' = k
    · subst hk
      -- the entry of `k` is the only one: the rest has no event of `k`
      have none_after : rest.dlookup k' = none := List.dlookup_eq_none.mpr fresh
      rw [forKey_cons_of_key _ _ _ own, ih nodup rest_keyed, none_after, List.dlookup_cons_eq]
      simp
    · rw [forKey_cons_of_ne _ _ _ (by rw [own]; exact hk), ih nodup rest_keyed,
        List.dlookup_cons_ne _ _ (Ne.symm hk)]

@[simp] theorem lastFor_nil (k : K) : lastFor key [] k = none := rfl

theorem lastFor_append (log more : List E) (k : K) :
    lastFor key (log ++ more) k = (lastFor key more k).or (lastFor key log k) := by
  simp only [lastFor, forKey_append, List.getLast?_append]

/-- The last event of `k` splits the log: nothing after it concerns `k`. -/
theorem lastFor_split {log : List E} {k : K} {e : E} (h : lastFor key log k = some e) :
    key e = k ∧ ∃ before after, log = before ++ e :: after ∧ ∀ d ∈ after, key d ≠ k := by
  induction log using List.reverseRecOn with
  | nil => simp at h
  | append_singleton log d ih =>
    rw [lastFor_append] at h
    by_cases hd : key d = k
    · -- the last event of the log is the one of `k`
      have : d = e := by simpa [lastFor, forKey, hd] using h
      subst this
      exact ⟨hd, log, [], by simp, by simp⟩
    · have earlier : lastFor key log k = some e := by
        simpa [lastFor, forKey, hd] using h
      obtain ⟨he, before, after, rfl, none_after⟩ := ih earlier
      refine ⟨he, before, after ++ [d], by simp, ?_⟩
      intro d' hd'
      rcases List.mem_append.mp hd' with hd' | hd'
      · exact none_after d' hd'
      · simp_all

end Libtelio.Lib.EventLog
