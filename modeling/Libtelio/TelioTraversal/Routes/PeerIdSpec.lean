/- The rx peer ids of the database over runs of `insert`, `remove` and `flush`.

   An entry is always stored under the id the cache holds for its key, and the cache only
   grows, so a key keeps its first id through removal, flush and re-insertion
   (`rxPeerId_stable`). But the ids come from a `u16` counter that nothing reclaims: a run
   that meets 65537 keys gives the 65535th id 0 and the 65536th the id of the first, and
   `get_mut_entry_by_pid` then finds the later key only. -/

import Libtelio.Lib.Run
import Libtelio.TelioTraversal.Routes.RouteInvariant

set_option autoImplicit false
set_option relaxedAutoImplicit false

namespace Libtelio.TelioTraversal.Routes

open Libtelio.TelioCrypto Libtelio.TelioProto Libtelio.Lib Libtelio.Lib.Run

namespace Database

/-- The calls of a run on the database. -/
inductive DbOp
  | insert (pks : List PublicKey) (now : Instant)
  | remove (pk : PublicKey)
  | flush

def dbStep (db : Database) : DbOp → Database
  | .insert pks now => db.insert pks now
  | .remove pk => (db.remove pk).1
  | .flush => db.flush

/-- The body of the loop of `insert`: the key's id, then its new entry under it. -/
def insertKey (now : Instant) (db : Database) (key : PublicKey) : Database :=
  let (db, rxPeerId) := db.generateRxPeerId key
  { db with entries := db.entries.insert key rxPeerId (Entry.new rxPeerId key now) }

theorem insert_eq_foldl (db : Database) (pks : List PublicKey) (now : Instant) :
    db.insert pks now = (pks.filter fun key => !db.entries.containsKey key).foldl (insertKey now) db :=
  rfl

theorem generateRxPeerId_fresh {db : Database} {key : PublicKey}
    (fresh : db.pidCache.lookup key = none) :
    db.generateRxPeerId key =
      ({ db with pidCache := db.pidCache.insert key ⟨db.pidCnt⟩, pidCnt := db.pidCnt + 1 },
        ⟨db.pidCnt⟩) := by
  simp [generateRxPeerId, fresh]

/-- The id `generate_rx_peer_id` returns is the one the cache then holds. -/
theorem generateRxPeerId_cached (db : Database) (key : PublicKey) :
    (db.generateRxPeerId key).1.pidCache.lookup key = some (db.generateRxPeerId key).2 := by
  unfold generateRxPeerId
  split
  · assumption
  · simp

/-! ### Stability -/

/-- Every entry is stored under the id the cache holds for its key, and carries it. -/
def IdsCached (db : Database) : Prop :=
  ∀ key id entry, db.entries.valueMap.lookup key = some (id, entry) →
    db.pidCache.lookup key = some id ∧ entry.rxPeerId = id

/-- The cache of `db'` extends that of `db`. -/
def CacheGrows (db db' : Database) : Prop :=
  ∀ key id, db.pidCache.lookup key = some id → db'.pidCache.lookup key = some id

theorem CacheGrows.trans {db db' db'' : Database} (first : CacheGrows db db')
    (second : CacheGrows db' db'') : CacheGrows db db'' :=
  fun key id cached => second key id (first key id cached)

theorem cacheGrows_generateRxPeerId (db : Database) (key : PublicKey) :
    CacheGrows db (db.generateRxPeerId key).1 := by
  intro k id cached
  unfold generateRxPeerId
  split
  · exact cached
  · rename_i fresh
    have other : k ≠ key := by rintro rfl; simp [fresh] at cached
    simpa [AList.lookup_insert_ne other] using cached

theorem IdsCached.insertKey {db : Database} (cached : db.IdsCached) (now : Instant)
    (key : PublicKey) : (insertKey now db key).IdsCached := by
  intro k id entry found
  by_cases same : k = key
  · subst same
    simp only [Database.insertKey, MultiMap.insert, AList.lookup_insert, Option.some.injEq,
      Prod.mk.injEq] at found
    obtain ⟨rfl, rfl⟩ := found
    exact ⟨generateRxPeerId_cached db k, rfl⟩
  · simp only [Database.insertKey, MultiMap.insert, AList.lookup_insert_ne same,
      generateRxPeerId_entries] at found
    obtain ⟨inCache, carried⟩ := cached k id entry found
    exact ⟨cacheGrows_generateRxPeerId db key k id inCache, carried⟩

theorem cacheGrows_insertKey (db : Database) (now : Instant) (key : PublicKey) :
    CacheGrows db (insertKey now db key) :=
  cacheGrows_generateRxPeerId db key

theorem IdsCached.step {db : Database} (cached : db.IdsCached) :
    ∀ op, (dbStep db op).IdsCached ∧ CacheGrows db (dbStep db op)
  | .insert pks now => by
    rw [dbStep, insert_eq_foldl]
    -- the loop runs over a filtered list; the invariant holds for any list of keys
    generalize pks.filter _ = keys
    induction keys generalizing db with
    | nil => exact ⟨cached, fun _ _ => id⟩
    | cons key keys ih =>
      obtain ⟨kept, grows⟩ := ih (cached.insertKey now key)
      exact ⟨kept, (cacheGrows_insertKey db now key).trans grows⟩
  | .remove pk => by
    refine ⟨?_, fun _ _ => id⟩
    intro k id entry found
    simp only [dbStep, Database.remove, MultiMap.remove] at found
    split at found
    · by_cases same : k = pk
      · subst same
        simp at found
      · rw [AList.lookup_erase_ne same] at found
        exact cached k id entry found
    · exact cached k id entry found
  | .flush => by
    refine ⟨?_, fun _ _ => id⟩
    intro k id entry found
    simp [dbStep, Database.flush, MultiMap.new] at found

theorem idsCached_default : Database.default.IdsCached := by
  intro k id entry found
  simp [Database.default, MultiMap.new] at found

theorem idsCached_run (db : Database) (cached : db.IdsCached) (ops : List DbOp) :
    (run dbStep db ops).IdsCached ∧ CacheGrows db (run dbStep db ops) :=
  @run_invariant _ _ dbStep (fun d => d.IdsCached ∧ CacheGrows db d) db ⟨cached, fun _ _ => id⟩
    (fun _ op ⟨kept, grows⟩ => ⟨(kept.step op).1, grows.trans (kept.step op).2⟩) ops

/-- A key's rx peer id never changes: whatever calls follow, its entry, if it has one again,
carries the id it had. -/
theorem rxPeerId_stable (ops more : List DbOp) {key : PublicKey} {before after : Entry}
    (found : (run dbStep Database.default ops).entries.get key = some before)
    (again : (run dbStep Database.default (ops ++ more)).entries.get key = some after) :
    after.rxPeerId = before.rxPeerId := by
  obtain ⟨cachedBefore, -⟩ := idsCached_run Database.default idsCached_default ops
  obtain ⟨cachedAfter, grows⟩ := idsCached_run _ cachedBefore more
  rw [← run_append] at cachedAfter grows
  obtain ⟨⟨idBefore, entryBefore⟩, lookedBefore, rfl⟩ := Option.map_eq_some_iff.mp found
  obtain ⟨⟨idAfter, entryAfter⟩, lookedAfter, rfl⟩ := Option.map_eq_some_iff.mp again
  obtain ⟨inCacheBefore, carriedBefore⟩ := cachedBefore key _ _ lookedBefore
  obtain ⟨inCacheAfter, carriedAfter⟩ := cachedAfter key _ _ lookedAfter
  have same := (grows key _ inCacheBefore).symm.trans inCacheAfter
  simp only [Option.some.injEq] at same
  simp only [carriedBefore, carriedAfter, same]

/-- Two keys inserted; then the second removed, the database flushed and a new key inserted
before the second again. -/
def firstInsert : List DbOp := [.insert [PublicKey.filled 1, PublicKey.filled 2] 0]

def reinsertion : List DbOp :=
  [.remove (PublicKey.filled 2), .flush, .insert [PublicKey.filled 3, PublicKey.filled 2] 5]

theorem rxPeerId_stable_reinserted :
    ∃ before after,
      (run dbStep Database.default firstInsert).entries.get (PublicKey.filled 2) = some before ∧
      (run dbStep Database.default (firstInsert ++ reinsertion)).entries.get (PublicKey.filled 2) =
        some after ∧
      after.rxPeerId = before.rxPeerId := by
  obtain ⟨before, found⟩ := Option.isSome_iff_exists.mp
    (by decide : ((run dbStep Database.default firstInsert).entries.get (PublicKey.filled 2)).isSome)
  obtain ⟨after, again⟩ := Option.isSome_iff_exists.mp
    (by decide : ((run dbStep Database.default (firstInsert ++ reinsertion)).entries.get
      (PublicKey.filled 2)).isSome)
  exact ⟨before, after, found, again, rxPeerId_stable firstInsert reinsertion found again⟩

/-! ### The counter -/

section Fold

variable (now : Instant)

/-- A key the loop does not reach keeps its entry. -/
theorem foldl_insertKey_lookup_of_not_mem {key : PublicKey} :
    ∀ {keys : List PublicKey} {db : Database}, key ∉ keys →
      (keys.foldl (insertKey now) db).entries.valueMap.lookup key =
        db.entries.valueMap.lookup key
  | [], _, _ => rfl
  | k :: keys, db, absent => by
    simp only [List.mem_cons, not_or] at absent
    rw [List.foldl_cons, foldl_insertKey_lookup_of_not_mem absent.2]
    simp [Database.insertKey, MultiMap.insert, AList.lookup_insert_ne absent.1]

private theorem succ_add_ofNat (c : UInt16) (j : Nat) :
    c + 1 + UInt16.ofNat j = c + UInt16.ofNat (j + 1) := by
  rw [UInt16.ofNat_add, UInt16.ofNat_one, add_assoc, add_comm 1]

/-- Distinct fresh keys get the counter's values in turn, wrapping at 2^16. -/
theorem foldl_insertKey_lookup :
    ∀ {keys : List PublicKey} {db : Database}, keys.Nodup →
      (∀ k ∈ keys, db.pidCache.lookup k = none) → ∀ i (small : i < keys.length),
      (keys.foldl (insertKey now) db).entries.valueMap.lookup keys[i] =
        some (⟨db.pidCnt + UInt16.ofNat i⟩, Entry.new ⟨db.pidCnt + UInt16.ofNat i⟩ keys[i] now)
  | [], _, _, _, i, small => absurd small (Nat.not_lt_zero i)
  | key :: keys, db, nodup, fresh, i, small => by
    obtain ⟨absent, nodup⟩ := List.nodup_cons.mp nodup
    have first := generateRxPeerId_fresh (fresh key List.mem_cons_self)
    rw [List.foldl_cons]
    cases i with
    | zero =>
      rw [List.getElem_cons_zero, foldl_insertKey_lookup_of_not_mem now absent]
      simp [Database.insertKey, first, MultiMap.insert]
    | succ j =>
      have later : ∀ k ∈ keys, (insertKey now db key).pidCache.lookup k = none := by
        intro k member
        have other : k ≠ key := by rintro rfl; exact absent member
        simp [Database.insertKey, first, AList.lookup_insert_ne other,
          fresh k (List.mem_cons_of_mem key member)]
      rw [List.getElem_cons_succ,
        foldl_insertKey_lookup nodup later j (by simpa using small)]
      simp [Database.insertKey, first, succ_add_ofNat]

theorem insertKey_lookup_self (db : Database) (key : PublicKey) :
    (insertKey now db key).entries.valueMap.lookup key =
      some ((db.generateRxPeerId key).2, Entry.new (db.generateRxPeerId key).2 key now) := by
  simp [Database.insertKey, MultiMap.insert]

/-- The entry of the last key inserted is the one its id finds. -/
theorem insertKey_getAltWithKey (db : Database) (key : PublicKey) :
    (insertKey now db key).entries.getAltWithKey (db.generateRxPeerId key).2 =
      some (key, Entry.new (db.generateRxPeerId key).2 key now) := by
  simp [Database.insertKey, MultiMap.getAltWithKey, MultiMap.insert, MultiMap.get]

end Fold

/-- A key for each index below 2^24, the index in its first three bytes. -/
def keyOf (i : Nat) : PublicKey :=
  ⟨Vector.ofFn fun j => UInt8.ofNat (i / 256 ^ j.val)⟩

private theorem byte_keyOf (i : Nat) (j : Nat) (small : j < keySize) :
    ((keyOf i).bytes[j]).toNat = i / 256 ^ j % 256 := by
  simp [keyOf]

theorem keyOf_injective {i j : Nat} (hi : i < 2 ^ 24) (hj : j < 2 ^ 24)
    (same : keyOf i = keyOf j) : i = j := by
  have byte (n : Nat) (small : n < keySize) : i / 256 ^ n % 256 = j / 256 ^ n % 256 := by
    rw [← byte_keyOf i n small, ← byte_keyOf j n small, same]
  have zero := byte 0 (by decide)
  have one := byte 1 (by decide)
  have two := byte 2 (by decide)
  simp only [pow_zero, Nat.div_one, pow_one, Nat.reducePow] at zero one two
  omega

/-- `n` distinct keys, inserted at once into a new database. -/
def manyKeysDb (n : Nat) : Database :=
  Database.default.insert ((List.range n).map keyOf) 0

section ManyKeys

variable {n : Nat} (bound : n ≤ 2 ^ 24)
include bound

private theorem manyKeys_nodup : ((List.range n).map keyOf).Nodup := by
  apply List.Nodup.map_on _ List.nodup_range
  intro i member j member' same
  simp only [List.mem_range] at member member'
  exact keyOf_injective (by omega) (by omega) same

omit bound in
private theorem manyKeysDb_eq (n : Nat) :
    manyKeysDb n = ((List.range n).map keyOf).foldl (insertKey 0) Database.default := by
  rw [manyKeysDb, insert_eq_foldl]
  congr 1
  apply List.filter_eq_self.mpr
  intro key _
  simp [Database.default, MultiMap.new, MultiMap.containsKey]

private theorem manyKeysDb_lookup {i : Nat} (small : i < n) :
    (manyKeysDb n).entries.valueMap.lookup (keyOf i) =
      some (⟨1 + UInt16.ofNat i⟩, Entry.new ⟨1 + UInt16.ofNat i⟩ (keyOf i) 0) := by
  have found := @foldl_insertKey_lookup 0 _ Database.default (manyKeys_nodup bound)
    (fun _ _ => rfl) i (by rw [List.length_map, List.length_range]; exact small)
  rw [List.getElem_map, List.getElem_range] at found
  rw [manyKeysDb_eq]
  exact found

/-- Each of the keys gets the counter's value at its place, wrapping at 2^16. -/
theorem manyKeysDb_rxPeerId {i : Nat} (small : i < n) :
    ((manyKeysDb n).getEntryByPk (keyOf i)).map Entry.rxPeerId = .ok ⟨1 + UInt16.ofNat i⟩ := by
  simp [Database.getEntryByPk, MultiMap.get, manyKeysDb_lookup bound small, Except.map,
    Entry.new]

end ManyKeys

/-- The id of the last key inserted finds the last key. -/
theorem manyKeysDb_getEntryByPid {n : Nat} (bound : n + 1 ≤ 2 ^ 24) :
    ((manyKeysDb (n + 1)).getEntryByPid ⟨1 + UInt16.ofNat n⟩).map Entry.pk = .ok (keyOf n) := by
  obtain ⟨db, last⟩ : ∃ db, manyKeysDb (n + 1) = insertKey 0 db (keyOf n) := by
    refine ⟨((List.range n).map keyOf).foldl (insertKey 0) Database.default, ?_⟩
    rw [manyKeysDb_eq, List.range_succ, List.map_append, List.map_singleton, List.foldl_append,
      List.foldl_cons, List.foldl_nil]
  have id : (db.generateRxPeerId (keyOf n)).2 = ⟨1 + UInt16.ofNat n⟩ := by
    have found := manyKeysDb_lookup bound (Nat.lt_succ_self n)
    rw [last, insertKey_lookup_self] at found
    simp only [Option.some.injEq, Prod.mk.injEq] at found
    exact found.1
  simp [Database.getEntryByPid, last, ← id, insertKey_getAltWithKey, Except.map, Entry.new]

theorem rx_peer_id_counter_wraps :
    ((manyKeysDb 65537).getEntryByPk (keyOf 65535)).map Entry.rxPeerId = .ok ⟨0⟩ ∧
      ((manyKeysDb 65537).getEntryByPk (keyOf 0)).map Entry.rxPeerId = .ok ⟨1⟩ ∧
      ((manyKeysDb 65537).getEntryByPk (keyOf 65536)).map Entry.rxPeerId = .ok ⟨1⟩ ∧
      keyOf 0 ≠ keyOf 65536 ∧
      ((manyKeysDb 65537).getEntryByPid ⟨1⟩).map Entry.pk = .ok (keyOf 65536) := by
  have bound : 65537 ≤ 2 ^ 24 := by decide
  have wrapped : (⟨1 + UInt16.ofNat 65536⟩ : PeerId) = ⟨1⟩ := rfl
  refine ⟨?_, manyKeysDb_rxPeerId bound (by decide), ?_, fun same => ?_, ?_⟩
  · rw [manyKeysDb_rxPeerId bound (by decide)]
    rfl
  · rw [manyKeysDb_rxPeerId bound (by decide), wrapped]
  · exact absurd (keyOf_injective (by decide) (by decide) same) (by decide)
  · rw [← wrapped]
    exact manyKeysDb_getEntryByPid bound

end Database

end Libtelio.TelioTraversal.Routes
