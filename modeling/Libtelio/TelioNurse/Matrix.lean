/- The connectivity matrix of the heartbeat aggregation.

   For each node `i` of the walk of the index map, the loop goes through the same walk and stops
   at the first node of smaller index (`reached`). For each node `j` it passes that has another
   index, it writes the worse of the two links between `i` and `j`, unless that link is
   `WG | DERP` (`pairEntry`). So every entry pairs a smaller index with a larger one, and the
   links are those of `combined_map` (`mem_matrixEntries`). Every lookup of the loop finds its
   key: the padding and the local links cover every ordered pair of distinct internal nodes
   (`aggregate_isSome_iff`).

   Which pairs are listed depends on the walk. A pair is listed only if the node of larger index
   comes, in the walk, before every node whose index is smaller than the other's
   (`mem_reached_iff`). A walk in descending index order meets that for every pair
   (`mem_matrixEntries_of_descending`). Other walks miss pairs, even the ascending one
   (`connectivity_matrix_misses_pair`). -/

import Libtelio.TelioNurse.Heartbeat

set_option autoImplicit false
set_option relaxedAutoImplicit false

namespace Libtelio.TelioNurse

open Libtelio.TelioCrypto Libtelio.Lib.Collections Libtelio.Lib.Run

/-- The link `combined_map[&k]` reads where the map has one. -/
def linkIn (combined : HashMap (PublicKey × PublicKey) MeshLink) (k : PublicKey × PublicKey) :
    MeshLink :=
  (combined.lookup k).getD MeshLink.default

/-- The nodes the inner loop for `i` passes before its `break`. -/
def reached (i : PublicKey × UInt8) (walk : List (PublicKey × UInt8)) : List (PublicKey × UInt8) :=
  walk.takeWhile fun j => !decide (j.2 < i.2)

/-- The entry written for `i` and `j` under the links `link`, if any. -/
def pairEntry (link : PublicKey × PublicKey → MeshLink) (i j : PublicKey × UInt8) :
    Option MatrixEntry :=
  let min := (link (i.1, j.1)).min (link (j.1, i.1))
  if i.2 ≠ j.2 ∧ min.connectionState ≠ defaultState then some (i.2, j.2, min.connectionState.bits)
  else none

theorem mapM_eq_some_map {α β : Type} {f : α → Option β} {g : α → β} :
    ∀ {xs : List α}, (∀ x ∈ xs, f x = some (g x)) → xs.mapM f = some (xs.map g)
  | [], _ => rfl
  | x :: xs, agree => by
    rw [List.mapM_cons, agree x List.mem_cons_self,
      mapM_eq_some_map fun y mem => agree y (List.mem_cons_of_mem x mem)]
    rfl

section Row

variable (combined : HashMap (PublicKey × PublicKey) MeshLink)

theorem lookup_eq_linkIn {k : PublicKey × PublicKey} (mem : k ∈ combined) :
    combined.lookup k = some (linkIn combined k) :=
  lookup_eq_some_getD mem MeshLink.default

/-- The inner loop writes the entries of the nodes it reaches, as long as the links it reads are
there. -/
theorem matrixRow_eq (i : PublicKey × UInt8) :
    ∀ {walk : List (PublicKey × UInt8)},
      (∀ j ∈ walk, i.2 ≠ j.2 → (i.1, j.1) ∈ combined ∧ (j.1, i.1) ∈ combined) →
      matrixRow combined i walk = some ((reached i walk).filterMap (pairEntry (linkIn combined) i))
  | [], _ => rfl
  | j :: js, found => by
    have rest := matrixRow_eq i fun c mem => found c (List.mem_cons_of_mem j mem)
    rw [matrixRow, reached, List.takeWhile_cons]
    by_cases stop : j.2 < i.2
    · -- the `break`
      rw [if_pos stop]
      simp [stop]
    · have pass : (!decide (j.2 < i.2)) = true := by simpa using stop
      rw [if_neg stop, if_pos pass, List.filterMap_cons, ← reached]
      by_cases other : i.2 ≠ j.2
      · obtain ⟨there, back⟩ := found j List.mem_cons_self other
        rw [if_pos other, lookup_eq_linkIn combined there, lookup_eq_linkIn combined back]
        simp only [Option.bind_eq_bind, Option.bind_some, rest, pairEntry]
        by_cases keep : ((linkIn combined (i.1, j.1)).min
            (linkIn combined (j.1, i.1))).connectionState = defaultState
        · simp [keep]
        · simp [keep, other]
      · have same : i.2 = j.2 := not_not.mp other
        rw [if_neg other, rest, pairEntry]
        simp [same]

/-- The matrix loop writes, row by row, the entries of the nodes each row reaches. -/
theorem matrixEntries_eq {walk : List (PublicKey × UInt8)}
    (found : ∀ i ∈ walk, ∀ j ∈ walk, i.2 ≠ j.2 → (i.1, j.1) ∈ combined) :
    matrixEntries combined walk =
      some (walk.flatMap fun i => (reached i walk).filterMap (pairEntry (linkIn combined) i)) := by
  have rows : ∀ i ∈ walk, matrixRow combined i walk =
      some ((reached i walk).filterMap (pairEntry (linkIn combined) i)) := by
    intro i mem
    apply matrixRow_eq
    intro j memJ other
    exact ⟨found i mem j memJ other, found j memJ i mem (Ne.symm other)⟩
  rw [matrixEntries, mapM_eq_some_map rows, Option.map_some, List.flatMap_def]

end Row

/-- The inner loop reaches a node when it and every node before it has an index no smaller than
the row's. -/
theorem mem_reached_iff {i j : PublicKey × UInt8} {walk : List (PublicKey × UInt8)} :
    j ∈ reached i walk ↔
      ∃ pre post, walk = pre ++ j :: post ∧ ∀ c ∈ pre ++ [j], ¬ c.2 < i.2 := by
  constructor
  · intro mem
    induction walk with
    | nil => simp [reached] at mem
    | cons c cs ih =>
      rw [reached, List.takeWhile_cons] at mem
      split at mem
      · have keep : ¬ c.2 < i.2 := by simpa using ‹(!decide (c.2 < i.2)) = true›
        rcases List.mem_cons.mp mem with rfl | later
        · exact ⟨[], cs, rfl, by simpa using keep⟩
        · obtain ⟨pre, post, split, before⟩ := ih later
          refine ⟨c :: pre, post, by rw [split, List.cons_append], ?_⟩
          intro d memD
          rcases List.mem_cons.mp memD with rfl | rest
          · exact keep
          · exact before d rest
      · simp at mem
  · rintro ⟨pre, post, rfl, before⟩
    have head : ∀ c ∈ pre, (!decide (c.2 < i.2)) = true := fun c mem => by
      simpa using before c (List.mem_append_left _ mem)
    have self : ¬ j.2 < i.2 := before j (by simp)
    rw [reached, List.takeWhile_append_of_pos head]
    simp [self]

section Entries

variable {combined : HashMap (PublicKey × PublicKey) MeshLink} {walk : List (PublicKey × UInt8)}
  {entries : List MatrixEntry}

/-- The matrix lists exactly the entries of the pairs the loop reaches. -/
theorem mem_matrixEntries (matrix : matrixEntries combined walk = some entries)
    (found : ∀ i ∈ walk, ∀ j ∈ walk, i.2 ≠ j.2 → (i.1, j.1) ∈ combined) (e : MatrixEntry) :
    e ∈ entries ↔ ∃ i ∈ walk, ∃ j ∈ reached i walk, pairEntry (linkIn combined) i j = some e := by
  rw [matrixEntries_eq combined found, Option.some_inj] at matrix
  subst matrix
  simp only [List.mem_flatMap, List.mem_filterMap]

/-- An entry pairs a smaller index with a larger one, in a state other than the default. -/
theorem pairEntry_spec {link : PublicKey × PublicKey → MeshLink} {i j : PublicKey × UInt8}
    {e : MatrixEntry} (entry : pairEntry link i j = some e) :
    e = (i.2, j.2, ((link (i.1, j.1)).min (link (j.1, i.1))).connectionState.bits) ∧ i.2 ≠ j.2 ∧
      ((link (i.1, j.1)).min (link (j.1, i.1))).connectionState ≠ defaultState := by
  simp only [pairEntry] at entry
  split at entry
  · exact ⟨(Option.some_inj.mp entry).symm, ‹_ ∧ _›.1, ‹_ ∧ _›.2⟩
  · simp at entry

theorem lt_of_mem_matrixEntries (matrix : matrixEntries combined walk = some entries)
    (found : ∀ i ∈ walk, ∀ j ∈ walk, i.2 ≠ j.2 → (i.1, j.1) ∈ combined) {e : MatrixEntry}
    (mem : e ∈ entries) : e.1 < e.2.1 := by
  obtain ⟨i, -, j, reach, entry⟩ := (mem_matrixEntries matrix found e).mp mem
  obtain ⟨rfl, other, -⟩ := pairEntry_spec entry
  obtain ⟨pre, post, -, before⟩ := mem_reached_iff.mp reach
  have notBelow : ¬ j.2.toNat < i.2.toNat :=
    fun below => before j (by simp) (UInt8.lt_iff_toNat_lt.mpr below)
  have apart : i.2.toNat ≠ j.2.toNat := fun same => other (UInt8.toNat_inj.mp same)
  show i.2 < j.2
  exact UInt8.lt_iff_toNat_lt.mpr (by omega)

/-- A walk in descending index order reaches, from each node, every node of larger index. -/
theorem reached_of_descending (i : PublicKey × UInt8) :
    ∀ {walk : List (PublicKey × UInt8)}, walk.Pairwise (fun a b => b.2 ≤ a.2) →
      reached i walk = walk.filter fun j => !decide (j.2 < i.2)
  | [], _ => rfl
  | c :: cs, sorted => by
    obtain ⟨below, sortedRest⟩ := List.pairwise_cons.mp sorted
    rw [reached, List.takeWhile_cons, List.filter_cons]
    by_cases keep : (!decide (c.2 < i.2)) = true
    · rw [if_pos keep, if_pos keep, ← reached, reached_of_descending i sortedRest]
    · -- a node of smaller index: every later one is smaller still
      rw [if_neg keep, if_neg keep]
      have stop : c.2.toNat < i.2.toNat := UInt8.lt_iff_toNat_lt.mp (by simpa using keep)
      refine (List.filter_eq_nil_iff.mpr fun d mem => ?_).symm
      have le : d.2.toNat ≤ c.2.toNat := UInt8.le_iff_toNat_le.mp (below d mem)
      have : d.2 < i.2 := UInt8.lt_iff_toNat_lt.mpr (by omega)
      simpa using this

/-- In a walk in descending index order the matrix lists every pair whose link is not the
default. -/
theorem mem_matrixEntries_of_descending (matrix : matrixEntries combined walk = some entries)
    (found : ∀ i ∈ walk, ∀ j ∈ walk, i.2 ≠ j.2 → (i.1, j.1) ∈ combined)
    (descending : walk.Pairwise fun a b => b.2 ≤ a.2) {i j : PublicKey × UInt8}
    (memI : i ∈ walk) (memJ : j ∈ walk) (lt : i.2 < j.2) {e : MatrixEntry}
    (entry : pairEntry (linkIn combined) i j = some e) : e ∈ entries := by
  have reach : j ∈ reached i walk := by
    have notBelow : ¬ j.2 < i.2 := fun below => by
      rw [UInt8.lt_iff_toNat_lt] at below lt
      omega
    rw [reached_of_descending i descending, List.mem_filter]
    exact ⟨memJ, by simpa using notBelow⟩
  exact (mem_matrixEntries matrix found e).mpr ⟨i, memI, j, reach, entry⟩

end Entries

section Aggregate

theorem sortKeys_perm (keys : List PublicKey) : (sortKeys keys).Perm keys :=
  List.perm_insertionSort _ keys

theorem mem_of_mem_sortKeys_filter {V : Type} {m : HashMap PublicKey V} {p : PublicKey → Bool}
    {k : PublicKey} (mem : k ∈ sortKeys (m.keys.filter p)) : k ∈ m :=
  AList.mem_keys.mpr (List.mem_of_mem_filter ((sortKeys_perm _).mem_iff.mp mem))

theorem sortKeys_filter_nodup {V : Type} (m : HashMap PublicKey V) (p : PublicKey → Bool) :
    (sortKeys (m.keys.filter p)).Nodup :=
  (sortKeys_perm _).nodup_iff.mpr ((AList.keys_nodup m).filter p)

/-- The fold of the index map from position `n` on, over keys not yet in the map. -/
theorem lookup_foldl_orInsert_zipIdx (k : PublicKey) :
    ∀ (l : List PublicKey) (n : Nat) (m : HashMap PublicKey UInt8), l.Nodup → (∀ a ∈ l, a ∉ m) →
      ((l.zipIdx n).foldl (fun m e => orInsert e.1 (UInt8.ofNat e.2) m) m).lookup k =
        if k ∈ l then some (UInt8.ofNat (n + l.idxOf k)) else m.lookup k
  | [], _, _, _, _ => by simp
  | a :: l, n, m, nodup, fresh => by
    obtain ⟨notLater, nodupRest⟩ := List.nodup_cons.mp nodup
    have insertA : orInsert a (UInt8.ofNat n) m = m.insert a (UInt8.ofNat n) :=
      if_neg (fresh a List.mem_cons_self)
    have freshRest : ∀ b ∈ l, b ∉ m.insert a (UInt8.ofNat n) := by
      intro b mem inserted
      rcases (AList.mem_insert m).mp inserted with same | old
      · exact notLater (same ▸ mem)
      · exact fresh b (List.mem_cons_of_mem a mem) old
    rw [List.zipIdx_cons, List.foldl_cons, insertA,
      lookup_foldl_orInsert_zipIdx k l (n + 1) _ nodupRest freshRest]
    by_cases here : k = a
    · subst here
      rw [if_neg notLater, AList.lookup_insert, if_pos List.mem_cons_self, List.idxOf_cons_self,
        Nat.add_zero]
    · rw [AList.lookup_insert_ne here]
      by_cases later : k ∈ l
      · rw [if_pos later, if_pos (List.mem_cons_of_mem a later), List.idxOf_cons_ne l (Ne.symm here),
          Nat.succ_eq_add_one, Nat.add_right_comm, Nat.add_assoc]
      · rw [if_neg later, if_neg (by simp [here, later])]

/-- A key of the sorted internal keys is under its position. -/
theorem lookup_indexMap {internal : List PublicKey} (nodup : internal.Nodup) (k : PublicKey) :
    (indexMap internal).lookup k =
      if k ∈ internal then some (UInt8.ofNat (internal.idxOf k)) else none := by
  rw [indexMap, lookup_foldl_orInsert_zipIdx k internal 0 ∅ nodup fun a _ => AList.notMem_empty a,
    Nat.zero_add, AList.lookup_empty]

theorem mem_indexMap {internal : List PublicKey} (nodup : internal.Nodup) {k : PublicKey} :
    k ∈ indexMap internal ↔ k ∈ internal := by
  rw [← AList.lookup_isSome, lookup_indexMap nodup]
  split <;> simp_all

/-- The padding adds a link from every key but ours to every other key. -/
theorem mem_padExternalLinks {pk : PublicKey} {keys : List PublicKey}
    {links : HashMap (PublicKey × PublicKey) MeshLink} {k : PublicKey × PublicKey} :
    k ∈ padExternalLinks pk keys links ↔
      k ∈ links ∨ (k.1 ≠ pk ∧ k.1 ∈ keys ∧ k.2 ∈ keys ∧ k.1 ≠ k.2) := by
  -- the inner loop for `i` adds the links from `i`, the outer one those from each `i`
  have inner : ∀ (i : PublicKey) (js : List PublicKey) (links : HashMap (PublicKey × PublicKey) MeshLink),
      k ∈ js.foldl (fun links j =>
        if i ≠ pk ∧ i ≠ j then orInsert (i, j) MeshLink.default links else links) links ↔
        k ∈ links ∨ (k.1 = i ∧ i ≠ pk ∧ k.2 ∈ js ∧ i ≠ k.2) := by
    intro i js
    induction js with
    | nil => simp
    | cons j js ih =>
      intro links
      rw [List.foldl_cons, ih]
      split
      · rw [mem_orInsert]
        grind
      · grind
  have outer : ∀ (is : List PublicKey) (links : HashMap (PublicKey × PublicKey) MeshLink),
      k ∈ is.foldl (fun links i => keys.foldl (fun links j =>
        if i ≠ pk ∧ i ≠ j then orInsert (i, j) MeshLink.default links else links) links) links ↔
        k ∈ links ∨ (k.1 ≠ pk ∧ k.1 ∈ is ∧ k.2 ∈ keys ∧ k.1 ≠ k.2) := by
    intro is
    induction is with
    | nil => simp
    | cons i is ih =>
      intro links
      rw [List.foldl_cons, ih, inner]
      grind
  exact outer keys links

/-- `combined_map` holds our links to the internal nodes and the external links. -/
theorem mem_combinedLinks {pk : PublicKey} {internal : List PublicKey} {node : PublicKey → NodeInfo}
    {ext : HashMap (PublicKey × PublicKey) MeshLink} {k : PublicKey × PublicKey} :
    k ∈ combinedLinks pk internal node ext ↔ (k.1 = pk ∧ k.2 ∈ internal) ∨ k ∈ ext := by
  simp only [combinedLinks, mem_fromIter, List.map_append, map_fst_toPairs, List.mem_append,
    ← AList.mem_keys, List.map_map, List.mem_map, Function.comp_apply]
  constructor
  · rintro (⟨a, mem, rfl⟩ | external)
    · exact .inl ⟨rfl, mem⟩
    · exact .inr external
  · rintro (⟨own, mem⟩ | external)
    · exact .inl ⟨k.2, mem, by rw [← own]⟩
    · exact .inr external

/-- Every lookup of the matrix loop finds its key: a walk of the index map pairs distinct
internal nodes, whose links are our local ones or padded external ones. -/
theorem combinedLinks_found {pk : PublicKey} {internal : List PublicKey}
    {node : PublicKey → NodeInfo} {ext : HashMap (PublicKey × PublicKey) MeshLink}
    {walk : List (PublicKey × UInt8)} (nodup : internal.Nodup) (isWalk : IsWalk walk (indexMap internal))
    (padded : ∀ a ∈ internal, ∀ b ∈ internal, a ≠ pk → a ≠ b → (a, b) ∈ ext) :
    ∀ i ∈ walk, ∀ j ∈ walk, i.2 ≠ j.2 → (i.1, j.1) ∈ combinedLinks pk internal node ext := by
  intro i memI j memJ other
  have internalOf : ∀ c ∈ walk, c.1 ∈ internal := fun c mem =>
    (mem_indexMap nodup).mp (AList.lookup_isSome.mp (by rw [isWalk.mem_iff.mp mem]; rfl))
  have apart : i.1 ≠ j.1 := fun same => other (congrArg Prod.snd (isWalk.eq_of_fst_eq memI memJ same))
  rw [mem_combinedLinks]
  by_cases own : i.1 = pk
  · exact .inl ⟨own, internalOf j memJ⟩
  · exact .inr (padded _ (internalOf i memI) _ (internalOf j memJ) own apart)

/-- The padding covers every pair of distinct internal nodes but those from our own key. -/
theorem padExternalLinks_padded {pk : PublicKey} {internal : List PublicKey} (nodup : internal.Nodup)
    (ext : HashMap (PublicKey × PublicKey) MeshLink) :
    ∀ a ∈ internal, ∀ b ∈ internal, a ≠ pk → a ≠ b →
      (a, b) ∈ padExternalLinks pk (indexMap internal).keys ext := by
  intro a memA b memB own apart
  have keyed : ∀ c ∈ internal, c ∈ (indexMap internal).keys := fun c mem =>
    AList.mem_keys.mp ((mem_indexMap nodup).mpr mem)
  exact mem_padExternalLinks.mpr (.inr ⟨own, keyed a memA, keyed b memB, apart⟩)

/-- The aggregation panics only where the election does: every lookup of the fingerprints and
of the matrix finds its key. -/
theorem aggregate_eq_none_iff (order : IterationOrder) (s : Analytics) :
    aggregate order s = none ↔
      electMeshnetId (order.heatmap (idHeatmap s.collectedMeshnetIds s.configLocalNodes))
        s.collectedMeshnetIds = none := by
  constructor
  · intro panic
    by_contra elects
    obtain ⟨meshnetId, elected⟩ := Option.ne_none_iff_exists'.mp elects
    simp only [aggregate, elected, Option.bind_eq_bind, Option.bind_some,
      Option.bind_eq_none_iff] at panic
    have fingerprinted := panic _ (mapM_eq_some_map fun k mem =>
      lookup_eq_some_getD (mem_of_mem_sortKeys_filter mem) [])
    have listed := fingerprinted _ (matrixEntries_eq _ (combinedLinks_found
      (sortKeys_filter_nodup _ _) (order.index_walk _)
      (padExternalLinks_padded (sortKeys_filter_nodup _ _) _)))
    simp at listed
  · intro panic
    simp [aggregate, panic]

end Aggregate

/-- The walks in the model's order, but the index map's reversed, which is ascending index order:
`indexMap` keeps the key inserted last first. -/
def ascendingIndexWalk : IterationOrder where
  heatmap := toPairs
  heatmap_walk := isWalk_toPairs
  index := fun m => (toPairs m).reverse
  index_walk := isWalk_reverse_toPairs

/-- A collection cycle with three peers of one meshnet, each of which answers with the meshnet id,
a fingerprint and no links. -/
def threeNodeCycle : List Input :=
  let response (fingerprint : String) :=
    HeartbeatMessage.response (List.replicate 16 7) fingerprint.toList []
  [.configUpdate [PublicKey.filled 1, PublicKey.filled 2, PublicKey.filled 3],
    .setNodes [PublicKey.filled 1, PublicKey.filled 2, PublicKey.filled 3] [], .tick,
    .receive (PublicKey.filled 1) (response "a"), .receive (PublicKey.filled 2) (response "b"),
    .receive (PublicKey.filled 3) (response "c")]

theorem connectivity_matrix_misses_pair (publicOf : SecretKey → PublicKey) :
    let start := Analytics.new (PublicKey.filled 0) ⟨Vector.replicate 16 7⟩ ⟨60, "self".toList⟩
    Guarded (step publicOf) (fun t a => allowed t a = true) (some start) threeNodeCycle ∧
      ∃ s s' info, run (step publicOf) (some start) threeNodeCycle = some s ∧
        enabled s (.collectTimeout ascendingIndexWalk) = true ∧
        aggregate ascendingIndexWalk s = some (s', info) ∧
        info.internalSortedPublicKeys = [PublicKey.filled 1, PublicKey.filled 2, PublicKey.filled 3] ∧
        pairEntry (linkIn (combinedLinks s.publicKey info.internalSortedPublicKeys
            (fun k => (s'.localNodes.lookup k).getD NodeInfo.default) s'.externalLinks))
          (PublicKey.filled 2, 1) (PublicKey.filled 3, 2) = some (1, 2, 0) ∧
        info.connectivityMatrix = "0:1:0,0:2:0".toList :=
  ⟨⟨rfl, rfl, rfl, rfl, rfl, rfl, trivial⟩, _, _, _, rfl, rfl, rfl, rfl, rfl, rfl⟩

end Libtelio.TelioNurse
