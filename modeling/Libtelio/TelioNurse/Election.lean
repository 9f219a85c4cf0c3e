/- The election of the meshnet id in the heartbeat aggregation.

   The heatmap holds, for each id, the number of config-local keys among the collected ones
   that reported it (`lookup_idHeatmap`). The first `max_by` takes an id of greatest count. The
   second `max_by`, over the keys, looks only for a key that reported that same id, so it
   returns the first pass's id (`electMeshnetId_eq`). The tie-break by key the source's comment
   describes therefore never happens. Over the walks of the heatmap, the election can return
   exactly the ids of greatest count (`electable_iff`), and in a tie the walk decides
   (`meshnet_election_depends_on_walk`).

   Both `expect`s hold on every run of the task. The task's own key is always config-local,
   and while it collects, its key is among the collected ones (`Inv`). So in the collecting
   state, where the aggregation runs, the heatmap is not empty and nothing else can panic
   (`run_inv`). -/

import Libtelio.TelioNurse.Matrix

set_option autoImplicit false
set_option relaxedAutoImplicit false

namespace Libtelio.TelioNurse

open Libtelio.TelioCrypto Libtelio.Lib.Collections Libtelio.Lib.MaxBy Libtelio.Lib.Run

/-- The number of config-local keys of `collected` that reported `id`. -/
def reporters (collected : HashMap PublicKey Uuid) (configLocalNodes : Finset PublicKey)
    (id : Uuid) : Nat :=
  ((toPairs collected).filter fun e => e.1 ∈ configLocalNodes ∧ e.2 = id).length

section Heatmap

variable (configLocalNodes : Finset PublicKey) (id : Uuid)

theorem getD_lookup_foldl_countReport :
    ∀ (xs : List (PublicKey × Uuid)) (heatmap : HashMap Uuid Nat),
      ((xs.foldl (countReport configLocalNodes) heatmap).lookup id).getD 0 =
        (heatmap.lookup id).getD 0 +
          (xs.filter fun e => e.1 ∈ configLocalNodes ∧ e.2 = id).length
  | [], _ => by simp
  | e :: xs, heatmap => by
    rw [List.foldl_cons, getD_lookup_foldl_countReport xs, List.filter_cons]
    unfold countReport
    by_cases config : e.1 ∈ configLocalNodes
    · rw [if_pos config, lookup_modify]
      by_cases same : id = e.2
      · subst same
        simp [config]
        omega
      · simp [same, Ne.symm same]
    · rw [if_neg config]
      simp [config]

theorem mem_foldl_countReport :
    ∀ (xs : List (PublicKey × Uuid)) (heatmap : HashMap Uuid Nat),
      id ∈ xs.foldl (countReport configLocalNodes) heatmap ↔
        id ∈ heatmap ∨ ∃ e ∈ xs, e.1 ∈ configLocalNodes ∧ e.2 = id
  | [], _ => by simp
  | e :: xs, heatmap => by
    rw [List.foldl_cons, mem_foldl_countReport xs]
    unfold countReport
    by_cases config : e.1 ∈ configLocalNodes
    · rw [if_pos config, mem_modify]
      constructor
      · rintro ((rfl | old) | ⟨c, mem, reported⟩)
        · exact .inr ⟨e, List.mem_cons_self, config, rfl⟩
        · exact .inl old
        · exact .inr ⟨c, List.mem_cons_of_mem e mem, reported⟩
      · rintro (old | ⟨c, mem, reported⟩)
        · exact .inl (.inr old)
        · rcases List.mem_cons.mp mem with rfl | later
          · exact .inl (.inl reported.2.symm)
          · exact .inr ⟨c, later, reported⟩
    · rw [if_neg config]
      constructor
      · rintro (old | ⟨c, mem, reported⟩)
        · exact .inl old
        · exact .inr ⟨c, List.mem_cons_of_mem e mem, reported⟩
      · rintro (old | ⟨c, mem, reported⟩)
        · exact .inl old
        · rcases List.mem_cons.mp mem with rfl | later
          · exact absurd reported.1 config
          · exact .inr ⟨c, later, reported⟩

variable (collected : HashMap PublicKey Uuid)

/-- The heatmap counts the config-local reporters of each id, and holds only ids with one. -/
theorem lookup_idHeatmap :
    (idHeatmap collected configLocalNodes).lookup id =
      if reporters collected configLocalNodes id = 0 then none
      else some (reporters collected configLocalNodes id) := by
  have count := getD_lookup_foldl_countReport configLocalNodes id (toPairs collected) ∅
  have mem := mem_foldl_countReport configLocalNodes id (toPairs collected) ∅
  rw [AList.lookup_empty, Option.getD_none, Nat.zero_add] at count
  rw [← idHeatmap] at count mem
  cases found : (idHeatmap collected configLocalNodes).lookup id with
  | none =>
    rw [found, Option.getD_none] at count
    rw [reporters, ← count, if_pos rfl]
  | some n =>
    rw [found, Option.getD_some] at count
    obtain ⟨e, memE, reported⟩ : ∃ e ∈ toPairs collected, e.1 ∈ configLocalNodes ∧ e.2 = id := by
      rcases mem.mp (AList.lookup_isSome.mp (by rw [found]; rfl)) with empty | some
      · exact absurd empty (AList.notMem_empty id)
      · exact some
    have positive : 0 < reporters collected configLocalNodes id :=
      List.length_pos_of_mem (List.mem_filter.mpr ⟨memE, by simpa using reported⟩)
    rw [reporters, ← count] at positive ⊢
    rw [if_neg (by omega)]

end Heatmap

section Election

variable {collected : HashMap PublicKey Uuid} {configLocalNodes : Finset PublicKey}
  {walk : List (Uuid × Nat)}

/-- An entry of a walk of the heatmap is an id and its number of reporters. -/
theorem reporters_of_mem_walk (isWalk : IsWalk walk (idHeatmap collected configLocalNodes))
    {e : Uuid × Nat} (mem : e ∈ walk) :
    e.2 = reporters collected configLocalNodes e.1 ∧ reporters collected configLocalNodes e.1 ≠ 0 := by
  have found := isWalk.mem_iff.mp mem
  rw [lookup_idHeatmap] at found
  split at found
  · simp at found
  · exact ⟨(Option.some_inj.mp found).symm, ‹_›⟩

/-- An id with a reporter is in every walk of the heatmap, with its count. -/
theorem mem_walk_of_reporters (isWalk : IsWalk walk (idHeatmap collected configLocalNodes))
    {id : Uuid} (reported : reporters collected configLocalNodes id ≠ 0) :
    (id, reporters collected configLocalNodes id) ∈ walk := by
  apply isWalk.mem_iff.mpr
  rw [lookup_idHeatmap, if_neg reported]

/-- The second pass finds a key that reported the first pass's id, so the election returns the
first pass's id. -/
theorem electMeshnetId_eq (isWalk : IsWalk walk (idHeatmap collected configLocalNodes)) :
    electMeshnetId walk collected = (maxBy (compareOn Prod.snd) walk).map Prod.fst := by
  cases first : maxBy (compareOn Prod.snd) walk with
  | none => simp [electMeshnetId, first]
  | some top =>
    obtain ⟨-, reported⟩ := reporters_of_mem_walk isWalk (mem_of_maxBy first)
    -- a config-local key reported the id, so the filtered collected ids are not empty
    obtain ⟨e, memE, -, same⟩ : ∃ e ∈ toPairs collected, e.1 ∈ configLocalNodes ∧ e.2 = top.1 := by
      obtain ⟨e, memE⟩ := List.exists_mem_of_ne_nil _ (List.ne_nil_of_length_pos
        (Nat.pos_of_ne_zero reported))
      have := List.mem_filter.mp memE
      exact ⟨e, this.1, by simpa using this.2⟩
    have present : (toPairs collected).filter (fun c => top.1 == c.2) ≠ [] :=
      List.ne_nil_of_mem (List.mem_filter.mpr ⟨memE, by simp [same]⟩)
    obtain ⟨chosen, second⟩ := Option.ne_none_iff_exists'.mp
      (fun none => present ((maxBy_eq_none_iff (compareOn Prod.fst) _).mp none))
    have reportedTop : chosen.2 = top.1 :=
      (beq_iff_eq.mp (List.mem_filter.mp (mem_of_maxBy second)).2).symm
    simp only [electMeshnetId, first, Option.map_some, Option.bind_eq_bind, Option.bind_some,
      second, reportedTop]
    rfl

/-- The elected id has a reporter, and no id has more. -/
theorem reporters_le_of_elected (isWalk : IsWalk walk (idHeatmap collected configLocalNodes))
    {id : Uuid} (elected : electMeshnetId walk collected = some id) :
    reporters collected configLocalNodes id ≠ 0 ∧
      ∀ other, reporters collected configLocalNodes other ≤ reporters collected configLocalNodes id := by
  rw [electMeshnetId_eq isWalk, Option.map_eq_some_iff] at elected
  obtain ⟨top, first, rfl⟩ := elected
  obtain ⟨count, reported⟩ := reporters_of_mem_walk isWalk (mem_of_maxBy first)
  refine ⟨reported, fun other => ?_⟩
  by_cases none : reporters collected configLocalNodes other = 0
  · omega
  · have greatest := le_of_maxBy Prod.snd first _ (mem_walk_of_reporters isWalk none)
    rw [← count]
    exact greatest

/-- Over the walks of the heatmap, the election can return exactly the ids of the greatest
number of reporters. -/
theorem electable_iff {id : Uuid} :
    (∃ walk, IsWalk walk (idHeatmap collected configLocalNodes) ∧
      electMeshnetId walk collected = some id) ↔
    reporters collected configLocalNodes id ≠ 0 ∧
      ∀ other, reporters collected configLocalNodes other ≤ reporters collected configLocalNodes id := by
  constructor
  · rintro ⟨walk, isWalk, elected⟩
    exact reporters_le_of_elected isWalk elected
  · rintro ⟨reported, greatest⟩
    -- walk the heatmap with `id` last: of the entries of greatest count, `max_by` keeps the last
    let heatmap := toPairs (idHeatmap collected configLocalNodes)
    let top := (id, reporters collected configLocalNodes id)
    have memTop : top ∈ heatmap := mem_toPairs.mpr (by rw [lookup_idHeatmap, if_neg reported])
    have isWalk : IsWalk (heatmap.erase top ++ [top]) (idHeatmap collected configLocalNodes) :=
      (List.perm_append_singleton top _).trans (List.perm_cons_erase memTop).symm
    refine ⟨_, isWalk, ?_⟩
    rw [electMeshnetId_eq isWalk, maxBy_append_of_le, Option.map_some]
    intro e mem
    rw [(reporters_of_mem_walk isWalk (List.mem_append_left _ mem)).1]
    exact greatest e.1

/-- The election panics only when no config-local key is among the collected ones. -/
theorem electMeshnetId_isSome (isWalk : IsWalk walk (idHeatmap collected configLocalNodes))
    {pk : PublicKey} (config : pk ∈ configLocalNodes) (mem : pk ∈ collected) :
    (electMeshnetId walk collected).isSome := by
  obtain ⟨id, found⟩ := Option.isSome_iff_exists.mp (AList.lookup_isSome.mpr mem)
  have reported : reporters collected configLocalNodes id ≠ 0 :=
    Nat.pos_iff_ne_zero.mp (List.length_pos_of_mem
      (List.mem_filter.mpr ⟨mem_toPairs.mpr found, by simpa using config⟩))
  have inWalk := mem_walk_of_reporters isWalk reported
  rw [electMeshnetId_eq isWalk]
  cases first : maxBy (compareOn Prod.snd) walk with
  | none => exact absurd ((maxBy_eq_none_iff _ _).mp first) (List.ne_nil_of_mem inWalk)
  | some top => rfl

end Election

/-- The id the aggregation reports is the one it elects. -/
theorem aggregate_meshnetId {order : IterationOrder} {s s' : Analytics} {info : HeartbeatInfo}
    (agg : aggregate order s = some (s', info)) :
    electMeshnetId (order.heatmap (idHeatmap s.collectedMeshnetIds s.configLocalNodes))
        s.collectedMeshnetIds = some s'.meshnetId ∧
      info.meshnetId = s'.meshnetId.toString ∧ s'.publicKey = s.publicKey ∧
      s'.configLocalNodes = s.configLocalNodes ∧ s'.state = .monitoring := by
  simp only [aggregate, Option.bind_eq_bind, Option.bind_eq_some_iff] at agg
  obtain ⟨meshnetId, elected, fingerprints, -, matrix, -, result⟩ := agg
  obtain ⟨rfl, rfl⟩ := Prod.mk.inj (Option.some.inj result)
  exact ⟨elected, rfl, rfl, rfl, rfl⟩

/-- A completed aggregation reports an id of the greatest number of config-local reporters,
whatever order it walked its maps in. -/
theorem aggregate_elects {order : IterationOrder} {s s' : Analytics} {info : HeartbeatInfo}
    (agg : aggregate order s = some (s', info)) :
    info.meshnetId = s'.meshnetId.toString ∧
      reporters s.collectedMeshnetIds s.configLocalNodes s'.meshnetId ≠ 0 ∧
      ∀ other, reporters s.collectedMeshnetIds s.configLocalNodes other ≤
        reporters s.collectedMeshnetIds s.configLocalNodes s'.meshnetId := by
  obtain ⟨elected, reported, -⟩ := aggregate_meshnetId agg
  exact ⟨reported, reporters_le_of_elected (order.heatmap_walk _) elected⟩

section Runs

/-- What holds of the task between inputs: its own key is config-local, and while it collects,
its own key is among the collected ones. -/
structure Inv (s : Analytics) : Prop where
  configLocal : s.publicKey ∈ s.configLocalNodes
  collected : s.state = .collecting → s.publicKey ∈ s.collectedMeshnetIds

/-- `t` has the key, the config-local nodes, the state and the collected ids of `s`. -/
structure Keeps (s t : Analytics) : Prop where
  publicKey : t.publicKey = s.publicKey
  configLocalNodes : t.configLocalNodes = s.configLocalNodes
  state : t.state = s.state
  collectedMeshnetIds : t.collectedMeshnetIds = s.collectedMeshnetIds

theorem Keeps.refl (s : Analytics) : Keeps s s :=
  ⟨rfl, rfl, rfl, rfl⟩

theorem Keeps.trans {s t u : Analytics} (first : Keeps s t) (second : Keeps t u) : Keeps s u :=
  ⟨second.publicKey.trans first.publicKey, second.configLocalNodes.trans first.configLocalNodes,
    second.state.trans first.state, second.collectedMeshnetIds.trans first.collectedMeshnetIds⟩

theorem Inv.of_keeps {s t : Analytics} (inv : Inv s) (keeps : Keeps s t) : Inv t where
  configLocal := by
    rw [keeps.publicKey, keeps.configLocalNodes]
    exact inv.configLocal
  collected := by
    rw [keeps.publicKey, keeps.state, keeps.collectedMeshnetIds]
    exact inv.collected

theorem keeps_foldl {α : Type} (f : Analytics → α → Analytics) (keep : ∀ t a, Keeps t (f t a)) :
    ∀ (xs : List α) (t : Analytics), Keeps t (xs.foldl f t)
  | [], t => Keeps.refl t
  | a :: xs, t => (keep t a).trans (keeps_foldl f keep xs (f t a))

theorem inv_new (publicKey : PublicKey) (meshnetId : Uuid) (config : HeartbeatConfig) :
    Inv (Analytics.new publicKey meshnetId config) where
  configLocal := Finset.mem_singleton_self publicKey
  collected := by simp [Analytics.new]

theorem keeps_updateNodes (s : Analytics) : Keeps s (updateNodes s) := by
  unfold updateNodes
  split
  · split
    · -- the removed nodes are cleared from the maps the invariant does not read
      rename_i _ _ _ removedNodes _
      have removed := keeps_foldl forgetNode (fun _ _ => ⟨rfl, rfl, rfl, rfl⟩) removedNodes
        { s with cachedConfig := none }
      exact ⟨removed.publicKey, removed.configLocalNodes, removed.state,
        removed.collectedMeshnetIds⟩
    · exact Keeps.refl s
  · exact Keeps.refl s

theorem keeps_handleWgEvent (s : Analytics) (node : Option TelioModel.Node) :
    Keeps s (handleWgEvent s node) := by
  unfold handleWgEvent
  split
  · split
    · exact ⟨rfl, rfl, rfl, rfl⟩
    · exact Keeps.refl s
  · exact Keeps.refl s

theorem Inv.updatePublicKey (publicOf : SecretKey → PublicKey) {s : Analytics} (inv : Inv s) :
    Inv (updatePublicKey publicOf s) := by
  unfold TelioNurse.updatePublicKey
  by_cases monitoring : s.state = .monitoring
  · rw [if_pos monitoring]
    cases key : s.cachedPrivateKey with
    | none => exact inv
    | some privateKey =>
      -- the new key replaces the old among the config-local nodes, and the task monitors
      refine ⟨Finset.mem_insert_self _ _, fun collecting => ?_⟩
      simp [monitoring] at collecting
  · rw [if_neg monitoring]
    exact inv

theorem Inv.handleConfigUpdateEvent {s : Analytics} (inv : Inv s) (localNodes : List PublicKey) :
    Inv (handleConfigUpdateEvent s localNodes) := by
  have grows : ∀ (nodes : List PublicKey) (set : Finset PublicKey), s.publicKey ∈ set →
      s.publicKey ∈ nodes.foldl (fun set node => insert node set) set := by
    intro nodes
    induction nodes with
    | nil => exact fun _ mem => mem
    | cons node nodes ih => exact fun set mem => ih _ (Finset.mem_insert_of_mem mem)
  exact ⟨grows localNodes _ inv.configLocal, inv.collected⟩

theorem inv_handleCollection (s : Analytics) (inv : Inv s) : Inv (handleCollection s).1 :=
  ⟨inv.configLocal, fun _ => (AList.mem_insert _).mpr (.inl rfl)⟩

theorem Inv.handleResponseMessage {s : Analytics} (inv : Inv s) (pk : PublicKey)
    (message : HeartbeatMessage) : Inv (handleResponseMessage s pk message) := by
  unfold TelioNurse.handleResponseMessage
  split
  · -- the sender's id joins the collected ones, which keep ours
    exact ⟨inv.configLocal, fun collecting => mem_orInsert.mpr (.inr (inv.collected collecting))⟩
  · exact ⟨inv.configLocal, inv.collected⟩

theorem Inv.handleReceive {s : Analytics} (inv : Inv s) (pk : PublicKey)
    (message : HeartbeatMessage) : Inv (handleReceive s pk message).1 := by
  have linked : Inv { s with
      externalLinks := modify (pk, s.publicKey) MeshLink.default
        (fun link => ⟨link.connectionState.set MeshConnectionState.derp true⟩) s.externalLinks
      localNodes := modify pk NodeInfo.default (NodeInfo.setDerp true) s.localNodes } :=
    inv.of_keeps ⟨rfl, rfl, rfl, rfl⟩
  unfold TelioNurse.handleReceive
  dsimp only
  split
  · exact linked
  · split
    · exact linked
    · exact linked.handleResponseMessage pk message

variable (publicOf : SecretKey → PublicKey)

/-- From a state of the invariant, every enabled input is handled without a panic and keeps
the invariant. -/
theorem Inv.handle {s : Analytics} (inv : Inv s) {input : Input} (on : enabled s input = true) :
    ∃ t outputs, TelioNurse.handle publicOf s input = some (t, outputs) ∧ Inv t := by
  cases input with
  | wgEvent node => exact ⟨_, _, rfl, inv.of_keeps (keeps_handleWgEvent s node)⟩
  | derpEvent connected => exact ⟨_, _, rfl, inv.of_keeps ⟨rfl, rfl, rfl, rfl⟩⟩
  | configUpdate localNodes => exact ⟨_, _, rfl, inv.handleConfigUpdateEvent localNodes⟩
  | tick => exact ⟨_, _, rfl, inv_handleCollection s inv⟩
  | receive pk message => exact ⟨_, _, rfl, inv.handleReceive pk message⟩
  | collectTimeout order =>
    have collecting : s.state = .collecting := by simpa [enabled] using on
    -- our own key is config-local and collected, so the election and the aggregation go through
    have elects := electMeshnetId_isSome (order.heatmap_walk _) inv.configLocal
      (inv.collected collecting)
    obtain ⟨⟨s', info⟩, agg⟩ := Option.ne_none_iff_exists'.mp fun panic =>
      Option.isSome_iff_ne_none.mp elects ((aggregate_eq_none_iff order s).mp panic)
    obtain ⟨-, -, samePk, sameLocal, monitoring⟩ := aggregate_meshnetId agg
    have aggregated : Inv s' := ⟨samePk ▸ sameLocal ▸ inv.configLocal,
      fun collecting' => absurd (collecting'.symm.trans monitoring) (by simp)⟩
    refine ⟨_, [.analytics info], ?_,
      (aggregated.updatePublicKey publicOf).of_keeps (keeps_updateNodes _)⟩
    simp [TelioNurse.handle, handleAggregation, agg]
  | setNodes newNodes removedNodes =>
    have cached : Inv { s with cachedConfig := some (newNodes, removedNodes) } :=
      inv.of_keeps ⟨rfl, rfl, rfl, rfl⟩
    exact ⟨_, _, rfl, cached.of_keeps (keeps_updateNodes _)⟩
  | setPrivateKey privateKey =>
    have cached : Inv { s with cachedPrivateKey := some privateKey } :=
      inv.of_keeps ⟨rfl, rfl, rfl, rfl⟩
    exact ⟨_, _, rfl, cached.updatePublicKey publicOf⟩

/-- Every run of the task from its start keeps the invariant and never panics. -/
theorem run_inv (publicKey : PublicKey) (meshnetId : Uuid) (config : HeartbeatConfig)
    (ops : List Input)
    (guarded : Guarded (step publicOf) (fun t a => allowed t a = true)
      (some (Analytics.new publicKey meshnetId config)) ops) :
    ∃ s, run (step publicOf) (some (Analytics.new publicKey meshnetId config)) ops = some s ∧
      Inv s := by
  have keep : ∀ t a, allowed t a = true → (∃ s, t = some s ∧ Inv s) →
      ∃ s, step publicOf t a = some s ∧ Inv s := by
    rintro t a on ⟨s, rfl, inv⟩
    obtain ⟨t', outputs, handled, inv'⟩ := inv.handle publicOf on
    exact ⟨t', by simp [step, handled], inv'⟩
  exact @run_invariant_of_guarded _ _ (step publicOf) (fun t => ∃ s, t = some s ∧ Inv s)
    (fun t a => allowed t a = true) keep _ ops ⟨_, rfl, inv_new publicKey meshnetId config⟩ guarded

/-- On every run of the task, an aggregation that comes due completes, whatever order it walks
its maps in, and reports an id of the greatest number of config-local reporters. -/
theorem aggregate_of_run (publicKey : PublicKey) (meshnetId : Uuid) (config : HeartbeatConfig)
    {ops : List Input}
    (guarded : Guarded (step publicOf) (fun t a => allowed t a = true)
      (some (Analytics.new publicKey meshnetId config)) ops)
    {s : Analytics} (reached : run (step publicOf) (some (Analytics.new publicKey meshnetId config)) ops = some s)
    (order : IterationOrder) (due : enabled s (.collectTimeout order) = true) :
    ∃ s' info, aggregate order s = some (s', info) ∧ info.meshnetId = s'.meshnetId.toString ∧
      reporters s.collectedMeshnetIds s.configLocalNodes s'.meshnetId ≠ 0 ∧
      ∀ other, reporters s.collectedMeshnetIds s.configLocalNodes other ≤
        reporters s.collectedMeshnetIds s.configLocalNodes s'.meshnetId := by
  obtain ⟨t, ran, inv⟩ := run_inv publicOf publicKey meshnetId config ops guarded
  obtain rfl : t = s := Option.some.inj (ran.symm.trans reached)
  have collecting : t.state = .collecting := by simpa [enabled] using due
  have elects := electMeshnetId_isSome (order.heatmap_walk _) inv.configLocal
    (inv.collected collecting)
  obtain ⟨⟨s', info⟩, agg⟩ := Option.ne_none_iff_exists'.mp fun panic =>
    Option.isSome_iff_ne_none.mp elects ((aggregate_eq_none_iff order t).mp panic)
  exact ⟨s', info, agg, aggregate_elects agg⟩

end Runs

/-- The walks in the model's order. -/
def modelWalk : IterationOrder where
  heatmap := toPairs
  heatmap_walk := isWalk_toPairs
  index := toPairs
  index_walk := isWalk_toPairs

/-- The walks in the model's order, but the heatmap's reversed. -/
def reversedHeatmapWalk : IterationOrder where
  heatmap := fun m => (toPairs m).reverse
  heatmap_walk := isWalk_reverse_toPairs
  index := toPairs
  index_walk := isWalk_toPairs

/-- A collection cycle in which one config-local peer answers with another meshnet id than
ours. -/
def tieCycle : List Input :=
  [.configUpdate [PublicKey.filled 1], .tick,
    .receive (PublicKey.filled 1) (HeartbeatMessage.response (List.replicate 16 0xbb) [] [])]

/-- The task as it starts the cycle: key `[0; 32]`, meshnet id `[0xaa; 16]`. -/
def tieStart : Analytics :=
  Analytics.new (PublicKey.filled 0) ⟨Vector.replicate 16 0xaa⟩ ⟨60, "self".toList⟩

/-- The aggregation at the end of the cycle completes and reports an id of the greatest count. -/
theorem aggregate_of_run_tieCycle :
    Guarded (step fun _ => PublicKey.filled 0) (fun t a => allowed t a = true) (some tieStart)
        tieCycle ∧
      ∃ s, run (step fun _ => PublicKey.filled 0) (some tieStart) tieCycle = some s ∧
        enabled s (.collectTimeout modelWalk) = true ∧
        ∃ s' info, aggregate modelWalk s = some (s', info) ∧
          info.meshnetId = s'.meshnetId.toString ∧
          reporters s.collectedMeshnetIds s.configLocalNodes s'.meshnetId ≠ 0 ∧
          ∀ other, reporters s.collectedMeshnetIds s.configLocalNodes other ≤
            reporters s.collectedMeshnetIds s.configLocalNodes s'.meshnetId :=
  have guarded : Guarded (step fun _ => PublicKey.filled 0) (fun t a => allowed t a = true)
      (some tieStart) tieCycle := ⟨rfl, rfl, rfl, trivial⟩
  ⟨guarded, _, rfl, rfl,
    aggregate_of_run (fun _ => PublicKey.filled 0) _ _ _ guarded rfl modelWalk rfl⟩

theorem meshnet_election_depends_on_walk (publicOf : SecretKey → PublicKey) :
    let start := Analytics.new (PublicKey.filled 0) ⟨Vector.replicate 16 0xaa⟩ ⟨60, "self".toList⟩
    Guarded (step publicOf) (fun t a => allowed t a = true) (some start) tieCycle ∧
      PublicKey.filled 0 < PublicKey.filled 1 ∧
      ∃ s, run (step publicOf) (some start) tieCycle = some s ∧
        enabled s (.collectTimeout modelWalk) = true ∧
        s.collectedMeshnetIds.lookup (PublicKey.filled 0) = some ⟨Vector.replicate 16 0xaa⟩ ∧
        s.collectedMeshnetIds.lookup (PublicKey.filled 1) = some ⟨Vector.replicate 16 0xbb⟩ ∧
        reporters s.collectedMeshnetIds s.configLocalNodes ⟨Vector.replicate 16 0xaa⟩ = 1 ∧
        reporters s.collectedMeshnetIds s.configLocalNodes ⟨Vector.replicate 16 0xbb⟩ = 1 ∧
        (handleAggregation publicOf modelWalk s).map (·.1.meshnetId) =
          some ⟨Vector.replicate 16 0xbb⟩ ∧
        (handleAggregation publicOf reversedHeatmapWalk s).map (·.1.meshnetId) =
          some ⟨Vector.replicate 16 0xaa⟩ :=
  ⟨⟨rfl, rfl, rfl, trivial⟩, by decide, _, rfl, rfl, rfl, rfl, rfl, rfl, rfl, rfl⟩

end Libtelio.TelioNurse
