/- Which connections the path selector can reach.

   `select_best_path` refuses a path change, as an invalid state, when a connection has a path
   but no generation and is past `Init`. None of its own transitions leads there, nor does
   `reset`, nor a received packet whose generation is ahead of the default one. A GenData
   packet whose generation is not ahead of it, `0` or one of `128..255` of the wrapping
   counter, moves an `Init` connection to `Transition` and leaves it without a generation
   (`checkAgainstRx_stale_generation`); a connection with a path is then held on that path
   (`selectBestPath_refuses_invalid`) until the task is reconfigured. That packet is the only
   way in: without it every run keeps every connection valid (`run_connections_valid`), since
   `check_conns` leaves each connection sound and each branch of the task keeps it valid. -/

import Mathlib
import Libtelio.Lib.EState
import Libtelio.Lib.Run
import Libtelio.TelioTraversal.Paths.Connection

set_option autoImplicit false
set_option relaxedAutoImplicit false
set_option mvcgen.warning false

namespace Libtelio.TelioTraversal.Paths

open Std.Do Libtelio.TelioCrypto Libtelio.TelioProto

namespace Connection

/-- The connection is not in the state `select_best_path` reports as invalid: with a path and
no generation it is still in `Init`. -/
def Valid (c : Connection) : Prop :=
  c.path.isSome → c.generation = none → c.state = .init

instance : DecidablePred Valid := fun _ => inferInstanceAs (Decidable (_ → _ → _))

theorem valid_new : new.Valid := by
  simp [Valid, new]

/-- In the invalid state `select_best_path` changes nothing and reports no change, whichever
paths are active. -/
theorem selectBestPath_refuses_invalid (prio : List PathType) (c : Connection)
    (hpath : c.path.isSome) (hgen : c.generation = none) (hstate : c.state ≠ .init) :
    ⦃fun s => ⌜s = c⌝⦄ selectBestPath prio
    ⦃post⟨fun changed s => ⌜changed = false ∧ s = c⌝, fun _ _ => ⌜False⌝⟩⦄ := by
  mvcgen [selectBestPath]
  all_goals simp_all +zetaDelta

/-- Valid and not broken: what `check_conns` leaves of every connection. -/
def Sound (c : Connection) : Prop := c.Valid ∧ c.state ≠ .broken

theorem selectBestPath_sound (prio : List PathType) :
    ⦃fun c => ⌜c.Sound⌝⦄ selectBestPath prio
    ⦃post⟨fun _ c => ⌜c.Sound⌝, fun _ c => ⌜c.Sound⌝⟩⦄ := by
  mvcgen [selectBestPath]
  all_goals simp_all +zetaDelta [Sound, Valid]

/-- `reset` leaves a sound connection from any one, also when a route fails. -/
theorem reset_sound (routes : List PathType) (io : RouteIo) (pk : PublicKey) :
    ⦃fun _ => ⌜True⌝⦄ reset routes io pk
    ⦃post⟨fun _ c => ⌜c.Sound⌝, fun _ c => ⌜c.Sound⌝⟩⦄ := by
  mvcgen [reset, selectBestPath_sound] invariants
  | inv1 => post⟨fun _ c => ⌜c.path = none ∧ c.state = .init⌝, fun _ c => ⌜c.Sound⌝⟩
  all_goals simp_all +zetaDelta [Sound, Valid]

/-- A packet that is not GenData of a stale generation keeps a connection valid, and breaks only
an upgraded one. -/
theorem checkAgainstRx_fresh (msg : DataMsg) (pathType : PathType) (c0 : Connection)
    (fresh : msg.getGeneration.all (default : Generation).lt = true) :
    ⦃fun c => ⌜c = c0 ∧ c0.Valid⌝⦄ checkAgainstRx msg pathType
    ⦃post⟨fun _ c => ⌜c.Valid ∧ (c.state = .broken → c0.state = .upgraded ∨ c0.state = .broken)⌝,
      fun _ c => ⌜c.Valid ∧ (c.state = .broken → c0.state = .upgraded ∨ c0.state = .broken)⌝⟩⦄ := by
  mvcgen [checkAgainstRx]
  all_goals simp_all +zetaDelta [Valid]
  -- left: an `Init` connection without a generation would take the packet's, which is fresh
  rename_i isGenData notNewer
  obtain ⟨g, hg⟩ := Option.isSome_iff_exists.mp isGenData
  intro _ hgen
  simp_all

/-- A GenData packet whose generation is not ahead of the default moves a connection in `Init`
without a generation to `Transition`, still without a generation, and goes up. -/
theorem checkAgainstRx_stale_generation (msg : DataMsg) (pathType : PathType) (c : Connection)
    (g : Generation) (hstate : c.state = .init) (hgen : c.generation = none)
    (hmsg : msg.getGeneration = some g) (hstale : (default : Generation).lt g = false) :
    ⦃fun s => ⌜s = c⌝⦄ checkAgainstRx msg pathType
    ⦃post⟨fun up s => ⌜up = true ∧ s = { c with state := .transition }⌝,
      fun _ _ => ⌜False⌝⟩⦄ := by
  mvcgen [checkAgainstRx]
  all_goals simp_all +zetaDelta

end Connection

open Libtelio.Lib.Run Libtelio.Lib.EState

namespace State

/-- The connection and the upgrade timer the task holds for a key. -/
def entryAt (s : State) (pk : PublicKey) : Option Connection × Option Bool :=
  (s.connections.lookup pk, s.connsUpgWait.lookup pk)

/-- Between operations: the connection is valid, and a broken one has no armed timer. -/
def KeyInv (entry : Option Connection × Option Bool) : Prop :=
  ∀ c, entry.1 = some c → c.Valid ∧ (c.state = .broken → entry.2 ≠ some true)

/-- After `check_conns`: the connection is sound, and an armed timer belongs to a connection in
transition. -/
def KeyChecked (entry : Option Connection × Option Bool) : Prop :=
  ∀ c, entry.1 = some c → c.Sound ∧ (entry.2 = some true → c.state = .transition)

def Inv (s : State) : Prop := ∀ pk, KeyInv (s.entryAt pk)

def Checked (s : State) : Prop := ∀ pk, KeyChecked (s.entryAt pk)

def AllSound (s : State) : Prop := ∀ pk c, s.connections.lookup pk = some c → c.Sound

theorem keyChecked_some {c : Connection} {timer : Option Bool} (sound : c.Sound)
    (armed : timer = some true → c.state = .transition) : KeyChecked (some c, timer) := by
  rintro c' ⟨⟩
  exact ⟨sound, armed⟩

theorem KeyChecked.keyInv {entry : Option Connection × Option Bool} (checked : KeyChecked entry) :
    KeyInv entry :=
  fun c found => ⟨(checked c found).1.1, fun broken => absurd broken (checked c found).1.2⟩

theorem Checked.inv {s : State} (checked : s.Checked) : s.Inv :=
  fun pk => (checked pk).keyInv

theorem AllSound.inv {s : State} (sound : s.AllSound) : s.Inv :=
  fun pk c found => ⟨(sound pk c found).1, fun broken => absurd broken (sound pk c found).2⟩

theorem inv_new (prio : List PathType) : (State.new prio).Inv := by
  intro pk c found
  cases found

/-- A pass of `iter_mut` rewrites each connection by `f` once. -/
theorem lookup_eachConnection (s : State) (f : PublicKey → Connection → Connection)
    (pk : PublicKey) :
    (eachConnection s f).connections.lookup pk = (s.connections.lookup pk).map (f pk) := by
  refine run_pass_all _ (fun conns k => AList.lookup k conns) ?frame
    (P := fun k v => v = s.connections.lookup k)
    (Q := fun k v => v = (s.connections.lookup k).map (f k)) ?turn
    s.connections.keys s.connections s.connections.keys_nodup (fun _ _ => rfl) ?skipped pk
  case frame =>
    intro conns k j apart
    split <;> simp [AList.lookup_insert_ne apart]
  case turn =>
    intro conns k same
    rw [← same]
    cases found : AList.lookup k conns <;> simp [found]
  case skipped =>
    intro k absent
    rw [AList.lookup_eq_none.mpr absent]
    rfl

theorem allSound_eachConnection {s : State} {f : PublicKey → Connection → Connection}
    (keep : ∀ pk c, s.connections.lookup pk = some c → (f pk c).Sound) :
    (eachConnection s f).AllSound := by
  intro pk c found
  rw [lookup_eachConnection] at found
  obtain ⟨c0, found0, rfl⟩ := Option.map_eq_some_iff.mp found
  exact keep pk c0 found0

/-- `check_conns` leaves every connection sound and arms only the timers of connections in
transition. -/
theorem checkConns_checked (s : State) (io : RouteIo) (inv : s.Inv) :
    (s.checkConns io).Checked := by
  intro pk
  refine run_pass_all _ entryAt ?frame (P := fun _ => KeyInv) (Q := fun _ => KeyChecked) ?turn
    s.connections.keys s s.connections.keys_nodup (fun k _ => inv k) ?skipped pk
  case frame =>
    intro t k j apart
    split
    · rfl
    · split <;> simp [entryAt, AList.lookup_insert_ne apart]
  case turn =>
    intro t k keyInv
    split
    case h_1 absent =>
      intro c found
      simp [entryAt, absent] at found
    case h_2 c found =>
      obtain ⟨valid, unarmed⟩ := keyInv c found
      -- the timer writes keep the connection; a broken one is replaced by its reset
      split
      case h_1 isInit _ =>
        simp only [entryAt, found, AList.lookup_insert]
        exact keyChecked_some ⟨valid, by simp [isInit]⟩ (by simp)
      case h_2 isUpgraded _ =>
        simp only [entryAt, found, AList.lookup_insert]
        exact keyChecked_some ⟨valid, by simp [isUpgraded]⟩ (by simp)
      case h_3 inTransition _ =>
        simp only [entryAt, found, AList.lookup_insert]
        exact keyChecked_some ⟨valid, by simp [inTransition]⟩ fun _ => inTransition
      case h_4 isBroken =>
        split
        rename_i c' _ ran
        have sound := state_runOn_of_triple (Connection.reset_sound s.prio io k) (s := c) trivial
        rw [ran] at sound
        simp only [entryAt, AList.lookup_insert]
        exact keyChecked_some sound fun armed => absurd armed (unarmed isBroken)
      case h_5 notBroken notInit notUpgraded _ =>
        simp only [entryAt, found]
        refine keyChecked_some ⟨valid, notBroken⟩ fun armed => ?_
        -- an armed timer of a connection in `Init` or `Upgraded` met the first two branches
        cases state : c.state <;> simp_all
  case skipped =>
    intro k absent c found
    simp [entryAt, AList.lookup_eq_none.mpr absent] at found

/-- Writing one connection after `check_conns` keeps the invariant when the connection written
keeps it with its key's timer. -/
theorem Checked.inv_insert {s : State} (checked : s.Checked) {pk : PublicKey} {c : Connection}
    (keep : KeyInv (some c, s.connsUpgWait.lookup pk)) :
    { s with connections := s.connections.insert pk c }.Inv := by
  intro j
  by_cases same : j = pk
  · subst same
    simpa [entryAt] using keep
  · simpa [entryAt, AList.lookup_insert_ne same] using checked.inv j

theorem keyInv_some {c : Connection} (sound : c.Sound) (timer : Option Bool) :
    KeyInv (some c, timer) := by
  rintro c' ⟨⟩
  exact ⟨sound.1, fun broken => absurd broken sound.2⟩

/-- A packet that is not stale GenData breaks only an upgraded connection, whose timer
`check_conns` has disarmed. -/
theorem Checked.inv_rx {s : State} (checked : s.Checked) (pathType : PathType) (pk : PublicKey)
    (msg : DataMsg) (fresh : msg.getGeneration.all (default : Generation).lt = true) :
    (s.rx pathType pk msg).1.Inv := by
  unfold rx
  split
  case h_1 => exact checked.inv
  case h_2 c found =>
    obtain ⟨⟨valid, unbroken⟩, armed⟩ := checked pk c found
    have after := state_runOn_of_triple (Connection.checkAgainstRx_fresh msg pathType c fresh)
      (s := c) ⟨rfl, valid⟩
    refine checked.inv_insert (c := (runOn (Connection.checkAgainstRx msg pathType) c).1)
      fun c' written => ?_
    cases written
    refine ⟨after.1, fun broken timerArmed => ?_⟩
    have inTransition : c.state = .transition := armed timerArmed
    rcases after.2 broken with upgraded | wasBroken
    · rw [inTransition] at upgraded
      cases upgraded
    · exact unbroken wasBroken

theorem Checked.inv_pathUpdate {s : State} (checked : s.Checked) (pathType : PathType)
    (pk : PublicKey) (connected : Bool) : (s.pathUpdate pathType pk connected).Inv := by
  unfold pathUpdate
  split
  case h_1 => exact checked.inv
  case h_2 c found =>
    obtain ⟨sound, _⟩ := checked pk c found
    -- the report changes the active paths only, which soundness does not read
    have reported : (if connected then { c with active := insert pathType c.active }
        else { c with active := c.active.erase pathType }).Sound := by
      split <;> exact sound
    exact checked.inv_insert
      (keyInv_some (state_runOn_of_triple (Connection.selectBestPath_sound s.prio) reported) _)

/-- The timer of a connection in transition fires: a valid connection in transition has a
generation once it has a path, and so has the upgraded one. -/
theorem Checked.inv_upgradeExpired {s : State} (checked : s.Checked) (pk : PublicKey) :
    (s.upgradeExpired pk).Inv := by
  unfold upgradeExpired
  split
  case h_1 c armed found =>
    obtain ⟨⟨valid, _⟩, timerOf⟩ := checked pk c found
    have inTransition : c.state = .transition := timerOf armed
    refine checked.inv_insert fun c' written => ?_
    cases written
    refine ⟨fun hasPath noGen => absurd (valid hasPath noGen) (by simp [inTransition]), by simp⟩
  case h_2 => exact checked.inv

theorem allSound_addRoutes (io : RouteIo) :
    ∀ {t : State} {routes : List PathType} {t' : State} {result : Except RouteError Unit},
      configure.addRoutes io t routes = (t', result) → t.AllSound → t'.AllSound
  | t, [], t', result, routed, sound => by
    cases routed
    exact sound
  | t, pt :: rest, t', result, routed, sound => by
    unfold configure.addRoutes at routed
    split at routed
    · cases routed
      exact sound
    · refine allSound_addRoutes io routed (allSound_eachConnection fun pk c found => ?_)
      -- a route adds an active path, which soundness does not read
      split
      · exact sound pk c found
      · exact sound pk c found

/-- `configure` leaves every connection sound, also when a route fails. -/
theorem configure_allSound (s : State) (peers : List PublicKey) (io : RouteIo) :
    (s.configure peers io).1.AllSound := by
  unfold configure
  -- every connection is cleared before the routes add their paths
  have clearedSound : ∀ t : State, (eachConnection t fun _ c =>
      { c with path := none, state := .init, active := [], generation := none }).AllSound :=
    fun t => allSound_eachConnection fun _ _ _ => by simp [Connection.Sound, Connection.Valid]
  dsimp only
  split
  case h_1 t e routed => exact allSound_addRoutes io routed (clearedSound _)
  case h_2 t routed =>
    exact allSound_eachConnection fun pk c found =>
      state_runOn_of_triple (Connection.selectBestPath_sound t.prio)
        (allSound_addRoutes io routed (clearedSound _) pk c found)

end State

/-- No GenData packet of a generation the default one is not behind. -/
def Event.fresh : Event → Bool
  | .rx _ _ msg => msg.getGeneration.all (default : Generation).lt
  | _ => true

def Op.fresh : Op → Bool
  | .configure _ _ => true
  | .poll _ event => event.fresh

theorem State.Inv.step {s : State} (inv : s.Inv) (op : Op) (fresh : op.fresh = true) :
    (step s op).Inv := by
  cases op with
  | configure peers io => exact (s.configure_allSound peers io).inv
  | poll io event =>
    have checked := s.checkConns_checked io inv
    cases event with
    | tx => exact checked.inv
    | rx pathType pk msg => exact checked.inv_rx pathType pk msg fresh
    | pathUpdate pathType pk connected => exact checked.inv_pathUpdate pathType pk connected
    | upgradeExpired pk => exact checked.inv_upgradeExpired pk

/-- Without a stale GenData packet no run of the task reaches the state `select_best_path`
refuses: every connection is valid after every run. -/
theorem run_connections_valid (prio : List PathType) (ops : List Op)
    (fresh : ∀ op ∈ ops, op.fresh = true) (pk : PublicKey) (c : Connection)
    (found : (run step (State.new prio) ops).connections.lookup pk = some c) : c.Valid := by
  have inv : (run step (State.new prio) ops).Inv :=
    run_invariant_of_admissible (P := State.Inv) (A := fun op => op.fresh = true)
      (State.inv_new prio) (fun _ op fresh inv => inv.step op fresh) ops fresh
  exact (inv pk c found).1

/-- The peer of the run below, and routes of which only the relay reaches it. -/
def peer : PublicKey := PublicKey.filled 1

def relayOnly : RouteIo :=
  { updateNodesOk := fun _ => true, resetNodesOk := fun _ => true,
    reachable := fun pt _ => pt == .relay }

/-- A GenData packet of generation `0`, where the peer's wrapping counter returns after 255
path updates. -/
def staleGenData : DataMsg := DataMsg.withGeneration [] ⟨0⟩ ⟨0⟩

/-- Configured with the relay reachable, the connection takes the relay path in `Init`; the
GenData packet of generation `0` moves it to `Transition` without a generation, and when the
hole-punched path comes up, the path of higher priority, `select_best_path` refuses it: the
connection stays on the relay in the invalid state. -/
theorem stale_generation_blocks_path_change :
    (run step (State.new [.relay, .udpHolePunch])
        [.configure [peer] relayOnly, .poll relayOnly (.rx .relay peer staleGenData),
          .poll relayOnly (.pathUpdate .udpHolePunch peer true)]).connections.lookup peer =
      some { path := some .relay, generation := none, active := [.udpHolePunch, .relay],
             state := .transition } := by
  decide

/-- The run above with a GenData packet of generation `1`, which the default one is behind. -/
def freshGenData : DataMsg := DataMsg.withGeneration [] ⟨1⟩ ⟨0⟩

def freshGenerationRun : List Op :=
  [.configure [peer] relayOnly, .poll relayOnly (.rx .relay peer freshGenData),
    .poll relayOnly (.pathUpdate .udpHolePunch peer true)]

/-- The packet stamps generation `1` on the connection, and the hole-punched path is taken at
generation `2`. -/
def upgradedPath : Connection :=
  { path := some .udpHolePunch, generation := some ⟨2⟩, active := [.udpHolePunch, .relay],
    state := .transition }

theorem run_connections_valid_freshGeneration :
    (∀ op ∈ freshGenerationRun, op.fresh = true) ∧
      (run step (State.new [.relay, .udpHolePunch]) freshGenerationRun).connections.lookup peer =
        some upgradedPath ∧ upgradedPath.Valid :=
  have fresh : ∀ op ∈ freshGenerationRun, op.fresh = true := by decide
  have found : (run step (State.new [.relay, .udpHolePunch]) freshGenerationRun).connections.lookup
      peer = some upgradedPath := by decide
  ⟨fresh, found, run_connections_valid _ freshGenerationRun fresh peer _ found⟩

end Libtelio.TelioTraversal.Paths
