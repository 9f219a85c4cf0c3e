/- The peer events of `DynamicWg` follow its interface.

   Read per key, the log of events says, at every moment, what the interface holds for that
   key: the last event of a peer in the interface is `Connected` or `Connecting` as the peer
   is connected or not, and the last event of a key no longer there is `Disconnected`. A
   `Connected` always comes right after a `Connecting` of the same key, and a call sends no
   event for a key whose presence and `connected()` it leaves as they were.

   The argument is per key. One update sends, for each key, the events of `keyBatch` of the
   key's peer before and after (`forKey_notificationEvents`), and `batch_keeps` is the step of
   the invariant for one key. This needs the peers keyed by their own public keys, as the API
   calls keep them and as every adapter reports them. -/

import Mathlib.Data.List.Chain
import Libtelio.Lib.EventLog
import Libtelio.Lib.Run
import Libtelio.TelioWg.Wg

set_option autoImplicit false
set_option relaxedAutoImplicit false

namespace Libtelio.TelioWg

open Libtelio.TelioCrypto Libtelio.Lib.EventLog Libtelio.Lib.Run

/-- The key an event is about: that of its peer. -/
def Event.key (e : Event) : PublicKey := e.peer.publicKey

/-- The state of a peer of the interface. -/
def Peer.state (p : Peer) : PeerState := if p.connected then .connected else .connecting

/-- The state the events of a key should last report: that of its peer, `Disconnected` when
the interface has none. -/
def expectedState : Option Peer → PeerState
  | some p => p.state
  | none => .disconnected

/-- The states the events of `k` report, in order. -/
def statesOf (log : List Event) (k : PublicKey) : List PeerState :=
  (forKey Event.key log k).map (·.state)

/-- The state the log last reports for `k`; `Disconnected` before any event. -/
def reportedState (log : List Event) (k : PublicKey) : PeerState :=
  (statesOf log k).getLast?.getD .disconnected

/-- Of two consecutive states of a key, a `Connected` follows a `Connecting`. -/
def Follows (before after : PeerState) : Prop := after = .connected → before = .connecting

/-- Every peer of the interface is held under its own public key. -/
def Interface.KeyedByOwnKey (iface : Interface) : Prop :=
  ∀ k p, iface.peers.lookup k = some p → p.publicKey = k

/-- The events one update sends for a key whose peer was `old` and becomes `new`. -/
def keyBatch : Option Peer → Option Peer → List Event
  | some old, none => [⟨.disconnected, old⟩]
  | none, some new => ⟨.connecting, new⟩ :: if new.connected then [⟨.connected, new⟩] else []
  | some old, some new =>
    if old.connected && !new.connected then [⟨.connecting, new⟩]
    else if !old.connected && new.connected then [⟨.connected, new⟩]
    else []
  | none, none => []

theorem Peer.state_ne_disconnected (p : Peer) : p.state ≠ .disconnected := by
  unfold Peer.state; split <;> simp

theorem statesOf_getLast? (log : List Event) (k : PublicKey) :
    (statesOf log k).getLast? = (lastFor Event.key log k).map (·.state) := by
  simp [statesOf, lastFor, List.getLast?_map]

/-! One key over one batch. -/

/-- A key whose presence and `connected()` stay as they were gets no event. -/
theorem keyBatch_eq_nil (old new : Option Peer)
    (same : new.map Peer.connected = old.map Peer.connected) : keyBatch old new = [] := by
  cases old with
  | none => cases new <;> simp_all [keyBatch]
  | some o =>
    cases new with
    | none => simp at same
    | some n =>
      simp only [Option.map_some, Option.some.injEq] at same
      simp [keyBatch, same]

/-- One batch keeps the invariant of a key: the states reported end in the expected state of
the new peer, and a `Connected` still follows a `Connecting`. -/
theorem batch_keeps (old new : Option Peer) (states : List PeerState)
    (reported : states.getLast?.getD .disconnected = expectedState old)
    (follows : (PeerState.disconnected :: states).IsChain Follows) :
    (states ++ (keyBatch old new).map (·.state)).getLast?.getD .disconnected =
        expectedState new ∧
      (PeerState.disconnected :: (states ++ (keyBatch old new).map (·.state))).IsChain
        Follows := by
  have last : (PeerState.disconnected :: states).getLast? = some (expectedState old) := by
    rw [List.getLast?_cons, reported]
  rw [← List.cons_append, List.isChain_append, last, List.getLast?_append]
  -- the batch of each case, against the state the key reported before it
  cases old with
  | none =>
    cases new with
    | none => simp_all [keyBatch]
    | some n =>
      cases hn : n.connected <;>
        simp_all [keyBatch, expectedState, Peer.state, Follows, List.isChain_cons_cons]
  | some o =>
    cases new with
    | none => simp_all [keyBatch, expectedState, Follows]
    | some n =>
      cases ho : o.connected <;> cases hn : n.connected <;>
        simp_all [keyBatch, expectedState, Peer.state, Follows]

/-! One update. -/

theorem sendEach_open (events : List Event) : sendEach true events = (events, true) := by
  induction events with
  | nil => rfl
  | cons e rest ih => simp [sendEach, ih]

theorem keyBatch_keyed (old new : Option Peer) (k : PublicKey)
    (hold : ∀ p, old = some p → p.publicKey = k) (hnew : ∀ p, new = some p → p.publicKey = k) :
    ∀ e ∈ keyBatch old new, e.key = k := by
  cases old <;> cases new <;> simp only [keyBatch] <;> (try split_ifs) <;>
    simp_all [Event.key]

/-- The events an update sends for `k` are the batch of `k`. -/
theorem forKey_notificationEvents (s : State) (target : Interface)
    (hs : s.interface.KeyedByOwnKey) (ht : target.KeyedByOwnKey) (k : PublicKey) :
    forKey Event.key (notificationEvents s.interface target (s.updateCalculateChanges target))
        k =
      keyBatch (s.interface.peers.lookup k) (target.peers.lookup k) := by
  have source_keys := s.interface.peers.keys_nodup
  simp only [notificationEvents, forKey_append, State.updateCalculateChanges]
  rw [forKey_flatMap _ _ ?deleted (source_keys.filter _),
    forKey_flatMap _ _ ?inserted (target.peers.keys_nodup.filter _),
    forKey_flatMap _ _ ?updated (source_keys.filter _)]
  case deleted =>
    intro k e he
    cases h : s.interface.peers.lookup k <;> simp_all [Event.key, hs k]
  case inserted =>
    intro k e he
    cases h : target.peers.lookup k <;> simp only [h, List.not_mem_nil] at he
    exact keyBatch_keyed none _ k (by simp) (fun p hp => ht k p (h.trans hp)) e he
  case updated =>
    intro k e he
    cases h : s.interface.peers.lookup k <;> cases h' : target.peers.lookup k <;>
      simp only [h, h', List.not_mem_nil] at he
    exact keyBatch_keyed (some _) (some _) k (fun p hp => hs k p (h.trans hp))
      (fun p hp => ht k p (h'.trans hp)) e he
  -- which of the three loops visits `k` depends on where it is
  have in_source : k ∈ s.interface.peers.keys ↔ (s.interface.peers.lookup k).isSome := by
    rw [← AList.mem_keys, AList.lookup_isSome]
  have in_target : k ∈ target.peers.keys ↔ (target.peers.lookup k).isSome := by
    rw [← AList.mem_keys, AList.lookup_isSome]
  simp only [List.mem_filter, decide_eq_true_eq, in_source, in_target]
  cases hsk : s.interface.peers.lookup k <;> cases htk : target.peers.lookup k <;>
    simp [keyBatch]

/-- An update with the event channel open either changes nothing, for the interface it has,
or sends the events of the diff and takes the target. -/
theorem update_cases (s : State) (target : Interface) (push : Bool) (io : Io)
    (h : io.eventsOpen = true) :
    ((s.update target push io).1.interface = s.interface ∧
        (s.update target push io).1.events = s.events) ∨
      ((s.update target push io).1.interface = target ∧
        (s.update target push io).1.events =
          s.events ++ notificationEvents s.interface target (s.updateCalculateChanges target)) := by
  unfold State.update
  split
  · exact Or.inl ⟨rfl, rfl⟩
  · right
    simp only [State.updateSendNotificationEvents, h, sendEach_open]
    cases push <;> simp

/-! The calls. -/

/-- The calls the event stream is about: every event send succeeds, and the adapter holds the
peers it reports under their own keys, as each adapter's `Get` inserts them. -/
def Op.Admissible : Op → Prop
  | .setSecretKey _ io | .setFwmark _ io | .addPeer _ io | .delPeer _ io => io.eventsOpen = true
  | .sync io =>
    io.eventsOpen = true ∧ ∀ iface, io.response.interface = some iface → iface.KeyedByOwnKey

/-- What one call does to the interface and the log: nothing, or one update to a target. -/
def Advances (s s' : State) : Prop :=
  (s'.interface = s.interface ∧ s'.events = s.events) ∨
    ∃ target, target.KeyedByOwnKey ∧ s'.interface = target ∧
      s'.events = s.events ++ notificationEvents s.interface target (s.updateCalculateChanges target)

theorem Interface.KeyedByOwnKey.insert {iface : Interface} (h : iface.KeyedByOwnKey)
    (peer : Peer) : { iface with peers := iface.peers.insert peer.publicKey peer }.KeyedByOwnKey := by
  intro k p hp
  by_cases hk : k = peer.publicKey
  · subst hk
    simp_all
  · exact h k p (by simpa [AList.lookup_insert_ne hk] using hp)

theorem Interface.KeyedByOwnKey.erase {iface : Interface} (h : iface.KeyedByOwnKey)
    (key : PublicKey) : { iface with peers := iface.peers.erase key }.KeyedByOwnKey := by
  intro k p hp
  by_cases hk : k = key
  · subst hk
    simp at hp
  · exact h k p (by simpa [AList.lookup_erase_ne hk] using hp)

theorem update_advances {s : State} {target : Interface} {push : Bool} {io : Io}
    (h : io.eventsOpen = true) (ht : target.KeyedByOwnKey) :
    Advances s (s.update target push io).1 := by
  rcases update_cases s target push io h with same | moved
  · exact Or.inl same
  · exact Or.inr ⟨target, ht, moved⟩

/-- Every admissible call advances the state by one update at most, to a keyed target. -/
theorem step_advances {s : State} {op : Op} (hs : s.interface.KeyedByOwnKey)
    (hop : op.Admissible) : Advances s (step s op) := by
  cases op with
  | setSecretKey key io => exact update_advances hop hs
  | setFwmark fwmark io => exact update_advances hop hs
  | addPeer peer io =>
    -- the peer is inserted under its key, with the old peer's counters if there was one
    have hopen : io.eventsOpen = true := hop
    show Advances s (s.addPeer peer io)
    unfold State.addPeer
    exact update_advances hopen (hs.insert _)
  | delPeer key io => exact update_advances hop (hs.erase key)
  | sync io =>
    obtain ⟨hopen, keyed⟩ := hop
    show Advances s (s.sync io)
    unfold State.sync
    simp only [State.uapiRequest_response]
    cases hr : io.response.interface with
    | none => exact Or.inl ⟨by simp, by simp⟩
    | some target =>
      -- the request touches neither the interface nor the log
      rcases update_cases (s.uapiRequest .get io.response).1 target false io hopen with
        same | moved
      · exact Or.inl (by simpa using same)
      · exact Or.inr ⟨target, keyed target hr, by simpa [State.updateCalculateChanges] using moved⟩

/-! The invariant. -/

/-- The invariant of the event log: the peers are keyed by their keys, each key's last event
reports its expected state, and its `Connected` events follow `Connecting` ones. -/
structure EventsAgree (s : State) : Prop where
  keyed : s.interface.KeyedByOwnKey
  reported : ∀ k, reportedState s.events k = expectedState (s.interface.peers.lookup k)
  follows : ∀ k, (PeerState.disconnected :: statesOf s.events k).IsChain Follows

theorem eventsAgree_new : EventsAgree State.new := by
  refine ⟨fun k p hp => ?_, fun k => rfl, fun k => List.isChain_singleton _⟩
  simp [State.new, Interface.empty] at hp

theorem EventsAgree.advance {s s' : State} (h : EventsAgree s) (adv : Advances s s') :
    EventsAgree s' := by
  rcases adv with ⟨hi, he⟩ | ⟨target, ht, hi, he⟩
  · refine ⟨hi ▸ h.keyed, fun k => ?_, fun k => ?_⟩
    · rw [hi, he]; exact h.reported k
    · rw [he]; exact h.follows k
  · -- each key's states grow by its batch
    have grown : ∀ k, statesOf s'.events k = statesOf s.events k ++
        (keyBatch (s.interface.peers.lookup k) (target.peers.lookup k)).map (·.state) := by
      intro k
      simp [statesOf, he, forKey_notificationEvents s target h.keyed ht k]
    refine ⟨hi ▸ ht, fun k => ?_, fun k => ?_⟩
    · rw [reportedState, grown, hi]
      exact (batch_keeps _ _ _ (h.reported k) (h.follows k)).1
    · rw [grown]
      exact (batch_keeps _ _ _ (h.reported k) (h.follows k)).2

theorem eventsAgree_run (ops : List Op) (admissible : ∀ op ∈ ops, op.Admissible) :
    EventsAgree (run step State.new ops) :=
  run_invariant_of_admissible eventsAgree_new
    (fun (_ : State) (_ : Op) (hop : Op.Admissible _) h => h.advance (step_advances h.keyed hop))
    ops admissible

/-! What the invariant says of the log. -/

theorem EventsAgree.last_of_absent {s : State} (h : EventsAgree s) {k : PublicKey}
    (absent : s.interface.peers.lookup k = none) {e : Event}
    (last : lastFor Event.key s.events k = some e) : e.state = .disconnected := by
  have := h.reported k
  simpa [reportedState, statesOf_getLast?, last, absent, expectedState] using this

theorem EventsAgree.last_of_present {s : State} (h : EventsAgree s) {k : PublicKey} {p : Peer}
    (present : s.interface.peers.lookup k = some p) :
    (lastFor Event.key s.events k).map (·.state) = some p.state := by
  have reported := h.reported k
  rw [reportedState, statesOf_getLast?, present, expectedState] at reported
  cases last : lastFor Event.key s.events k with
  | none =>
    -- no event would report `Disconnected`, which a peer of the interface is not
    simp only [last, Option.map_none, Option.getD_none] at reported
    exact absurd reported.symm p.state_ne_disconnected
  | some e => simpa [last] using reported

/-- Before a `Connected` event, the last event of its key is a `Connecting` one. -/
theorem connecting_before_connected {log before after : List Event} {e : Event}
    (follows : (PeerState.disconnected :: statesOf log e.key).IsChain Follows)
    (split : log = before ++ e :: after) (connected : e.state = .connected) :
    ∃ c, lastFor Event.key before e.key = some c ∧ c.state = .connecting := by
  have states : statesOf log e.key =
      statesOf before e.key ++ e.state :: statesOf after e.key := by
    simp [statesOf, split, forKey_cons_of_key e after e.key rfl]
  rw [states, ← List.cons_append, List.isChain_append] at follows
  have previous := follows.2.2 ((statesOf before e.key).getLast?.getD .disconnected)
    (by simp [List.getLast?_cons]) e.state (by simp)
  rw [statesOf_getLast?] at previous
  cases last : lastFor Event.key before e.key with
  | none => simp [last, Follows, connected] at previous
  | some c => exact ⟨c, rfl, by simpa [last, Follows, connected] using previous⟩

/-! What an update does to the interface. -/

/-- Two interfaces the derived `PartialEq` calls equal: the same fields, and the same peer under
every key. -/
def Interface.Agrees (a b : Interface) : Prop :=
  a.privateKey = b.privateKey ∧ a.listenPort = b.listenPort ∧ a.fwmark = b.fwmark ∧
    ∀ k, a.peers.lookup k = b.peers.lookup k

theorem Interface.Agrees.refl (a : Interface) : a.Agrees a := ⟨rfl, rfl, rfl, fun _ => rfl⟩

theorem Peers.lookup_eq_of_beq {a b : Peers} (h : a.beq b = true) (k : PublicKey) :
    a.lookup k = b.lookup k := by
  simp only [Peers.beq, Bool.and_eq_true, List.all_eq_true, beq_iff_eq] at h
  by_cases inA : k ∈ a.keys
  · exact h.1 k inA
  · by_cases inB : k ∈ b.keys
    · exact h.2 k inB
    -- a key of neither map
    · rw [AList.lookup_eq_none.mpr (AList.mem_keys.not.mpr inA),
        AList.lookup_eq_none.mpr (AList.mem_keys.not.mpr inB)]

theorem Interface.agrees_of_beq {a b : Interface} (h : a.beq b = true) : a.Agrees b := by
  simp only [Interface.beq, Bool.and_eq_true, beq_iff_eq] at h
  obtain ⟨⟨⟨key, port⟩, fwmark⟩, peers⟩ := h
  exact ⟨key, port, fwmark, Peers.lookup_eq_of_beq peers⟩

/-- With the event channel open, an update keeps the interface it has when that is equal to the
target, and takes the target otherwise. -/
theorem update_interface (s : State) (target : Interface) (push : Bool) (io : Io)
    (h : io.eventsOpen = true) :
    (s.update target push io).1.interface =
      if s.interface.beq target then s.interface else target := by
  unfold State.update
  split
  · simp
  · simp only [State.updateSendNotificationEvents, h, sendEach_open]
    cases push <;> simp

/-- An update whose event sends succeed leaves an interface equal to its target. -/
theorem update_agrees (s : State) (target : Interface) (push : Bool) (io : Io)
    (h : io.eventsOpen = true) : (s.update target push io).1.interface.Agrees target := by
  rw [update_interface s target push io h]
  split
  · rename_i same
    exact Interface.agrees_of_beq same
  · exact Interface.Agrees.refl target

/-- The peer events agree with the interface: the last event of a key no longer there is
`Disconnected`, that of a peer there says whether it is connected, every `Connected` event of a
key comes after a `Connecting` one with no `Disconnected` of the key between them, a call
that leaves a key's presence and `connected()` as they were sends no event for it, and an update
whose event sends succeed leaves the interface equal to its target, so that the interface the
events follow is the last target. -/
def EventsFollowInterface (s : State) : Prop :=
  (∀ k, s.interface.peers.lookup k = none →
    ∀ e, lastFor Event.key s.events k = some e → e.state = .disconnected) ∧
  (∀ k p, s.interface.peers.lookup k = some p →
    (lastFor Event.key s.events k).map (·.state) =
      some (if p.connected then .connected else .connecting)) ∧
  (∀ before e after, s.events = before ++ e :: after → e.state = .connected →
    ∃ earlier c between, before = earlier ++ c :: between ∧ c.key = e.key ∧
      c.state = .connecting ∧ ∀ d ∈ between, d.key = e.key → d.state ≠ .disconnected) ∧
  (∀ op, op.Admissible → ∃ sent, (step s op).events = s.events ++ sent ∧
    ∀ k, ((step s op).interface.peers.lookup k).map Peer.connected =
        (s.interface.peers.lookup k).map Peer.connected →
      ∀ e ∈ sent, e.key ≠ k) ∧
  (∀ target push io, io.eventsOpen = true → (s.update target push io).1.interface.Agrees target)

theorem peer_events_follow_interface (ops : List Op) (admissible : ∀ op ∈ ops, op.Admissible) :
    EventsFollowInterface (run step State.new ops) := by
  have h := eventsAgree_run ops admissible
  refine ⟨fun k absent e last => h.last_of_absent absent last,
    fun k p present => h.last_of_present present, ?_, ?_,
    fun target push io opened => update_agrees _ target push io opened⟩
  · intro before e after split connected
    obtain ⟨c, last, connecting⟩ := connecting_before_connected (h.follows e.key) split connected
    obtain ⟨hc, earlier, between, rfl, none_between⟩ := lastFor_split last
    exact ⟨earlier, c, between, rfl, hc, connecting,
      fun d hd same => absurd same (none_between d hd)⟩
  · intro op hop
    rcases step_advances h.keyed hop with ⟨_, same⟩ | ⟨target, ht, hi, he⟩
    · exact ⟨[], by simp [same], by simp⟩
    · refine ⟨_, he, fun k unchanged e he' hek => ?_⟩
      -- an event for `k` would be in its batch, which is empty
      have batch := forKey_notificationEvents _ target h.keyed ht k
      rw [keyBatch_eq_nil _ _ (hi ▸ unchanged)] at batch
      exact (forKey_eq_nil_iff _ _).mp batch e he' hek

/-- An event channel that takes every event and an adapter that accepts every command. -/
def openIo : Io := ⟨true, ⟨0, none⟩⟩

/-- A peer that shook hands a moment ago. -/
def freshPeer : Peer :=
  ⟨PublicKey.filled 1, none, some 25, [], none, none, some 0⟩

theorem peer_events_follow_interface_add_peer :
    (∀ op ∈ [Op.addPeer freshPeer openIo], op.Admissible) ∧
      EventsFollowInterface (run step State.new [.addPeer freshPeer openIo]) := by
  have admissible : ∀ op ∈ [Op.addPeer freshPeer openIo], op.Admissible := by
    simp [Op.Admissible, openIo]
  exact ⟨admissible, peer_events_follow_interface _ admissible⟩

/-- Adding a connected peer reports it connecting, then connected. -/
example : (run step State.new [.addPeer freshPeer openIo]).events =
    [⟨.connecting, freshPeer⟩, ⟨.connected, freshPeer⟩] := by
  decide

end Libtelio.TelioWg
