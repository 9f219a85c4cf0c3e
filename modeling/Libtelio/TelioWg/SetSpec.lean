/- What the set command of `update` does to a device configured as the old interface.

   Per key, the command holds at most one entry: a removal for a key the target drops, a
   creating entry for a new key, an update-only entry for a kept one, which replaces the allowed
   IPs when they changed (`forKey_setDevicePeers`). So the device ends with the target's peers
   and each peer's allowed IPs, with its endpoint and keepalive where the target has them
   (`set_device_refines_target`). Where the target has none, and for the interface fields, the
   command leaves the field absent and the device keeps its old value: an absent private key
   or listen port, and a zero fwmark, which the command sends as no fwmark at all. A keepalive
   reaches the device cast to `u16`. -/

import Libtelio.TelioWg.Device
import Libtelio.TelioWg.EventSpec

set_option autoImplicit false
set_option relaxedAutoImplicit false

namespace Libtelio.TelioWg

open Libtelio.Net Libtelio.TelioCrypto Libtelio.Lib.EventLog

/-- The entries of the set command for key `k`, from its peer before and after. -/
def setBatch (k : PublicKey) : Option Peer → Option Peer → List SetPeer
  | some _, none => [(SetPeer.fromPublicKey k).setRemove true]
  | none, some new => [((SetPeer.ofPeer new).setUpdateOnly false).setReplaceAllowedIps false]
  | some old, some new =>
    [((SetPeer.ofPeer new).setUpdateOnly true).setReplaceAllowedIps
      (old.allowedIps != new.allowedIps)]
  | none, none => []

/-- The entries the command holds for `k` are its batch. -/
theorem forKey_setDevicePeers (s : State) (target : Interface) (ht : target.KeyedByOwnKey)
    (k : PublicKey) :
    forKey SetPeer.publicKey
        (s.updateConstructSetDevice target (s.updateCalculateChanges target)).peers k =
      setBatch k (s.interface.peers.lookup k) (target.peers.lookup k) := by
  simp only [State.updateConstructSetDevice, forKey_append]
  rw [forKey_map _ _ (by simp [SetPeer.setRemove, SetPeer.fromPublicKey])
      (s.interface.peers.keys_nodup.filter _),
    forKey_map_entries _ target.peers.nodupKeys _ ?keyed]
  case keyed =>
    -- an entry of the target is built from the peer, which carries the entry's key
    intro e he
    have := ht e.1 e.2 (AList.mem_lookup_iff.mpr he)
    simp [SetPeer.setReplaceAllowedIps, SetPeer.setUpdateOnly, SetPeer.ofPeer, this]
  have in_source : k ∈ s.interface.peers.keys ↔ (s.interface.peers.lookup k).isSome := by
    rw [← AList.mem_keys, AList.lookup_isSome]
  have in_target : k ∈ target.peers.keys ↔ (target.peers.lookup k).isSome := by
    rw [← AList.mem_keys, AList.lookup_isSome]
  simp only [State.updateCalculateChanges, List.mem_filter, decide_eq_true_eq, in_source,
    in_target]
  have lookup_target : target.peers.entries.dlookup k = target.peers.lookup k := rfl
  rw [lookup_target]
  cases hsk : s.interface.peers.lookup k <;> cases htk : target.peers.lookup k <;>
    simp [setBatch]

/-- What the batch of a key makes of the device's peer: the target's peer, if there is one,
with its allowed IPs, and its endpoint and keepalive where it has them. -/
theorem setBatch_result (k : PublicKey) (old new : Option Peer) :
    (((setBatch k old new).foldl peerAfter (old.map DevicePeer.ofPeer)).isSome ↔
        new.isSome) ∧
      ∀ p, new = some p → ∃ d, (setBatch k old new).foldl peerAfter (old.map DevicePeer.ofPeer) =
        some d ∧ (∀ ip, ip ∈ d.allowedIps ↔ ip ∈ (SetPeer.ofPeer p).allowedIps) ∧
        (∀ e, p.endpoint = some e → d.endpoint = some e) ∧
        (∀ n, p.persistentKeepaliveInterval = some n →
          d.persistentKeepaliveInterval = some n.toUInt16) := by
  cases old with
  | none =>
    cases new with
    | none => simp [setBatch]
    | some n =>
      -- a new peer gets one creating entry: the device holds it as the interface does
      have result : (setBatch k none (some n)).foldl peerAfter none =
          some (DevicePeer.ofPeer n) := by
        simp [setBatch, peerAfter, SetPeer.setReplaceAllowedIps, SetPeer.setUpdateOnly,
          SetPeer.ofPeer, DevicePeer.ofPeer]
      rw [Option.map_none, result]
      refine ⟨by simp, ?_⟩
      rintro p ⟨⟩
      exact ⟨_, rfl, fun ip => Iff.rfl, fun e he => by simp [DevicePeer.ofPeer, he],
        fun x hx => by simp [DevicePeer.ofPeer, hx]⟩
  | some o =>
    cases new with
    | none => simp [setBatch, peerAfter, SetPeer.setRemove, SetPeer.fromPublicKey]
    | some n =>
      -- a kept peer gets one update-only entry, replacing its allowed IPs if they changed
      have result : (setBatch k (some o) (some n)).foldl peerAfter
          ((some o).map DevicePeer.ofPeer) =
          some ⟨n.endpoint.or o.endpoint,
            (n.persistentKeepaliveInterval.map UInt32.toUInt16).or
              (o.persistentKeepaliveInterval.map UInt32.toUInt16),
            (if o.allowedIps != n.allowedIps then [] else (SetPeer.ofPeer o).allowedIps) ++
              (SetPeer.ofPeer n).allowedIps⟩ := by
        simp [setBatch, peerAfter, SetPeer.setReplaceAllowedIps, SetPeer.setUpdateOnly,
          SetPeer.ofPeer, DevicePeer.ofPeer]
      rw [result]
      refine ⟨by simp, ?_⟩
      rintro p ⟨⟩
      refine ⟨_, rfl, fun ip => ?_, fun e he => by simp [he], fun x hx => by simp [hx]⟩
      -- unchanged allowed IPs are sent again and appended: the same set
      by_cases same : o.allowedIps = n.allowedIps
      · simp [SetPeer.ofPeer, same]
      · simp [same]

/-- The device `dev` is what the set command from `source` to `target` should leave: the
target's peers, each with the target's allowed IPs, and with its endpoint and keepalive (cast to
`u16`) where the target has them; the private key and listen port of the target where it has
them, its fwmark where it is not zero, and otherwise the old values. -/
def SetRefinesTarget (source target : Interface) (dev : Device) : Prop :=
  dev.privateKey = target.privateKey.or source.privateKey ∧
  dev.listenPort = target.listenPort.or source.listenPort ∧
  dev.fwmark = (if target.fwmark = 0 then source.fwmark else target.fwmark) ∧
  (∀ k, (dev.peers k).isSome ↔ k ∈ target.peers) ∧
  ∀ k p, target.peers.lookup k = some p → ∃ d, dev.peers k = some d ∧
    (∀ ip, ip ∈ d.allowedIps ↔ ip ∈ (SetPeer.ofPeer p).allowedIps) ∧
    (∀ e, p.endpoint = some e → d.endpoint = some e) ∧
    (∀ n, p.persistentKeepaliveInterval = some n →
      d.persistentKeepaliveInterval = some n.toUInt16)

/-- The set command of `update`, applied to a device configured as the interface, leaves what
`SetRefinesTarget` says, for every target whose peers are held under their own keys. -/
theorem set_device_refines_target (s : State) (target : Interface)
    (ht : target.KeyedByOwnKey) :
    SetRefinesTarget s.interface target ((Device.ofInterface s.interface).apply
      (s.updateConstructSetDevice target (s.updateCalculateChanges target))) := by
  -- per key, the device's peer is what the key's batch makes of its old one
  have peers : ∀ k, ((Device.ofInterface s.interface).apply
      (s.updateConstructSetDevice target (s.updateCalculateChanges target))).peers k =
      (setBatch k (s.interface.peers.lookup k) (target.peers.lookup k)).foldl peerAfter
        ((s.interface.peers.lookup k).map DevicePeer.ofPeer) := by
    intro k
    simp only [Device.apply, Device.foldl_applyPeer_peers, forKey_setDevicePeers s target ht k]
    simp [State.updateConstructSetDevice, Device.ofInterface]
  refine ⟨by simp [Device.apply, State.updateConstructSetDevice, Device.ofInterface],
    by simp [Device.apply, State.updateConstructSetDevice, Device.ofInterface], ?_,
    fun k => ?_, fun k p hp => ?_⟩
  · simp only [Device.apply, State.updateConstructSetDevice, Device.foldl_applyPeer_fwmark]
    split <;> simp [Device.ofInterface, *]
  · rw [peers, (setBatch_result k _ _).1, AList.lookup_isSome]
  · rw [peers]
    exact (setBatch_result k _ _).2 p hp

/-- A task whose interface has fwmark 5 and no peers, and the target of `set_fwmark(0)` after
a peer of keepalive 65536, more than a `u16` holds, was added. -/
def markedState : State := ⟨⟨none, some 51820, 5, ∅⟩, [], [], false, 0⟩

def longKeepalivePeer : Peer :=
  ⟨PublicKey.filled 2, none, some 65536, [], none, none, none⟩

def unmarkedTarget : Interface :=
  { markedState.interface with
    fwmark := 0
    peers := markedState.interface.peers.insert longKeepalivePeer.publicKey longKeepalivePeer }

theorem set_device_refines_unmarked_target :
    unmarkedTarget.KeyedByOwnKey ∧
      SetRefinesTarget markedState.interface unmarkedTarget
        ((Device.ofInterface markedState.interface).apply
          (markedState.updateConstructSetDevice unmarkedTarget
            (markedState.updateCalculateChanges unmarkedTarget))) := by
  have keyed : unmarkedTarget.KeyedByOwnKey := by
    intro k p hp
    by_cases hk : k = longKeepalivePeer.publicKey
    · subst hk
      simp_all [unmarkedTarget]
    · simp only [unmarkedTarget, AList.lookup_insert_ne hk] at hp
      simp [markedState] at hp
  exact ⟨keyed, set_device_refines_target markedState unmarkedTarget keyed⟩

/-- The command leaves the device's fwmark at 5, not the target's 0, and gives the peer a
keepalive of 0, not 65536. -/
theorem set_device_keeps_fwmark_truncates_keepalive :
    let dev := (Device.ofInterface markedState.interface).apply
      (markedState.updateConstructSetDevice unmarkedTarget
        (markedState.updateCalculateChanges unmarkedTarget))
    unmarkedTarget.fwmark = 0 ∧ dev.fwmark = 5 ∧
      longKeepalivePeer.persistentKeepaliveInterval = some 65536 ∧
      (dev.peers longKeepalivePeer.publicKey).map (·.persistentKeepaliveInterval) =
        some (some 0) := by
  decide

end Libtelio.TelioWg
