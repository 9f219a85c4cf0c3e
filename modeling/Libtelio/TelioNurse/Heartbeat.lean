/- The heartbeat analytics of `telio-nurse` (`heartbeat.rs`).

   Every collection interval a node asks each of its peers for their view of the mesh: the
   meshnet id they belong to, their fingerprint and the state of their links. When the answers
   are in it aggregates them: it elects the meshnet id most local nodes reported, sorts the
   nodes that reported it by key, and writes a connectivity matrix of the links between them
   that are not both WireGuard and DERP connected.

   The task is a state machine over the branches of its `select!` and the two calls the nurse
   makes on it (`Input`). Maps are `Collections.HashMap`s. The aggregation walks two maps whose
   order its result depends on, the id heatmap and the index map; their walks are part of the
   aggregation's input (`IterationOrder`). Rust strings are lists of characters, and the timers
   are the inputs `tick` and `collectTimeout`. -/

import Libtelio.Lib.Collections
import Libtelio.Lib.MaxBy
import Libtelio.Lib.Run
import Libtelio.TelioModel.Mesh
import Mathlib.Data.Finset.Erase
import Mathlib.Data.Finset.Insert
import Mathlib.Data.List.Sort

set_option autoImplicit false
set_option relaxedAutoImplicit false

namespace Libtelio.TelioNurse

open Libtelio.TelioCrypto Libtelio.TelioModel Libtelio.Lib.Collections Libtelio.Lib.MaxBy

/-- `Uuid`: sixteen bytes. -/
structure Uuid where
  bytes : Vector UInt8 16
  deriving DecidableEq, Repr

/-- `Uuid::from_slice`: exactly sixteen bytes. -/
def Uuid.fromSlice (b : List UInt8) : Option Uuid :=
  if h : b.length = 16 then some ⟨⟨b.toArray, by rw [List.size_toArray, h]⟩⟩ else none

/-- A byte as two lower-case hex digits. -/
def hexByte (b : UInt8) : List Char :=
  [Nat.digitChar (b.toNat / 16), Nat.digitChar (b.toNat % 16)]

/-- `Uuid::to_string`: the hyphenated form, groups of 4, 2, 2, 2 and 6 bytes. -/
def Uuid.toString (u : Uuid) : List Char :=
  let group (a b : Nat) := ((u.bytes.toList.drop a).take (b - a)).flatMap hexByte
  group 0 4 ++ '-' :: group 4 6 ++ '-' :: group 6 8 ++ '-' :: group 8 10 ++ '-' :: group 10 16

/-- `MeshConnectionState`: bit flags over `u32`. -/
structure MeshConnectionState where
  bits : UInt32
  deriving DecidableEq, Repr

/-- `MeshConnectionState::NONE`. -/
def MeshConnectionState.none : MeshConnectionState := ⟨0⟩

/-- `MeshConnectionState::DERP`. -/
def MeshConnectionState.derp : MeshConnectionState := ⟨1⟩

/-- `MeshConnectionState::WG`. -/
def MeshConnectionState.wg : MeshConnectionState := ⟨2⟩

/-- `all()`: every flag. -/
def MeshConnectionState.all : MeshConnectionState := ⟨3⟩

/-- `a | b`. -/
def MeshConnectionState.or (a b : MeshConnectionState) : MeshConnectionState :=
  ⟨a.bits ||| b.bits⟩

/-- `set(other, value)`: insert or remove the flags of `other`. -/
def MeshConnectionState.set (s other : MeshConnectionState) (value : Bool) : MeshConnectionState :=
  if value then ⟨s.bits ||| other.bits⟩ else ⟨s.bits &&& ~~~other.bits⟩

/-- `from_bits`: the state, unless a bit outside `all()` is set. -/
def MeshConnectionState.fromBits (bits : UInt32) : Option MeshConnectionState :=
  if bits &&& ~~~MeshConnectionState.all.bits = 0 then some ⟨bits⟩ else none

/-- `MeshLink`: the state of a link between two nodes. -/
structure MeshLink where
  connectionState : MeshConnectionState
  deriving DecidableEq, Repr

/-- `MeshLink::default()`: no connection. -/
def MeshLink.default : MeshLink := ⟨MeshConnectionState.none⟩

/-- `Ord::min` of the derived order, which compares the bits: `a` unless `b` is less. -/
def MeshLink.min (a b : MeshLink) : MeshLink :=
  if b.connectionState.bits < a.connectionState.bits then b else a

/-- `NodeInfo`: what a node knows of another. -/
inductive NodeInfo
  | node (meshLink : MeshLink) (meshnetId : Option Uuid)
  | vpn (meshLink : MeshLink) (hostname : Option String)
  deriving DecidableEq

/-- `NodeInfo::mesh_link`. -/
def NodeInfo.meshLink : NodeInfo → MeshLink
  | .node meshLink _ => meshLink
  | .vpn meshLink _ => meshLink

/-- `NodeInfo::default()`: a node with no link and no meshnet id. -/
def NodeInfo.default : NodeInfo := .node MeshLink.default none

/-- `mesh_link.connection_state.set(DERP, value)` on either kind of node. -/
def NodeInfo.setDerp (value : Bool) : NodeInfo → NodeInfo
  | .node meshLink meshnetId =>
    .node ⟨meshLink.connectionState.set MeshConnectionState.derp value⟩ meshnetId
  | .vpn meshLink hostname =>
    .vpn ⟨meshLink.connectionState.set MeshConnectionState.derp value⟩ hostname

/-- The `Heartbeat.Type` of a message. -/
inductive HeartbeatType
  | request
  | response
  deriving DecidableEq, Repr

/-- `Heartbeat.Status`: a sender's link to `node`. -/
structure HeartbeatStatus where
  node : List UInt8
  connectionState : UInt32
  deriving DecidableEq, Repr

/-- `HeartbeatMessage`. -/
structure HeartbeatMessage where
  messageType : HeartbeatType
  meshnetId : List UInt8
  nodeFingerprint : List Char
  statuses : List HeartbeatStatus
  deriving DecidableEq, Repr

/-- `HeartbeatMessage::request()`. -/
def HeartbeatMessage.request : HeartbeatMessage := ⟨.request, [], [], []⟩

/-- `HeartbeatMessage::response(meshnet_id, node_fingerprint, statuses)`. -/
def HeartbeatMessage.response (meshnetId : List UInt8) (nodeFingerprint : List Char)
    (statuses : List HeartbeatStatus) : HeartbeatMessage :=
  ⟨.response, meshnetId, nodeFingerprint, statuses⟩

/-- `HeartbeatInfo`: what an aggregation reports to the nurse. -/
structure HeartbeatInfo where
  meshnetId : List Char
  fingerprints : List Char
  connectivityMatrix : List Char
  internalSortedPublicKeys : List PublicKey
  externalSortedPublicKeys : List PublicKey
  heartbeatInterval : Int
  externalLinks : List Char
  deriving DecidableEq

/-- The fields of `HeartbeatConfig` the task reads: the collection interval in seconds and the
node's fingerprint. -/
structure HeartbeatConfig where
  collectInterval : Nat
  fingerprint : List Char
  deriving DecidableEq

/-- `RuntimeState`. -/
inductive RuntimeState
  | monitoring
  | collecting
  | aggregating
  deriving DecidableEq, Repr

/-- `Analytics`, without its timers and channels. -/
structure Analytics where
  config : HeartbeatConfig
  meshnetId : Uuid
  state : RuntimeState
  cachedConfig : Option (List PublicKey × List PublicKey)
  cachedPrivateKey : Option SecretKey
  publicKey : PublicKey
  externalLinks : HashMap (PublicKey × PublicKey) MeshLink
  collectedMeshnetIds : HashMap PublicKey Uuid
  nodeFingerprints : HashMap PublicKey (List Char)
  localNodes : HashMap PublicKey NodeInfo
  configLocalNodes : Finset PublicKey
  derpConnection : Bool

/-- `Analytics::new`: no data yet, and the node itself config-local. -/
def Analytics.new (publicKey : PublicKey) (meshnetId : Uuid) (config : HeartbeatConfig) :
    Analytics where
  config := config
  meshnetId := meshnetId
  state := .monitoring
  cachedConfig := none
  cachedPrivateKey := none
  publicKey := publicKey
  externalLinks := ∅
  collectedMeshnetIds := ∅
  nodeFingerprints := ∅
  localNodes := ∅
  configLocalNodes := {publicKey}
  derpConnection := false

/-- A message sent by the task: a heartbeat to a node, or the aggregation's report. -/
inductive Output
  | heartbeat (pk : PublicKey) (message : HeartbeatMessage)
  | analytics (info : HeartbeatInfo)

section Handlers

variable (publicOf : SecretKey → PublicKey)

/-- `update_public_key`: in the monitoring state, take the cached private key's public key,
make it the config-local one in place of the old, and point the external links that ended at
the old key to it. -/
def updatePublicKey (s : Analytics) : Analytics :=
  if s.state = .monitoring then
    match s.cachedPrivateKey with
    | some privateKey =>
      let old := s.publicKey
      let new := publicOf privateKey
      { s with
        cachedPrivateKey := none
        publicKey := new
        configLocalNodes := insert new (s.configLocalNodes.erase old)
        externalLinks := fromIter ((toPairs s.externalLinks).map fun e =>
          if e.1.2 = old then ((e.1.1, new), e.2) else e) }
    | none => s
  else s

/-- The body of the loop over the removed nodes of `update_nodes`: the node's links, fingerprint
and local node go. -/
def forgetNode (s : Analytics) (node : PublicKey) : Analytics :=
  { s with
    externalLinks := retain (fun k _ => node != k.1 && node != k.2) s.externalLinks
    nodeFingerprints := s.nodeFingerprints.erase node
    localNodes := s.localNodes.erase node }

/-- `update_nodes`: in the monitoring state, forget the removed nodes of the cached config and
add its new ones. -/
def updateNodes (s : Analytics) : Analytics :=
  if s.state = .monitoring then
    match s.cachedConfig with
    | some (newNodes, removedNodes) =>
      let removed := removedNodes.foldl forgetNode { s with cachedConfig := none }
      { removed with
        localNodes := newNodes.foldl (fun m node => orInsert node NodeInfo.default m)
          removed.localNodes }
    | none => s
  else s

/-- `handle_wg_event`: a node event with a state records the node's WireGuard link, unless the
node is known already. Any other event is `none`. -/
def handleWgEvent (s : Analytics) : Option Node → Analytics
  | some node =>
    match node.state with
    | some state =>
      let meshLink : MeshLink :=
        ⟨MeshConnectionState.none.set MeshConnectionState.wg (state == .connected)⟩
      let nodeInfo := if node.isVpn then NodeInfo.vpn meshLink node.hostname
        else NodeInfo.node meshLink none
      { s with localNodes := orInsert node.publicKey nodeInfo s.localNodes }
    | none => s
  | none => s

/-- `handle_derp_event`: whether the relay is connected. -/
def handleDerpEvent (s : Analytics) (connected : Bool) : Analytics :=
  { s with derpConnection := connected }

/-- `handle_config_update_event`: the config's local nodes join `config_local_nodes`. -/
def handleConfigUpdateEvent (s : Analytics) (localNodes : List PublicKey) : Analytics :=
  { s with configLocalNodes := localNodes.foldl (fun set node => insert node set) s.configLocalNodes }

/-- `handle_collection`: forget the last cycle's links and ids, keep our own id, give every
local node a fingerprint and ask each for its data. -/
def handleCollection (s : Analytics) : Analytics × List Output :=
  ({ s with
      externalLinks := ∅
      collectedMeshnetIds := (∅ : HashMap PublicKey Uuid).insert s.publicKey s.meshnetId
      nodeFingerprints := s.localNodes.keys.foldl (fun m pk => orInsert pk "null".toList m)
        s.nodeFingerprints
      state := .collecting },
    s.localNodes.keys.map fun pk => .heartbeat pk HeartbeatMessage.request)

/-- `handle_request_message`: our meshnet id, fingerprint and the links to our local nodes. -/
def handleRequestMessage (s : Analytics) (pk : PublicKey) : Output :=
  .heartbeat pk (HeartbeatMessage.response s.meshnetId.bytes.toList s.config.fingerprint
    ((toPairs s.localNodes).map fun link => ⟨link.1.bytes.toList, link.2.meshLink.connectionState.bits⟩))

/-- The link a status of a response reports, unless its state or key does not parse. -/
def statusLink (pk : PublicKey) (status : HeartbeatStatus) :
    Option (PublicKey × PublicKey × MeshLink) := do
  let connectionState ← MeshConnectionState.fromBits status.connectionState
  let otherKey ← PublicKey.tryFrom status.node
  pure (pk, otherKey, ⟨connectionState⟩)

/-- `handle_response_message`: record the sender's meshnet id (unless it has one already this
cycle), its fingerprint and the links it reports. -/
def handleResponseMessage (s : Analytics) (pk : PublicKey) (message : HeartbeatMessage) :
    Analytics :=
  let s := match Uuid.fromSlice message.meshnetId with
    | some received =>
      { s with
        collectedMeshnetIds := orInsert pk received s.collectedMeshnetIds
        localNodes := modify pk NodeInfo.default (fun
            | .node meshLink _ => .node meshLink (some received)
            | info => info) s.localNodes }
    | none => s
  let s := { s with nodeFingerprints := s.nodeFingerprints.insert pk message.nodeFingerprint }
  let connections := message.statuses.filterMap (statusLink pk)
  { s with
    externalLinks := connections.foldl (fun m c => m.insert (c.1, c.2.1) c.2.2) s.externalLinks }

/-- `handle_receive`: a message from `pk` shows both DERP directions with it working; a request
is answered, a response is taken only while collecting. -/
def handleReceive (s : Analytics) (pk : PublicKey) (message : HeartbeatMessage) :
    Analytics × List Output :=
  let s := { s with
    externalLinks := modify (pk, s.publicKey) MeshLink.default
      (fun link => ⟨link.connectionState.set MeshConnectionState.derp true⟩) s.externalLinks
    localNodes := modify pk NodeInfo.default (NodeInfo.setDerp true) s.localNodes }
  match message.messageType with
  | .request => (s, [handleRequestMessage s pk])
  | .response => if s.state ≠ .collecting then (s, []) else (handleResponseMessage s pk message, [])

/-- The walks of the two maps of `handle_aggregation` whose order its result depends on, the id
heatmap and the index map: any order of each map's entries. -/
structure IterationOrder where
  heatmap : HashMap Uuid Nat → List (Uuid × Nat)
  heatmap_walk : ∀ m, IsWalk (heatmap m) m
  index : HashMap PublicKey UInt8 → List (PublicKey × UInt8)
  index_walk : ∀ m, IsWalk (index m) m

/-- A step of the heatmap loop: the id of a config-local key is counted once more. -/
def countReport (configLocalNodes : Finset PublicKey) (heatmap : HashMap Uuid Nat)
    (e : PublicKey × Uuid) : HashMap Uuid Nat :=
  if e.1 ∈ configLocalNodes then modify e.2 0 (· + 1) heatmap else heatmap

/-- `id_heatmap`: for each id, how many of the keys of `collected_meshnet_ids` that are
config-local reported it. -/
def idHeatmap (collected : HashMap PublicKey Uuid) (configLocalNodes : Finset PublicKey) :
    HashMap Uuid Nat :=
  (toPairs collected).foldl (countReport configLocalNodes) ∅

/-- The election of `meshnet_id` from the walk `heatmap` of the id heatmap: the id of greatest
count (`max_by` on the counts), then the id of the greatest key of `collected` that reported it
(`max_by` on the keys). `none` is the panic of either `expect`. -/
def electMeshnetId (heatmap : List (Uuid × Nat)) (collected : HashMap PublicKey Uuid) :
    Option Uuid := do
  let maxValue ← (maxBy (compareOn Prod.snd) heatmap).map Prod.fst
  let chosen ← maxBy (compareOn Prod.fst) ((toPairs collected).filter fun e => maxValue == e.2)
  pure chosen.2

/-- `slice::sort` of distinct keys. -/
def sortKeys (keys : List PublicKey) : List PublicKey :=
  keys.insertionSort (· ≤ ·)

/-- The filter of `internal_sorted_public_keys`: a node that reported the elected id. -/
def reportedElected (meshnetId : Uuid) : NodeInfo → Bool
  | .node _ (some id) => id == meshnetId
  | _ => false

/-- The filter of `external_sorted_public_keys`: a VPN node, or a node with no id or another. -/
def reportedOther (meshnetId : Uuid) : NodeInfo → Bool
  | .node _ (some id) => id != meshnetId
  | _ => true

/-- `index_map`: each key under its position in `internal`, narrowed by `i as u8`. -/
def indexMap (internal : List PublicKey) : HashMap PublicKey UInt8 :=
  internal.zipIdx.foldl (fun m e => orInsert e.1 (UInt8.ofNat e.2) m) ∅

/-- `fold(String::new(), |o, t| o + t + ",")` and then `pop()`. -/
def joinFingerprints (fingerprints : List (List Char)) : List Char :=
  (fingerprints.foldl (fun o t => o ++ t ++ [',']) []).dropLast

/-- The padding of `external_links`: a default link from each key of the index map but ours to
each other one, where there is no link yet. -/
def padExternalLinks (publicKey : PublicKey) (keys : List PublicKey)
    (links : HashMap (PublicKey × PublicKey) MeshLink) : HashMap (PublicKey × PublicKey) MeshLink :=
  keys.foldl (fun links i => keys.foldl (fun links j =>
    if i ≠ publicKey ∧ i ≠ j then orInsert (i, j) MeshLink.default links else links) links) links

/-- `combined_map`: our links to the internal nodes (`local_links`) chained with the external
links and collected, so that an external link overrides a local one. -/
def combinedLinks (publicKey : PublicKey) (internal : List PublicKey) (node : PublicKey → NodeInfo)
    (externalLinks : HashMap (PublicKey × PublicKey) MeshLink) :
    HashMap (PublicKey × PublicKey) MeshLink :=
  let localLinks := fromIter (internal.map fun k => ((publicKey, k), (node k).meshLink))
  fromIter (toPairs localLinks ++ toPairs externalLinks)

/-- An entry `i:j:bits` of the connectivity matrix. -/
abbrev MatrixEntry := UInt8 × UInt8 × UInt32

/-- `WG | DERP`: a link in this state is left out of the matrix. -/
def defaultState : MeshConnectionState :=
  MeshConnectionState.wg.or MeshConnectionState.derp

/-- The inner loop of the matrix for `i` over the walk of the index map: it stops at the first
smaller index (`break`), skips `i` itself, and writes the pair's worse link unless it is the
default. `none` is the panic of a `combined_map` index. -/
def matrixRow (combined : HashMap (PublicKey × PublicKey) MeshLink) (i : PublicKey × UInt8) :
    List (PublicKey × UInt8) → Option (List MatrixEntry)
  | [] => some []
  | j :: js =>
    if i.2 > j.2 then some []
    else if i.2 ≠ j.2 then do
      let link1 ← combined.lookup (i.1, j.1)
      let link2 ← combined.lookup (j.1, i.1)
      let min := link1.min link2
      let rest ← matrixRow combined i js
      pure (if min.connectionState ≠ defaultState then
        (i.2, j.2, min.connectionState.bits) :: rest else rest)
    else matrixRow combined i js

/-- The matrix loop: the inner loop for each `i` of the walk, over the same walk. -/
def matrixEntries (combined : HashMap (PublicKey × PublicKey) MeshLink)
    (walk : List (PublicKey × UInt8)) : Option (List MatrixEntry) :=
  (walk.mapM fun i => matrixRow combined i walk).map List.flatten

/-- `write!(matrix, "{}:{}:{},", ..)` for each entry, and the `pop()` of the last comma. -/
def renderMatrix (entries : List MatrixEntry) : List Char :=
  let written := entries.foldl (fun s e => s ++ (ToString.toString e.1).toList ++
    ':' :: (ToString.toString e.2.1).toList ++ ':' :: (ToString.toString e.2.2).toList ++ [',']) []
  if written.isEmpty then written else written.dropLast

/-- The part of `external_links` for one external node: its meshnet id (`vpn` for a VPN node),
its fingerprint (a VPN node's hostname) and its link's bits. -/
def externalLink (nodeFingerprints : HashMap PublicKey (List Char)) (key : PublicKey) :
    NodeInfo → List Char
  | .vpn meshLink hostname =>
    "vpn".toList ++ ':' :: ((hostname.map String.toList).getD "no-fingerprint".toList) ++
      ':' :: (ToString.toString meshLink.connectionState.bits).toList ++ [',']
  | .node meshLink meshnetId =>
    ((meshnetId.map Uuid.toString).getD "no-mesh-id".toList) ++
      ':' :: ((nodeFingerprints.lookup key).getD "no-fingerprint".toList) ++
      ':' :: (ToString.toString meshLink.connectionState.bits).toList ++ [',']

/-- `i32::try_from(secs).unwrap_or(0)`. -/
def heartbeatInterval (secs : Nat) : Int :=
  if secs < 2 ^ 31 then secs else 0

/-- The body of `handle_aggregation` up to the report: elect the meshnet id, split the known
nodes into the internal ones, which reported it, and the external ones, pad the external links,
and report the fingerprints, the connectivity matrix of the internal nodes and the external
links. `none` is a panic. -/
def aggregate (order : IterationOrder) (s : Analytics) : Option (Analytics × HeartbeatInfo) := do
  let meshnetId ← electMeshnetId (order.heatmap (idHeatmap s.collectedMeshnetIds
    s.configLocalNodes)) s.collectedMeshnetIds
  let derpUpdated := mapValues (NodeInfo.setDerp s.derpConnection) s.localNodes
  let nodeFingerprints := orInsert s.publicKey s.config.fingerprint s.nodeFingerprints
  let keys := nodeFingerprints.keys
  -- the `entry(key).or_default()` of the filters leaves a node under every key
  let localNodes := keys.foldl (fun m k => orInsert k NodeInfo.default m) derpUpdated
  let node (k : PublicKey) := (localNodes.lookup k).getD NodeInfo.default
  let internal := sortKeys (keys.filter fun k => reportedElected meshnetId (node k))
  let external := sortKeys (keys.filter fun k => reportedOther meshnetId (node k))
  let index := indexMap internal
  let fingerprints ← internal.mapM fun k => nodeFingerprints.lookup k
  let externalLinks := padExternalLinks s.publicKey index.keys s.externalLinks
  let matrix ← matrixEntries (combinedLinks s.publicKey internal node externalLinks)
    (order.index index)
  let info : HeartbeatInfo :=
    { meshnetId := meshnetId.toString
      fingerprints := joinFingerprints fingerprints
      connectivityMatrix := renderMatrix matrix
      internalSortedPublicKeys := internal
      externalSortedPublicKeys := external
      heartbeatInterval := heartbeatInterval s.config.collectInterval
      externalLinks := (external.foldl (fun text k =>
        text ++ externalLink nodeFingerprints k (node k)) []).dropLast }
  pure ({ s with
    meshnetId := meshnetId
    localNodes := localNodes
    nodeFingerprints := nodeFingerprints
    externalLinks := externalLinks
    state := .monitoring }, info)

/-- `handle_aggregation`: the aggregation, and then, back in the monitoring state, a key or
config change that came in meanwhile. -/
def handleAggregation (order : IterationOrder) (s : Analytics) :
    Option (Analytics × HeartbeatInfo) :=
  (aggregate order s).map fun r => (updateNodes (updatePublicKey publicOf r.1), r.2)

/-- What wakes the task: a branch of its `select!` or a call of the nurse. -/
inductive Input
  | wgEvent (node : Option Node)
  | derpEvent (connected : Bool)
  | configUpdate (localNodes : List PublicKey)
  | tick
  | receive (pk : PublicKey) (message : HeartbeatMessage)
  | collectTimeout (order : IterationOrder)
  | setNodes (newNodes removedNodes : List PublicKey)
  | setPrivateKey (privateKey : SecretKey)

/-- The guards of the `select!` branches: events and the interval only while monitoring, the
aggregation only while collecting; messages and the nurse's calls at any time. -/
def enabled (s : Analytics) : Input → Bool
  | .wgEvent _ | .derpEvent _ | .configUpdate _ | .tick => s.state == .monitoring
  | .collectTimeout _ => s.state == .collecting
  | .receive .. | .setNodes .. | .setPrivateKey _ => true

/-- Whether a run may take `input` at `t`: it is enabled there, or the task is down. -/
def allowed : Option Analytics → Input → Bool
  | some s, input => enabled s input
  | none, _ => true

/-- One input handled: the new state and what was sent, or `none` for a panic. -/
def handle (s : Analytics) : Input → Option (Analytics × List Output)
  | .wgEvent node => some (handleWgEvent s node, [])
  | .derpEvent connected => some (handleDerpEvent s connected, [])
  | .configUpdate localNodes => some (handleConfigUpdateEvent s localNodes, [])
  | .tick => some (handleCollection s)
  | .receive pk message => some (handleReceive s pk message)
  | .collectTimeout order =>
    (handleAggregation publicOf order s).map fun r => (r.1, [.analytics r.2])
  | .setNodes newNodes removedNodes =>
    some (updateNodes { s with cachedConfig := some (newNodes, removedNodes) }, [])
  | .setPrivateKey privateKey =>
    some (updatePublicKey publicOf { s with cachedPrivateKey := some privateKey }, [])

/-- The task's state after an input; a panicked task (`none`) stays down. -/
def step (t : Option Analytics) (input : Input) : Option Analytics :=
  t.bind fun s => (handle publicOf s input).map Prod.fst

end Handlers

end Libtelio.TelioNurse
