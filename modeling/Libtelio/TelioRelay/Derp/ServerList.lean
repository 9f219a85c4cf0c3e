/- The relay server list as `Config::reset` and `Config::get_server` walk it (`derp/mod.rs`).

   Between two resets `get_server` hands out the servers in ascending weight order, each once,
   and then nothing: after `k` calls the list is `rotation c.ordered k`, the servers in the
   order `reset` leaves them with the first `k` marked used. A list in that state is already
   sorted, so resetting it gives back the same order, which is what makes the walks of the
   stunner and of the relay's connection loop round robins. -/

import Mathlib
import Libtelio.TelioRelay.Derp.Config

set_option autoImplicit false
set_option relaxedAutoImplicit false

namespace Libtelio.TelioRelay.Derp

/-- The server with its `used` flag set to `used`. -/
def Server.withUsed (used : Bool) (server : Server) : Server := { server with used }

@[simp] theorem Server.withUsed_withUsed (a b : Bool) (server : Server) :
    (server.withUsed a).withUsed b = server.withUsed b := rfl

@[simp] theorem Server.weight_withUsed (used : Bool) (server : Server) :
    (server.withUsed used).weight = server.weight := rfl

@[simp] theorem Server.used_withUsed (used : Bool) (server : Server) :
    (server.withUsed used).used = used := rfl

instance : Std.Total fun a b : Server => a.weight ≤ b.weight :=
  ⟨fun a b => UInt32.le_total a.weight b.weight⟩

instance : IsTrans Server fun a b => a.weight ≤ b.weight :=
  ⟨fun _ _ _ => UInt32.le_trans⟩

namespace Config

/-- The servers in the order `reset` leaves them: by weight, ties in list order, none used. -/
def ordered (self : Config) : List Server :=
  (self.servers.insertionSort fun a b => a.weight ≤ b.weight).map (Server.withUsed false)

/-- A server list `k` calls of `get_server` after its reset: the first `k` servers used. -/
def rotation (servers : List Server) (k : Nat) : List Server :=
  servers.mapIdx fun i server => server.withUsed (decide (i < k))

theorem reset_eq (self : Config) : self.reset = { self with servers := self.ordered } := rfl

@[simp] theorem length_ordered (self : Config) : self.ordered.length = self.servers.length := by
  simp [ordered, List.length_insertionSort]

theorem rotation_cons (server : Server) (servers : List Server) (k : Nat) :
    rotation (server :: servers) k =
      server.withUsed (decide (0 < k)) :: rotation servers (k - 1) := by
  simp only [rotation, List.mapIdx_cons, List.cons.injEq, true_and]
  congr 1
  funext i s
  congr 2
  exact propext (by omega)

@[simp] theorem length_rotation (servers : List Server) (k : Nat) :
    (rotation servers k).length = servers.length := by
  simp [rotation]

theorem map_weight_rotation (servers : List Server) (k : Nat) :
    (rotation servers k).map Server.weight = servers.map Server.weight := by
  induction servers generalizing k with
  | nil => rfl
  | cons server servers ih => simp [rotation_cons, ih]

/-- Clearing the flags forgets how far the rotation had gone. -/
theorem map_withUsed_rotation (servers : List Server) (k : Nat) :
    (rotation servers k).map (Server.withUsed false) = servers.map (Server.withUsed false) := by
  induction servers generalizing k with
  | nil => rfl
  | cons server servers ih => simp [rotation_cons, ih]

theorem rotation_zero (servers : List Server) :
    rotation servers 0 = servers.map (Server.withUsed false) := by
  induction servers with
  | nil => rfl
  | cons server servers ih => simp [rotation_cons, ih]

theorem map_withUsed_ordered (self : Config) :
    self.ordered.map (Server.withUsed false) = self.ordered := by
  simp [ordered, Function.comp_def]

theorem rotation_zero_ordered (self : Config) : rotation self.ordered 0 = self.ordered := by
  rw [rotation_zero, map_withUsed_ordered]

theorem pairwise_ordered (self : Config) :
    self.ordered.Pairwise fun a b => a.weight ≤ b.weight := by
  rw [ordered, List.pairwise_map]
  exact List.pairwise_insertionSort _ _

/-- One call of `get_server` on a list `k` calls after its reset: the `k`-th server, marked
used, or nothing once all are. -/
theorem getServerFrom_rotation (servers : List Server) (k : Nat) :
    getServerFrom (rotation servers k) =
      (rotation servers (k + 1), servers[k]?.map (Server.withUsed true)) := by
  induction servers generalizing k with
  | nil => rfl
  | cons server servers ih =>
    cases k with
    | zero =>
      simp [getServerFrom, rotation_cons]
      rfl
    | succ k =>
      have skip : (server.withUsed (decide (0 < k + 1))).used = true := by simp
      simp only [rotation_cons, getServerFrom, skip, Bool.not_true, Bool.false_eq_true,
        if_false, Nat.add_sub_cancel, ih]
      simp

theorem getServer_rotation (self : Config) (k : Nat) :
    getServer { self with servers := rotation self.ordered k } =
      ({ self with servers := rotation self.ordered (k + 1) },
        self.ordered[k]?.map (Server.withUsed true)) := by
  simp [getServer, getServerFrom_rotation]

/-- `reset` of a list in any state of its rotation: the list is sorted already, so only the
flags change. -/
theorem reset_rotation (self : Config) (k : Nat) :
    ({ self with servers := rotation self.ordered k } : Config).reset = self.reset := by
  have sorted : (rotation self.ordered k).Pairwise fun a b => a.weight ≤ b.weight := by
    have weights := self.pairwise_ordered
    rw [← List.pairwise_map (f := Server.weight)] at weights ⊢
    rwa [map_weight_rotation]
  have cleared : (rotation self.ordered k).map (Server.withUsed false) = self.ordered := by
    rw [map_withUsed_rotation, map_withUsed_ordered]
  simp only [reset, sorted.insertionSort_eq]
  exact congrArg (fun servers => { self with servers }) cleared

/-- Between two resets, `get_server` hands out the servers in ascending weight order, ties in
list order, each once and marked used, and then nothing: after `k` calls the list holds the
first `k` servers used, and the next call returns the `k`-th, if there is one. -/
theorem getServer_iterate_reset (self : Config) (k : Nat) :
    (fun c => (getServer c).1)^[k] self.reset = { self with servers := rotation self.ordered k } ∧
      (getServer ((fun c => (getServer c).1)^[k] self.reset)).2 =
        self.ordered[k]?.map (Server.withUsed true) := by
  have state : ∀ k, (fun c => (getServer c).1)^[k] self.reset =
      { self with servers := rotation self.ordered k } := by
    intro k
    induction k with
    | zero => simp [reset_eq, rotation_zero_ordered]
    | succ k ih => rw [Function.iterate_succ_apply', ih, getServer_rotation]
  refine ⟨state k, ?_⟩
  rw [state k, getServer_rotation]

end Config

end Libtelio.TelioRelay.Derp
