import FieldConfig.Network.Resolution
import FieldConfig.Proofs.Network.Stations
import Mathlib.Data.Set.Insert
import Mathlib.Logic.Relation

set_option autoImplicit false

-- All that a search can do to a resolution, one change at a time. What every change keeps, every
-- search keeps, however it ends.
namespace FieldConfig

structure Resolution.Onward (before after : Resolution) : Prop where
  resolved : ∀ name, before.progress name = .resolved →
    after.progress name = .resolved ∧ after.registers name = before.registers name
  started : ∀ name, before.progress name ≠ .pending → after.progress name ≠ .pending
  order : before.order <+: after.order

def Resolution.busy (resolution : Resolution) : Set String :=
  {name | resolution.progress name = .inProgress}

namespace Network

-- A device is completed from what its targets expose at that moment, and all of them are resolved.
inductive Step (network : Network) (catalog : Catalog) (before : Resolution) : Resolution → Prop where
  | enter (station : Station) (member : station ∈ network.stations)
      (pending : before.progress station.hostname = .pending) :
      Step network catalog before (before.enter station.hostname)
  | complete (station : Station) (targets : List Station) (registers : RegisterSet)
      (member : station ∈ network.stations)
      (entered : before.progress station.hostname = .inProgress)
      (known : station.device.polled.map network.station? = targets.map some)
      (ready : ∀ target ∈ targets, before.progress target.hostname = .resolved)
      (collected : station.device.collect catalog (targets.map before.exposed) = .ok registers) :
      Step network catalog before (before.complete station.hostname registers)

abbrev Steps (network : Network) (catalog : Catalog) : Resolution → Resolution → Prop :=
  Relation.ReflTransGen (network.Step catalog)

def pendingCount (network : Network) (resolution : Resolution) : Nat :=
  network.stations.countP fun station => resolution.progress station.hostname = .pending

end Network

namespace Resolution

theorem onward_refl (resolution : Resolution) : resolution.Onward resolution :=
  ⟨fun _ resolved => ⟨resolved, rfl⟩, fun _ started => started, List.prefix_rfl⟩

theorem onward_trans (a b c : Resolution) (ab : a.Onward b) (bc : b.Onward c) : a.Onward c where
  resolved name resolved := by
    obtain ⟨resolvedB, sameB⟩ := ab.resolved name resolved
    obtain ⟨resolvedC, sameC⟩ := bc.resolved name resolvedB
    exact ⟨resolvedC, sameC.trans sameB⟩
  started name started := bc.started name (ab.started name started)
  order := ab.order.trans bc.order

theorem onward_exposed (before after : Resolution) (onward : before.Onward after) (target : Station)
    (resolved : before.progress target.hostname = .resolved) :
    after.exposed target = before.exposed target := by
  rw [exposed, exposed, (onward.resolved target.hostname resolved).2]

theorem busy_enter (resolution : Resolution) (hostname : String) :
    (resolution.enter hostname).busy = insert hostname resolution.busy := by
  ext name
  by_cases same : name = hostname <;> simp [busy, same]

theorem busy_complete (resolution : Resolution) (hostname : String) (registers : RegisterSet) :
    (resolution.complete hostname registers).busy = resolution.busy \ {hostname} := by
  ext name
  by_cases same : name = hostname <;> simp [busy, same]

end Resolution

namespace Network

theorem step_onward (network : Network) (catalog : Catalog) (before after : Resolution)
    (step : network.Step catalog before after) : before.Onward after := by
  cases step with
  | enter station _ pending =>
      refine ⟨fun name resolved => ?_, fun name started => ?_, by simp⟩
      · have different : name ≠ station.hostname := by
          intro same
          simp [same, pending] at resolved
        simpa [different] using resolved
      · by_cases same : name = station.hostname <;> simp [same, started]
  | complete station _ registers _ entered _ _ _ =>
      refine ⟨fun name resolved => ?_, fun name started => ?_, by simp⟩
      · have different : name ≠ station.hostname := by
          intro same
          simp [same, entered] at resolved
        simpa [different] using resolved
      · by_cases same : name = station.hostname <;> simp [same, started]

theorem steps_onward (network : Network) (catalog : Catalog) (before after : Resolution)
    (steps : network.Steps catalog before after) : before.Onward after := by
  induction steps with
  | refl => exact before.onward_refl
  | tail _ step ih => exact Resolution.onward_trans _ _ _ ih (network.step_onward catalog _ _ step)

theorem steps_preserve (network : Network) (catalog : Catalog) (invariant : Resolution → Prop)
    (preserved : ∀ before after, network.Step catalog before after → invariant before → invariant after)
    (before after : Resolution) (steps : network.Steps catalog before after)
    (initial : invariant before) : invariant after := by
  induction steps with
  | refl => exact initial
  | tail _ step ih => exact preserved _ _ step ih

theorem pending_onward (network : Network) (before after : Resolution)
    (onward : before.Onward after) : network.pendingCount after ≤ network.pendingCount before := by
  refine List.countP_mono_left fun station _ pending => ?_
  have idle : before.progress station.hostname = .pending := by
    by_contra started
    exact onward.started station.hostname started (by simpa using pending)
  simpa using idle

theorem pending_enter (network : Network) (resolution : Resolution) (station : Station)
    (member : station ∈ network.stations) (pending : resolution.progress station.hostname = .pending) :
    network.pendingCount (resolution.enter station.hostname) < network.pendingCount resolution := by
  obtain ⟨before, after, split⟩ := List.append_of_mem member
  have mono : ∀ stations : List Station,
      stations.countP (fun s => (resolution.enter station.hostname).progress s.hostname = .pending) ≤
        stations.countP fun s => resolution.progress s.hostname = .pending := by
    refine fun stations => List.countP_mono_left fun other _ idle => ?_
    by_cases same : other.hostname = station.hostname
    · simp [same] at idle
    · simpa [same] using idle
  have left := mono before
  have right := mono after
  -- The device itself is counted before and no longer after.
  rw [pendingCount, pendingCount, split, List.countP_append, List.countP_append,
    List.countP_cons_of_neg (by simp), List.countP_cons_of_pos (by simpa using pending)]
  omega

end Network
end FieldConfig
