import FieldConfig.Proofs.Resolution.History
import FieldConfig.Proofs.Resolution.Meaning
import Mathlib.Data.List.Nodup

set_option autoImplicit false

namespace FieldConfig.Network

structure Consistent (network : Network) (catalog : Catalog) (resolution : Resolution) : Prop where
  known : ∀ name, resolution.progress name ≠ .pending → (network.station? name).isSome
  distinct : resolution.order.Nodup
  listed : ∀ name, name ∈ resolution.order ↔ resolution.progress name = .resolved
  earlier : ∀ station ∈ network.stations, resolution.progress station.hostname = .resolved →
    ∀ name ∈ station.device.polled, resolution.progress name = .resolved ∧
      resolution.order.idxOf name < resolution.order.idxOf station.hostname
  meaning : ∀ station ∈ network.stations, resolution.progress station.hostname = .resolved →
    network.Means catalog station.hostname (resolution.registers station.hostname)
  blank : ∀ name, resolution.progress name ≠ .resolved → resolution.registers name = {}

theorem start_consistent (network : Network) (catalog : Catalog) : network.Consistent catalog {} where
  known name started := absurd rfl started
  distinct := List.nodup_nil
  listed name := by simp
  earlier station _ resolved := by simp at resolved
  meaning station _ resolved := by simp at resolved
  blank name _ := rfl

theorem enter_consistent (network : Network) (catalog : Catalog) (resolution : Resolution)
    (station : Station) (member : station ∈ network.stations)
    (pending : resolution.progress station.hostname = .pending)
    (consistent : network.Consistent catalog resolution) :
    network.Consistent catalog (resolution.enter station.hostname) := by
  -- A pending device becomes busy, so the resolved ones are those of before.
  have resolvedIff : ∀ name, (resolution.enter station.hostname).progress name = .resolved ↔
      resolution.progress name = .resolved := by
    intro name
    by_cases same : name = station.hostname
    · simp [same, pending]
    · simp [same]
  refine ⟨fun name started => ?_, consistent.distinct, fun name => ?_, ?_, ?_, fun name blank => ?_⟩
  · by_cases same : name = station.hostname
    · simp [same, network.station_member station member]
    · exact consistent.known name (by simpa [same] using started)
  · rw [resolvedIff]
    exact consistent.listed name
  · intro other among resolved name polled
    rw [resolvedIff] at resolved ⊢
    exact consistent.earlier other among resolved name polled
  · intro other among resolved
    rw [Resolution.registers_enter]
    exact consistent.meaning other among ((resolvedIff _).mp resolved)
  · rw [Resolution.registers_enter]
    exact consistent.blank name fun resolved => blank ((resolvedIff _).mpr resolved)

-- The completed device stands last, and all that it polls stood in the order before.
theorem complete_earlier (network : Network) (catalog : Catalog) (resolution : Resolution)
    (station : Station) (targets : List Station) (registers : RegisterSet)
    (member : station ∈ network.stations) (fresh : station.hostname ∉ resolution.order)
    (known : station.device.polled.map network.station? = targets.map some)
    (ready : ∀ target ∈ targets, resolution.progress target.hostname = .resolved)
    (consistent : network.Consistent catalog resolution) (other : Station)
    (among : other ∈ network.stations)
    (resolved : (resolution.complete station.hostname registers).progress other.hostname = .resolved)
    (name : String) (polled : name ∈ other.device.polled) :
    resolution.progress name = .resolved ∧
      (resolution.order ++ [station.hostname]).idxOf name <
        (resolution.order ++ [station.hostname]).idxOf other.hostname := by
  by_cases same : other.hostname = station.hostname
  · have here := network.stations_agree other station among member same
    subst here
    obtain ⟨target, targeted, named⟩ := network.target_of_name _ targets known name polled
    have resolvedName : resolution.progress name = .resolved := named ▸ ready target targeted
    have listed := (consistent.listed name).mpr resolvedName
    have bound := List.idxOf_lt_length_of_mem listed
    rw [List.idxOf_append_of_mem listed, List.idxOf_append_of_notMem fresh]
    exact ⟨resolvedName, by omega⟩
  · have before : resolution.progress other.hostname = .resolved := by simpa [same] using resolved
    obtain ⟨resolvedName, less⟩ := consistent.earlier other among before name polled
    have listedName := (consistent.listed name).mpr resolvedName
    have listedOther := (consistent.listed other.hostname).mpr before
    rw [List.idxOf_append_of_mem listedName, List.idxOf_append_of_mem listedOther]
    exact ⟨resolvedName, less⟩

theorem complete_consistent (network : Network) (catalog : Catalog) (resolution : Resolution)
    (station : Station) (targets : List Station) (registers : RegisterSet)
    (member : station ∈ network.stations)
    (entered : resolution.progress station.hostname = .inProgress)
    (known : station.device.polled.map network.station? = targets.map some)
    (ready : ∀ target ∈ targets, resolution.progress target.hostname = .resolved)
    (collected : station.device.collect catalog (targets.map resolution.exposed) = .ok registers)
    (consistent : network.Consistent catalog resolution) :
    network.Consistent catalog (resolution.complete station.hostname registers) := by
  have fresh : station.hostname ∉ resolution.order := by simp [consistent.listed, entered]
  have means := network.collected_means catalog resolution station targets registers member known
    (fun target among => consistent.meaning target
      (network.target_member _ targets known target among) (ready target among)) collected
  refine ⟨fun name started => ?_, ?_, fun name => ?_, ?_, ?_, fun name blank => ?_⟩
  · by_cases same : name = station.hostname
    · simp [same, network.station_member station member]
    · exact consistent.known name (by simpa [same] using started)
  · refine List.nodup_append.mpr ⟨consistent.distinct, by simp, fun name listed last here same => ?_⟩
    exact fresh (by simpa [same, List.mem_singleton.mp here] using listed)
  · by_cases same : name = station.hostname
    · simp [same]
    · simpa [same] using consistent.listed name
  · intro other among resolved name polled
    obtain ⟨resolvedName, less⟩ := network.complete_earlier catalog resolution station targets
      registers member fresh known ready consistent other among resolved name polled
    exact ⟨by simp [resolvedName], less⟩
  · intro other among resolved
    by_cases same : other.hostname = station.hostname
    · simpa [same] using means
    · rw [Resolution.registers_complete, if_neg same]
      exact consistent.meaning other among (by simpa [same] using resolved)
  · by_cases same : name = station.hostname
    · simp [same] at blank
    · rw [Resolution.registers_complete, if_neg same]
      exact consistent.blank name (by simpa [same] using blank)

theorem step_consistent (network : Network) (catalog : Catalog) (before after : Resolution)
    (step : network.Step catalog before after) (consistent : network.Consistent catalog before) :
    network.Consistent catalog after := by
  cases step with
  | enter station member pending =>
      exact network.enter_consistent catalog before station member pending consistent
  | complete station targets registers member entered known ready collected =>
      exact network.complete_consistent catalog before station targets registers member entered known
        ready collected consistent

theorem run_consistent (network : Network) (catalog : Catalog) (calls : List Call) :
    network.Consistent catalog (network.run catalog {} calls) :=
  network.steps_preserve catalog (network.Consistent catalog) (network.step_consistent catalog) _ _
    (network.run_steps catalog {} calls) (network.start_consistent catalog)

/-- Any history leaves a consistent resolution, and later calls keep what earlier ones found. -/
theorem history_consistent (network : Network) (catalog : Catalog) (earlier later : List Call) :
    network.Consistent catalog (network.run catalog {} earlier) ∧
      (∀ station ∈ network.stations,
        (network.run catalog {} earlier).progress station.hostname = .resolved →
        ∀ registers, network.Means catalog station.hostname registers ↔
          registers = (network.run catalog {} earlier).registers station.hostname) ∧
      (network.run catalog {} earlier).Onward (network.run catalog {} (earlier ++ later)) := by
  have consistent := network.run_consistent catalog earlier
  refine ⟨consistent, fun station member resolved registers => ⟨fun means => ?_, fun same => ?_⟩, ?_⟩
  · exact network.means_unique catalog station.hostname _ _ means
      (consistent.meaning station member resolved)
  · exact same ▸ consistent.meaning station member resolved
  · rw [network.run_append catalog {} earlier later]
    exact network.steps_onward catalog _ _ (network.run_steps catalog _ later)

end FieldConfig.Network
