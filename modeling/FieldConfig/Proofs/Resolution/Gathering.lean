import FieldConfig.Proofs.Resolution.Consistency

set_option autoImplicit false

namespace FieldConfig.Network

theorem all_resolved (network : Network) (catalog : Catalog) (resolution : Resolution)
    (finished : network.resolveAll catalog {} = (resolution, .ok ())) :
    network.Consistent catalog resolution ∧
      ∀ station ∈ network.stations, resolution.progress station.hostname = .resolved := by
  have run : network.run catalog {} [.resolveAll] = resolution := by
    simp only [Network.run, perform, List.foldl_cons, List.foldl_nil, finished]
  have consistent := network.run_consistent catalog [.resolveAll]
  rw [run] at consistent
  refine ⟨consistent, fun station member => ?_⟩
  rcases network.call_answered catalog {} .resolveAll with ⟨_, other, _⟩ | ⟨_, answered⟩
  · cases other
  · rw [perform, finished] at answered
    exact answered.1 station ((network.member_by_role station).mpr member)

theorem gateway_gathers (network : Network) (catalog : Catalog) (resolution : Resolution)
    (consistent : network.Consistent catalog resolution) (station : Station)
    (member : station ∈ network.stations)
    (resolved : resolution.progress station.hostname = .resolved) (polled : List String)
    (downstream : Downstream) (kind : station.device = .gateway polled downstream) :
    ∃ targets : List Station, polled.map network.station? = targets.map some ∧
      resolution.registers station.hostname =
        RegisterSet.regroup (targets.flatMap fun target => (resolution.exposed target).groups) := by
  have means := network.means_device catalog _ _ (consistent.meaning station member resolved) station
    (network.station_member station member)
  rw [kind] at means
  obtain ⟨inputs, known, meansInputs, gathered⟩ := means
  refine ⟨inputs.map Prod.fst, known, ?_⟩
  have current : ∀ input ∈ inputs, input.2 = resolution.registers input.1.hostname := by
    intro input among
    have found : some input.1 ∈ polled.map network.station? :=
      known ▸ List.mem_map_of_mem (List.mem_map_of_mem among)
    obtain ⟨name, asked, same⟩ := List.mem_map.mp found
    obtain ⟨target, named⟩ := network.station_found name input.1 same
    have before := consistent.earlier station member resolved name (by simpa [kind, Device.polled])
    exact network.means_unique catalog _ _ _ (meansInputs input among)
      (consistent.meaning input.1 target (named ▸ before.1))
  rw [gathered, List.flatMap_map]
  refine congrArg _ (List.flatMap_congr fun input among => ?_)
  rw [Resolution.exposed, Device.exposed_offered, current input among]

end FieldConfig.Network
