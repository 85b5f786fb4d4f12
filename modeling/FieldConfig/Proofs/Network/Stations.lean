import FieldConfig.Network
import FieldConfig.Proofs.Outcome
import Mathlib.Data.List.Forall2

set_option autoImplicit false

namespace FieldConfig.Network

theorem station_found (network : Network) (name : String) (station : Station)
    (found : network.station? name = some station) :
    station ∈ network.stations ∧ station.hostname = name := by
  refine ⟨List.mem_of_find?_eq_some found, ?_⟩
  simpa using List.find?_some found

theorem find_station (stations : List Station) (distinct : (stations.map Station.hostname).Nodup)
    (station : Station) (member : station ∈ stations) :
    stations.find? (·.hostname == station.hostname) = some station := by
  induction stations with
  | nil => simp at member
  | cons first rest ih =>
      obtain ⟨apart, distinctRest⟩ := List.nodup_cons.mp distinct
      rcases List.mem_cons.mp member with same | later
      · simp [same]
      · have different : first.hostname ≠ station.hostname :=
          fun same => apart (same ▸ List.mem_map_of_mem later)
        rw [List.find?_cons_of_neg (by simpa using different)]
        exact ih distinctRest later

theorem station_member (network : Network) (station : Station) (member : station ∈ network.stations) :
    network.station? station.hostname = some station :=
  find_station network.stations network.distinct station member

theorem stations_agree (network : Network) (a b : Station) (memberA : a ∈ network.stations)
    (memberB : b ∈ network.stations) (same : a.hostname = b.hostname) : a = b := by
  have found := network.station_member a memberA
  rw [same, network.station_member b memberB] at found
  exact (Option.some.inj found).symm

theorem member_by_role (network : Network) (station : Station) :
    station ∈ network.byRole ↔ station ∈ network.stations := by
  cases role : station.role <;> simp [byRole, Role.all, ofRole, role]

theorem by_role_station (network : Network) (name : String) :
    network.byRole.find? (·.hostname == name) = network.station? name := by
  cases found : network.byRole.find? (·.hostname == name) with
  | none =>
      have absent := List.find?_eq_none.mp found
      refine (List.find?_eq_none.mpr fun station member => ?_).symm
      exact absent station ((network.member_by_role station).mpr member)
  | some station =>
      have member := (network.member_by_role station).mp (List.mem_of_find?_eq_some found)
      have named : station.hostname = name := by simpa using List.find?_some found
      rw [← named, network.station_member station member]

theorem target_of_name (network : Network) (names : List String) (targets : List Station)
    (known : names.map network.station? = targets.map some) (name : String) (member : name ∈ names) :
    ∃ target ∈ targets, target.hostname = name := by
  have found : network.station? name ∈ targets.map some := known ▸ List.mem_map_of_mem member
  obtain ⟨target, among, same⟩ := List.mem_map.mp found
  exact ⟨target, among, (network.station_found name target same.symm).2⟩

theorem target_member (network : Network) (names : List String) (targets : List Station)
    (known : names.map network.station? = targets.map some) (target : Station)
    (among : target ∈ targets) : target ∈ network.stations := by
  have found : some target ∈ names.map network.station? := known ▸ List.mem_map_of_mem among
  obtain ⟨name, _, same⟩ := List.mem_map.mp found
  exact (network.station_found name target same).1

def Stands (defaultInfrastructure : String) (node : Node) (station : Station) : Prop :=
  ∃ role, node.role? = some role ∧ Station.ofNode defaultInfrastructure node role = .ok station

theorem roster_stands (defaultInfrastructure : String) (taken : List String) (nodes : List Node)
    (roster : Roster taken) (built : rosterOf defaultInfrastructure taken nodes = .ok roster) :
    List.Forall₂ (Stands defaultInfrastructure) (nodes.filter (·.role?.isSome)) roster.stations := by
  induction nodes generalizing taken with
  | nil =>
      cases built
      exact .nil
  | cons node rest ih =>
      cases role : node.role? with
      | none =>
          rw [rosterOf, role] at built
          simpa [role] using ih taken roster built
      | some known =>
          simp only [rosterOf, role] at built
          cases made : Station.ofNode defaultInfrastructure node known with
          | error fault => simp [made] at built
          | ok station =>
              simp only [made] at built
              split at built
              · obtain ⟨others, listed, rfl⟩ := map_ok _ _ roster built
                rw [List.filter_cons_of_pos (by simp [role])]
                exact .cons ⟨known, role, made⟩ (ih _ others listed)
              · simp at built

theorem topology_stands (topology : Topology) (defaultInfrastructure : String) (network : Network)
    (built : ofTopology topology defaultInfrastructure = .ok network) :
    List.Forall₂ (Stands defaultInfrastructure) (topology.nodes.filter (·.role?.isSome))
      network.stations := by
  obtain ⟨roster, listed, rfl⟩ := map_ok _ _ network built
  exact roster_stands defaultInfrastructure [] topology.nodes roster listed

theorem stands_for (defaultInfrastructure : String) (nodes : List Node) (stations : List Station)
    (stood : List.Forall₂ (Stands defaultInfrastructure) nodes stations) (node : Node)
    (member : node ∈ nodes) : ∃ station ∈ stations, Stands defaultInfrastructure node station := by
  induction stood with
  | nil => simp at member
  | cons first _ ih =>
      rcases List.mem_cons.mp member with same | later
      · exact ⟨_, List.mem_cons_self, same ▸ first⟩
      · obtain ⟨station, among, stands⟩ := ih later
        exact ⟨station, List.mem_cons_of_mem _ among, stands⟩

theorem of_node_facts (defaultInfrastructure : String) (node : Node) (role : Role)
    (station : Station) (made : Station.ofNode defaultInfrastructure node role = .ok station) :
    station.node = node ∧ station.role = role ∧
      (role ≠ .server → station.device.polled = node.metadata.polledNames) := by
  cases role with
  | server =>
      obtain ⟨declaration, _, same⟩ := bind_ok _ _ station made
      cases same
      exact ⟨rfl, rfl, fun other => absurd rfl other⟩
  | gateway | client =>
      cases made
      exact ⟨rfl, rfl, fun _ => rfl⟩

theorem station_of_node (topology : Topology) (defaultInfrastructure : String) (network : Network)
    (built : ofTopology topology defaultInfrastructure = .ok network) (node : Node) (role : Role)
    (member : node ∈ topology.nodes) (known : node.role? = some role) :
    ∃ station ∈ network.stations, Station.ofNode defaultInfrastructure node role = .ok station := by
  have stood := topology_stands topology defaultInfrastructure network built
  have kept : node ∈ topology.nodes.filter (·.role?.isSome) := by simp [member, known]
  obtain ⟨station, among, other, same, made⟩ := stands_for _ _ _ stood node kept
  cases known.symm.trans same
  exact ⟨station, among, made⟩

end FieldConfig.Network
