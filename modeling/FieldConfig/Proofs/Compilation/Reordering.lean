import FieldConfig.Proofs.Compilation.Brokers
import FieldConfig.Proofs.Compilation.Modularity

set_option autoImplicit false

namespace FieldConfig

namespace Network

theorem standing_names (defaultInfrastructure : String) (nodes : List Node) :
    ((standing defaultInfrastructure nodes).map Station.hostname).Sublist
      (nodes.map Node.hostname) := by
  induction nodes with
  | nil => exact .slnil
  | cons node rest ih =>
      cases stood : standing? defaultInfrastructure node with
      | none =>
          rw [standing, List.filterMap_cons_none stood]
          exact .cons _ ih
      | some station =>
          obtain ⟨role, _, made⟩ := (standing_iff defaultInfrastructure node station).mp stood
          rw [standing, List.filterMap_cons_some stood, List.map_cons, List.map_cons,
            Station.hostname, (of_node_facts _ node role station made).1]
          exact .cons_cons _ ih

theorem standing_role (defaultInfrastructure : String) (role : Role) (nodes : List Node)
    (declared : ∀ node ∈ nodes, Declared defaultInfrastructure node) :
    ((standing defaultInfrastructure nodes).filter (·.role = role)).map Station.hostname =
      (nodes.filter (·.role? = some role)).map Node.hostname := by
  induction nodes with
  | nil => rfl
  | cons node rest ih =>
      obtain ⟨here, others⟩ := List.forall_mem_cons.mp declared
      cases known : node.role? with
      | none =>
          rw [standing_idle defaultInfrastructure node rest known, ih others,
            List.filter_cons_of_neg (by simp [known])]
      | some own =>
          obtain ⟨station, made⟩ := here own known
          obtain ⟨onNode, hasRole, _⟩ := of_node_facts _ node own station made
          rw [standing_cons defaultInfrastructure node station rest ⟨own, known, made⟩]
          by_cases same : own = role
          · rw [List.filter_cons_of_pos (by simp [hasRole, same]),
              List.filter_cons_of_pos (by simp [known, same]), List.map_cons, List.map_cons,
              ih others, Station.hostname, onNode]
          · rw [List.filter_cons_of_neg (by simp [hasRole, same]),
              List.filter_cons_of_neg (by simp [known, same]), ih others]

theorem by_role_perm (a b : Network) (shuffled : a.stations.Perm b.stations) :
    a.byRole.Perm b.byRole := by
  simp only [byRole, Role.all, List.flatMap_cons, List.flatMap_nil, ofRole]
  exact (shuffled.filter _).append ((shuffled.filter _).append ((shuffled.filter _).append .nil))

end Network

def Topology.devices (topology : Topology) : List (Role × String) :=
  Role.all.flatMap fun role =>
    (topology.nodes.filter (·.role? = some role)).map fun node => (role, node.hostname)

theorem Plan.compiled_names (plan : Plan) (stations : List Station) (devices : List CompiledDevice)
    (compiled : List.Forall₂ plan.Compiled stations devices) :
    devices.map (fun device => (device.role, device.hostname)) =
      stations.map fun station => (station.role, station.hostname) := by
  induction compiled with
  | nil => rfl
  | cons first _ ih => rw [List.map_cons, List.map_cons, first.role, first.hostname, ih]

theorem devices_in_order (settings : Settings) (topology : Topology) (compilation : Compilation)
    (compiled : compile settings topology = .ok compilation) :
    compilation.devices.map (fun device => (device.role, device.hostname)) = topology.devices := by
  obtain ⟨plan, planned, devices⟩ := compile_ok settings topology compilation compiled
  obtain ⟨built, _⟩ := plan_ok settings topology plan planned
  obtain ⟨stations, declared⟩ :=
    Network.built_standing settings.infrastructure topology plan.network built
  rw [plan.compiled_names _ _ devices, Network.byRole, List.map_flatMap, Topology.devices]
  refine List.flatMap_congr fun role _ => ?_
  have names := Network.standing_role settings.infrastructure role topology.nodes declared
  calc (plan.network.ofRole role).map (fun station => (station.role, station.hostname))
      = ((plan.network.ofRole role).map Station.hostname).map (Prod.mk role) := by
        rw [List.map_map]
        refine List.map_congr_left fun station member => ?_
        rw [Function.comp_apply, of_decide_eq_true (List.mem_filter.mp member).2]
    _ = ((topology.nodes.filter (·.role? = some role)).map Node.hostname).map (Prod.mk role) := by
        rw [Network.ofRole, stations, names]
    _ = _ := List.map_map

theorem node_found_iff (topology : Topology) (distinct : (topology.nodes.map Node.hostname).Nodup)
    (name : String) (node : Node) :
    topology.node? name = some node ↔ node ∈ topology.nodes ∧ node.hostname = name := by
  constructor
  · intro found
    exact ⟨List.mem_of_find?_eq_some found, by simpa using List.find?_some found⟩
  · rintro ⟨member, rfl⟩
    cases found : topology.node? node.hostname with
    | none => exact absurd (by simp) (List.find?_eq_none.mp found node member)
    | some other =>
        have named : other.hostname = node.hostname := by simpa using List.find?_some found
        rw [List.inj_on_of_nodup_map distinct (List.mem_of_find?_eq_some found) member named]

section

variable (settings : Settings) (a b : Topology) (shuffled : a.nodes.Perm b.nodes)
  (distinct : (a.nodes.map Node.hostname).Nodup)

include shuffled distinct

theorem reordered_node (name : String) : a.node? name = b.node? name := by
  have distinctB := (shuffled.map Node.hostname).nodup_iff.mp distinct
  refine Option.ext fun node => ?_
  rw [node_found_iff a distinct, node_found_iff b distinctB, shuffled.mem_iff]

theorem reordered_part : a.PartOf settings b where
  nodes _ member := shuffled.subset member
  distinct := distinct.sublist (Network.standing_names settings.infrastructure a.nodes)
  polled _ _ _ among _ _ := shuffled.mem_iff.mpr among
  brokers _ _ host _ := reordered_node a b shuffled distinct host

theorem reordered_compiles (second : Compilation) (compiled : compile settings b = .ok second) :
    ∃ first, compile settings a = .ok first ∧ first.devices.Perm second.devices ∧
      (∀ name, first.device? name = second.device? name) ∧
      ∀ host, host ∈ first.brokers.map (·.hostname) ↔ host ∈ second.brokers.map (·.hostname) := by
  obtain ⟨plan, planned, compiles⟩ := bind_ok _ _ second compiled
  obtain ⟨own, first, ownPlanned, within, ownCompiles, devices, same⟩ := part_compiles settings a b
    (reordered_part settings a b shuffled distinct) plan planned second compiles
  obtain ⟨network, resolution, built, _, rfl⟩ := (plan_iff settings b plan).mp planned
  obtain ⟨ownNetwork, ownResolution, ownBuilt, _, rfl⟩ := (plan_iff settings a own).mp ownPlanned
  have stations : ownNetwork.stations.Perm network.stations := by
    rw [(Network.built_standing settings.infrastructure a ownNetwork ownBuilt).1,
      (Network.built_standing settings.infrastructure b network built).1]
    exact shuffled.filterMap _
  have order := Network.by_role_perm ownNetwork network stations
  refine ⟨first, ?_, ?_, fun name => ?_, fun host => ?_⟩
  · rw [compile, ownPlanned]
    exact ownCompiles
  · rw [devices, (Plan.compiled_devices _ {} _ second compiles).2]
    exact order.filterMap _
  · cases found : network.station? name with
    | some station =>
        obtain ⟨member, named⟩ := network.station_found name station found
        exact same name station
          (named ▸ ownNetwork.station_member station (stations.mem_iff.mpr member))
    | none =>
        have unknown : ownNetwork.station? name = none := by
          cases known : ownNetwork.station? name with
          | none => rfl
          | some station =>
              rw [Network.part_found _ _ within name station known] at found
              cases found
        rw [Plan.device_found _ first ownCompiles, Plan.device_found _ second compiles, found,
          unknown]
        rfl
  · rw [Plan.broker_names _ {} _ first ownCompiles, Plan.broker_names _ {} _ second compiles]
    simp only [order.mem_iff]

end

/-- The order of the nodes makes no difference to whether a topology compiles and to what, but for
the order in which the devices stand. -/
theorem reordering_compiled (settings : Settings) (a b : Topology)
    (shuffled : a.nodes.Perm b.nodes) (distinct : (a.nodes.map Node.hostname).Nodup) :
    ((∃ first, compile settings a = .ok first) ↔ ∃ second, compile settings b = .ok second) ∧
      ∀ first second, compile settings a = .ok first → compile settings b = .ok second →
        first.devices.Perm second.devices ∧
        (∀ name, first.device? name = second.device? name) ∧
        (∀ host, host ∈ first.brokers.map (·.hostname) ↔
          host ∈ second.brokers.map (·.hostname)) ∧
        first.devices.map (fun device => (device.role, device.hostname)) = a.devices ∧
        second.devices.map (fun device => (device.role, device.hostname)) = b.devices := by
  have distinctB := (shuffled.map Node.hostname).nodup_iff.mp distinct
  constructor
  · constructor
    · rintro ⟨first, compiled⟩
      obtain ⟨second, other, _⟩ :=
        reordered_compiles settings b a shuffled.symm distinctB first compiled
      exact ⟨second, other⟩
    · rintro ⟨second, compiled⟩
      obtain ⟨first, other, _⟩ := reordered_compiles settings a b shuffled distinct second compiled
      exact ⟨first, other⟩
  · intro first second compiled other
    obtain ⟨same, again, devices, named, hosts⟩ :=
      reordered_compiles settings a b shuffled distinct second other
    cases again.symm.trans compiled
    exact ⟨devices, named, hosts, devices_in_order settings a _ compiled,
      devices_in_order settings b second other⟩

theorem yard_reversed :
    ∃ first second, compile hosted ⟨yard.nodes.reverse⟩ = .ok first ∧
      compile hosted yard = .ok second ∧
      first.devices.map (·.hostname) = ["rtu2", "rtu1", "fep1"] ∧
      first.brokers.map (·.hostname) = ["hub"] ∧
      first.devices.Perm second.devices ∧ first.device? "fep1" = second.device? "fep1" ∧
      "hub" ∈ second.brokers.map (·.hostname) := by
  obtain ⟨first, compiled, names, hosts⟩ : ∃ first,
      compile hosted ⟨yard.nodes.reverse⟩ = .ok first ∧
        first.devices.map (·.hostname) = ["rtu2", "rtu1", "fep1"] ∧
        first.brokers.map (·.hostname) = ["hub"] := ⟨_, rfl, rfl, rfl⟩
  obtain ⟨either, same⟩ := reordering_compiled hosted ⟨yard.nodes.reverse⟩ yard
    (List.reverse_perm _) (by decide)
  obtain ⟨second, other⟩ := either.mp ⟨first, compiled⟩
  obtain ⟨devices, named, tracked, _⟩ := same first second compiled other
  exact ⟨first, second, compiled, other, names, hosts, devices, named "fep1",
    (tracked "hub").mp (by simp [hosts])⟩

end FieldConfig
