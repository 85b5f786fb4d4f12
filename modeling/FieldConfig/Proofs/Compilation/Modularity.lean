import FieldConfig.Proofs.Compilation.Part

set_option autoImplicit false

namespace FieldConfig

namespace Topology

def placed (topology : Topology) : List (Node × Nat) := topology.nodes.zipIdx

def restrict (topology : Topology) (keep : Nat → Bool) : Topology where
  nodes := (topology.placed.filter fun (_, position) => keep position).map Prod.fst

-- The devices that a kept node polls are kept, and so is the first node of the name under which a
-- kept server with devices looks for its broker.
structure Closed (topology : Topology) (settings : Settings) (keep : Nat → Bool) : Prop where
  polled : ∀ asker ∈ topology.placed, keep asker.2 → ∀ target ∈ topology.placed,
    target.1.role?.isSome → target.1.hostname ∈ asker.1.polled → keep target.2
  brokers : ∀ asker ∈ topology.placed, keep asker.2 → ∀ host ∈ asker.1.consulted? settings,
    ∀ first ∈ topology.placed.find? fun (node, _) => node.hostname == host, keep first.2

variable (topology : Topology) (keep : Nat → Bool)

theorem placed_nodes : topology.placed.map Prod.fst = topology.nodes := List.zipIdx_map_fst 0 _

theorem restrict_sublist : (topology.restrict keep).nodes.Sublist topology.nodes := by
  rw [restrict, ← topology.placed_nodes]
  exact List.filter_sublist.map Prod.fst

theorem mem_restrict (node : Node) :
    node ∈ (topology.restrict keep).nodes ↔
      ∃ position, (node, position) ∈ topology.placed ∧ keep position := by
  simp [restrict]

theorem mem_placed (node : Node) :
    node ∈ topology.nodes ↔ ∃ position, (node, position) ∈ topology.placed := by
  rw [← topology.placed_nodes]
  simp

end Topology

theorem find_kept {α : Type} (l : List α) (keep wanted : α → Bool)
    (kept : ∀ first ∈ l.find? wanted, keep first) :
    (l.filter keep).find? wanted = l.find? wanted := by
  induction l with
  | nil => rfl
  | cons first rest ih =>
      by_cases found : wanted first
      · have here : keep first := kept first (by simp [found])
        simp [here, found]
      · simp only [List.find?_cons_of_neg found] at kept ⊢
        by_cases here : keep first
        · rw [List.filter_cons_of_pos here, List.find?_cons_of_neg found, ih kept]
        · rw [List.filter_cons_of_neg here, ih kept]

theorem Topology.restrict_node (topology : Topology) (keep : Nat → Bool) (host : String)
    (kept : ∀ first ∈ topology.placed.find? fun (node, _) => node.hostname == host,
      keep first.2) :
    (topology.restrict keep).node? host = topology.node? host := by
  have found := find_kept topology.placed (fun (_, position) => keep position)
    (fun (node, _) => node.hostname == host) kept
  rw [node?, node?, ← topology.placed_nodes, restrict, List.find?_map, List.find?_map]
  exact congrArg (Option.map Prod.fst) found

theorem Network.by_role_sublist (part whole : Network) (within : part.stations.Sublist whole.stations) :
    part.byRole.Sublist whole.byRole := by
  simp only [byRole, Role.all, List.flatMap_cons, List.flatMap_nil, ofRole]
  exact (within.filter _).append ((within.filter _).append ((within.filter _).append .slnil))

theorem restriction_part (settings : Settings) (topology : Topology) (keep : Nat → Bool)
    (closed : topology.Closed settings keep) (network : Network)
    (built : Network.ofTopology topology settings.infrastructure = .ok network) :
    (topology.restrict keep).PartOf settings topology := by
  obtain ⟨stations, _⟩ := Network.built_standing settings.infrastructure topology network built
  have within := topology.restrict_sublist keep
  constructor
  · exact fun node member => within.subset member
  · have distinct := network.distinct
    rw [stations] at distinct
    exact distinct.sublist ((within.filterMap _).map Station.hostname)
  · intro node member target among device polls
    obtain ⟨position, placed, kept⟩ := (topology.mem_restrict keep node).mp member
    obtain ⟨place, found⟩ := (topology.mem_placed target).mp among
    exact (topology.mem_restrict keep target).mpr
      ⟨place, found, closed.polled _ placed kept _ found device polls⟩
  · intro node member host consults
    obtain ⟨position, placed, kept⟩ := (topology.mem_restrict keep node).mp member
    exact topology.restrict_node keep host (closed.brokers _ placed kept host consults)

/-- The nodes that are kept compile to the same devices as in the whole topology, if they keep the
devices that they poll and the nodes of their brokers. -/
theorem restriction_compiled (settings : Settings) (topology : Topology) (keep : Nat → Bool)
    (closed : topology.Closed settings keep) (compilation : Compilation)
    (compiled : compile settings topology = .ok compilation) :
    ∃ own, compile settings (topology.restrict keep) = .ok own ∧
      own.devices.Sublist compilation.devices ∧
      ∀ node ∈ (topology.restrict keep).nodes, node.role?.isSome →
        ∃ device, own.device? node.hostname = some device ∧
          compilation.device? node.hostname = some device := by
  obtain ⟨plan, planned, compiles⟩ := bind_ok _ _ compilation compiled
  obtain ⟨built, _⟩ := plan_ok settings topology plan planned
  have among := restriction_part settings topology keep closed plan.network built
  obtain ⟨ownPlan, own, ownPlanned, within, ownCompiles, devices, same⟩ :=
    part_compiles settings _ topology among plan planned compilation compiles
  obtain ⟨ownBuilt, _⟩ := plan_ok settings _ ownPlan ownPlanned
  have ownCompiled : compile settings (topology.restrict keep) = .ok own := by
    rw [compile, ownPlanned]
    exact ownCompiles
  refine ⟨own, ownCompiled, ?_, fun node member takesPart => ?_⟩
  · have stations : ownPlan.network.stations.Sublist plan.network.stations := by
      rw [(Network.built_standing settings.infrastructure _ ownPlan.network ownBuilt).1,
        (Network.built_standing settings.infrastructure _ plan.network built).1]
      exact (topology.restrict_sublist keep).filterMap _
    rw [devices, (plan.compiled_devices {} _ compilation compiles).2]
    exact (Network.by_role_sublist _ _ stations).filterMap _
  · obtain ⟨role, known⟩ := Option.isSome_iff_exists.mp takesPart
    obtain ⟨station, among, made⟩ :=
      Network.station_of_node _ settings.infrastructure _ ownBuilt node role member known
    have named : station.hostname = node.hostname :=
      congrArg Node.hostname (Network.of_node_facts _ node role station made).1
    have found := ownPlan.network.station_member station among
    obtain ⟨device, result⟩ := (ownPlan.compiled_devices {} _ own ownCompiles).1 station
      ((ownPlan.network.member_by_role station).mpr among)
    have listed : own.device? node.hostname = some device := by
      rw [← named, ownPlan.device_found own ownCompiles, found, Option.bind_some, result]
      rfl
    exact ⟨device, listed, same node.hostname station (named ▸ found) ▸ listed⟩

def yard : Topology where
  nodes :=
    [{ hostname := "rtu1"
       nodeType := "fd-server"
       metadata := { modbus := some { devices := [{ name := "BUS7", deviceType := "bus" }] } }
       interfaces := [{ name := "eth0", address := "10.0.0.1" }] },
     { hostname := "rtu2"
       nodeType := "fd-server"
       metadata := { dnp3 := some { devices := [{ name := "CAP3", deviceType := "capacitor" }] } }
       interfaces := [{ name := "eth0", address := "10.0.0.2" }] },
     { hostname := "hub"
       nodeType := "server"
       interfaces := [{ name := "eth0", address := "10.0.0.9" }] },
     { hostname := "fep1"
       nodeType := "fep"
       metadata := { polled := some ["rtu2"] }
       interfaces := [{ name := "eth0", address := "10.0.0.3" }] }]

def hosted : Settings where
  helics := { broker := some { hostname := "hub", baseFederates := some 1 } }

theorem yard_restricted :
    ∃ compilation own, compile hosted yard = .ok compilation ∧
      compilation.devices.map (·.hostname) = ["rtu1", "rtu2", "fep1"] ∧
      compile hosted (yard.restrict (0 < ·)) = .ok own ∧
      own.devices.map (·.hostname) = ["rtu2", "fep1"] ∧
      own.device? "rtu2" = compilation.device? "rtu2" := by
  obtain ⟨compilation, compiled, names⟩ : ∃ compilation, compile hosted yard = .ok compilation ∧
      compilation.devices.map (·.hostname) = ["rtu1", "rtu2", "fep1"] := ⟨_, rfl, rfl⟩
  obtain ⟨other, compiledOther, kept⟩ : ∃ own, compile hosted (yard.restrict (0 < ·)) = .ok own ∧
      own.devices.map (·.hostname) = ["rtu2", "fep1"] := ⟨_, rfl, rfl⟩
  have closed : yard.Closed hosted (0 < ·) := ⟨by decide, by decide⟩
  obtain ⟨own, compiledOwn, _, devices⟩ := restriction_compiled hosted yard (0 < ·) closed
    compilation compiled
  obtain ⟨device, here, there⟩ := devices yard.nodes[1] (by decide) rfl
  cases compiledOther.symm.trans compiledOwn
  exact ⟨compilation, other, compiled, names, compiledOther, kept, here.trans there.symm⟩

end FieldConfig
