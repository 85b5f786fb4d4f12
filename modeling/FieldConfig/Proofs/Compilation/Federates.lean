import FieldConfig.Proofs.Compilation.Manifest

set_option autoImplicit false

-- How many federates the host of a broker expects: as many as the first tracked declaration says, and
-- one for each server that names the host by a tracked declaration. A server that names it by any
-- other declaration joins as well and is not expected.
namespace FieldConfig

namespace Compilation

variable (compilation : Compilation) (settings : Settings)

-- The servers with an I/O section whose broker runs on a host.
def joins (host : String) (node : Node) : Bool :=
  node.role? = some .server ∧ (compilation.device? node.hostname).any (·.document.io.isSome) ∧
    IoSection.brokerHost? settings node = some host

def expects (host : String) (node : Node) : Bool :=
  compilation.joins settings host node && (IoSection.broker? settings node).any (·.isTracked)

def tracked? (node : Node) : Option BrokerHost :=
  if node.role? = some .server then
    (compilation.device? node.hostname).bind fun device => settings.tracked? node device.document.io
  else none

theorem tracked_expected (host : String) (node : Node) :
    (compilation.tracked? settings node).any (·.hostname == host) =
      compilation.expects settings host node := by
  rw [Bool.eq_iff_iff, tracked?, expects, joins]
  simp only [Settings.tracked?, IoSection.brokerHost?, BrokerSettings.tracked_host,
    Option.any_eq_true, Option.ite_none_right_eq_some, Option.bind_eq_some_iff,
    Option.map_eq_some_iff, Bool.and_eq_true, decide_eq_true_eq, beq_iff_eq]
  constructor
  · rintro ⟨_, ⟨server, device, listed, io, bound, broker, declared, _,
      ⟨tracked, spec, named, rfl⟩, rfl⟩, rfl⟩
    exact ⟨⟨server, ⟨device, listed, by rw [bound]; rfl⟩, broker, declared, spec, named, rfl⟩,
      broker, declared, tracked⟩
  · rintro ⟨⟨server, ⟨device, listed, bound⟩, broker, declared, spec, named, rfl⟩, other, again,
      tracked⟩
    cases declared.symm.trans again
    obtain ⟨io, bound⟩ := Option.isSome_iff_exists.mp bound
    exact ⟨_, ⟨server, device, listed, io, bound, broker, declared, _,
      ⟨tracked, spec, named, rfl⟩, rfl⟩, rfl⟩

theorem tracked_federates (node : Node) (fresh : BrokerHost)
    (tracked : compilation.tracked? settings node = some fresh) :
    ∃ broker, IoSection.broker? settings node = some broker ∧
      fresh.federates.toNat = broker.base := by
  simp only [tracked?, Settings.tracked?, Option.ite_none_right_eq_some, Option.bind_eq_some_iff,
    Option.map_eq_some_iff] at tracked
  obtain ⟨_, _, _, _, _, broker, declared, _, _, rfl⟩ := tracked
  exact ⟨broker, declared, rfl⟩

theorem tracked_first (host : String) (nodes : List Node) :
    (nodes.filterMap (compilation.tracked? settings)).find? (·.hostname == host) =
      (nodes.find? (compilation.expects settings host)).bind (compilation.tracked? settings) :=
  BrokerRegistry.made_first _ host _ (compilation.tracked_expected settings host) nodes

theorem tracked_count (host : String) (nodes : List Node) :
    (nodes.filterMap (compilation.tracked? settings)).countP (·.hostname == host) =
      nodes.countP (compilation.expects settings host) :=
  BrokerRegistry.made_count _ host _ (compilation.tracked_expected settings host) nodes

theorem expects_some (host : String) (nodes : List Node) :
    nodes.countP (compilation.expects settings host) ≤
      nodes.countP (compilation.joins settings host) :=
  List.countP_mono_left fun _ _ expected => (Bool.and_eq_true_iff.mp expected).1

theorem expects_all (host : String) (nodes : List Node) :
    nodes.countP (compilation.expects settings host) =
        nodes.countP (compilation.joins settings host) ↔
      ∀ node ∈ nodes, compilation.joins settings host node →
        (IoSection.broker? settings node).any (·.isTracked) := by
  have among : nodes.countP (compilation.expects settings host) =
      (nodes.filter (compilation.joins settings host)).countP
        fun node => (IoSection.broker? settings node).any (·.isTracked) := by
    rw [List.countP_filter]
    exact congrArg (List.countP · nodes) (funext fun _ => Bool.and_comm _ _)
  have whole : nodes.countP (compilation.joins settings host) =
      (nodes.filter (compilation.joins settings host)).length := List.countP_eq_length_filter
  rw [among, whole, List.countP_eq_length]
  simp only [List.mem_filter, and_imp]

end Compilation

namespace Plan

theorem tracked_server (plan : Plan) (station : Station) (other : station.role ≠ .server) :
    plan.tracked? station = none := by
  cases kind : station.device with
  | server declaration => exact absurd (congrArg Device.role kind) other
  | gateway polled downstream | client polled =>
      simp only [tracked?, ioSection, kind]
      rfl

theorem by_role_tracked (plan : Plan) :
    plan.network.byRole.filterMap plan.tracked? = plan.network.stations.filterMap plan.tracked? := by
  have servers : (plan.network.ofRole .server).filterMap plan.tracked? =
      plan.network.stations.filterMap plan.tracked? := by
    rw [Network.ofRole, List.filterMap_filter]
    refine List.filterMap_congr fun station _ => ?_
    by_cases server : station.role = .server
    · simp [server]
    · simp [server, plan.tracked_server station server]
  have others (role : Role) (other : role ≠ .server) :
      (plan.network.ofRole role).filterMap plan.tracked? = [] := by
    refine List.filterMap_eq_nil_iff.mpr fun station member => ?_
    have own : station.role = role := of_decide_eq_true (List.mem_filter.mp member).2
    exact plan.tracked_server station (own ▸ other)
  simp [Network.byRole, Role.all, servers, others .gateway, others .client]

end Plan

theorem brokers_entered (settings : Settings) (topology : Topology) (compilation : Compilation)
    (compiled : compile settings topology = .ok compilation) :
    compilation.brokers =
      BrokerRegistry.entered [] (topology.nodes.filterMap (compilation.tracked? settings)) := by
  obtain ⟨plan, planned, compiles⟩ := bind_ok _ _ compilation compiled
  obtain ⟨built, _⟩ := plan_ok settings topology plan planned
  have stands := (Network.built_standing settings.infrastructure topology plan.network built).1
  rw [(plan.brokers_entered {} _ compilation compiles).1, plan.by_role_tracked, stands,
    Network.standing, List.filterMap_filterMap]
  refine congrArg _ (List.filterMap_congr fun node member => ?_)
  cases role : node.role? with
  | none => simp [Network.standing?, Compilation.tracked?, role]
  | some known =>
      obtain ⟨station, _, device, made, result, listed⟩ :=
        compiled_node settings topology plan planned compilation compiles node known member role
      have standing := (Network.standing_iff settings.infrastructure node station).mpr
        ⟨known, role, made⟩
      obtain ⟨own, hasRole, _⟩ := Network.of_node_facts _ node known station made
      rw [standing, Option.bind_some]
      by_cases server : known = .server
      · obtain ⟨_, _, _, _, rfl⟩ := (plan_iff settings topology plan).mp planned
        rw [Compilation.tracked?, if_pos (by rw [role, server]), listed, Option.bind_some,
          Plan.tracked?, Plan.device_io _ station device result, own]
        rfl
      · rw [plan.tracked_server station (hasRole ▸ server), Compilation.tracked?,
          if_neg (by simp [role, server])]

/-- The host of a broker expects, in 32 bits, as many federates as the first tracked declaration for it
says and one for each server that joins it by a tracked declaration. As long as 32 bits hold all that
join it, these are all of them if and only if all of them declare it so. -/
theorem federates_expected (settings : Settings) (topology : Topology) (compilation : Compilation)
    (compiled : compile settings topology = .ok compilation) (host : BrokerHost)
    (member : host ∈ compilation.brokers) :
    ∃ creator broker,
      topology.nodes.find? (compilation.expects settings host.hostname) = some creator ∧
      IoSection.broker? settings creator = some broker ∧
      host.federates.toNat = (broker.base +
        topology.nodes.countP (compilation.expects settings host.hostname)) % UInt32.size ∧
      (broker.base + topology.nodes.countP (compilation.joins settings host.hostname) < UInt32.size →
        (host.federates.toNat =
            broker.base + topology.nodes.countP (compilation.joins settings host.hostname) ↔
          ∀ node ∈ topology.nodes, compilation.joins settings host.hostname node →
            (IoSection.broker? settings node).any (·.isTracked))) := by
  rw [brokers_entered settings topology compilation compiled] at member
  obtain ⟨first, found, same⟩ := BrokerRegistry.entered_member _ host member
  rw [compilation.tracked_first, Option.bind_eq_some_iff] at found
  rw [compilation.tracked_count] at same
  obtain ⟨creator, creates, tracked⟩ := found
  obtain ⟨broker, declared, base⟩ := compilation.tracked_federates settings creator first tracked
  have expected : host.federates.toNat = (broker.base +
      topology.nodes.countP (compilation.expects settings host.hostname)) % UInt32.size := by
    rw [← base, ← BrokerHost.joined_federates]
    exact congrArg (·.federates.toNat) same
  refine ⟨creator, broker, creates, declared, expected, fun fits => ?_⟩
  have fewer := compilation.expects_some settings host.hostname topology.nodes
  rw [expected, Nat.mod_eq_of_lt (by omega), Nat.add_left_cancel_iff]
  exact compilation.expects_all settings host.hostname topology.nodes

theorem yard_expected :
    ∃ compilation host, compile hosted yard = .ok compilation ∧ compilation.brokers = [host] ∧
      host.hostname = "hub" ∧ host.federates = 3 ∧
      host.federates.toNat = 1 + yard.nodes.countP (compilation.joins hosted host.hostname) := by
  obtain ⟨compilation, host, compiled, brokers, named, federates⟩ :
      ∃ compilation host, compile hosted yard = .ok compilation ∧ compilation.brokers = [host] ∧
        host.hostname = "hub" ∧ host.federates = 3 := ⟨_, _, rfl, rfl, rfl, rfl⟩
  obtain ⟨creator, broker, creates, declared, _, whole⟩ := federates_expected hosted yard
    compilation compiled host (brokers ▸ List.mem_singleton_self host)
  have shared : ∀ node ∈ yard.nodes, IoSection.broker? hosted node = hosted.helics.broker := by
    decide
  rw [shared creator (List.mem_of_find?_eq_some creates)] at declared
  cases declared
  have fits : 1 + yard.nodes.countP (compilation.joins hosted host.hostname) < UInt32.size :=
    Nat.lt_of_le_of_lt (Nat.add_le_add_left List.countP_le_length 1) (by decide)
  refine ⟨compilation, host, compiled, brokers, named, federates,
    (whole fits).mpr fun node member _ => ?_⟩
  rw [shared node member]
  rfl

-- One server says with how many federates the broker is to be started, the other takes the broker
-- of the experiment, which only says where it runs.
def mixed : Settings where
  helics := { broker := some { hostname := "hub" } }

def basin : Topology where
  nodes :=
    [{ hostname := "rtu1"
       nodeType := "fd-server"
       metadata :=
         { helics := some { broker := some { hostname := "hub", baseFederates := some 1 } }
           modbus := some { devices := [{ name := "BUS7", deviceType := "bus" }] } }
       interfaces := [{ name := "eth0", address := "10.0.0.1" }] },
     { hostname := "rtu2"
       nodeType := "fd-server"
       metadata := { dnp3 := some { devices := [{ name := "CAP3", deviceType := "capacitor" }] } }
       interfaces := [{ name := "eth0", address := "10.0.0.2" }] },
     { hostname := "hub"
       nodeType := "server"
       interfaces := [{ name := "eth0", address := "10.0.0.9" }] }]

theorem basin_short :
    mixed.check = .ok mixed ∧ ∃ compilation host creator broker,
      compile mixed basin = .ok compilation ∧ compilation.brokers = [host] ∧
      basin.nodes.find? (compilation.expects mixed host.hostname) = some creator ∧
      IoSection.broker? mixed creator = some broker ∧ broker.base = 1 ∧
      basin.nodes.countP (compilation.joins mixed host.hostname) = 2 ∧
      host.federates = 2 ∧
      host.federates.toNat ≠
        broker.base + basin.nodes.countP (compilation.joins mixed host.hostname) :=
  ⟨rfl, _, _, _, _, rfl, rfl, rfl, rfl, rfl, rfl, rfl, by decide⟩

end FieldConfig
