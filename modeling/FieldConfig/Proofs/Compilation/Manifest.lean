import FieldConfig.Proofs.Compilation.Reordering
import FieldConfig.Proofs.Compilation.Serving

set_option autoImplicit false

-- The shape of a document: which sections it has, in which order, and which modules run. A module
-- runs if and only if the document has what it works on, and the order of the modules is fixed for
-- each role, whatever the order of the sections.
namespace FieldConfig

def ModuleKind.order : Role → List ModuleKind
  | .server | .gateway => [.backplane, .groundTruth, .dnp3, .modbus, .io, .logic]
  | .client => [.backplane, .groundTruth, .modbus, .dnp3, .io, .logic]

def Node.served (node : Node) : Role → List Protocol
  | .server => [Protocol.dnp3, .modbus].filter fun protocol => (node.metadata.protocol protocol).isSome
  | .gateway =>
    match Downstream.ofSetting node.metadata.downstream with
    | .serving protocol => [protocol]
    | .unsupported _ => []
  | .client => []

namespace Document

def needs (document : Document) : ModuleKind → Bool
  | .backplane => true
  | .groundTruth => document.groundTruth.isSome
  | .dnp3 => document.sections.any (·.protocol = .dnp3)
  | .modbus => document.sections.any (·.protocol = .modbus)
  | .io => document.io.isSome
  | .logic => document.logic.isSome

theorem needs_protocol (document : Document) (protocol : Protocol) :
    document.needs (.ofProtocol protocol) = document.sections.any (·.protocol = protocol) := by
  cases protocol <;> rfl

end Document

theorem ModuleKind.order_distinct (role : Role) : (order role).Nodup := by
  cases role <;> decide

theorem Station.module_order (station : Station) :
    [ModuleKind.backplane, .groundTruth] ++ station.device.moduleOrder.map ModuleKind.ofProtocol ++
      [.io, .logic] = ModuleKind.order station.role := by
  rw [role]
  cases station.device <;> rfl

theorem ModuleKind.activate_settled (needed : ModuleKind → Bool) (settled : List ModuleKind)
    (kind : ModuleKind) (fresh : kind ∉ settled) :
    (if needed kind then activate (settled.filter needed) kind else settled.filter needed) =
      (settled ++ [kind]).filter needed := by
  cases wanted : needed kind with
  | true =>
      have missing : kind ∉ settled.filter needed := fun known => fresh (List.mem_filter.mp known).1
      rw [if_pos rfl, activate, if_neg missing, List.filter_append, List.filter_cons_of_pos wanted,
        List.filter_nil]
  | false => simp [List.filter_append, wanted]

namespace Document

theorem start_each_modules (needed : ModuleKind → Bool) (settled : List ModuleKind)
    (document : Document) (order : List Protocol)
    (distinct : (settled ++ order.map ModuleKind.ofProtocol).Nodup)
    (running : document.modules = settled.filter needed) :
    ((order.filter fun protocol => needed (.ofProtocol protocol)).foldl
        (fun document protocol => document.start (.ofProtocol protocol)) document).modules =
      (settled ++ order.map ModuleKind.ofProtocol).filter needed := by
  induction order generalizing settled document with
  | nil => simpa using running
  | cons protocol rest ih =>
      rw [List.map_cons, List.append_cons] at distinct ⊢
      have fresh : ModuleKind.ofProtocol protocol ∉ settled := by
        intro known
        exact (List.nodup_append.mp (List.nodup_append.mp distinct).1).2.2 _ known _
          (List.mem_singleton_self _) rfl
      have next := ModuleKind.activate_settled needed settled (.ofProtocol protocol) fresh
      cases wanted : needed (.ofProtocol protocol) with
      | true =>
          rw [List.filter_cons, if_pos wanted, List.foldl_cons]
          rw [if_pos wanted, ← running] at next
          exact ih _ _ distinct next
      | false =>
          rw [List.filter_cons, if_neg (by simp [wanted])]
          rw [if_neg (by simp [wanted]), ← running] at next
          exact ih _ _ distinct next

theorem start_each_rest (document : Document) (protocols : List Protocol) :
    protocols.foldl (fun document protocol => document.start (.ofProtocol protocol)) document =
      { document with
        modules := (protocols.foldl
          (fun document protocol => document.start (.ofProtocol protocol)) document).modules } := by
  induction protocols generalizing document with
  | nil => rfl
  | cons protocol rest ih => exact ih (document.start (.ofProtocol protocol))

end Document

namespace Plan

theorem blank_modules (plan : Plan) (node : Node) (needed : ModuleKind → Bool)
    (backplane : needed .backplane = true)
    (groundTruth : needed .groundTruth = (plan.blankDocument node).groundTruth.isSome) :
    (plan.blankDocument node).modules =
      [ModuleKind.backplane, .groundTruth].filter needed := by
  simp only [blankDocument] at groundTruth ⊢
  cases found : plan.settings.groundTruthFor node.metadata.groundTruth with
  | some own =>
      simp only [found, Document.withGroundTruth, Option.isSome_some] at groundTruth
      cases plan.settings.logsFor node.metadata.logs <;>
        simp [List.filter, backplane, groundTruth, Document.withGroundTruth, Document.withLogs,
          Document.start, ModuleKind.activate, ModuleKind.initial]
  | none =>
      cases logged : plan.settings.logsFor node.metadata.logs <;>
        simp only [found, logged, Document.withLogs, Option.isSome_none] at groundTruth <;>
        simp [List.filter, backplane, groundTruth, Document.withLogs, ModuleKind.initial]

theorem finish_rest (document : Document) (io : Option IoSection) (node : Node) :
    (finish document io node).api = document.api ∧
      (finish document io node).groundTruth = document.groundTruth ∧
      (finish document io node).io = io.or document.io ∧
      (finish document io node).logic =
        (node.metadata.logic.bind LogicSettings.section?).or document.logic := by
  simp only [finish]
  cases io <;> cases node.metadata.logic.bind LogicSettings.section? <;> exact ⟨rfl, rfl, rfl, rfl⟩

theorem finish_modules (needed : ModuleKind → Bool) (settled : List ModuleKind)
    (document : Document) (io : Option IoSection) (node : Node) (ioNeeded : needed .io = io.isSome)
    (logicNeeded : needed .logic = (node.metadata.logic.bind LogicSettings.section?).isSome)
    (distinct : (settled ++ [ModuleKind.io, .logic]).Nodup)
    (running : document.modules = settled.filter needed) :
    (finish document io node).modules =
      (settled ++ [ModuleKind.io, .logic]).filter needed := by
  rw [List.append_cons] at distinct ⊢
  obtain ⟨earlier, _, apart⟩ := List.nodup_append.mp distinct
  have bound := ModuleKind.activate_settled needed settled .io fun known =>
    (List.nodup_append.mp earlier).2.2 _ known _ (List.mem_singleton_self _) rfl
  have programmed := ModuleKind.activate_settled needed (settled ++ [.io]) .logic fun known =>
    apart _ known _ (List.mem_singleton_self _) rfl
  rw [← programmed, ← bound, ioNeeded, logicNeeded, ← running]
  simp only [finish]
  cases io <;> cases node.metadata.logic.bind LogicSettings.section? <;> rfl

theorem device_rest (plan : Plan) (station : Station) (device : CompiledDevice)
    (compiled : plan.device station = .ok device) :
    device.document.api = (plan.settings.apiFor station.node.metadata.cpu).map (·.listener) ∧
      device.document.groundTruth = (plan.blankDocument station.node).groundTruth ∧
      (plan.ioSection {} station).2 = .ok device.document.io ∧
      device.document.logic = station.node.metadata.logic.bind LogicSettings.section? := by
  obtain ⟨io, bound, same⟩ := plan.device_document station device compiled
  obtain ⟨listener, _, ioOpen, logicOpen⟩ := plan.blank_rest station.node
  obtain ⟨api, groundTruth, ioKept, logic⟩ := finish_rest
    ({ plan.blankDocument station.node with
      sections := device.document.sections }.startProtocols station.device.moduleOrder) io station.node
  rw [← same, Document.startProtocols, Document.start_each_rest] at api groundTruth ioKept logic
  simp only [ioOpen, logicOpen, Option.or_none] at ioKept logic
  exact ⟨api.trans listener, groundTruth, by rw [ioKept, bound], logic⟩

theorem device_io (plan : Plan) (station : Station) (device : CompiledDevice)
    (compiled : plan.device station = .ok device) :
    (plan.ioSection {} station).2 = .ok device.document.io :=
  (plan.device_rest station device compiled).2.2.1

theorem device_modules (plan : Plan) (station : Station) (device : CompiledDevice)
    (compiled : plan.device station = .ok device) :
    device.document.modules = (ModuleKind.order station.role).filter device.document.needs := by
  obtain ⟨_, groundTruth, kept, logic⟩ := plan.device_rest station device compiled
  obtain ⟨io, bound, same⟩ := plan.device_document station device compiled
  have ioKept : device.document.io = io := Except.ok.inj (kept.symm.trans bound)
  generalize device.document = document at same groundTruth logic ioKept ⊢
  have order := station.module_order
  have distinct := ModuleKind.order_distinct station.role
  rw [← order] at distinct
  have began := Document.start_each_modules document.needs [.backplane, .groundTruth]
    { plan.blankDocument station.node with sections := document.sections }
    station.device.moduleOrder (List.nodup_append.mp distinct).1
    (plan.blank_modules station.node document.needs rfl (by rw [Document.needs, groundTruth]))
  simp only [Document.needs_protocol] at began
  refine (congrArg Document.modules same).trans ?_
  rw [← order]
  exact finish_modules document.needs _ _ io station.node (by rw [Document.needs, ioKept])
    (by rw [Document.needs, logic]) distinct began

end Plan

namespace Declaration

theorem protocols_declared (node : Node) (protocols : List Protocol)
    (declared : List (Protocol × List DeviceReference))
    (listed : ofProtocols node protocols = .ok declared) :
    declared.map Prod.fst =
      protocols.filter fun protocol => (node.metadata.protocol protocol).isSome := by
  induction protocols generalizing declared with
  | nil =>
      cases listed
      rfl
  | cons protocol rest ih =>
      rw [ofProtocols] at listed
      cases found : node.metadata.protocol protocol with
      | none =>
          rw [found] at listed
          rw [List.filter_cons_of_neg (by simp [found]), ih declared listed]
      | some own =>
          rw [found] at listed
          obtain ⟨references, _, later⟩ := bind_ok _ _ declared listed
          obtain ⟨others, following, same⟩ := bind_ok _ _ declared later
          cases same
          rw [List.filter_cons_of_pos (by simp [found]), List.map_cons, ih others following]

end Declaration

namespace Network

theorem by_role_whole (network : Network) : network.byRole.Perm network.stations := by
  simp only [byRole, Role.all, List.flatMap_cons, List.flatMap_nil, ofRole, List.append_nil]
  induction network.stations with
  | nil => exact .nil
  | cons station rest ih =>
      cases role : station.role with
      | server => simpa [role] using ih
      | gateway => simpa [role] using List.perm_middle.trans (ih.cons station)
      | client =>
          rw [← List.append_assoc] at ih
          simpa [role] using List.perm_middle.trans (ih.cons station)

-- A server has a group of registers, maybe an empty one, for each protocol that its node declares.
theorem exposed_protocols (network : Network) (catalog : Catalog) (resolution : Resolution)
    (consistent : network.Consistent catalog resolution) (defaultInfrastructure : String)
    (node : Node) (role : Role) (station : Station)
    (made : Station.ofNode defaultInfrastructure node role = .ok station)
    (member : station ∈ network.stations)
    (resolved : resolution.progress station.hostname = .resolved) :
    (resolution.exposed station).protocols = node.served role := by
  cases role with
  | server =>
      have means := network.means_device catalog _ _ (consistent.meaning _ member resolved) _
        (network.station_member _ member)
      obtain ⟨declaration, declares, same⟩ := bind_ok _ _ station made
      obtain ⟨protocols, listed, named⟩ := bind_ok _ _ declaration declares
      cases same
      cases named
      have names := Declaration.protocols_declared node Protocol.all protocols listed
      have distinct : (protocols.map Prod.fst).Nodup :=
        names ▸ (by decide : Protocol.all.Nodup).sublist List.filter_sublist
      simp only at means
      rw [Resolution.exposed, Device.exposed, means, RegisterSet.protocols_regroup,
        Declaration.expansion, List.map_map]
      exact (eraseDups_nodup _ distinct).trans names
  | gateway =>
      cases made
      simp only [Resolution.exposed, Node.served]
      cases Downstream.ofSetting node.metadata.downstream <;> rfl
  | client =>
      cases made
      rfl

theorem serving_protocols (resolution : Resolution) (station : Station)
    (encoded : ∀ result ∈ servingSections resolution station, ∃ s, result = .ok s) :
    (Document.written (servingSections resolution station)).map Section.protocol =
      (resolution.exposed station).protocols := by
  rw [serving_exposed] at encoded ⊢
  have content := written_content (servingSection station) _ (serving_content station) encoded
  have first := congrArg (List.map Prod.fst) content
  rw [List.map_map, List.map_map] at first
  exact first

end Network

theorem hostnames_distinct (settings : Settings) (topology : Topology) (compilation : Compilation)
    (compiled : compile settings topology = .ok compilation) :
    (compilation.devices.map (·.hostname)).Nodup := by
  obtain ⟨plan, _, compiles⟩ := bind_ok _ _ compilation compiled
  have devices := plan.stations_compiled {} _ compilation compiles
  have names := congrArg (List.map Prod.snd) (plan.compiled_names _ _ devices)
  rw [List.map_map, List.map_map] at names
  have distinct := (plan.network.by_role_whole.map Station.hostname).nodup_iff.mpr
    plan.network.distinct
  exact names ▸ distinct

theorem device_origin (settings : Settings) (topology : Topology) (compilation : Compilation)
    (compiled : compile settings topology = .ok compilation) (device : CompiledDevice)
    (member : device ∈ compilation.devices) :
    ∃ node ∈ topology.nodes, node.role? = some device.role ∧ node.hostname = device.hostname ∧
      device.document.logic = node.metadata.logic.bind LogicSettings.section? ∧
      device.document.api = (settings.apiFor node.metadata.cpu).map (·.listener) ∧
      device.certificates =
        ((settings.apiFor node.metadata.cpu).map (·.certificates)).getD [] := by
  obtain ⟨plan, planned, compiles⟩ := bind_ok _ _ compilation compiled
  obtain ⟨built, _⟩ := plan_ok settings topology plan planned
  obtain ⟨network, resolution, _, _, rfl⟩ := (plan_iff settings topology plan).mp planned
  obtain ⟨station, among, result⟩ := Plan.device_station _ compilation compiles device member
  obtain ⟨node, listed, role, known, made⟩ :=
    Network.station_stands settings.infrastructure topology network built station among
  obtain ⟨rfl, hasRole, _⟩ := Network.of_node_facts _ node role station made
  have facts := Plan.device_compiled_facts _ station device result
  obtain ⟨_, _, _, whole⟩ := Plan.station_built _ {} _ station device (Prod.ext rfl result)
  obtain ⟨api, _, _, logic⟩ := Plan.device_rest _ station device result
  refine ⟨station.node, listed, ?_, facts.hostname.symm, logic, api, ?_⟩
  · rw [known, facts.role, hasRole]
  · rw [whole]

/-- Every device of the topology has one document. A server serves each protocol that it declares and
polls nothing, a gateway polls and serves one protocol, a client only polls; and the modules that run
are those that the document needs, in the order of the role. -/
theorem documents_shaped (settings : Settings) (topology : Topology) (compilation : Compilation)
    (compiled : compile settings topology = .ok compilation) :
    compilation.devices.map (fun device => (device.role, device.hostname)) = topology.devices ∧
      (compilation.devices.map (·.hostname)).Nodup ∧
      ∀ node ∈ topology.nodes, ∀ role, node.role? = some role →
        ∃ device, compilation.device? node.hostname = some device ∧ device.role = role ∧
          device.document.sections =
            device.document.sectionsOf .client ++ device.document.sectionsOf .server ∧
          (device.document.sectionsOf .server).map Section.protocol = node.served role ∧
          (role = .server → device.document.sectionsOf .client = []) ∧
          device.document.modules = (ModuleKind.order role).filter device.document.needs ∧
          device.document.modules.Nodup := by
  obtain ⟨plan, planned, compiles⟩ := bind_ok _ _ compilation compiled
  obtain ⟨built, finished⟩ := plan_ok settings topology plan planned
  obtain ⟨consistent, resolved⟩ := plan.network.all_resolved _ _ finished
  refine ⟨devices_in_order settings topology compilation compiled,
    hostnames_distinct settings topology compilation compiled, fun node member role known => ?_⟩
  obtain ⟨station, among, device, made, result, listed⟩ :=
    compiled_node settings topology plan planned compilation compiles node role member known
  have hasRole := (Network.of_node_facts _ node role station made).2.1
  have same := plan.device_compiled_facts station device result
  obtain ⟨clients, servers⟩ := plan.compiled_sections station device same
  have modules := plan.device_modules station device result
  rw [hasRole] at modules
  refine ⟨device, listed, same.role.trans hasRole, ?_, ?_, fun server => ?_, modules, ?_⟩
  · rw [clients, servers, same.sections]
    exact List.filterMap_append
  · rw [servers, Network.serving_protocols plan.resolution station fun part listed =>
      same.encoded part (List.mem_append_right _ listed)]
    exact plan.network.exposed_protocols settings.catalog plan.resolution consistent _ node role
      station made among (resolved station among)
  · subst server
    obtain ⟨declaration, _, kind⟩ := bind_ok _ _ station made
    cases kind
    rw [clients]
    rfl
  · rw [modules]
    exact (ModuleKind.order_distinct role).sublist List.filter_sublist

def works : Topology where
  nodes :=
    [{ hostname := "hmi"
       nodeType := "fd-client"
       metadata := { polled := some ["rtu1"], logic := some { program := some "x = 1" } } },
     { hostname := "rtu1"
       nodeType := "fd-server"
       metadata :=
         { dnp3 := some { devices := [{ name := "CAP3", deviceType := "capacitor" }] }
           modbus := some {} }
       interfaces := [{ name := "eth0", address := "10.0.0.1" }] }]

theorem works_shaped :
    ∃ compilation device, compile simulated works = .ok compilation ∧
      compilation.devices.map (fun device => (device.role, device.hostname)) =
        [(.server, "rtu1"), (.client, "hmi")] ∧
      compilation.device? "hmi" = some device ∧
      device.document.sections.map Section.protocol = [.dnp3, .modbus] ∧
      device.document.sectionsOf .server = [] ∧
      device.document.modules = [.backplane, .modbus, .dnp3, .logic] := by
  obtain ⟨compilation, compiled, computed⟩ : ∃ compilation,
      compile simulated works = .ok compilation ∧
        (compilation.device? "hmi").map (fun device =>
            (device.document.sections.map Section.protocol,
              (ModuleKind.order .client).filter device.document.needs)) =
          some ([.dnp3, .modbus], [.backplane, .modbus, .dnp3, .logic]) := ⟨_, rfl, rfl⟩
  obtain ⟨order, _, each⟩ := documents_shaped simulated works compilation compiled
  obtain ⟨device, listed, _, _, served, _, modules, _⟩ :=
    each works.nodes[0] (List.getElem_mem _) .client rfl
  have named : compilation.device? "hmi" = some device := listed
  rw [named, Option.map_some, Option.some.injEq, Prod.mk.injEq] at computed
  exact ⟨compilation, device, compiled, order, named, computed.1, List.map_eq_nil_iff.mp served,
    modules.trans computed.2⟩

end FieldConfig
