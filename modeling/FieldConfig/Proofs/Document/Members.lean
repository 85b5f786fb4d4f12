import FieldConfig.Proofs.Document.Parts
import FieldConfig.Proofs.Tree.Fields

set_option autoImplicit false

namespace FieldConfig

def MessageBus.ofTree? (tree : Tree) : Option MessageBus := do
  return ⟨← tree.text? "pull-endpoint", ← tree.text? "pub-endpoint"⟩

theorem MessageBus.read_tree (bus : MessageBus) : ofTree? bus.tree = some bus := rfl

def ApiSection.ofTree? (tree : Tree) : Option ApiSection := do
  return ⟨← tree.text? "endpoint", tree.text? "tls-key", tree.text? "tls-certificate",
    tree.text? "ca-certificate"⟩

theorem ApiSection.read_tree (api : ApiSection) : ofTree? api.tree = some api := by
  obtain ⟨endpoint, key, certificate, authority⟩ := api
  cases key <;> cases certificate <;> cases authority <;> rfl

def ElasticLogs.ofTree? (tree : Tree) : Option ElasticLogs := do
  return ⟨← tree.text? "endpoint", ← tree.text? "index"⟩

def LogsSection.ofTree? (tree : Tree) : Option LogsSection :=
  some ⟨(tree.field? "elastic").bind ElasticLogs.ofTree?, tree.text? "loki"⟩

theorem LogsSection.read_tree (logs : LogsSection) : ofTree? logs.tree = some logs := by
  obtain ⟨elastic, loki⟩ := logs
  cases elastic <;> cases loki <;> rfl

def GroundTruth.ofTree? (tree : Tree) : Option GroundTruth := do
  return ⟨← tree.text? "endpoint", ← tree.text? "index-base-name",
    ⟨← tree.entries? "labels" Tree.asText?⟩⟩

theorem GroundTruth.read_tree (groundTruth : GroundTruth) :
    ofTree? groundTruth.tree = some groundTruth := by
  obtain ⟨endpoint, indexBaseName, ⟨labels⟩⟩ := groundTruth
  have all := Tree.entries_read Tree.asText? Tree.text (fun _ => rfl) labels
  exact congrArg (·.bind fun labels => some (⟨endpoint, indexBaseName, ⟨labels⟩⟩ : GroundTruth)) all

def ModbusEntry.ofTree? (tree : Tree) : Option ModbusEntry := do
  let table ← (tree.text? "type").bind ModbusTable.ofName?
  return ⟨table, ← tree.natural? "address", ← tree.text? "tag",
    (tree.integer? "scaling").bind ModbusHints.exponent?⟩

theorem ModbusEntry.read_tree (entry : ModbusEntry) : ofTree? entry.tree = some entry := by
  obtain ⟨table, address, tag, scaling⟩ := entry
  cases scaling with
  | none => cases table <;> rfl
  | some n =>
      have scaled := congrArg (fun scaling => some (⟨table, address, tag, scaling⟩ : ModbusEntry))
        ((ModbusHints.exponent_some n.toInt n).mpr rfl)
      cases table <;> exact scaled

def Dnp3Point.ofTree? (tree : Tree) : Option Dnp3Point := do
  let direction ← (tree.text? "direction").bind Direction.ofName?
  let pointType ← (tree.text? "type").bind PointType.ofName?
  return ⟨direction, pointType, ← tree.natural? "address", ← tree.text? "tag", tree.text? "sgvar",
    tree.text? "egvar", tree.text? "class", tree.boolean? "sbo"⟩

theorem Dnp3Point.read_tree (point : Dnp3Point) : ofTree? point.tree = some point := by
  obtain ⟨direction, pointType, address, tag, sgvar, egvar, eventClass, sbo⟩ := point
  have known : Direction.ofName? direction.name = some direction ∧
      PointType.ofName? pointType.name = some pointType := by
    cases direction <;> cases pointType <;> exact ⟨rfl, rfl⟩
  have parts : ofTree? (tree ⟨direction, pointType, address, tag, sgvar, egvar, eventClass, sbo⟩) =
      (do
        let direction ← Direction.ofName? direction.name
        let pointType ← PointType.ofName? pointType.name
        return ⟨direction, pointType, address, tag, sgvar, egvar, eventClass, sbo⟩) := by
    cases sgvar <;> cases egvar <;> cases eventClass <;> cases sbo <;> rfl
  rw [parts, known.1, known.2]
  rfl

def Session.ofTree? (tree : Tree) : Option Session := do
  let name ← tree.text? "name"
  let localAddress ← tree.natural? "local_address"
  let remoteAddress ← tree.natural? "remote_address"
  if tree.text? "role" = some "master" then
    return .master name localAddress remoteAddress (← tree.natural? "scan_rate")
  else if tree.text? "role" = some "outstation" then
    return .outstation name localAddress remoteAddress
  else none

theorem Session.read_tree (session : Session) : ofTree? session.tree = some session := by
  cases session <;> rfl

def Section.treeBody? (tree : Tree) : Protocol → Option Body
  | .modbus => (tree.list? "registers" ModbusEntry.ofTree?).map .modbus
  | .dnp3 => do
    return .dnp3 (← (tree.field? "session").bind Session.ofTree?)
      (← tree.list? "points" Dnp3Point.ofTree?)

def Section.ofTree? (tree : Tree) : Option Section := do
  let protocol ← (tree.text? "protocol").bind Protocol.ofName?
  let mode ← (tree.text? "mode").bind Mode.ofName?
  return ⟨← tree.text? "name", mode, ← tree.text? "endpoint", ← treeBody? tree protocol⟩

theorem Section.read_tree (s : Section) : ofTree? s.tree = some s := by
  obtain ⟨name, mode, endpoint, body⟩ := s
  cases body with
  | modbus entries =>
      have all := Tree.list_read ModbusEntry.ofTree? ModbusEntry.tree ModbusEntry.read_tree entries
      have parts : ofTree? (tree ⟨name, mode, endpoint, .modbus entries⟩) = (do
          let mode ← Mode.ofName? mode.name
          let body ← (Tree.asList? ModbusEntry.ofTree?
            (.array (entries.map ModbusEntry.tree))).map Body.modbus
          return ⟨name, mode, endpoint, body⟩) := rfl
      rw [parts, mode.read_name, all]
      rfl
  | dnp3 session points =>
      have all := Tree.list_read Dnp3Point.ofTree? Dnp3Point.tree Dnp3Point.read_tree points
      have parts : ofTree? (tree ⟨name, mode, endpoint, .dnp3 session points⟩) = (do
          let mode ← Mode.ofName? mode.name
          let body ← (do
            let session ← Session.ofTree? session.tree
            let points ← Tree.asList? Dnp3Point.ofTree? (.array (points.map Dnp3Point.tree))
            return Body.dnp3 session points)
          return ⟨name, mode, endpoint, body⟩) := rfl
      rw [parts, mode.read_name, session.read_tree, all]
      rfl

def Topic.ofTree? (tree : Tree) : Option Topic := do
  let kind ← (tree.text? "kind").bind TopicKind.ofName?
  let valueType ← (tree.text? "type").bind ValueType.ofName?
  return ⟨kind, ← tree.text? "key", ← tree.text? "tag", valueType⟩

theorem Topic.read_tree (topic : Topic) : ofTree? topic.tree = some topic := by
  obtain ⟨kind, key, tag, valueType⟩ := topic
  cases kind <;> cases valueType <;> rfl

def MessageEndpoint.ofTree? (tree : Tree) : Option MessageEndpoint := do
  return ⟨← tree.text? "name", ← tree.list? "tags" Tree.asText?⟩

theorem MessageEndpoint.read_tree (endpoint : MessageEndpoint) :
    ofTree? endpoint.tree = some endpoint := by
  obtain ⟨name, tags⟩ := endpoint
  have all := Tree.list_read Tree.asText? Tree.text (fun _ => rfl) tags
  exact congrArg (·.bind fun tags => some (⟨name, tags⟩ : MessageEndpoint)) all

def IoSection.ofTree? (tree : Tree) : Option IoSection := do
  return ⟨← tree.text? "name", ← tree.text? "broker-endpoint", ← tree.text? "federate-name",
    ← tree.text? "federate-log-level", ← tree.list? "topics" Topic.ofTree?,
    ← tree.list? "endpoints" MessageEndpoint.ofTree?⟩

theorem IoSection.read_tree (io : IoSection) : ofTree? io.tree = some io := by
  obtain ⟨name, brokerEndpoint, federateName, federateLogLevel, topics, endpoints⟩ := io
  have parts : ofTree? (tree ⟨name, brokerEndpoint, federateName, federateLogLevel, topics,
      endpoints⟩) = (do
        let topics ← Tree.asList? Topic.ofTree? (.array (topics.map Topic.tree))
        let endpoints ← Tree.asList? MessageEndpoint.ofTree?
          (.array (endpoints.map MessageEndpoint.tree))
        return ⟨name, brokerEndpoint, federateName, federateLogLevel, topics, endpoints⟩) := rfl
  rw [parts, Tree.list_read Topic.ofTree? Topic.tree Topic.read_tree,
    Tree.list_read MessageEndpoint.ofTree? MessageEndpoint.tree MessageEndpoint.read_tree]
  rfl

def LogicVariable.ofTree? (tree : Tree) : Option LogicVariable := do
  return ⟨← tree.field? "value", tree.text? "tag"⟩

theorem LogicVariable.read_tree (entry : LogicVariable) : ofTree? entry.tree = some entry := by
  obtain ⟨value, tag⟩ := entry
  cases tag <;> rfl

def LogicSection.ofTree? (tree : Tree) : Option LogicSection := do
  return ⟨← tree.text? "name", ← tree.text? "period", ← tree.boolean? "process-updates",
    ← tree.text? "program", ⟨← tree.entries? "variables" LogicVariable.ofTree?⟩⟩

theorem LogicSection.read_tree (logic : LogicSection) : ofTree? logic.tree = some logic := by
  obtain ⟨name, period, processUpdates, program, ⟨entries⟩⟩ := logic
  have all := Tree.entries_read LogicVariable.ofTree? LogicVariable.tree LogicVariable.read_tree
    entries
  exact congrArg (·.bind fun entries =>
    some (⟨name, period, processUpdates, program, ⟨entries⟩⟩ : LogicSection)) all

def ModuleKind.ofTree? (tree : Tree) : Option ModuleKind :=
  tree.asText?.bind fun name => all.find? (·.name == name)

theorem ModuleKind.read_tree (kind : ModuleKind) : ofTree? (.text kind.name) = some kind := by
  cases kind <;> rfl

namespace Document

def ofTree? (tree : Tree) : Option Document := do
  let cpu ← tree.field? "cpu"
  return {
    hostname := ← tree.text? "hostname"
    messageBus := ← (tree.field? "message_bus").bind MessageBus.ofTree?
    api := (cpu.field? "api").bind ApiSection.ofTree?
    logs := (cpu.field? "logs").bind LogsSection.ofTree?
    modules := ← cpu.list? "modules" ModuleKind.ofTree?
    groundTruth := (tree.field? "ground_truth").bind GroundTruth.ofTree?
    sections := ← tree.list? "protocols" Section.ofTree?
    io := (tree.field? "io").bind IoSection.ofTree?
    logic := (tree.field? "logic").bind LogicSection.ofTree? }

theorem read_tree (document : Document) : ofTree? document.tree = some document := by
  obtain ⟨hostname, messageBus, api, logs, modules, groundTruth, sections, io, logic⟩ := document
  have modulesRead := Tree.list_read ModuleKind.ofTree? (fun kind => .text kind.name)
    ModuleKind.read_tree modules
  have sectionsRead := Tree.list_read Section.ofTree? Section.tree Section.read_tree sections
  have parts : ofTree? (tree ⟨hostname, messageBus, api, logs, modules, groundTruth, sections, io,
      logic⟩) = (do
        let modules ← Tree.asList? ModuleKind.ofTree?
          (.array (modules.map fun kind => .text kind.name))
        let sections ← Tree.asList? Section.ofTree? (.array (sections.map Section.tree))
        return ⟨hostname, messageBus, (api.map ApiSection.tree).bind ApiSection.ofTree?,
          (logs.map LogsSection.tree).bind LogsSection.ofTree?, modules,
          (groundTruth.map GroundTruth.tree).bind GroundTruth.ofTree?, sections,
          (io.map IoSection.tree).bind IoSection.ofTree?,
          (logic.map LogicSection.tree).bind LogicSection.ofTree?⟩) := by
    have names : modules.map (fun kind => Tree.text kind.name) =
        (modules.map ModuleKind.name).map Tree.text := by rw [List.map_map]; rfl
    rw [names]
    cases api <;> cases logs <;> cases groundTruth <;> cases io <;> cases logic <;> rfl
  rw [parts, modulesRead, sectionsRead, Tree.part_read ApiSection.ofTree? _ ApiSection.read_tree,
    Tree.part_read LogsSection.ofTree? _ LogsSection.read_tree,
    Tree.part_read GroundTruth.ofTree? _ GroundTruth.read_tree,
    Tree.part_read IoSection.ofTree? _ IoSection.read_tree,
    Tree.part_read LogicSection.ofTree? _ LogicSection.read_tree]
  rfl

end Document

end FieldConfig
