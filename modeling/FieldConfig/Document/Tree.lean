import FieldConfig.Document
import FieldConfig.Tree.Json

set_option autoImplicit false

namespace FieldConfig

namespace Tree

def member? (key : String) (value : Option Tree) : List (String × Tree) :=
  value.toList.map fun tree => (key, tree)

def textMember? (key : String) (value : Option String) : List (String × Tree) :=
  member? key (value.map Tree.text)

def texts (values : List String) : Tree := .array (values.map Tree.text)

end Tree

open FieldConfig.Tree (member? textMember? texts)

def MessageBus.tree (bus : MessageBus) : Tree :=
  .object [("pull-endpoint", .text bus.pullEndpoint), ("pub-endpoint", .text bus.pubEndpoint)]

def ApiSection.tree (api : ApiSection) : Tree :=
  .object
    (("endpoint", .text api.endpoint) :: textMember? "tls-key" api.tlsKey ++
      textMember? "tls-certificate" api.tlsCertificate ++
      textMember? "ca-certificate" api.caCertificate)

def ElasticLogs.tree (elastic : ElasticLogs) : Tree :=
  .object [("endpoint", .text elastic.endpoint), ("index", .text elastic.index)]

def LogsSection.tree (logs : LogsSection) : Tree :=
  .object (member? "elastic" (logs.elastic.map ElasticLogs.tree) ++ textMember? "loki" logs.loki)

def GroundTruth.tree (groundTruth : GroundTruth) : Tree :=
  .object
    [("endpoint", .text groundTruth.endpoint),
     ("index-base-name", .text groundTruth.indexBaseName),
     ("labels", .object (groundTruth.labels.entries.map fun (key, value) => (key, .text value)))]

def ModbusEntry.tree (entry : ModbusEntry) : Tree :=
  .object
    ([("type", .text entry.table.name), ("address", .integer entry.address),
      ("tag", .text entry.tag)] ++ member? "scaling" (entry.scaling.map fun n => .integer n.toInt))

def Dnp3Point.tree (point : Dnp3Point) : Tree :=
  .object
    ([("direction", .text point.direction.name), ("type", .text point.pointType.name),
      ("address", .integer point.address), ("tag", .text point.tag)] ++
      textMember? "sgvar" point.sgvar ++ textMember? "egvar" point.egvar ++
      textMember? "class" point.eventClass ++ member? "sbo" (point.sbo.map Tree.boolean))

def Session.tree : Session → Tree
  | .master name localAddress remoteAddress scanRate =>
    .object
      [("role", .text "master"), ("name", .text name), ("local_address", .integer localAddress),
       ("remote_address", .integer remoteAddress), ("scan_rate", .integer scanRate)]
  | .outstation name localAddress remoteAddress =>
    .object
      [("role", .text "outstation"), ("name", .text name),
       ("local_address", .integer localAddress), ("remote_address", .integer remoteAddress)]

def Section.tree (s : Section) : Tree :=
  .object
    ([("protocol", .text s.protocol.name), ("name", .text s.name), ("mode", .text s.mode.name),
      ("endpoint", .text s.endpoint)] ++
      match s.body with
      | .modbus entries => [("registers", .array (entries.map ModbusEntry.tree))]
      | .dnp3 session points =>
        [("session", session.tree), ("points", .array (points.map Dnp3Point.tree))])

def Topic.tree (topic : Topic) : Tree :=
  .object
    [("kind", .text topic.kind.name), ("key", .text topic.key), ("tag", .text topic.tag),
     ("type", .text topic.valueType.name)]

def MessageEndpoint.tree (endpoint : MessageEndpoint) : Tree :=
  .object [("name", .text endpoint.name), ("tags", texts endpoint.tags)]

def IoSection.tree (io : IoSection) : Tree :=
  .object
    [("name", .text io.name), ("broker-endpoint", .text io.brokerEndpoint),
     ("federate-name", .text io.federateName),
     ("federate-log-level", .text io.federateLogLevel),
     ("topics", .array (io.topics.map Topic.tree)),
     ("endpoints", .array (io.endpoints.map MessageEndpoint.tree))]

def LogicVariable.tree (entry : LogicVariable) : Tree :=
  .object (("value", entry.value) :: textMember? "tag" entry.tag)

def LogicSection.tree (logic : LogicSection) : Tree :=
  .object
    [("name", .text logic.name), ("period", .text logic.period),
     ("process-updates", .boolean logic.processUpdates), ("program", .text logic.program),
     ("variables", .object (logic.symbols.entries.map fun (key, value) => (key, value.tree)))]

def Document.tree (document : Document) : Tree :=
  .object
    ([("hostname", .text document.hostname), ("message_bus", document.messageBus.tree),
      ("cpu", .object
        (member? "api" (document.api.map ApiSection.tree) ++
          member? "logs" (document.logs.map LogsSection.tree) ++
          [("modules", texts (document.modules.map ModuleKind.name))]))] ++
      member? "ground_truth" (document.groundTruth.map GroundTruth.tree) ++
      [("protocols", .array (document.sections.map Section.tree))] ++
      member? "io" (document.io.map IoSection.tree) ++
      member? "logic" (document.logic.map LogicSection.tree))

def BrokerHost.tree (host : BrokerHost) : Tree :=
  .object
    [("hostname", .text host.hostname), ("broker-endpoint", .text host.endpoint),
     ("federate-count", .integer host.federates.toNat), ("dynamic", .boolean host.dynamic),
     ("log-level", .text host.logLevel), ("log-file", .text host.logFile)]

end FieldConfig
