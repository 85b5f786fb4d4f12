import FieldConfig.Document
import FieldConfig.Tree.Json
import FieldConfig.Xml

set_option autoImplicit false

namespace FieldConfig

open Xml (Element)

namespace Xml

def plain (name text : String) : Element := .leaf name [] text

def plain? (name : String) (text : Option String) : List Element :=
  text.toList.map (plain name)

def flag (name : String) (value : Bool) : Element := plain name (if value then "true" else "false")

def number (name : String) (value : Nat) : Element :=
  plain name (String.ofList (Nat.toDigits 10 value))

end Xml

open Xml (plain plain? flag number)

def MessageBus.element (bus : MessageBus) : Element :=
  .branch "message-bus" []
    [plain "pull-endpoint" bus.pullEndpoint, plain "pub-endpoint" bus.pubEndpoint]

def ApiSection.element (api : ApiSection) : Element :=
  .branch "api" []
    (plain "endpoint" api.endpoint :: plain? "tls-key" api.tlsKey ++
      plain? "tls-certificate" api.tlsCertificate ++ plain? "ca-certificate" api.caCertificate)

def LogsSection.element (logs : LogsSection) : Element :=
  .branch "logs" []
    ((logs.elastic.toList.map fun elastic =>
        .leaf "elastic" [("index", elastic.index)] elastic.endpoint) ++
      plain? "loki" logs.loki)

def ModuleKind.element (kind : ModuleKind) : Element :=
  .leaf "module" [("name", kind.name)] kind.command

def GroundTruth.element (groundTruth : GroundTruth) : Element :=
  .branch "ground-truth" []
    [.branch "elastic" []
      ([plain "endpoint" groundTruth.endpoint,
        plain "index-base-name" groundTruth.indexBaseName] ++
        groundTruth.labels.entries.map fun (key, value) => .leaf "label" [("name", key)] value)]

def ModbusEntry.element (entry : ModbusEntry) : Element :=
  .branch "register" [("type", entry.table.name)]
    ([number "address" entry.address, plain "tag" entry.tag] ++
      plain? "scaling" (entry.scaling.map fun n => String.ofList (Tree.jsonInteger n.toInt)))

def Dnp3Point.element (point : Dnp3Point) : Element :=
  .branch point.direction.name [("type", point.pointType.name)]
    ([number "address" point.address, plain "tag" point.tag] ++
      plain? "sgvar" point.sgvar ++ plain? "egvar" point.egvar ++
      plain? "class" point.eventClass ++ point.sbo.toList.map (flag "sbo"))

def Session.element (points : List Dnp3Point) : Session → Element
  | .master name localAddress remoteAddress scanRate =>
    .branch "master" [("name", name)]
      ([number "local-address" localAddress, number "remote-address" remoteAddress,
        number "scan-rate" scanRate] ++ points.map Dnp3Point.element)
  | .outstation name localAddress remoteAddress =>
    .branch "outstation" [("name", name)]
      ([number "local-address" localAddress, number "remote-address" remoteAddress] ++
        points.map Dnp3Point.element)

def Section.element (s : Section) : Element :=
  .branch s.protocol.name [("name", s.name), ("mode", s.mode.name)]
    (plain "endpoint" s.endpoint ::
      match s.body with
      | .modbus entries => entries.map ModbusEntry.element
      | .dnp3 session points => [session.element points])

def Topic.element (topic : Topic) : Element :=
  .branch topic.kind.name []
    [plain "key" topic.key, plain "tag" topic.tag, plain "type" topic.valueType.name]

def MessageEndpoint.element (endpoint : MessageEndpoint) : Element :=
  .branch "endpoint" [("name", endpoint.name)]
    (endpoint.tags.map fun tag => .leaf "tag" [("key", tag)] tag)

def IoSection.element (io : IoSection) : Element :=
  .branch "io" [("name", io.name)]
    ([plain "broker-endpoint" io.brokerEndpoint, plain "federate-name" io.federateName,
      plain "federate-log-level" io.federateLogLevel] ++
      io.topics.map Topic.element ++ io.endpoints.map MessageEndpoint.element)

-- A text stands for itself and null for no text; anything else is written as JSON.
def LogicVariable.rendered (entry : LogicVariable) : String :=
  match entry.value with
  | .text value => value
  | .null => ""
  | other => other.toJsonLine

def LogicVariable.element (name : String) (entry : LogicVariable) : Element :=
  .leaf name (entry.tag.toList.map fun tag => ("tag", tag)) entry.rendered

def LogicSection.element (logic : LogicSection) : Element :=
  .branch "logic" [("name", logic.name)]
    [plain "period" logic.period, flag "process-updates" logic.processUpdates,
     .verbatim "program" logic.program,
     .branch "variables" []
      (logic.symbols.entries.map fun (name, entry) => entry.element name)]

def Document.element (document : Document) : Element :=
  .branch "ot-sim" []
    ([document.messageBus.element,
      .branch "cpu" []
        (document.api.toList.map ApiSection.element ++
          document.logs.toList.map LogsSection.element ++
          document.modules.map ModuleKind.element)] ++
      document.groundTruth.toList.map GroundTruth.element ++
      document.sections.map Section.element ++
      document.io.toList.map IoSection.element ++
      document.logic.toList.map LogicSection.element)

end FieldConfig
