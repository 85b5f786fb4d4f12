import FieldConfig.Format
import FieldConfig.Proofs.Xml.Fields

set_option autoImplicit false

namespace FieldConfig

open Xml (Element Markup)

def MessageBus.ofMarkup? (markup : Markup) : Option MessageBus :=
  if markup.name = "message-bus" then do
    return ⟨← markup.text? "pull-endpoint", ← markup.text? "pub-endpoint"⟩
  else none

theorem MessageBus.read_element (bus : MessageBus) (depth : Nat) :
    ofMarkup? (bus.element.markup depth) = some bus := rfl

def ApiSection.ofMarkup? (markup : Markup) : Option ApiSection :=
  if markup.name = "api" then do
    return ⟨← markup.text? "endpoint", markup.text? "tls-key", markup.text? "tls-certificate",
      markup.text? "ca-certificate"⟩
  else none

theorem ApiSection.read_element (api : ApiSection) (depth : Nat) :
    ofMarkup? (api.element.markup depth) = some api := by
  obtain ⟨endpoint, key, certificate, authority⟩ := api
  cases key <;> cases certificate <;> cases authority <;> rfl

def ElasticLogs.ofMarkup? (markup : Markup) : Option ElasticLogs :=
  if markup.name = "elastic" then do
    return ⟨markup.text, ← markup.attribute? "index"⟩
  else none

def LogsSection.ofMarkup? (markup : Markup) : Option LogsSection :=
  if markup.name = "logs" then
    some ⟨markup.first? ElasticLogs.ofMarkup?, markup.text? "loki"⟩
  else none

theorem LogsSection.read_element (logs : LogsSection) (depth : Nat) :
    ofMarkup? (logs.element.markup depth) = some logs := by
  obtain ⟨elastic, loki⟩ := logs
  cases elastic <;> cases loki <;> rfl

def ModuleKind.ofMarkup? (markup : Markup) : Option ModuleKind :=
  if markup.name = "module" then
    all.find? fun kind => markup.attribute? "name" = some kind.name ∧ markup.text = kind.command
  else none

theorem ModuleKind.read_element (kind : ModuleKind) (depth : Nat) :
    ofMarkup? (kind.element.markup depth) = some kind := by
  cases kind <;> rfl

def GroundTruth.label? (markup : Markup) : Option (String × String) :=
  if markup.name = "label" then (markup.attribute? "name").map fun key => (key, markup.text)
  else none

def GroundTruth.ofElastic? (markup : Markup) : Option GroundTruth :=
  if markup.name = "elastic" then do
    return ⟨← markup.text? "endpoint", ← markup.text? "index-base-name", ⟨markup.each label?⟩⟩
  else none

def GroundTruth.ofMarkup? (markup : Markup) : Option GroundTruth :=
  if markup.name = "ground-truth" then markup.first? ofElastic? else none

theorem GroundTruth.read_element (groundTruth : GroundTruth) (depth : Nat) :
    ofMarkup? (groundTruth.element.markup depth) = some groundTruth := by
  obtain ⟨endpoint, indexBaseName, ⟨labels⟩⟩ := groundTruth
  have all := Xml.each_read label? (fun label => .leaf "label" [("name", label.1)] label.2)
    (depth + 2) (fun _ => rfl) labels
  exact congrArg (fun labels => some (⟨endpoint, indexBaseName, ⟨labels⟩⟩ : GroundTruth)) all

def ModbusTable.ofName? (name : String) : Option ModbusTable :=
  [coil, discrete, input, holding].find? (·.name == name)

def ModbusEntry.ofMarkup? (markup : Markup) : Option ModbusEntry :=
  if markup.name = "register" then do
    let table ← (markup.attribute? "type").bind ModbusTable.ofName?
    let address ← (markup.text? "address").bind Xml.natural?
    let tag ← markup.text? "tag"
    let scaling := (markup.text? "scaling").bind Xml.integer?
    return ⟨table, address, tag, scaling.bind ModbusHints.exponent?⟩
  else none

theorem ModbusEntry.read_element (entry : ModbusEntry) (depth : Nat) :
    ofMarkup? (entry.element.markup depth) = some entry := by
  obtain ⟨table, address, tag, scaling⟩ := entry
  have known : ModbusTable.ofName? table.name = some table := by cases table <;> rfl
  have scaled : ((scaling.map fun n => String.ofList (Tree.jsonInteger n.toInt)).bind
      Xml.integer?).bind ModbusHints.exponent? = scaling := by
    cases scaling <;> simp [Xml.integer_read, ModbusHints.exponent_some]
  have parts : ofMarkup? ((element ⟨table, address, tag, scaling⟩).markup depth) = (do
      let table ← ModbusTable.ofName? table.name
      let address ← Xml.natural? (String.ofList (Nat.toDigits 10 address))
      return ⟨table, address, tag,
        ((scaling.map fun n => String.ofList (Tree.jsonInteger n.toInt)).bind Xml.integer?).bind
          ModbusHints.exponent?⟩) := by
    cases scaling <;> rfl
  rw [parts, known, Xml.natural_read, scaled]
  rfl

def Direction.ofName? (name : String) : Option Direction := [input, output].find? (·.name == name)

def PointType.ofName? (name : String) : Option PointType := [analog, binary].find? (·.name == name)

def Dnp3Point.ofMarkup? (markup : Markup) : Option Dnp3Point := do
  let direction ← Direction.ofName? markup.name
  let pointType ← (markup.attribute? "type").bind PointType.ofName?
  let address ← (markup.text? "address").bind Xml.natural?
  let tag ← markup.text? "tag"
  return ⟨direction, pointType, address, tag, markup.text? "sgvar", markup.text? "egvar",
    markup.text? "class", (markup.text? "sbo").bind Xml.boolean?⟩

theorem Dnp3Point.read_element (point : Dnp3Point) (depth : Nat) :
    ofMarkup? (point.element.markup depth) = some point := by
  obtain ⟨direction, pointType, address, tag, sgvar, egvar, eventClass, sbo⟩ := point
  have known : Direction.ofName? direction.name = some direction ∧
      PointType.ofName? pointType.name = some pointType := by
    cases direction <;> cases pointType <;> exact ⟨rfl, rfl⟩
  have operated : (sbo.map fun value => if value then "true" else "false").bind Xml.boolean? =
      sbo := by
    cases sbo <;> simp [Xml.boolean_read]
  have parts : ofMarkup? ((element ⟨direction, pointType, address, tag, sgvar, egvar, eventClass,
      sbo⟩).markup depth) = (do
        let direction ← Direction.ofName? direction.name
        let pointType ← PointType.ofName? pointType.name
        let address ← Xml.natural? (String.ofList (Nat.toDigits 10 address))
        return ⟨direction, pointType, address, tag, sgvar, egvar, eventClass,
          (sbo.map fun value => if value then "true" else "false").bind Xml.boolean?⟩) := by
    cases sgvar <;> cases egvar <;> cases eventClass <;> cases sbo <;> rfl
  rw [parts, known.1, known.2, Xml.natural_read, operated]
  rfl

def Session.ofMarkup? (markup : Markup) : Option (Session × List Dnp3Point) :=
  if markup.name = "master" then do
    let name ← markup.attribute? "name"
    let localAddress ← (markup.text? "local-address").bind Xml.natural?
    let remoteAddress ← (markup.text? "remote-address").bind Xml.natural?
    let scanRate ← (markup.text? "scan-rate").bind Xml.natural?
    return (.master name localAddress remoteAddress scanRate, markup.each Dnp3Point.ofMarkup?)
  else if markup.name = "outstation" then do
    let name ← markup.attribute? "name"
    let localAddress ← (markup.text? "local-address").bind Xml.natural?
    let remoteAddress ← (markup.text? "remote-address").bind Xml.natural?
    return (.outstation name localAddress remoteAddress, markup.each Dnp3Point.ofMarkup?)
  else none

theorem Session.read_element (session : Session) (points : List Dnp3Point) (depth : Nat) :
    ofMarkup? ((session.element points).markup depth) = some (session, points) := by
  have all := Xml.each_read Dnp3Point.ofMarkup? Dnp3Point.element (depth + 1)
    (fun point => point.read_element (depth + 1)) points
  cases session with
  | master name localAddress remoteAddress scanRate =>
      have parts : ofMarkup? ((element points (.master name localAddress remoteAddress
          scanRate)).markup depth) = (do
            let localAddress ← Xml.natural? (String.ofList (Nat.toDigits 10 localAddress))
            let remoteAddress ← Xml.natural? (String.ofList (Nat.toDigits 10 remoteAddress))
            let scanRate ← Xml.natural? (String.ofList (Nat.toDigits 10 scanRate))
            return (.master name localAddress remoteAddress scanRate,
              (Element.markups (depth + 1) (points.map Dnp3Point.element)).filterMap
                Dnp3Point.ofMarkup?)) := rfl
      rw [parts, Xml.natural_read, Xml.natural_read, Xml.natural_read, all]
      rfl
  | outstation name localAddress remoteAddress =>
      have parts : ofMarkup? ((element points (.outstation name localAddress
          remoteAddress)).markup depth) = (do
            let localAddress ← Xml.natural? (String.ofList (Nat.toDigits 10 localAddress))
            let remoteAddress ← Xml.natural? (String.ofList (Nat.toDigits 10 remoteAddress))
            return (.outstation name localAddress remoteAddress,
              (Element.markups (depth + 1) (points.map Dnp3Point.element)).filterMap
                Dnp3Point.ofMarkup?)) := rfl
      rw [parts, Xml.natural_read, Xml.natural_read, all]
      rfl

def Mode.ofName? (name : String) : Option Mode := [server, client].find? (·.name == name)

theorem Mode.read_name (mode : Mode) : ofName? mode.name = some mode := by cases mode <;> rfl

def Section.body? (markup : Markup) : Protocol → Option Body
  | .modbus => some (.modbus (markup.each ModbusEntry.ofMarkup?))
  | .dnp3 => (markup.first? Session.ofMarkup?).map fun (session, points) => .dnp3 session points

def Section.ofMarkup? (markup : Markup) : Option Section := do
  let protocol ← Protocol.ofName? markup.name
  let name ← markup.attribute? "name"
  let mode ← (markup.attribute? "mode").bind Mode.ofName?
  let endpoint ← markup.text? "endpoint"
  let body ← body? markup protocol
  return ⟨name, mode, endpoint, body⟩

theorem Section.read_element (s : Section) (depth : Nat) :
    ofMarkup? (s.element.markup depth) = some s := by
  obtain ⟨name, mode, endpoint, body⟩ := s
  cases body with
  | modbus entries =>
      have all := Xml.each_read ModbusEntry.ofMarkup? ModbusEntry.element (depth + 1)
        (fun entry => entry.read_element (depth + 1)) entries
      have parts : ofMarkup? ((element ⟨name, mode, endpoint, .modbus entries⟩).markup depth) = (do
          let mode ← Mode.ofName? mode.name
          return ⟨name, mode, endpoint, .modbus ((Element.markups (depth + 1)
            (entries.map ModbusEntry.element)).filterMap ModbusEntry.ofMarkup?)⟩) := rfl
      rw [parts, mode.read_name, all]
      rfl
  | dnp3 session points =>
      have all := session.read_element points (depth + 1)
      have parts : ofMarkup? ((element ⟨name, mode, endpoint, .dnp3 session points⟩).markup depth) =
          (do
            let mode ← Mode.ofName? mode.name
            let body ← ([(session.element points).markup (depth + 1)].filterMap
              Session.ofMarkup?).head?.map fun (session, points) => Body.dnp3 session points
            return ⟨name, mode, endpoint, body⟩) := rfl
      rw [parts, mode.read_name, List.filterMap_cons_some all]
      rfl

def TopicKind.ofName? (name : String) : Option TopicKind :=
  [subscription, publication].find? (·.name == name)

def ValueType.ofName? (name : String) : Option ValueType := [double, boolean].find? (·.name == name)

def Topic.ofMarkup? (markup : Markup) : Option Topic := do
  let kind ← TopicKind.ofName? markup.name
  let key ← markup.text? "key"
  let tag ← markup.text? "tag"
  let valueType ← (markup.text? "type").bind ValueType.ofName?
  return ⟨kind, key, tag, valueType⟩

theorem Topic.read_element (topic : Topic) (depth : Nat) :
    ofMarkup? (topic.element.markup depth) = some topic := by
  obtain ⟨kind, key, tag, valueType⟩ := topic
  cases kind <;> cases valueType <;> rfl

def MessageEndpoint.ofMarkup? (markup : Markup) : Option MessageEndpoint :=
  if markup.name = "endpoint" then do
    return ⟨← markup.attribute? "name", markup.texts "tag"⟩
  else none

theorem MessageEndpoint.read_element (endpoint : MessageEndpoint) (depth : Nat) :
    ofMarkup? (endpoint.element.markup depth) = some endpoint := by
  obtain ⟨name, tags⟩ := endpoint
  have all := Xml.each_read (fun child => if child.name = "tag" then some child.text else none)
    (fun tag => .leaf "tag" [("key", tag)] tag) (depth + 1) (fun _ => rfl) tags
  exact congrArg (fun tags => some (⟨name, tags⟩ : MessageEndpoint)) all

def IoSection.ofMarkup? (markup : Markup) : Option IoSection :=
  if markup.name = "io" then do
    let name ← markup.attribute? "name"
    let brokerEndpoint ← markup.text? "broker-endpoint"
    let federateName ← markup.text? "federate-name"
    let federateLogLevel ← markup.text? "federate-log-level"
    return ⟨name, brokerEndpoint, federateName, federateLogLevel, markup.each Topic.ofMarkup?,
      markup.each MessageEndpoint.ofMarkup?⟩
  else none

theorem IoSection.read_element (io : IoSection) (depth : Nat) :
    ofMarkup? (io.element.markup depth) = some io := by
  obtain ⟨name, brokerEndpoint, federateName, federateLogLevel, topics, endpoints⟩ := io
  have foreignTopic (topic : Topic) :
      MessageEndpoint.ofMarkup? (topic.element.markup (depth + 1)) = none := by
    obtain ⟨kind, key, tag, valueType⟩ := topic
    cases kind <;> rfl
  have allTopics : (Element.markups (depth + 1) (topics.map Topic.element ++
      endpoints.map MessageEndpoint.element)).filterMap Topic.ofMarkup? = topics := by
    rw [Xml.each_append, Xml.each_read Topic.ofMarkup? Topic.element (depth + 1)
      (fun topic => topic.read_element (depth + 1)),
      Xml.each_foreign Topic.ofMarkup? _ _ fun _ => rfl, List.append_nil]
  have allEndpoints : (Element.markups (depth + 1) (topics.map Topic.element ++
      endpoints.map MessageEndpoint.element)).filterMap MessageEndpoint.ofMarkup? = endpoints := by
    rw [Xml.each_append, Xml.each_foreign MessageEndpoint.ofMarkup? _ _ foreignTopic,
      Xml.each_read MessageEndpoint.ofMarkup? MessageEndpoint.element (depth + 1)
        (fun endpoint => endpoint.read_element (depth + 1)), List.nil_append]
  have parts : ofMarkup? ((element ⟨name, brokerEndpoint, federateName, federateLogLevel, topics,
      endpoints⟩).markup depth) = some ⟨name, brokerEndpoint, federateName, federateLogLevel,
        (Element.markups (depth + 1) (topics.map Topic.element ++
          endpoints.map MessageEndpoint.element)).filterMap Topic.ofMarkup?,
        (Element.markups (depth + 1) (topics.map Topic.element ++
          endpoints.map MessageEndpoint.element)).filterMap MessageEndpoint.ofMarkup?⟩ := rfl
  rw [parts, allTopics, allEndpoints]

end FieldConfig
