import FieldConfig.Settings.Reader
import FieldConfig.Topology
import FieldConfig.Tree.Sorted

set_option autoImplicit false

namespace FieldConfig

open Decode

def LogicVariable.record : Record LogicVariable :=
  ⟨"LogicVariable", ⟨.null, none⟩, [
    .needed "value" (fun source => return (← source.evaluate).sorted) ({ · with value := · }),
    .optional "tag" (.optional Reader.text) ({ · with tag := · })]⟩

def LogicSettings.record : Record LogicSettings :=
  ⟨"LogicMetadata", {}, [
    .optional "program" (.optional Reader.text) ({ · with program := · }),
    .optional "variables" (.table "a map with string keys" LogicVariable.record.read)
      ({ · with symbols := · }),
    .optional "period" (.optional Reader.text) ({ · with period := · }),
    .optional "processUpdates" (.optional Reader.flag) ({ · with processUpdates := · })]⟩

def Interface.record : Record Interface :=
  ⟨"Interface", ⟨"", none, none, none⟩, [
    .needed "name" Reader.text ({ · with name := · }),
    .optional "address" (.optional Reader.text) ({ · with address := · }),
    .optional "vlan" (.optional Reader.text) ({ · with vlan := · }),
    .optional "type" (.optional Reader.text) ({ · with kind := · })]⟩

def ManualNumber.form : Form ManualNumber :=
  ⟨⟨"", 0, .coil⟩, [
    .needed ["field"] Matcher.text ({ · with field := · }),
    .needed ["register_number"] Matcher.word ({ · with number := · }),
    .needed ["register_type"] (Matcher.variant RegisterKind.names) ({ · with kind := · })]⟩

def DeviceEntry.form : Form DeviceEntry :=
  ⟨{}, [
    .optional ["name"] (.optional Matcher.text) ({ · with name := · }),
    .optional ["type"] (.optional Matcher.text) ({ · with deviceType := · }),
    .optional ["endpoint"] (.optional EndpointSetting.fits) ({ · with endpoint := · }),
    .optional ["analog-read"] (.list ManualNumber.form.fits) ({ · with analogRead := · }),
    .optional ["analog-read-write"] (.list ManualNumber.form.fits)
      ({ · with analogReadWrite := · }),
    .optional ["binary-read"] (.list ManualNumber.form.fits) ({ · with binaryRead := · }),
    .optional ["binary-read-write"] (.list ManualNumber.form.fits)
      ({ · with binaryReadWrite := · })]⟩

def ProtocolSettings.form : Form ProtocolSettings :=
  ⟨{}, [
    .optional ["devices"] (.list DeviceEntry.form.fits) ({ · with devices := · }),
    .optional ["interface"] (.optional Matcher.text) ({ · with interface := · })]⟩

def ProtocolSettings.fits : Matcher ProtocolSettings := fun tree =>
  match Matcher.list DeviceEntry.form.fits tree with
  | some devices => some ⟨devices, none⟩
  | none => form.ofObject tree

def ProtocolSettings.read : Reader ProtocolSettings := Matcher.read "ProtocolMetadata" fits

def Metadata.record : Record Metadata :=
  ⟨"NodeMetadata", {}, [
    .optional "infrastructure" (.optional Reader.text) ({ · with infrastructure := · }),
    .optional "dnp3" (.optional ProtocolSettings.read) ({ · with dnp3 := · }),
    .optional "modbus" (.optional ProtocolSettings.read) ({ · with modbus := · }),
    .optional "upstream" (.optional (.list Reader.text)) ({ · with polled := · }),
    .optional "connected_rtus" (.optional (.list Reader.text)) ({ · with connectedRtus := · }),
    .optional "downstream" (.optional Reader.text) ({ · with downstream := · }),
    .optional "logic" (.optional LogicSettings.record.read) ({ · with logic := · }),
    .optional "helics" (.optional HelicsSettings.record.read) ({ · with helics := · }),
    .optional "message-bus" (.optional BusSettings.record.read) ({ · with messageBus := · }),
    .optional "cpu-module" (.optional CpuSettings.record.read) ({ · with cpu := · }),
    .optional "logs" (.optional LogsSettings.record.read) ({ · with logs := · }),
    .optional "ground-truth-module" (Switch.read GroundTruthSettings.record.read)
      ({ · with groundTruth := · })]⟩

def Node.record : Record Node :=
  ⟨"Node", ⟨"", "", {}, []⟩, [
    .needed "hostname" Reader.text ({ · with hostname := · }),
    .needed "type" Reader.text ({ · with nodeType := · }),
    .optional "metadata" Metadata.record.read ({ · with metadata := · }),
    .optional "interfaces" (.list Interface.record.read) ({ · with interfaces := · })]⟩

def Topology.record : Record Topology :=
  ⟨"Topology", {}, [.optional "nodes" (.list Node.record.read) ({ · with nodes := · })]⟩

def Topology.ofText (text : String) : Except CompileError Topology :=
  parse record.read none text

end FieldConfig
