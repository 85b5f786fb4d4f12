import FieldConfig.Catalog.Reader
import FieldConfig.Decode
import FieldConfig.Settings

set_option autoImplicit false

namespace FieldConfig

open Decode

def Switch.read {α : Type} (read : Reader α) : Reader (Switch α) := fun source => do
  match ← Reader.optional read source with
  | some value => return .on value
  | none => return .off

def EndpointSetting.fits : Matcher EndpointSetting
  | .text name => some (.named name)
  | .boolean on => some (.enabled on)
  | _ => none

def EndpointSetting.read : Reader EndpointSetting := Matcher.read "EndpointSetting" fits

def FederateSetting.form : Form FederateSetting :=
  ⟨{}, [
    .optional ["name"] (.optional Matcher.text) ({ · with name := · }),
    .optional ["log-level"] (.optional Matcher.text) ({ · with logLevel := · })]⟩

def FederateSetting.fits : Matcher FederateSetting
  | .text name => some ⟨some name, none⟩
  | tree => form.ofObject tree

def FederateSetting.read : Reader FederateSetting := Matcher.read "FederateSetting" fits

def BrokerSettings.record : Record BrokerSettings :=
  ⟨"BrokerMetadata", {}, [
    .optional "hostname" (.optional Reader.text) ({ · with hostname := · }),
    .optional "address" (.optional Reader.text) ({ · with address := · }),
    .optional "base-fed-count" (.optional Reader.word) ({ · with baseFederates := · }),
    .optional "dynamic" (.optional Reader.flag) ({ · with dynamic := · }),
    .optional "log-level" (.optional Reader.text) ({ · with logLevel := · }),
    .optional "log-file" (.optional Reader.text) ({ · with logFile := · })]⟩

def HelicsSettings.record : Record HelicsSettings :=
  ⟨"HelicsMetadata", {}, [
    .optional "broker" (.optional BrokerSettings.record.read) ({ · with broker := · }),
    .optional "federate" (.optional FederateSetting.read) ({ · with federate := · }),
    .optional "endpoint" (.optional EndpointSetting.read) ({ · with endpoint := · })]⟩

def BusSettings.record : Record BusSettings :=
  ⟨"MessageBusSettings", {}, [
    .optional "pull-endpoint" (.optional Reader.text) ({ · with pullEndpoint := · }),
    .optional "pub-endpoint" (.optional Reader.text) ({ · with pubEndpoint := · })]⟩

def ApiSettings.record : Record ApiSettings :=
  ⟨"ApiSettings", {}, [
    .optional "endpoint" (.optional Reader.text) ({ · with endpoint := · }),
    .optional "tls-key" (.optional Reader.text) ({ · with tlsKey := · }),
    .optional "tls-certificate" (.optional Reader.text) ({ · with tlsCertificate := · }),
    .optional "ca-certificate" (.optional Reader.text) ({ · with caCertificate := · })]⟩

def CpuSettings.record : Record CpuSettings :=
  ⟨"CpuModuleSettings", {}, [
    .optional "api" (.optional ApiSettings.record.read) ({ · with api := · }),
    .optional "api-endpoint" (Switch.read Reader.text) ({ · with apiEndpoint := · })]⟩

def ElasticLogSettings.record : Record ElasticLogSettings :=
  ⟨"ElasticLogSettings", {}, [
    .optional "endpoint" (.optional Reader.text) ({ · with endpoint := · }),
    .optional "index" (.optional Reader.text) ({ · with index := · })]⟩

def LogsSettings.record : Record LogsSettings :=
  ⟨"LogsSettings", {}, [
    .optional "elastic" (.optional ElasticLogSettings.record.read) ({ · with elastic := · }),
    .optional "loki" (.optional Reader.text) ({ · with loki := · })]⟩

def ElasticTruthSettings.record : Record ElasticTruthSettings :=
  ⟨"GroundTruthElastic", {}, [
    .optional "endpoint" (.optional Reader.text) ({ · with endpoint := · }),
    .optional "index-base-name" (.optional Reader.text) ({ · with indexBaseName := · }),
    .optional "labels" (.table "a map with string keys" Reader.text) ({ · with labels := · })]⟩

def GroundTruthSettings.record : Record GroundTruthSettings :=
  ⟨"GroundTruthSettings", {}, [
    .optional "elastic" (.optional ElasticTruthSettings.record.read) ({ · with elastic := · })]⟩

def LoggingSettings.record : Record LoggingSettings :=
  ⟨"LoggingConfig", {}, [
    .optional "level" Reader.text ({ · with level := · }),
    .optional "format" (.variant [("text", .text), ("json", .json)]) ({ · with format := · })]⟩

namespace Settings

def record : Record Settings :=
  ⟨"CompilerConfig", {}, [
    .optional "infrastructure" Reader.text ({ · with infrastructure := · }),
    .optional "infrastructures" Catalog.readAdditions ({ · with infrastructures := · }),
    .optional "message-bus" BusSettings.record.read ({ · with messageBus := · }),
    .optional "cpu-module" CpuSettings.record.read ({ · with cpu := · }),
    .optional "logs" (.optional LogsSettings.record.read) ({ · with logs := · }),
    .optional "ground-truth-module" (.optional GroundTruthSettings.record.read)
      ({ · with groundTruth := · }),
    .optional "helics" HelicsSettings.record.read ({ · with helics := · }),
    .optional "logging" LoggingSettings.record.read ({ · with logging := · })]⟩

def ofText (file : Option String) (text : String) : Except CompileError Settings := do
  (← parse record.read file text).check

end Settings
end FieldConfig
