import FieldConfig.Catalog.Power
import FieldConfig.Helics
import FieldConfig.Services

set_option autoImplicit false

/-!
The settings of an experiment and how those of a node go before them. `Settings.check` refuses
settings that are there but empty.
-/
namespace FieldConfig

-- A setting that may be left out, or switched off by giving null.
inductive Switch (α : Type) where
  | unset
  | off
  | on (value : α)
deriving DecidableEq, Repr

structure BusSettings where
  pullEndpoint : Option String := none
  pubEndpoint : Option String := none
deriving DecidableEq, Repr

structure ApiSettings where
  endpoint : Option String := none
  tlsKey : Option String := none
  tlsCertificate : Option String := none
  caCertificate : Option String := none
deriving DecidableEq, Repr

-- An `api` goes before a bare endpoint.
structure CpuSettings where
  api : Option ApiSettings := none
  apiEndpoint : Switch String := .unset
deriving DecidableEq, Repr

structure ElasticLogSettings where
  endpoint : Option String := none
  index : Option String := none
deriving DecidableEq, Repr

structure LogsSettings where
  elastic : Option ElasticLogSettings := none
  loki : Option String := none
deriving DecidableEq, Repr

structure ElasticTruthSettings where
  endpoint : Option String := none
  indexBaseName : Option String := none
  labels : Table String := ∅
deriving DecidableEq, Repr

structure GroundTruthSettings where
  elastic : Option ElasticTruthSettings := none
deriving DecidableEq, Repr

inductive LogFormat where
  | text
  | json
deriving DecidableEq, Repr

def LogFormat.name : LogFormat → String
  | .text => "text"
  | .json => "json"

structure LoggingSettings where
  level : String := "info"
  format : LogFormat := .text
deriving DecidableEq, Repr

structure Settings where
  infrastructure : String := Catalog.defaultInfrastructure
  infrastructures : Table (Table FieldTable) := ∅
  messageBus : BusSettings := {}
  cpu : CpuSettings := {}
  logs : Option LogsSettings := none
  groundTruth : Option GroundTruthSettings := none
  helics : HelicsSettings := {}
  logging : LoggingSettings := {}
deriving DecidableEq, Repr

namespace Settings

def defaultApiEndpoint : String := "0.0.0.0:9101"

def apiKeyPath : String := "/etc/ot-sim/certs/api.key"
def apiCertificatePath : String := "/etc/ot-sim/certs/api.crt"
def apiAuthorityPath : String := "/etc/ot-sim/certs/api.ca.crt"

def catalog (settings : Settings) : Catalog := Catalog.builtin.merge settings.infrastructures

def defaultFederate (settings : Settings) : String :=
  (settings.helics.federate.bind FederateSetting.name).getD "OpenDSS"

def qualify (federate name : String) : String :=
  if name.toList.contains '/' then name else federate ++ "/" ++ name

def defaultEndpoint (settings : Settings) : Option String :=
  match settings.helics.endpoint with
  | some (.enabled false) => none
  | some (.named name) => some (qualify settings.defaultFederate name)
  | some (.enabled true) | none => some (settings.defaultFederate ++ "/updates")

def busFor (settings : Settings) (node : Option BusSettings) : MessageBus :=
  ⟨((node.bind (·.pullEndpoint)).or settings.messageBus.pullEndpoint).getD
      "tcp://127.0.0.1:1234",
   ((node.bind (·.pubEndpoint)).or settings.messageBus.pubEndpoint).getD
      "tcp://127.0.0.1:5678"⟩

-- Key and certificate are used only together.
def resolveApi (api : ApiSettings) (endpoint : String) : Api :=
  let (key, certificate, pair) :=
    match api.tlsKey, api.tlsCertificate with
    | some key, some certificate =>
      (some apiKeyPath, some apiCertificatePath,
        [Certificate.mk key apiKeyPath, Certificate.mk certificate apiCertificatePath])
    | _, _ => (none, none, [])
  let authority := api.caCertificate.map fun path => Certificate.mk path apiAuthorityPath
  ⟨⟨api.endpoint.getD endpoint, key, certificate, authority.map Certificate.destination⟩,
    pair ++ authority.toList⟩

def flatApi (endpoint : String) : Api := ⟨⟨endpoint, none, none, none⟩, []⟩

def ownApi (settings : Settings) : Option Api :=
  match settings.cpu.api, settings.cpu.apiEndpoint with
  | some api, _ => some (resolveApi api defaultApiEndpoint)
  | none, .on endpoint => some (flatApi endpoint)
  | none, .off => none
  | none, .unset => some (flatApi defaultApiEndpoint)

def apiFor (settings : Settings) (node : Option CpuSettings) : Option Api :=
  match node with
  | none => settings.ownApi
  | some cpu =>
    match cpu.api, cpu.apiEndpoint with
    | some api, _ =>
      some (resolveApi api
        ((settings.ownApi.map fun own => own.listener.endpoint).getD defaultApiEndpoint))
    | none, .on endpoint => some (flatApi endpoint)
    | none, .off => none
    | none, .unset => settings.ownApi

-- A target of the node replaces the one of the experiment; a target without an endpoint is
-- ignored, one without an index takes that of the experiment.
def logsFor (settings : Settings) (node : Option LogsSettings) : Option LogsSection :=
  let ownIndex := (settings.logs.bind (·.elastic)).bind (·.index)
  let elastic := ((node.bind (·.elastic)).or (settings.logs.bind (·.elastic))).bind fun target =>
    target.endpoint.map fun endpoint =>
      ElasticLogs.mk endpoint ((target.index.or ownIndex).getD "ot-sim-logs")
  let loki := (node.bind (·.loki)).or (settings.logs.bind (·.loki))
  if elastic.isNone && loki.isNone then none else some ⟨elastic, loki⟩

def groundTruthFor (settings : Settings) (node : Switch GroundTruthSettings) :
    Option GroundTruth :=
  let own := settings.groundTruth.bind (·.elastic)
  let chosen :=
    match node with
    | .off => none
    | .on settings => settings.elastic.or own
    | .unset => own
  chosen.map fun elastic =>
    ⟨(elastic.endpoint.or (own.bind (·.endpoint))).getD "http://localhost:9200",
     (elastic.indexBaseName.or (own.bind (·.indexBaseName))).getD "ot-sim",
     if elastic.labels.isEmpty then (own.map (·.labels)).getD ∅ else elastic.labels⟩

def emptiness (settings : Settings) : List (Bool × NonEmpty) :=
  let api := settings.cpu.api.getD {}
  let elastic := (settings.logs.bind (·.elastic)).bind (·.endpoint)
  let loki := settings.logs.bind (·.loki)
  [(settings.infrastructure = "", .infrastructure),
   ("" ∈ settings.infrastructures.keys, .infrastructureName),
   (settings.messageBus.pullEndpoint = some "", .busEndpoint "pull-endpoint"),
   (settings.messageBus.pubEndpoint = some "", .busEndpoint "pub-endpoint"),
   (settings.cpu.apiEndpoint = .on "", .flatApiEndpoint),
   (api.endpoint = some "", .api "endpoint"),
   (api.tlsKey = some "", .api "tls-key"),
   (api.tlsCertificate = some "", .api "tls-certificate"),
   (api.caCertificate = some "", .api "ca-certificate"),
   (elastic = some "" ∨ loki = some "", .logEndpoints),
   (settings.defaultFederate = "", .federate)]

def check (settings : Settings) : Except CompileError Settings :=
  match settings.emptiness.find? (·.1) with
  | some (_, setting) => .error (.empty setting)
  | none => .ok settings

end Settings
end FieldConfig
