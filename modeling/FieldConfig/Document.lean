import FieldConfig.IoSection
import FieldConfig.Section

set_option autoImplicit false

namespace FieldConfig

inductive ModuleKind where
  | backplane
  | groundTruth
  | dnp3
  | modbus
  | io
  | logic
deriving DecidableEq, Repr, Inhabited

namespace ModuleKind

def all : List ModuleKind := [.backplane, .groundTruth, .dnp3, .modbus, .io, .logic]

def name : ModuleKind → String
  | .backplane => "backplane"
  | .groundTruth => "ground-truth"
  | .dnp3 => "dnp3"
  | .modbus => "modbus"
  | .io => "i/o"
  | .logic => "logic"

def program : ModuleKind → String
  | .backplane => "ot-sim-message-bus"
  | .groundTruth => "ot-sim-ground-truth-module"
  | .dnp3 => "ot-sim-dnp3-module"
  | .modbus => "ot-sim-modbus-module"
  | .io => "ot-sim-io-module"
  | .logic => "ot-sim-logic-module"

def command (kind : ModuleKind) : String :=
  kind.program ++ " \x7b\x7bconfig_file\x7d\x7d"

def ofProtocol : Protocol → ModuleKind
  | .dnp3 => .dnp3
  | .modbus => .modbus

def initial : List ModuleKind := [.backplane]

def activate (kinds : List ModuleKind) (kind : ModuleKind) : List ModuleKind :=
  if kind ∈ kinds then kinds else kinds ++ [kind]

end ModuleKind

structure Document where
  hostname : String
  messageBus : MessageBus
  api : Option ApiSection := none
  logs : Option LogsSection := none
  modules : List ModuleKind := ModuleKind.initial
  groundTruth : Option GroundTruth := none
  sections : List Section := []
  io : Option IoSection := none
  logic : Option LogicSection := none
deriving DecidableEq, Repr, Inhabited

namespace Document

def start (document : Document) (kind : ModuleKind) : Document :=
  { document with modules := ModuleKind.activate document.modules kind }

def withLogs (document : Document) (logs : LogsSection) : Document :=
  { document with logs := some logs }

def withGroundTruth (document : Document) (groundTruth : GroundTruth) : Document :=
  { document.start .groundTruth with groundTruth := some groundTruth }

-- The module of a section is started by `startProtocols`.
def addSection (document : Document) (s : Section) : Document :=
  { document with sections := document.sections ++ [s] }

def addSections (document : Document) :
    List (Except CompileError Section) → Document × Except CompileError Unit
  | [] => (document, .ok ())
  | .error fault :: _ => (document, .error fault)
  | .ok s :: rest => addSections (document.addSection s) rest

def startProtocols (document : Document) (order : List Protocol) : Document :=
  (order.filter fun protocol => document.sections.any (·.protocol = protocol)).foldl
    (fun document protocol => document.start (.ofProtocol protocol)) document

def withIo (document : Document) (io : IoSection) : Document :=
  { document.start .io with io := some io }

def withLogic (document : Document) (logic : LogicSection) : Document :=
  { document.start .logic with logic := some logic }

def sectionsOf (document : Document) (mode : Mode) : List Section :=
  document.sections.filter (·.mode = mode)

end Document
end FieldConfig
