import FieldConfig.Document
import FieldConfig.Network.Resolution

set_option autoImplicit false

/-!
The protocol sections of a device: one that polls for every group of registers that a polled device
exposes, and one that serves for every group of its own.
-/
namespace FieldConfig.Network

def servingSection (station : Station) (group : Protocol × List Register) :
    Except CompileError Section := do
  let endpoint ← Endpoint.ofNode station.node group.1
  Encoding.encode ⟨station.hostname, .serving, endpoint, station.overrides⟩ group.1 group.2

def pollingSection (station target : Station) (name : String)
    (group : Protocol × List Register) : Except CompileError Section := do
  let endpoint ← Endpoint.ofNode target.node group.1
  Encoding.encode ⟨station.hostname, .polling name, endpoint, target.overrides⟩ group.1 group.2

def sectionsFor (network : Network) (resolution : Resolution) (station : Station)
    (name : String) : List (Except CompileError Section) :=
  match network.station? name with
  | none => [.error (.unresolvedReference station.hostname name)]
  | some target => (resolution.exposed target).groups.map (pollingSection station target name)

def pollingSections (network : Network) (resolution : Resolution) (station : Station) :
    List (Except CompileError Section) :=
  station.device.polled.flatMap (network.sectionsFor resolution station)

def servingSections (resolution : Resolution) (station : Station) :
    List (Except CompileError Section) :=
  let registers := resolution.registers station.hostname
  match station.device with
  | .server _ => registers.groups.map (servingSection station)
  | .gateway _ (.serving protocol) => [servingSection station (protocol, registers.flatten)]
  | .gateway _ (.unsupported _) | .client _ => []

def sections (network : Network) (resolution : Resolution) (station : Station) :
    List (Except CompileError Section) :=
  network.pollingSections resolution station ++ servingSections resolution station

def configure (network : Network) (resolution : Resolution) (station : Station)
    (document : Document) : Document × Except CompileError Unit :=
  match document.addSections (network.sections resolution station) with
  | (document, .error fault) => (document, .error fault)
  | (document, .ok ()) => (document.startProtocols station.device.moduleOrder, .ok ())

def configureDevice (network : Network) (resolution : Resolution) (hostname : String)
    (document : Document) : Document × Except CompileError Unit :=
  match network.station? hostname with
  | none => (document, .error (.unknownDevice hostname))
  | some station => network.configure resolution station document

end FieldConfig.Network
