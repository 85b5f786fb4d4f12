import FieldConfig.Network

set_option autoImplicit false

/-!
Resolution: the registers of a device are known once those of all devices that it polls are. The
search goes depth first and resolves a device at most once; meeting a device that is still in
progress is a cycle. What a failed search has done stays done.
-/
namespace FieldConfig

inductive Progress where
  | pending
  | inProgress
  | resolved
deriving DecidableEq, Repr, Inhabited

def Progress.name : Progress → String
  | .pending => "pending"
  | .inProgress => "in-progress"
  | .resolved => "resolved"

structure DeviceState where
  progress : Progress := .pending
  registers : RegisterSet := {}
deriving DecidableEq, Repr, Inhabited

structure Resolution where
  states : Table DeviceState := ∅
  order : List String := []
deriving DecidableEq, Repr, Inhabited

namespace Resolution

def state (resolution : Resolution) (hostname : String) : DeviceState :=
  (resolution.states.get? hostname).getD {}

def progress (resolution : Resolution) (hostname : String) : Progress :=
  (resolution.state hostname).progress

def registers (resolution : Resolution) (hostname : String) : RegisterSet :=
  (resolution.state hostname).registers

def exposed (resolution : Resolution) (station : Station) : RegisterSet :=
  station.device.exposed (resolution.registers station.hostname)

def enter (resolution : Resolution) (hostname : String) : Resolution :=
  { resolution with
    states := resolution.states.insert hostname
      { resolution.state hostname with progress := .inProgress } }

def complete (resolution : Resolution) (hostname : String) (registers : RegisterSet) :
    Resolution where
  states := resolution.states.insert hostname { progress := .resolved, registers }
  order := resolution.order ++ [hostname]

variable (resolution : Resolution) (hostname name : String) (found : RegisterSet)

@[simp] theorem progress_start : ({} : Resolution).progress name = .pending := rfl

@[simp] theorem registers_start : ({} : Resolution).registers name = {} := rfl

@[simp] theorem progress_enter :
    (resolution.enter hostname).progress name =
      if name = hostname then .inProgress else resolution.progress name := by
  by_cases same : name = hostname <;> simp [progress, state, enter, same]

@[simp] theorem registers_enter :
    (resolution.enter hostname).registers name = resolution.registers name := by
  by_cases same : name = hostname <;> simp [registers, state, enter, same]

@[simp] theorem order_enter : (resolution.enter hostname).order = resolution.order := rfl

@[simp] theorem progress_complete :
    (resolution.complete hostname found).progress name =
      if name = hostname then .resolved else resolution.progress name := by
  by_cases same : name = hostname <;> simp [progress, state, complete, same]

@[simp] theorem registers_complete :
    (resolution.complete hostname found).registers name =
      if name = hostname then found else resolution.registers name := by
  by_cases same : name = hostname <;> simp [registers, state, complete, same]

@[simp] theorem order_complete :
    (resolution.complete hostname found).order = resolution.order ++ [hostname] := rfl

end Resolution

namespace Network

def closeWalk (path : List String) (hostname : String) : List String :=
  (if hostname ∈ path then path.dropWhile (· ≠ hostname) else path) ++ [hostname]

def gather (network : Network) (asker : String)
    (visit : Station → Resolution → Resolution × Except CompileError Unit) :
    List String → Resolution → Resolution × Except CompileError (List RegisterSet)
  | [], resolution => (resolution, .ok [])
  | name :: rest, resolution =>
    match network.station? name with
    | none => (resolution, .error (.unresolvedReference asker name))
    | some target =>
      match visit target resolution with
      | (resolution, .error fault) => (resolution, .error fault)
      | (resolution, .ok ()) =>
        let exposed := resolution.exposed target
        match gather network asker visit rest resolution with
        | (resolution, .error fault) => (resolution, .error fault)
        | (resolution, .ok others) => (resolution, .ok (exposed :: others))

def conclude (catalog : Catalog) (station : Station) :
    Resolution × Except CompileError (List RegisterSet) → Resolution × Except CompileError Unit
  | (resolution, .error fault) => (resolution, .error fault)
  | (resolution, .ok exposed) =>
    match station.device.collect catalog exposed with
    | .error fault => (resolution, .error fault)
    | .ok registers => (resolution.complete station.hostname registers, .ok ())

-- Resolves a device after those that it polls. `path` names the devices on the way here, and
-- `depth` bounds how many more there can be.
def visit (network : Network) (catalog : Catalog) (depth : Nat) (path : List String)
    (station : Station) (resolution : Resolution) : Resolution × Except CompileError Unit :=
  match resolution.progress station.hostname with
  | .resolved => (resolution, .ok ())
  | .inProgress => (resolution, .error (.cycle (closeWalk path station.hostname)))
  | .pending =>
    match depth with
    | 0 => (resolution, .error (.cycle (closeWalk path station.hostname)))
    | depth + 1 =>
      conclude catalog station (network.gather station.hostname
        (network.visit catalog depth (path ++ [station.hostname])) station.device.polled
        (resolution.enter station.hostname))

def resolveStation (network : Network) (catalog : Catalog) (station : Station)
    (resolution : Resolution) : Resolution × Except CompileError Unit :=
  network.visit catalog network.stations.length [] station resolution

def resolve (network : Network) (catalog : Catalog) (hostname : String)
    (resolution : Resolution) : Resolution × Except CompileError Unit :=
  match network.station? hostname with
  | none => (resolution, .error (.unknownDevice hostname))
  | some station => network.resolveStation catalog station resolution

def resolveEach (network : Network) (catalog : Catalog) :
    List Station → Resolution → Resolution × Except CompileError Unit
  | [], resolution => (resolution, .ok ())
  | station :: rest, resolution =>
    match network.resolveStation catalog station resolution with
    | (resolution, .error fault) => (resolution, .error fault)
    | (resolution, .ok ()) => resolveEach network catalog rest resolution

def resolveAll (network : Network) (catalog : Catalog) (resolution : Resolution) :
    Resolution × Except CompileError Unit :=
  network.resolveEach catalog network.byRole resolution

end Network
end FieldConfig
