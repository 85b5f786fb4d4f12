import FieldConfig.Allocation.Counter
import FieldConfig.Section

set_option autoImplicit false

/-!
Indexes of DNP3 points: analog and binary points count from zero. A point that can be set has an
input and, a fixed distance above it, an output.
-/
namespace FieldConfig.Allocation

structure Dnp3Counters where
  analog : Nat
  binary : Nat
deriving DecidableEq, Repr

namespace Dnp3Counters

def start : Dnp3Counters := ⟨0, 0⟩

def get (counters : Dnp3Counters) : PointType → Nat
  | .analog => counters.analog
  | .binary => counters.binary

def set (counters : Dnp3Counters) (pointType : PointType) (value : Nat) : Dnp3Counters :=
  match pointType with
  | .analog => { counters with analog := value }
  | .binary => { counters with binary := value }

end Dnp3Counters

def outputOffset : Nat := 1000

def dnp3Point (register : Register) (direction : Direction) (address : Nat) : Dnp3Point :=
  { direction
    pointType := .ofPoint register.pointClass
    address
    tag := register.tag
    sgvar := register.dnp3.sgvar
    egvar := register.dnp3.egvar
    eventClass := register.dnp3.eventClass
    sbo :=
      match direction with
      | .input => none
      | .output => register.dnp3.sbo }

def dnp3Points (register : Register) (address : Nat) : List Dnp3Point :=
  dnp3Point register .input address ::
    if register.pointClass.isWritable then
      [dnp3Point register .output (address + outputOffset)]
    else []

def pointsPerRegister (pointClass : PointClass) : Nat := if pointClass.isWritable then 2 else 1

def dnp3Step (node : String) (overrides : OverrideTable) (counters : Dnp3Counters)
    (register : Register) : Dnp3Counters × Except CompileError (List Dnp3Point) :=
  let pointType := PointType.ofPoint register.pointClass
  let (counter, taken) :=
    advance (counters.get pointType) (overrides.lookup register register.kind)
  let address := taken.getD counterLimit
  (counters.set pointType counter,
    if address < outputOffset then .ok (dnp3Points register address)
    else .error (.exhausted node .dnp3 pointType.name address))

def dnp3Steps (node : String) (overrides : OverrideTable) :
    Dnp3Counters → List Register → List (Except CompileError (List Dnp3Point))
  | _, [] => []
  | counters, register :: rest =>
    let (counters, result) := dnp3Step node overrides counters register
    result :: dnp3Steps node overrides counters rest

def dnp3Entries (node : String) (overrides : OverrideTable) :
    Dnp3Counters → List Register → Except CompileError (List Dnp3Point)
  | _, [] => .ok []
  | counters, register :: rest =>
    match dnp3Step node overrides counters register with
    | (_, .error fault) => .error fault
    | (counters, .ok points) =>
      (dnp3Entries node overrides counters rest).map (points ++ ·)

end FieldConfig.Allocation
