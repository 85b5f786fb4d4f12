import FieldConfig.Error
import FieldConfig.Table

set_option autoImplicit false

namespace FieldConfig

structure ModbusHints where
  scaling : Option Int64 := none
deriving DecidableEq, Repr, Inhabited

def ModbusHints.exponent? (value : Int) : Option Int64 :=
  if (Int64.ofInt value).toInt = value then some (.ofInt value) else none

theorem ModbusHints.exponent_some (value : Int) (n : Int64) :
    exponent? value = some n ↔ n.toInt = value := by
  rw [exponent?, Option.ite_none_right_eq_some, Option.some.injEq]
  constructor
  · rintro ⟨fits, rfl⟩
    exact fits
  · rintro rfl
    simp

structure Dnp3Hints where
  sgvar : Option String := none
  egvar : Option String := none
  eventClass : Option String := none
  sbo : Option Bool := none
deriving DecidableEq, Repr, Inhabited

structure ValueRange where
  low : Double
  high : Double
deriving DecidableEq, Repr

structure FieldSpec where
  pointClass : PointClass
  modbus : ModbusHints := {}
  dnp3 : Dnp3Hints := {}
  range : Option ValueRange := none
deriving DecidableEq, Repr, Inhabited

abbrev FieldTable := Table FieldSpec

structure Catalog where
  infrastructures : Table (Table FieldTable) := ∅
deriving DecidableEq, Repr, Inhabited

namespace Catalog

def mergeTypes (known types : Table FieldTable) : Table FieldTable :=
  types.entries.foldl
    (fun known (name, fields) =>
      known.insert name
        (match known.get? name with
         | some old => old.merge fields
         | none => fields))
    known

def merge (catalog : Catalog) (additions : Table (Table FieldTable)) : Catalog :=
  additions.entries.foldl
    (fun (catalog : Catalog) (infrastructure, types) =>
      ⟨catalog.infrastructures.insert infrastructure
        (mergeTypes ((catalog.infrastructures.get? infrastructure).getD ∅) types)⟩)
    catalog

def fields? (catalog : Catalog) (infrastructure deviceType : String) : Option FieldTable :=
  (catalog.infrastructures.get? infrastructure).bind (·.get? deviceType)

def deviceTypes (catalog : Catalog) (infrastructure : String) : List String :=
  ((catalog.infrastructures.get? infrastructure).map Table.keys).getD []

def require (catalog : Catalog) (node infrastructure deviceType : String) :
    Except CompileError FieldTable :=
  match catalog.fields? infrastructure deviceType with
  | some fields => .ok fields
  | none => .error (.unknownDeviceType node infrastructure deviceType)

end Catalog
end FieldConfig
