import FieldConfig.Catalog

set_option autoImplicit false

namespace FieldConfig.Catalog

def defaultInfrastructure : String := "power-distribution"

def measured (name : String) : String × FieldSpec := (name, ⟨.analogRead, ⟨some 2⟩, {}, none⟩)

def setpoint (name : String) : String × FieldSpec :=
  (name, ⟨.analogReadWrite, ⟨some 2⟩, {}, none⟩)

def supply : List (String × FieldSpec) :=
  [measured "voltage", measured "current", measured "freq", measured "power"]

def branch : List (String × FieldSpec) :=
  [measured "from_voltage", measured "from_current", measured "from_active_power",
   measured "from_reactive_power", measured "to_voltage", measured "to_current",
   measured "to_active_power", measured "to_reactive_power"]

def powerDistribution : Table FieldTable :=
  ⟨[("node", ⟨[measured "voltage"]⟩),
    ("bus", ⟨[measured "voltage"]⟩),
    ("breaker", ⟨supply ++
      [("status", ⟨.binaryRead, {}, {}, none⟩), ("controls", ⟨.binaryReadWrite, {}, {}, none⟩)]⟩),
    ("capacitor", ⟨supply ++ [setpoint "setpt"]⟩),
    ("regulator", ⟨supply ++ [setpoint "setpt"]⟩),
    ("load", ⟨[measured "voltage", measured "current", measured "active_power",
      measured "reactive_power"]⟩),
    ("line", ⟨branch⟩),
    ("transformer", ⟨branch⟩)]⟩

def builtin : Catalog := ⟨⟨[(defaultInfrastructure, powerDistribution)]⟩⟩

end FieldConfig.Catalog
