import FieldConfig.Table
import FieldConfig.Tree

set_option autoImplicit false

namespace FieldConfig

structure LogicVariable where
  value : Tree
  tag : Option String := none
deriving DecidableEq, Repr, Inhabited

structure LogicSettings where
  program : Option String := none
  symbols : Table LogicVariable := ∅
  period : Option String := none
  processUpdates : Option Bool := none
deriving DecidableEq, Repr

structure LogicSection where
  name : String
  period : String
  processUpdates : Bool
  program : String
  symbols : Table LogicVariable
deriving DecidableEq, Repr, Inhabited

def LogicSettings.section? (settings : LogicSettings) : Option LogicSection :=
  settings.program.map fun program =>
    { name := "logic-module"
      period := settings.period.getD "1s"
      processUpdates := settings.processUpdates.getD false
      program
      symbols := settings.symbols }

end FieldConfig
