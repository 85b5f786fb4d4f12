import FieldConfig.Protocol
import FieldConfig.Decode.Reader

set_option autoImplicit false

namespace FieldConfig

def PointClass.names : List (String × PointClass) :=
  PointClass.all.map fun kind => (kind.name, kind)

def RegisterKind.names : List (String × RegisterKind) :=
  [("coil", .coil),
   ("discrete", .discreteInput), ("discrete-input", .discreteInput),
   ("input", .inputRegister), ("input-register", .inputRegister),
   ("holding", .holdingRegister), ("holding-register", .holdingRegister),
   ("analog-input", .analogInput), ("analog-output", .analogOutput),
   ("binary-input", .binaryInput), ("binary-output", .binaryOutput)]

end FieldConfig
