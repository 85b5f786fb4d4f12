import FieldConfig.Decode.Reader
import FieldConfig.Error

set_option autoImplicit false

namespace FieldConfig.Decode

def parse {α : Type} (read : Reader α) (file : Option String) (text : String) :
    Except CompileError α :=
  match Json5.Source.parse? text with
  | none => .error (.ungrammatical file)
  | some source => (read source).mapError (.unreadable file)

end FieldConfig.Decode
