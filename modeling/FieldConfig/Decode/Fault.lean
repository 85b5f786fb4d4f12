import FieldConfig.Number.Shortest
import FieldConfig.Text.Quoted

set_option autoImplicit false

namespace FieldConfig.Decode

inductive Found where
  | unit
  | boolean (value : Bool)
  | integer (value : Int)
  | real (value : Double)
  | text (value : String)
  | sequence
  | map
deriving DecidableEq, Repr

inductive Fault where
  | hexDigits
  | integerDigits
  | numberDigits
  | numberSize
  | loneTrail
  | missingTrail
  | wrongTrail
  | wrongType (found : Found) (expected : String)
  | missingField (name : String)
  | duplicateField (name : String)
  | shortArray (length : Nat) (record : String) (size : Nat)
  | unknownVariant (name : String) (known : List String)
  | emptyVariant
  | notVariant
  | noMatch (choice : String)
  | invertedRange (low high : Double)
deriving DecidableEq, Repr

def plainText (x : Double) (wholeFraction : Bool) : String :=
  if x.isNaN then "NaN"
  else if !x.isFinite then (if x.isNegative then "-inf" else "inf")
  else String.ofList (Double.Layout.write ⟨fun _ => true, wholeFraction⟩ x)

def Found.describe : Found → String
  | .unit => "unit value"
  | .boolean true => "boolean `true`"
  | .boolean false => "boolean `false`"
  | .integer value => "integer `" ++ toString value ++ "`"
  | .real value => "floating point `" ++ plainText value true ++ "`"
  | .text value => "string " ++ Text.quoted value
  | .sequence => "sequence"
  | .map => "map"

def oneOf (names : List String) : String :=
  match names.map fun name => "`" ++ name ++ "`" with
  | [] => "there are no variants"
  | [only] => "expected " ++ only
  | [first, second] => "expected " ++ first ++ " or " ++ second
  | many => "expected one of " ++ ", ".intercalate many

def Fault.message : Fault → String
  | .hexDigits => "error parsing hex"
  | .integerDigits => "error parsing integer"
  | .numberDigits => "error parsing number"
  | .numberSize => "error parsing number: too large"
  | .loneTrail => "unexpected unicode trail surrogate"
  | .missingTrail => "missing unicode trail surrogate"
  | .wrongTrail => "expecting unicode trail surrogate"
  | .wrongType found expected => "invalid type: " ++ found.describe ++ ", expected " ++ expected
  | .missingField name => "missing field `" ++ name ++ "`"
  | .duplicateField name => "duplicate field `" ++ name ++ "`"
  | .shortArray length record size =>
    "invalid length " ++ toString length ++ ", expected struct " ++ record ++ " with " ++
      toString size ++ (if size = 1 then " element" else " elements")
  | .unknownVariant name known => "unknown variant `" ++ name ++ "`, " ++ oneOf known
  | .emptyVariant => "expected a nonempty object"
  | .notVariant => "expected a string or an object"
  | .noMatch choice => "data did not match any variant of untagged enum " ++ choice
  | .invertedRange low high =>
    "range min " ++ plainText low false ++ " is greater than max " ++ plainText high false

end FieldConfig.Decode
