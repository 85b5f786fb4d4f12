import FieldConfig.Json5.Source
import FieldConfig.Table

set_option autoImplicit false

/-!
Readers of typed values from JSON5. They go from front to back and stop at the first fault; a part
that no reader asks for is only checked to be readable.
-/
namespace FieldConfig.Decode

open Json5 (Source Piece readText)

abbrev Reader (α : Type) := Source → Except Fault α

namespace Reader

variable {α σ : Type}

def found : Source → Except Fault Found
  | .null => .ok .unit
  | .boolean value => .ok (.boolean value)
  | .number chars =>
    if Json5.isWhole chars then return .integer (← Json5.readInteger chars)
    else return .real (← Json5.readNumber chars)
  | .text pieces => return .text (← readText pieces)
  | .array _ => .ok .sequence
  | .object _ => .ok .map

def mismatch (expected : String) (source : Source) : Except Fault α := do
  throw (.wrongType (← found source) expected)

def text : Reader String
  | .text pieces => readText pieces
  | source => mismatch "a string" source

def flag : Reader Bool
  | .boolean value => .ok value
  | source => mismatch "a boolean" source

-- Any number, cut to a whole one of 32 bits.
def word : Reader UInt32
  | .number chars => return UInt32.ofNat ((← Json5.readNumber chars).clip 0xffffffff)
  | _ => .error .numberDigits

def optional (read : Reader α) : Reader (Option α)
  | .null => .ok none
  | source => return some (← read source)

def list (read : Reader α) : Reader (List α)
  | .array items => items.mapM read
  | source => mismatch "a sequence" source

def entries (read : Reader α) :
    List (List Piece × Source) → Except Fault (List (String × α))
  | [] => .ok []
  | (key, value) :: rest => return (← readText key, ← read value) :: (← entries read rest)

def table (expected : String) (read : Reader α) : Reader (Table α)
  | .object members => return Table.ofList (← entries read members)
  | source => mismatch expected source

def named (names : List (String × α)) (pieces : List Piece) : Except Fault α := do
  let name ← readText pieces
  match names.lookup name with
  | some value => return value
  | none => throw (.unknownVariant name (names.map Prod.fst))

def variant (names : List (String × α)) : Reader α
  | .text pieces => named names pieces
  | .object ((key, _) :: _) => named names key
  | .object [] => .error .emptyVariant
  | _ => .error .notVariant

end Reader

variable {α σ : Type}

structure Field (σ : Type) where
  name : String
  read : Source → σ → Except Fault σ
  required : Bool

def Field.optional (name : String) (read : Reader α) (set : σ → α → σ) : Field σ :=
  ⟨name, fun source draft => return set draft (← read source), false⟩

def Field.needed (name : String) (read : Reader α) (set : σ → α → σ) : Field σ :=
  ⟨name, fun source draft => return set draft (← read source), true⟩

structure Record (σ : Type) where
  name : String
  blank : σ
  fields : List (Field σ)

namespace Record

def ofMembers (record : Record σ) (seen : List String) (draft : σ) :
    List (List Piece × Source) → Except Fault σ
  | [] =>
    match record.fields.find? fun field => field.required && !seen.contains field.name with
    | some field => .error (.missingField field.name)
    | none => .ok draft
  | (key, value) :: rest => do
    let key ← readText key
    match record.fields.find? (·.name == key) with
    | none =>
      let _ ← value.evaluate
      ofMembers record seen draft rest
    | some field =>
      if seen.contains key then throw (.duplicateField key)
      ofMembers record (key :: seen) (← field.read value draft) rest

def ofItems (record : Record σ) (index : Nat) (draft : σ) :
    List (Field σ) → List Source → Except Fault σ
  | [], _ => .ok draft
  | field :: fields, [] =>
    if field.required then .error (.shortArray index record.name record.fields.length)
    else ofItems record (index + 1) draft fields []
  | field :: fields, item :: items => do
    ofItems record (index + 1) (← field.read item draft) fields items

def read (record : Record σ) : Reader σ
  | .object members => record.ofMembers [] record.blank members
  | .array items => record.ofItems 0 record.blank record.fields items
  | source => Reader.mismatch ("struct " ++ record.name) source

end Record

end FieldConfig.Decode
