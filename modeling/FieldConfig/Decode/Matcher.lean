import FieldConfig.Decode.Reader

set_option autoImplicit false

/-!
Values that may have one of several forms. The text is read to the end first, then the forms are
tried in turn; a form either fits or it does not, without a fault of its own.
-/
namespace FieldConfig.Decode

abbrev Matcher (α : Type) := Tree → Option α

namespace Matcher

variable {α : Type}

def text : Matcher String
  | .text value => some value
  | _ => none

def flag : Matcher Bool
  | .boolean value => some value
  | _ => none

def whole : Matcher Int
  | .integer value => some value
  | _ => none

def word : Matcher UInt32
  | .integer value =>
    if 0 ≤ value ∧ value < 0x100000000 then some (UInt32.ofNat value.toNat) else none
  | _ => none

def real : Matcher Double
  | .integer value => some (.ofInt value)
  | .real value => some value
  | _ => none

def optional (fits : Matcher α) : Matcher (Option α)
  | .null => some none
  | tree => (fits tree).map some

def list (fits : Matcher α) : Matcher (List α)
  | .array items => items.mapM fits
  | _ => none

def variant (names : List (String × α)) : Matcher α
  | .text name => names.lookup name
  | .object [(name, .null)] => names.lookup name
  | _ => none

def read (choice : String) (fits : Matcher α) : Reader α := fun source => do
  match fits (← source.evaluate) with
  | some value => return value
  | none => throw (.noMatch choice)

end Matcher

variable {α σ : Type}

structure Part (σ : Type) where
  names : List String
  fits : Tree → σ → Option σ
  required : Bool

def Part.optional (names : List String) (fits : Matcher α) (set : σ → α → σ) : Part σ :=
  ⟨names, fun tree draft => (fits tree).map (set draft), false⟩

def Part.needed (names : List String) (fits : Matcher α) (set : σ → α → σ) : Part σ :=
  ⟨names, fun tree draft => (fits tree).map (set draft), true⟩

structure Form (σ : Type) where
  blank : σ
  parts : List (Part σ)

namespace Form

def ofMembers (form : Form σ) (left : List (Part σ)) (draft : σ) :
    List (String × Tree) → Option σ
  | [] => if left.any (·.required) then none else some draft
  | (key, value) :: rest =>
    if !form.parts.any (·.names.contains key) then ofMembers form left draft rest
    else
      match left.find? (·.names.contains key) with
      | none => none
      | some part =>
        match part.fits value draft with
        | none => none
        | some draft => ofMembers form (left.filter (!·.names.contains key)) draft rest

def ofItems (draft : σ) : List (Part σ) → List Tree → Option σ
  | [], [] => some draft
  | [], _ :: _ => none
  | part :: parts, [] => if part.required then none else ofItems draft parts []
  | part :: parts, item :: items =>
    match part.fits item draft with
    | none => none
    | some draft => ofItems draft parts items

def ofObject (form : Form σ) : Matcher σ
  | .object members => form.ofMembers form.parts form.blank members
  | _ => none

-- An object, or an array with the members in their order and nothing more.
def fits (form : Form σ) : Matcher σ
  | .object members => form.ofMembers form.parts form.blank members
  | .array items => ofItems form.blank form.parts items
  | _ => none

end Form

end FieldConfig.Decode
