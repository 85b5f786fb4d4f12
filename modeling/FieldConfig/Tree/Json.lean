import FieldConfig.Number.Shortest
import FieldConfig.Tree

set_option autoImplicit false

namespace FieldConfig.Tree

def hexDigits4 (n : Nat) : List Char :=
  let digits := Nat.toDigits 16 n
  List.replicate (4 - digits.length) '0' ++ digits

def jsonChar (c : Char) : List Char :=
  if c = '"' then ['\\', '"']
  else if c = '\\' then ['\\', '\\']
  else if c = '\x08' then ['\\', 'b']
  else if c = '\x0c' then ['\\', 'f']
  else if c = '\n' then ['\\', 'n']
  else if c = '\r' then ['\\', 'r']
  else if c = '\t' then ['\\', 't']
  else if c.toNat < 32 then ['\\', 'u'] ++ hexDigits4 c.toNat
  else [c]

def jsonText (text : String) : List Char := '"' :: text.toList.flatMap jsonChar ++ ['"']

def jsonInteger (n : Int) : List Char :=
  if n < 0 then '-' :: Nat.toDigits 10 n.natAbs else Nat.toDigits 10 n.natAbs

-- Numbers keep a fraction when they are whole, and have an exponent when their leading digit
-- stands above the sixteenth place or below the fifth decimal.
def jsonLayout : Double.Layout := ⟨fun magnitude => -5 ≤ magnitude && magnitude ≤ 15, true⟩

def jsonReal (x : Double) : List Char :=
  if x.isFinite then jsonLayout.write x else "null".toList

def jsonScalar : Tree → List Char
  | .null | .array _ | .object _ => "null".toList
  | .boolean true => "true".toList
  | .boolean false => "false".toList
  | .integer value => jsonInteger value
  | .real value => jsonReal value
  | .text value => jsonText value

mutual
def compact : Tree → List Char
  | .array items => '[' :: compactItems items ++ [']']
  | .object members => '{' :: compactMembers members ++ ['}']
  | scalar => jsonScalar scalar

def compactItems : List Tree → List Char
  | [] => []
  | [item] => item.compact
  | item :: rest => item.compact ++ ',' :: compactItems rest

def compactMembers : List (String × Tree) → List Char
  | [] => []
  | [(key, value)] => jsonText key ++ ':' :: value.compact
  | (key, value) :: rest => jsonText key ++ ':' :: value.compact ++ ',' :: compactMembers rest
end

def jsonLine (depth : Nat) : List Char := '\n' :: List.replicate (2 * depth) ' '

mutual
def pretty (depth : Nat) : Tree → List Char
  | .array [] => ['[', ']']
  | .object [] => ['{', '}']
  | .array items => '[' :: prettyItems (depth + 1) items ++ jsonLine depth ++ [']']
  | .object members => '{' :: prettyMembers (depth + 1) members ++ jsonLine depth ++ ['}']
  | scalar => jsonScalar scalar

def prettyItems (depth : Nat) : List Tree → List Char
  | [] => []
  | [item] => jsonLine depth ++ item.pretty depth
  | item :: rest => jsonLine depth ++ item.pretty depth ++ ',' :: prettyItems depth rest

def prettyMembers (depth : Nat) : List (String × Tree) → List Char
  | [] => []
  | [(key, value)] => jsonLine depth ++ jsonText key ++ ':' :: ' ' :: value.pretty depth
  | (key, value) :: rest =>
    jsonLine depth ++ jsonText key ++ ':' :: ' ' :: value.pretty depth ++
      ',' :: prettyMembers depth rest
end

def toJsonLine (tree : Tree) : String := String.ofList tree.compact

def toJson (tree : Tree) : String := String.ofList (tree.pretty 0)

end FieldConfig.Tree
