import FieldConfig.Decode.Fault
import FieldConfig.Json5.Token
import FieldConfig.Text.Hex
import FieldConfig.Tree

set_option autoImplicit false

/-!
A JSON5 value as written: members in their order with repeated keys, texts and numbers not yet
read. `Source.evaluate` reads all of it from front to back and so meets its faults in that order.
-/
namespace FieldConfig.Json5

open Decode (Fault)

inductive Source where
  | null
  | boolean (value : Bool)
  | number (chars : List Char)
  | text (pieces : List Piece)
  | array (items : List Source)
  | object (members : List (List Piece × Source))
deriving Repr, Inhabited

inductive Container where
  | array (items : List Source)
  | object (members : List (List Piece × Source))
  | member (members : List (List Piece × Source)) (key : List Piece)

-- What may come next: a value; a value or the end of an array; a key or the end of an object; the
-- colon after a key; or, behind a value, a comma, the end of its container or of the text.
inductive Expected where
  | value
  | item
  | key
  | colon
  | after (value : Source)

def plain (word : String) : List Piece := word.toList.map Piece.plain

def keyword? (pieces : List Piece) : Option Source :=
  if pieces = plain "null" then some .null
  else if pieces = plain "true" then some (.boolean true)
  else if pieces = plain "false" then some (.boolean false)
  else if pieces = plain "Infinity" then some (.number "Infinity".toList)
  else if pieces = plain "NaN" then some (.number "NaN".toList)
  else none

def begin? (token : Token) (within : List Container) : Option (Expected × List Container) :=
  match token with
  | .openBrace => some (.key, .object [] :: within)
  | .openBracket => some (.item, .array [] :: within)
  | .text pieces => some (.after (.text pieces), within)
  | .number chars => some (.after (.number chars), within)
  | .word pieces => (keyword? pieces).map fun value => (.after value, within)
  | _ => none

def step? : Expected → List Container → Token → Option (Expected × List Container)
  | .item, .array items :: outer, .closeBracket => some (.after (.array items.reverse), outer)
  | .item, within, token => begin? token within
  | .value, within, token => begin? token within
  | .key, .object members :: outer, .closeBrace => some (.after (.object members.reverse), outer)
  | .key, .object members :: outer, .word key => some (.colon, .member members key :: outer)
  | .key, .object members :: outer, .text key => some (.colon, .member members key :: outer)
  | .colon, within, .colon => some (.value, within)
  | .after value, .array items :: outer, .comma => some (.item, .array (value :: items) :: outer)
  | .after value, .array items :: outer, .closeBracket =>
    some (.after (.array (value :: items).reverse), outer)
  | .after value, .member members key :: outer, .comma =>
    some (.key, .object ((key, value) :: members) :: outer)
  | .after value, .member members key :: outer, .closeBrace =>
    some (.after (.object ((key, value) :: members).reverse), outer)
  | _, _, _ => none

def run : Expected → List Container → List Token → Option Source
  | .after value, [], [] => some value
  | _, _, [] => none
  | expected, within, token :: rest =>
    match step? expected within token with
    | some (expected, within) => run expected within rest
    | none => none

def Source.parse? (text : String) : Option Source :=
  (Token.scan text.toList).bind (run .value [])

def hex? (chars : List Char) : Option Nat :=
  if chars = [] then none
  else (Text.hexValue? 0 chars).filter (· < 0x100000000)

def Piece.chars : Piece → List Char
  | .plain c => [c]
  | .escape c => [c]
  | .nul => ['0']
  | .byte digits => digits
  | .unit digits => digits

def escaped (c : Char) : Char :=
  match c with
  | 'b' => '\x08'
  | 'f' => '\x0c'
  | 'n' => '\n'
  | 'r' => '\r'
  | 't' => '\t'
  | 'v' => '\x0b'
  | c => c

def isLead (unit : Nat) : Bool := 0xD800 ≤ unit && unit ≤ 0xDBFF
def isTrail (unit : Nat) : Bool := 0xDC00 ≤ unit && unit ≤ 0xDFFF

-- Two units that are a lead and a trail make one character.
def readPieces : List Piece → Except Fault (List Char)
  | [] => .ok []
  | .unit digits :: rest => do
    let some unit := hex? digits | throw .hexDigits
    if isTrail unit then throw .loneTrail
    if isLead unit then
      match rest with
      | [] => throw .missingTrail
      | trail :: others =>
        let some second := hex? trail.chars | throw .hexDigits
        if isTrail second then
          let chars ← readPieces others
          return Char.ofNat ((unit - 0xD800) * 1024 + (second - 0xDC00) + 0x10000) :: chars
        else throw .wrongTrail
    else
      let chars ← readPieces rest
      return Char.ofNat unit :: chars
  | .plain c :: rest => return c :: (← readPieces rest)
  | .escape c :: rest => return escaped c :: (← readPieces rest)
  | .nul :: rest => return '\x00' :: (← readPieces rest)
  | .byte digits :: rest => do
    let some value := hex? digits | throw .hexDigits
    return Char.ofNat value :: (← readPieces rest)

def readText (pieces : List Piece) : Except Fault String := do
  return String.ofList (← readPieces pieces)

def isHexNumber : List Char → Bool
  | '0' :: x :: _ :: _ => x = 'x' || x = 'X'
  | _ => false

def isWhole (chars : List Char) : Bool :=
  !chars.contains '.' && (isHexNumber chars || !(chars.contains 'e' || chars.contains 'E')) &&
    chars ≠ "Infinity".toList && chars ≠ "-Infinity".toList && chars ≠ "NaN".toList &&
    chars ≠ "-NaN".toList

def readInteger (chars : List Char) : Except Fault Int :=
  if isHexNumber chars then
    match hex? (chars.drop 2) with
    | some value => .ok value
    | none => .error .hexDigits
  else
    let (negative, digits) :=
      match chars with
      | '-' :: digits => (true, digits)
      | '+' :: digits => (false, digits)
      | digits => (false, digits)
    if digits ≠ [] && digits.all Char.isDigit then
      let size : Int := Nat.ofDigitChars 10 digits 0
      let value := if negative then -size else size
      if -0x8000000000000000 ≤ value && value < 0x8000000000000000 then .ok value
      else .error .integerDigits
    else .error .integerDigits

def decimalValue (negative : Bool) (chars : List Char) : Double :=
  let whole := chars.takeWhile Char.isDigit
  let rest := chars.dropWhile Char.isDigit
  let (part, rest) :=
    match rest with
    | '.' :: rest => (rest.takeWhile Char.isDigit, rest.dropWhile Char.isDigit)
    | rest => ([], rest)
  let power : Int :=
    match rest with
    | _ :: '-' :: digits => -(Nat.ofDigitChars 10 digits 0 : Int)
    | _ :: '+' :: digits => Nat.ofDigitChars 10 digits 0
    | _ :: digits => Nat.ofDigitChars 10 digits 0
    | [] => 0
  Double.ofDecimal negative (Nat.ofDigitChars 10 (whole ++ part) 0) (power - part.length)

def readNumber (chars : List Char) : Except Fault Double :=
  let signed (negative : Bool) (chars : List Char) : Except Fault Double :=
    if chars = "Infinity".toList || chars = "NaN".toList then .error .numberSize
    else if isHexNumber chars then .error .numberDigits
    else
      let value := decimalValue negative chars
      if value.isFinite then .ok value else .error .numberSize
  if chars = "Infinity".toList then .ok (.infinite false)
  else if chars = "-Infinity".toList then .ok (.infinite true)
  else if chars = "NaN".toList || chars = "-NaN".toList then .ok .notANumber
  else if isHexNumber chars then
    match hex? (chars.drop 2) with
    | some value => .ok (.ofInt value)
    | none => .error .hexDigits
  else
    match chars with
    | '-' :: rest => signed true rest
    | '+' :: rest => signed false rest
    | rest => signed false rest

def readUntyped (chars : List Char) : Except Fault Tree :=
  if isWhole chars then return .integer (← readInteger chars)
  else return .real (← readNumber chars)

mutual
def Source.evaluate : Source → Except Fault Tree
  | .null => .ok .null
  | .boolean value => .ok (.boolean value)
  | .number chars => readUntyped chars
  | .text pieces => return .text (← readText pieces)
  | .array items => return .array (← evaluateItems items)
  | .object members => return .object (← evaluateMembers members)

def evaluateItems : List Source → Except Fault (List Tree)
  | [] => .ok []
  | item :: rest => return (← item.evaluate) :: (← evaluateItems rest)

def evaluateMembers : List (List Piece × Source) → Except Fault (List (String × Tree))
  | [] => .ok []
  | (key, value) :: rest =>
    return (← readText key, ← value.evaluate) :: (← evaluateMembers rest)
end

end FieldConfig.Json5
