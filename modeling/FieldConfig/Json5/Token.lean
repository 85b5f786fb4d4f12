import FieldConfig.Json5.Letters
import FieldConfig.Text.Hex

set_option autoImplicit false

/-!
The tokens of a JSON5 text. A quoted text and a key are kept as the pieces they were written in,
a number as its characters; what they stand for is worked out when they are used.
-/
namespace FieldConfig.Json5

inductive Piece where
  | plain (char : Char)
  | escape (char : Char)
  | nul
  | byte (digits : List Char)
  | unit (digits : List Char)
deriving DecidableEq, Repr

inductive Token where
  | openBrace
  | closeBrace
  | openBracket
  | closeBracket
  | comma
  | colon
  | text (pieces : List Piece)
  | word (pieces : List Piece)
  | number (chars : List Char)
deriving DecidableEq, Repr

def isHex (c : Char) : Bool := (Text.hexDigit? c).isSome

def endsLine (c : Char) : Bool :=
  c = '\n' || c = '\r' || c.toNat = 0x2028 || c.toNat = 0x2029

def isSpace (c : Char) : Bool :=
  let n := c.toNat
  n = 9 || n = 11 || n = 12 || n = 0x20 || n = 0xA0 || n = 0xFEFF || n = 0x1680 ||
    (0x2000 ≤ n && n ≤ 0x200A) || n = 0x202F || n = 0x205F || n = 0x3000 || endsLine c

def afterLine (chars : List Char) : List Char := chars.dropWhile (!endsLine ·)

def afterComment : List Char → Option (List Char)
  | '*' :: '/' :: rest => some rest
  | _ :: rest => afterComment rest
  | [] => none

namespace Token

-- The pieces up to the closing `quote`, and what follows it. A backslash before the end of a line
-- continues the text on the next one.
def quotedPieces (quote : Char) : List Char → Option (List Piece × List Char)
  | [] => none
  | '\\' :: '\r' :: '\n' :: rest => quotedPieces quote rest
  | '\\' :: 'x' :: a :: b :: rest =>
    if isHex a && isHex b then
      (quotedPieces quote rest).map fun (pieces, left) => (.byte [a, b] :: pieces, left)
    else none
  | '\\' :: 'u' :: a :: b :: c :: d :: rest =>
    if isHex a && isHex b && isHex c && isHex d then
      (quotedPieces quote rest).map fun (pieces, left) => (.unit [a, b, c, d] :: pieces, left)
    else none
  | '\\' :: c :: rest =>
    if endsLine c then quotedPieces quote rest
    else if c = '0' then
      (quotedPieces quote rest).map fun (pieces, left) => (.nul :: pieces, left)
    else if c.isDigit || c = 'x' || c = 'u' then none
    else (quotedPieces quote rest).map fun (pieces, left) => (.escape c :: pieces, left)
  | c :: rest =>
    if c = quote then some ([], rest)
    else if c = '\\' || endsLine c then none
    else (quotedPieces quote rest).map fun (pieces, left) => (.plain c :: pieces, left)

def wordPieces (accepts : Char → Bool) : List Char → List Piece × List Char
  | '\\' :: 'u' :: a :: b :: c :: d :: rest =>
    if isHex a && isHex b && isHex c && isHex d then
      let (pieces, left) := wordPieces continuesKey rest
      (.unit [a, b, c, d] :: pieces, left)
    else ([], '\\' :: 'u' :: a :: b :: c :: d :: rest)
  | c :: rest =>
    if accepts c then
      let (pieces, left) := wordPieces continuesKey rest
      (.plain c :: pieces, left)
    else ([], c :: rest)
  | [] => ([], [])

def digits (chars : List Char) : List Char × List Char :=
  (chars.takeWhile Char.isDigit, chars.dropWhile Char.isDigit)

def exponent (chars : List Char) : List Char × List Char :=
  let whole (taken rest : List Char) : List Char × List Char :=
    match digits rest with
    | ([], _) => ([], chars)
    | (ds, left) => (taken ++ ds, left)
  match chars with
  | 'e' :: '+' :: rest => whole ['e', '+'] rest
  | 'e' :: '-' :: rest => whole ['e', '-'] rest
  | 'e' :: rest => whole ['e'] rest
  | 'E' :: '+' :: rest => whole ['E', '+'] rest
  | 'E' :: '-' :: rest => whole ['E', '-'] rest
  | 'E' :: rest => whole ['E'] rest
  | _ => ([], chars)

def fraction : List Char → List Char × List Char
  | '.' :: rest => let (ds, left) := digits rest; ('.' :: ds, left)
  | chars => ([], chars)

def decimal? : List Char → Option (List Char × List Char)
  | '.' :: rest =>
    match digits rest with
    | ([], _) => none
    | (ds, left) => let (power, left) := exponent left; some ('.' :: ds ++ power, left)
  | '0' :: rest =>
    let (part, left) := fraction rest
    let (power, left) := exponent left
    some ('0' :: part ++ power, left)
  | chars =>
    match digits chars with
    | ([], _) => none
    | (whole, left) =>
      let (part, left) := fraction left
      let (power, left) := exponent left
      some (whole ++ part ++ power, left)

def unsigned? : List Char → Option (List Char × List Char)
  | '0' :: x :: rest =>
    if (x = 'x' || x = 'X') && (rest.takeWhile isHex) ≠ [] then
      some ('0' :: x :: rest.takeWhile isHex, rest.dropWhile isHex)
    else decimal? ('0' :: x :: rest)
  | 'I' :: 'n' :: 'f' :: 'i' :: 'n' :: 'i' :: 't' :: 'y' :: rest =>
    some ("Infinity".toList, rest)
  | 'N' :: 'a' :: 'N' :: rest => some ("NaN".toList, rest)
  | chars => decimal? chars

def next? (c : Char) (rest : List Char) : Option (Token × List Char) :=
  if c = '{' then some (.openBrace, rest)
  else if c = '}' then some (.closeBrace, rest)
  else if c = '[' then some (.openBracket, rest)
  else if c = ']' then some (.closeBracket, rest)
  else if c = ',' then some (.comma, rest)
  else if c = ':' then some (.colon, rest)
  else if c = '"' || c = '\'' then
    (quotedPieces c rest).map fun (pieces, left) => (.text pieces, left)
  else if c = '+' || c = '-' then
    (unsigned? rest).map fun (chars, left) => (.number (c :: chars), left)
  else if c.isDigit || c = '.' then
    (unsigned? (c :: rest)).map fun (chars, left) => (.number chars, left)
  else
    match wordPieces startsKey (c :: rest) with
    | ([], _) => none
    | (pieces, left) => some (.word pieces, left)

def collect (read : List Token) (chars : List Char) : Option (List Token) :=
  match chars with
  | [] => some read
  | '/' :: '/' :: rest =>
    if (afterLine rest).length ≤ rest.length then collect read (afterLine rest) else none
  | '/' :: '*' :: rest =>
    match afterComment rest with
    | some left => if left.length ≤ rest.length then collect read left else none
    | none => none
  | c :: rest =>
    if isSpace c then collect read rest
    else
      match next? c rest with
      | some (token, left) =>
        if left.length ≤ rest.length then collect (token :: read) left else none
      | none => none
termination_by chars.length
decreasing_by all_goals simp_all <;> omega

def scan (chars : List Char) : Option (List Token) := (collect [] chars).map List.reverse

end Token
end FieldConfig.Json5
