set_option autoImplicit false

/-!
XML elements and their text. Elements with children put each child on a line of its own, two spaces
deeper; text stands between its tags without further space.
-/
namespace FieldConfig.Xml

inductive Element where
  | branch (name : String) (attributes : List (String × String)) (children : List Element)
  | leaf (name : String) (attributes : List (String × String)) (text : String)
  | verbatim (name : String) (text : String)
deriving Repr, Inhabited

def Element.name : Element → String
  | .branch name _ _ => name
  | .leaf name _ _ => name
  | .verbatim name _ => name

def escapeChar (c : Char) : List Char :=
  if c = '<' then "&lt;".toList
  else if c = '>' then "&gt;".toList
  else if c = '&' then "&amp;".toList
  else if c = '\'' then "&apos;".toList
  else if c = '"' then "&quot;".toList
  else [c]

def escape (chars : List Char) : List Char := chars.flatMap escapeChar

def writeAttribute : String × String → List Char
  | (key, value) => ' ' :: key.toList ++ '=' :: '"' :: escape value.toList ++ ['"']

def openTag (name : String) (attributes : List (String × String)) : List Char :=
  '<' :: name.toList ++ attributes.flatMap writeAttribute ++ ['>']

def closeTag (name : String) : List Char := '<' :: '/' :: name.toList ++ ['>']

def line (depth : Nat) : List Char := '\n' :: List.replicate (2 * depth) ' '

mutual
def write (depth : Nat) : Element → List Char
  | .branch name attributes children =>
    openTag name attributes ++ writeChildren (depth + 1) children ++ line depth ++ closeTag name
  | .leaf name attributes text => openTag name attributes ++ escape text.toList ++ closeTag name
  | .verbatim name text =>
    openTag name [] ++ "<![CDATA[".toList ++ text.toList ++ "]]>".toList ++ closeTag name

def writeChildren (depth : Nat) : List Element → List Char
  | [] => []
  | child :: rest => line depth ++ write depth child ++ writeChildren depth rest
end

def render (root : Element) : String := String.ofList (write 0 root ++ ['\n'])

end FieldConfig.Xml
