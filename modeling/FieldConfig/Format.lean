import FieldConfig.Decode.Reader
import FieldConfig.Document.Markup
import FieldConfig.Document.Tree
import FieldConfig.Tree.Cbor

set_option autoImplicit false

namespace FieldConfig

inductive Content where
  | text (text : String)
  | bytes (bytes : List UInt8)
deriving DecidableEq, Repr

inductive Format where
  | xml
  | json
  | cbor
deriving DecidableEq, Repr, Inhabited

namespace Format

def all : List Format := [.xml, .json, .cbor]

def extension : Format → String
  | .xml => "xml"
  | .json => "json"
  | .cbor => "cbor"

def names : List (String × Format) := all.map fun format => (format.extension, format)

def ofName? (text : String) : Option Format := names.lookup text

def render (document : Document) : Format → Content
  | .xml => .text (Xml.render document.element)
  | .json => .text document.tree.toJson
  | .cbor => .bytes document.tree.cbor

end Format
end FieldConfig
