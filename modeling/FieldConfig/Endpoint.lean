import FieldConfig.Net.Address
import FieldConfig.Topology

set_option autoImplicit false

namespace FieldConfig

structure Endpoint where
  host : String
  socket : UInt16
deriving DecidableEq, Repr

namespace Endpoint

def text (endpoint : Endpoint) : String :=
  let number := toString endpoint.socket.toNat
  if (Net.V6.parse? endpoint.host.toList).isSome then "[" ++ endpoint.host ++ "]:" ++ number
  else endpoint.host ++ ":" ++ number

def socket? (chars : List Char) : Option UInt16 :=
  let digits :=
    match chars with
    | '+' :: rest => rest
    | chars => chars
  if digits ≠ [] ∧ digits.all Char.isDigit ∧ Nat.ofDigitChars 10 digits 0 < 65536 then
    some (UInt16.ofNat (Nat.ofDigitChars 10 digits 0))
  else none

-- The host of a specification and the text of its socket number. Brackets around the host come
-- off; an IP address alone has no number; otherwise the last colon stands before it. Nothing if the
-- brackets are not closed or anything but a colon follows them.
def split? (spec : List Char) : Option (List Char × Option (List Char)) :=
  match spec with
  | '[' :: rest =>
    match Text.cut? ']' rest with
    | none => none
    | some (host, []) => some (host, none)
    | some (host, ':' :: socket) => some (host, some socket)
    | some (_, _ :: _) => none
  | _ =>
    if (Net.Address.parse? spec).isSome then some (spec, none)
    else
      match Text.cutLast? ':' spec with
      | some (host, socket) => some (host, some socket)
      | none => some (spec, none)

def hostAddress (node : Node) (name : List Char) : Except CompileError String :=
  match Net.Address.parse? name with
  | some address => .ok (String.ofList address.text)
  | none =>
    match node.interfaceAddress? (String.ofList name) with
    | some address => .ok address
    | none => .error (.unresolvedInterface node.hostname (String.ofList name))

def resolve (node : Node) (protocol : Protocol) (spec : Option String) :
    Except CompileError Endpoint :=
  match spec with
  | none =>
    match node.firstAddress? with
    | some address => .ok ⟨address, protocol.standardSocket⟩
    | none => .error (.missingAddress node.hostname)
  | some spec =>
    match split? spec.toList with
    | none => .error (.malformedInterface node.hostname protocol spec)
    | some (name, none) => (hostAddress node name).map fun host => ⟨host, protocol.standardSocket⟩
    | some (name, some text) =>
      match socket? text with
      | none => .error (.invalidSocket node.hostname protocol (String.ofList text))
      | some socket => (hostAddress node name).map fun host => ⟨host, socket⟩

def ofNode (node : Node) (protocol : Protocol) : Except CompileError Endpoint :=
  resolve node protocol ((node.metadata.protocol protocol).bind (·.interface))

end Endpoint
end FieldConfig
