import FieldConfig.Proofs.Endpoint.Reading
import FieldConfig.Proofs.Net.Continuation

set_option autoImplicit false

-- An IPv6 address without brackets and what is behind its last colon. The text of a socket number may
-- be one more group of the address; then the specification is the longer address and has no number.
namespace FieldConfig.Endpoint

theorem socket_cases (text : List Char) (socket : UInt16) (read : socket? text = some socket) :
    ∃ digits, (text = digits ∨ text = '+' :: digits) ∧ digits ≠ [] ∧ ∀ c ∈ digits, c.isDigit := by
  unfold socket? at read
  obtain ⟨⟨written, decimal, _⟩, _⟩ := Option.ite_none_right_eq_some.mp read
  refine ⟨_, ?_, written, List.all_eq_true.mp decimal⟩
  split
  · exact .inr rfl
  · exact .inl rfl

theorem socket_plain (mark : Char) (text : List Char) (socket : UInt16)
    (read : socket? text = some socket) (other : ¬ mark.isDigit) (unsigned : mark ≠ '+') :
    mark ∉ text := by
  obtain ⟨digits, rfl | rfl, _, decimal⟩ := socket_cases text socket read
  · exact fun member => other (decimal mark member)
  · exact List.not_mem_cons_of_ne_of_not_mem unsigned fun member => other (decimal mark member)

-- A number in decimal digits can be read in hexadecimal ones; a group has four at most and no sign.
theorem socket_group_iff (text : List Char) (socket : UInt16) (read : socket? text = some socket) :
    (Net.group? text).isSome ↔ text.length ≤ 4 ∧ text.head? ≠ some '+' := by
  obtain ⟨digits, rfl | rfl, written, decimal⟩ := socket_cases text socket read
  · have unsigned : text.head? ≠ some '+' := fun sign =>
      absurd (decimal '+' (List.mem_of_head? sign)) (by decide)
    have value := Text.hex_value_some 0 text fun c member => Text.decimal_hex c (decimal c member)
    by_cases short : text.length ≤ 4
    · simp [Net.group?, written, short, unsigned, value]
    · simp [Net.group?, short]
  · have unread : Net.group? ('+' :: digits) = none := by
      rw [Option.eq_none_iff_forall_ne_some]
      intro group read
      exact absurd ((Net.group_chars _ group read).2 '+' List.mem_cons_self) (by decide)
    simp [unread]

/-- Behind the address and a colon, the text is one more group of the address. -/
def Continues (name text : List Char) : Prop :=
  Net.V6.Open name ∧ text.length ≤ 4 ∧ text.head? ≠ some '+'

theorem continues_iff (name text : List Char) (address : Net.V6) (socket : UInt16)
    (literal : Net.V6.parse? name = some address) (read : socket? text = some socket) :
    (Net.V6.parse? (name ++ ':' :: text)).isSome ↔ Continues name text := by
  rw [Net.V6.parse_continued_iff name text address literal
    (socket_plain ':' text socket read (by decide) (by decide))
    (socket_plain '.' text socket read (by decide) (by decide)), socket_group_iff text socket read]
  rfl

theorem split_bare (spec name : List Char) (number : Option (List Char))
    (bare : spec.head? ≠ some '[') (split : split? spec = some (name, number)) :
    (number = none ∧ spec = name) ∨
      ∃ text, number = some text ∧ spec = name ++ ':' :: text ∧ Net.Address.parse? spec = none := by
  rw [split?] at split
  · split at split
    · cases split
      exact .inl ⟨rfl, rfl⟩
    · next unread =>
        split at split
        · next host text cut =>
            cases split
            exact .inr ⟨text, rfl, (Text.cut_last_whole ':' spec _ _ cut).1,
              Option.not_isSome_iff_eq_none.mp unread⟩
        · cases split
          exact .inl ⟨rfl, rfl⟩
  · rintro rest rfl
    exact bare rfl

theorem resolve_whole (node : Node) (protocol : Protocol) (spec : String) (address : Net.V6)
    (bare : spec.toList.head? ≠ some '[') (literal : Net.V6.parse? spec.toList = some address) :
    resolve node protocol (some spec) =
      .ok ⟨String.ofList address.text, protocol.standardSocket⟩ := by
  have read := (Net.Address.parse_v6_iff _ address).mpr literal
  have split : split? spec.toList = some (spec.toList, none) := by
    rw [split?]
    · rw [if_pos (by rw [read]; rfl)]
    · intro rest same
      simp [same] at bare
  exact resolve_literal node protocol spec _ none _ split read

theorem literal_bare (name behind : List Char) (address : Net.V6)
    (literal : Net.V6.parse? name = some address) : (name ++ behind).head? ≠ some '[' := by
  obtain ⟨first, rest, rfl⟩ := List.exists_cons_of_ne_nil
    (List.ne_nil_of_mem (Net.V6.parse_colon name address literal))
  rw [List.cons_append, List.head?_cons]
  rintro ⟨⟩
  exact absurd (Net.V6.parse_chars _ address literal '[' List.mem_cons_self) (by decide)

theorem bare_literal (node : Node) (protocol : Protocol) (spec : String) (name : List Char)
    (number : Option (List Char)) (address : Net.V6) (endpoint : Endpoint)
    (bare : spec.toList.head? ≠ some '[') (split : split? spec.toList = some (name, number))
    (literal : Net.Address.parse? name = some (.v6 address))
    (resolved : resolve node protocol (some spec) = .ok endpoint) :
    endpoint.host = String.ofList address.text ∧
      ((spec.toList = name ∧ endpoint.socket = protocol.standardSocket) ∨
        ∃ text, spec.toList = name ++ ':' :: text ∧ socket? text = some endpoint.socket ∧
          ¬ Continues name text) := by
  rw [resolve_literal node protocol spec name number (.v6 address) split literal] at resolved
  rcases split_bare spec.toList name number bare split with ⟨rfl, whole⟩ | ⟨text, rfl, whole, unread⟩
  · cases resolved
    exact ⟨rfl, .inl ⟨whole, rfl⟩⟩
  · cases read : socket? text with
    | none => simp [read] at resolved
    | some socket =>
        simp only [read] at resolved
        cases resolved
        have named := (Net.Address.parse_v6_iff name address).mp literal
        refine ⟨rfl, .inr ⟨text, whole, read, fun continued => ?_⟩⟩
        -- Otherwise the whole specification would have been read as an address.
        obtain ⟨longer, found⟩ := Option.isSome_iff_exists.mp
          ((continues_iff name text address socket named read).mpr continued)
        rw [whole, (Net.Address.parse_v6_iff _ longer).mpr found] at unread
        cases unread

section Numbered

variable (node : Node) (protocol : Protocol) (name text : List Char) (address : Net.V6)
  (socket : UInt16) (literal : Net.V6.parse? name = some address) (read : socket? text = some socket)

include literal read

theorem literal_numbered (ends : ¬ Continues name text) :
    resolve node protocol (some (String.ofList (name ++ ':' :: text))) =
      .ok ⟨String.ofList address.text, socket⟩ := by
  have unread : Net.Address.parse? (name ++ ':' :: text) = none := by
    rw [Net.Address.v6_unless _ (List.mem_append_right _ List.mem_cons_self), Option.map_eq_none_iff,
      ← Option.not_isSome_iff_eq_none, continues_iff name text address socket literal read]
    exact ends
  have plain := socket_plain ':' text socket read (by decide) (by decide)
  have split := split_numbered name text (literal_bare name _ address literal) unread plain
  rw [resolve_literal node protocol _ name (some text) (.v6 address)
    (by rw [String.toList_ofList, split]) ((Net.Address.parse_v6_iff name address).mpr literal)]
  simp only [read, Net.Address.text]

theorem literal_continued (continued : Continues name text) :
    ∃ longer, Net.V6.parse? (name ++ ':' :: text) = some longer ∧
      resolve node protocol (some (String.ofList (name ++ ':' :: text))) =
        .ok ⟨String.ofList longer.text, protocol.standardSocket⟩ := by
  obtain ⟨longer, found⟩ := Option.isSome_iff_exists.mp
    ((continues_iff name text address socket literal read).mpr continued)
  have bare := literal_bare name (':' :: text) address literal
  refine ⟨longer, found, resolve_whole node protocol _ longer ?_ ?_⟩ <;> rwa [String.toList_ofList]

end Numbered

/-- An IPv6 address without brackets is a specification on its own, with the protocol's standard socket.
A socket number is taken behind it exactly if its text is not one more group of the address. -/
theorem unbracketed_literals (node : Node) (protocol : Protocol) :
    (∀ (spec : String) (name : List Char) (number : Option (List Char)) (address : Net.V6)
        (endpoint : Endpoint), spec.toList.head? ≠ some '[' →
      split? spec.toList = some (name, number) →
      Net.Address.parse? name = some (.v6 address) →
      resolve node protocol (some spec) = .ok endpoint →
      endpoint.host = String.ofList address.text ∧
        ((spec.toList = name ∧ endpoint.socket = protocol.standardSocket) ∨
          ∃ text, spec.toList = name ++ ':' :: text ∧ socket? text = some endpoint.socket ∧
            ¬ Continues name text)) ∧
    ∀ (name text : List Char) (address : Net.V6) (socket : UInt16),
      Net.V6.parse? name = some address → socket? text = some socket →
      (¬ Continues name text →
        resolve node protocol (some (String.ofList (name ++ ':' :: text))) =
          .ok ⟨String.ofList address.text, socket⟩) ∧
      (Continues name text →
        ∃ longer, Net.V6.parse? (name ++ ':' :: text) = some longer ∧
          resolve node protocol (some (String.ofList (name ++ ':' :: text))) =
            .ok ⟨String.ofList longer.text, protocol.standardSocket⟩) := by
  constructor
  · intro spec name number address endpoint bare split literal resolved
    exact bare_literal node protocol spec name number address endpoint bare split literal resolved
  · intro name text address socket literal read
    exact ⟨literal_numbered node protocol name text address socket literal read,
      literal_continued node protocol name text address socket literal read⟩

theorem unbracketed_ten :
    let rtu : Node := ⟨"rtu1", "fd-server", {}, []⟩
    let name := "fd00::10".toList
    let address : Net.V6 := ⟨[0xfd00, 0, 0, 0, 0, 0, 0, 0x10], rfl⟩
    let endpoint : Endpoint := ⟨"fd00::10", 502⟩
    (split? "fd00::10".toList = some (name, none) ∧ Net.Address.parse? name = some (.v6 address) ∧
      resolve rtu .modbus (some "fd00::10") = .ok endpoint ∧
      endpoint.host = String.ofList address.text) ∧
    (socket? "5020".toList = some 5020 ∧ Continues name "5020".toList ∧
      resolve rtu .modbus (some "fd00::10:5020") = .ok ⟨"fd00::10:5020", 502⟩) ∧
    socket? "20000".toList = some 20000 ∧ ¬ Continues name "20000".toList ∧
      resolve rtu .modbus (some "fd00::10:20000") = .ok ⟨"fd00::10", 20000⟩ := by
  intro rtu name address endpoint
  obtain ⟨given, taken⟩ := unbracketed_literals rtu .modbus
  have literal : Net.V6.parse? name = some address := by decide
  have split : split? "fd00::10".toList = some (name, none) := by decide
  have parsed : Net.Address.parse? name = some (.v6 address) := by decide
  have resolved : resolve rtu .modbus (some "fd00::10") = .ok endpoint := by decide
  have short : socket? "5020".toList = some 5020 := by decide
  have long : socket? "20000".toList = some 20000 := by decide
  have continued : Continues name "5020".toList :=
    ⟨⟨"fd00".toList, "10".toList, [0xfd00], [0x10], by decide, by decide, by decide, by decide⟩,
      by decide, by decide⟩
  have ends : ¬ Continues name "20000".toList := fun continued => absurd continued.2.1 (by decide)
  obtain ⟨host, _⟩ := given "fd00::10" name none address endpoint (by decide) split parsed resolved
  obtain ⟨longer, found, whole⟩ := (taken name "5020".toList address 5020 literal short).2 continued
  have same : longer = ⟨[0xfd00, 0, 0, 0, 0, 0, 0x10, 0x5020], rfl⟩ :=
    Option.some.inj (found.symm.trans (by decide))
  subst same
  exact ⟨⟨split, parsed, resolved, host⟩, ⟨short, continued, whole⟩, long, ends,
    (taken name "20000".toList address 20000 literal long).1 ends⟩

theorem unbracketed_numbered :
    let rtu : Node := ⟨"rtu1", "fd-server", {}, []⟩
    let address : Net.V6 := ⟨[0xfd00, 0, 0, 0, 0, 0, 0, 0x10], rfl⟩
    "fd00::10:20000".toList.head? ≠ some '[' ∧
      split? "fd00::10:20000".toList = some ("fd00::10".toList, some "20000".toList) ∧
      Net.Address.parse? "fd00::10".toList = some (.v6 address) ∧
      resolve rtu .modbus (some "fd00::10:20000") = .ok ⟨"fd00::10", 20000⟩ ∧
      "fd00::10:20000".toList ≠ "fd00::10".toList ∧ 20000 ≠ Protocol.modbus.standardSocket := by
  decide

end FieldConfig.Endpoint
