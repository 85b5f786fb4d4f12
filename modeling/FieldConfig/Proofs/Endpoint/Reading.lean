import FieldConfig.Endpoint
import FieldConfig.Proofs.Net.Address

set_option autoImplicit false

namespace FieldConfig.Endpoint

theorem socket_digits (digits : List Char) (written : digits ≠ [])
    (decimal : ∀ c ∈ digits, c.isDigit = true) (bound : Nat.ofDigitChars 10 digits 0 < 65536) :
    socket? digits = some (UInt16.ofNat (Nat.ofDigitChars 10 digits 0)) := by
  rw [socket?, if_pos ⟨written, List.all_eq_true.mpr decimal, bound⟩]
  rintro rest rfl
  exact absurd (decimal '+' List.mem_cons_self) (by decide)

theorem socket_read (socket : UInt16) : socket? (Nat.toDigits 10 socket.toNat) = some socket := by
  have bound : socket.toNat < 65536 := socket.toNat_lt
  rw [socket_digits _ Nat.toDigits_ne_nil (Text.decimal_digits socket.toNat)
    (by rwa [Nat.ofDigitChars_ten_toDigits]), Nat.ofDigitChars_ten_toDigits, UInt16.ofNat_toNat]

theorem split_bracketed (host socket : List Char) (closed : ']' ∉ host) :
    split? ('[' :: (host ++ ']' :: ':' :: socket)) = some (host, some socket) := by
  simp only [split?, Text.cut_first ']' host _ closed]

theorem split_numbered (host socket : List Char) (open_ : (host ++ ':' :: socket).head? ≠ some '[')
    (other : Net.Address.parse? (host ++ ':' :: socket) = none) (plain : ':' ∉ socket) :
    split? (host ++ ':' :: socket) = some (host, some socket) := by
  rw [split?]
  · simp [other, Text.cut_last ':' host socket plain]
  · intro rest same
    simp [same] at open_

theorem resolve_literal (node : Node) (protocol : Protocol) (spec : String) (name : List Char)
    (number : Option (List Char)) (address : Net.Address)
    (split : split? spec.toList = some (name, number))
    (literal : Net.Address.parse? name = some address) :
    resolve node protocol (some spec) =
      match number with
      | none => .ok ⟨String.ofList address.text, protocol.standardSocket⟩
      | some text =>
        match socket? text with
        | none => .error (.invalidSocket node.hostname protocol (String.ofList text))
        | some socket => .ok ⟨String.ofList address.text, socket⟩ := by
  have host : hostAddress node name = .ok (String.ofList address.text) := by
    rw [hostAddress, literal]
  cases number with
  | none => simp [resolve, split, host, Except.map]
  | some text => cases read : socket? text <;> simp [resolve, split, host, read, Except.map]

theorem text_v4 (address : Net.V4) (socket : UInt16) :
    (text ⟨String.ofList address.text, socket⟩).toList =
      address.text ++ ':' :: Nat.toDigits 10 socket.toNat := by
  have other : Net.V6.parse? address.text = none := by
    cases found : Net.V6.parse? address.text with
    | none => rfl
    | some inner => exact absurd (Net.V6.parse_colon _ inner found) address.text_plain
  simp [text, other]

theorem text_v6 (address : Net.V6) (socket : UInt16) :
    (text ⟨String.ofList address.text, socket⟩).toList =
      '[' :: (address.text ++ ']' :: ':' :: Nat.toDigits 10 socket.toNat) := by
  simp [text, address.parse_text]

-- Two pieces are too few for an IPv6 address.
theorem unread_v4 (address : Net.V4) (socket : List Char) (plain : ':' ∉ socket) :
    Net.Address.parse? (address.text ++ ':' :: socket) = none := by
  have pieces := Text.pieces_first ':' address.text socket address.text_plain
  rw [Text.pieces_whole ':' socket plain] at pieces
  have own : Net.Pieces [address.text] :=
    List.forall_mem_singleton.mpr ⟨address.text_written, address.text_plain⟩
  have uncut : Net.cutGap? (address.text ++ ':' :: socket) = none :=
    Net.cut_gap_none [address.text] own socket plain
  have unread : Net.V6.parse? (address.text ++ ':' :: socket) = none := by
    rw [Net.V6.parse?, uncut]
    simp [pieces, Net.groups?, address.text_ungrouped]
  rw [Net.Address.v6_unless _ (List.mem_append_right _ List.mem_cons_self), unread, Option.map_none]

theorem resolve_text (node : Node) (protocol : Protocol) (address : Net.Address) (socket : UInt16) :
    resolve node protocol (some (text ⟨String.ofList address.text, socket⟩)) =
      .ok ⟨String.ofList address.text, socket⟩ := by
  have plain := Text.decimal_without ':' (by decide) socket.toNat
  have split : split? (text ⟨String.ofList address.text, socket⟩).toList =
      some (address.text, some (Nat.toDigits 10 socket.toNat)) := by
    cases address with
    | v4 address =>
        rw [Net.Address.text, text_v4]
        refine split_numbered _ _ ?_ (unread_v4 address _ plain) plain
        obtain ⟨first, rest, same⟩ := List.exists_cons_of_ne_nil address.text_written
        rw [same, List.cons_append, List.head?_cons]
        rintro ⟨⟩
        exact Net.V4.dotted_without '[' (by decide) (by decide) address.text address.text_chars
          (same ▸ List.mem_cons_self)
    | v6 address =>
        rw [Net.Address.text, text_v6]
        refine split_bracketed _ _ fun bracket => ?_
        have allowed := Net.V6.parse_chars _ address address.parse_text ']' bracket
        exact absurd allowed (by decide)
  rw [resolve_literal node protocol _ _ _ address split address.parse_text]
  simp only [socket_read]

/-- An endpoint that was given by an IP address is read back from its text, wherever it is read. -/
theorem text_reads_back (node other : Node) (protocol later : Protocol) (spec : String)
    (name : List Char) (number : Option (List Char)) (address : Net.Address) (endpoint : Endpoint)
    (split : split? spec.toList = some (name, number))
    (literal : Net.Address.parse? name = some address)
    (resolved : resolve node protocol (some spec) = .ok endpoint) :
    endpoint.host = String.ofList address.text ∧
      resolve other later (some endpoint.text) = .ok endpoint := by
  obtain ⟨socket, rfl⟩ : ∃ socket, endpoint = ⟨String.ofList address.text, socket⟩ := by
    rw [resolve_literal node protocol spec name number address split literal] at resolved
    cases number with
    | none =>
        cases resolved
        exact ⟨_, rfl⟩
    | some text =>
        cases read : socket? text with
        | none => simp [read] at resolved
        | some socket =>
            simp only [read] at resolved
            cases resolved
            exact ⟨_, rfl⟩
  exact ⟨rfl, resolve_text other later address socket⟩

theorem bracketed_reads_back :
    let rtu : Node := ⟨"rtu1", "fd-server", {}, [⟨"eth0", some "10.0.0.10", none, none⟩]⟩
    let hmi : Node := ⟨"hmi", "fd-client", {},
      [⟨"[fd00", some "10.0.0.1", none, none⟩, ⟨"fd00::10", some "10.0.0.2", none, none⟩]⟩
    split? "[FD00:0::10]:5020".toList = some ("FD00:0::10".toList, some "5020".toList) ∧
      Net.Address.parse? "FD00:0::10".toList = some (.v6 ⟨[0xfd00, 0, 0, 0, 0, 0, 0, 0x10], rfl⟩) ∧
      resolve rtu .modbus (some "[FD00:0::10]:5020") = .ok ⟨"fd00::10", 5020⟩ ∧
      resolve hmi .dnp3 (some "[fd00::10]:5020") = .ok ⟨"fd00::10", 5020⟩ := by
  intro rtu hmi
  have split : split? "[FD00:0::10]:5020".toList = some ("FD00:0::10".toList, some "5020".toList) := by
    decide
  have literal : Net.Address.parse? "FD00:0::10".toList =
      some (.v6 ⟨[0xfd00, 0, 0, 0, 0, 0, 0, 0x10], rfl⟩) := by decide
  have resolved : resolve rtu .modbus (some "[FD00:0::10]:5020") = .ok ⟨"fd00::10", 5020⟩ := by decide
  exact ⟨split, literal, resolved,
    (text_reads_back rtu hmi .modbus .dnp3 _ _ _ _ _ split literal resolved).2⟩

end FieldConfig.Endpoint
