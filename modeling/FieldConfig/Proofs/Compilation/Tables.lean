import FieldConfig.Proofs.Compilation.Addressing
import FieldConfig.Proofs.Compilation.Isolation
import FieldConfig.Proofs.Resolution.Gathering

set_option autoImplicit false

-- Modbus addresses and the ends of their tables. The far end is kept whatever numbers are declared;
-- the near one only if no number lies before it.
namespace FieldConfig

theorem Encoding.modbus_bounded (encoding : Encoding) (registers : List Register) (s : Section)
    (encoded : encoding.encode .modbus registers = .ok s) (entries : List ModbusEntry)
    (body : s.body = .modbus entries) (entry : ModbusEntry) (member : entry ∈ entries) :
    entry.address ≤ entry.table.last ∧
      (entry.table.base ≤ entry.address ∨
        ∃ register ∈ registers, ModbusTable.ofPoint register.pointClass = entry.table ∧
          ∃ number, encoding.overrides.manual register = some number ∧
            number.toNat ≤ entry.address) := by
  have fits := (encoding.encode_wires .modbus registers s encoded).1
  obtain ⟨content, found, rfl⟩ := map_ok _ _ s encoded
  obtain ⟨_, allocated, rfl⟩ := map_ok _ _ content found
  cases body
  obtain ⟨low, same⟩ := Allocation.modbus_dealt _ _ _ registers entries allocated
  rw [← same, List.mem_map] at member
  obtain ⟨⟨register, place⟩, listed, rfl⟩ := member
  refine ⟨low _ listed, ?_⟩
  have here := List.mk_mem_zipIdx_iff_getElem?.mp listed
  obtain ⟨run, known, offset, _, taken⟩ := ((Allocation.wireNumbering .modbus).takes_iff
    encoding.overrides registers fits (.ofPoint .modbus register.pointClass) place _).mp
      ⟨rfl, register, here, rfl⟩
  rw [taken]
  rcases encoding.overrides.run_first _ _ run known with first | ⟨item, among, number, given, first⟩
  · left
    rw [first]
    exact Nat.le_add_right _ _
  · obtain ⟨there, own⟩ := (Allocation.wireNumbering .modbus).mem_placed _ registers item.1 item.2
      |>.mp among
    right
    refine ⟨item.1, List.mem_of_getElem? there, AddressClass.modbus.inj own, number, given, ?_⟩
    rw [first]
    exact Nat.le_add_right _ _

theorem Plan.section_encoded (plan : Plan) (station : Station)
    (member : station ∈ plan.network.stations) (device : CompiledDevice)
    (compiled : plan.Compiled station device) (s : Section)
    (listed : s ∈ device.document.sections) :
    ∃ owner ∈ plan.network.stations, ∃ group ∈ (plan.resolution.exposed owner).groups,
      ∃ encoding : Encoding, encoding.overrides = owner.overrides ∧
        encoding.encode group.1 group.2 = .ok s ∧
        (owner.role = .server → s.Addresses owner.hostname device.role device.hostname) := by
  rw [compiled.sections, Network.sections, Document.written, List.filterMap_append,
    List.mem_append] at listed
  rcases listed with polls | serves
  · obtain ⟨target, known, group, exposed, endpoint, encoded⟩ :=
      plan.network.polling_encoded plan.resolution station s polls
    refine ⟨target, known, group, exposed, _, rfl, encoded, fun _ => .inr ⟨?_, ?_⟩⟩
    · exact (Encoding.encode_facts _ _ _ s encoded).2
    · exact Encoding.encode_name _ _ _ s encoded
  · obtain ⟨group, exposed, endpoint, encoded⟩ :=
      Network.serving_encoded plan.resolution station s serves
    refine ⟨station, member, group, exposed, _, rfl, encoded, fun role => .inl ⟨?_, ?_, ?_⟩⟩
    · exact (Encoding.encode_facts _ _ _ s encoded).2
    · exact compiled.role.trans role
    · exact compiled.hostname

theorem Network.server_protocol (network : Network) (catalog : Catalog) (resolution : Resolution)
    (consistent : network.Consistent catalog resolution) (station : Station)
    (member : station ∈ network.stations)
    (resolved : resolution.progress station.hostname = .resolved) (role : station.role = .server)
    (group : Protocol × List Register) (listed : group ∈ (resolution.exposed station).groups) :
    ∀ register ∈ group.2, register.protocol = group.1 := by
  have means := network.means_device catalog _ _ (consistent.meaning station member resolved)
    station (network.station_member station member)
  cases kind : station.device with
  | server declaration =>
      rw [kind] at means
      rw [Resolution.exposed, kind, Device.exposed, means] at listed
      exact declaration.expansion_protocol catalog group listed
  | gateway polled downstream => simp [Station.role, kind, Device.role] at role
  | client polled => simp [Station.role, kind, Device.role] at role

/-- No Modbus address lies past the end of its table. Where one lies before the start, a server has
declared a number for points of its class: the server that answers it, or the one that is polled. -/
theorem tables_bounded (settings : Settings) (topology : Topology) (compilation : Compilation)
    (compiled : compile settings topology = .ok compilation) (device : CompiledDevice)
    (member : device ∈ compilation.devices) (s : Section) (listed : s ∈ device.document.sections)
    (entries : List ModbusEntry) (body : s.body = .modbus entries) (entry : ModbusEntry)
    (among : entry ∈ entries) :
    entry.address ≤ entry.table.base + 65535 ∧
      (entry.table.base ≤ entry.address ∨
        ∃ node ∈ topology.nodes, node.role? = some .server ∧
          s.Addresses node.hostname device.role device.hostname ∧
          ∃ pointClass manual, node.Declares pointClass manual ∧
            ModbusTable.ofPoint pointClass = entry.table ∧
            manual.kind = .ofPoint .modbus pointClass ∧ manual.number.toNat ≤ entry.address) := by
  obtain ⟨plan, planned, compiles⟩ := bind_ok _ _ compilation compiled
  obtain ⟨built, finished⟩ := plan_ok settings topology plan planned
  obtain ⟨consistent, resolved⟩ := plan.network.all_resolved _ _ finished
  obtain ⟨station, known, result⟩ := plan.device_station compilation compiles device member
  have facts := plan.device_compiled_facts station device result
  obtain ⟨owner, owns, ⟨protocol, registers⟩, exposed, encoding, numbers, encoded, addresses⟩ :=
    plan.section_encoded station known device facts s listed
  have modbus : s.protocol = .modbus := by rw [Section.protocol, body]
  have same : protocol = .modbus := (encoding.encode_facts _ _ s encoded).1.symm.trans modbus
  subst same
  obtain ⟨last, low | ⟨register, held, table, number, given, bound⟩⟩ :=
    encoding.modbus_bounded registers s encoded entries body entry among
  · exact ⟨last, .inl low⟩
  · obtain ⟨numbered, found, rfl, pointClass, kind⟩ :=
      encoding.overrides.manual_given register number given
    obtain ⟨node, declares, stands⟩ :=
      Network.station_stands _ topology plan.network built owner owns
    obtain ⟨role, serves, named, declared⟩ :=
      Network.station_numbers _ node owner stands numbered (numbers ▸ found)
    have own := plan.network.server_protocol settings.catalog plan.resolution consistent owner owns
      (resolved owner owns) serves _ exposed register held
    refine ⟨last, .inr ⟨node, declares, role, named ▸ addresses serves, numbered.pointClass,
      numbered.declared, declared, pointClass ▸ table, ?_, bound⟩⟩
    rw [pointClass, Override.declared, kind, Register.kind, own]

def misnumbered : Topology where
  nodes :=
    [{ hostname := "rtu1"
       nodeType := "fd-server"
       metadata :=
         { modbus := some
             { devices :=
                 [{ name := "BUS7"
                    deviceType := "bus"
                    analogRead := [⟨"voltage", 5, .inputRegister⟩] }] } }
       interfaces := [{ name := "eth0", address := "10.0.0.1" }] }]

theorem misnumbered_declared :
    ∃ compilation device s entry, compile simulated misnumbered = .ok compilation ∧
      device ∈ compilation.devices ∧ s ∈ device.document.sections ∧ s.body = .modbus [entry] ∧
      ∃ node ∈ misnumbered.nodes, s.Addresses node.hostname device.role device.hostname ∧
        ∃ pointClass manual, node.Declares pointClass manual ∧
          ModbusTable.ofPoint pointClass = entry.table ∧ manual.number.toNat ≤ entry.address := by
  obtain ⟨compilation, device, s, entry, compiled, member, listed, body, before⟩ :
      ∃ compilation device s entry, compile simulated misnumbered = .ok compilation ∧
        device ∈ compilation.devices ∧ s ∈ device.document.sections ∧ s.body = .modbus [entry] ∧
        entry.address < entry.table.base :=
    ⟨_, _, _, _, rfl, List.mem_cons_self, List.mem_cons_self, rfl, by decide⟩
  obtain ⟨_, low | ⟨node, known, _, addresses, pointClass, manual, declared, table, _, bound⟩⟩ :=
    tables_bounded simulated misnumbered compilation compiled device member s listed [entry] body
      entry List.mem_cons_self
  · exact absurd low (Nat.not_le_of_lt before)
  · exact ⟨compilation, device, s, entry, compiled, member, listed, body, node, known, addresses,
      pointClass, manual, declared, table, bound⟩

theorem misnumbered_before_table :
    ∃ compilation device s, compile simulated misnumbered = .ok compilation ∧
      device ∈ compilation.devices ∧ s ∈ device.document.sections ∧
      s.body = .modbus [⟨.input, 5, "BUS7.voltage", some (-2)⟩] ∧
      ¬ (ModbusTable.base .input ≤ 5 ∧ 5 ≤ ModbusTable.base .input + 65535) :=
  ⟨_, _, _, rfl, List.mem_cons_self, List.mem_cons_self, rfl, by decide⟩

end FieldConfig
