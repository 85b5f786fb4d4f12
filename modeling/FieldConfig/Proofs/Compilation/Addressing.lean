import FieldConfig.Proofs.Compilation.Independence
import FieldConfig.Proofs.Compilation.Polling
import FieldConfig.Proofs.Encoding.Outline
import FieldConfig.Proofs.Encoding.Wires
import FieldConfig.Proofs.Register.Numbers

set_option autoImplicit false

-- Where registers of a document meet on the wire. Only servers give numbers by hand, so what a
-- gateway answers, and what others ask of it, never meets.
namespace FieldConfig

theorem Side.target_named (protocol : Protocol) (target other : String)
    (same : (polling target).sectionName protocol = (polling other).sectionName protocol) :
    target = other :=
  (String.append_right_inj (protocol.name ++ "-")).mp same

theorem gateway_apart (settings : Settings) (topology : Topology) (compilation : Compilation)
    (compiled : compile settings topology = .ok compilation) (gateway : CompiledDevice)
    (member : gateway ∈ compilation.devices) (role : gateway.role = .gateway) :
    (∀ s ∈ gateway.document.sectionsOf .server, s.wires.Nodup) ∧
      ∀ device ∈ compilation.devices, ∀ s ∈ device.document.sectionsOf .client,
        s.name = (Side.polling gateway.hostname).sectionName s.protocol → s.wires.Nodup := by
  obtain ⟨plan, planned, compiles⟩ := bind_ok _ _ compilation compiled
  obtain ⟨built, _⟩ := plan_ok settings topology plan planned
  obtain ⟨owner, listed, result⟩ := plan.device_station compilation compiles gateway member
  have facts := plan.device_compiled_facts owner gateway result
  obtain ⟨node, _, stands⟩ := Network.station_stands _ topology plan.network built owner listed
  have plain : owner.overrides = {} := by
    apply Network.plain_station _ node owner stands
    rw [← facts.role, role]
    decide
  constructor
  · intro s serves
    rw [(plan.compiled_sections owner gateway facts).2] at serves
    obtain ⟨group, _, endpoint, encoded⟩ := Network.serving_encoded plan.resolution owner s serves
    exact Encoding.plain_distinct _ group.1 group.2 s encoded plain
  · intro device among s polls named
    obtain ⟨station, _, result⟩ := plan.device_station compilation compiles device among
    have asks := plan.device_compiled_facts station device result
    rw [(plan.compiled_sections station device asks).1] at polls
    obtain ⟨target, known, group, _, endpoint, encoded⟩ :=
      plan.network.polling_encoded plan.resolution station s polls
    have asked : target.hostname = owner.hostname := by
      refine (Side.target_named s.protocol _ _ ?_).trans facts.hostname
      rw [← named, Encoding.encode_name _ group.1 group.2 s encoded]
    have same := plan.network.stations_agree target owner known listed asked
    exact Encoding.plain_distinct _ group.1 group.2 s encoded (same ▸ plain)

/-- Cut the registers that count together before each one that has a number of its own: two registers
of a section meet on the wire exactly where two of these runs overlap, and outputs only behind inputs
that do. Without numbers, as for all that a gateway answers, no two meet. -/
theorem registers_meet :
    (∀ (encoding : Encoding) (protocol : Protocol) (registers : List Register) (s : Section),
      encoding.encode protocol registers = .ok s →
        encoding.Meets protocol registers s ∧ (encoding.overrides = {} → s.wires.Nodup)) ∧
    ∀ (settings : Settings) (topology : Topology) (compilation : Compilation),
      compile settings topology = .ok compilation →
        ∀ gateway ∈ compilation.devices, gateway.role = .gateway →
          (∀ s ∈ gateway.document.sectionsOf .server, s.wires.Nodup) ∧
            ∀ device ∈ compilation.devices, ∀ s ∈ device.document.sectionsOf .client,
              s.name = (Side.polling gateway.hostname).sectionName s.protocol → s.wires.Nodup := by
  refine ⟨fun encoding protocol registers s encoded => ⟨?_, ?_⟩, gateway_apart⟩
  · exact encoding.encode_meets protocol registers s encoded
  · exact encoding.plain_distinct protocol registers s encoded

def jumpingBack : Encoding where
  node := "rtu1"
  side := .serving
  endpoint := ⟨"10.0.0.1", 502⟩
  overrides := ⟨[⟨"BUS9", "bus", .analogRead, "voltage", .inputRegister, 30000⟩]⟩

def busVoltages : List Register :=
  ["BUS7", "BUS8", "BUS9"].map fun device =>
    { device
      field := "voltage"
      pointClass := .analogRead
      deviceType := "bus"
      protocol := .modbus
      source := "rtu1" }

theorem jump_meets :
    (∃ s, jumpingBack.encode .modbus busVoltages = .ok s ∧
        jumpingBack.runs .modbus busVoltages (.modbus .input) = [⟨30000, [0, 1]⟩, ⟨30000, [2]⟩] ∧
        ¬ s.wires.Nodup) ∧
      ∃ compilation gateway, compile simulated substation = .ok compilation ∧
        gateway ∈ compilation.devices ∧ gateway.role = .gateway ∧
        (gateway.document.sectionsOf .server).length = 1 ∧
        ∀ s ∈ gateway.document.sectionsOf .server, s.wires.Nodup := by
  constructor
  · have runs : jumpingBack.runs .modbus busVoltages (.modbus .input) =
        [⟨30000, [0, 1]⟩, ⟨30000, [2]⟩] := by decide
    refine ⟨_, rfl, runs, fun distinct => ?_⟩
    obtain ⟨meets, _⟩ := registers_meet.1 jumpingBack .modbus busVoltages _ rfl
    have apart := meets.distinct.mp distinct (.modbus .input)
    rw [runs, List.pairwise_pair] at apart
    exact absurd apart (by decide)
  · obtain ⟨compilation, gateway, compiled, member, role, serves⟩ : ∃ compilation gateway,
        compile simulated substation = .ok compilation ∧ gateway ∈ compilation.devices ∧
          gateway.role = .gateway ∧ (gateway.document.sectionsOf .server).length = 1 :=
      ⟨_, _, rfl, List.mem_cons_of_mem _ List.mem_cons_self, rfl, rfl⟩
    exact ⟨compilation, gateway, compiled, member, role, serves,
      (registers_meet.2 simulated substation compilation compiled gateway member role).1⟩

end FieldConfig
