import FieldConfig.Proofs.Compilation.Manifest
import FieldConfig.Proofs.Compilation.Part
import FieldConfig.Proofs.Encoding.Outline
import FieldConfig.Proofs.Federation.Tags

set_option autoImplicit false

-- The I/O section of a server and the sections that it serves say the same of the same points,
-- though the one gets its tags from qualified names and the other from the names as they are declared.
namespace FieldConfig

def Body.tags : Body → List String
  | .modbus entries => entries.map (·.tag)
  | .dnp3 _ points => points.map (·.tag)

def Section.tags (s : Section) : List String := s.body.tags

theorem Section.unaddressed_tags (s : Section) : s.unaddressed.tags = s.tags := by
  obtain ⟨name, mode, endpoint, body⟩ := s
  cases body <;> simp only [tags, unaddressed, Body.unaddressed, Body.tags, List.map_map] <;> rfl

theorem Encoding.encode_tags (encoding : Encoding) (protocol : Protocol)
    (registers : List Register) (s : Section)
    (encoded : encoding.encode protocol registers = .ok s) (tag : String) :
    tag ∈ s.tags ↔ ∃ signal ∈ s.signals, signal.tag = tag := by
  have signals : s.signals = registers.map Register.signal :=
    congrArg Prod.snd (encoding.encode_content protocol registers s encoded)
  have points (register : Register) :
      tag ∈ (Allocation.dnp3Outline register).map (·.tag) ↔ register.tag = tag := by
    rw [Allocation.dnp3Outline, Allocation.dnp3Points]
    split <;> simp [Dnp3Point.unaddressed, Allocation.dnp3Point, eq_comm]
  rw [← s.unaddressed_tags, encoding.encode_outline protocol registers s encoded, signals]
  simp only [List.mem_map, exists_exists_and_eq_and, Register.signal]
  cases protocol with
  | modbus => simp [Section.tags, outline, Body.tags, Allocation.modbusOutline]
  | dnp3 =>
      simp only [Section.tags, outline, Body.tags, List.map_flatMap, List.mem_flatMap, points]

def FederatePoint.signal (point : FederatePoint) : Signal :=
  ⟨point.tag, .ofPoint point.spec.pointClass, point.spec.pointClass.isWritable⟩

namespace Declaration

def fieldSignal (device : String) (entry : String × FieldSpec) : Signal :=
  ⟨device ++ "." ++ entry.1, .ofPoint entry.2.pointClass, entry.2.pointClass.isWritable⟩

def Signals (declaration : Declaration) (catalog : Catalog) (named : DeviceReference → String)
    (signal : Signal) : Prop :=
  ∃ reference ∈ declaration.allReferences, ∃ fields,
    catalog.fields? declaration.infrastructure reference.deviceType = some fields ∧
      ∃ entry ∈ fields.entries, fieldSignal (named reference) entry = signal

theorem expansion_signals (declaration : Declaration) (catalog : Catalog) (signal : Signal) :
    signal ∈ ((declaration.expansion catalog).flatMap Prod.snd).map Register.signal ↔
      declaration.Signals catalog DeviceReference.tagName signal := by
  have device (protocol : Protocol) (reference : DeviceReference) :
      signal ∈ (declaration.expand catalog protocol reference).map Register.signal ↔
        ∃ fields, catalog.fields? declaration.infrastructure reference.deviceType = some fields ∧
          ∃ entry ∈ fields.entries, fieldSignal reference.tagName entry = signal := by
    rw [expand]
    cases catalog.fields? declaration.infrastructure reference.deviceType with
    | none => simp
    | some fields =>
        simp only [List.map_map, List.mem_map, Option.some.injEq, exists_eq_left']
        rfl
  simp only [expansion, List.flatMap_map, List.map_flatMap, List.mem_flatMap, device, Signals,
    allReferences]
  constructor
  · rintro ⟨group, member, reference, among, expands⟩
    exact ⟨reference, ⟨group, member, among⟩, expands⟩
  · rintro ⟨reference, ⟨group, member, among⟩, expands⟩
    exact ⟨group, member, reference, among, expands⟩

theorem points_signals (declaration : Declaration) (settings : Settings) (catalog : Catalog)
    (devices : List FederateDevice) (found : List FederatePoint)
    (federates : declaration.federateDevices settings = .ok devices)
    (listed : IoSection.points declaration catalog devices = .ok found) (signal : Signal) :
    signal ∈ found.map FederatePoint.signal ↔
      declaration.Signals catalog (fun reference =>
        (FederateDevice.ofReference settings reference).tagName) signal := by
  rw [List.mem_map]
  simp only [IoSection.points_mem declaration catalog devices found listed,
    declaration.federates_mem settings devices federates]
  constructor
  · rintro ⟨_, ⟨_, ⟨reference, member, rfl⟩, fields, known, entry, among, rfl⟩, rfl⟩
    exact ⟨reference, member, fields, known, entry, among, rfl⟩
  · rintro ⟨reference, member, fields, known, entry, among, rfl⟩
    exact ⟨_, ⟨_, ⟨reference, member, rfl⟩, fields, known, entry, among, rfl⟩, rfl⟩

theorem signals_congr (declaration : Declaration) (catalog : Catalog)
    (named other : DeviceReference → String)
    (same : ∀ reference ∈ declaration.allReferences, named reference = other reference)
    (signal : Signal) :
    declaration.Signals catalog named signal ↔ declaration.Signals catalog other signal :=
  exists_congr fun reference => and_congr_right fun member => by rw [same reference member]

end Declaration

namespace Network

theorem served_signals (network : Network) (catalog : Catalog) (resolution : Resolution)
    (consistent : network.Consistent catalog resolution) (station : Station)
    (member : station ∈ network.stations)
    (resolved : resolution.progress station.hostname = .resolved) (declaration : Declaration)
    (kind : station.device = .server declaration)
    (encoded : ∀ result ∈ servingSections resolution station, ∃ s, result = .ok s)
    (signal : Signal) :
    signal ∈ (Document.written (servingSections resolution station)).flatMap Section.signals ↔
      declaration.Signals catalog DeviceReference.tagName signal := by
  have means := network.means_device catalog _ _ (consistent.meaning station member resolved)
    station (network.station_member station member)
  rw [serving_exposed] at encoded ⊢
  have content := written_content (servingSection station) _ (serving_content station) encoded
  have signals : (Document.written ((resolution.exposed station).groups.map
      (servingSection station))).flatMap Section.signals =
        (resolution.exposed station).flatten.map Register.signal := by
    have flat := congrArg (List.flatMap Prod.snd) content
    rwa [List.flatMap_map, List.flatMap_map, ← List.map_flatMap] at flat
  have perm := RegisterSet.flatten_perm (declaration.expansion catalog)
  simp only [kind] at means
  rw [signals, Resolution.exposed, kind, Device.exposed, means,
    (perm.map Register.signal).mem_iff, declaration.expansion_signals]

theorem serving_tags (resolution : Resolution) (station : Station) (s : Section)
    (member : s ∈ Document.written (servingSections resolution station)) (tag : String) :
    tag ∈ s.tags ↔ ∃ signal ∈ s.signals, signal.tag = tag := by
  obtain ⟨_, _, _, encoded⟩ := serving_encoded resolution station s member
  exact Encoding.encode_tags _ _ _ s encoded tag

end Network

-- Whether the I/O section of a document has the tags of its served sections, and each where its
-- points belong.
structure Document.Bound (document : Document) (io : IoSection) : Prop where
  tags : ∀ tag, (∃ s ∈ document.sectionsOf .server, tag ∈ s.tags) ↔ tag ∈ io.tags
  points : ∀ s ∈ document.sectionsOf .server, ∀ signal ∈ s.signals,
    io.Binds signal.tag signal.writable

theorem Document.bound_points (document : Document) (node : Node) (brokerEndpoint : String)
    (points : List FederatePoint)
    (tags : ∀ s ∈ document.sectionsOf .server, ∀ tag,
      tag ∈ s.tags ↔ ∃ signal ∈ s.signals, signal.tag = tag)
    (same : ∀ signal, signal ∈ (document.sectionsOf .server).flatMap Section.signals ↔
      signal ∈ points.map FederatePoint.signal) :
    document.Bound (IoSection.ofPoints node brokerEndpoint points) := by
  constructor
  · intro tag
    rw [IoSection.points_tags]
    constructor
    · rintro ⟨s, member, listed⟩
      obtain ⟨signal, exposed, rfl⟩ := (tags s member tag).mp listed
      obtain ⟨point, among, rfl⟩ :=
        List.mem_map.mp ((same signal).mp (List.mem_flatMap.mpr ⟨s, member, exposed⟩))
      exact ⟨point, among, rfl⟩
    · rintro ⟨point, among, rfl⟩
      obtain ⟨s, member, exposed⟩ :=
        List.mem_flatMap.mp ((same point.signal).mpr (List.mem_map_of_mem among))
      exact ⟨s, member, (tags s member _).mpr ⟨point.signal, exposed, rfl⟩⟩
  · intro s member signal exposed
    obtain ⟨point, among, rfl⟩ :=
      List.mem_map.mp ((same signal).mp (List.mem_flatMap.mpr ⟨s, member, exposed⟩))
    exact IoSection.points_bound node brokerEndpoint points point among

/-- The I/O section of a server binds exactly the tags of the sections that it serves: it subscribes
to a point that is only read, and lists one that can be set under a message endpoint or publishes it.
A bare device name must not come to stand behind a default federate with a slash in it. -/
theorem tags_bound (settings : Settings) (topology : Topology) (compilation : Compilation)
    (compiled : compile settings topology = .ok compilation) (node : Node)
    (member : node ∈ topology.nodes) (server : node.role? = some .server)
    (plain : '/' ∉ settings.defaultFederate.toList ∨
      ∀ entry ∈ node.entries, ∀ name ∈ entry.name, '/' ∈ name.toList) :
    ∃ device, compilation.device? node.hostname = some device ∧
      ∀ io, device.document.io = some io → device.document.Bound io := by
  obtain ⟨plan, planned, compiles⟩ := bind_ok _ _ compilation compiled
  obtain ⟨station, among, device, made, result, listed⟩ :=
    compiled_node settings topology plan planned compilation compiles node .server member server
  obtain ⟨network, resolution, _, finished, rfl⟩ := (plan_iff settings topology plan).mp planned
  obtain ⟨consistent, resolved⟩ := network.all_resolved _ _ finished
  refine ⟨device, listed, fun io present => ?_⟩
  have same := Plan.device_compiled_facts _ station device result
  have servers := (Plan.compiled_sections _ station device same).2
  have bound := Plan.device_io _ station device result
  obtain ⟨declaration, declares, own⟩ := bind_ok _ _ station made
  have kind : station.device = .server declaration := by
    cases own
    rfl
  rw [present, Plan.ioSection, kind] at bound
  obtain ⟨devices, brokerEndpoint, found, federates, points, rfl⟩ :=
    IoSection.of_server_points _ _ _ _ _ declaration io bound
  -- A name that the node lists is the full name of a device that it declares.
  have names := Declaration.entries_names node settings.infrastructure declaration declares
  have agree (reference : DeviceReference) (known : reference ∈ declaration.allReferences) :
      (FederateDevice.ofReference settings reference).tagName = reference.tagName := by
    refine without_qualified _ _ (plain.imp_right fun qualified => ?_)
    have entered : some reference.fullName ∈ node.entries.map (·.name) :=
      names ▸ List.mem_map_of_mem known
    obtain ⟨entry, inside, named⟩ := List.mem_map.mp entered
    exact qualified entry inside _ named
  refine device.document.bound_points _ _ found (fun s serves tag => ?_) fun signal => ?_
  · exact Network.serving_tags resolution station s (servers ▸ serves) tag
  · rw [servers, network.served_signals settings.catalog resolution consistent station among
      (resolved station among) declaration kind fun part listed =>
        same.encoded part (List.mem_append_right _ listed),
      declaration.points_signals settings settings.catalog devices found federates points,
      declaration.signals_congr settings.catalog _ _ agree]

def pole : Topology where
  nodes :=
    [{ hostname := "rtu1"
       nodeType := "fd-server"
       metadata :=
         { dnp3 := some { devices := [{ name := "grid/CAP3", deviceType := "capacitor" }] }
           modbus := some { devices := [{ name := "BUS7", deviceType := "bus" }] } }
       interfaces := [{ name := "eth0", address := "10.0.0.1" }] }]

theorem pole_bound :
    ∃ compilation device io, compile simulated pole = .ok compilation ∧
      compilation.device? "rtu1" = some device ∧ device.document.io = some io ∧
      (∃ s ∈ device.document.sectionsOf .server, "CAP3.setpt" ∈ s.tags) ∧
      device.document.Bound io := by
  obtain ⟨compilation, device, io, compiled, named, present, tagged⟩ :
      ∃ compilation device io, compile simulated pole = .ok compilation ∧
        compilation.device? "rtu1" = some device ∧ device.document.io = some io ∧
        ∃ s ∈ device.document.sectionsOf .server, "CAP3.setpt" ∈ s.tags :=
    ⟨_, _, _, rfl, rfl, rfl, by decide⟩
  obtain ⟨other, listed, bound⟩ := tags_bound simulated pole compilation compiled pole.nodes[0]
    (List.getElem_mem _) rfl (.inl (by decide))
  have same : compilation.device? "rtu1" = some other := listed
  rw [named, Option.some.injEq] at same
  exact ⟨compilation, device, io, compiled, named, present, tagged,
    same ▸ bound io (same ▸ present)⟩

def nested : Settings where
  helics :=
    { broker := some { address := "127.0.0.1" }
      federate := some { name := "grid/feeder" } }

theorem nested_federate_tagged :
    nested.check = .ok nested ∧ ∃ compilation device io, compile nested pole = .ok compilation ∧
      compilation.device? "rtu1" = some device ∧ device.document.io = some io ∧
      (∃ s ∈ device.document.sectionsOf .server, "BUS7.voltage" ∈ s.tags) ∧
      "BUS7.voltage" ∉ io.tags ∧ "feeder.voltage" ∈ io.tags :=
  ⟨rfl, _, _, _, rfl, rfl, rfl, by decide, by decide, by decide⟩

end FieldConfig
