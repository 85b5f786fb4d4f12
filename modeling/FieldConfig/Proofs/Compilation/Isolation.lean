import FieldConfig.Proofs.Compilation.Polling
import FieldConfig.Proofs.Encoding.Outline
import FieldConfig.Proofs.Network.Unnumbered

set_option autoImplicit false

-- Manual numbers stay with the server that declares them. Two topologies that differ in the numbers
-- of one server compile to documents that differ in addresses of that server alone: in the sections
-- that it serves and in those under which others poll it.
namespace FieldConfig

def Section.Addresses (server : String) (role : Role) (hostname : String) (s : Section) : Prop :=
  (s.mode = .server ∧ role = .server ∧ hostname = server) ∨
    (s.mode = .client ∧ s.name = (Side.polling server).sectionName s.protocol)

-- The same section, or one of the server that differs in addresses.
def Section.Alike (server : String) (role : Role) (hostname : String) (first second : Section) :
    Prop :=
  first = second ∨
    first.Addresses server role hostname ∧ first.unaddressed = second.unaddressed

theorem Section.alike_protocol (server : String) (role : Role) (hostname : String)
    (first second : Section) (alike : first.Alike server role hostname second) :
    first.protocol = second.protocol := by
  rcases alike with same | ⟨_, same⟩
  · rw [same]
  · rw [← first.unaddressed_protocol, same, second.unaddressed_protocol]

structure CompiledDevice.Alike (server : String) (first second : CompiledDevice) : Prop where
  hostname : first.hostname = second.hostname
  role : first.role = second.role
  certificates : first.certificates = second.certificates
  document : { first.document with sections := second.document.sections } = second.document
  sections : List.Forall₂ (Section.Alike server first.role first.hostname)
    first.document.sections second.document.sections

theorem CompiledDevice.alike_injects (server : String) (first second : CompiledDevice)
    (alike : first.Alike server second) (directory : String) (format : Format) :
    first.injects directory format = second.injects directory format := by
  simp only [injects, fileName, alike.hostname, alike.certificates]

theorem Compilation.alike_injects (server : String) (one other : Compilation)
    (alike : List.Forall₂ (CompiledDevice.Alike server) one.devices other.devices)
    (directory : String) (format : Format) :
    one.injects directory format = other.injects directory format := by
  rw [injects, injects]
  generalize one.devices = devices at alike
  generalize other.devices = others at alike
  induction alike with
  | nil => rfl
  | cons same _ ih =>
      rw [List.flatMap_cons, List.flatMap_cons, CompiledDevice.alike_injects server _ _ same, ih]

namespace Station

variable (server : String) (first second : Station)
variable (alike : first.withoutNumbers server = second.withoutNumbers server)

include alike

theorem alike_reads {α : Type} (read : Station → α)
    (blind : ∀ station : Station, read station.unnumbered = read station) :
    read first = read second := by
  rw [← read_without read blind server first, alike, read_without read blind server second]

theorem alike_hostname : first.hostname = second.hostname :=
  alike_reads server first second alike hostname fun _ => rfl

theorem alike_endpoint (protocol : Protocol) :
    Endpoint.ofNode first.node protocol = Endpoint.ofNode second.node protocol :=
  alike_reads server first second alike (fun station => Endpoint.ofNode station.node protocol)
    fun station => Endpoint.of_unnumbered protocol station.node

theorem alike_exposed (resolution : Resolution) :
    resolution.exposed first = resolution.exposed second :=
  alike_reads server first second alike resolution.exposed
    fun station => station.device.exposed_unnumbered _

theorem alike_overrides (other : ¬ (first.role = .server ∧ first.hostname = server)) :
    first.overrides = second.overrides := by
  have named := alike_hostname server first second alike
  by_cases here : first.hostname = server
  · have kept (station : Station) (plain : station.role ≠ .server) :
        station.unnumbered.overrides = station.overrides := by
      obtain ⟨node, device, overrides⟩ := station
      cases device with
      | server declaration => exact absurd rfl plain
      | gateway polled downstream => rfl
      | client polled => rfl
    have plain : first.role ≠ .server := fun role => other ⟨role, here⟩
    have roles := alike_reads server first second alike role fun station =>
      station.device.role_unnumbered
    rw [withoutNumbers, withoutNumbers, if_pos here, if_pos (named ▸ here)] at alike
    rw [← kept first plain, alike, kept second (roles ▸ plain)]
  · rw [withoutNumbers, withoutNumbers, if_neg here, if_neg (named ▸ here)] at alike
    rw [alike]

theorem alike_encodings (node : String) (side : Side) (endpoint : Endpoint) (protocol : Protocol)
    (registers : List Register) (a b : Section)
    (encoded : Encoding.encode ⟨node, side, endpoint, first.overrides⟩ protocol registers = .ok a)
    (again : Encoding.encode ⟨node, side, endpoint, second.overrides⟩ protocol registers = .ok b) :
    a = b ∨ (first.role = .server ∧ first.hostname = server) ∧ a.unaddressed = b.unaddressed := by
  by_cases own : first.role = .server ∧ first.hostname = server
  · exact .inr ⟨own, Encoding.encoded_alike _ _ _ _ _ _ _ _ _ _ encoded again⟩
  · rw [alike_overrides server first second alike own, again, Except.ok.injEq] at encoded
    exact .inl encoded.symm

end Station

namespace Network

def Alike (server : String) (station : Station) (first second : Except CompileError Section) :
    Prop :=
  ∀ a b, first = .ok a → second = .ok b → a.Alike server station.role station.hostname b

section

variable (server : String) (first second : Station)
variable (alike : first.withoutNumbers server = second.withoutNumbers server)

include alike

theorem serving_alike (group : Protocol × List Register) :
    Alike server first (servingSection first group) (servingSection second group) := by
  intro a b encoded again
  obtain ⟨endpoint, reached, encoded⟩ := bind_ok _ _ a encoded
  obtain ⟨other, met, again⟩ := bind_ok _ _ b again
  rw [← first.alike_endpoint server second alike, reached, Except.ok.injEq] at met
  rw [← first.alike_hostname server second alike, ← met] at again
  rcases first.alike_encodings server second alike _ _ _ _ _ a b encoded again with
    same | ⟨⟨role, named⟩, same⟩
  · exact .inl same
  · exact .inr ⟨.inl ⟨(Encoding.encode_facts _ _ _ a encoded).2, role, named⟩, same⟩

theorem polling_alike (target other : Station)
    (targets : target.withoutNumbers server = other.withoutNumbers server)
    (group : Protocol × List Register) :
    Alike server first (pollingSection first target target.hostname group)
      (pollingSection second other target.hostname group) := by
  intro a b encoded again
  obtain ⟨endpoint, reached, encoded⟩ := bind_ok _ _ a encoded
  obtain ⟨elsewhere, met, again⟩ := bind_ok _ _ b again
  rw [← target.alike_endpoint server other targets, reached, Except.ok.injEq] at met
  rw [← first.alike_hostname server second alike, ← met] at again
  rcases target.alike_encodings server other targets _ _ _ _ _ a b encoded again with
    same | ⟨⟨_, named⟩, same⟩
  · exact .inl same
  · have name := Encoding.encode_name _ _ _ a encoded
    rw [named] at name
    exact .inr ⟨.inr ⟨(Encoding.encode_facts _ _ _ a encoded).2, name⟩, same⟩

theorem asked_alike (a b : Network)
    (networks : a.withoutNumbers server = b.withoutNumbers server) (resolution : Resolution)
    (name : String) :
    List.Forall₂ (Alike server first) (a.sectionsFor resolution first name)
      (b.sectionsFor resolution second name) := by
  have found : (a.station? name).map (Station.withoutNumbers server) =
      (b.station? name).map (Station.withoutNumbers server) := by
    rw [← station_without, networks, station_without]
  rw [sectionsFor, sectionsFor]
  cases here : a.station? name with
  | none =>
      rw [here, Option.map_none, eq_comm, Option.map_eq_none_iff] at found
      rw [found]
      exact .cons (fun _ _ refused => by cases refused) .nil
  | some target =>
      rw [here, Option.map_some, eq_comm, Option.map_eq_some_iff] at found
      obtain ⟨other, there, same⟩ := found
      obtain ⟨_, rfl⟩ := a.station_found name target here
      simp only [there, target.alike_exposed server other same.symm, List.forall₂_map_left_iff,
        List.forall₂_map_right_iff]
      exact List.forall₂_same.mpr fun group _ =>
        polling_alike server first second alike target other same.symm group

theorem sections_alike (a b : Network)
    (networks : a.withoutNumbers server = b.withoutNumbers server) (resolution : Resolution) :
    List.Forall₂ (Alike server first) (a.sections resolution first)
      (b.sections resolution second) := by
  refine List.rel_append ?_ ?_
  · have polled := first.alike_reads server second alike (·.device.polled)
      fun station => station.device.polled_unnumbered
    rw [pollingSections, pollingSections, ← polled]
    refine List.rel_flatMap (List.forall₂_same.mpr fun name _ => rfl) fun name other same => ?_
    exact same ▸ asked_alike server first second alike a b networks resolution name
  · rw [serving_exposed, serving_exposed, first.alike_exposed server second alike,
      List.forall₂_map_left_iff, List.forall₂_map_right_iff]
    exact List.forall₂_same.mpr fun group _ => serving_alike server first second alike group

end

theorem written_alike (server : String) (station : Station)
    (first second : List (Except CompileError Section))
    (alike : List.Forall₂ (Alike server station) first second)
    (encoded : ∀ result ∈ first, ∃ s, result = .ok s)
    (again : ∀ result ∈ second, ∃ s, result = .ok s) :
    List.Forall₂ (Section.Alike server station.role station.hostname) (Document.written first)
      (Document.written second) := by
  induction alike with
  | nil => exact .nil
  | cons same _ ih =>
      obtain ⟨⟨a, rfl⟩, laterA⟩ := List.forall_mem_cons.mp encoded
      obtain ⟨⟨b, rfl⟩, laterB⟩ := List.forall_mem_cons.mp again
      exact .cons (same a b rfl rfl) (ih laterA laterB)

end Network

theorem Document.start_alike (document : Document) (first second : List Section)
    (protocols : first.map Section.protocol = second.map Section.protocol)
    (order : List Protocol) :
    { ({ document with sections := first } : Document).startProtocols order with
      sections := second } =
      ({ document with sections := second } : Document).startProtocols order := by
  have asked (sections : List Section) (protocol : Protocol) :
      sections.any (·.protocol = protocol) = (sections.map Section.protocol).any (· = protocol) := by
    rw [List.any_map]
    rfl
  rw [startProtocols, startProtocols]
  simp only [asked, protocols]
  generalize order.filter _ = started
  induction started generalizing document with
  | nil => rfl
  | cons protocol rest ih => exact ih (document.start (.ofProtocol protocol))

theorem BrokerSettings.address_without (broker : BrokerSettings) (topology : Topology)
    (server requester : String) :
    broker.address? (topology.withoutNumbers server) requester =
      broker.address? topology requester := by
  rw [address?, address?]
  cases broker.hostname with
  | none => cases broker.address <;> rfl
  | some spec =>
      simp only [Topology.node_without]
      cases topology.node? (place spec).1 with
      | none => rfl
      | some node =>
          simp only [Option.map_some, Node.first_address_without, Node.interface_address_without]

theorem BrokerRegistry.resolve_without (registry : BrokerRegistry) (topology : Topology)
    (broker : BrokerSettings) (server requester : String) :
    registry.resolve (topology.withoutNumbers server) broker requester =
      registry.resolve topology broker requester := by
  simp only [resolve, broker.address_without topology server requester]

namespace Plan

def withoutNumbers (plan : Plan) (server : String) : Plan :=
  { plan with
    topology := plan.topology.withoutNumbers server
    network := plan.network.withoutNumbers server }

theorem io_without (plan : Plan) (server : String) (registry : BrokerRegistry)
    (station : Station) :
    (plan.withoutNumbers server).ioSection registry (station.withoutNumbers server) =
      plan.ioSection registry station := by
  have blind (station : Station) :
      (plan.withoutNumbers server).ioSection registry station.unnumbered =
        (plan.withoutNumbers server).ioSection registry station := by
    obtain ⟨node, device, overrides⟩ := station
    cases device with
    | server declaration =>
        simp only [ioSection, Station.unnumbered, Device.unnumbered, IoSection.ofServer,
          declaration.federates_unnumbered, IoSection.points_unnumbered]
        rfl
    | gateway polled downstream => rfl
    | client polled => rfl
  rw [Station.read_without _ blind server station]
  cases kind : station.device with
  | server declaration =>
      simp only [ioSection, kind, withoutNumbers, IoSection.ofServer,
        BrokerRegistry.resolve_without]
  | gateway polled downstream => simp only [ioSection, kind]
  | client polled => simp only [ioSection, kind]

theorem finished_sections (document : Document) (sections : List Section)
    (order : List Protocol) (io : Option IoSection) (node : Node) :
    (finish ({ document with sections }.startProtocols order) io node).sections = sections := by
  rw [finish_sections, Document.startProtocols, Document.start_each_sections]

theorem finished_alike (document : Document) (first second : List Section)
    (protocols : first.map Section.protocol = second.map Section.protocol)
    (order : List Protocol) (io : Option IoSection) (node : Node) :
    { finish (({ document with sections := first } : Document).startProtocols order) io node with
      sections := second } =
      finish (({ document with sections := second } : Document).startProtocols order) io node := by
  rw [← document.start_alike first second protocols order]
  simp only [finish]
  cases io <;> split <;> rfl

section

variable (server : String) (a b : Plan)
variable (plans : a.withoutNumbers server = b.withoutNumbers server)
variable (resolved : a.resolution = b.resolution)

include plans resolved

theorem station_alike (registry after later : BrokerRegistry) (first second : Station)
    (alike : first.withoutNumbers server = second.withoutNumbers server)
    (one other : CompiledDevice) (compiled : a.compileStation registry first = (after, .ok one))
    (again : b.compileStation registry second = (later, .ok other)) :
    after = later ∧ one.Alike server other := by
  have settings : a.settings = b.settings := (congrArg Plan.settings plans :)
  have reads {α : Type} (read : Node → α) (blind : ∀ node, read node.unnumbered = read node) :
      read first.node = read second.node :=
    first.alike_reads server second alike (read ·.node) fun station => blind station.node
  have blank : a.blankDocument first.node = b.blankDocument second.node := by
    rw [reads a.blankDocument fun _ => rfl]
    simp only [blankDocument, settings]
  have order := first.alike_reads server second alike (·.device.moduleOrder)
    fun station => station.device.order_unnumbered
  obtain ⟨encoded, io, bound, rfl⟩ := a.station_built registry after first one compiled
  obtain ⟨encodedAgain, ioAgain, boundAgain, rfl⟩ :=
    b.station_built registry later second other again
  rw [← a.io_without server, plans, alike, b.io_without server, boundAgain] at bound
  obtain ⟨rfl, rfl⟩ := by simpa only [Prod.mk.injEq, Except.ok.injEq] using bound
  have sections := Network.written_alike server first _ _
    (Network.sections_alike server first second alike a.network b.network
      (congrArg Plan.network plans) a.resolution) encoded (resolved ▸ encodedAgain)
  rw [← resolved, blank, order]
  refine ⟨rfl, first.alike_hostname server second alike, ?_, ?_, ?_, ?_⟩
  · exact first.alike_reads server second alike Station.role
      fun station => station.device.role_unnumbered
  · simp only [settings, reads (·.metadata.cpu) fun _ => rfl]
  · have protocols := List.rel_map (fun _ _ same => Section.alike_protocol server _ _ _ _ same)
      sections
    rw [List.forall₂_eq_eq_eq] at protocols
    simp only [finished_sections, finished_alike _ _ _ protocols]
    simp only [finish, reads (·.metadata.logic) fun _ => rfl]
  · simp only [finished_sections]
    exact sections

theorem stations_alike (registry : BrokerRegistry) (first second : List Station)
    (alike : first.map (Station.withoutNumbers server) =
      second.map (Station.withoutNumbers server)) (one other : Compilation)
    (compiled : a.compileStations registry first = .ok one)
    (again : b.compileStations registry second = .ok other) :
    List.Forall₂ (CompiledDevice.Alike server) one.devices other.devices ∧
      one.brokers = other.brokers := by
  induction first generalizing registry second one other with
  | nil =>
      rw [List.map_nil, eq_comm, List.map_eq_nil_iff] at alike
      subst alike
      cases compiled
      cases again
      exact ⟨.nil, rfl⟩
  | cons station rest ih =>
      cases second with
      | nil => simp at alike
      | cons peer others =>
          simp only [List.map_cons, List.cons.injEq] at alike
          rw [compileStations] at compiled again
          rcases here : a.compileStation registry station with ⟨after, fault | device⟩
          · simp [here] at compiled
          · rcases there : b.compileStation registry peer with ⟨later, fault | twin⟩
            · simp [there] at again
            · simp only [here] at compiled
              simp only [there] at again
              obtain ⟨devices, left, rfl⟩ := map_ok _ _ one compiled
              obtain ⟨twins, right, rfl⟩ := map_ok _ _ other again
              obtain ⟨rfl, same⟩ := station_alike server a b plans resolved registry after later
                station peer alike.1 device twin here there
              obtain ⟨each, hosts⟩ := ih after others alike.2 devices twins left right
              exact ⟨.cons same each, hosts⟩

end

end Plan

theorem plans_alike (settings : Settings) (server : String) (first second : Topology)
    (alike : first.withoutNumbers server = second.withoutNumbers server) (a b : Plan)
    (planned : settings.plan first = .ok a) (again : settings.plan second = .ok b) :
    a.withoutNumbers server = b.withoutNumbers server ∧ a.resolution = b.resolution := by
  obtain ⟨network, resolution, built, finished, rfl⟩ := (plan_iff settings first a).mp planned
  obtain ⟨other, found, builtAgain, finishedAgain, rfl⟩ := (plan_iff settings second b).mp again
  have networks := Network.built_alike server settings.infrastructure first second alike network
    other built builtAgain
  rw [← network.resolve_all_without server, networks, other.resolve_all_without server,
    finishedAgain, Prod.mk.injEq] at finished
  obtain ⟨rfl, _⟩ := finished
  exact ⟨by simp only [Plan.withoutNumbers, alike, networks], rfl⟩

/-- Manual numbers stay with the server that declares them. If two topologies differ in those of one
server alone, their devices agree in all but the addresses in the sections that the server serves and
in those under which others poll it. -/
theorem numbers_isolated (settings : Settings) (server : String) (first second : Topology)
    (alike : first.withoutNumbers server = second.withoutNumbers server) (one other : Compilation)
    (compiled : compile settings first = .ok one) (again : compile settings second = .ok other) :
    List.Forall₂ (CompiledDevice.Alike server) one.devices other.devices ∧
      one.brokers = other.brokers ∧
      ∀ directory format, one.injects directory format = other.injects directory format := by
  obtain ⟨a, planned, compiled⟩ := bind_ok _ _ one compiled
  obtain ⟨b, plannedAgain, again⟩ := bind_ok _ _ other again
  obtain ⟨plans, resolved⟩ := plans_alike settings server first second alike a b planned plannedAgain
  have roles : a.network.byRole.map (Station.withoutNumbers server) =
      b.network.byRole.map (Station.withoutNumbers server) := by
    rw [← Network.by_role_without, ← Network.by_role_without]
    exact congrArg (·.network.byRole) plans
  obtain ⟨devices, hosts⟩ :=
    Plan.stations_alike server a b plans resolved {} _ _ roles one other compiled again
  refine ⟨devices, hosts, fun directory format => ?_⟩
  exact one.alike_injects server other devices directory format

def renumbered : Topology where
  nodes :=
    { substation.nodes[0] with
      metadata :=
        { modbus := some {
            devices := [{
              name := "BUS7"
              deviceType := "bus"
              analogRead := [⟨"voltage", 30010, .inputRegister⟩] }] } } } ::
      substation.nodes.tail

theorem renumbered_isolated :
    ∃ one other, compile simulated substation = .ok one ∧ compile simulated renumbered = .ok other ∧
      one.served "rtu1" ≠ other.served "rtu1" ∧
      List.Forall₂ (CompiledDevice.Alike "rtu1") one.devices other.devices := by
  obtain ⟨one, other, compiled, again, differ⟩ : ∃ one other,
      compile simulated substation = .ok one ∧ compile simulated renumbered = .ok other ∧
        one.served "rtu1" ≠ other.served "rtu1" := ⟨_, _, rfl, rfl, by decide⟩
  exact ⟨one, other, compiled, again, differ,
    (numbers_isolated simulated "rtu1" substation renumbered rfl one other compiled again).1⟩

end FieldConfig
