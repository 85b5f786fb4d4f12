import FieldConfig.Proofs.Federation.Conflicts
import FieldConfig.Proofs.Grouping
import Mathlib.Algebra.GroupWithZero.Nat

set_option autoImplicit false

namespace FieldConfig

namespace MessageEndpoint

def ofGroup (group : String × List String) : MessageEndpoint := ⟨group.1, group.2⟩

theorem add_tag_group (name tag : String) (groups : List (String × List String)) :
    addTag name tag (groups.map ofGroup) = (addTo name [tag] groups).map ofGroup := by
  induction groups with
  | nil => rfl
  | cons first rest ih =>
      have own : (ofGroup first).name = first.1 := rfl
      rw [List.map_cons, addTag, addTo, own]
      by_cases same : first.1 = name
      · rw [if_pos same, if_pos same]
        rfl
      · rw [if_neg same, if_neg same, ih]
        rfl

theorem collect_grouped (messages : List (String × String)) :
    collect messages =
      (grouped (messages.map fun message => (message.1, [message.2]))).map ofGroup := by
  induction messages using List.reverseRecOn with
  | nil => rfl
  | append_singleton earlier last ih =>
      rw [collect_snoc, ih, add_tag_group, add_grouped, List.map_append]
      rfl

def tagsFor (messages : List (String × String)) (name : String) : List String :=
  (messages.filter (·.1 = name)).map Prod.snd

theorem collect_names (messages : List (String × String)) :
    (collect messages).map (·.name) = (messages.map Prod.fst).eraseDups := by
  rw [collect_grouped, grouped]
  simp [ofGroup, Function.comp_def]

theorem collect_tags (messages : List (String × String)) (endpoint : MessageEndpoint)
    (member : endpoint ∈ collect messages) : endpoint.tags = tagsFor messages endpoint.name := by
  rw [collect_grouped] at member
  obtain ⟨group, among, rfl⟩ := List.mem_map.mp member
  obtain ⟨name, _, rfl⟩ := List.mem_map.mp among
  simp only [ofGroup, itemsOf, tagsFor, List.filter_map, List.flatMap_map, Function.comp_def]
  exact List.map_eq_flatMap.symm

theorem collect_used (messages : List (String × String)) (endpoint : MessageEndpoint)
    (member : endpoint ∈ collect messages) : endpoint.tags ≠ [] := by
  have named : endpoint.name ∈ (messages.map Prod.fst).eraseDups := by
    rw [← collect_names]
    exact List.mem_map_of_mem member
  obtain ⟨message, sent, same⟩ := List.mem_map.mp (List.mem_eraseDups.mp named)
  have listed : message.2 ∈ tagsFor messages endpoint.name :=
    List.mem_map_of_mem (List.mem_filter.mpr ⟨sent, by simpa using same⟩)
  rw [collect_tags messages endpoint member]
  exact List.ne_nil_of_mem listed

end MessageEndpoint

namespace IoSection

-- What a section holds for a list of points: a binding for each of them and no other, the topics and
-- the messages in the order of the points.
structure Holds (io : IoSection) (points : List FederatePoint) : Prop where
  once : io.bindings.Perm (points.map FederatePoint.binding)
  topics : io.topics = points.filterMap (·.binding.topic?)
  distinct : (io.endpoints.map (·.name)).Nodup
  endpoints : io.endpoints.map (·.name) =
    ((points.filterMap (·.binding.message?)).map Prod.fst).eraseDups
  tags : ∀ endpoint ∈ io.endpoints, endpoint.tags ≠ [] ∧
    endpoint.tags =
      MessageEndpoint.tagsFor (points.filterMap (·.binding.message?)) endpoint.name

theorem points_held (node : Node) (brokerEndpoint : String) (points : List FederatePoint) :
    (ofPoints node brokerEndpoint points).Holds points := by
  have topics : points.filterMap (·.topic?) = points.filterMap (·.binding.topic?) :=
    List.filterMap_congr fun point _ => point.topic_binding
  have messages : points.filterMap (·.endpoint?) = points.filterMap (·.binding.message?) :=
    List.filterMap_congr fun point _ => point.endpoint_binding
  have names := MessageEndpoint.collect_names (points.filterMap (·.endpoint?))
  refine ⟨points_perm node brokerEndpoint points, topics, ?_, ?_, ?_⟩
  · rw [ofPoints, names]
    exact eraseDups_distinct _
  · rw [ofPoints, names, messages]
  · intro endpoint member
    rw [← messages]
    exact ⟨MessageEndpoint.collect_used _ endpoint member,
      MessageEndpoint.collect_tags _ endpoint member⟩

theorem bindings_length (io : IoSection) :
    io.bindings.length = io.topics.length + (io.endpoints.map (·.tags.length)).sum := by
  simp [bindings, List.length_flatMap, MessageEndpoint.messages]

end IoSection

theorem Declaration.points_length (declaration : Declaration) (catalog : Catalog)
    (devices : List FederateDevice) :
    (devices.flatMap (declaration.pointsOf catalog)).length =
      (devices.map fun device => (declaration.fieldsOf catalog device).size).sum := by
  simp [List.length_flatMap, pointsOf, Table.size]

theorem Declaration.federates_distinct (declaration : Declaration) (settings : Settings)
    (devices : List FederateDevice) (federates : declaration.federateDevices settings = .ok devices) :
    (devices.map (·.topic)).Nodup := by
  have settles := FederateDevice.add_unique_settles declaration.node []
    (declaration.qualified settings) List.nodup_nil
  change FederateDevice.Settles _ _ _ (declaration.federateDevices settings) at settles
  rw [federates] at settles
  exact settles.2 ▸ eraseDups_distinct _

/-- The section of a server binds every field of each of its devices once: one that is only read by a
subscription, one that can be set in the message endpoint of its device, or by a publication if that
has none. A server has no section if and only if it has no devices, and then asks for no broker. -/
theorem points_bound_once (settings : Settings) (catalog : Catalog) (topology : Topology)
    (registry : BrokerRegistry) (node : Node) (declaration : Declaration) :
    (∀ after io, IoSection.ofServer settings catalog topology registry node declaration =
        (after, .ok (some io)) →
      ∃ devices, declaration.federateDevices settings = .ok devices ∧
        (devices.map (·.topic)).Nodup ∧
        (∀ device ∈ devices,
          (catalog.fields? declaration.infrastructure device.deviceType).isSome) ∧
        io.Holds (devices.flatMap (declaration.pointsOf catalog)) ∧
        io.topics.length + (io.endpoints.map (·.tags.length)).sum =
          (devices.map fun device => (declaration.fieldsOf catalog device).size).sum) ∧
      (declaration.federateDevices settings = .ok [] ↔
        IoSection.ofServer settings catalog topology registry node declaration =
          (registry, .ok none)) := by
  constructor
  · intro after io made
    obtain ⟨devices, brokerEndpoint, found, federates, listed, rfl⟩ :=
      IoSection.of_server_points settings catalog topology registry node declaration io
        (congrArg Prod.snd made)
    obtain ⟨typed, rfl⟩ := (declaration.points_ok_iff catalog devices found).mp listed
    have held := IoSection.points_held node brokerEndpoint
      (devices.flatMap (declaration.pointsOf catalog))
    refine ⟨devices, federates, declaration.federates_distinct settings devices federates, typed,
      held, ?_⟩
    rw [← IoSection.bindings_length, held.once.length_eq, List.length_map,
      declaration.points_length]
  · constructor
    · intro none
      simp only [IoSection.ofServer, none]
    · intro made
      obtain ⟨none, _⟩ | ⟨_, _, _, _, _, _, _, _, _, absent⟩ :=
        IoSection.of_server_ok settings catalog topology registry node declaration _ _ made
      · exact none
      · cases absent

def switchgear : Declaration where
  node := "rtu1"
  infrastructure := Catalog.defaultInfrastructure
  protocols :=
    [(.dnp3, [⟨"BRK1", "breaker", none, []⟩, ⟨"CAP1", "capacitor", some (.enabled false), []⟩]),
      (.modbus, [⟨"OpenDSS/BRK1", "breaker", some (.named "updates"), []⟩])]

def loopback : Settings where
  helics := { broker := some { address := "127.0.0.1" } }

theorem switchgear_bound :
    ∃ io devices, IoSection.ofServer loopback .builtin {} {} ⟨"rtu1", "fd-server", {}, []⟩ switchgear =
        ({}, .ok (some io)) ∧
      switchgear.federateDevices loopback = .ok devices ∧
      devices.map (·.topic) = ["OpenDSS/BRK1", "OpenDSS/CAP1"] ∧
      io.endpoints.map (·.name) = ["OpenDSS/updates"] ∧
      io.Holds (devices.flatMap (switchgear.pointsOf .builtin)) ∧
      io.topics.length + (io.endpoints.map (·.tags.length)).sum = 11 := by
  obtain ⟨io, made, endpoints⟩ : ∃ io,
      IoSection.ofServer loopback .builtin {} {} ⟨"rtu1", "fd-server", {}, []⟩ switchgear =
          ({}, .ok (some io)) ∧
        io.endpoints.map (·.name) = ["OpenDSS/updates"] := ⟨_, rfl, by decide⟩
  obtain ⟨devices, federates, _, _, held, count⟩ :=
    (points_bound_once loopback .builtin {} {} ⟨"rtu1", "fd-server", {}, []⟩ switchgear).1 _ io made
  have known : devices = [⟨"OpenDSS/BRK1", "breaker", some "OpenDSS/updates"⟩,
      ⟨"OpenDSS/CAP1", "capacitor", none⟩] :=
    Except.ok.inj (federates.symm.trans (by rfl))
  refine ⟨io, devices, made, federates, ?_, endpoints, held, count.trans ?_⟩
  · rw [known]
    rfl
  · rw [known]
    decide

end FieldConfig
