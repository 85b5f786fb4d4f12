import FieldConfig.Proofs.Federation.Points
import FieldConfig.Proofs.Text.Split
import Mathlib.Data.List.TakeWhile

set_option autoImplicit false

namespace FieldConfig

theorem without_qualified (federate name : String)
    (plain : '/' ∉ federate.toList ∨ '/' ∈ name.toList) :
    withoutFederate (Settings.qualify federate name) = withoutFederate name := by
  rw [Settings.qualify]
  by_cases qualified : name.toList.contains '/'
  · rw [if_pos qualified]
  · have bare : '/' ∉ name.toList := by simpa using qualified
    have chars : (federate ++ "/" ++ name).toList = federate.toList ++ '/' :: name.toList := by
      simp
    have whole : name.toList.takeWhile (· ≠ '/') = name.toList :=
      List.takeWhile_eq_self_iff.mpr fun c member => by
        simpa using fun same : c = '/' => bare (same ▸ member)
    rw [if_neg qualified, withoutFederate, chars,
      Text.cut_first _ _ _ (plain.resolve_right bare), withoutFederate, Text.cut_none _ _ bare]
    simp only [whole, String.ofList_toList]

theorem FederateDevice.add_unique_mem (node : String) (known devices found : List FederateDevice)
    (added : addUnique node known devices = .ok found) (device : FederateDevice) :
    device ∈ found ↔ device ∈ known ∨ device ∈ devices := by
  induction devices generalizing known with
  | nil =>
      cases added
      simp
  | cons first rest ih =>
      rw [addUnique] at added
      cases met : known.find? (·.topic == first.topic) with
      | none =>
          rw [met] at added
          rw [ih _ added, List.mem_append, List.mem_singleton, List.mem_cons, or_assoc]
      | some same =>
          simp only [met] at added
          split at added
          · next equal =>
              have listed : first ∈ known := equal ▸ List.mem_of_find?_eq_some met
              rw [ih known added, List.mem_cons, ← or_assoc]
              exact or_congr_left ⟨.inl, fun here => here.elim id fun new => new ▸ listed⟩
          · cases added

theorem Declaration.federates_mem (declaration : Declaration) (settings : Settings)
    (devices : List FederateDevice) (federates : declaration.federateDevices settings = .ok devices)
    (device : FederateDevice) :
    device ∈ devices ↔
      ∃ reference ∈ declaration.allReferences, .ofReference settings reference = device := by
  rw [FederateDevice.add_unique_mem _ _ _ _ federates, List.mem_map]
  simp

namespace IoSection

def tags (io : IoSection) : List String := io.topics.map (·.tag) ++ io.endpoints.flatMap (·.tags)

theorem points_mem (declaration : Declaration) (catalog : Catalog) (devices : List FederateDevice)
    (found : List FederatePoint) (listed : points declaration catalog devices = .ok found)
    (point : FederatePoint) :
    point ∈ found ↔ ∃ device ∈ devices, ∃ fields,
      catalog.fields? declaration.infrastructure device.deviceType = some fields ∧
        ∃ entry ∈ fields.entries, point = ⟨device, entry.1, entry.2⟩ := by
  obtain ⟨typed, rfl⟩ := (declaration.points_ok_iff catalog devices found).mp listed
  rw [List.mem_flatMap]
  refine exists_congr fun device => and_congr_right fun member => ?_
  obtain ⟨fields, known⟩ := Option.isSome_iff_exists.mp (typed device member)
  simp [Declaration.pointsOf, Declaration.fieldsOf, known, eq_comm]

theorem listed_tags (endpoints : List MessageEndpoint) :
    endpoints.flatMap (·.tags) = (endpoints.flatMap MessageEndpoint.messages).map Prod.snd := by
  simp [List.map_flatMap, MessageEndpoint.messages, Function.comp_def]

theorem bindings_tags (io : IoSection) : io.bindings.map Binding.tag = io.tags := by
  rw [bindings, tags, listed_tags, List.map_append, List.map_map, List.map_map]
  rfl

theorem tags_perm (node : Node) (brokerEndpoint : String) (points : List FederatePoint) :
    (ofPoints node brokerEndpoint points).tags.Perm (points.map FederatePoint.tag) := by
  have bound := (points_perm node brokerEndpoint points).map Binding.tag
  rw [bindings_tags, List.map_map] at bound
  exact bound.trans (.of_eq (List.map_congr_left fun point _ => point.binding_tag))

def Binds (io : IoSection) (tag : String) (writable : Bool) : Prop :=
  match writable with
  | false => ∃ topic ∈ io.topics, topic.kind = .subscription ∧ topic.tag = tag
  | true => (∃ endpoint ∈ io.endpoints, tag ∈ endpoint.tags) ∨
      ∃ topic ∈ io.topics, topic.kind = .publication ∧ topic.tag = tag

theorem points_listed (node : Node) (brokerEndpoint : String) (points : List FederatePoint)
    (point : FederatePoint) (member : point ∈ points) (name : String)
    (listed : point.endpoint? = some (name, point.tag)) :
    ∃ endpoint ∈ (ofPoints node brokerEndpoint points).endpoints, point.tag ∈ endpoint.tags := by
  rw [← List.mem_flatMap (f := MessageEndpoint.tags), listed_tags, ofPoints,
    ((MessageEndpoint.collect_perm _).map Prod.snd).mem_iff]
  exact List.mem_map_of_mem (List.mem_filterMap.mpr ⟨point, member, listed⟩)

theorem points_bound (node : Node) (brokerEndpoint : String) (points : List FederatePoint)
    (point : FederatePoint) (member : point ∈ points) :
    (ofPoints node brokerEndpoint points).Binds point.tag point.spec.pointClass.isWritable := by
  have topic (bound : Topic) (made : point.topic? = some bound) :
      bound ∈ (ofPoints node brokerEndpoint points).topics :=
    List.mem_filterMap.mpr ⟨point, member, made⟩
  cases writable : point.spec.pointClass.isWritable with
  | false => exact ⟨_, topic _ (by simp only [FederatePoint.topic?, writable]; rfl), rfl, rfl⟩
  | true =>
      cases endpoint : point.device.endpoint with
      | none =>
          exact .inr ⟨_, topic _ (by simp only [FederatePoint.topic?, writable, endpoint]; rfl),
            rfl, rfl⟩
      | some name =>
          exact .inl (points_listed node brokerEndpoint points point member name
            (by simp [FederatePoint.endpoint?, writable, endpoint]))

theorem points_tags (node : Node) (brokerEndpoint : String) (points : List FederatePoint)
    (tag : String) :
    tag ∈ (ofPoints node brokerEndpoint points).tags ↔ ∃ point ∈ points, point.tag = tag := by
  rw [(tags_perm node brokerEndpoint points).mem_iff, List.mem_map]

theorem of_server_points (settings : Settings) (catalog : Catalog) (topology : Topology)
    (registry : BrokerRegistry) (node : Node) (declaration : Declaration) (io : IoSection)
    (made : (ofServer settings catalog topology registry node declaration).2 = .ok (some io)) :
    ∃ devices brokerEndpoint found, declaration.federateDevices settings = .ok devices ∧
      points declaration catalog devices = .ok found ∧ io = ofPoints node brokerEndpoint found := by
  obtain ⟨_, _, none⟩ | ⟨_, _, _, address, found, federates, _, _, listed, same⟩ :=
    of_server_ok settings catalog topology registry node declaration _ _ (Prod.ext rfl made)
  · cases none
  · exact ⟨_, address, found, federates, listed, Option.some.inj same⟩

end IoSection
end FieldConfig
