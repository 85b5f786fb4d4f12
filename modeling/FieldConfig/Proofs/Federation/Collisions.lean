import FieldConfig.Proofs.Catalog.Merging
import FieldConfig.Proofs.Federation.Bindings
import Mathlib.Data.List.Nodup

set_option autoImplicit false

-- Points of a server that are bound under one tag. A tag leaves the federate out, so devices of two
-- federates can share theirs; otherwise it takes a dot in a name, where the tag reads in two ways.
namespace FieldConfig

def SameTag (name field other second : String) : Prop :=
  (name = other ∧ field = second) ∨
    ∃ middle, (name = other ++ "." ++ middle ∧ second = middle ++ "." ++ field) ∨
      (other = name ++ "." ++ middle ∧ field = middle ++ "." ++ second)

theorem same_tag_iff (name field other second : String) :
    SameTag name field other second ↔ name ++ "." ++ field = other ++ "." ++ second := by
  have parts (text first rest : String) :
      text = first ++ "." ++ rest ↔ text.toList = first.toList ++ '.' :: rest.toList := by
    rw [← String.toList_inj]
    simp
  have texts : Function.Surjective String.toList :=
    fun chars => ⟨String.ofList chars, String.toList_ofList⟩
  have whole : (name ++ "." ++ field).toList = name.toList ++ '.' :: field.toList := by simp
  rw [parts, whole, Text.cuts_iff, texts.exists, SameTag]
  simp only [parts, String.toList_inj]

theorem same_tag_plain (name field other second : String) (same : SameTag name field other second)
    (plain : ('.' ∉ name.toList ∧ '.' ∉ other.toList) ∨ ('.' ∉ field.toList ∧ '.' ∉ second.toList)) :
    name = other := by
  obtain ⟨here, _⟩ | ⟨middle, ⟨rfl, rfl⟩ | ⟨rfl, rfl⟩⟩ := same
  · exact here
  · simp at plain
  · simp at plain

namespace Declaration

theorem points_tags (declaration : Declaration) (catalog : Catalog)
    (devices : List FederateDevice) :
    (devices.flatMap (declaration.pointsOf catalog)).map FederatePoint.tag =
      devices.flatMap fun device =>
        (declaration.fieldsOf catalog device).keys.map (device.tagName ++ "." ++ ·) := by
  rw [List.map_flatMap]
  refine List.flatMap_congr fun device _ => ?_
  rw [pointsOf, Table.keys, List.map_map, List.map_map]
  rfl

def Apart (declaration : Declaration) (catalog : Catalog) (first second : FederateDevice) : Prop :=
  ∀ field ∈ (declaration.fieldsOf catalog first).keys,
    ∀ other ∈ (declaration.fieldsOf catalog second).keys,
      ¬ SameTag first.tagName field second.tagName other

theorem apart_iff (declaration : Declaration) (catalog : Catalog) (first second : FederateDevice) :
    declaration.Apart catalog first second ↔
      List.Disjoint
        ((declaration.fieldsOf catalog first).keys.map (first.tagName ++ "." ++ ·))
        ((declaration.fieldsOf catalog second).keys.map (second.tagName ++ "." ++ ·)) := by
  simp only [Apart, same_tag_iff, List.disjoint_left, List.mem_map, not_exists, not_and]
  constructor
  · rintro apart _ ⟨field, among, rfl⟩ other within same
    exact apart field among other within same.symm
  · intro disjoint field among other within same
    exact disjoint ⟨field, among, rfl⟩ other within same.symm

theorem tags_distinct (declaration : Declaration) (catalog : Catalog)
    (keyed : Catalog.Keyed catalog.infrastructures) (devices : List FederateDevice) :
    ((devices.flatMap (declaration.pointsOf catalog)).map FederatePoint.tag).Nodup ↔
      devices.Pairwise (declaration.Apart catalog) := by
  have own (device : FederateDevice) :
      ((declaration.fieldsOf catalog device).keys.map (device.tagName ++ "." ++ ·)).Nodup := by
    have distinct := (Catalog.keyed_fields catalog.infrastructures keyed
      declaration.infrastructure device.deviceType).distinct
    refine List.Nodup.map (fun field other same => ?_) distinct
    exact String.append_right_inj _ |>.mp same
  rw [declaration.points_tags, List.nodup_flatMap]
  constructor
  · rintro ⟨_, disjoint⟩
    exact disjoint.imp fun {first second} => (declaration.apart_iff catalog first second).mpr
  · intro apart
    refine ⟨fun device _ => own device, apart.imp fun {first second} => ?_⟩
    exact (declaration.apart_iff catalog first second).mp

theorem named_apart (declaration : Declaration) (catalog : Catalog) (devices : List FederateDevice)
    (distinct : (devices.map FederateDevice.tagName).Nodup)
    (plain : (∀ device ∈ devices, '.' ∉ device.tagName.toList) ∨
      ∀ device ∈ devices, ∀ field ∈ (declaration.fieldsOf catalog device).keys,
        '.' ∉ field.toList) :
    devices.Pairwise (declaration.Apart catalog) := by
  refine (List.pairwise_map.mp distinct).imp_of_mem fun {first second} here there different => ?_
  intro field among other within same
  apply different
  apply same_tag_plain first.tagName field second.tagName other same
  exact plain.imp (fun names => ⟨names first here, names second there⟩)
    fun fields => ⟨fields first here field among, fields second there other within⟩

end Declaration

/-- The tags of a section are distinct if and only if no field of one device has the tag of a field of
another: the two have one name without their federates and the field in common, or the name of one goes
on with a dot where that of the other ends. Devices with different names, of which none has a dot, have
no tag in common, and the fields of one device never do. -/
theorem tags_distinct_iff (settings : Settings) (catalog : Catalog) (topology : Topology)
    (registry after : BrokerRegistry) (node : Node) (declaration : Declaration) (io : IoSection)
    (keyed : Catalog.Keyed catalog.infrastructures)
    (made : IoSection.ofServer settings catalog topology registry node declaration =
      (after, .ok (some io))) :
    ∃ devices, declaration.federateDevices settings = .ok devices ∧
      (io.tags.Nodup ↔ devices.Pairwise (declaration.Apart catalog)) ∧
      ((devices.map FederateDevice.tagName).Nodup →
        ((∀ device ∈ devices, '.' ∉ device.tagName.toList) ∨
          ∀ device ∈ devices, ∀ field ∈ (declaration.fieldsOf catalog device).keys,
            '.' ∉ field.toList) →
        io.tags.Nodup) := by
  obtain ⟨devices, brokerEndpoint, found, federates, listed, rfl⟩ :=
    IoSection.of_server_points settings catalog topology registry node declaration io
      (congrArg Prod.snd made)
  obtain ⟨_, rfl⟩ := (declaration.points_ok_iff catalog devices found).mp listed
  have exact_iff := (IoSection.tags_perm node brokerEndpoint _).nodup_iff.trans
    (declaration.tags_distinct catalog keyed devices)
  refine ⟨devices, federates, exact_iff, fun distinct plain => exact_iff.mpr ?_⟩
  exact declaration.named_apart catalog devices distinct plain

theorem switchgear_distinct :
    ∃ io, IoSection.ofServer loopback .builtin {} {} ⟨"rtu1", "fd-server", {}, []⟩ switchgear =
        ({}, .ok (some io)) ∧ io.tags.length = 11 ∧ io.tags.Nodup := by
  obtain ⟨io, made, count⟩ : ∃ io,
      IoSection.ofServer loopback .builtin {} {} ⟨"rtu1", "fd-server", {}, []⟩ switchgear =
          ({}, .ok (some io)) ∧ io.tags.length = 11 := ⟨_, rfl, rfl⟩
  obtain ⟨devices, federates, _, distinct⟩ := tags_distinct_iff loopback .builtin {} {} {}
    ⟨"rtu1", "fd-server", {}, []⟩ switchgear io Catalog.builtin_keyed made
  have known : devices = [⟨"OpenDSS/BRK1", "breaker", some "OpenDSS/updates"⟩,
      ⟨"OpenDSS/CAP1", "capacitor", none⟩] :=
    Except.ok.inj (federates.symm.trans (by rfl))
  subst known
  exact ⟨io, made, count, distinct (by decide) (.inl (by decide))⟩

def twoFederates : Declaration where
  node := "rtu1"
  infrastructure := Catalog.defaultInfrastructure
  protocols := [(.dnp3, [⟨"east/BUS7", "bus", none, []⟩, ⟨"west/BUS7", "bus", none, []⟩])]

theorem federates_collide :
    ∃ io, IoSection.ofServer loopback .builtin {} {} ⟨"rtu1", "fd-server", {}, []⟩ twoFederates =
        ({}, .ok (some io)) ∧
      io.topics.map (fun topic => (topic.key, topic.tag)) =
        [("east/BUS7.voltage", "BUS7.voltage"), ("west/BUS7.voltage", "BUS7.voltage")] ∧
      ¬ io.tags.Nodup := by
  obtain ⟨io, made, topics, tags⟩ : ∃ io,
      IoSection.ofServer loopback .builtin {} {} ⟨"rtu1", "fd-server", {}, []⟩ twoFederates =
          ({}, .ok (some io)) ∧
        io.topics.map (fun topic => (topic.key, topic.tag)) =
          [("east/BUS7.voltage", "BUS7.voltage"), ("west/BUS7.voltage", "BUS7.voltage")] ∧
        io.tags = ["BUS7.voltage", "BUS7.voltage"] := ⟨_, rfl, rfl, rfl⟩
  refine ⟨io, made, topics, ?_⟩
  simp [tags]

end FieldConfig
