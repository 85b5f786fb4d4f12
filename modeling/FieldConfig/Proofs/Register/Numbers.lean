import FieldConfig.Proofs.Allocation.Counting
import FieldConfig.Proofs.Network.Building
import FieldConfig.Proofs.Register.Expansion

set_option autoImplicit false

namespace FieldConfig

def Node.Declares (node : Node) (pointClass : PointClass) (manual : ManualNumber) : Prop :=
  ∃ protocol settings, node.metadata.protocol protocol = some settings ∧
    ∃ entry ∈ settings.devices, manual ∈ entry.manual pointClass

def Override.declared (given : Override) : ManualNumber := ⟨given.field, given.number, given.kind⟩

namespace Declaration

theorem reference_numbers (node : String) (protocol : Protocol) (index : Nat) (entry : DeviceEntry)
    (found : DeviceReference) (read : reference node protocol index entry = .ok found) :
    ∀ given ∈ found.overrides, given.declared ∈ entry.manual given.pointClass := by
  obtain ⟨_ | name, _ | deviceType, endpoint, _⟩ := entry
  case some.some =>
    cases read
    intro given member
    obtain ⟨pointClass, _, among⟩ := List.mem_flatMap.mp member
    obtain ⟨manual, declared, rfl⟩ := List.mem_map.mp among
    exact declared
  all_goals cases read

theorem references_numbers (node : String) (protocol : Protocol) (index : Nat)
    (entries : List DeviceEntry) (found : List DeviceReference)
    (read : references node protocol index entries = .ok found) :
    ∀ reference ∈ found, ∀ given ∈ reference.overrides,
      ∃ entry ∈ entries, given.declared ∈ entry.manual given.pointClass := by
  induction entries generalizing index found with
  | nil =>
      cases read
      simp
  | cons entry rest ih =>
      obtain ⟨first, here, later⟩ := bind_ok _ _ found read
      obtain ⟨others, following, same⟩ := bind_ok _ _ found later
      cases same
      refine List.forall_mem_cons.mpr ⟨fun given member => ?_, fun reference among given member => ?_⟩
      · exact ⟨entry, List.mem_cons_self,
          reference_numbers node protocol index entry first here given member⟩
      · obtain ⟨other, known, declared⟩ := ih (index + 1) others following reference among given member
        exact ⟨other, List.mem_cons_of_mem _ known, declared⟩

theorem protocols_numbers (node : Node) (protocols : List Protocol)
    (found : List (Protocol × List DeviceReference))
    (read : ofProtocols node protocols = .ok found) :
    ∀ group ∈ found, ∀ reference ∈ group.2, ∀ given ∈ reference.overrides,
      node.Declares given.pointClass given.declared := by
  induction protocols generalizing found with
  | nil =>
      cases read
      simp
  | cons protocol rest ih =>
      rw [ofProtocols] at read
      cases own : node.metadata.protocol protocol with
      | none =>
          rw [own] at read
          exact ih found read
      | some settings =>
          rw [own] at read
          obtain ⟨references, here, later⟩ := bind_ok _ _ found read
          obtain ⟨others, following, same⟩ := bind_ok _ _ found later
          cases same
          refine List.forall_mem_cons.mpr ⟨fun reference among given member => ?_, ih others following⟩
          exact ⟨protocol, settings, own,
            references_numbers _ protocol 0 _ references here reference among given member⟩

theorem expansion_protocol (declaration : Declaration) (catalog : Catalog)
    (group : Protocol × List Register)
    (member : group ∈ (RegisterSet.regroup (declaration.expansion catalog)).groups) :
    ∀ register ∈ group.2, register.protocol = group.1 := by
  intro register among
  obtain ⟨protocol, _, rfl⟩ := List.mem_map.mp member
  obtain ⟨part, kept, inside⟩ := List.mem_flatMap.mp among
  obtain ⟨listed, same⟩ := List.mem_filter.mp kept
  obtain ⟨⟨own, references⟩, _, rfl⟩ := List.mem_map.mp listed
  obtain ⟨reference, _, expanded⟩ := List.mem_flatMap.mp inside
  rw [expand] at expanded
  split at expanded
  · obtain ⟨field, _, rfl⟩ := List.mem_map.mp expanded
    exact of_decide_eq_true same
  · cases expanded

end Declaration

theorem OverrideTable.manual_given (overrides : OverrideTable) (register : Register)
    (number : UInt32) (given : overrides.manual register = some number) :
    ∃ entry ∈ overrides.entries, entry.number = number ∧
      entry.pointClass = register.pointClass ∧ entry.kind = register.kind := by
  obtain ⟨entry, last, rfl⟩ := Option.map_eq_some_iff.mp given
  obtain ⟨member, governs⟩ := List.mem_filter.mp (List.mem_of_getLast? last)
  simp only [OverrideTable.governs, Bool.and_eq_true, decide_eq_true_eq] at governs
  exact ⟨entry, member, rfl, governs.1.1.2, governs.2⟩

theorem Network.station_numbers (defaultInfrastructure : String) (node : Node) (station : Station)
    (stands : Stands defaultInfrastructure node station) :
    ∀ given ∈ station.overrides.entries, node.role? = some .server ∧ station.role = .server ∧
      station.hostname = node.hostname ∧ node.Declares given.pointClass given.declared := by
  intro given member
  obtain ⟨role, known, made⟩ := stands
  cases role with
  | server =>
      obtain ⟨declaration, declares, same⟩ := bind_ok _ _ station made
      obtain ⟨protocols, listed, named⟩ := bind_ok _ _ declaration declares
      cases same
      cases named
      obtain ⟨group, among, inside⟩ := List.mem_flatMap.mp member
      obtain ⟨reference, found, own⟩ := List.mem_flatMap.mp inside
      exact ⟨known, rfl, rfl, Declaration.protocols_numbers node Protocol.all protocols listed group
        among reference found given own⟩
  | gateway | client =>
      cases made
      cases member

theorem Network.plain_station (defaultInfrastructure : String) (node : Node) (station : Station)
    (stands : Stands defaultInfrastructure node station) (plain : station.role ≠ .server) :
    station.overrides = {} := by
  have numbers := station_numbers defaultInfrastructure node station stands
  apply congrArg OverrideTable.mk
  apply List.eq_nil_iff_forall_not_mem.mpr
  exact fun given member => plain (numbers given member).2.1

end FieldConfig
