import FieldConfig.Proofs.Federation.Tags
import FieldConfig.Proofs.Repetition
import Mathlib.Data.List.Nodup

set_option autoImplicit false

-- Devices that a server refers to more than once. Each reference is compared with the first one to
-- its topic alone; as those kept so far have different topics, this finds every dispute, and the
-- earliest of them.
namespace FieldConfig

namespace FederateDevice

def Agree (devices : List FederateDevice) : Prop :=
  ∀ device ∈ devices, ∀ other ∈ devices, device.topic = other.topic →
    device.deviceType = other.deviceType ∧ device.endpoint = other.endpoint

def Disputes (device : FederateDevice) (earlier : List FederateDevice) : Prop :=
  ∃ other ∈ earlier, other.topic = device.topic ∧
    ¬ (other.deviceType = device.deviceType ∧ other.endpoint = device.endpoint)

theorem same_iff (device other : FederateDevice) (topics : device.topic = other.topic) :
    device = other ↔ device.deviceType = other.deviceType ∧ device.endpoint = other.endpoint := by
  obtain ⟨topic, deviceType, endpoint⟩ := device
  obtain ⟨_, _, _⟩ := other
  simp only [mk.injEq]
  exact and_iff_right topics

theorem agree_of_subset (devices others : List FederateDevice) (agree : Agree others)
    (subset : devices ⊆ others) : Agree devices :=
  fun device member other among => agree device (subset member) other (subset among)

theorem agree_distinct (devices : List FederateDevice) (distinct : (devices.map topic).Nodup) :
    Agree devices := by
  intro device member other among same
  exact (same_iff device other same).mp (List.inj_on_of_nodup_map distinct member among same)

theorem disputed_apart (device : FederateDevice) (earlier later : List FederateDevice)
    (disputes : device.Disputes earlier) : ¬ Agree (earlier ++ device :: later) := by
  intro agree
  obtain ⟨other, member, same, apart⟩ := disputes
  exact apart (agree other (List.mem_append_left _ member) device (by simp) same)

theorem fresh_distinct (known : List FederateDevice) (device : FederateDevice)
    (unmet : known.find? (·.topic == device.topic) = none)
    (distinct : (known.map topic).Nodup) : ((known ++ [device]).map topic).Nodup := by
  have absent : device.topic ∉ known.map topic := by
    intro listed
    obtain ⟨other, member, same⟩ := List.mem_map.mp listed
    exact List.find?_eq_none.mp unmet other member (beq_iff_eq.mpr same)
  rw [List.map_append]
  exact List.concat_eq_append ▸ distinct.concat absent

-- What it comes to when devices are added to those known: all of them if they agree, else the first
-- that disputes an earlier one.
def Settles (node : String) (known devices : List FederateDevice) :
    Except CompileError (List FederateDevice) → Prop
  | .ok found => Agree (known ++ devices) ∧
      found.map topic = ((known ++ devices).map topic).eraseDups
  | .error fault => ∃ earlier device later, devices = earlier ++ device :: later ∧
      Agree (known ++ earlier) ∧ device.Disputes (known ++ earlier) ∧
      fault = .conflict node device.topic

section

variable (node : String) (known rest : List FederateDevice) (device : FederateDevice)
  (result : Except CompileError (List FederateDevice))

theorem settles_new (settles : Settles node (known ++ [device]) rest result) :
    Settles node known (device :: rest) result := by
  have parts (others : List FederateDevice) :
      known ++ [device] ++ others = known ++ device :: others := by simp
  cases result with
  | ok found =>
      rw [Settles, parts] at settles
      exact settles
  | error fault =>
      obtain ⟨earlier, other, later, same, agree, disputes, named⟩ := settles
      rw [parts] at agree disputes
      exact ⟨device :: earlier, other, later, congrArg (device :: ·) same, agree, disputes, named⟩

theorem settles_known (listed : device ∈ known) (settles : Settles node known rest result) :
    Settles node known (device :: rest) result := by
  have held (others : List FederateDevice) : known ++ device :: others ⊆ known ++ others :=
    List.append_subset.mpr ⟨List.subset_append_left _ _,
      List.cons_subset.mpr ⟨List.mem_append_left _ listed, List.subset_append_right _ _⟩⟩
  cases result with
  | ok found =>
      obtain ⟨agree, topics⟩ := settles
      refine ⟨agree_of_subset _ _ agree (held rest), topics.trans ?_⟩
      rw [List.map_append, List.map_append, List.map_cons]
      exact (eraseDups_known _ _ _ (List.mem_map_of_mem listed)).symm
  | error fault =>
      obtain ⟨earlier, other, later, same, agree, ⟨found, member, apart⟩, named⟩ := settles
      refine ⟨device :: earlier, other, later, congrArg (device :: ·) same,
        agree_of_subset _ _ agree (held earlier), ⟨found, ?_, apart⟩, named⟩
      exact (List.append_sublist_append_left known).mpr (List.sublist_cons_self device earlier)
        |>.mem member

theorem settles_disputed (distinct : (known.map topic).Nodup) (same : FederateDevice)
    (listed : same ∈ known) (topics : same.topic = device.topic) (different : same ≠ device) :
    Settles node known (device :: rest) (.error (.conflict node device.topic)) := by
  refine ⟨[], device, rest, rfl, ?_, ⟨same, ?_, topics, ?_⟩, rfl⟩
  · rw [List.append_nil]
    exact agree_distinct known distinct
  · rw [List.append_nil]
    exact listed
  · exact fun agree => different ((same_iff same device topics).mpr agree)

end

-- Those kept so far always have different topics, so a find by topic meets the only one.
theorem add_unique_settles (node : String) (known devices : List FederateDevice)
    (distinct : (known.map topic).Nodup) :
    Settles node known devices (addUnique node known devices) := by
  induction devices generalizing known with
  | nil =>
      rw [addUnique, Settles, List.append_nil]
      exact ⟨agree_distinct known distinct, (eraseDups_nodup _ distinct).symm⟩
  | cons device rest ih =>
      rw [addUnique]
      cases met : known.find? (·.topic == device.topic) with
      | none =>
          exact settles_new node known rest device _ (ih _ (fresh_distinct known device met distinct))
      | some same =>
          have listed := List.mem_of_find?_eq_some met
          have topics : same.topic = device.topic := by simpa using List.find?_some met
          simp only
          by_cases equal : same = device
          · rw [if_pos equal]
            exact settles_known node known rest device _ (equal ▸ listed) (ih known distinct)
          · rw [if_neg equal]
            exact settles_disputed node known rest device distinct same listed topics equal

end FederateDevice

def Declaration.qualified (declaration : Declaration) (settings : Settings) : List FederateDevice :=
  declaration.allReferences.map (.ofReference settings)

/-- The devices of a server are found if and only if no two references to a topic differ in type or
endpoint. Then there is one for each topic, in the order of their first references, and it is what each
reference to it says; otherwise the first reference that disputes an earlier one is reported. -/
theorem conflicts_exact (declaration : Declaration) (settings : Settings) :
    ((∃ devices, declaration.federateDevices settings = .ok devices) ↔
        FederateDevice.Agree (declaration.qualified settings)) ∧
      (∀ devices, declaration.federateDevices settings = .ok devices →
        (devices.map (·.topic)).Nodup ∧
          devices.map (·.topic) = ((declaration.qualified settings).map (·.topic)).eraseDups ∧
          ∀ device ∈ devices, ∀ reference ∈ declaration.allReferences,
            (FederateDevice.ofReference settings reference).topic = device.topic →
              .ofReference settings reference = device) ∧
      ∀ fault, declaration.federateDevices settings = .error fault →
        ∃ earlier device later, declaration.qualified settings = earlier ++ device :: later ∧
          FederateDevice.Agree earlier ∧ device.Disputes earlier ∧
          fault = .conflict declaration.node device.topic := by
  have settles := FederateDevice.add_unique_settles declaration.node []
    (declaration.qualified settings) List.nodup_nil
  change FederateDevice.Settles _ _ _ (declaration.federateDevices settings) at settles
  cases result : declaration.federateDevices settings with
  | ok devices =>
      rw [result] at settles
      obtain ⟨agree, topics⟩ := settles
      refine ⟨iff_of_true ⟨devices, rfl⟩ agree, fun found same => ?_, nofun⟩
      cases same
      refine ⟨topics ▸ eraseDups_distinct _, topics, fun device member reference listed same => ?_⟩
      obtain ⟨origin, among, rfl⟩ := (declaration.federates_mem settings devices result device).mp member
      exact (FederateDevice.same_iff _ _ same).mpr
        (agree _ (List.mem_map_of_mem listed) _ (List.mem_map_of_mem among) same)
  | error fault =>
      rw [result] at settles
      obtain ⟨earlier, device, later, parts, agree, disputes, named⟩ := settles
      have refused (found : List FederateDevice) :
          (.error fault : Except CompileError (List FederateDevice)) ≠ .ok found := nofun
      refine ⟨iff_of_false (fun ⟨found, same⟩ => refused found same) ?_,
        fun found same => absurd same (refused found), fun other same => ?_⟩
      · rw [parts]
        exact FederateDevice.disputed_apart device earlier later disputes
      · cases same
        exact ⟨earlier, device, later, parts, agree, disputes, named⟩

def twoNames (deviceType : String) : Declaration where
  node := "rtu1"
  infrastructure := Catalog.defaultInfrastructure
  protocols :=
    [(.dnp3, [⟨"BRK1", "breaker", none, []⟩]),
      (.modbus, [⟨"OpenDSS/BRK1", deviceType, some (.enabled true), []⟩])]

theorem two_names_settled :
    (∃ devices, (twoNames "breaker").federateDevices {} = .ok devices ∧
        devices.map (·.topic) = ["OpenDSS/BRK1"]) ∧
      ∃ earlier device later, (twoNames "switch").qualified {} = earlier ++ device :: later ∧
        device.Disputes earlier ∧ (twoNames "switch").federateDevices {} =
          .error (.conflict "rtu1" device.topic) := by
  constructor
  · obtain ⟨devices, found⟩ : ∃ devices, (twoNames "breaker").federateDevices {} = .ok devices :=
      ⟨_, rfl⟩
    obtain ⟨_, topics, _⟩ := (conflicts_exact (twoNames "breaker") {}).2.1 devices found
    exact ⟨devices, found, topics.trans (by decide)⟩
  · obtain ⟨fault, refused⟩ : ∃ fault, (twoNames "switch").federateDevices {} = .error fault :=
      ⟨_, rfl⟩
    obtain ⟨earlier, device, later, parts, _, disputes, rfl⟩ :=
      (conflicts_exact (twoNames "switch") {}).2.2 fault refused
    exact ⟨earlier, device, later, parts, disputes, refused⟩

end FieldConfig
