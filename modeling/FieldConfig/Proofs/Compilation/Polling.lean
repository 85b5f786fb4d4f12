import FieldConfig.Proofs.Compilation.Documents
import FieldConfig.Proofs.Encoding.Mirror

set_option autoImplicit false

-- What a device polls is what the polled devices serve. Their documents come from different calls,
-- but from the same groups of registers, the same numbers and the same endpoint.
namespace FieldConfig

namespace Network

theorem serving_exposed (resolution : Resolution) (station : Station) :
    servingSections resolution station =
      (resolution.exposed station).groups.map (servingSection station) := by
  obtain ⟨node, device, overrides⟩ := station
  cases device with
  | server declaration => rfl
  | gateway polled downstream => cases downstream <;> rfl
  | client polled => rfl

theorem polling_mirrors (station target : Station) (name : String)
    (group : Protocol × List Register) :
    (pollingSection station target name group).toOption =
      (servingSection target group).toOption.map (Section.mirror name) := by
  rw [pollingSection, servingSection]
  cases Endpoint.ofNode target.node group.1 with
  | error fault => rfl
  | ok endpoint =>
      exact Encoding.encode_mirrors station.hostname target.hostname name endpoint target.overrides
        group.1 group.2

theorem target_mirrors (network : Network) (resolution : Resolution) (station target : Station)
    (name : String) (found : network.station? name = some target) :
    Document.written (network.sectionsFor resolution station name) =
      (Document.written (servingSections resolution target)).map (Section.mirror name) := by
  simp only [sectionsFor, found, serving_exposed, Document.written, List.filterMap_map,
    List.map_filterMap]
  congr 1
  exact funext fun group => polling_mirrors station target name group

theorem polling_encoded (network : Network) (resolution : Resolution) (station : Station)
    (s : Section) (member : s ∈ Document.written (network.pollingSections resolution station)) :
    ∃ target ∈ network.stations, ∃ group ∈ (resolution.exposed target).groups, ∃ endpoint,
      Encoding.encode ⟨station.hostname, .polling target.hostname, endpoint, target.overrides⟩
        group.1 group.2 = .ok s := by
  obtain ⟨result, among, encoded⟩ := List.mem_filterMap.mp member
  obtain ⟨name, _, asked⟩ := List.mem_flatMap.mp among
  cases found : network.station? name with
  | none =>
      simp only [sectionsFor, found, List.mem_singleton] at asked
      simp [asked, Except.toOption] at encoded
  | some target =>
      simp only [sectionsFor, found, List.mem_map] at asked
      obtain ⟨group, listed, rfl⟩ := asked
      obtain ⟨endpoint, _, written⟩ := bind_ok _ _ s ((toOption_some _ s).mp encoded)
      obtain ⟨known, rfl⟩ := network.station_found name target found
      exact ⟨target, known, group, listed, endpoint, written⟩

theorem serving_encoded (resolution : Resolution) (station : Station) (s : Section)
    (member : s ∈ Document.written (servingSections resolution station)) :
    ∃ group ∈ (resolution.exposed station).groups, ∃ endpoint,
      Encoding.encode ⟨station.hostname, .serving, endpoint, station.overrides⟩ group.1 group.2 =
        .ok s := by
  rw [serving_exposed] at member
  obtain ⟨result, among, encoded⟩ := List.mem_filterMap.mp member
  obtain ⟨group, listed, rfl⟩ := List.mem_map.mp among
  obtain ⟨endpoint, _, written⟩ := bind_ok _ _ s ((toOption_some _ s).mp encoded)
  exact ⟨group, listed, endpoint, written⟩

theorem polling_mode (network : Network) (resolution : Resolution) (station : Station) (s : Section)
    (member : s ∈ Document.written (network.pollingSections resolution station)) :
    s.mode = .client := by
  obtain ⟨_, _, _, _, _, encoded⟩ := network.polling_encoded resolution station s member
  exact (Encoding.encode_facts _ _ _ s encoded).2

theorem serving_mode (resolution : Resolution) (station : Station) (s : Section)
    (member : s ∈ Document.written (servingSections resolution station)) : s.mode = .server := by
  obtain ⟨_, _, _, encoded⟩ := serving_encoded resolution station s member
  exact (Encoding.encode_facts _ _ _ s encoded).2

theorem encoded_known (network : Network) (resolution : Resolution) (station : Station)
    (encoded : ∀ result ∈ network.sections resolution station, ∃ s, result = .ok s) (name : String)
    (polled : name ∈ station.device.polled) : ∃ target, network.station? name = some target := by
  cases found : network.station? name with
  | some target => exact ⟨target, rfl⟩
  | none =>
      have refused : .error (.unresolvedReference station.hostname name) ∈
          network.sections resolution station :=
        List.mem_append_left _ (List.mem_flatMap.mpr ⟨name, polled, by simp [sectionsFor, found]⟩)
      obtain ⟨s, same⟩ := encoded _ refused
      cases same

end Network

def Compilation.served (compilation : Compilation) (name : String) : List Section :=
  match compilation.device? name with
  | some device => device.document.sectionsOf .server
  | none => []

namespace Plan

theorem compiled_sections (plan : Plan) (station : Station) (device : CompiledDevice)
    (compiled : plan.Compiled station device) :
    device.document.sectionsOf .client =
        Document.written (plan.network.pollingSections plan.resolution station) ∧
      device.document.sectionsOf .server =
        Document.written (Network.servingSections plan.resolution station) := by
  have polling := plan.network.polling_mode plan.resolution station
  have serving := Network.serving_mode plan.resolution station
  have split : Document.written (plan.network.sections plan.resolution station) =
      Document.written (plan.network.pollingSections plan.resolution station) ++
        Document.written (Network.servingSections plan.resolution station) := List.filterMap_append
  rw [Document.sectionsOf, Document.sectionsOf, compiled.sections, split, List.filter_append,
    List.filter_append]
  constructor
  · rw [List.filter_eq_self.mpr fun s member => by simp [polling s member],
      List.filter_eq_nil_iff.mpr fun s member => by simp [serving s member], List.append_nil]
  · rw [List.filter_eq_nil_iff.mpr fun s member => by simp [polling s member],
      List.filter_eq_self.mpr fun s member => by simp [serving s member], List.nil_append]

theorem device_compiled (plan : Plan) (compilation : Compilation)
    (compiled : List.Forall₂ plan.Compiled plan.network.byRole compilation.devices)
    (name : String) :
    Option.Rel plan.Compiled (plan.network.station? name) (compilation.device? name) := by
  rw [← plan.network.by_role_station name]
  exact plan.find_compiled plan.network.byRole compilation.devices compiled name

theorem station_device (plan : Plan) (compilation : Compilation)
    (compiled : List.Forall₂ plan.Compiled plan.network.byRole compilation.devices)
    (name : String) (station : Station) (found : plan.network.station? name = some station) :
    ∃ device, compilation.device? name = some device ∧ plan.Compiled station device := by
  have related := plan.device_compiled compilation compiled name
  rw [found] at related
  cases listed : compilation.device? name with
  | none =>
      rw [listed] at related
      cases related
  | some device =>
      rw [listed] at related
      cases related with
      | some same => exact ⟨device, rfl, same⟩

theorem served_mirrors (plan : Plan) (compilation : Compilation)
    (compiled : List.Forall₂ plan.Compiled plan.network.byRole compilation.devices)
    (station : Station) (name : String) (known : ∃ target, plan.network.station? name = some target) :
    Document.written (plan.network.sectionsFor plan.resolution station name) =
      (compilation.served name).map (Section.mirror name) := by
  obtain ⟨target, found⟩ := known
  obtain ⟨device, listed, same⟩ := plan.station_device compilation compiled name target found
  rw [plan.network.target_mirrors plan.resolution station target name found, Compilation.served,
    listed]
  exact congrArg _ (plan.compiled_sections target device same).2.symm

end Plan

def substation : Topology where
  nodes :=
    [{ hostname := "rtu1"
       nodeType := "fd-server"
       metadata := { modbus := some { devices := [{ name := "BUS7", deviceType := "bus" }] } }
       interfaces := [{ name := "eth0", address := "10.0.0.1" }] },
     { hostname := "fep1"
       nodeType := "fep"
       metadata := { polled := some ["rtu1", "rtu1"] }
       interfaces := [{ name := "eth0", address := "10.0.0.2" }] },
     { hostname := "hmi"
       nodeType := "fd-client"
       metadata := { polled := some ["fep1"] } }]

def simulated : Settings where
  helics := { broker := some { address := "127.0.0.1" } }

end FieldConfig
