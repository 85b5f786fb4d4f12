import FieldConfig.Compilation
import FieldConfig.Proofs.Network.Stations
import FieldConfig.Proofs.Outcome

set_option autoImplicit false

namespace FieldConfig

namespace Document

def written (results : List (Except CompileError Section)) : List Section :=
  results.filterMap Except.toOption

theorem add_sections_ok (document after : Document) (results : List (Except CompileError Section))
    (added : document.addSections results = (after, .ok ())) :
    (∀ result ∈ results, ∃ s, result = .ok s) ∧
      after = { document with sections := document.sections ++ written results } := by
  induction results generalizing document with
  | nil =>
      cases added
      simp [written]
  | cons result rest ih =>
      cases result with
      | error fault => cases added
      | ok s =>
          obtain ⟨encoded, same⟩ := ih (document.addSection s) added
          refine ⟨by simpa using encoded, ?_⟩
          simp [same, addSection, written, Except.toOption]

theorem start_each_sections (document : Document) (protocols : List Protocol) :
    (protocols.foldl (fun document protocol => document.start (.ofProtocol protocol))
      document).sections = document.sections := by
  induction protocols generalizing document with
  | nil => rfl
  | cons protocol rest ih => exact ih (document.start (.ofProtocol protocol))

end Document

theorem Network.configure_document (network : Network) (resolution : Resolution)
    (station : Station) (document after : Document)
    (configured : network.configure resolution station document = (after, .ok ())) :
    (∀ result ∈ network.sections resolution station, ∃ s, result = .ok s) ∧
      after = { document with
        sections := document.sections ++
          Document.written (network.sections resolution station) }.startProtocols
            station.device.moduleOrder := by
  rw [configure] at configured
  rcases filled : document.addSections (network.sections resolution station) with ⟨full, fault | done⟩
  · simp [filled] at configured
  · obtain ⟨encoded, same⟩ := document.add_sections_ok full _ filled
    simp only [filled, Prod.mk.injEq, and_true] at configured
    exact ⟨encoded, by rw [← configured, same]⟩

namespace Plan

structure Compiled (plan : Plan) (station : Station) (device : CompiledDevice) : Prop where
  hostname : device.hostname = station.hostname
  role : device.role = station.role
  encoded : ∀ result ∈ plan.network.sections plan.resolution station, ∃ s, result = .ok s
  sections : device.document.sections =
    Document.written (plan.network.sections plan.resolution station)

theorem blank_rest (plan : Plan) (node : Node) :
    (plan.blankDocument node).api = (plan.settings.apiFor node.metadata.cpu).map (·.listener) ∧
      (plan.blankDocument node).sections = [] ∧ (plan.blankDocument node).io = none ∧
      (plan.blankDocument node).logic = none := by
  simp only [blankDocument]
  split <;> split <;> exact ⟨rfl, rfl, rfl, rfl⟩

theorem finish_sections (document : Document) (io : Option IoSection) (node : Node) :
    (finish document io node).sections = document.sections := by
  simp only [finish]
  cases io <;> split <;> rfl

theorem station_built (plan : Plan) (before after : BrokerRegistry) (station : Station)
    (device : CompiledDevice)
    (compiled : plan.compileStation before station = (after, .ok device)) :
    (∀ result ∈ plan.network.sections plan.resolution station, ∃ s, result = .ok s) ∧
      ∃ io, plan.ioSection before station = (after, .ok io) ∧
        device = {
          hostname := station.hostname
          role := station.role
          document := finish
            ({ plan.blankDocument station.node with
              sections := Document.written
                (plan.network.sections plan.resolution station) }.startProtocols
                  station.device.moduleOrder)
            io station.node
          certificates :=
            ((plan.settings.apiFor station.node.metadata.cpu).map (·.certificates)).getD [] } := by
  simp only [compileStation] at compiled
  rcases configured : plan.network.configure plan.resolution station
    (plan.blankDocument station.node) with ⟨document, fault | done⟩
  · simp [configured] at compiled
  · obtain ⟨encoded, filled⟩ := plan.network.configure_document _ _ _ _ configured
    rw [(plan.blank_rest station.node).2.1, List.nil_append] at filled
    rcases bound : plan.ioSection before station with ⟨registry, fault | io⟩
    · simp [configured, bound] at compiled
    · simp only [configured, bound, Prod.mk.injEq, Except.ok.injEq] at compiled
      obtain ⟨rfl, rfl⟩ := compiled
      exact ⟨encoded, io, rfl, by rw [filled]; rfl⟩

theorem station_compiled (plan : Plan) (before after : BrokerRegistry) (station : Station)
    (device : CompiledDevice)
    (compiled : plan.compileStation before station = (after, .ok device)) :
    plan.Compiled station device := by
  obtain ⟨encoded, io, _, rfl⟩ := plan.station_built before after station device compiled
  refine ⟨rfl, rfl, encoded, ?_⟩
  rw [finish_sections, Document.startProtocols, Document.start_each_sections]

theorem stations_compiled (plan : Plan) (registry : BrokerRegistry) (stations : List Station)
    (compilation : Compilation)
    (compiled : plan.compileStations registry stations = .ok compilation) :
    List.Forall₂ plan.Compiled stations compilation.devices := by
  induction stations generalizing registry compilation with
  | nil =>
      cases compiled
      exact .nil
  | cons station rest ih =>
      rw [compileStations] at compiled
      rcases first : plan.compileStation registry station with ⟨next, fault | device⟩
      · simp [first] at compiled
      · simp only [first] at compiled
        obtain ⟨others, later, rfl⟩ := map_ok _ _ compilation compiled
        exact .cons (plan.station_compiled registry next station device first) (ih next others later)

theorem find_compiled (plan : Plan) (stations : List Station) (devices : List CompiledDevice)
    (compiled : List.Forall₂ plan.Compiled stations devices) (name : String) :
    Option.Rel plan.Compiled (stations.find? (·.hostname == name))
      (devices.find? (·.hostname == name)) := by
  induction compiled with
  | nil => exact .none
  | @cons station device _ _ first _ ih =>
      by_cases same : station.hostname = name
      · have found : device.hostname = name := first.hostname.trans same
        simpa [same, found] using Option.Rel.some first
      · have other : device.hostname ≠ name := fun found => same (first.hostname.symm.trans found)
        simpa [same, other] using ih

end Plan

theorem plan_iff (settings : Settings) (topology : Topology) (plan : Plan) :
    settings.plan topology = .ok plan ↔
      ∃ network resolution, Network.ofTopology topology settings.infrastructure = .ok network ∧
        network.resolveAll settings.catalog {} = (resolution, .ok ()) ∧
        plan = ⟨settings, topology, settings.catalog, network, resolution⟩ := by
  constructor
  · intro planned
    obtain ⟨network, built, rest⟩ := bind_ok _ _ plan planned
    rcases finished : network.resolveAll settings.catalog {} with ⟨resolution, fault | done⟩
    · simp [finished] at rest
    · simp only [finished] at rest
      cases rest
      exact ⟨network, resolution, built, finished, rfl⟩
  · rintro ⟨network, resolution, built, finished, rfl⟩
    simp only [Settings.plan, built, bind, Except.bind, finished]
    rfl

theorem plan_ok (settings : Settings) (topology : Topology) (plan : Plan)
    (planned : settings.plan topology = .ok plan) :
    Network.ofTopology topology settings.infrastructure = .ok plan.network ∧
      plan.network.resolveAll settings.catalog {} = (plan.resolution, .ok ()) := by
  obtain ⟨network, resolution, built, finished, rfl⟩ := (plan_iff settings topology plan).mp planned
  exact ⟨built, finished⟩

theorem compile_ok (settings : Settings) (topology : Topology) (compilation : Compilation)
    (compiled : compile settings topology = .ok compilation) :
    ∃ plan, settings.plan topology = .ok plan ∧
      List.Forall₂ plan.Compiled plan.network.byRole compilation.devices := by
  obtain ⟨plan, planned, rest⟩ := bind_ok _ _ compilation compiled
  exact ⟨plan, planned, plan.stations_compiled {} plan.network.byRole compilation rest⟩

end FieldConfig
