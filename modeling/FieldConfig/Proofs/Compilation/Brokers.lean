import FieldConfig.Proofs.Compilation.Independence
import FieldConfig.Proofs.Federation.Points

set_option autoImplicit false

namespace FieldConfig

namespace Settings

def trackedHost? (settings : Settings) (station : Station) : Option String :=
  match station.device with
  | .server declaration =>
    match declaration.federateDevices settings with
    | .ok (_ :: _) => (IoSection.broker? settings station.node).bind (·.trackedHost?)
    | .ok [] | .error _ => none
  | .gateway _ _ | .client _ => none

def tracked? (settings : Settings) (node : Node) (io : Option IoSection) : Option BrokerHost :=
  io.bind fun io => (IoSection.broker? settings node).bind fun broker =>
    broker.trackedHost?.map (broker.firstEntry · io.brokerEndpoint)

end Settings

namespace Plan

def tracked? (plan : Plan) (station : Station) : Option BrokerHost :=
  (plan.ioSection {} station).2.toOption.bind (plan.settings.tracked? station.node)

theorem io_alone (plan : Plan) (registry : BrokerRegistry) (station : Station) :
    (plan.ioSection registry station).2 = (plan.ioSection {} station).2 :=
  io_agrees plan plan station (plan.agree_refl station) registry {}

theorem io_hosts (plan : Plan) (registry after : BrokerRegistry) (station : Station)
    (io : Option IoSection) (bound : plan.ioSection registry station = (after, .ok io)) :
    after.hosts = BrokerRegistry.entered registry.hosts
        (plan.settings.tracked? station.node io).toList ∧
      (plan.settings.tracked? station.node io).map (·.hostname) =
        plan.settings.trackedHost? station := by
  cases kind : station.device with
  | gateway polled downstream | client polled =>
      simp only [ioSection, kind, Prod.mk.injEq, Except.ok.injEq] at bound
      obtain ⟨rfl, rfl⟩ := bound
      simp [Settings.trackedHost?, Settings.tracked?, kind, BrokerRegistry.entered]
  | server declaration =>
      rw [ioSection, kind] at bound
      obtain ⟨federates, rfl, rfl⟩ |
          ⟨first, rest, broker, address, points, federates, found, resolved, _, rfl⟩ :=
        IoSection.of_server_ok _ _ _ registry station.node declaration after io bound
      · simp [Settings.trackedHost?, Settings.tracked?, kind, federates, BrokerRegistry.entered]
      · have entry : plan.settings.tracked? station.node
              (some (IoSection.ofPoints station.node address points)) =
            broker.trackedHost?.map (broker.firstEntry · address) := by
          simp [Settings.tracked?, found, IoSection.ofPoints]
        rw [entry]
        refine ⟨registry.resolve_hosts after plan.topology broker _ address resolved, ?_⟩
        simp only [Settings.trackedHost?, kind, federates, found, Option.bind_some]
        cases broker.trackedHost? <;> rfl

theorem brokers_entered (plan : Plan) (registry : BrokerRegistry) (stations : List Station)
    (compilation : Compilation)
    (compiled : plan.compileStations registry stations = .ok compilation) :
    compilation.brokers =
        BrokerRegistry.entered registry.hosts (stations.filterMap plan.tracked?) ∧
      ∀ station ∈ stations,
        (plan.tracked? station).map (·.hostname) = plan.settings.trackedHost? station := by
  induction stations generalizing registry compilation with
  | nil =>
      cases compiled
      exact ⟨rfl, by simp⟩
  | cons station rest ih =>
      rw [compileStations] at compiled
      rcases first : plan.compileStation registry station with ⟨next, fault | device⟩
      · simp [first] at compiled
      · simp only [first] at compiled
        obtain ⟨others, later, rfl⟩ := map_ok _ _ compilation compiled
        obtain ⟨brokers, named⟩ := ih next others later
        obtain ⟨_, io, bound, _⟩ := plan.station_built registry next station device first
        obtain ⟨hosts, own⟩ := plan.io_hosts registry next station io bound
        have entry : plan.tracked? station = plan.settings.tracked? station.node io := by
          rw [tracked?, ← plan.io_alone registry, bound]
          rfl
        refine ⟨?_, List.forall_mem_cons.mpr ⟨entry ▸ own, named⟩⟩
        rw [brokers, hosts, ← entry, BrokerRegistry.entered_cons]

theorem broker_names (plan : Plan) (registry : BrokerRegistry) (stations : List Station)
    (compilation : Compilation)
    (compiled : plan.compileStations registry stations = .ok compilation) (name : String) :
    name ∈ compilation.brokers.map (·.hostname) ↔
      (∃ station ∈ stations, plan.settings.trackedHost? station = some name) ∨
        name ∈ registry.names := by
  obtain ⟨brokers, named⟩ := plan.brokers_entered registry stations compilation compiled
  have hosts : (stations.filterMap plan.tracked?).map (·.hostname) =
      stations.filterMap plan.settings.trackedHost? := by
    rw [List.map_filterMap]
    exact List.filterMap_congr named
  rw [brokers, BrokerRegistry.entered_names, hosts, List.mem_filterMap, BrokerRegistry.names]

end Plan
end FieldConfig
