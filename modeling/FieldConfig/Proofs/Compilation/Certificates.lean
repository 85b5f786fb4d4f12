import FieldConfig.Proofs.Compilation.Manifest
import FieldConfig.Proofs.Settings.Listener
import Mathlib.Data.List.Nodup

set_option autoImplicit false

namespace FieldConfig

def Document.files (document : Document) : List String :=
  (document.api.map ApiSection.files).getD []

theorem device_supplied (settings : Settings) (topology : Topology) (compilation : Compilation)
    (compiled : compile settings topology = .ok compilation) (device : CompiledDevice)
    (member : device ∈ compilation.devices) :
    ∃ node ∈ topology.nodes, node.role? = some device.role ∧ node.hostname = device.hostname ∧
      (∀ own ∈ settings.listenerSource? node.metadata.cpu, ∃ endpoint,
        device.document.api = some (Settings.resolveApi own endpoint).listener) ∧
      (∀ listener ∈ device.document.api,
        listener.tlsKey.isSome = listener.tlsCertificate.isSome) ∧
      List.Forall₂ (fun path file => file.destination = path ∧
          (settings.listenerSource? node.metadata.cpu).bind (·.file? path) = some file.source)
        device.document.files device.certificates ∧
      device.document.files.Sublist
        [Settings.apiKeyPath, Settings.apiCertificatePath, Settings.apiAuthorityPath] := by
  obtain ⟨node, listed, role, hostname, _, listener, certificates⟩ :=
    device_origin settings topology compilation compiled device member
  have gives := settings.api_given node.metadata.cpu
  refine ⟨node, listed, role, hostname, fun own source => ?_, ?_⟩
  · rw [source] at gives
    obtain ⟨endpoint, same⟩ := gives
    exact ⟨endpoint, by rw [listener, same]; rfl⟩
  · rw [Document.files, listener, certificates]
    cases given : settings.apiFor node.metadata.cpu with
    | none => exact ⟨by simp, .nil, List.nil_sublist _⟩
    | some api =>
        have supplied := settings.api_supplied node.metadata.cpu api given
        exact ⟨by simpa using supplied.paired, supplied.files, supplied.paths⟩

theorem certificate_paths (settings : Settings) (topology : Topology) (compilation : Compilation)
    (compiled : compile settings topology = .ok compilation) (device : CompiledDevice)
    (member : device ∈ compilation.devices) :
    device.certificates.map (·.destination) = device.document.files ∧
      (CompiledDevice.documentPath :: device.document.files).Nodup := by
  obtain ⟨_, _, _, _, _, _, files, paths⟩ :=
    device_supplied settings topology compilation compiled device member
  have distinct : [CompiledDevice.documentPath, Settings.apiKeyPath, Settings.apiCertificatePath,
      Settings.apiAuthorityPath].Nodup := by decide
  refine ⟨?_, distinct.sublist (paths.cons_cons _)⟩
  have same := List.forall₂_map_right_iff.mpr
    (files.imp fun path file given => (given.1.symm : path = file.destination))
  rw [List.forall₂_eq_eq_eq] at same
  exact same.symm

theorem targets_distinct (devices : List CompiledDevice) (directory : String) (format : Format)
    (hostnames : (devices.map (·.hostname)).Nodup)
    (paths : ∀ device ∈ devices, device.certificates.map (·.destination) = device.document.files ∧
      (CompiledDevice.documentPath :: device.document.files).Nodup) :
    ((devices.flatMap (·.injects directory format)).map fun inject =>
      (inject.hostname, inject.destination)).Nodup := by
  have targets (device : CompiledDevice) (member : device ∈ devices) :
      (device.injects directory format).map (fun inject => (inject.hostname, inject.destination)) =
        (CompiledDevice.documentPath :: device.document.files).map (Prod.mk device.hostname) := by
    rw [CompiledDevice.injects, ← (paths device member).1]
    simp [Function.comp_def]
  rw [List.map_flatMap, List.flatMap_congr targets, List.nodup_flatMap]
  refine ⟨fun device member => ?_, ?_⟩
  · exact (paths device member).2.map fun _ _ same => (Prod.mk.inj same).2
  · refine (List.pairwise_map.mp hostnames).imp fun {first second} apart => ?_
    refine List.disjoint_left.mpr fun target mine other => ?_
    obtain ⟨_, _, rfl⟩ := List.mem_map.mp mine
    obtain ⟨_, _, same⟩ := List.mem_map.mp other
    exact apart (congrArg Prod.fst same).symm

/-- What is delivered to a device is its configuration and then, file by file, what its document
names for the listener, from where the settings that give the listener say. Nothing is delivered
to one place twice. -/
theorem files_injected (settings : Settings) (topology : Topology) (compilation : Compilation)
    (compiled : compile settings topology = .ok compilation) (directory : String)
    (format : Format) :
    compilation.injects directory format =
        compilation.devices.flatMap (·.injects directory format) ∧
      (∀ device ∈ compilation.devices, ∃ node ∈ topology.nodes,
        node.role? = some device.role ∧ node.hostname = device.hostname ∧
        (∀ own ∈ settings.listenerSource? node.metadata.cpu, ∃ endpoint,
          device.document.api = some (Settings.resolveApi own endpoint).listener) ∧
        (∀ listener ∈ device.document.api,
          listener.tlsKey.isSome = listener.tlsCertificate.isSome) ∧
        ∃ files, device.injects directory format =
            ⟨device.hostname, joinPath directory (device.fileName format),
              "/etc/ot-sim/config.xml"⟩ :: files ∧
          List.Forall₂ (fun path inject => inject.hostname = device.hostname ∧
              inject.destination = path ∧
              (settings.listenerSource? node.metadata.cpu).bind (·.file? path) =
                some inject.source)
            device.document.files files) ∧
      ((compilation.injects directory format).map fun inject =>
        (inject.hostname, inject.destination)).Nodup := by
  have supplied := device_supplied settings topology compilation compiled
  refine ⟨rfl, fun device member => ?_, ?_⟩
  · obtain ⟨node, listed, role, hostname, source, paired, files, _⟩ := supplied device member
    refine ⟨node, listed, role, hostname, source, paired, _, rfl, ?_⟩
    rw [List.forall₂_map_right_iff]
    exact files.imp fun path file given => ⟨rfl, given⟩
  · exact targets_distinct compilation.devices directory format
      (hostnames_distinct settings topology compilation compiled)
      (certificate_paths settings topology compilation compiled)

def consoles : Topology where
  nodes :=
    [{ hostname := "hmi1", nodeType := "fd-client" },
     { hostname := "hmi2"
       nodeType := "fd-client"
       metadata := { cpu := some { api := some { caCertificate := "own/ca.crt" } } } },
     { hostname := "hmi3"
       nodeType := "fd-client"
       metadata := { cpu := some { api := some { tlsKey := "own/api.key" } } } }]

def secured : Settings where
  cpu := { api := some { tlsKey := "api.key", tlsCertificate := "api.crt" } }

theorem consoles_injected :
    ∃ compilation device, compile secured consoles = .ok compilation ∧
      compilation.device? "hmi1" = some device ∧
      device.document.files = [Settings.apiKeyPath, Settings.apiCertificatePath] ∧
      (compilation.injects "out" .xml).map (fun inject => (inject.hostname, inject.source)) =
        [("hmi1", "out/hmi1.xml"), ("hmi1", "api.key"), ("hmi1", "api.crt"),
         ("hmi2", "out/hmi2.xml"), ("hmi2", "own/ca.crt"), ("hmi3", "out/hmi3.xml")] ∧
      ((compilation.injects "out" .xml).map fun inject =>
        (inject.hostname, inject.destination)).Nodup := by
  obtain ⟨compilation, device, compiled, named, files, sources⟩ : ∃ compilation device,
      compile secured consoles = .ok compilation ∧ compilation.device? "hmi1" = some device ∧
        device.document.files = [Settings.apiKeyPath, Settings.apiCertificatePath] ∧
        (compilation.injects "out" .xml).map (fun inject => (inject.hostname, inject.source)) =
          [("hmi1", "out/hmi1.xml"), ("hmi1", "api.key"), ("hmi1", "api.crt"),
           ("hmi2", "out/hmi2.xml"), ("hmi2", "own/ca.crt"), ("hmi3", "out/hmi3.xml")] :=
    ⟨_, _, rfl, rfl, rfl, by decide⟩
  exact ⟨compilation, device, compiled, named, files, sources,
    (files_injected secured consoles compilation compiled "out" .xml).2.2⟩

end FieldConfig
