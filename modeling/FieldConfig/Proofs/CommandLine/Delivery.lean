import FieldConfig.Proofs.Compilation.Certificates
import FieldConfig.Proofs.FileStore.Paths
import FieldConfig.Proofs.FileStore.Writing
import Mathlib.Data.List.Find

set_option autoImplicit false

-- What a run leaves in its output directory. The documents and the lists of injects and brokers go
-- there under names that do not exclude each other, so a list can take the place of a document.
namespace FieldConfig

theorem Format.render_foreign (format : Format) (document : Document) (items : List Tree) :
    format.render document ≠ .text (Tree.array items).toJson := by
  have list : (Tree.array items).toJson.toList.head? = some '[' := by
    rw [Tree.toJson, String.toList_ofList]
    cases items <;> rfl
  intro same
  cases format with
  | xml =>
      have tag : (Xml.render document.element).toList.head? = some '<' := by
        rw [Xml.render, String.toList_ofList]
        rfl
      rw [Content.text.inj same, list] at tag
      exact absurd tag (by decide)
  | json =>
      have brace : document.tree.toJson.toList.head? = some '{' := by
        rw [Tree.toJson, String.toList_ofList]
        rfl
      rw [Content.text.inj same, list] at brace
      exact absurd brace (by decide)
  | cbor => cases same

theorem config_inject (settings : Settings) (topology : Topology) (compilation : Compilation)
    (compiled : compile settings topology = .ok compilation) (directory : String) (format : Format)
    (device : CompiledDevice) (member : device ∈ compilation.devices) :
    ∀ inject, inject ∈ compilation.injects directory format ∧ inject.hostname = device.hostname ∧
        inject.destination = CompiledDevice.documentPath ↔
      inject = ⟨device.hostname, joinPath directory (device.fileName format),
        CompiledDevice.documentPath⟩ := by
  intro inject
  constructor
  · rintro ⟨listed, hostname, destination⟩
    obtain ⟨other, among, own⟩ := List.mem_flatMap.mp listed
    obtain rfl | certified := List.mem_cons.mp own
    · have same : other = device :=
        List.inj_on_of_nodup_map (hostnames_distinct settings topology compilation compiled)
          among member hostname
      rw [same]
    · obtain ⟨file, certificate, rfl⟩ := List.mem_map.mp certified
      obtain ⟨paths, distinct⟩ :=
        certificate_paths settings topology compilation compiled other among
      have path : file.destination ∈ other.document.files :=
        paths ▸ List.mem_map_of_mem certificate
      exact absurd (destination ▸ path) (List.nodup_cons.mp distinct).1
  · rintro rfl
    exact ⟨List.mem_flatMap.mpr ⟨device, member, List.mem_cons_self⟩, rfl, rfl⟩

namespace Options

def manifests (options : Options) (compilation : Compilation) : List (String × List Tree) :=
  ("injects.json", (compilation.injects options.output options.format).map Inject.tree) ::
    if compilation.brokers = [] then []
    else [("brokers.json", compilation.brokers.map BrokerHost.tree)]

def files (options : Options) (compilation : Compilation) : List (String × Content) :=
  (compilation.devices.map fun device =>
      (device.fileName options.format, options.format.render device.document)) ++
    (options.manifests compilation).map fun (name, items) => (name, .text (Tree.array items).toJson)

theorem writes_files (options : Options) (compilation : Compilation) :
    options.writes compilation = (options.files compilation).map fun (name, content) =>
      (joinPath options.output name, content) := by
  rw [writes, files, manifests, List.map_append, List.map_map, List.map_map, List.append_assoc]
  by_cases none : compilation.brokers = []
  · simp only [if_pos none]
    rfl
  · simp only [if_neg none]
    rfl

end Options

namespace CompiledDevice

theorem file_chars (device : CompiledDevice) (format : Format) :
    (device.fileName format).toList = device.hostname.toList ++ '.' :: format.extension.toList := by
  simp [fileName]

theorem file_apart (first second : CompiledDevice) (format : Format)
    (same : first.fileName format = second.fileName format) : first.hostname = second.hostname := by
  have chars := congrArg String.toList same
  rw [file_chars, file_chars] at chars
  exact String.toList_inj.mp (List.append_cancel_right chars)

theorem file_single (device : CompiledDevice) (format : Format)
    (single : '/' ∉ device.hostname.toList) :
    '/' ∉ (device.fileName format).toList ∧ FileStore.isOwn (device.fileName format) = true := by
  have extension : '/' ∉ format.extension.toList ∧ 3 ≤ format.extension.toList.length := by
    cases format <;> decide
  have long : 4 ≤ (device.fileName format).toList.length := by
    rw [file_chars, List.length_append, List.length_cons]
    omega
  have apart (short : String) (few : short.toList.length < 4) : device.fileName format ≠ short :=
    fun same => absurd (same ▸ long) (by omega)
  refine ⟨?_, ?_⟩
  · rw [file_chars]
    simp [single, extension.1]
  · simp [FileStore.isOwn, apart "" (by decide), apart "." (by decide), apart ".." (by decide)]

end CompiledDevice

namespace FileStore

theorem latest_files (store : FileStore) (directory : String) (files : List (String × Content))
    (single : ∀ file ∈ files, '/' ∉ file.1.toList ∧ isOwn file.1 = true)
    (found : ∀ file ∈ files, ∃ place, store.find (joinPath directory file.1) = .ok place)
    (name : String) (place : List String) (ownSingle : '/' ∉ name.toList) (own : isOwn name = true)
    (leads : store.find (joinPath directory name) = .ok place) :
    store.latest? place (files.map fun (name, content) => (joinPath directory name, content)) =
      (files.reverse.find? (·.1 == name)).map Prod.snd := by
  have agree : ∀ file ∈ files.reverse,
      ((store.find (joinPath directory file.1)).toOption == some place) = (file.1 == name) := by
    intro file member
    have listed := List.mem_reverse.mp member
    obtain ⟨other, stands⟩ := found file listed
    rw [Bool.eq_iff_iff, beq_iff_eq, beq_iff_eq, toOption_some]
    constructor
    · intro there
      exact files_apart store directory file.1 name place (single file listed).1
        (single file listed).2 ownSingle own there leads
    · intro same
      rw [same, leads]
  rw [latest?, ← List.map_reverse, List.find?_map, Option.map_map]
  exact congrArg (Option.map Prod.snd) (List.find?_congr agree)

theorem unnamed_iff (files : List (String × Content)) (name : String) :
    files.reverse.find? (·.1 == name) = none ↔ name ∉ files.map Prod.fst := by
  simp only [List.find?_eq_none, List.mem_reverse, beq_iff_eq, List.mem_map, not_exists, not_and]

theorem named_last {files : List (String × Content)} {name : String} {file : String × Content}
    (newest : files.reverse.find? (·.1 == name) = some file) : file ∈ files ∧ file.1 = name := by
  have hit := List.find?_some newest
  exact ⟨List.mem_reverse.mp (List.mem_of_find?_eq_some newest), beq_iff_eq.mp hit⟩

end FileStore

namespace Options

theorem files_single (options : Options) (compilation : Compilation)
    (single : ∀ device ∈ compilation.devices, '/' ∉ device.hostname.toList) :
    ∀ file ∈ options.files compilation, '/' ∉ file.1.toList ∧ FileStore.isOwn file.1 = true := by
  simp only [files, manifests, List.forall_mem_append, List.forall_mem_map, List.forall_mem_cons]
  refine ⟨fun device member => device.file_single options.format (single device member),
    by decide, ?_⟩
  split
  · simp
  · exact List.forall_mem_singleton.mpr
      (by decide : '/' ∉ "brokers.json".toList ∧ FileStore.isOwn "brokers.json" = true)

theorem newest_document (options : Options) (devices : List CompiledDevice)
    (distinct : (devices.map (·.hostname)).Nodup) (device : CompiledDevice)
    (member : device ∈ devices) :
    ((devices.map fun device => (device.fileName options.format,
        options.format.render device.document)).reverse.find?
          (·.1 == device.fileName options.format)).map Prod.snd =
      some (options.format.render device.document) := by
  cases newest : (devices.map fun device => (device.fileName options.format,
      options.format.render device.document)).reverse.find?
        (·.1 == device.fileName options.format) with
  | none =>
      have absent := (FileStore.unnamed_iff _ _).mp newest
      exact absurd (List.mem_map.mpr ⟨_, List.mem_map_of_mem member, rfl⟩) absent
  | some last =>
      obtain ⟨among, name⟩ := FileStore.named_last newest
      obtain ⟨other, listed, rfl⟩ := List.mem_map.mp among
      have hostname := CompiledDevice.file_apart other device options.format name
      rw [List.inj_on_of_nodup_map distinct listed member hostname, Option.map_some]

theorem newest_file (options : Options) (compilation : Compilation)
    (distinct : (compilation.devices.map (·.hostname)).Nodup) (device : CompiledDevice)
    (member : device ∈ compilation.devices) :
    ((options.files compilation).reverse.find? (·.1 == device.fileName options.format)).map
        Prod.snd = some (options.format.render device.document) ↔
      device.fileName options.format ∉ (options.manifests compilation).map Prod.fst := by
  have names : ((options.manifests compilation).map fun (name, items) =>
      (name, Content.text (Tree.array items).toJson)).map Prod.fst =
        (options.manifests compilation).map Prod.fst := by
    rw [List.map_map]
    rfl
  rw [files, List.reverse_append, List.find?_append, Option.map_or, ← names]
  cases newest : ((options.manifests compilation).map fun (name, items) =>
      (name, Content.text (Tree.array items).toJson)).reverse.find?
        (·.1 == device.fileName options.format) with
  | none =>
      refine iff_of_true ?_ ((FileStore.unnamed_iff _ _).mp newest)
      rw [Option.map_none, Option.none_or]
      exact options.newest_document compilation.devices distinct device member
  | some last =>
      obtain ⟨among, name⟩ := FileStore.named_last newest
      refine iff_of_false (fun kept => ?_)
        (not_not_intro (List.mem_map.mpr ⟨last, among, name⟩))
      obtain ⟨⟨_, items⟩, _, rfl⟩ := List.mem_map.mp among
      exact options.format.render_foreign device.document items (Option.some.inj kept).symm

end Options

namespace FileStore

def settings? (store : FileStore) (options : Options) : Except Failure Settings :=
  options.config.elim (.ok {}) fun path => Options.readSettings path (store.input path)

def topology? (store : FileStore) (options : Options) : Except Failure Topology :=
  Options.readTopology options.topology (store.input options.topology)

theorem planned_actions (store : FileStore) (options : Options) (actions : List Action)
    (planned : options.plan (options.config.map store.input) (store.input options.topology) =
      .ok actions) :
    ∃ settings topology compilation, store.settings? options = .ok settings ∧
      store.topology? options = .ok topology ∧ compile settings topology = .ok compilation ∧
      actions = options.actions compilation := by
  have compiles (settings : Settings) (given : store.settings? options = .ok settings)
      (rest : (do
        let topology ← store.topology? options
        let compilation ← (compile settings topology).mapError fun fault =>
          ⟨"Compilation failed", fault.message⟩
        return options.actions compilation) = Except.ok actions) :
      ∃ settings topology compilation, store.settings? options = .ok settings ∧
        store.topology? options = .ok topology ∧ compile settings topology = .ok compilation ∧
        actions = options.actions compilation := by
    obtain ⟨topology, parsed, rest⟩ := bind_ok _ _ actions rest
    obtain ⟨compilation, compiled, same⟩ := bind_ok _ _ actions rest
    cases result : compile settings topology with
    | error fault => simp [result, Except.mapError] at compiled
    | ok compilation =>
      rw [result] at compiled
      cases compiled
      exact ⟨settings, topology, _, given, parsed, result, (Except.ok.inj same).symm⟩
  unfold Options.plan at planned
  cases config : options.config with
  | none =>
      rw [config] at planned
      exact compiles {} (by rw [settings?, config]; rfl) planned
  | some path =>
      rw [config] at planned
      obtain ⟨settings, read, rest⟩ := bind_ok _ _ actions planned
      exact compiles settings (by rw [settings?, config]; exact read) rest

theorem run_ended (store final : FileStore) (options : Options)
    (ended : store.run options = (final, .ok ())) :
    ∃ settings topology compilation, store.settings? options = .ok settings ∧
      store.topology? options = .ok topology ∧ compile settings topology = .ok compilation ∧
      store.performAll (options.actions compilation) = (final, .ok ()) := by
  rw [run] at ended
  split at ended
  · cases ended
  rename_i actions planned
  obtain ⟨settings, topology, compilation, given, parsed, compiled, rfl⟩ :=
    store.planned_actions options actions planned
  exact ⟨settings, topology, compilation, given, parsed, compiled, ended⟩

theorem document_kept (store final : FileStore) (options : Options) (compilation : Compilation)
    (performed : store.performAll (options.actions compilation) = (final, .ok ()))
    (distinct : (compilation.devices.map (·.hostname)).Nodup) (device : CompiledDevice)
    (member : device ∈ compilation.devices) :
    ∃ place, final.find (joinPath options.output (device.fileName options.format)) = .ok place ∧
      (final.read (joinPath options.output (device.fileName options.format)) =
          .ok (options.format.render device.document) ↔
        final.latest? place (options.writes compilation) =
          some (options.format.render device.document)) ∧
      ((∀ other ∈ compilation.devices, '/' ∉ other.hostname.toList) →
        (final.read (joinPath options.output (device.fileName options.format)) =
            .ok (options.format.render device.document) ↔
          device.fileName options.format ∉ (options.manifests compilation).map Prod.fst)) := by
  rw [Options.actions, performAll] at performed
  split at performed
  · cases performed
  rename_i prepared made
  have listed : (device.fileName options.format, options.format.render device.document) ∈
      options.files compilation :=
    List.mem_append_left _ (List.mem_map_of_mem member)
  have written : joinPath options.output (device.fileName options.format) ∈
      (options.writes compilation).map Prod.fst := by
    rw [options.writes_files, List.map_map]
    exact List.mem_map.mpr ⟨_, listed, rfl⟩
  obtain ⟨place, leads, read⟩ := prepared.read_latest final _ performed _ written
  refine ⟨place, leads, read _, fun single => (read _).trans ?_⟩
  obtain ⟨_, found, _⟩ := prepared.writes_performed final _ performed
  rw [options.writes_files, List.forall_mem_map] at found
  obtain ⟨ownSingle, own⟩ := device.file_single options.format (single device member)
  rw [options.writes_files, final.latest_files options.output _
    (options.files_single compilation single) found _ place ownSingle own leads]
  exact options.newest_file compilation distinct device member

end FileStore

/-- After a run, the source of a device's configuration has the text of its document if and only if
the last write to the place of that source wrote this text. If no hostname has a slash, that is so
unless one of the lists has the name of the document. -/
theorem documents_delivered (store final : FileStore) (options : Options)
    (ended : store.run options = (final, .ok ())) :
    ∃ settings topology compilation, store.settings? options = .ok settings ∧
      store.topology? options = .ok topology ∧ compile settings topology = .ok compilation ∧
      ∀ device ∈ compilation.devices, ∃ source place,
        (∀ inject, inject ∈ compilation.injects options.output options.format ∧
            inject.hostname = device.hostname ∧
            inject.destination = CompiledDevice.documentPath ↔
          inject = ⟨device.hostname, source, CompiledDevice.documentPath⟩) ∧
        final.find source = .ok place ∧
        (final.read source = .ok (options.format.render device.document) ↔
          final.latest? place (options.writes compilation) =
            some (options.format.render device.document)) ∧
        ((∀ other ∈ compilation.devices, '/' ∉ other.hostname.toList) →
          (final.read source = .ok (options.format.render device.document) ↔
            device.fileName options.format ∉ (options.manifests compilation).map Prod.fst)) := by
  obtain ⟨settings, topology, compilation, given, parsed, compiled, performed⟩ :=
    store.run_ended final options ended
  refine ⟨settings, topology, compilation, given, parsed, compiled, fun device member => ?_⟩
  obtain ⟨place, kept⟩ := store.document_kept final options compilation performed
    (hostnames_distinct settings topology compilation compiled) device member
  exact ⟨_, place, config_inject settings topology compilation compiled options.output
    options.format device member, kept⟩

def workplace (topology : String) : FileStore where
  entries := [(["t.json5"], .file (.text topology))]

def client (hostname : String) : Topology where
  nodes := [{ hostname, nodeType := "fd-client" }]

def jsonOptions : Options := { topology := "t.json5", output := "out", format := .json }

theorem client_run (text hostname : String) (compilation : Compilation)
    (read : Topology.ofText text = .ok (client hostname))
    (compiled : compile {} (client hostname) = .ok compilation) :
    (workplace text).topology? jsonOptions = .ok (client hostname) ∧
      (workplace text).run jsonOptions =
        (workplace text).performAll (jsonOptions.actions compilation) := by
  have parsed : Options.readTopology "t.json5" (.ok text) = .ok (client hostname) := by
    unfold Options.readTopology
    simp only [bind, Except.bind, Except.mapError, read]
  have planned : jsonOptions.plan none (.ok text) = .ok (jsonOptions.actions compilation) := by
    unfold Options.plan
    simp only [jsonOptions, bind, Except.bind, pure, Except.pure, parsed, compiled, Except.mapError]
  refine ⟨parsed, ?_⟩
  have input : (workplace text).input jsonOptions.topology = .ok text := rfl
  have config : jsonOptions.config.map (workplace text).input = none := rfl
  rw [FileStore.run, config, input, planned]

def hmiText : String := "\x7b'nodes':[\x7b'hostname':'hmi','type':'fd-client'\x7d]\x7d"

theorem hmi_read : Topology.ofText hmiText = .ok (client "hmi") := by
  have source : Json5.Source.parse? hmiText = some (.object
      [(Json5.plain "nodes", .array [.object
        [(Json5.plain "hostname", .text (Json5.plain "hmi")),
         (Json5.plain "type", .text (Json5.plain "fd-client"))]])]) := by cbv
  rw [Topology.ofText, Decode.parse, source]
  rfl

theorem hmi_delivered :
    ∃ final compilation device, (workplace hmiText).run jsonOptions = (final, .ok ()) ∧
      compile {} (client "hmi") = .ok compilation ∧ device ∈ compilation.devices ∧
      final.read "out/hmi.json" = .ok (.text device.document.tree.toJson) := by
  obtain ⟨compilation, device, final, compiled, devices, hostname, brokers, performed⟩ :
      ∃ compilation device final, compile {} (client "hmi") = .ok compilation ∧
        compilation.devices = [device] ∧ device.hostname = "hmi" ∧ compilation.brokers = [] ∧
        (workplace hmiText).performAll (jsonOptions.actions compilation) = (final, .ok ()) :=
    ⟨_, _, _, rfl, rfl, rfl, rfl, rfl⟩
  obtain ⟨parsed, run⟩ := client_run hmiText "hmi" compilation hmi_read compiled
  have ended := run.trans performed
  obtain ⟨settings, topology, other, given, found, recompiled, delivered⟩ :=
    documents_delivered (workplace hmiText) final jsonOptions ended
  cases given
  cases parsed.symm.trans found
  cases compiled.symm.trans recompiled
  have member : device ∈ compilation.devices := by simp [devices]
  obtain ⟨source, place, inject, _, _, kept⟩ := delivered device member
  have listed := (config_inject {} _ compilation compiled "out" .json device member _).mpr rfl
  have path := Inject.mk.inj ((inject _).mp listed)
  refine ⟨final, compilation, device, ended, compiled, member, ?_⟩
  have single : ∀ other ∈ compilation.devices, '/' ∉ other.hostname.toList := by
    rw [devices, List.forall_mem_singleton, hostname]
    decide
  have apart : "hmi.json" ∉ ["injects.json"] := by decide
  have own := (kept single).mpr (by
    rw [CompiledDevice.fileName, hostname, Options.manifests, if_pos brokers]
    exact apart)
  rw [← path.2.1, CompiledDevice.fileName, hostname] at own
  exact own

def injectsText : String := "\x7b'nodes':[\x7b'hostname':'injects','type':'fd-client'\x7d]\x7d"

theorem injects_read : Topology.ofText injectsText = .ok (client "injects") := by
  have source : Json5.Source.parse? injectsText = some (.object
      [(Json5.plain "nodes", .array [.object
        [(Json5.plain "hostname", .text (Json5.plain "injects")),
         (Json5.plain "type", .text (Json5.plain "fd-client"))]])]) := by cbv
  rw [Topology.ofText, Decode.parse, source]
  rfl

theorem injects_overwritten :
    ∃ final compilation device, (workplace injectsText).run jsonOptions = (final, .ok ()) ∧
      compile {} (client "injects") = .ok compilation ∧ device ∈ compilation.devices ∧
      ⟨device.hostname, "out/injects.json", CompiledDevice.documentPath⟩ ∈
        compilation.injects jsonOptions.output jsonOptions.format ∧
      final.read "out/injects.json" ≠ .ok (jsonOptions.format.render device.document) := by
  obtain ⟨compilation, device, final, compiled, devices, hostname, performed⟩ :
      ∃ compilation device final, compile {} (client "injects") = .ok compilation ∧
        compilation.devices = [device] ∧ device.hostname = "injects" ∧
        (workplace injectsText).performAll (jsonOptions.actions compilation) = (final, .ok ()) :=
    ⟨_, _, _, rfl, rfl, rfl, rfl⟩
  obtain ⟨_, run⟩ := client_run injectsText "injects" compilation injects_read compiled
  have member : device ∈ compilation.devices := by simp [devices]
  have distinct := hostnames_distinct {} _ compilation compiled
  obtain ⟨_, _, _, kept⟩ := (workplace injectsText).document_kept final jsonOptions compilation
    performed distinct device member
  have name : device.fileName jsonOptions.format = "injects.json" := by
    rw [CompiledDevice.fileName, hostname]
    decide
  have path : joinPath jsonOptions.output "injects.json" = "out/injects.json" := by decide
  have listed := (config_inject {} _ compilation compiled jsonOptions.output jsonOptions.format
    device member _).mpr rfl
  rw [name, path] at kept listed
  refine ⟨final, compilation, device, run.trans performed, compiled, member, listed.1, fun held => ?_⟩
  have single : ∀ other ∈ compilation.devices, '/' ∉ other.hostname.toList := by
    rw [devices, List.forall_mem_singleton, hostname]
    decide
  exact (kept single).mp held List.mem_cons_self

end FieldConfig
