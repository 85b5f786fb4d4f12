import FieldConfig.Proofs.Register.Expansion
import FieldConfig.Proofs.Resolution.History

set_option autoImplicit false

namespace FieldConfig.Network

abbrev Reaches (network : Network) : String → String → Prop := Relation.ReflTransGen network.Polls

structure SoundFrom (network : Network) (catalog : Catalog) (hostname : String) : Prop where
  known : ∀ name, network.Reaches hostname name → (network.station? name).isSome
  acyclic : ∀ name, network.Reaches hostname name → ¬ Relation.TransGen network.Polls name name
  typed : ∀ name station declaration, network.Reaches hostname name →
    network.station? name = some station → station.device = .server declaration →
      declaration.Typed catalog

theorem sound_below (network : Network) (catalog : Catalog) (hostname name : String)
    (sound : network.SoundFrom catalog hostname) (reached : network.Reaches hostname name) :
    network.SoundFrom catalog name where
  known other path := sound.known other (reached.trans path)
  acyclic other path := sound.acyclic other (reached.trans path)
  typed other station declaration path := sound.typed other station declaration (reached.trans path)

theorem polls_member (network : Network) (station : Station) (name : String)
    (member : station ∈ network.stations) (polls : network.Polls station.hostname name) :
    name ∈ station.device.polled := by
  obtain ⟨other, found, polled⟩ := polls
  rw [network.station_member station member] at found
  exact Option.some.inj found ▸ polled

theorem sound_above (network : Network) (catalog : Catalog) (station : Station)
    (member : station ∈ network.stations)
    (below : ∀ name ∈ station.device.polled, network.SoundFrom catalog name)
    (typed : ∀ declaration, station.device = .server declaration → declaration.Typed catalog) :
    network.SoundFrom catalog station.hostname := by
  have found := network.station_member station member
  have onward : ∀ name, network.Reaches station.hostname name →
      name = station.hostname ∨ ∃ first, network.SoundFrom catalog first ∧
        network.Polls station.hostname first ∧ network.Reaches first name := by
    intro name path
    rcases Relation.ReflTransGen.cases_head path with same | ⟨first, polls, rest⟩
    · exact .inl same.symm
    · exact .inr ⟨first, below first (network.polls_member station first member polls), polls, rest⟩
  refine ⟨fun name path => ?_, fun name path cycle => ?_, fun name other declaration path here kind => ?_⟩
  · rcases onward name path with same | ⟨first, sound, _, rest⟩
    · simp [same, found]
    · exact sound.known name rest
  · rcases onward name path with same | ⟨first, sound, _, rest⟩
    · -- A cycle through the device itself would pass a device that it polls.
      subst same
      obtain ⟨first, polls, rest⟩ := Relation.TransGen.head'_iff.mp cycle
      have sound := below first (network.polls_member station first member polls)
      exact sound.acyclic station.hostname rest cycle
    · exact sound.acyclic name rest cycle
  · rcases onward name path with same | ⟨first, sound, _, rest⟩
    · rw [same, found] at here
      exact typed declaration (Option.some.inj here ▸ kind)
    · exact sound.typed name other declaration rest here kind

theorem cycle_unsound (network : Network) (catalog : Catalog) (hostname : String)
    (cycle : Relation.TransGen network.Polls hostname hostname) :
    ¬ network.SoundFrom catalog hostname :=
  fun sound => sound.acyclic hostname .refl cycle

theorem refused_untyped (catalog : Catalog) (device : Device) (exposed : List RegisterSet)
    (fault : CompileError) (refused : device.collect catalog exposed = .error fault) :
    ∃ declaration reference, device = .server declaration ∧ ¬ declaration.Typed catalog ∧
      fault = declaration.untyped reference := by
  cases device with
  | gateway polled downstream => simp [Device.collect] at refused
  | client polled => simp [Device.collect] at refused
  | server declaration =>
      obtain ⟨untyped, reference, same⟩ := declaration.registers_refused catalog fault refused
      exact ⟨declaration, reference, rfl, untyped, same⟩

theorem failure_reaches (network : Network) (catalog : Catalog) (path : List String)
    (busy : Set String) (start : String) (trail : List String) (fault : CompileError)
    (failure : Failure network catalog path busy start trail fault) (name : String)
    (member : name ∈ trail) : network.Reaches start name := by
  induction failure with
  | looped => simp at member
  | unknown => exact List.mem_singleton.mp member ▸ .refl
  | refused => exact List.mem_singleton.mp member ▸ .refl
  | deeper path busy asker first trail fault idle polls below ih =>
      rcases List.mem_cons.mp member with same | later
      · exact same ▸ .refl
      · exact .head polls (ih later)

theorem failure_unsound (network : Network) (catalog : Catalog) (path : List String)
    (busy : Set String) (start : String) (trail : List String) (fault : CompileError)
    (failure : Failure network catalog path busy start trail fault) (name : String)
    (member : name ∈ start :: trail) :
    ¬ network.SoundFrom catalog name ∨ ∃ met ∈ busy, network.Reaches name met := by
  induction failure generalizing name with
  | looped path busy start met =>
      have here : name = start := by simpa using member
      exact .inr ⟨start, met, here ▸ .refl⟩
  | unknown path busy asker absent idle polls missing =>
      have here : name = asker := by simpa using member
      refine .inl fun sound => ?_
      simpa [missing] using sound.known absent (here ▸ .single polls)
  | refused path busy station exposed fault idle among refused =>
      have here : name = station.hostname := by simpa using member
      obtain ⟨declaration, _, kind, untyped, _⟩ := refused_untyped catalog _ exposed fault refused
      refine .inl fun sound => untyped ?_
      exact sound.typed station.hostname station declaration (here ▸ .refl)
        (network.station_member station among) kind
  | deeper path busy asker first trail fault idle polls below ih =>
      -- A way from the trail back to the asker closes a cycle through the asker.
      have back : ∀ other ∈ first :: trail, network.Reaches other asker →
          ¬ network.SoundFrom catalog asker := by
        intro other among homeward
        have forth : network.Reaches first other := by
          rcases List.mem_cons.mp among with same | later
          · exact same ▸ .refl
          · exact network.failure_reaches catalog _ _ _ _ _ below other later
        exact network.cycle_unsound catalog asker (.head' polls (forth.trans homeward))
      have onTrail : ∀ other ∈ first :: trail, ¬ network.SoundFrom catalog other ∨
          ∃ met ∈ busy, network.Reaches other met := by
        intro other among
        rcases ih other among with unsound | ⟨met, here | before, way⟩
        · exact .inl unsound
        · have loop := back other among (here ▸ way)
          exact .inl fun sound => loop (network.sound_below catalog other asker sound (here ▸ way))
        · exact .inr ⟨met, before, way⟩
      have later : name = asker ∨ name ∈ first :: trail := by
        rcases List.mem_cons.mp member with same | among
        · exact .inl same
        · exact (List.mem_cons.mp among).imp id (List.mem_cons_of_mem first)
      rcases later with same | among
      · subst same
        rcases onTrail first (by simp) with unsound | ⟨met, before, way⟩
        · exact .inl fun sound => unsound (network.sound_below catalog name first sound (.single polls))
        · exact .inr ⟨met, before, .head polls way⟩
      · exact onTrail name among

structure Judged (network : Network) (catalog : Catalog) (resolution : Resolution) : Prop where
  resolved : ∀ name, resolution.progress name = .resolved → network.SoundFrom catalog name
  busy : ∀ name ∈ resolution.busy, ¬ network.SoundFrom catalog name

theorem step_resolved_sound (network : Network) (catalog : Catalog) (before after : Resolution)
    (step : network.Step catalog before after)
    (resolvedSound : ∀ name, before.progress name = .resolved → network.SoundFrom catalog name)
    (name : String) (resolved : after.progress name = .resolved) : network.SoundFrom catalog name := by
  cases step with
  | enter station member pending =>
      by_cases same : name = station.hostname
      · simp [same] at resolved
      · exact resolvedSound name (by simpa [same] using resolved)
  | complete station targets registers member entered known ready collected =>
      by_cases same : name = station.hostname
      · rw [same]
        refine network.sound_above catalog station member (fun other polled => ?_) fun declaration kind => ?_
        · obtain ⟨target, among, named⟩ := network.target_of_name _ targets known other polled
          exact named ▸ resolvedSound target.hostname (ready target among)
        · rw [kind, Device.collect, Declaration.registers_ok_iff] at collected
          exact collected.1
      · exact resolvedSound name (by simpa [same] using resolved)

theorem answer_judged (network : Network) (catalog : Catalog) (stations : List Station)
    (before after : Resolution) (result : Except CompileError Unit)
    (steps : network.Steps catalog before after)
    (answered : network.Answered catalog stations before after result)
    (judged : network.Judged catalog before) :
    network.Judged catalog after ∧
      (result = .ok () ↔ ∀ station ∈ stations, network.SoundFrom catalog station.hostname) := by
  have resolvedSound := network.steps_preserve catalog _ (network.step_resolved_sound catalog)
    before after steps judged.resolved
  cases result with
  | ok done =>
      obtain ⟨resolved, busy⟩ := answered
      refine ⟨⟨resolvedSound, busy ▸ judged.busy⟩, ?_⟩
      simpa using fun station member => resolvedSound _ (resolved station member)
  | error fault =>
      obtain ⟨station, member, trail, failure, busy⟩ := answered
      have unsound : ∀ name ∈ station.hostname :: trail, ¬ network.SoundFrom catalog name := by
        intro name among sound
        rcases network.failure_unsound catalog _ _ _ _ _ failure name among with unsound | ⟨met, stuck, way⟩
        · exact unsound sound
        · exact judged.busy met stuck (network.sound_below catalog name met sound way)
      refine ⟨⟨resolvedSound, fun name stuck => ?_⟩, ?_⟩
      · rw [busy] at stuck
        rcases stuck with before | left
        · exact judged.busy name before
        · exact unsound name (List.mem_cons_of_mem _ left)
      · simpa using ⟨station, member, unsound station.hostname (by simp)⟩

theorem call_judged (network : Network) (catalog : Catalog) (before : Resolution) (call : Call)
    (judged : network.Judged catalog before) :
    network.Judged catalog (network.perform catalog before call).1 := by
  rcases network.call_answered catalog before call with ⟨_, _, _, same⟩ | ⟨steps, answered⟩
  · exact same ▸ judged
  · exact (network.answer_judged catalog _ _ _ _ steps answered judged).1

theorem run_judged (network : Network) (catalog : Catalog) (before : Resolution) (calls : List Call)
    (judged : network.Judged catalog before) :
    network.Judged catalog (network.run catalog before calls) := by
  induction calls generalizing before with
  | nil => exact judged
  | cons call rest ih => exact ih _ (network.call_judged catalog before call judged)

theorem start_judged (network : Network) (catalog : Catalog) : network.Judged catalog {} :=
  ⟨fun name resolved => by simp at resolved, fun name busy => by simp [Resolution.busy] at busy⟩

/-- After any history a device resolves if and only if all that it reaches is sound. -/
theorem resolve_ok_iff_sound (network : Network) (catalog : Catalog) (history : List Call) :
    (∀ hostname, (network.resolve catalog hostname (network.run catalog {} history)).2 = .ok () ↔
      network.SoundFrom catalog hostname) ∧
    ((network.resolveAll catalog (network.run catalog {} history)).2 = .ok () ↔
      ∀ station ∈ network.stations, network.SoundFrom catalog station.hostname) := by
  have judged := network.run_judged catalog {} history (network.start_judged catalog)
  constructor
  · intro hostname
    cases found : network.station? hostname with
    | none =>
        have unsound : ¬ network.SoundFrom catalog hostname :=
          fun sound => by simpa [found] using sound.known hostname .refl
        simpa [resolve, found] using unsound
    | some station =>
        have named := (network.station_found hostname station found).2
        rcases network.call_answered catalog (network.run catalog {} history) (.resolve hostname) with
          ⟨_, same, missing, _⟩ | ⟨steps, answered⟩
        · cases same
          simp [found] at missing
        · have answer := (network.answer_judged catalog _ _ _ _ steps answered judged).2
          simpa [asked, found, named, perform] using answer
  · rcases network.call_answered catalog (network.run catalog {} history) .resolveAll with
      ⟨_, same, _⟩ | ⟨steps, answered⟩
    · cases same
    · have answer := (network.answer_judged catalog _ _ _ _ steps answered judged).2
      simpa [asked, perform, member_by_role] using answer

end FieldConfig.Network
