import FieldConfig.Proofs.Resolution.Soundness
import Mathlib.Data.List.Chain

set_option autoImplicit false

-- The way that a cycle error reports leads back to its start if the device where it ends was not in
-- progress before the call. A device that a failed call left in progress is taken for a cycle, too.
namespace FieldConfig.Network

def ClosedWalk (network : Network) (walk : List String) : Prop :=
  ∃ start inner, walk = start :: inner ++ [start] ∧ (start :: inner).Nodup ∧
    List.IsChain network.Polls walk

theorem closeWalk_met (path : List String) (name : String) (met : name ∈ path) :
    ∃ skipped inner, path = skipped ++ name :: inner ∧ closeWalk path name = name :: inner ++ [name] := by
  obtain ⟨skipped, inner, split, absent⟩ := List.eq_append_cons_of_mem met
  refine ⟨skipped, inner, split, ?_⟩
  have passed : ∀ other ∈ skipped, decide (other ≠ name) = true :=
    fun other member => by simpa using ne_of_mem_of_not_mem member absent
  rw [closeWalk, if_pos met, split, List.dropWhile_append_of_pos passed,
    List.dropWhile_cons_of_neg (by simp)]

theorem met_closed (network : Network) (trail : List String) (name : String) (met : name ∈ trail)
    (distinct : trail.Nodup) (chain : List.IsChain network.Polls (trail ++ [name])) :
    network.ClosedWalk (closeWalk trail name) := by
  obtain ⟨skipped, inner, split, closed⟩ := closeWalk_met trail name met
  rw [split] at distinct chain
  refine ⟨name, inner, closed, (List.nodup_append.mp distinct).2.1, ?_⟩
  rw [closed]
  exact chain.suffix ⟨skipped, by simp⟩

theorem closed_repeats (network : Network) (walk : List String) (closed : network.ClosedWalk walk) :
    ¬ walk.Nodup := by
  obtain ⟨start, inner, same, _, _⟩ := closed
  simp [same, List.nodup_cons]

theorem failure_fresh (network : Network) (catalog : Catalog) (path : List String)
    (busy : Set String) (start : String) (trail : List String) (fault : CompileError)
    (failure : Failure network catalog path busy start trail fault) :
    trail.Nodup ∧ ∀ name ∈ trail, name ∉ busy := by
  induction failure with
  | looped => simp
  | unknown _ busy asker _ idle => simpa using idle
  | refused _ busy station _ _ idle => simpa using idle
  | deeper path busy asker first trail fault idle polls below ih =>
      obtain ⟨distinct, fresh⟩ := ih
      have apart : asker ∉ trail := fun member => fresh asker member (Set.mem_insert _ _)
      refine ⟨List.nodup_cons.mpr ⟨apart, distinct⟩, fun name member => ?_⟩
      rcases List.mem_cons.mp member with same | later
      · exact same ▸ idle
      · exact fun known => fresh name later (Set.mem_insert_of_mem _ known)

-- The trail polls its way to the device that is met again, on the trail or in progress before it.
theorem failure_walk (network : Network) (catalog : Catalog) (path : List String)
    (busy : Set String) (start : String) (trail : List String) (fault : CompileError)
    (failure : Failure network catalog path busy start trail fault) (walk : List String)
    (reported : fault = .cycle walk) :
    ∃ name, walk = closeWalk (path ++ trail) name ∧ (name ∈ trail ∨ name ∈ busy) ∧
      List.IsChain network.Polls (trail ++ [name]) ∧ (trail ++ [name]).head? = some start := by
  induction failure with
  | looped path busy name met =>
      cases reported
      exact ⟨name, by simp, .inr met, by simp, rfl⟩
  | unknown => cases reported
  | refused path busy station exposed fault idle member refused =>
      obtain ⟨declaration, reference, _, _, reason⟩ := refused_untyped catalog _ exposed fault refused
      rw [reason] at reported
      cases reported
  | deeper path busy asker first trail fault idle polls below ih =>
      obtain ⟨name, same, met, chain, head⟩ := ih reported
      refine ⟨name, by simpa using same, ?_, ?_, rfl⟩
      · rcases met with onTrail | here | before
        · exact .inl (List.mem_cons_of_mem _ onTrail)
        · exact .inl (here ▸ List.mem_cons_self)
        · exact .inr before
      · refine List.isChain_cons.mpr ⟨fun next second => ?_, chain⟩
        have here : next = first := Option.some.inj (second.symm.trans head)
        exact here ▸ polls

theorem answer_walk (network : Network) (catalog : Catalog) (stations : List Station)
    (before after : Resolution) (walk : List String)
    (answered : network.Answered catalog stations before after (.error (.cycle walk))) :
    ∃ last, walk.getLast? = some last ∧ List.IsChain network.Polls walk ∧
      (network.ClosedWalk walk ↔ before.progress last ≠ .inProgress) := by
  obtain ⟨station, _, trail, failure, _⟩ := answered
  obtain ⟨distinct, fresh⟩ := network.failure_fresh catalog _ _ _ _ _ failure
  obtain ⟨name, same, met, chain, _⟩ := network.failure_walk catalog _ _ _ _ _ failure walk rfl
  rw [List.nil_append] at same
  have ends : walk.getLast? = some name := by rw [same, closeWalk, List.getLast?_concat]
  by_cases onTrail : name ∈ trail
  · have closed := network.met_closed trail name onTrail distinct chain
    rw [← same] at closed
    obtain ⟨_, _, _, _, polled⟩ := id closed
    exact ⟨name, ends, polled, iff_of_true closed (fresh name onTrail)⟩
  · have busy : before.progress name = .inProgress := met.resolve_left onTrail
    have way : walk = trail ++ [name] := by rw [same, closeWalk, if_neg onTrail]
    have apart : walk.Nodup := by
      rw [way]
      exact List.nodup_append.mpr ⟨distinct, by simp, fun other member last here agree =>
        onTrail (by simpa [agree, List.mem_singleton.mp here] using member)⟩
    have unclosed : ¬ network.ClosedWalk walk := fun closed => network.closed_repeats walk closed apart
    exact ⟨name, ends, way ▸ chain, iff_of_false unclosed (by simp [busy])⟩

theorem call_busy (network : Network) (catalog : Catalog) (before : Resolution) (call : Call)
    (succeeded : (network.perform catalog before call).2 = .ok ()) :
    (network.perform catalog before call).1.busy = before.busy := by
  rcases network.call_answered catalog before call with ⟨_, _, _, same⟩ | ⟨_, answered⟩
  · rw [same]
  · rw [succeeded] at answered
    exact answered.2

theorem run_busy (network : Network) (catalog : Catalog) (history : List Call)
    (succeeded : ∀ earlier call later, history = earlier ++ call :: later →
      (network.perform catalog (network.run catalog {} earlier) call).2 = .ok ()) :
    (network.run catalog {} history).busy = ∅ := by
  induction history using List.reverseRecOn with
  | nil =>
      ext name
      simp [run, Resolution.busy]
  | append_singleton earlier call ih =>
      rw [run_append]
      have last := network.call_busy catalog _ call (succeeded earlier call [] rfl)
      refine last.trans (ih fun first other later split => succeeded first other (later ++ [call]) ?_)
      simp [split]

/-- A reported way is closed unless a failed call had left the device where it ends in progress. -/
theorem reported_cycle (network : Network) (catalog : Catalog) (history : List Call) (call : Call)
    (walk : List String)
    (reported : (network.perform catalog (network.run catalog {} history) call).2 =
      .error (.cycle walk)) :
    (∃ last, walk.getLast? = some last ∧ List.IsChain network.Polls walk ∧
      (network.ClosedWalk walk ↔
        (network.run catalog {} history).progress last ≠ .inProgress)) ∧
    ((∀ earlier call later, history = earlier ++ call :: later →
      (network.perform catalog (network.run catalog {} earlier) call).2 = .ok ()) →
      network.ClosedWalk walk) := by
  rcases network.call_answered catalog (network.run catalog {} history) call with
    ⟨_, _, _, same⟩ | ⟨_, answered⟩
  · rw [same] at reported
    cases reported
  · rw [reported] at answered
    obtain ⟨last, ends, chain, closedIff⟩ := network.answer_walk catalog _ _ _ walk answered
    refine ⟨⟨last, ends, chain, closedIff⟩, fun succeeded => closedIff.mpr fun busy => ?_⟩
    have stuck : last ∈ (network.run catalog {} history).busy := busy
    rw [network.run_busy catalog history succeeded] at stuck
    exact stuck

def gatewayNode (hostname : String) (polled : List String) : Node where
  hostname
  nodeType := "fep"
  metadata := { polled := some polled }

theorem mutual_polls_reported :
    ∃ network, ofTopology ⟨[gatewayNode "fep1" ["fep2"], gatewayNode "fep2" ["fep1"],
        gatewayNode "fep3" []]⟩ "power-distribution" = .ok network ∧
      (network.perform {} (network.run {} {} [.resolve "fep3"]) (.resolve "fep1")).2 =
        .error (.cycle ["fep1", "fep2", "fep1"]) ∧
      network.ClosedWalk ["fep1", "fep2", "fep1"] := by
  refine ⟨_, rfl, rfl, ?_⟩
  refine (reported_cycle _ {} [.resolve "fep3"] (.resolve "fep1") _ rfl).2 ?_
  intro earlier call later split
  cases earlier with
  | nil =>
      cases split
      rfl
  | cons first rest => simp at split

theorem stale_device_reported :
    ∃ network, ofTopology ⟨[gatewayNode "fep1" ["ghost"], gatewayNode "hmi" ["fep1"]]⟩
        "power-distribution" = .ok network ∧
      (network.perform {} (network.run {} {} [.resolve "fep1"]) (.resolve "hmi")).2 =
        .error (.cycle ["hmi", "fep1"]) ∧
      ¬ network.ClosedWalk ["hmi", "fep1"] :=
  ⟨_, rfl, rfl, fun closed => closed_repeats _ _ closed (by decide)⟩

end FieldConfig.Network
