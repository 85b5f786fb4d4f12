import FieldConfig.Proofs.Resolution.Recursion
import Mathlib.Data.List.Nodup
import Mathlib.Data.List.Perm.Subperm

set_option autoImplicit false

-- What a search costs: no stack repeats a name, every search that goes on leaves fewer devices pending
-- than it finds and starts with fewer than the one above it.
namespace FieldConfig

namespace Visit

def stack (visit : Visit) : List String := visit.path ++ [visit.station.hostname]

def collects (visit : Visit) : Bool :=
  visit.before.progress visit.station.hostname = .pending && visit.outcome.2.isOk

end Visit

namespace Network

def collected (made : List Visit) : List String :=
  (made.filter Visit.collects).map fun visit => visit.station.hostname

@[simp] theorem collected_nil : collected [] = [] := rfl

@[simp] theorem collected_append (made later : List Visit) :
    collected (made ++ later) = collected made ++ collected later := by
  simp [collected]

variable (network : Network) (catalog : Catalog)

theorem ends_computed (visit : Visit) (made : List Visit) (ends : network.Ends catalog visit made)
    (member : visit.station ∈ network.stations) :
    visit.outcome =
      network.visit catalog network.stations.length visit.path visit.station visit.before := by
  obtain ⟨others, computed⟩ := network.visit_ends catalog network.stations.length visit.path
    visit.station member visit.before List.countP_le_length
  obtain ⟨same, _⟩ := network.ends_unique catalog visit made ends _ others computed rfl rfl rfl
  exact congrArg Visit.outcome same.symm

theorem ends_onward (visit : Visit) (made : List Visit) (ends : network.Ends catalog visit made)
    (member : visit.station ∈ network.stations) : visit.before.Onward visit.after := by
  rw [Visit.after, network.ends_computed catalog visit made ends member]
  exact network.steps_onward catalog _ _ (network.visit_settles catalog network.stations.length
    visit.path visit.station member visit.before List.countP_le_length).1

theorem gathers_onward (path : List String) (asker : String) (names : List String)
    (before : Resolution) (inner : List (Visit × List Visit))
    (ended : Resolution × Except CompileError (List RegisterSet))
    (gathers : network.Gathers path asker names before inner ended)
    (each : ∀ search ∈ inner, network.Ends catalog search.1 search.2) :
    before.Onward ended.1 ∧ ∀ search ∈ inner, search.1.path = path ∧
      search.1.station ∈ network.stations ∧ before.Onward search.1.before := by
  induction gathers with
  | done before => exact ⟨before.onward_refl, by simp⟩
  | unknown name rest before missing => exact ⟨before.onward_refl, by simp⟩
  | failed name rest target before after fault made found =>
      have member := (network.station_found name target found).1
      have onward := network.ends_onward catalog _ _ (each _ List.mem_cons_self) member
      exact ⟨onward, by simpa using ⟨member, before.onward_refl⟩⟩
  | next name rest target before between made others ended found gathers ih =>
      obtain ⟨first, later⟩ := List.forall_mem_cons.mp each
      have member := (network.station_found name target found).1
      have onward := network.ends_onward catalog _ _ first member
      obtain ⟨behind, starts⟩ := ih later
      refine ⟨Resolution.onward_trans _ _ _ onward behind, List.forall_mem_cons.mpr ⟨?_, ?_⟩⟩
      · exact ⟨rfl, member, before.onward_refl⟩
      · intro search among
        obtain ⟨way, known, start⟩ := starts search among
        exact ⟨way, known, Resolution.onward_trans _ _ _ onward start⟩

structure Way (path : List String) (resolution : Resolution) : Prop where
  distinct : path.Nodup
  known : path ⊆ network.stations.map Station.hostname
  started : ∀ name ∈ path, resolution.progress name ≠ .pending

theorem way_start (resolution : Resolution) : network.Way [] resolution :=
  ⟨List.nodup_nil, by simp, by simp⟩

theorem way_length (path : List String) (resolution : Resolution)
    (way : network.Way path resolution) : path.length ≤ network.stations.length := by
  have bound := (way.distinct.subperm way.known).length_le
  rwa [List.length_map] at bound

theorem way_onward (path : List String) (before after : Resolution) (onward : before.Onward after)
    (way : network.Way path before) : network.Way path after :=
  ⟨way.distinct, way.known, fun name member => onward.started name (way.started name member)⟩

theorem way_enter (path : List String) (before : Resolution) (station : Station)
    (member : station ∈ network.stations) (pending : before.progress station.hostname = .pending)
    (way : network.Way path before) :
    network.Way (path ++ [station.hostname]) (before.enter station.hostname) := by
  have fresh : station.hostname ∉ path := fun known => way.started _ known pending
  refine ⟨?_, ?_, fun name known => ?_⟩
  · rw [← List.concat_eq_append]
    exact way.distinct.concat fresh
  · exact List.append_subset.mpr ⟨way.known, by simpa using ⟨station, member, rfl⟩⟩
  · rw [Resolution.progress_enter]
    rcases List.mem_append.mp known with earlier | here
    · split
      · decide
      · exact way.started name earlier
    · rw [if_pos (List.mem_singleton.mp here)]
      decide

theorem conclude_pending (station : Station)
    (gathered : Resolution × Except CompileError (List RegisterSet)) :
    network.pendingCount (conclude catalog station gathered).1 ≤ network.pendingCount gathered.1 := by
  obtain ⟨between, fault | exposed⟩ := gathered
  · exact Nat.le_refl _
  · cases collected : station.device.collect catalog exposed with
    | error fault =>
        simp only [conclude, collected]
        exact Nat.le_refl _
    | ok registers =>
        simp only [conclude, collected]
        refine List.countP_mono_left fun other _ pending => ?_
        by_cases same : other.hostname = station.hostname
        · simp [same] at pending
        · simpa [same] using pending

-- What one of the searches made in the course of some costs. Those do not start on names but `path`.
structure Frugal (path : List String) (made : List Visit) (visit : Visit) : Prop where
  distinct : visit.path.Nodup ∧ (visit.Works → visit.stack.Nodup)
  shallow : visit.path.length ≤ network.stations.length ∧
    (visit.Works → visit.stack.length ≤ network.stations.length)
  fewer : visit.Works → network.pendingCount visit.after < network.pendingCount visit.before
  idle : ¬ visit.Works → visit.after = visit.before
  nested : visit.path = path ∨ ∃ outer ∈ made, outer.Works ∧ visit.path = outer.stack ∧
    network.pendingCount visit.before < network.pendingCount outer.before

theorem way_frugal (visit : Visit) (member : visit.station ∈ network.stations)
    (way : network.Way visit.path visit.before) :
    (visit.path.Nodup ∧ (visit.Works → visit.stack.Nodup)) ∧
      visit.path.length ≤ network.stations.length ∧
        (visit.Works → visit.stack.length ≤ network.stations.length) := by
  have on (works : visit.Works) := network.way_enter visit.path visit.before visit.station member works way
  exact ⟨⟨way.distinct, fun works => (on works).distinct⟩, network.way_length _ _ way,
    fun works => network.way_length _ _ (on works)⟩

theorem idle_frugal (visit : Visit) (member : visit.station ∈ network.stations)
    (way : network.Way visit.path visit.before) (idle : ¬ visit.Works)
    (same : visit.after = visit.before) :
    ∀ inner ∈ [visit], network.Frugal visit.path [visit] inner ∧
      network.pendingCount inner.before ≤ network.pendingCount visit.before := by
  intro inner among
  cases List.mem_singleton.mp among
  obtain ⟨distinct, shallow⟩ := network.way_frugal visit member way
  exact ⟨⟨distinct, shallow, fun works => absurd works idle, fun _ => same, .inl rfl⟩, Nat.le_refl _⟩

theorem ends_frugal (visit : Visit) (made : List Visit) (ends : network.Ends catalog visit made)
    (member : visit.station ∈ network.stations) (way : network.Way visit.path visit.before) :
    ∀ inner ∈ made, network.Frugal visit.path made inner ∧
      network.pendingCount inner.before ≤ network.pendingCount visit.before := by
  induction ends with
  | resolved visit met ended =>
      exact network.idle_frugal visit member way (by simp [Visit.Works, met]) (by simp [Visit.after, ended])
  | busy visit met ended =>
      exact network.idle_frugal visit member way (by simp [Visit.Works, met]) (by simp [Visit.after, ended])
  | worked visit searches gathered works gathers each ended ih =>
      obtain ⟨onward, starts⟩ := network.gathers_onward catalog _ _ _ _ _ _ gathers each
      have entered := network.pending_enter visit.before visit.station member works
      have left := network.pending_onward _ _ onward
      have stopped := network.conclude_pending catalog visit.station gathered
      obtain ⟨distinct, shallow⟩ := network.way_frugal visit member way
      have fewer : network.pendingCount visit.after < network.pendingCount visit.before := by
        rw [Visit.after, ended]
        omega
      refine List.forall_mem_cons.mpr ⟨⟨⟨distinct, shallow, fun _ => fewer, ?_, .inl rfl⟩, Nat.le_refl _⟩, ?_⟩
      · exact fun idle => absurd works idle
      · intro inner below
        obtain ⟨search, among, here⟩ := List.mem_flatMap.mp below
        obtain ⟨path, known, start⟩ := starts search among
        have on := network.way_enter visit.path visit.before visit.station member works way
        have reached := network.way_onward _ _ _ start on
        obtain ⟨frugal, bound⟩ := ih search among known (path ▸ reached) inner here
        have behind := network.pending_onward _ _ start
        refine ⟨⟨frugal.distinct, frugal.shallow, frugal.fewer, frugal.idle, .inr ?_⟩, by omega⟩
        rcases frugal.nested with first | ⟨outer, within, outerWorks, deeper, less⟩
        · exact ⟨visit, List.mem_cons_self, works, first.trans path, by omega⟩
        · refine ⟨outer, List.mem_cons_of_mem _ ?_, outerWorks, deeper, less⟩
          exact List.mem_flatMap.mpr ⟨search, among, within⟩

theorem conclude_order (station : Station)
    (gathered : Resolution × Except CompileError (List RegisterSet)) :
    (conclude catalog station gathered).1.order = gathered.1.order ++
      if (conclude catalog station gathered).2.isOk then [station.hostname] else [] := by
  obtain ⟨between, fault | exposed⟩ := gathered
  · simp [conclude, Except.isOk, Except.toBool]
  · cases collected : station.device.collect catalog exposed <;>
      simp [conclude, collected, Except.isOk, Except.toBool]

theorem gathers_order (path : List String) (asker : String) (names : List String)
    (before : Resolution) (inner : List (Visit × List Visit))
    (ended : Resolution × Except CompileError (List RegisterSet))
    (gathers : network.Gathers path asker names before inner ended)
    (each : ∀ search ∈ inner,
      search.1.after.order.Perm (search.1.before.order ++ collected search.2)) :
    ended.1.order.Perm (before.order ++ collected (inner.flatMap Prod.snd)) := by
  induction gathers with
  | done before => simp
  | unknown name rest before missing => simp
  | failed name rest target before after fault made found => simpa [Visit.after] using each
  | next name rest target before between made others ended found gathers ih =>
      obtain ⟨first, later⟩ := List.forall_mem_cons.mp each
      rw [List.flatMap_cons, collected_append, ← List.append_assoc]
      exact (ih later).trans (first.append_right _)

theorem ends_order (visit : Visit) (made : List Visit) (ends : network.Ends catalog visit made) :
    visit.after.order.Perm (visit.before.order ++ collected made) := by
  induction ends with
  | resolved visit met ended => simp [Visit.after, ended, collected, Visit.collects, met]
  | busy visit met ended => simp [Visit.after, ended, collected, Visit.collects, met]
  | worked visit inner gathered works gathers each ended ih =>
      have below := network.gathers_order _ _ _ _ _ _ gathers ih
      rw [Resolution.order_enter] at below
      have own : collected [visit] =
          if (conclude catalog visit.station gathered).2.isOk then [visit.station.hostname] else [] := by
        have pending : visit.before.progress visit.station.hostname = .pending := works
        cases result : (conclude catalog visit.station gathered).2.isOk <;>
          simp [collected, Visit.collects, pending, ended, result]
      have whole := collected_append [visit] (inner.flatMap Prod.snd)
      rw [List.singleton_append] at whole
      rw [Visit.after, ended, conclude_order, ← own, whole]
      refine (below.append_right _).trans ?_
      rw [List.append_assoc]
      exact List.perm_append_comm.append_left _

end Network
end FieldConfig
