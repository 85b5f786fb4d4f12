import FieldConfig.Proofs.Resolution.History

set_option autoImplicit false

-- The search by its rules alone, with no bound on its depth. From every resolution it comes to an end,
-- in one way only, and that is what `visit` computes.
namespace FieldConfig

structure Visit where
  path : List String
  station : Station
  before : Resolution
  outcome : Resolution × Except CompileError Unit

namespace Visit

def after (visit : Visit) : Resolution := visit.outcome.1

def Works (visit : Visit) : Prop := visit.before.progress visit.station.hostname = .pending

end Visit

namespace Network

inductive Gathers (network : Network) (path : List String) (asker : String) : List String →
    Resolution → List (Visit × List Visit) → Resolution × Except CompileError (List RegisterSet) →
      Prop where
  | done (before : Resolution) : Gathers network path asker [] before [] (before, .ok [])
  | unknown (name : String) (rest : List String) (before : Resolution)
      (missing : network.station? name = none) :
      Gathers network path asker (name :: rest) before []
        (before, .error (.unresolvedReference asker name))
  | failed (name : String) (rest : List String) (target : Station) (before after : Resolution)
      (fault : CompileError) (made : List Visit) (found : network.station? name = some target) :
      Gathers network path asker (name :: rest) before
        [(⟨path, target, before, (after, .error fault)⟩, made)] (after, .error fault)
  | next (name : String) (rest : List String) (target : Station) (before between : Resolution)
      (made : List Visit) (others : List (Visit × List Visit))
      (ended : Resolution × Except CompileError (List RegisterSet))
      (found : network.station? name = some target)
      (gathers : Gathers network path asker rest between others ended) :
      Gathers network path asker (name :: rest) before
        ((⟨path, target, before, (between, .ok ())⟩, made) :: others)
        (ended.1, ended.2.map (between.exposed target :: ·))

-- A search that comes to its end, with all that are made in the course of it, itself first.
inductive Ends (network : Network) (catalog : Catalog) : Visit → List Visit → Prop where
  | resolved (visit : Visit) (met : visit.before.progress visit.station.hostname = .resolved)
      (ended : visit.outcome = (visit.before, .ok ())) : Ends network catalog visit [visit]
  | busy (visit : Visit) (met : visit.before.progress visit.station.hostname = .inProgress)
      (ended : visit.outcome =
        (visit.before, .error (.cycle (closeWalk visit.path visit.station.hostname)))) :
      Ends network catalog visit [visit]
  | worked (visit : Visit) (inner : List (Visit × List Visit))
      (gathered : Resolution × Except CompileError (List RegisterSet)) (works : visit.Works)
      (gathers : network.Gathers (visit.path ++ [visit.station.hostname]) visit.station.hostname
        visit.station.device.polled (visit.before.enter visit.station.hostname) inner gathered)
      (each : ∀ search ∈ inner, Ends network catalog search.1 search.2)
      (ended : visit.outcome = conclude catalog visit.station gathered) :
      Ends network catalog visit (visit :: inner.flatMap Prod.snd)

variable (network : Network) (catalog : Catalog)

theorem gather_gathers (path : List String) (depth : Nat) (asker : String)
    (settles : network.Settles catalog path depth (network.visit catalog depth path))
    (ends : ∀ station ∈ network.stations, ∀ before, network.pendingCount before ≤ depth →
      ∃ made, network.Ends catalog
        ⟨path, station, before, network.visit catalog depth path station before⟩ made)
    (names : List String) (before : Resolution) (enough : network.pendingCount before ≤ depth) :
    ∃ inner, network.Gathers path asker names before inner
        (network.gather asker (network.visit catalog depth path) names before) ∧
      ∀ search ∈ inner, network.Ends catalog search.1 search.2 := by
  induction names generalizing before with
  | nil => exact ⟨[], .done before, by simp⟩
  | cons name rest ih =>
      cases found : network.station? name with
      | none =>
          rw [gather, found]
          exact ⟨[], .unknown name rest before found, by simp⟩
      | some target =>
          have member := (network.station_found name target found).1
          obtain ⟨steps, settled⟩ := settles target member before enough
          obtain ⟨made, first⟩ := ends target member before enough
          rcases result : network.visit catalog depth path target before with ⟨between, fault | done⟩
          · rw [result] at first
            simp only [gather, found, result]
            exact ⟨_, .failed name rest target before between fault made found, by simpa using first⟩
          · rw [result] at first steps
            have onward := network.steps_onward catalog _ _ steps
            obtain ⟨others, gathers, each⟩ :=
              ih between ((network.pending_onward _ _ onward).trans enough)
            rw [network.gather_next asker name rest _ target before between found result]
            exact ⟨_, .next name rest target before between made others _ found gathers,
              List.forall_mem_cons.mpr ⟨first, each⟩⟩

theorem visit_ends (depth : Nat) (path : List String) (station : Station)
    (member : station ∈ network.stations) (before : Resolution)
    (enough : network.pendingCount before ≤ depth) :
    ∃ made, network.Ends catalog
      ⟨path, station, before, network.visit catalog depth path station before⟩ made := by
  induction depth generalizing path station before with
  | zero =>
      cases progress : before.progress station.hostname with
      | pending =>
          have fewer := network.pending_enter before station member progress
          omega
      | inProgress => exact ⟨_, .busy _ progress (by simp only [visit, progress])⟩
      | resolved => exact ⟨_, .resolved _ progress (by simp only [visit, progress])⟩
  | succ depth ih =>
      cases progress : before.progress station.hostname with
      | inProgress => exact ⟨_, .busy _ progress (by simp only [visit, progress])⟩
      | resolved => exact ⟨_, .resolved _ progress (by simp only [visit, progress])⟩
      | pending =>
          have fewer := network.pending_enter before station member progress
          obtain ⟨inner, gathers, each⟩ := network.gather_gathers catalog
            (path ++ [station.hostname]) depth station.hostname
            (network.visit_settles catalog depth _) (fun other among => ih _ other among)
            station.device.polled (before.enter station.hostname) (by omega)
          exact ⟨_, .worked _ inner _ progress gathers each (by simp only [visit, progress])⟩

-- A search that starts as this one does ends as it does, and makes the same searches.
def Determined (visit : Visit) (made : List Visit) : Prop :=
  ∀ other others, network.Ends catalog other others → other.path = visit.path →
    other.station = visit.station → other.before = visit.before → other = visit ∧ others = made

theorem gathers_unique (path : List String) (asker : String) (names : List String)
    (before : Resolution) (inner others : List (Visit × List Visit))
    (ended otherwise : Resolution × Except CompileError (List RegisterSet))
    (gathers : network.Gathers path asker names before inner ended)
    (determined : ∀ search ∈ inner, network.Determined catalog search.1 search.2)
    (again : network.Gathers path asker names before others otherwise)
    (each : ∀ search ∈ others, network.Ends catalog search.1 search.2) :
    others = inner ∧ otherwise = ended := by
  induction gathers generalizing others otherwise with
  | done before =>
      cases again
      exact ⟨rfl, rfl⟩
  | unknown name rest before missing =>
      cases again with
      | unknown => exact ⟨rfl, rfl⟩
      | failed _ _ target _ _ _ _ found => simp [missing] at found
      | next _ _ target _ _ _ _ _ found => simp [missing] at found
  | failed name rest target before after fault made found =>
      have own := determined _ List.mem_cons_self
      cases again with
      | unknown _ _ _ missing => simp [found] at missing
      | failed _ _ other _ later reason log known =>
          cases Option.some.inj (known.symm.trans found)
          obtain ⟨same, rfl⟩ := own _ _ (each _ List.mem_cons_self) rfl rfl rfl
          cases same
          exact ⟨rfl, rfl⟩
      | next _ _ other _ between log rest ended known gathers =>
          cases Option.some.inj (known.symm.trans found)
          obtain ⟨same, _⟩ := own _ _ (each _ List.mem_cons_self) rfl rfl rfl
          cases same
  | next name rest target before between made inner ended found gathers ih =>
      obtain ⟨own, later⟩ := List.forall_mem_cons.mp determined
      cases again with
      | unknown _ _ _ missing => simp [found] at missing
      | failed _ _ other _ after fault log known =>
          cases Option.some.inj (known.symm.trans found)
          obtain ⟨same, _⟩ := own _ _ (each _ List.mem_cons_self) rfl rfl rfl
          cases same
      | next _ _ other _ stop log others reached known again =>
          cases Option.some.inj (known.symm.trans found)
          obtain ⟨first, rest⟩ := List.forall_mem_cons.mp each
          obtain ⟨same, rfl⟩ := own _ _ first rfl rfl rfl
          cases same
          obtain ⟨rfl, rfl⟩ := ih others reached later again rest
          exact ⟨rfl, rfl⟩

theorem ends_unique (visit : Visit) (made : List Visit) (ends : network.Ends catalog visit made) :
    network.Determined catalog visit made := by
  have equal (visit other : Visit) (way : other.path = visit.path)
      (who : other.station = visit.station) (start : other.before = visit.before)
      (stop : other.outcome = visit.outcome) : other = visit := by
    cases visit
    cases other
    simp_all
  induction ends with
  | resolved visit met ended =>
      intro other others again way who start
      have found : other.before.progress other.station.hostname = .resolved := by rwa [start, who]
      cases again with
      | resolved _ _ stop =>
          have same := equal visit other way who start (by rw [stop, ended, start])
          exact ⟨same, by rw [same]⟩
      | busy _ busy _ => simp [found] at busy
      | worked _ _ _ works => simp [Visit.Works, found] at works
  | busy visit met ended =>
      intro other others again way who start
      have found : other.before.progress other.station.hostname = .inProgress := by rwa [start, who]
      cases again with
      | resolved _ resolved _ => simp [found] at resolved
      | busy _ _ stop =>
          have same := equal visit other way who start (by rw [stop, ended, start, way, who])
          exact ⟨same, by rw [same]⟩
      | worked _ _ _ works => simp [Visit.Works, found] at works
  | worked visit inner gathered works gathers each ended ih =>
      intro other others again way who start
      have found : other.before.progress other.station.hostname = .pending := by rwa [start, who]
      cases again with
      | resolved _ resolved _ => simp [found] at resolved
      | busy _ busy _ => simp [found] at busy
      | worked _ searches reached _ again all stop =>
          rw [way, who, start] at again
          obtain ⟨rfl, rfl⟩ := network.gathers_unique catalog _ _ _ _ inner searches gathered reached
            gathers ih again all
          have same := equal visit other way who start (by rw [stop, ended, who])
          exact ⟨same, by rw [same]⟩

end Network
end FieldConfig
