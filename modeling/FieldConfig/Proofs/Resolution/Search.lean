import FieldConfig.Proofs.Resolution.Step

set_option autoImplicit false

-- How a search ends: its device resolved and nothing left in progress that was not before, or a
-- fault and a trail of devices left in progress, each polling the next.
namespace FieldConfig.Network

def Polls (network : Network) (asker name : String) : Prop :=
  ∃ station, network.station? asker = some station ∧ name ∈ station.device.polled

-- The search at `start`, reached by `path` while `busy` devices are in progress, enters the devices
-- of the trail and stops at the last of them.
inductive Failure (network : Network) (catalog : Catalog) :
    List String → Set String → String → List String → CompileError → Prop where
  | looped (path : List String) (busy : Set String) (name : String) (met : name ∈ busy) :
      Failure network catalog path busy name [] (.cycle (closeWalk path name))
  | unknown (path : List String) (busy : Set String) (asker name : String) (idle : asker ∉ busy)
      (polls : network.Polls asker name) (missing : network.station? name = none) :
      Failure network catalog path busy asker [asker] (.unresolvedReference asker name)
  | refused (path : List String) (busy : Set String) (station : Station)
      (exposed : List RegisterSet) (fault : CompileError) (idle : station.hostname ∉ busy)
      (member : station ∈ network.stations)
      (refused : station.device.collect catalog exposed = .error fault) :
      Failure network catalog path busy station.hostname [station.hostname] fault
  | deeper (path : List String) (busy : Set String) (asker name : String) (trail : List String)
      (fault : CompileError) (idle : asker ∉ busy) (polls : network.Polls asker name)
      (below : Failure network catalog (path ++ [asker]) (insert asker busy) name trail fault) :
      Failure network catalog path busy asker (asker :: trail) fault

def Settled (network : Network) (catalog : Catalog) (path : List String) (start : String)
    (before after : Resolution) : Except CompileError Unit → Prop
  | .ok () => after.progress start = .resolved ∧ after.busy = before.busy
  | .error fault => ∃ trail, Failure network catalog path before.busy start trail fault ∧
      after.busy = before.busy ∪ {name | name ∈ trail}

def Gathered (network : Network) (catalog : Catalog) (path : List String) (asker : String)
    (names : List String) (before after : Resolution) : Except CompileError (List RegisterSet) → Prop
  | .ok sets => after.busy = before.busy ∧ ∃ targets : List Station,
      names.map network.station? = targets.map some ∧
        (∀ target ∈ targets, after.progress target.hostname = .resolved) ∧
        sets = targets.map after.exposed
  | .error fault => ∃ name ∈ names,
      (network.station? name = none ∧ fault = .unresolvedReference asker name ∧
        after.busy = before.busy) ∨
      ∃ trail, Failure network catalog path before.busy name trail fault ∧
        after.busy = before.busy ∪ {name | name ∈ trail}

-- Every search that still has depth for all pending devices ends well.
def Settles (network : Network) (catalog : Catalog) (path : List String) (depth : Nat)
    (search : Station → Resolution → Resolution × Except CompileError Unit) : Prop :=
  ∀ station ∈ network.stations, ∀ before, network.pendingCount before ≤ depth →
    network.Steps catalog before (search station before).1 ∧
      network.Settled catalog path station.hostname before (search station before).1
        (search station before).2

theorem gather_next (network : Network) (asker name : String) (rest : List String)
    (search : Station → Resolution → Resolution × Except CompileError Unit) (target : Station)
    (before between : Resolution) (found : network.station? name = some target)
    (done : search target before = (between, .ok ())) :
    network.gather asker search (name :: rest) before =
      ((network.gather asker search rest between).1,
        (network.gather asker search rest between).2.map (between.exposed target :: ·)) := by
  rw [gather, found]
  simp only [done]
  rcases network.gather asker search rest between with ⟨after, fault | others⟩ <;> rfl

theorem gathered_next (network : Network) (catalog : Catalog) (path : List String)
    (asker name : String) (rest : List String) (target : Station)
    (before between after : Resolution) (result : Except CompileError (List RegisterSet))
    (found : network.station? name = some target)
    (resolved : between.progress target.hostname = .resolved) (busy : between.busy = before.busy)
    (onward : between.Onward after)
    (gathered : network.Gathered catalog path asker rest between after result) :
    network.Gathered catalog path asker (name :: rest) before after
      (result.map (between.exposed target :: ·)) := by
  cases result with
  | error fault =>
      obtain ⟨other, among, problem⟩ := gathered
      rw [busy] at problem
      exact ⟨other, List.mem_cons_of_mem _ among, problem⟩
  | ok sets =>
      obtain ⟨sameBusy, targets, known, ready, exposed⟩ := gathered
      -- What the first target exposed then is what it exposes now.
      have same := Resolution.onward_exposed _ _ onward target resolved
      have still := (onward.resolved target.hostname resolved).1
      refine ⟨sameBusy.trans busy, target :: targets, ?_, ?_, ?_⟩
      · simp [found, known]
      · simpa [still] using ready
      · simp [exposed, same]

theorem gather_settles (network : Network) (catalog : Catalog) (path : List String) (depth : Nat)
    (asker : String) (search : Station → Resolution → Resolution × Except CompileError Unit)
    (settles : network.Settles catalog path depth search) (names : List String)
    (before : Resolution) (enough : network.pendingCount before ≤ depth) :
    network.Steps catalog before (network.gather asker search names before).1 ∧
      network.Gathered catalog path asker names before (network.gather asker search names before).1
        (network.gather asker search names before).2 := by
  induction names generalizing before with
  | nil => exact ⟨.refl, rfl, [], rfl, by simp, rfl⟩
  | cons name rest ih =>
      cases found : network.station? name with
      | none =>
          simp only [gather, found]
          exact ⟨.refl, name, by simp, .inl ⟨found, rfl, rfl⟩⟩
      | some target =>
          obtain ⟨member, named⟩ := network.station_found name target found
          obtain ⟨steps, settled⟩ := settles target member before enough
          rcases first : search target before with ⟨between, fault | done⟩
          · rw [first] at steps settled
            obtain ⟨trail, failure, busy⟩ := settled
            simp only [gather, found, first]
            exact ⟨steps, name, by simp, .inr ⟨trail, named ▸ failure, busy⟩⟩
          · rw [first] at steps settled
            obtain ⟨resolved, busy⟩ := settled
            have onward := network.steps_onward catalog _ _ steps
            have left : network.pendingCount between ≤ depth :=
              (network.pending_onward _ _ onward).trans enough
            obtain ⟨stepsRest, gathered⟩ := ih between left
            rw [network.gather_next asker name rest search target before between found first]
            exact ⟨steps.trans stepsRest, network.gathered_next catalog path asker name rest target
              before between _ _ found resolved busy (network.steps_onward catalog _ _ stepsRest)
              gathered⟩

theorem polls_of_member (network : Network) (station : Station) (name : String)
    (member : station ∈ network.stations) (polled : name ∈ station.device.polled) :
    network.Polls station.hostname name :=
  ⟨station, network.station_member station member, polled⟩

theorem failure_climbs (network : Network) (catalog : Catalog) (path : List String)
    (station : Station) (before between : Resolution) (fault : CompileError)
    (member : station ∈ network.stations) (idle : station.hostname ∉ before.busy)
    (gathered : network.Gathered catalog (path ++ [station.hostname]) station.hostname
      station.device.polled (before.enter station.hostname) between (.error fault)) :
    network.Settled catalog path station.hostname before between (.error fault) := by
  obtain ⟨name, among, ⟨missing, reason, busy⟩ | ⟨trail, below, busy⟩⟩ := gathered
  · have polls := network.polls_of_member station name member among
    refine ⟨[station.hostname], ?_, ?_⟩
    · exact reason ▸ .unknown path before.busy station.hostname name idle polls missing
    · rw [busy, Resolution.busy_enter]
      ext other
      simp [or_comm]
  · have polls := network.polls_of_member station name member among
    rw [Resolution.busy_enter] at below busy
    refine ⟨station.hostname :: trail, .deeper _ _ _ name _ _ idle polls below, ?_⟩
    rw [busy]
    ext other
    simp only [Set.mem_union, Set.mem_insert_iff, Set.mem_ofPred_eq, List.mem_cons]
    tauto

theorem conclude_settles (network : Network) (catalog : Catalog) (path : List String)
    (station : Station) (before between : Resolution)
    (result : Except CompileError (List RegisterSet)) (member : station ∈ network.stations)
    (pending : before.progress station.hostname = .pending)
    (steps : network.Steps catalog (before.enter station.hostname) between)
    (gathered : network.Gathered catalog (path ++ [station.hostname]) station.hostname
      station.device.polled (before.enter station.hostname) between result) :
    network.Steps catalog before (conclude catalog station (between, result)).1 ∧
      network.Settled catalog path station.hostname before
        (conclude catalog station (between, result)).1
        (conclude catalog station (between, result)).2 := by
  have entering : network.Step catalog before (before.enter station.hostname) :=
    .enter station member pending
  have stepsBetween := Relation.ReflTransGen.head entering steps
  have idle : station.hostname ∉ before.busy := by simp [Resolution.busy, pending]
  cases result with
  | error fault =>
      exact ⟨stepsBetween,
        network.failure_climbs catalog path station before between fault member idle gathered⟩
  | ok exposed =>
      obtain ⟨busy, targets, known, ready, sets⟩ := gathered
      rw [Resolution.busy_enter] at busy
      cases collected : station.device.collect catalog exposed with
      | error fault =>
          simp only [conclude, collected]
          refine ⟨stepsBetween, [station.hostname], ?_, ?_⟩
          · exact .refused path before.busy station exposed fault idle member collected
          · rw [busy]
            ext other
            simp [or_comm]
      | ok registers =>
          simp only [conclude, collected]
          have entered : between.progress station.hostname = .inProgress := by
            have here : station.hostname ∈ between.busy := busy ▸ Set.mem_insert _ _
            exact here
          have completing := Step.complete station targets registers member entered known ready
            (sets ▸ collected)
          refine ⟨stepsBetween.tail completing, by simp, ?_⟩
          rw [Resolution.busy_complete, busy]
          ext other
          by_cases same : other = station.hostname <;> simp [same, idle]

theorem visit_settles (network : Network) (catalog : Catalog) (depth : Nat) (path : List String) :
    network.Settles catalog path depth (network.visit catalog depth path) := by
  induction depth generalizing path with
  | zero =>
      intro station member before enough
      have idle : before.progress station.hostname ≠ .pending := by
        intro pending
        have fewer := network.pending_enter before station member pending
        omega
      cases progress : before.progress station.hostname with
      | pending => exact absurd progress idle
      | inProgress =>
          rw [visit, progress]
          exact ⟨.refl, [], .looped path before.busy station.hostname progress, by simp⟩
      | resolved =>
          rw [visit, progress]
          exact ⟨.refl, progress, rfl⟩
  | succ depth ih =>
      intro station member before enough
      cases progress : before.progress station.hostname with
      | inProgress =>
          rw [visit, progress]
          exact ⟨.refl, [], .looped path before.busy station.hostname progress, by simp⟩
      | resolved =>
          rw [visit, progress]
          exact ⟨.refl, progress, rfl⟩
      | pending =>
          have fewer := network.pending_enter before station member progress
          obtain ⟨steps, gathered⟩ := network.gather_settles catalog (path ++ [station.hostname]) depth
            station.hostname _ (ih (path ++ [station.hostname])) station.device.polled
            (before.enter station.hostname) (by omega)
          rw [visit, progress]
          exact network.conclude_settles catalog path station before _ _ member progress steps gathered

end FieldConfig.Network
