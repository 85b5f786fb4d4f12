import FieldConfig.Proofs.Resolution.Search

set_option autoImplicit false

namespace FieldConfig.Network

inductive Call where
  | resolve (hostname : String)
  | resolveAll
deriving DecidableEq, Repr

def perform (network : Network) (catalog : Catalog) (resolution : Resolution) :
    Call → Resolution × Except CompileError Unit
  | .resolve hostname => network.resolve catalog hostname resolution
  | .resolveAll => network.resolveAll catalog resolution

def run (network : Network) (catalog : Catalog) (resolution : Resolution) (calls : List Call) :
    Resolution :=
  calls.foldl (fun resolution call => (network.perform catalog resolution call).1) resolution

def asked (network : Network) : Call → List Station
  | .resolve hostname => (network.station? hostname).toList
  | .resolveAll => network.byRole

def Answered (network : Network) (catalog : Catalog) (stations : List Station)
    (before after : Resolution) : Except CompileError Unit → Prop
  | .ok () => (∀ station ∈ stations, after.progress station.hostname = .resolved) ∧
      after.busy = before.busy
  | .error fault => ∃ station ∈ stations, ∃ trail,
      Failure network catalog [] before.busy station.hostname trail fault ∧
        after.busy = before.busy ∪ {name | name ∈ trail}

theorem station_settles (network : Network) (catalog : Catalog) (station : Station)
    (before : Resolution) (member : station ∈ network.stations) :
    network.Steps catalog before (network.resolveStation catalog station before).1 ∧
      network.Settled catalog [] station.hostname before
        (network.resolveStation catalog station before).1
        (network.resolveStation catalog station before).2 :=
  network.visit_settles catalog network.stations.length [] station member before
    List.countP_le_length

theorem each_answered (network : Network) (catalog : Catalog) (stations : List Station)
    (before : Resolution) (members : ∀ station ∈ stations, station ∈ network.stations) :
    network.Steps catalog before (network.resolveEach catalog stations before).1 ∧
      network.Answered catalog stations before (network.resolveEach catalog stations before).1
        (network.resolveEach catalog stations before).2 := by
  induction stations generalizing before with
  | nil => exact ⟨.refl, by simp, rfl⟩
  | cons station rest ih =>
      obtain ⟨steps, settled⟩ := network.station_settles catalog station before (members station (by simp))
      rcases first : network.resolveStation catalog station before with ⟨between, fault | done⟩
      · rw [first] at steps settled
        obtain ⟨trail, failure, busy⟩ := settled
        simp only [resolveEach, first]
        exact ⟨steps, station, by simp, trail, failure, busy⟩
      · rw [first] at steps settled
        obtain ⟨resolved, busy⟩ := settled
        obtain ⟨stepsRest, answered⟩ := ih between fun other member => members other (by simp [member])
        simp only [resolveEach, first]
        refine ⟨steps.trans stepsRest, ?_⟩
        cases result : (network.resolveEach catalog rest between).2 with
        | error fault =>
            rw [result] at answered
            obtain ⟨other, member, trail, failure, left⟩ := answered
            rw [busy] at failure left
            exact ⟨other, by simp [member], trail, failure, left⟩
        | ok finished =>
            rw [result] at answered
            have onward := network.steps_onward catalog _ _ stepsRest
            have still := (onward.resolved station.hostname resolved).1
            exact ⟨by simpa [still] using answered.1, answered.2.trans busy⟩

theorem call_answered (network : Network) (catalog : Catalog) (before : Resolution) (call : Call) :
    (∃ hostname, call = .resolve hostname ∧ network.station? hostname = none ∧
      network.perform catalog before call = (before, .error (.unknownDevice hostname))) ∨
    (network.Steps catalog before (network.perform catalog before call).1 ∧
      network.Answered catalog (network.asked call) before (network.perform catalog before call).1
        (network.perform catalog before call).2) := by
  cases call with
  | resolveAll =>
      exact .inr (network.each_answered catalog network.byRole before fun station member =>
        (network.member_by_role station).mp member)
  | resolve hostname =>
      cases found : network.station? hostname with
      | none => exact .inl ⟨hostname, rfl, found, by simp [perform, resolve, found]⟩
      | some station =>
          right
          obtain ⟨member, -⟩ := network.station_found hostname station found
          obtain ⟨steps, settled⟩ := network.station_settles catalog station before member
          simp only [perform, resolve, found, asked, Option.toList_some]
          refine ⟨steps, ?_⟩
          cases result : (network.resolveStation catalog station before).2 with
          | error fault =>
              rw [result] at settled
              exact ⟨station, by simp, settled⟩
          | ok done =>
              rw [result] at settled
              exact ⟨by simpa using settled.1, settled.2⟩

theorem call_steps (network : Network) (catalog : Catalog) (before : Resolution) (call : Call) :
    network.Steps catalog before (network.perform catalog before call).1 := by
  rcases network.call_answered catalog before call with ⟨hostname, _, _, same⟩ | ⟨steps, _⟩
  · rw [same]
  · exact steps

theorem run_steps (network : Network) (catalog : Catalog) (before : Resolution) (calls : List Call) :
    network.Steps catalog before (network.run catalog before calls) := by
  induction calls generalizing before with
  | nil => exact .refl
  | cons call rest ih => exact (network.call_steps catalog before call).trans (ih _)

theorem run_append (network : Network) (catalog : Catalog) (before : Resolution)
    (earlier later : List Call) :
    network.run catalog before (earlier ++ later) =
      network.run catalog (network.run catalog before earlier) later :=
  List.foldl_append

end FieldConfig.Network
