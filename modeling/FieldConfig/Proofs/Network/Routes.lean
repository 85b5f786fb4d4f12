import FieldConfig.Proofs.Network.Stations
import Mathlib.Data.Set.Card

set_option autoImplicit false

-- Ways along the references from a device to another, with nothing but gateways that serve in
-- between. A name that stands twice in a list makes two ways.
namespace FieldConfig.Network

def Refers (network : Network) (asker : String) (place : Nat) (name : String) : Prop :=
  ∃ station, network.station? asker = some station ∧ station.device.polled[place]? = some name

def Relays (network : Network) (name : String) : Prop :=
  ∃ station polled protocol, network.station? name = some station ∧
    station.device = .gateway polled (.serving protocol)

-- The way that takes, from device to device, the reference at the place given.
inductive Route (network : Network) (goal : String) : String → List Nat → Prop where
  | last (asker : String) (place : Nat) (refers : network.Refers asker place goal) :
      Route network goal asker [place]
  | through (asker name : String) (place : Nat) (way : List Nat)
      (refers : network.Refers asker place name) (relays : network.Relays name)
      (rest : Route network goal name way) : Route network goal asker (place :: way)

def Onto (network : Network) (goal name : String) (way : List Nat) : Prop :=
  (name = goal ∧ way = []) ∨ (network.Relays name ∧ network.Route goal name way)

def Enumerates (ways : List (List Nat)) (is : List Nat → Prop) : Prop :=
  ways.Nodup ∧ ∀ way, way ∈ ways ↔ is way

def branches (place : Nat) : List (List (List Nat)) → List (List Nat)
  | [] => []
  | onward :: rest => onward.map (place :: ·) ++ branches (place + 1) rest

theorem branches_length (place : Nat) (onward : List (List (List Nat))) :
    (branches place onward).length = (onward.map List.length).sum := by
  induction onward generalizing place with
  | nil => rfl
  | cons first rest ih => simp [branches, ih]

theorem mem_branches (place : Nat) (onward : List (List (List Nat))) (way : List Nat) :
    way ∈ branches place onward ↔ ∃ index ways tail, onward[index]? = some ways ∧ tail ∈ ways ∧
      way = (place + index) :: tail := by
  induction onward generalizing place with
  | nil => simp [branches]
  | cons first rest ih =>
      simp only [branches, List.mem_append, List.mem_map, ih]
      constructor
      · rintro (⟨tail, member, rfl⟩ | ⟨index, ways, tail, found, member, rfl⟩)
        · exact ⟨0, first, tail, rfl, member, rfl⟩
        · exact ⟨index + 1, ways, tail, found, member, by simp; omega⟩
      · rintro ⟨index, ways, tail, found, member, rfl⟩
        cases index with
        | zero =>
            cases found
            exact .inl ⟨tail, member, rfl⟩
        | succ index => exact .inr ⟨index, ways, tail, found, member, by simp; omega⟩

theorem branches_distinct (place : Nat) (onward : List (List (List Nat)))
    (distinct : ∀ ways ∈ onward, ways.Nodup) : (branches place onward).Nodup := by
  induction onward generalizing place with
  | nil => exact List.nodup_nil
  | cons first rest ih =>
      obtain ⟨here, later⟩ := List.forall_mem_cons.mp distinct
      refine List.nodup_append.mpr ⟨here.map fun _ _ same => (List.cons.inj same).2,
        ih (place + 1) later, fun way before other after same => ?_⟩
      obtain ⟨tail, _, rfl⟩ := List.mem_map.mp before
      obtain ⟨index, _, _, _, _, rfl⟩ := (mem_branches _ _ _).mp after
      have heads := (List.cons.inj same).1
      omega

theorem route_iff (network : Network) (goal asker : String) (way : List Nat) :
    network.Route goal asker way ↔ ∃ place name tail, network.Refers asker place name ∧
      network.Onto goal name tail ∧ way = place :: tail := by
  constructor
  · intro route
    cases route with
    | last _ place refers => exact ⟨place, goal, [], refers, .inl ⟨rfl, rfl⟩, rfl⟩
    | through _ name place tail refers relays rest =>
        exact ⟨place, name, tail, refers, .inr ⟨relays, rest⟩, rfl⟩
  · rintro ⟨place, name, tail, refers, ⟨rfl, rfl⟩ | ⟨relays, rest⟩, rfl⟩
    · exact .last asker place refers
    · exact .through asker name place tail refers relays rest

theorem names_of_targets (network : Network) (names : List String) (targets : List Station)
    (known : names.map network.station? = targets.map some) :
    names = targets.map Station.hostname := by
  induction names generalizing targets with
  | nil =>
      cases targets with
      | nil => rfl
      | cons => simp at known
  | cons name rest ih =>
      cases targets with
      | nil => simp at known
      | cons target others =>
          simp only [List.map_cons, List.cons.injEq] at known
          rw [List.map_cons, (network.station_found name target known.1).2, ← ih others known.2]

theorem branches_enumerate (network : Network) (goal : String) (station : Station)
    (inputs : List (Station × RegisterSet)) (onward : Station × RegisterSet → List (List Nat))
    (member : station ∈ network.stations)
    (known : station.device.polled.map network.station? = (inputs.map Prod.fst).map some)
    (enumerated : ∀ input ∈ inputs,
      Enumerates (onward input) (network.Onto goal input.1.hostname)) :
    Enumerates (branches 0 (inputs.map onward)) (network.Route goal station.hostname) := by
  constructor
  · refine branches_distinct 0 _ fun ways listed => ?_
    obtain ⟨input, among, rfl⟩ := List.mem_map.mp listed
    exact (enumerated input among).1
  · intro way
    have found := network.station_member station member
    have names := network.names_of_targets station.device.polled (inputs.map Prod.fst) known
    have refers : ∀ place name, network.Refers station.hostname place name ↔
        ∃ input, inputs[place]? = some input ∧ input.1.hostname = name := by
      intro place name
      simp only [Refers, found, Option.some.injEq, exists_eq_left', names, List.map_map,
        List.getElem?_map, Option.map_eq_some_iff, Function.comp_def]
    rw [mem_branches, route_iff]
    constructor
    · rintro ⟨place, ways, tail, listed, among, rfl⟩
      rw [List.getElem?_map, Option.map_eq_some_iff] at listed
      obtain ⟨input, here, rfl⟩ := listed
      have onto := ((enumerated input (List.mem_of_getElem? here)).2 tail).mp among
      exact ⟨place, input.1.hostname, tail, (refers place _).mpr ⟨input, here, rfl⟩, onto,
        by rw [Nat.zero_add]⟩
    · rintro ⟨place, name, tail, asked, onto, rfl⟩
      obtain ⟨input, here, rfl⟩ := (refers place name).mp asked
      have among := ((enumerated input (List.mem_of_getElem? here)).2 tail).mpr onto
      exact ⟨place, onward input, tail, by rw [List.getElem?_map, here]; rfl, among,
        by rw [Nat.zero_add]⟩

theorem not_relays (network : Network) (name : String) (station : Station)
    (found : network.station? name = some station)
    (silent : ∀ polled protocol, station.device ≠ .gateway polled (.serving protocol)) :
    ¬ network.Relays name := by
  rintro ⟨other, polled, protocol, same, kind⟩
  rw [found, Option.some.injEq] at same
  exact silent polled protocol (same ▸ kind)

theorem onto_none (network : Network) (goal name : String) (other : name ≠ goal)
    (silent : ¬ network.Relays name) : Enumerates [] (network.Onto goal name) := by
  refine ⟨List.nodup_nil, fun way => ?_⟩
  simp [Onto, other, silent]

theorem onto_goal (network : Network) (goal : String) (silent : ¬ network.Relays goal) :
    Enumerates [[]] (network.Onto goal goal) := by
  refine ⟨by simp, fun way => ?_⟩
  simp [Onto, silent]

theorem onto_relay (network : Network) (goal name : String) (other : name ≠ goal)
    (relays : network.Relays name) (ways : List (List Nat))
    (enumerated : Enumerates ways (network.Route goal name)) :
    Enumerates ways (network.Onto goal name) := by
  refine ⟨enumerated.1, fun way => ?_⟩
  simp [Onto, other, relays, enumerated.2]

theorem enumerated_card (ways : List (List Nat)) (is : List Nat → Prop)
    (enumerated : Enumerates ways is) : {way | is way}.Finite ∧ {way | is way}.ncard = ways.length := by
  have same : {way | is way} = ↑ways.toFinset := by
    ext way
    simp [← enumerated.2 way]
  rw [same]
  refine ⟨ways.toFinset.finite_toSet, ?_⟩
  rw [Set.ncard_coe_finset, List.toFinset_card_of_nodup enumerated.1]

end FieldConfig.Network
