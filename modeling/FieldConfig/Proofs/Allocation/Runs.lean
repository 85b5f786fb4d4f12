import FieldConfig.Proofs.Allocation.Counting
import Mathlib.Data.List.SplitBy
import Mathlib.Order.Interval.Finset.Nat

set_option autoImplicit false

-- Addresses run by run. A run starts at the first register of an area and at each one that has a
-- number of its own; the registers in it take one address after the other.
namespace FieldConfig

structure Run where
  first : Nat
  places : List Nat
deriving DecidableEq, Repr

namespace Run

def interval (run : Run) : Finset Nat := Finset.Ico run.first (run.first + run.places.length)

def Holds (run : Run) (place address : Nat) : Prop :=
  ∃ offset, run.places[offset]? = some place ∧ address = run.first + offset

theorem holds_inside (run : Run) (place address : Nat) (holds : run.Holds place address) :
    place ∈ run.places ∧ address ∈ run.interval := by
  obtain ⟨offset, found, rfl⟩ := holds
  obtain ⟨inside, _⟩ := List.getElem?_eq_some_iff.mp found
  refine ⟨List.mem_of_getElem? found, Finset.mem_Ico.mpr ?_⟩
  omega

theorem interval_held (run : Run) (address : Nat) (inside : address ∈ run.interval) :
    ∃ place, run.Holds place address := by
  obtain ⟨low, high⟩ := Finset.mem_Ico.mp inside
  have short : address - run.first < run.places.length := by omega
  exact ⟨_, address - run.first, List.getElem?_eq_getElem short, by omega⟩

theorem holds_once (run : Run) (place other address : Nat) (holds : run.Holds place address)
    (again : run.Holds other address) : place = other := by
  obtain ⟨offset, found, rfl⟩ := holds
  obtain ⟨_, met, same⟩ := again
  rw [← Nat.add_left_cancel same, found] at met
  exact Option.some.inj met

end Run

namespace OverrideTable

def cut (overrides : OverrideTable) (items : List (Register × Nat)) :
    List (List (Register × Nat)) :=
  items.splitBy fun _ next => (overrides.manual next.1).isNone

def runs (overrides : OverrideTable) (base : Nat) (items : List (Register × Nat)) : List Run :=
  (overrides.cut items).map fun group =>
    ⟨((group.head?.bind fun item => overrides.manual item.1).map UInt32.toNat).getD base,
      group.map Prod.snd⟩

-- The registers of an area take their numbers, and those without one count on.
structure Counts (overrides : OverrideTable) (base : Nat) (items : List (Register × Nat))
    (taken : Nat → Nat) : Prop where
  numbered : ∀ item ∈ items, ∀ number, overrides.manual item.1 = some number →
    taken item.2 = number.toNat
  first : ∀ item ∈ items.head?, overrides.manual item.1 = none → taken item.2 = base
  next : items.IsChain fun item later =>
    overrides.manual later.1 = none → taken later.2 = taken item.2 + 1

variable (overrides : OverrideTable) (base : Nat) (items : List (Register × Nat))

theorem runs_places :
    (overrides.runs base items).flatMap Run.places = items.map Prod.snd := by
  have whole : (overrides.cut items).flatten = items := List.flatten_splitBy _ _
  rw [runs, List.flatMap_map, ← whole, List.map_flatten, whole]
  rfl

theorem cut_member (group : List (Register × Nat)) (member : group ∈ overrides.cut items)
    (item : Register × Nat) (among : item ∈ group) : item ∈ items := by
  rw [← List.flatten_splitBy (fun _ next => (overrides.manual next.1).isNone) items]
  exact List.mem_flatten.mpr ⟨group, member, among⟩

theorem run_first (run : Run) (member : run ∈ overrides.runs base items) :
    run.first = base ∨
      ∃ item ∈ items, ∃ number, overrides.manual item.1 = some number ∧ run.first = number.toNat := by
  obtain ⟨group, among, rfl⟩ := List.mem_map.mp member
  cases starts : group.head?.bind fun item => overrides.manual item.1 with
  | none => exact .inl rfl
  | some number =>
      obtain ⟨item, head, given⟩ := Option.bind_eq_some_iff.mp starts
      have known := overrides.cut_member items group among item (List.mem_of_mem_head? head)
      exact .inr ⟨item, known, number, given, rfl⟩

theorem runs_unnumbered (free : ∀ item ∈ items, overrides.manual item.1 = none) :
    (overrides.runs base items).length ≤ 1 := by
  cases items with
  | nil => simp [runs, cut]
  | cons item rest =>
      have together : (item :: rest).IsChain fun _ next =>
          (overrides.manual next.1).isNone = true :=
        List.isChain_iff_getElem.mpr fun i inside => by
          rw [free _ (List.getElem_mem inside), Option.isNone_none]
      rw [runs, cut, List.splitBy_of_isChain (List.cons_ne_nil _ _) together]
      simp

theorem cut_free (group : List (Register × Nat)) (member : group ∈ overrides.cut items)
    (item : Register × Nat) (head : group.head? = some item)
    (free : overrides.manual item.1 = none) : items.head? = some item := by
  obtain ⟨before, after, parts⟩ := List.append_of_mem member
  have apart := List.isChain_getLast_head_splitBy
    (fun _ next : Register × Nat => (overrides.manual next.1).isNone) items
  rw [← cut, parts, List.isChain_append] at apart
  have whole : items = (overrides.cut items).flatten := by rw [cut, List.flatten_splitBy]
  cases before using List.reverseRecOn with
  | nil => rw [whole, parts, List.nil_append, List.flatten_cons, List.head?_append, head]; rfl
  | append_singleton earlier last =>
      obtain ⟨_, _, numbered⟩ := apart.2.2 last (by simp) group (by simp)
      rw [(List.head_eq_iff_head?_eq_some _).mpr head, free] at numbered
      cases numbered

variable {overrides base items} {taken : Nat → Nat}

theorem group_counts (counts : overrides.Counts base items taken)
    (group : List (Register × Nat)) (member : group ∈ overrides.cut items)
    (head : Register × Nat) (starts : group.head? = some head) :
    taken head.2 = ((overrides.manual head.1).map UInt32.toNat).getD base := by
  have among := overrides.cut_member items group member head (List.mem_of_mem_head? starts)
  cases given : overrides.manual head.1 with
  | some number => exact counts.numbered head among number given
  | none => exact counts.first head (overrides.cut_free items group member head starts given) given

theorem run_counts (counts : overrides.Counts base items taken) (run : Run)
    (member : run ∈ overrides.runs base items) (offset place : Nat)
    (found : run.places[offset]? = some place) : taken place = run.first + offset := by
  obtain ⟨group, among, rfl⟩ := List.mem_map.mp member
  have part : group <:+: items := by
    have inside := List.infix_of_mem_flatten among
    rwa [cut, List.flatten_splitBy] at inside
  have next := counts.next.infix part
  have free := List.isChain_of_mem_splitBy among
  simp only [List.getElem?_map] at found ⊢
  induction offset generalizing place with
  | zero =>
      obtain ⟨head, starts, rfl⟩ := Option.map_eq_some_iff.mp found
      rw [← List.head?_eq_getElem?] at starts
      rw [group_counts counts group among head starts, starts, Option.bind_some, Nat.add_zero]
  | succ offset ih =>
      obtain ⟨item, here, rfl⟩ := Option.map_eq_some_iff.mp found
      obtain ⟨inside, rfl⟩ := List.getElem?_eq_some_iff.mp here
      have before : group[offset]? = some group[offset] := List.getElem?_eq_getElem (by omega)
      rw [List.isChain_iff_getElem.mp next offset inside
          (Option.isNone_iff_eq_none.mp (List.isChain_iff_getElem.mp free offset inside)),
        ih group[offset].2 (by rw [before]; rfl), Nat.add_assoc]

end OverrideTable

namespace Allocation.Numbering

variable {Area Answer : Type} [DecidableEq Area] (numbering : Numbering Area Answer)
  (overrides : OverrideTable)

def placed (area : Area) (registers : List Register) : List (Register × Nat) :=
  registers.zipIdx.filter (numbering.area ·.1 = area)

def runs (area : Area) (registers : List Register) : List Run :=
  overrides.runs (numbering.base area) (numbering.placed area registers)

def address (registers : List Register) (place : Nat) : Nat :=
  (registers[place]?.map (numbering.due overrides (registers.take (place + 1)))).getD 0

theorem placed_own (done : List Register) (register : Register) :
    numbering.placed (numbering.area register) (done ++ [register]) =
      numbering.placed (numbering.area register) done ++ [(register, done.length)] := by
  simp [placed, List.zipIdx_append]

theorem placed_other (done : List Register) (register : Register) (area : Area)
    (other : numbering.area register ≠ area) :
    numbering.placed area (done ++ [register]) = numbering.placed area done := by
  simp [placed, List.zipIdx_append, other]

theorem mem_placed (area : Area) (registers : List Register) (register : Register) (place : Nat) :
    (register, place) ∈ numbering.placed area registers ↔
      registers[place]? = some register ∧ numbering.area register = area := by
  rw [placed, List.mem_filter, List.mk_mem_zipIdx_iff_getElem?, decide_eq_true_iff]

theorem address_found (registers : List Register) (place : Nat) (register : Register)
    (found : registers[place]? = some register) :
    numbering.address overrides registers place =
      numbering.due overrides (registers.take (place + 1)) register := by
  rw [address, found]
  rfl

theorem address_next (done rest : List Register) (register : Register) :
    numbering.address overrides (done ++ register :: rest) done.length =
      numbering.due overrides (done ++ [register]) register := by
  have found : (done ++ register :: rest)[done.length]? = some register := by simp
  rw [numbering.address_found overrides _ _ _ found, List.take_append,
    List.take_of_length_le (Nat.le_succ _)]
  simp

-- What the registers done so far say of the addresses in an area, and where its counter stands.
structure Reaching (whole done : List Register) (area : Area) : Prop where
  first : ∀ item ∈ (numbering.placed area done).head?, overrides.manual item.1 = none →
    numbering.address overrides whole item.2 = numbering.base area
  next : (numbering.placed area done).IsChain fun item later =>
    overrides.manual later.1 = none →
      numbering.address overrides whole later.2 = numbering.address overrides whole item.2 + 1
  reached : overrides.reached (numbering.base area) (numbering.sharing area done) =
    ((numbering.placed area done).getLast?.map fun item =>
      numbering.address overrides whole item.2 + 1).getD (numbering.base area)

theorem reaching_next (whole done rest : List Register) (register : Register) (area : Area)
    (parts : whole = done ++ register :: rest)
    (fits : numbering.address overrides whole done.length < counterLimit)
    (reaching : numbering.Reaching overrides whole done area) :
    numbering.Reaching overrides whole (done ++ [register]) area := by
  by_cases own : numbering.area register = area
  · subst own
    have taken : numbering.address overrides whole done.length =
        overrides.candidate (numbering.base (numbering.area register))
          (numbering.sharing (numbering.area register) done ++ [register]) := by
      rw [parts, address_next, due, sharing_own]
    have follows (free : overrides.manual register = none) :=
      taken.trans (overrides.candidate_follows _ _ register free)
    rw [reaching.reached] at follows
    refine ⟨?_, ?_, ?_⟩
    · rw [placed_own]
      cases earlier : numbering.placed (numbering.area register) done with
      | nil =>
          rw [earlier] at follows
          rintro item ⟨⟩ free
          exact follows free
      | cons item others =>
          have first := reaching.first
          rw [earlier] at first
          exact first
    · rw [placed_own, List.isChain_append]
      refine ⟨reaching.next, .singleton _, fun item last later only free => ?_⟩
      cases only
      rw [follows free, Option.mem_def.mp last]
      rfl
    · rw [sharing_own, overrides.reached_next, ← taken, placed_own, List.getLast?_concat]
      exact Nat.min_eq_left fits
  · obtain ⟨first, next, reached⟩ := reaching
    constructor
    · rwa [placed_other _ _ _ _ own]
    · rwa [placed_other _ _ _ _ own]
    · rwa [placed_other _ _ _ _ own, sharing_other _ _ _ _ own]

theorem reaching_each (whole done rest : List Register) (parts : whole = done ++ rest)
    (fits : ∀ place < whole.length, numbering.address overrides whole place < counterLimit)
    (area : Area) : numbering.Reaching overrides whole done area := by
  induction done using List.reverseRecOn generalizing rest with
  | nil =>
      refine ⟨by simp [placed], by simp [placed], ?_⟩
      exact overrides.reached_start _ (numbering.fits area)
  | append_singleton done register ih =>
      rw [List.append_assoc] at parts
      exact numbering.reaching_next overrides whole done rest register area parts
        (fits _ (by simp [parts])) (ih _ parts)

theorem counts (registers : List Register)
    (fits : ∀ place < registers.length,
      numbering.address overrides registers place < counterLimit) (area : Area) :
    overrides.Counts (numbering.base area) (numbering.placed area registers)
      (numbering.address overrides registers) := by
  obtain ⟨first, next, _⟩ := numbering.reaching_each overrides registers registers []
    (List.append_nil _).symm fits area
  refine ⟨fun item member number given => ?_, first, next⟩
  obtain ⟨found, rfl⟩ := (numbering.mem_placed area registers item.1 item.2).mp member
  obtain ⟨inside, here⟩ := List.getElem?_eq_some_iff.mp found
  rw [numbering.address_found overrides registers item.2 item.1 found, due,
    ← List.take_append_getElem inside, here, sharing_own]
  exact overrides.candidate_numbered _ _ item.1 number given

theorem placed_distinct (area : Area) (registers : List Register) :
    ((numbering.placed area registers).map Prod.snd).Nodup := by
  refine (List.filter_sublist.map Prod.snd).nodup ?_
  rw [List.zipIdx_map_snd]
  exact List.nodup_range'

theorem mem_runs (area : Area) (registers : List Register) (place : Nat) :
    (∃ run ∈ numbering.runs overrides area registers, place ∈ run.places) ↔
      ∃ register, registers[place]? = some register ∧ numbering.area register = area := by
  rw [← List.mem_flatMap (f := Run.places), runs, overrides.runs_places, List.mem_map]
  constructor
  · rintro ⟨item, member, rfl⟩
    exact ⟨item.1, (numbering.mem_placed area registers item.1 item.2).mp member⟩
  · rintro ⟨register, found, own⟩
    exact ⟨(register, place), (numbering.mem_placed area registers register place).mpr ⟨found, own⟩,
      rfl⟩

def Takes (registers : List Register) (area : Area) (place address : Nat) : Prop :=
  numbering.address overrides registers place = address ∧
    ∃ register, registers[place]? = some register ∧ numbering.area register = area

section

variable (registers : List Register)
  (fits : ∀ place < registers.length, numbering.address overrides registers place < counterLimit)

include fits

theorem takes_iff (area : Area) (place address : Nat) :
    numbering.Takes overrides registers area place address ↔
      ∃ run ∈ numbering.runs overrides area registers, run.Holds place address := by
  have counted := OverrideTable.run_counts (numbering.counts overrides registers fits area)
  constructor
  · rintro ⟨rfl, own⟩
    obtain ⟨run, member, among⟩ := (numbering.mem_runs overrides area registers place).mpr own
    obtain ⟨offset, found⟩ := List.mem_iff_getElem?.mp among
    exact ⟨run, member, offset, found, counted run member offset place found⟩
  · rintro ⟨run, member, offset, found, rfl⟩
    exact ⟨counted run member offset place found,
      (numbering.mem_runs overrides area registers place).mp
        ⟨run, member, List.mem_of_getElem? found⟩⟩

theorem shared_iff (area : Area) (place other address : Nat) (different : place ≠ other) :
    (numbering.Takes overrides registers area place address ∧
        numbering.Takes overrides registers area other address) ↔
      ∃ run ∈ numbering.runs overrides area registers,
        ∃ second ∈ numbering.runs overrides area registers,
          run ≠ second ∧ run.Holds place address ∧ second.Holds other address := by
  rw [numbering.takes_iff overrides registers fits, numbering.takes_iff overrides registers fits]
  constructor
  · rintro ⟨⟨run, member, holds⟩, second, among, again⟩
    refine ⟨run, member, second, among, fun same => different ?_, holds, again⟩
    exact run.holds_once place other address holds (same ▸ again)
  · rintro ⟨run, member, second, among, _, holds, again⟩
    exact ⟨⟨run, member, holds⟩, second, among, again⟩

theorem apart_iff (area : Area) :
    (∀ place other address, numbering.Takes overrides registers area place address →
        numbering.Takes overrides registers area other address → place = other) ↔
      (numbering.runs overrides area registers).Pairwise fun run second =>
        Disjoint run.interval second.interval := by
  constructor
  · intro apart
    have places := numbering.placed_distinct area registers
    rw [← overrides.runs_places (numbering.base area), ← runs, List.nodup_flatMap] at places
    refine places.2.imp_of_mem fun {run second} member among disjoint => ?_
    refine Finset.disjoint_left.mpr fun address inside within => ?_
    obtain ⟨place, holds⟩ := run.interval_held address inside
    obtain ⟨other, again⟩ := second.interval_held address within
    have same := apart place other address
      ((numbering.takes_iff overrides registers fits area place address).mpr ⟨run, member, holds⟩)
      ((numbering.takes_iff overrides registers fits area other address).mpr ⟨second, among, again⟩)
    exact disjoint (run.holds_inside place address holds).1
      (same ▸ (second.holds_inside other address again).1)
  · intro disjoint place other address taken again
    by_contra different
    obtain ⟨run, member, second, among, apart, holds, met⟩ :=
      (numbering.shared_iff overrides registers fits area place other address different).mp
        ⟨taken, again⟩
    have symmetric : Std.Symm fun run second : Run => Disjoint run.interval second.interval :=
      ⟨fun _ _ disjoint => disjoint.symm⟩
    exact Finset.disjoint_left.mp (disjoint.forall member among apart)
      (run.holds_inside place address holds).2 (second.holds_inside other address met).2

end

end Allocation.Numbering
end FieldConfig
