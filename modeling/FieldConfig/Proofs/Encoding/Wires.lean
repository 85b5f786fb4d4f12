import FieldConfig.Proofs.Allocation.Dnp3
import FieldConfig.Proofs.Allocation.Modbus
import FieldConfig.Proofs.Allocation.Runs
import Mathlib.Data.List.NodupEquivFin

set_option autoImplicit false

-- What a section says on the wire: under which address each of its registers is reached. Two registers
-- meet on one address exactly where two runs of one area overlap.
namespace FieldConfig

inductive Wire where
  | modbus (table : ModbusTable) (address : Nat)
  | dnp3 (direction : Direction) (pointType : PointType) (address : Nat)
deriving DecidableEq, Repr

namespace Wire

def isOutput : Wire → Bool
  | .modbus _ _ | .dnp3 .input _ _ => false
  | .dnp3 .output _ _ => true

def input : Wire → Wire
  | .modbus table address => .modbus table address
  | .dnp3 .input pointType address => .dnp3 .input pointType address
  | .dnp3 .output pointType address => .dnp3 .input pointType (address - Allocation.outputOffset)

end Wire

def ModbusEntry.wire (entry : ModbusEntry) : Wire := .modbus entry.table entry.address

def Dnp3Point.wire (point : Dnp3Point) : Wire :=
  .dnp3 point.direction point.pointType point.address

namespace Section

def wires (s : Section) : List Wire :=
  match s.body with
  | .modbus entries => entries.map ModbusEntry.wire
  | .dnp3 _ points => points.map Dnp3Point.wire

def inputs (s : Section) : List Wire := s.wires.filter fun wire => !wire.isOutput

end Section

inductive AddressClass where
  | modbus (table : ModbusTable)
  | dnp3 (pointType : PointType)
deriving DecidableEq, Repr

namespace AddressClass

def ofPoint : Protocol → PointClass → AddressClass
  | .modbus, pointClass => .modbus (.ofPoint pointClass)
  | .dnp3, pointClass => .dnp3 (.ofPoint pointClass)

def base : AddressClass → Nat
  | .modbus table => table.base
  | .dnp3 _ => 0

def wire : AddressClass → Nat → Wire
  | .modbus table, address => .modbus table address
  | .dnp3 pointType, address => .dnp3 .input pointType address

theorem wire_inj (area other : AddressClass) (address second : Nat)
    (same : area.wire address = other.wire second) : area = other ∧ address = second := by
  cases area <;> cases other <;> cases same <;> exact ⟨rfl, rfl⟩

end AddressClass

theorem Section.input_classed (s : Section) (wire : Wire) (member : wire ∈ s.inputs) :
    ∃ area address, wire = AddressClass.wire area address := by
  have input := (List.mem_filter.mp member).2
  rcases wire with ⟨table, address⟩ | ⟨_ | _, pointType, address⟩
  · exact ⟨.modbus table, address, rfl⟩
  · exact ⟨.dnp3 pointType, address, rfl⟩
  · cases input

namespace Allocation

def wireNumbering (protocol : Protocol) : Numbering AddressClass Wire where
  area register := .ofPoint protocol register.pointClass
  base := AddressClass.base
  fits
    | .modbus table => by cases table <;> decide
    | .dnp3 _ => Nat.zero_le _
  answer register address := .ok ((AddressClass.ofPoint protocol register.pointClass).wire address)

end Allocation

def Register.wires (register : Register) (address : Nat) : Protocol → List Wire
  | .modbus => [.modbus (.ofPoint register.pointClass) address]
  | .dnp3 => (Allocation.dnp3Points register address).map Dnp3Point.wire

theorem Register.wires_inputs (register : Register) (address : Nat) (protocol : Protocol) :
    (register.wires address protocol).filter (fun wire => !wire.isOutput) =
      [(AddressClass.ofPoint protocol register.pointClass).wire address] := by
  cases protocol with
  | modbus => rfl
  | dnp3 =>
      rw [wires, Allocation.dnp3Points]
      split <;> rfl

namespace Allocation

variable (node : String) (mode : Mode) (overrides : OverrideTable)

namespace Numbering

variable {Area Answer : Type} [DecidableEq Area] (numbering : Numbering Area Answer)

theorem steps_address (registers : List Register) :
    numbering.steps overrides numbering.base registers = registers.zipIdx.map fun item =>
      numbering.answer item.1 (numbering.address overrides registers item.2) := by
  rw [numbering.steps_closed, List.mapIdx_eq_zipIdx_map]
  refine List.map_congr_left fun item member => ?_
  rw [numbering.address_found overrides registers item.2 item.1
    (List.mk_mem_zipIdx_iff_getElem?.mp member)]

theorem steps_answered (registers : List Register) (values : List Answer)
    (limit : Register × Nat → Prop) (value : Register × Nat → Answer)
    (answers : ∀ item answer,
      numbering.answer item.1 (numbering.address overrides registers item.2) = .ok answer →
        limit item ∧ value item = answer)
    (taken : numbering.steps overrides numbering.base registers = values.map .ok) :
    (∀ item ∈ registers.zipIdx, limit item) ∧ registers.zipIdx.map value = values := by
  rw [steps_address, ← List.forall₂_eq_eq_eq, List.forall₂_map_left_iff,
    List.forall₂_map_right_iff] at taken
  rw [← List.forall₂_eq_eq_eq, List.forall₂_map_left_iff, ← List.forall₂_and_left]
  exact taken.imp answers

theorem address_alike {Other Reply : Type} [DecidableEq Other] (other : Numbering Other Reply)
    (areas : ∀ register second, numbering.area register = numbering.area second ↔
      other.area register = other.area second)
    (bases : ∀ register, numbering.base (numbering.area register) = other.base (other.area register))
    (registers : List Register) :
    numbering.address overrides registers = other.address overrides registers := by
  have due (done : List Register) (register : Register) :
      numbering.due overrides done register = other.due overrides done register := by
    simp only [Numbering.due, sharing, areas, bases]
  exact funext fun place => by simp only [address, funext (due _)]

end Numbering

theorem modbus_address (registers : List Register) :
    (modbusNumbering node mode).address overrides registers =
      (wireNumbering .modbus).address overrides registers :=
  Numbering.address_alike overrides (modbusNumbering node mode) (wireNumbering .modbus)
    (fun _ _ => by simp [modbusNumbering, wireNumbering, AddressClass.ofPoint]) (fun _ => rfl)
    registers

theorem dnp3_address (registers : List Register) :
    (dnp3Numbering node).address overrides registers =
      (wireNumbering .dnp3).address overrides registers :=
  Numbering.address_alike overrides (dnp3Numbering node) (wireNumbering .dnp3)
    (fun _ _ => by simp [dnp3Numbering, wireNumbering, AddressClass.ofPoint]) (fun _ => rfl)
    registers

theorem modbus_dealt (registers : List Register) (entries : List ModbusEntry)
    (allocated : modbusEntries node mode overrides .start registers = .ok entries) :
    (∀ item ∈ registers.zipIdx, (wireNumbering .modbus).address overrides registers item.2 ≤
        (ModbusTable.ofPoint item.1.pointClass).last) ∧
      registers.zipIdx.map (fun item => ⟨.ofPoint item.1.pointClass,
        (wireNumbering .modbus).address overrides registers item.2, item.1.tag,
        modbusScaling mode item.1⟩) = entries := by
  rw [modbus_entries_steps, in_turn_ok, modbus_steps_numbered, modbus_start node mode] at allocated
  refine (modbusNumbering node mode).steps_answered overrides registers entries _ _
    (fun item entry answered => ?_) allocated
  rw [modbus_address] at answered
  simp only [modbusNumbering] at answered
  split at answered
  · next inside =>
      cases answered
      exact ⟨inside, rfl⟩
  · cases answered

theorem dnp3_dealt (registers : List Register) (points : List Dnp3Point)
    (allocated : dnp3Entries node overrides .start registers = .ok points) :
    (∀ item ∈ registers.zipIdx,
        (wireNumbering .dnp3).address overrides registers item.2 < outputOffset) ∧
      registers.zipIdx.flatMap (fun item =>
        dnp3Points item.1 ((wireNumbering .dnp3).address overrides registers item.2)) = points := by
  rw [dnp3_entries_steps] at allocated
  obtain ⟨groups, taken, rfl⟩ := map_ok _ _ points allocated
  rw [in_turn_ok, dnp3_steps_numbered, dnp3_start node] at taken
  obtain ⟨low, same⟩ := (dnp3Numbering node).steps_answered overrides registers groups
    (fun item => (wireNumbering .dnp3).address overrides registers item.2 < outputOffset)
    (fun item => dnp3Points item.1 ((wireNumbering .dnp3).address overrides registers item.2))
    (fun item group answered => by
      rw [dnp3_address] at answered
      simp only [dnp3Numbering] at answered
      split at answered
      · next inside =>
          cases answered
          exact ⟨inside, rfl⟩
      · cases answered)
    taken
  exact ⟨low, congrArg List.flatten same⟩

end Allocation

structure Wire.Paired (wires : List Wire) : Prop where
  first : ∀ wire ∈ wires.head?, wire.isOutput = false
  next : wires.IsChain fun previous wire => wire.isOutput → previous = wire.input

theorem Register.wires_paired (register : Register) (address : Nat) (protocol : Protocol) :
    Wire.Paired (register.wires address protocol) := by
  cases protocol with
  | modbus => exact ⟨by simp [wires, Wire.isOutput], .singleton _⟩
  | dnp3 =>
      rw [wires, Allocation.dnp3Points, List.map_cons]
      refine ⟨by rintro _ ⟨⟩; rfl, ?_⟩
      split
      · refine .cons_cons (fun _ => ?_) (.singleton _)
        exact congrArg (Wire.dnp3 _ _) (Nat.add_sub_cancel ..).symm
      · exact .singleton _

namespace Wire

theorem paired_append (first second : List Wire) (before : Paired first) (after : Paired second) :
    Paired (first ++ second) := by
  constructor
  · intro wire head
    rw [List.head?_append, Option.mem_def, Option.or_eq_some_iff] at head
    rcases head with here | ⟨_, later⟩
    · exact before.first wire here
    · exact after.first wire later
  · refine List.isChain_append.mpr ⟨before.next, after.next, fun _ _ wire head output => ?_⟩
    rw [after.first wire head] at output
    cases output

theorem paired_each {α : Type} (items : List α) (wires : α → List Wire)
    (each : ∀ item ∈ items, Paired (wires item)) : Paired (items.flatMap wires) := by
  induction items with
  | nil => exact ⟨by simp, .nil⟩
  | cons item rest ih =>
      obtain ⟨here, others⟩ := List.forall_mem_cons.mp each
      exact paired_append _ _ here (ih others)

theorem output_behind (wires : List Wire) (paired : Paired wires) (place : Nat) (wire : Wire)
    (found : wires[place]? = some wire) (output : wire.isOutput) :
    ∃ before, place = before + 1 ∧ wires[before]? = some wire.input := by
  cases place with
  | zero =>
      rw [← List.head?_eq_getElem?] at found
      rw [paired.first wire found] at output
      cases output
  | succ before =>
      obtain ⟨inside, rfl⟩ := List.getElem?_eq_some_iff.mp found
      have own := List.isChain_iff_getElem.mp paired.next before inside output
      exact ⟨before, rfl, own ▸ List.getElem?_eq_getElem (Nat.lt_of_succ_lt inside)⟩

theorem input_kept (wire : Wire) : wire.input.isOutput = false := by
  rcases wire with ⟨_, _⟩ | ⟨_ | _, _, _⟩ <;> rfl

theorem distinct_iff (wires : List Wire) (paired : Paired wires) :
    wires.Nodup ↔ (wires.filter fun wire => !wire.isOutput).Nodup := by
  have twice (wire : Wire) (input : wire.isOutput = false) (repeated : List.Duplicate wire wires) :
      ¬ (wires.filter fun wire => !wire.isOutput).Nodup := by
    intro distinct
    have pair := (List.duplicate_iff_sublist.mp repeated).filter fun wire => !wire.isOutput
    rw [List.filter_eq_self.mpr (by simp [input])] at pair
    exact List.nodup_iff_sublist.mp distinct wire pair
  refine ⟨fun distinct => distinct.filter _, fun distinct => ?_⟩
  refine List.nodup_iff_forall_not_duplicate.mpr fun wire repeated => ?_
  cases output : wire.isOutput with
  | false => exact twice wire output repeated distinct
  | true =>
      obtain ⟨n, m, less, first, second⟩ := List.duplicate_iff_exists_distinct_get.mp repeated
      obtain ⟨before, behind, here⟩ := output_behind wires paired n wire
        (by rw [List.getElem?_eq_getElem n.isLt, first]; rfl) output
      obtain ⟨earlier, later, there⟩ := output_behind wires paired m wire
        (by rw [List.getElem?_eq_getElem m.isLt, second]; rfl) output
      obtain ⟨inside, met⟩ := List.getElem?_eq_some_iff.mp here
      obtain ⟨within, again⟩ := List.getElem?_eq_some_iff.mp there
      refine twice wire.input wire.input_kept (List.duplicate_iff_exists_distinct_get.mpr
        ⟨⟨before, inside⟩, ⟨earlier, within⟩, ?_, met.symm, again.symm⟩) distinct
      rw [Fin.lt_def, behind, later] at less
      exact Fin.mk_lt_mk.mpr (Nat.lt_of_succ_lt_succ less)

end Wire

namespace Encoding

def address (encoding : Encoding) (protocol : Protocol) (registers : List Register) : Nat → Nat :=
  (Allocation.wireNumbering protocol).address encoding.overrides registers

theorem encode_wires (encoding : Encoding) (protocol : Protocol) (registers : List Register)
    (s : Section) (encoded : encoding.encode protocol registers = .ok s) :
    (∀ place < registers.length,
        encoding.address protocol registers place < Allocation.counterLimit) ∧
      s.wires = registers.zipIdx.flatMap fun item =>
        item.1.wires (encoding.address protocol registers item.2) protocol := by
  have bounded (each : ∀ item ∈ registers.zipIdx,
      encoding.address protocol registers item.2 < Allocation.counterLimit) :
      ∀ place < registers.length,
        encoding.address protocol registers place < Allocation.counterLimit :=
    fun place inside => each (registers[place], place)
      (List.mk_mem_zipIdx_iff_getElem?.mpr (List.getElem?_eq_getElem inside))
  obtain ⟨content, found, rfl⟩ := map_ok _ _ s encoded
  cases protocol with
  | modbus =>
      obtain ⟨entries, allocated, rfl⟩ := map_ok _ _ content found
      obtain ⟨low, rfl⟩ := Allocation.modbus_dealt _ _ _ registers entries allocated
      refine ⟨bounded fun item member => Nat.lt_of_le_of_lt (low item member) ?_, ?_⟩
      · cases ModbusTable.ofPoint item.1.pointClass <;> decide
      · simp only [Section.wires, List.map_map]
        exact List.map_eq_flatMap
  | dnp3 =>
      obtain ⟨points, allocated, rfl⟩ := map_ok _ _ content found
      obtain ⟨low, rfl⟩ := Allocation.dnp3_dealt _ _ registers points allocated
      refine ⟨bounded fun item member => Nat.lt_trans (low item member) (by decide), ?_⟩
      simp only [Section.wires, List.map_flatMap]
      rfl

theorem encode_paired (encoding : Encoding) (protocol : Protocol) (registers : List Register)
    (s : Section) (encoded : encoding.encode protocol registers = .ok s) :
    Wire.Paired s.wires := by
  rw [(encoding.encode_wires protocol registers s encoded).2]
  exact Wire.paired_each _ _ fun item _ => item.1.wires_paired _ protocol

theorem encode_listed (encoding : Encoding) (protocol : Protocol) (registers : List Register)
    (s : Section) (encoded : encoding.encode protocol registers = .ok s) :
    s.inputs = registers.zipIdx.map fun item =>
      (AddressClass.ofPoint protocol item.1.pointClass).wire
        (encoding.address protocol registers item.2) := by
  rw [Section.inputs, (encoding.encode_wires protocol registers s encoded).2, List.filter_flatMap]
  simp only [Register.wires_inputs]
  exact List.map_eq_flatMap.symm

theorem encode_inputs (encoding : Encoding) (protocol : Protocol) (registers : List Register)
    (s : Section) (encoded : encoding.encode protocol registers = .ok s) (place : Nat)
    (area : AddressClass) (address : Nat) :
    s.inputs[place]? = some (area.wire address) ↔
      (Allocation.wireNumbering protocol).Takes encoding.overrides registers area place address := by
  rw [encoding.encode_listed protocol registers s encoded, List.getElem?_map, List.getElem?_zipIdx,
    Option.map_map, Option.map_eq_some_iff]
  constructor
  · rintro ⟨register, found, same⟩
    obtain ⟨own, taken⟩ := AddressClass.wire_inj _ _ _ _ same
    exact ⟨by simpa [Encoding.address] using taken, register, found, own⟩
  · rintro ⟨rfl, register, found, rfl⟩
    exact ⟨register, found, by simp [Encoding.address, Allocation.wireNumbering]⟩

def runs (encoding : Encoding) (protocol : Protocol) (registers : List Register)
    (area : AddressClass) : List Run :=
  encoding.overrides.runs area.base
    (registers.zipIdx.filter fun item => AddressClass.ofPoint protocol item.1.pointClass = area)

-- Where registers of a section meet on the wire.
structure Meets (encoding : Encoding) (protocol : Protocol) (registers : List Register)
    (s : Section) : Prop where
  each : s.inputs.length = registers.length
  taken : ∀ place area address, s.inputs[place]? = some (area.wire address) ↔
    ∃ run ∈ encoding.runs protocol registers area, run.Holds place address
  shared : ∀ place other, place ≠ other → ∀ area address,
    (s.inputs[place]? = some (area.wire address) ∧ s.inputs[other]? = some (area.wire address)) ↔
      ∃ run ∈ encoding.runs protocol registers area,
        ∃ second ∈ encoding.runs protocol registers area, run ≠ second ∧
          (address ∈ run.interval ∧ address ∈ second.interval) ∧
          run.Holds place address ∧ second.Holds other address
  outputs : ∀ place other wire, s.wires[place]? = some wire → s.wires[other]? = some wire →
    wire.isOutput → ∃ before earlier, place = before + 1 ∧ other = earlier + 1 ∧
      s.wires[before]? = some wire.input ∧ s.wires[earlier]? = some wire.input
  distinct : s.wires.Nodup ↔ ∀ area, (encoding.runs protocol registers area).Pairwise
    fun run second => Disjoint run.interval second.interval

theorem inputs_distinct (encoding : Encoding) (protocol : Protocol) (registers : List Register)
    (s : Section) (encoded : encoding.encode protocol registers = .ok s) :
    s.inputs.Nodup ↔ ∀ area, (encoding.runs protocol registers area).Pairwise
      fun run second => Disjoint run.interval second.interval := by
  have fits := (encoding.encode_wires protocol registers s encoded).1
  have inputs := encoding.encode_inputs protocol registers s encoded
  have apart (area : AddressClass) := (Allocation.wireNumbering protocol).apart_iff
    encoding.overrides registers fits area
  constructor
  · intro distinct area
    refine (apart area).mp fun place other address taken again => ?_
    rw [← inputs] at taken again
    obtain ⟨inside, _⟩ := List.getElem?_eq_some_iff.mp taken
    exact (List.getElem?_inj inside distinct).mp (taken.trans again.symm)
  · intro disjoint
    refine List.nodup_iff_getElem?_ne_getElem?.mpr fun place other less inside same => ?_
    obtain ⟨area, address, classed⟩ := s.input_classed s.inputs[other] (List.getElem_mem inside)
    have met : s.inputs[other]? = some (area.wire address) :=
      classed ▸ List.getElem?_eq_getElem inside
    have once := (apart area).mpr (disjoint area) place other address
      ((inputs place area address).mp (same.trans met)) ((inputs other area address).mp met)
    omega

theorem encode_meets (encoding : Encoding) (protocol : Protocol) (registers : List Register)
    (s : Section) (encoded : encoding.encode protocol registers = .ok s) :
    encoding.Meets protocol registers s := by
  have fits := (encoding.encode_wires protocol registers s encoded).1
  have inputs := encoding.encode_inputs protocol registers s encoded
  have paired := encoding.encode_paired protocol registers s encoded
  refine ⟨?_, fun place area address => ?_, fun place other different area address => ?_,
    fun place other wire found met output => ?_, ?_⟩
  · rw [encoding.encode_listed protocol registers s encoded, List.length_map, List.length_zipIdx]
  · rw [inputs, (Allocation.wireNumbering protocol).takes_iff encoding.overrides registers fits]
    rfl
  · rw [inputs, inputs, (Allocation.wireNumbering protocol).shared_iff encoding.overrides registers
      fits area place other address different]
    constructor
    · rintro ⟨run, member, second, among, apart, holds, again⟩
      exact ⟨run, member, second, among, apart, ⟨(run.holds_inside place address holds).2,
        (second.holds_inside other address again).2⟩, holds, again⟩
    · rintro ⟨run, member, second, among, apart, _, holds, again⟩
      exact ⟨run, member, second, among, apart, holds, again⟩
  · obtain ⟨before, behind, here⟩ := Wire.output_behind s.wires paired place wire found output
    obtain ⟨earlier, later, there⟩ := Wire.output_behind s.wires paired other wire met output
    exact ⟨before, earlier, behind, later, here, there⟩
  · rw [Wire.distinct_iff s.wires paired]
    exact encoding.inputs_distinct protocol registers s encoded

theorem plain_distinct (encoding : Encoding) (protocol : Protocol) (registers : List Register)
    (s : Section) (encoded : encoding.encode protocol registers = .ok s)
    (plain : encoding.overrides = {}) : s.wires.Nodup := by
  refine (encoding.encode_meets protocol registers s encoded).distinct.mpr fun area => ?_
  have short := encoding.overrides.runs_unnumbered area.base
    (registers.zipIdx.filter fun item => AddressClass.ofPoint protocol item.1.pointClass = area)
    fun item _ => by rw [plain]; rfl
  rw [runs]
  generalize encoding.overrides.runs area.base _ = found at short
  match found, short with
  | [], _ => exact .nil
  | [_], _ => exact List.pairwise_singleton _ _

end Encoding
end FieldConfig
