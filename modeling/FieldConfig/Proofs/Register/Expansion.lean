import FieldConfig.Proofs.Register.Merge

set_option autoImplicit false

-- The registers of a server, read off its declaration and the catalog at once. The only thing that
-- can be wrong is a type that is not in the catalog, and the first such device is reported.
namespace FieldConfig.Declaration

def isTyped (declaration : Declaration) (catalog : Catalog) (reference : DeviceReference) : Bool :=
  (catalog.fields? declaration.infrastructure reference.deviceType).isSome

def Typed (declaration : Declaration) (catalog : Catalog) : Prop :=
  ∀ group ∈ declaration.protocols, ∀ reference ∈ group.2, declaration.isTyped catalog reference

def firstUntyped (declaration : Declaration) (catalog : Catalog)
    (references : List DeviceReference) : Option DeviceReference :=
  references.find? fun reference => !declaration.isTyped catalog reference

def untyped (declaration : Declaration) (reference : DeviceReference) : CompileError :=
  .unknownDeviceType declaration.node declaration.infrastructure reference.deviceType

def expand (declaration : Declaration) (catalog : Catalog) (protocol : Protocol)
    (reference : DeviceReference) : List Register :=
  match catalog.fields? declaration.infrastructure reference.deviceType with
  | some fields => fields.entries.map (declaration.register protocol reference)
  | none => []

def expansion (declaration : Declaration) (catalog : Catalog) : List (Protocol × List Register) :=
  declaration.protocols.map fun group =>
    (group.1, group.2.flatMap (declaration.expand catalog group.1))

theorem device_expands (declaration : Declaration) (catalog : Catalog) (protocol : Protocol)
    (reference : DeviceReference) :
    declaration.deviceRegisters catalog protocol reference =
      if declaration.isTyped catalog reference then
        .ok (declaration.expand catalog protocol reference)
      else .error (declaration.untyped reference) := by
  cases fields : catalog.fields? declaration.infrastructure reference.deviceType <;>
    simp [deviceRegisters, expand, isTyped, untyped, Catalog.require, fields, bind, Except.bind,
      pure, Except.pure]

theorem group_expands (declaration : Declaration) (catalog : Catalog) (protocol : Protocol)
    (references : List DeviceReference) :
    declaration.groupRegisters catalog protocol references =
      match declaration.firstUntyped catalog references with
      | some reference => .error (declaration.untyped reference)
      | none => .ok (references.flatMap (declaration.expand catalog protocol)) := by
  induction references with
  | nil => rfl
  | cons reference rest ih =>
      rw [groupRegisters, device_expands, ih]
      cases typed : declaration.isTyped catalog reference with
      | false => simp [firstUntyped, typed, bind, Except.bind]
      | true =>
          simp only [firstUntyped, List.find?_cons, typed]
          cases rest.find? fun reference => !declaration.isTyped catalog reference <;> rfl

theorem first_untyped_append (declaration : Declaration) (catalog : Catalog)
    (earlier later : List DeviceReference) :
    declaration.firstUntyped catalog (earlier ++ later) =
      (declaration.firstUntyped catalog earlier).or (declaration.firstUntyped catalog later) :=
  List.find?_append

theorem extend_expands (declaration : Declaration) (catalog : Catalog) (set : RegisterSet)
    (groups : List (Protocol × List DeviceReference)) :
    declaration.extendRegisters catalog set groups =
      match declaration.firstUntyped catalog (groups.flatMap Prod.snd) with
      | some reference => .error (declaration.untyped reference)
      | none => .ok (groups.foldl (fun set group =>
          set.extend group.1 (group.2.flatMap (declaration.expand catalog group.1))) set) := by
  induction groups generalizing set with
  | nil => rfl
  | cons group rest ih =>
      rw [extendRegisters, group_expands, List.flatMap_cons, first_untyped_append]
      cases declaration.firstUntyped catalog group.2 with
      | some reference => rfl
      | none => exact ih (set.extend group.1 _)

theorem registers_expand (declaration : Declaration) (catalog : Catalog) :
    declaration.registers catalog =
      match declaration.firstUntyped catalog (declaration.protocols.flatMap Prod.snd) with
      | some reference => .error (declaration.untyped reference)
      | none => .ok (RegisterSet.regroup (declaration.expansion catalog)) := by
  rw [registers, extend_expands, expansion, ← RegisterSet.extend_each, List.foldl_map]

theorem typed_iff (declaration : Declaration) (catalog : Catalog) :
    declaration.Typed catalog ↔
      declaration.firstUntyped catalog (declaration.protocols.flatMap Prod.snd) = none := by
  simp only [Typed, firstUntyped, List.find?_eq_none, List.mem_flatMap, Bool.not_eq_true',
    Bool.not_eq_false]
  exact ⟨fun typed reference ⟨group, member, among⟩ => typed group member reference among,
    fun typed group member reference among => typed reference ⟨group, member, among⟩⟩

theorem registers_ok_iff (declaration : Declaration) (catalog : Catalog) (set : RegisterSet) :
    declaration.registers catalog = .ok set ↔
      declaration.Typed catalog ∧ set = RegisterSet.regroup (declaration.expansion catalog) := by
  rw [registers_expand, typed_iff]
  cases declaration.firstUntyped catalog (declaration.protocols.flatMap Prod.snd) with
  | none => simp [eq_comm]
  | some reference => simp

theorem registers_refused (declaration : Declaration) (catalog : Catalog) (fault : CompileError)
    (refused : declaration.registers catalog = .error fault) :
    ¬ declaration.Typed catalog ∧ ∃ reference, fault = declaration.untyped reference := by
  rw [registers_expand] at refused
  rw [typed_iff]
  cases first : declaration.firstUntyped catalog (declaration.protocols.flatMap Prod.snd) with
  | none => simp [first] at refused
  | some reference =>
      simp only [first, Except.error.injEq] at refused
      exact ⟨by simp, reference, refused.symm⟩

end FieldConfig.Declaration
