import FieldConfig.IoSection
import FieldConfig.Proofs.Outcome
import FieldConfig.Proofs.Repetition
import Mathlib.Data.List.Perm.Basic

set_option autoImplicit false

namespace FieldConfig

inductive Binding where
  | topic (topic : Topic)
  | message (endpoint tag : String)
deriving DecidableEq

namespace Binding

def topic? : Binding → Option Topic
  | .topic bound => some bound
  | .message _ _ => none

def message? : Binding → Option (String × String)
  | .topic _ => none
  | .message endpoint tag => some (endpoint, tag)

def tag : Binding → String
  | .topic bound => bound.tag
  | .message _ tag => tag

theorem split_perm (bindings : List Binding) :
    ((bindings.filterMap topic?).map topic ++
      (bindings.filterMap message?).map fun entry => message entry.1 entry.2).Perm bindings := by
  induction bindings with
  | nil => exact .nil
  | cons first rest ih =>
      cases first with
      | topic bound => exact ih.cons (.topic bound)
      | message endpoint tag => exact List.perm_middle.trans (ih.cons (.message endpoint tag))

end Binding

namespace FederatePoint

def binding (point : FederatePoint) : Binding :=
  let valueType := if point.spec.pointClass.isAnalog then ValueType.double else .boolean
  match point.spec.pointClass.isWritable, point.device.endpoint with
  | false, _ =>
    .topic ⟨.subscription, point.device.topic ++ "." ++ point.field, point.tag, valueType⟩
  | true, none => .topic ⟨.publication, point.tag, point.tag, valueType⟩
  | true, some endpoint => .message endpoint point.tag

theorem topic_binding (point : FederatePoint) : point.topic? = point.binding.topic? := by
  rw [topic?, binding]
  cases point.spec.pointClass.isWritable with
  | false => rfl
  | true => cases point.device.endpoint <;> rfl

theorem endpoint_binding (point : FederatePoint) : point.endpoint? = point.binding.message? := by
  rw [endpoint?, binding]
  cases point.spec.pointClass.isWritable with
  | false => rfl
  | true => cases point.device.endpoint <;> rfl

theorem binding_tag (point : FederatePoint) : point.binding.tag = point.tag := by
  rw [binding]
  cases point.spec.pointClass.isWritable with
  | false => rfl
  | true => cases point.device.endpoint <;> rfl

end FederatePoint

namespace Declaration

def fieldsOf (declaration : Declaration) (catalog : Catalog) (device : FederateDevice) :
    FieldTable :=
  (catalog.fields? declaration.infrastructure device.deviceType).getD ∅

def pointsOf (declaration : Declaration) (catalog : Catalog) (device : FederateDevice) :
    List FederatePoint :=
  (declaration.fieldsOf catalog device).entries.map fun (field, spec) => ⟨device, field, spec⟩

theorem points_ok_iff (declaration : Declaration) (catalog : Catalog)
    (devices : List FederateDevice) (found : List FederatePoint) :
    IoSection.points declaration catalog devices = .ok found ↔
      (∀ device ∈ devices,
        (catalog.fields? declaration.infrastructure device.deviceType).isSome) ∧
      devices.flatMap (declaration.pointsOf catalog) = found := by
  induction devices generalizing found with
  | nil => simp [IoSection.points]
  | cons device rest ih =>
      rw [IoSection.points, Catalog.require, List.forall_mem_cons, List.flatMap_cons, pointsOf,
        fieldsOf]
      cases known : catalog.fields? declaration.infrastructure device.deviceType with
      | none => simp [bind, Except.bind]
      | some fields =>
          cases later : IoSection.points declaration catalog rest with
          | error fault =>
              have untyped := mt (fun typed => (ih _).mpr ⟨typed, rfl⟩) (by simp [later])
              simp [bind, Except.bind, untyped]
          | ok others =>
              obtain ⟨typed, rfl⟩ := (ih others).mp later
              simpa [bind, Except.bind, pure, Except.pure] using fun _ => typed

end Declaration

namespace MessageEndpoint

def messages (endpoint : MessageEndpoint) : List (String × String) :=
  endpoint.tags.map (endpoint.name, ·)

theorem add_tag_perm (name tag : String) (endpoints : List MessageEndpoint) :
    ((addTag name tag endpoints).flatMap messages).Perm
      (endpoints.flatMap messages ++ [(name, tag)]) := by
  induction endpoints with
  | nil => exact .refl _
  | cons first rest ih =>
      rw [addTag]
      by_cases same : first.name = name
      · rw [if_pos same, List.flatMap_cons, List.flatMap_cons, messages, messages, List.map_append,
          List.append_assoc, List.append_assoc, same]
        exact List.perm_append_comm.append_left _
      · rw [if_neg same, List.flatMap_cons, List.flatMap_cons, List.append_assoc]
        exact ih.append_left _

theorem collect_snoc (messages : List (String × String)) (last : String × String) :
    collect (messages ++ [last]) = addTag last.1 last.2 (collect messages) := by
  rw [collect, List.foldl_append]
  rfl

theorem collect_perm (bindings : List (String × String)) :
    ((collect bindings).flatMap messages).Perm bindings := by
  induction bindings using List.reverseRecOn with
  | nil => exact .nil
  | append_singleton earlier last ih =>
      rw [collect_snoc]
      exact (add_tag_perm last.1 last.2 _).trans (ih.append_right [last])

end MessageEndpoint

namespace IoSection

def bindings (io : IoSection) : List Binding :=
  io.topics.map .topic ++
    (io.endpoints.flatMap MessageEndpoint.messages).map fun entry => .message entry.1 entry.2

theorem points_perm (node : Node) (brokerEndpoint : String) (points : List FederatePoint) :
    (ofPoints node brokerEndpoint points).bindings.Perm (points.map FederatePoint.binding) := by
  have topics : points.filterMap (·.topic?) =
      (points.map FederatePoint.binding).filterMap Binding.topic? := by
    rw [List.filterMap_map]
    exact List.filterMap_congr fun point _ => point.topic_binding
  have messages : points.filterMap (·.endpoint?) =
      (points.map FederatePoint.binding).filterMap Binding.message? := by
    rw [List.filterMap_map]
    exact List.filterMap_congr fun point _ => point.endpoint_binding
  have listed := (MessageEndpoint.collect_perm (points.filterMap (·.endpoint?))).map
    fun entry => Binding.message entry.1 entry.2
  rw [bindings, ofPoints, topics]
  refine (listed.append_left _).trans ?_
  rw [messages]
  exact Binding.split_perm _

section

variable (settings : Settings) (catalog : Catalog) (topology : Topology)
  (registry : BrokerRegistry) (node : Node) (declaration : Declaration)

theorem of_server_ok (after : BrokerRegistry) (io : Option IoSection)
    (made : ofServer settings catalog topology registry node declaration = (after, .ok io)) :
    (declaration.federateDevices settings = .ok [] ∧ after = registry ∧ io = none) ∨
      ∃ first rest broker address found,
        declaration.federateDevices settings = .ok (first :: rest) ∧
        broker? settings node = some broker ∧
        registry.resolve topology broker node.hostname = (after, .ok address) ∧
        points declaration catalog (first :: rest) = .ok found ∧
        io = some (ofPoints node address found) := by
  rw [ofServer] at made
  rcases federates : declaration.federateDevices settings with fault | (_ | ⟨first, rest⟩)
  · simp [federates] at made
  · simp only [federates, Prod.mk.injEq, Except.ok.injEq] at made
    exact .inl ⟨rfl, made.1.symm, made.2.symm⟩
  · cases found : broker? settings node with
    | none => simp [federates, found] at made
    | some broker =>
        rcases resolved : registry.resolve topology broker node.hostname with
          ⟨later, fault | address⟩
        · simp [federates, found, resolved] at made
        · simp only [federates, found, resolved, Prod.mk.injEq] at made
          obtain ⟨rfl, made⟩ := made
          obtain ⟨points, listed, same⟩ := map_ok _ _ io made
          exact .inr ⟨first, rest, broker, address, points, rfl, rfl, resolved, listed, same.symm⟩

theorem of_server_refused (after : BrokerRegistry) (fault : CompileError)
    (refused : ofServer settings catalog topology registry node declaration =
      (after, .error fault)) :
    declaration.federateDevices settings = .error fault ∨
      (broker? settings node = none ∧ fault = .noBroker node.hostname) ∨
      (∃ broker, broker? settings node = some broker ∧
        registry.resolve topology broker node.hostname = (after, .error fault)) ∨
      ∃ devices, declaration.federateDevices settings = .ok devices ∧
        points declaration catalog devices = .error fault := by
  rw [ofServer] at refused
  rcases federates : declaration.federateDevices settings with other | (_ | ⟨first, rest⟩)
  · simp only [federates, Prod.mk.injEq, Except.error.injEq] at refused
    exact .inl (congrArg Except.error refused.2)
  · simp [federates] at refused
  · cases found : broker? settings node with
    | none =>
        simp only [federates, found, Prod.mk.injEq, Except.error.injEq] at refused
        exact .inr (.inl ⟨rfl, refused.2.symm⟩)
    | some broker =>
        rcases resolved : registry.resolve topology broker node.hostname with
          ⟨later, other | address⟩
        · simp only [federates, found, resolved, Prod.mk.injEq, Except.error.injEq] at refused
          obtain ⟨rfl, rfl⟩ := refused
          exact .inr (.inr (.inl ⟨broker, rfl, resolved⟩))
        · simp only [federates, found, resolved, Prod.mk.injEq] at refused
          cases listed : points declaration catalog (first :: rest) with
          | error other =>
              rw [listed] at refused
              cases refused.2
              exact .inr (.inr (.inr ⟨_, rfl, listed⟩))
          | ok points =>
              rw [listed] at refused
              cases refused.2

end

end IoSection
end FieldConfig
