import FieldConfig.Proofs.Compilation.Manifest
import FieldConfig.Proofs.Document.Elements

set_option autoImplicit false

-- The nesting of a document's XML text. All names in it are fixed except those of logic variables,
-- which stand as their nodes declare them; so the text is well nested, with an element for each
-- variable, if and only if these are names that XML allows.
namespace FieldConfig

open Xml (Element Markup IsName Proper isLegal legal_named)

namespace Xml

theorem Element.named_branch (name : String) (attributes : List (String × String))
    (children : List Element) (depth : Nat) (sought : String) :
    ((Element.branch name attributes children).markup depth).named sought =
      (children.filter (·.name == sought)).map (markup (depth + 1)) := by
  rw [markup, Markup.named, markups_map, List.filter_map]
  simp only [Function.comp_def, name_markup]

end Xml

namespace Document

-- One `ot-sim` element with legal names in it, and the names of the elements that stand in
-- `variables`, for each such element of a `logic`.
def IsNested (text : String) (symbols : List (List String)) : Prop :=
  ∃ root, Xml.read text = some root ∧ root.name = "ot-sim" ∧
    (∀ name ∈ root.names, isLegal name = true) ∧
    ((root.named "logic").flatMap (·.named "variables")).map
      (fun found => found.children.map Markup.name) = symbols

theorem vocabulary_legal : ∀ name ∈ vocabulary, isLegal name = true := by decide

theorem worded_name (element : Element) (worded : Worded element) : element.name ∈ vocabulary := by
  cases worded with
  | branch _ _ _ known => exact known
  | leaf _ _ _ known => exact known

theorem worded_legal (element : Element) (worded : Worded element) (depth : Nat) :
    ∀ name ∈ (element.markup depth).names, isLegal name = true := by
  induction worded generalizing depth with
  | branch name attributes children known keys inside ih =>
      rw [Element.names_branch, List.forall_mem_cons]
      refine ⟨vocabulary_legal name known, fun inner member => ?_⟩
      obtain ⟨child, among, named⟩ := List.mem_flatMap.mp member
      exact ih child among (depth + 1) inner named
  | leaf name attributes text known keys =>
      exact List.forall_mem_singleton.mpr (vocabulary_legal name known)

end Document

namespace LogicSection

theorem names_element (logic : LogicSection) (depth : Nat) :
    (logic.element.markup depth).names =
      ["logic", "period", "process-updates", "program", "variables"] ++ logic.symbols.keys := by
  have leaves (entries : List (String × LogicVariable)) :
      (entries.map fun entry => entry.2.element entry.1).flatMap
        (fun child => (child.markup (depth + 2)).names) = entries.map Prod.fst := by
    induction entries with
    | nil => rfl
    | cons entry rest ih => exact congrArg (entry.1 :: ·) ih
  rw [element_parts, Element.names_branch, variableElements]
  simp only [List.flatMap_cons, List.flatMap_nil, Element.names_branch, leaves, List.append_nil]
  rfl

theorem variables_element (logic : LogicSection) (depth : Nat) :
    ((logic.element.markup depth).named "variables").map
      (fun found => found.children.map Markup.name) = [logic.symbols.keys] := by
  have only : (logic.element.markup depth).named "variables" =
      [(Element.branch "variables" [] logic.variableElements).markup (depth + 1)] := by
    rw [element_parts, Element.named_branch]
    rfl
  rw [only, List.map_singleton, Element.markup, Element.markups_map, List.map_map,
    variableElements, List.map_map]
  rfl

theorem proper (logic : LogicSection) (legal : ∀ name ∈ logic.symbols.keys, isLegal name = true)
    (whole : ¬ "]]>".toList <:+: logic.program.toList) : Proper logic.element := by
  refine .branch _ _ _ (by decide) (List.forall_mem_singleton.mpr (by decide : IsName "name")) ?_
  simp only [List.forall_mem_cons]
  refine ⟨.leaf _ _ _ (by decide) (by simp), .leaf _ _ _ (by decide) (by simp),
    .verbatim _ _ (by decide) whole, .branch _ _ _ (by decide) (by simp) ?_, by simp⟩
  refine List.forall_mem_map.mpr fun entry member => ?_
  have named := legal_named entry.1 (legal entry.1 (List.mem_map_of_mem member))
  refine .leaf _ _ _ named ?_
  cases entry.2.tag with
  | none => simp
  | some tag => exact List.forall_mem_singleton.mpr (by decide : IsName "tag")

end LogicSection

namespace Document

theorem named_logic (document : Document) :
    (document.element.markup 0).named "logic" =
      document.logic.toList.map fun logic => logic.element.markup 1 := by
  have fixed : document.fixedParts.filter (·.name == "logic") = [] := by
    refine List.filter_eq_nil_iff.mpr fun part member same => ?_
    have known := worded_name part (document.fixed_worded part member)
    rw [beq_iff_eq.mp same] at known
    exact absurd known (by decide)
  rw [element_parts, Element.named_branch, List.filter_append, fixed, List.nil_append]
  cases document.logic <;> rfl

theorem nested_iff (document : Document)
    (whole : ∀ logic ∈ document.logic, ¬ "]]>".toList <:+: logic.program.toList) :
    IsNested (Xml.render document.element) (document.logic.toList.map (·.symbols.keys)) ↔
      ∀ logic ∈ document.logic, ∀ name ∈ logic.symbols.keys, isLegal name = true := by
  constructor
  · rintro ⟨root, _, _, legal, listed⟩ logic present name declared
    have among : logic.symbols.keys ∈ document.logic.toList.map (·.symbols.keys) :=
      List.mem_map_of_mem (Option.mem_toList.mpr present)
    rw [← listed, List.mem_map] at among
    obtain ⟨found, inside, same⟩ := among
    obtain ⟨part, inRoot, inPart⟩ := List.mem_flatMap.mp inside
    rw [← same, List.mem_map] at declared
    obtain ⟨child, inFound, rfl⟩ := declared
    exact legal child.name (Xml.Markup.child_names root part (Xml.Markup.named_child root _ part inRoot)
      (Xml.Markup.child_names part found (Xml.Markup.named_child part _ found inPart)
        (Xml.Markup.child_names found child inFound child.own_name)))
  · intro legal
    have proper : ∀ logic ∈ document.logic, Proper logic.element := fun logic present =>
      logic.proper (legal logic present) (whole logic present)
    refine ⟨document.element.markup 0, Xml.read_render _ (document.proper proper), rfl, ?_, ?_⟩
    · rw [element_parts, Element.names_branch, List.forall_mem_cons]
      refine ⟨by decide, fun name member => ?_⟩
      obtain ⟨part, among, named⟩ := List.mem_flatMap.mp member
      obtain fixed | own := List.mem_append.mp among
      · exact worded_legal part (document.fixed_worded part fixed) 1 name named
      · obtain ⟨logic, present, rfl⟩ := List.mem_map.mp own
        rw [logic.names_element, List.mem_append] at named
        obtain known | declared := named
        · exact (by decide : ∀ known ∈ ["logic", "period", "process-updates", "program",
            "variables"], isLegal known = true) name known
        · exact legal logic (Option.mem_toList.mp present) name declared
    · rw [named_logic, List.flatMap_map, List.map_flatMap]
      simp only [LogicSection.variables_element]
      exact List.flatMap_pure_eq_map _ _

end Document

def Node.programSymbols (node : Node) : Option (List String) :=
  node.metadata.logic.bind fun logic => logic.program.map fun _ => logic.symbols.keys

/-- The text of a device is one well-nested element of named elements, among them one for each
variable that the program of its node declares, in the order of declaration, if and only if these
variables have names that XML allows. -/
theorem documents_nested (settings : Settings) (topology : Topology) (compilation : Compilation)
    (compiled : compile settings topology = .ok compilation) (device : CompiledDevice)
    (member : device ∈ compilation.devices)
    (whole : ∀ logic ∈ device.document.logic, ¬ "]]>".toList <:+: logic.program.toList) :
    ∃ node ∈ topology.nodes, node.role? = some device.role ∧ node.hostname = device.hostname ∧
      (Document.IsNested (Xml.render device.document.element) node.programSymbols.toList ↔
        ∀ names ∈ node.programSymbols, ∀ name ∈ names, isLegal name = true) := by
  obtain ⟨node, listed, role, hostname, origin, _⟩ :=
    device_origin settings topology compilation compiled device member
  have symbols : node.programSymbols = device.document.logic.map (·.symbols.keys) := by
    rw [origin, Node.programSymbols]
    cases node.metadata.logic with
    | none => rfl
    | some logic => cases program : logic.program <;> simp [LogicSettings.section?, program]
  refine ⟨node, listed, role, hostname, ?_⟩
  have nested := device.document.nested_iff whole
  rw [symbols, Option.toList_map, nested]
  simp only [Option.mem_def, Option.map_eq_some_iff, forall_exists_index, and_imp,
    forall_apply_eq_imp_iff₂]

def gauge (symbol : String) : Topology where
  nodes :=
    [{ hostname := "hmi", nodeType := "fd-client",
       metadata :=
        { logic := some
            { program := some "x = 1", symbols := ⟨[(symbol, { value := .integer 1 })]⟩ } } }]

theorem gauge_compiled (symbol : String) :
    ∃ compilation device logic, compile {} (gauge symbol) = .ok compilation ∧
      device ∈ compilation.devices ∧ device.document.logic = some logic ∧
      logic.program = "x = 1" ∧ logic.symbols.keys = [symbol] :=
  ⟨_, _, ⟨"logic-module", "1s", false, "x = 1", ⟨[(symbol, ⟨.integer 1, none⟩)]⟩⟩, rfl,
    List.mem_singleton_self _, rfl, rfl, rfl⟩

theorem underscored_nested :
    ∃ compilation device, compile {} (gauge "set_point") = .ok compilation ∧
      device ∈ compilation.devices ∧
      Document.IsNested (Xml.render device.document.element) [["set_point"]] := by
  obtain ⟨compilation, device, logic, compiled, member, present, program, keys⟩ :=
    gauge_compiled "set_point"
  have whole : ∀ own ∈ device.document.logic, ¬ "]]>".toList <:+: own.program.toList := by
    rintro own found
    cases present.symm.trans found
    rw [program]
    decide
  obtain ⟨node, listed, _, _, nested⟩ :=
    documents_nested {} (gauge "set_point") compilation compiled device member whole
  cases List.mem_singleton.mp listed
  exact ⟨compilation, device, compiled, member, nested.mpr (by decide)⟩

theorem spaced_unnested :
    ∃ compilation device logic, compile {} (gauge "set point") = .ok compilation ∧
      device ∈ compilation.devices ∧ device.document.logic = some logic ∧
      logic.program = "x = 1" ∧ logic.symbols.keys = ["set point"] ∧
      ¬ Document.IsNested (Xml.render device.document.element) [["set point"]] := by
  obtain ⟨compilation, device, logic, compiled, member, present, program, keys⟩ :=
    gauge_compiled "set point"
  have whole : ∀ own ∈ device.document.logic, ¬ "]]>".toList <:+: own.program.toList := by
    rintro own found
    cases present.symm.trans found
    rw [program]
    decide
  refine ⟨compilation, device, logic, compiled, member, present, program, keys, fun nested => ?_⟩
  have legal := (device.document.nested_iff whole).mp (by
    rw [present, Option.toList_some, List.map_singleton, keys]
    exact nested)
  exact absurd (legal logic present "set point" (by simp [keys])) (by decide)

end FieldConfig
