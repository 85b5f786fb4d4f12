import FieldConfig.Compilation
import FieldConfig.Proofs.Document.Elements
import FieldConfig.Proofs.Xml.Data

set_option autoImplicit false

-- The program of a device in its XML text. It is the one text that is not escaped, so what a reader
-- of CDATA gets is the program if and only if the mark that ends CDATA is not in it.
namespace FieldConfig

open Xml (Element IsName openTag closeTag line write writeChildren)

def Document.program? (text : String) : Option String :=
  (Xml.data? "program" text.toList).map String.ofList

namespace Xml

theorem write_children_append (depth : Nat) (first second : List Element) :
    writeChildren depth (first ++ second) =
      writeChildren depth first ++ writeChildren depth second := by
  induction first with
  | nil => rfl
  | cons child rest ih =>
      simp only [List.cons_append, writeChildren, ih, List.append_assoc]

theorem leaf_passed (name other : String) (named : IsName name) (otherNamed : IsName other)
    (apart : name ≠ other) (attributes : List (String × String)) (text : String)
    (keys : ∀ pair ∈ attributes, IsName pair.1) (depth : Nat) :
    Text.Passed (openTag name []) (write depth (.leaf other attributes text)) := by
  rw [write]
  exact Text.passed_append _ _ _
    (Text.passed_append _ _ _ (open_passed name other named otherNamed apart attributes keys)
      (escaped_passed name _))
    (close_passed name other named otherNamed)

theorem children_passed (name : String) (children : List Element)
    (passed : ∀ child ∈ children, ∀ depth, Text.Passed (openTag name []) (write depth child))
    (depth : Nat) : Text.Passed (openTag name []) (writeChildren depth children) := by
  induction children with
  | nil => exact Text.passed_nil _
  | cons child rest ih =>
      obtain ⟨first, later⟩ := List.forall_mem_cons.mp passed
      rw [writeChildren]
      exact Text.passed_append _ _ _
        (Text.passed_append _ _ _ (line_passed name depth) (first depth)) (ih later)

theorem worded_passed (name : String) (named : IsName name)
    (foreign : name ∉ Document.vocabulary) (element : Element)
    (worded : Document.Worded element) (depth : Nat) :
    Text.Passed (openTag name []) (write depth element) := by
  have apart (other : String) (known : other ∈ Document.vocabulary) : name ≠ other :=
    fun same => foreign (same ▸ known)
  induction worded generalizing depth with
  | branch other attributes children known keys inside ih =>
      have otherNamed := Document.vocabulary_named other known
      have opened := open_passed name other named otherNamed (apart other known) attributes keys
      rw [write]
      exact Text.passed_append _ _ _
        (Text.passed_append _ _ _
          (Text.passed_append _ _ _ opened (children_passed name children ih (depth + 1)))
          (line_passed name depth))
        (close_passed name other named otherNamed)
  | leaf other attributes text known keys =>
      exact leaf_passed name other named (Document.vocabulary_named other known) (apart other known)
        attributes text keys depth

end Xml

namespace Document

theorem program_written (document : Document) (logic : LogicSection)
    (present : document.logic = some logic) :
    ∃ before behind, Text.Passed (openTag "program" []) before ∧
      (Xml.render document.element).toList =
        before ++ (openTag "program" [] ++ ("<![CDATA[".toList ++
          (logic.program.toList ++ ("]]>".toList ++ (closeTag "program" ++ behind))))) := by
  have named : IsName "program" := by decide
  let settings : List Element :=
    [Xml.plain "period" logic.period, Xml.flag "process-updates" logic.processUpdates]
  refine ⟨openTag "ot-sim" [] ++ (writeChildren 1 document.fixedParts ++
      (line 1 ++ (openTag "logic" [("name", logic.name)] ++ (writeChildren 2 settings ++ line 2)))),
    writeChildren 2 [.branch "variables" [] logic.variableElements] ++
        (line 1 ++ (closeTag "logic" ++ (line 0 ++ (closeTag "ot-sim" ++ ['\n'])))), ?_, ?_⟩
  · have root := Xml.open_passed "program" "ot-sim" named (by decide) (by decide) [] (by simp)
    have parts := Xml.children_passed "program" document.fixedParts
      (fun part member depth => Xml.worded_passed "program" named (by decide) part
        (document.fixed_worded part member) depth) 1
    have opened := Xml.open_passed "program" "logic" named (by decide) (by decide)
      [("name", logic.name)] (List.forall_mem_singleton.mpr (by decide : IsName "name"))
    have plain : ∀ child ∈ settings, ∀ depth,
        Text.Passed (openTag "program" []) (write depth child) := by
      refine List.forall_mem_cons.mpr ⟨?_, List.forall_mem_singleton.mpr ?_⟩
      · exact Xml.leaf_passed "program" "period" named (by decide) (by decide) [] _ (by simp)
      · exact Xml.leaf_passed "program" "process-updates" named (by decide) (by decide) [] _
          (by simp)
    exact Text.passed_append _ _ _ root (Text.passed_append _ _ _ parts
      (Text.passed_append _ _ _ (Xml.line_passed "program" 1) (Text.passed_append _ _ _ opened
        (Text.passed_append _ _ _ (Xml.children_passed "program" settings plain 2)
          (Xml.line_passed "program" 2)))))
  · rw [Xml.render, String.toList_ofList, element_parts, present, write, Xml.write_children_append]
    simp [LogicSection.element_parts, write, writeChildren, settings]

theorem program_read (document : Document) (logic : LogicSection)
    (present : document.logic = some logic) :
    program? (Xml.render document.element) = some logic.program ↔
      ¬ "]]>".toList <:+: logic.program.toList := by
  obtain ⟨before, behind, passed, written⟩ := document.program_written logic present
  have read := Xml.data_read "program" before logic.program.toList behind passed
  rw [program?, written, ← read, Option.map_eq_some_iff]
  constructor
  · rintro ⟨data, found, same⟩
    rw [found, ← same, String.toList_ofList]
  · intro found
    exact ⟨_, found, String.ofList_toList⟩

end Document

/-- The program of a logic section, as its node declares it, is got back from the XML text, as the
CDATA of its element up to the first end mark, if and only if the program does not have that mark in
itself. -/
theorem program_survives (document : Document) (logic : LogicSection)
    (present : document.logic = some logic) :
    (Document.program? (Xml.render document.element) = some logic.program ↔
        ¬ "]]>".toList <:+: logic.program.toList) ∧
      ∀ settings : LogicSettings, settings.section? = some logic →
        settings.program = some logic.program := by
  refine ⟨document.program_read logic present, fun settings made => ?_⟩
  obtain ⟨program, declared, rfl⟩ := Option.map_eq_some_iff.mp made
  exact declared

def controller (program : String) : Topology where
  nodes :=
    [{ hostname := "hmi", nodeType := "fd-client",
       metadata := { logic := some { program := some program } } }]

theorem controller_compiled (program : String) :
    ∃ compilation device logic, compile {} (controller program) = .ok compilation ∧
      compilation.device? "hmi" = some device ∧ device.document.logic = some logic ∧
      logic.program = program :=
  ⟨_, _, ⟨"logic-module", "1s", false, program, ∅⟩, rfl, rfl, rfl, rfl⟩

theorem spaced_program_survives :
    ∃ compilation device logic, compile {} (controller "y = a[b[0]] > 1") = .ok compilation ∧
      compilation.device? "hmi" = some device ∧ device.document.logic = some logic ∧
      logic.program = "y = a[b[0]] > 1" ∧
      Document.program? (Xml.render device.document.element) = some logic.program := by
  obtain ⟨compilation, device, logic, compiled, listed, present, same⟩ :=
    controller_compiled "y = a[b[0]] > 1"
  have survives := (program_survives device.document logic present).1.mpr (by rw [same]; decide)
  exact ⟨compilation, device, logic, compiled, listed, present, same, survives⟩

theorem indexed_program_cut :
    ∃ compilation device logic, compile {} (controller "y = a[b[0]]>1") = .ok compilation ∧
      compilation.device? "hmi" = some device ∧ device.document.logic = some logic ∧
      logic.program = "y = a[b[0]]>1" ∧
      Document.program? (Xml.render device.document.element) ≠ some logic.program := by
  obtain ⟨compilation, device, logic, compiled, listed, present, same⟩ :=
    controller_compiled "y = a[b[0]]>1"
  refine ⟨compilation, device, logic, compiled, listed, present, same, fun survives => ?_⟩
  exact (device.document.program_read logic present).mp survives (by rw [same]; decide)

end FieldConfig
