import FieldConfig.Proofs.Document.Elements
import FieldConfig.Proofs.Document.Parts

set_option autoImplicit false

-- Documents as they are read from XML. What a document holds besides its logic is all in its text,
-- so documents with one text differ at most in the name of their device.
namespace FieldConfig

open Xml (Element Markup)

def Document.cpu? (markup : Markup) :
    Option (Option ApiSection × Option LogsSection × List ModuleKind) :=
  if markup.name = "cpu" then
    some (markup.first? ApiSection.ofMarkup?, markup.first? LogsSection.ofMarkup?,
      markup.each ModuleKind.ofMarkup?)
  else none

-- The text does not name the device, and the logic is left out.
def Document.ofMarkup? (markup : Markup) : Option Document :=
  if markup.name = "ot-sim" then do
    let messageBus ← markup.first? MessageBus.ofMarkup?
    let (api, logs, modules) ← markup.first? cpu?
    return {
      hostname := ""
      messageBus, api, logs, modules
      groundTruth := markup.first? GroundTruth.ofMarkup?
      sections := markup.each Section.ofMarkup?
      io := markup.first? IoSection.ofMarkup? }
  else none

def Document.read? (text : String) : Option Document := (Xml.read text).bind ofMarkup?

namespace Document

theorem read_cpu (api : Option ApiSection) (logs : Option LogsSection) (modules : List ModuleKind)
    (depth : Nat) :
    cpu? ((Element.branch "cpu" [] (api.toList.map ApiSection.element ++
      logs.toList.map LogsSection.element ++ modules.map ModuleKind.element)).markup depth) =
        some (api, logs, modules) := by
  have parts : cpu? ((Element.branch "cpu" [] (api.toList.map ApiSection.element ++
      logs.toList.map LogsSection.element ++ modules.map ModuleKind.element)).markup depth) =
        some (((Element.markups (depth + 1) _).filterMap ApiSection.ofMarkup?).head?,
          ((Element.markups (depth + 1) _).filterMap LogsSection.ofMarkup?).head?,
          (Element.markups (depth + 1) _).filterMap ModuleKind.ofMarkup?) := rfl
  rw [parts]
  simp only [Xml.each_append]
  rw [Xml.each_read ApiSection.ofMarkup? _ _ fun api => api.read_element (depth + 1),
    Xml.each_foreign ApiSection.ofMarkup? LogsSection.element _ fun _ => rfl,
    Xml.each_foreign ApiSection.ofMarkup? ModuleKind.element _ fun _ => rfl,
    Xml.each_foreign LogsSection.ofMarkup? ApiSection.element _ fun _ => rfl,
    Xml.each_read LogsSection.ofMarkup? _ _ fun logs => logs.read_element (depth + 1),
    Xml.each_foreign LogsSection.ofMarkup? ModuleKind.element _ fun _ => rfl,
    Xml.each_foreign ModuleKind.ofMarkup? ApiSection.element _ fun _ => rfl,
    Xml.each_foreign ModuleKind.ofMarkup? LogsSection.element _ fun _ => rfl,
    Xml.each_read ModuleKind.ofMarkup? _ _ fun kind => kind.read_element (depth + 1)]
  simp

def parts (document : Document) : List Element :=
  document.groundTruth.toList.map GroundTruth.element ++ document.sections.map Section.element ++
    document.io.toList.map IoSection.element ++ document.logic.toList.map LogicSection.element

theorem read_parts (document : Document) (depth : Nat) :
    (Element.markups depth document.parts).filterMap GroundTruth.ofMarkup? =
        document.groundTruth.toList ∧
      (Element.markups depth document.parts).filterMap Section.ofMarkup? = document.sections ∧
      (Element.markups depth document.parts).filterMap IoSection.ofMarkup? =
        document.io.toList := by
  have groundTruths (s : Section) : GroundTruth.ofMarkup? (s.element.markup depth) = none := by
    obtain ⟨name, mode, endpoint, body⟩ := s
    cases body <;> rfl
  have ios (s : Section) : IoSection.ofMarkup? (s.element.markup depth) = none := by
    obtain ⟨name, mode, endpoint, body⟩ := s
    cases body <;> rfl
  simp only [parts, Xml.each_append]
  rw [Xml.each_read GroundTruth.ofMarkup? _ _ fun groundTruth => groundTruth.read_element depth,
    Xml.each_foreign GroundTruth.ofMarkup? Section.element _ groundTruths,
    Xml.each_foreign GroundTruth.ofMarkup? IoSection.element _ fun _ => rfl,
    Xml.each_foreign GroundTruth.ofMarkup? LogicSection.element _ fun _ => rfl,
    Xml.each_foreign Section.ofMarkup? GroundTruth.element _ fun _ => rfl,
    Xml.each_read Section.ofMarkup? _ _ fun s => s.read_element depth,
    Xml.each_foreign Section.ofMarkup? IoSection.element _ fun _ => rfl,
    Xml.each_foreign Section.ofMarkup? LogicSection.element _ fun _ => rfl,
    Xml.each_foreign IoSection.ofMarkup? GroundTruth.element _ fun _ => rfl,
    Xml.each_foreign IoSection.ofMarkup? Section.element _ ios,
    Xml.each_read IoSection.ofMarkup? _ _ fun io => io.read_element depth,
    Xml.each_foreign IoSection.ofMarkup? LogicSection.element _ fun _ => rfl]
  simp

theorem read_element (document : Document) (depth : Nat) :
    ofMarkup? (document.element.markup depth) =
      some { document with hostname := "", logic := none } := by
  obtain ⟨groundTruths, sections, ios⟩ := document.read_parts (depth + 1)
  have children : document.element = .branch "ot-sim" [] (document.messageBus.element ::
      .branch "cpu" [] (document.api.toList.map ApiSection.element ++
        document.logs.toList.map LogsSection.element ++
          document.modules.map ModuleKind.element) :: document.parts) := by
    simp [element, parts]
  have read : ofMarkup? (document.element.markup depth) = (do
      let messageBus ← MessageBus.ofMarkup? (document.messageBus.element.markup (depth + 1))
      let (api, logs, modules) ← cpu? ((Element.branch "cpu" []
        (document.api.toList.map ApiSection.element ++
          document.logs.toList.map LogsSection.element ++
            document.modules.map ModuleKind.element)).markup (depth + 1))
      let parts := Element.markups (depth + 1) document.parts
      return {
        hostname := ""
        messageBus, api, logs, modules
        groundTruth := (parts.filterMap GroundTruth.ofMarkup?).head?
        sections := parts.filterMap Section.ofMarkup?
        io := (parts.filterMap IoSection.ofMarkup?).head? }) := by
    rw [children]
    rfl
  rw [read, document.messageBus.read_element, read_cpu]
  simp [groundTruths, sections, ios]

theorem read_render (document : Document)
    (logic : ∀ own ∈ document.logic, Xml.Proper own.element) :
    read? (Xml.render document.element) = some { document with hostname := "", logic := none } := by
  rw [read?, Xml.read_render document.element (document.proper logic), Option.bind_some,
    document.read_element]

end Document

/-- The XML text of a document without logic gives back all of it but the name of its device, so two
such documents with one text differ in nothing else. -/
theorem xml_faithful (document : Document) (plain : document.logic = none) :
    Document.read? (Xml.render document.element) = some { document with hostname := "" } ∧
      ∀ other : Document, other.logic = none →
        Format.render other .xml = Format.render document .xml →
        { other with hostname := document.hostname } = document := by
  have read (document : Document) (plain : document.logic = none) :
      Document.read? (Xml.render document.element) = some { document with hostname := "" } := by
    rw [document.read_render (by simp [plain]), ← plain]
  refine ⟨read document plain, fun other plainOther same => ?_⟩
  have text : Xml.render other.element = Xml.render document.element := Content.text.inj same
  have both := (read other plainOther).symm.trans ((congrArg Document.read? text).trans
    (read document plain))
  simp only [Option.some.injEq, Document.mk.injEq] at both
  obtain ⟨hostname, messageBus, api, logs, modules, groundTruth, sections, io, logic⟩ := document
  simpa using both

def quoted (pullEndpoint : String) : Document where
  hostname := "rtu1"
  messageBus := ⟨pullEndpoint, "\"&amp;'\n  "⟩
  groundTruth := some ⟨"<a b=\"c\">", "]]>", ⟨[("&quot;", ""), ("x=\"y\" z", "</label>")]⟩⟩

theorem quoted_faithful :
    (quoted "</pull-endpoint>").logic = none ∧
      Document.read? (Xml.render (quoted "</pull-endpoint>").element) =
        some { quoted "</pull-endpoint>" with hostname := "" } ∧
      Format.render (quoted "&lt;/pull-endpoint&gt;") .xml ≠
        Format.render (quoted "</pull-endpoint>") .xml := by
  obtain ⟨read, faithful⟩ := xml_faithful (quoted "</pull-endpoint>") rfl
  refine ⟨rfl, read, fun same => ?_⟩
  have bus := congrArg (·.messageBus.pullEndpoint)
    (faithful (quoted "&lt;/pull-endpoint&gt;") rfl same)
  exact absurd bus (by decide)

end FieldConfig
