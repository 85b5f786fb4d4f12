import FieldConfig.Format
import FieldConfig.Proofs.Xml.Names

set_option autoImplicit false

-- The elements of a document have names of a fixed vocabulary and escaped text. Only those of logic
-- are different: its variables have names from outside, and its program is not escaped.
namespace FieldConfig

open Xml (Element IsName Proper)

namespace Document

def vocabulary : List String :=
  ["ot-sim", "message-bus", "pull-endpoint", "pub-endpoint", "cpu", "api", "endpoint", "tls-key",
   "tls-certificate", "ca-certificate", "logs", "elastic", "loki", "module", "ground-truth",
   "index-base-name", "label", "dnp3", "modbus", "register", "address", "tag", "scaling", "master",
   "outstation", "local-address", "remote-address", "scan-rate", "input", "output", "sgvar",
   "egvar", "class", "sbo", "io", "broker-endpoint", "federate-name", "federate-log-level",
   "subscription", "publication", "key", "type"]

theorem vocabulary_named : ∀ name ∈ vocabulary, IsName name := by decide

inductive Worded : Element → Prop where
  | branch (name : String) (attributes : List (String × String)) (children : List Element)
      (known : name ∈ vocabulary) (keys : ∀ pair ∈ attributes, IsName pair.1)
      (inside : ∀ child ∈ children, Worded child) : Worded (.branch name attributes children)
  | leaf (name : String) (attributes : List (String × String)) (text : String)
      (known : name ∈ vocabulary) (keys : ∀ pair ∈ attributes, IsName pair.1) :
      Worded (.leaf name attributes text)

theorem worded_proper (element : Element) (worded : Worded element) : Proper element := by
  induction worded with
  | branch name attributes children known keys inside ih =>
      exact .branch name attributes children (vocabulary_named name known) keys ih
  | leaf name attributes text known keys =>
      exact .leaf name attributes text (vocabulary_named name known) keys

theorem plain_worded (name text : String) (known : name ∈ vocabulary) :
    Worded (Xml.plain name text) :=
  .leaf name [] text known (by simp)

theorem plain_each_worded (name : String) (text : Option String) (known : name ∈ vocabulary) :
    ∀ child ∈ Xml.plain? name text, Worded child := by
  cases text <;> simp [Xml.plain?, plain_worded name _ known]

theorem branch_worded (name : String) (children : List Element) (known : name ∈ vocabulary)
    (inside : ∀ child ∈ children, Worded child) : Worded (.branch name [] children) :=
  .branch name [] children known (by simp) inside

end Document

open Document (Worded plain_worded plain_each_worded branch_worded)

theorem MessageBus.worded (bus : MessageBus) : Worded bus.element := by
  refine branch_worded _ _ (by decide) ?_
  simp only [List.forall_mem_cons]
  exact ⟨plain_worded _ _ (by decide), plain_worded _ _ (by decide), by simp⟩

theorem ApiSection.worded (api : ApiSection) : Worded api.element := by
  refine branch_worded _ _ (by decide) ?_
  simp only [List.forall_mem_cons, List.forall_mem_append, List.cons_append]
  exact ⟨plain_worded _ _ (by decide), ⟨plain_each_worded _ _ (by decide),
    plain_each_worded _ _ (by decide)⟩, plain_each_worded _ _ (by decide)⟩

theorem LogsSection.worded (logs : LogsSection) : Worded logs.element := by
  refine branch_worded _ _ (by decide) ?_
  simp only [List.forall_mem_append, List.forall_mem_map]
  exact ⟨fun elastic _ => .leaf _ _ _ (by decide)
    (List.forall_mem_singleton.mpr (by decide : IsName "index")), plain_each_worded _ _ (by decide)⟩

theorem ModuleKind.worded (kind : ModuleKind) : Worded kind.element :=
  .leaf _ _ _ (by decide) (List.forall_mem_singleton.mpr (by decide : IsName "name"))

theorem GroundTruth.worded (groundTruth : GroundTruth) : Worded groundTruth.element := by
  refine branch_worded _ _ (by decide) (List.forall_mem_singleton.mpr ?_)
  refine branch_worded _ _ (by decide) ?_
  simp only [List.forall_mem_append, List.forall_mem_cons, List.forall_mem_map]
  exact ⟨⟨plain_worded _ _ (by decide), plain_worded _ _ (by decide), by simp⟩, fun label _ =>
    .leaf _ _ _ (by decide) (List.forall_mem_singleton.mpr (by decide : IsName "name"))⟩

theorem ModbusEntry.worded (entry : ModbusEntry) : Worded entry.element := by
  refine .branch _ _ _ (by decide) (List.forall_mem_singleton.mpr (by decide : IsName "type")) ?_
  simp only [List.forall_mem_append, List.forall_mem_cons]
  exact ⟨⟨plain_worded _ _ (by decide), plain_worded _ _ (by decide), by simp⟩,
    plain_each_worded _ _ (by decide)⟩

theorem Dnp3Point.worded (point : Dnp3Point) : Worded point.element := by
  have known : point.direction.name ∈ Document.vocabulary := by cases point.direction <;> decide
  refine .branch _ _ _ known (List.forall_mem_singleton.mpr (by decide : IsName "type")) ?_
  simp only [List.forall_mem_append, List.forall_mem_cons, List.forall_mem_map]
  exact ⟨⟨⟨⟨⟨plain_worded _ _ (by decide), plain_worded _ _ (by decide), by simp⟩,
    plain_each_worded _ _ (by decide)⟩, plain_each_worded _ _ (by decide)⟩,
    plain_each_worded _ _ (by decide)⟩, fun _ _ => plain_worded _ _ (by decide)⟩

theorem Session.worded (session : Session) (points : List Dnp3Point) :
    Worded (session.element points) := by
  have all : ∀ child ∈ points.map Dnp3Point.element, Worded child :=
    List.forall_mem_map.mpr fun point _ => point.worded
  cases session with
  | master name localAddress remoteAddress scanRate =>
      refine .branch _ _ _ (by decide) (List.forall_mem_singleton.mpr (by decide : IsName "name")) ?_
      simp only [List.forall_mem_append, List.forall_mem_cons]
      exact ⟨⟨plain_worded _ _ (by decide), plain_worded _ _ (by decide),
        plain_worded _ _ (by decide), by simp⟩, all⟩
  | outstation name localAddress remoteAddress =>
      refine .branch _ _ _ (by decide) (List.forall_mem_singleton.mpr (by decide : IsName "name")) ?_
      simp only [List.forall_mem_append, List.forall_mem_cons]
      exact ⟨⟨plain_worded _ _ (by decide), plain_worded _ _ (by decide), by simp⟩, all⟩

theorem Section.worded (s : Section) : Worded s.element := by
  have known : s.protocol.name ∈ Document.vocabulary := by cases s.protocol <;> decide
  refine .branch _ _ _ known ?_ ?_
  · simp only [List.forall_mem_cons]
    exact ⟨(by decide : IsName "name"), (by decide : IsName "mode"), by simp⟩
  · refine List.forall_mem_cons.mpr ⟨plain_worded _ _ (by decide), ?_⟩
    cases s.body with
    | modbus entries => exact List.forall_mem_map.mpr fun entry _ => entry.worded
    | dnp3 session points => exact List.forall_mem_singleton.mpr (session.worded points)

theorem Topic.worded (topic : Topic) : Worded topic.element := by
  have known : topic.kind.name ∈ Document.vocabulary := by cases topic.kind <;> decide
  refine branch_worded _ _ known ?_
  simp only [List.forall_mem_cons]
  exact ⟨plain_worded _ _ (by decide), plain_worded _ _ (by decide), plain_worded _ _ (by decide),
    by simp⟩

theorem MessageEndpoint.worded (endpoint : MessageEndpoint) : Worded endpoint.element :=
  .branch _ _ _ (by decide) (List.forall_mem_singleton.mpr (by decide : IsName "name"))
    (List.forall_mem_map.mpr fun tag _ =>
      .leaf _ _ _ (by decide) (List.forall_mem_singleton.mpr (by decide : IsName "key")))

theorem IoSection.worded (io : IoSection) : Worded io.element := by
  refine .branch _ _ _ (by decide) (List.forall_mem_singleton.mpr (by decide : IsName "name")) ?_
  simp only [List.forall_mem_append, List.forall_mem_cons, List.forall_mem_map]
  exact ⟨⟨⟨plain_worded _ _ (by decide), plain_worded _ _ (by decide),
    plain_worded _ _ (by decide), by simp⟩, fun topic _ => topic.worded⟩,
    fun endpoint _ => endpoint.worded⟩

def LogicSection.variableElements (logic : LogicSection) : List Element :=
  logic.symbols.entries.map fun entry => entry.2.element entry.1

theorem LogicSection.element_parts (logic : LogicSection) :
    logic.element = .branch "logic" [("name", logic.name)]
      [Xml.plain "period" logic.period, Xml.flag "process-updates" logic.processUpdates,
        .verbatim "program" logic.program, .branch "variables" [] logic.variableElements] := rfl

namespace Document

def fixedParts (document : Document) : List Element :=
  [document.messageBus.element,
    .branch "cpu" []
      (document.api.toList.map ApiSection.element ++
        document.logs.toList.map LogsSection.element ++
        document.modules.map ModuleKind.element)] ++
    document.groundTruth.toList.map GroundTruth.element ++
    document.sections.map Section.element ++
    document.io.toList.map IoSection.element

theorem element_parts (document : Document) :
    document.element = .branch "ot-sim" []
      (document.fixedParts ++ document.logic.toList.map LogicSection.element) := rfl

theorem fixed_worded (document : Document) : ∀ part ∈ document.fixedParts, Worded part := by
  simp only [fixedParts, List.forall_mem_append, List.forall_mem_cons, List.forall_mem_map]
  refine ⟨⟨⟨⟨document.messageBus.worded, branch_worded _ _ (by decide) ?_, by simp⟩,
    fun groundTruth _ => groundTruth.worded⟩, fun s _ => s.worded⟩, fun io _ => io.worded⟩
  simp only [List.forall_mem_append, List.forall_mem_map]
  exact ⟨⟨fun api _ => api.worded, fun logs _ => logs.worded⟩, fun kind _ => kind.worded⟩

theorem proper (document : Document) (logic : ∀ own ∈ document.logic, Proper own.element) :
    Proper document.element := by
  rw [element_parts]
  refine .branch _ _ _ (by decide) (by simp) ?_
  simp only [List.forall_mem_append, List.forall_mem_map]
  exact ⟨fun part member => worded_proper part (document.fixed_worded part member),
    fun own member => logic own (Option.mem_toList.mp member)⟩

end Document

end FieldConfig
