import FieldConfig.Format
import FieldConfig.Proofs.Document.Members
import FieldConfig.Proofs.Tree.Cbor
import FieldConfig.Proofs.Tree.Json

set_option autoImplicit false

namespace FieldConfig

open FieldConfig.Tree (All isWhole isSized)

namespace Tree

theorem whole_text (text : String) : All isWhole (.text text) := (all_text isWhole text).mpr rfl

theorem whole_integer (n : Int) : All isWhole (.integer n) := (all_integer isWhole n).mpr rfl

theorem whole_boolean (value : Bool) : All isWhole (.boolean value) :=
  (all_boolean isWhole value).mpr rfl

theorem whole_array {α : Type} (tree : α → Tree) (whole : ∀ value, All isWhole (tree value))
    (values : List α) : All isWhole (.array (values.map tree)) :=
  (all_array isWhole _).mpr ⟨rfl, List.forall_mem_map.mpr fun value _ => whole value⟩

theorem whole_object (members : List (String × Tree))
    (inside : ∀ member ∈ members, All isWhole member.2) : All isWhole (.object members) :=
  (all_object isWhole members).mpr ⟨rfl, inside⟩

theorem whole_member {α : Type} (key : String) (tree : α → Tree) (value : Option α)
    (whole : ∀ part ∈ value, All isWhole (tree part)) :
    ∀ member ∈ member? key (value.map tree), All isWhole member.2 := by
  cases value with
  | none => exact List.forall_mem_nil _
  | some part => exact List.forall_mem_singleton.mpr (whole part rfl)

theorem whole_text_member (key : String) (value : Option String) :
    ∀ member ∈ textMember? key value, All isWhole member.2 :=
  whole_member key .text value fun part _ => whole_text part

end Tree

open FieldConfig.Tree (whole_text whole_integer whole_boolean whole_array whole_object whole_member
  whole_text_member)

theorem MessageBus.whole (bus : MessageBus) : All isWhole bus.tree := by
  refine whole_object _ ?_
  simp [whole_text]

theorem ApiSection.whole (api : ApiSection) : All isWhole api.tree := by
  refine whole_object _ ?_
  simp only [List.forall_mem_append, List.cons_append, List.forall_mem_cons]
  exact ⟨whole_text _, ⟨whole_text_member _ _, whole_text_member _ _⟩, whole_text_member _ _⟩

theorem LogsSection.whole (logs : LogsSection) : All isWhole logs.tree := by
  refine whole_object _ (List.forall_mem_append.mpr ⟨whole_member _ _ _ fun elastic _ => ?_,
    whole_text_member _ _⟩)
  exact whole_object _ (by simp [whole_text])

theorem GroundTruth.whole (groundTruth : GroundTruth) : All isWhole groundTruth.tree := by
  refine whole_object _ ?_
  simp only [List.forall_mem_cons]
  exact ⟨whole_text _, whole_text _,
    whole_object _ (List.forall_mem_map.mpr fun label _ => whole_text _), List.forall_mem_nil _⟩

theorem ModbusEntry.whole (entry : ModbusEntry) : All isWhole entry.tree := by
  refine whole_object _ (List.forall_mem_append.mpr
    ⟨by simp [whole_text, whole_integer], whole_member _ _ _ fun n _ => whole_integer n.toInt⟩)

theorem Dnp3Point.whole (point : Dnp3Point) : All isWhole point.tree := by
  refine whole_object _ ?_
  simp only [List.forall_mem_append]
  exact ⟨⟨⟨⟨by simp [whole_text, whole_integer], whole_text_member _ _⟩, whole_text_member _ _⟩,
    whole_text_member _ _⟩, whole_member _ _ _ fun value _ => whole_boolean value⟩

theorem Session.whole (session : Session) : All isWhole session.tree := by
  cases session <;> exact whole_object _ (by simp [whole_text, whole_integer])

theorem Section.whole (s : Section) : All isWhole s.tree := by
  refine whole_object _ (List.forall_mem_append.mpr ⟨by simp [whole_text], ?_⟩)
  cases s.body with
  | modbus entries =>
      exact List.forall_mem_singleton.mpr (whole_array _ ModbusEntry.whole entries)
  | dnp3 session points =>
      exact List.forall_mem_cons.mpr ⟨session.whole,
        List.forall_mem_singleton.mpr (whole_array _ Dnp3Point.whole points)⟩

theorem IoSection.whole (io : IoSection) : All isWhole io.tree := by
  have topic (topic : Topic) : All isWhole topic.tree := whole_object _ (by simp [whole_text])
  have endpoint (endpoint : MessageEndpoint) : All isWhole endpoint.tree :=
    whole_object _ (List.forall_mem_cons.mpr ⟨whole_text _,
      List.forall_mem_singleton.mpr (whole_array _ whole_text endpoint.tags)⟩)
  refine whole_object _ ?_
  simp only [List.forall_mem_cons]
  exact ⟨whole_text _, whole_text _, whole_text _, whole_text _, whole_array _ topic io.topics,
    whole_array _ endpoint io.endpoints, List.forall_mem_nil _⟩

-- No value of a variable has a floating-point number in it.
def LogicSection.IsWhole (logic : LogicSection) : Prop :=
  ∀ entry ∈ logic.symbols.entries, All isWhole entry.2.value

theorem LogicSection.whole (logic : LogicSection) (values : logic.IsWhole) :
    All isWhole logic.tree := by
  refine whole_object _ ?_
  simp only [List.forall_mem_cons]
  refine ⟨whole_text _, whole_text _, whole_boolean _, whole_text _, whole_object _ ?_,
    List.forall_mem_nil _⟩
  exact List.forall_mem_map.mpr fun entry member => whole_object _
    (List.forall_mem_cons.mpr ⟨values entry member, whole_text_member _ _⟩)

namespace Document

def IsWhole (document : Document) : Prop := ∀ logic ∈ document.logic, logic.IsWhole

theorem whole (document : Document) (values : document.IsWhole) : All isWhole document.tree := by
  have cpu : All isWhole (.object (Tree.member? "api" (document.api.map ApiSection.tree) ++
      Tree.member? "logs" (document.logs.map LogsSection.tree) ++
      [("modules", Tree.texts (document.modules.map ModuleKind.name))])) := by
    refine whole_object _ ?_
    simp only [List.forall_mem_append, List.forall_mem_singleton]
    exact ⟨⟨whole_member _ _ _ fun api _ => api.whole, whole_member _ _ _ fun logs _ => logs.whole⟩,
      whole_array _ whole_text _⟩
  refine whole_object _ ?_
  simp only [List.forall_mem_append, List.forall_mem_cons]
  exact ⟨⟨⟨⟨⟨whole_text _, document.messageBus.whole, cpu, List.forall_mem_nil _⟩,
    whole_member _ _ _ fun groundTruth _ => groundTruth.whole⟩,
    whole_array _ Section.whole document.sections, List.forall_mem_nil _⟩,
    whole_member _ _ _ fun io _ => io.whole⟩,
    whole_member _ _ _ fun logic present => logic.whole (values logic present)⟩

end Document

/-- JSON and CBOR carry the same, whole document: both are read back into its tree, and from the tree
the document is got back. So no other document has its JSON or its CBOR. -/
theorem formats_faithful (document : Document) (whole : document.IsWhole) :
    ∃ text bytes, Format.render document .json = .text text ∧
      Format.render document .cbor = .bytes bytes ∧
      Json.read text = some document.tree ∧
      (All isSized document.tree → Cbor.read bytes = some document.tree) ∧
      Document.ofTree? document.tree = some document ∧
      ∀ other : Document, other.IsWhole → other ≠ document →
        Format.render other .json ≠ Format.render document .json ∧
          (All isSized document.tree → All isSized other.tree →
            Format.render other .cbor ≠ Format.render document .cbor) := by
  have apart (other : Document) (same : other.tree = document.tree) : other = document := by
    have read := congrArg Document.ofTree? same
    rw [other.read_tree, document.read_tree] at read
    exact Option.some.inj read
  have json (document : Document) (whole : document.IsWhole) :=
    Json.read_json document.tree (document.whole whole)
  have cbor (document : Document) (whole : document.IsWhole) :=
    Cbor.read_cbor document.tree (document.whole whole)
  refine ⟨_, _, rfl, rfl, json document whole, cbor document whole, document.read_tree,
    fun other otherWhole differ => ⟨fun same => differ (apart other ?_),
      fun sized otherSized same => differ (apart other ?_)⟩⟩
  · have read := congrArg Json.read (Content.text.inj same)
    rw [json other otherWhole, json document whole] at read
    exact Option.some.inj read
  · have read := congrArg Cbor.read (Content.bytes.inj same)
    rw [cbor other otherWhole otherSized, cbor document whole sized] at read
    exact Option.some.inj read

def scripted (program : String) : Document where
  hostname := "hmi"
  messageBus := ⟨"tcp://127.0.0.1:1234", "tcp://127.0.0.1:5678"⟩
  logic := some
    { name := "logic-module", period := "1s", processUpdates := false, program,
      symbols := ⟨[("x", { value := .array [.integer (-1), .null] })]⟩ }

theorem scripted_whole (program : String) : (scripted program).IsWhole := by
  intro logic present
  cases present
  refine List.forall_mem_singleton.mpr ?_
  simp [Tree.all_array, Tree.all_integer, Tree.all_null, isWhole]

theorem scripted_sized (program : String) (short : program.utf8ByteSize < 0x10000000000000000) :
    All isSized (scripted program).tree := by
  simp only [scripted, Document.tree, MessageBus.tree, LogicSection.tree, LogicVariable.tree,
    Tree.member?, Tree.textMember?, Tree.texts, ModuleKind.initial, List.map_cons, List.map_nil,
    Option.map_none, Option.map_some, Option.toList_none, Option.toList_some, List.nil_append,
    List.cons_append, List.forall_mem_cons, Tree.all_object, Tree.all_array, Tree.all_text,
    Tree.all_integer, Tree.all_boolean, Tree.all_null]
  simp [isSized, short]
  decide +kernel

theorem escaped_faithful :
    (scripted "x = \"a\"").IsWhole ∧ All isSized (scripted "x = \"a\"").tree ∧
      Json.read (scripted "x = \"a\"").tree.toJson = some (scripted "x = \"a\"").tree ∧
      Cbor.read (scripted "x = \"a\"").tree.cbor = some (scripted "x = \"a\"").tree ∧
      Format.render (scripted "x = \\\"a\\\"") .json ≠ Format.render (scripted "x = \"a\"") .json ∧
      Format.render (scripted "x = \\\"a\\\"") .cbor ≠ Format.render (scripted "x = \"a\"") .cbor := by
  have sized := scripted_sized "x = \"a\"" (by decide)
  obtain ⟨text, bytes, json, cbor, readJson, readCbor, _, apart⟩ :=
    formats_faithful (scripted "x = \"a\"") (scripted_whole _)
  rw [← Content.text.inj json] at readJson
  rw [← Content.bytes.inj cbor] at readCbor
  obtain ⟨texts, others⟩ := apart (scripted "x = \\\"a\\\"") (scripted_whole _) (by decide)
  exact ⟨scripted_whole _, sized, readJson, readCbor sized, texts,
    others sized (scripted_sized _ (by decide))⟩

end FieldConfig
