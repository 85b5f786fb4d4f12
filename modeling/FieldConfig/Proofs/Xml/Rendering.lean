import FieldConfig.Proofs.Xml.Reader

set_option autoImplicit false

namespace FieldConfig.Xml

inductive Proper : Element → Prop where
  | branch (name : String) (attributes : List (String × String)) (children : List Element)
      (named : IsName name) (keys : ∀ pair ∈ attributes, IsName pair.1)
      (inside : ∀ child ∈ children, Proper child) : Proper (.branch name attributes children)
  | leaf (name : String) (attributes : List (String × String)) (text : String)
      (named : IsName name) (keys : ∀ pair ∈ attributes, IsName pair.1) :
      Proper (.leaf name attributes text)
  | verbatim (name text : String) (named : IsName name)
      (whole : ¬ "]]>".toList <:+: text.toList) : Proper (.verbatim name text)

mutual
def Element.markup (depth : Nat) : Element → Markup
  | .branch name attributes children =>
    ⟨name, attributes,
      String.ofList (children.flatMap (fun _ => line (depth + 1)) ++ line depth),
      markups (depth + 1) children⟩
  | .leaf name attributes text => ⟨name, attributes, text, []⟩
  | .verbatim name text => ⟨name, [], text, []⟩

def Element.markups (depth : Nat) : List Element → List Markup
  | [] => []
  | child :: rest => child.markup depth :: markups depth rest
end

theorem Element.markups_map (depth : Nat) (children : List Element) :
    markups depth children = children.map (markup depth) := by
  induction children with
  | nil => rfl
  | cons child rest ih => rw [markups, ih, List.map_cons]

def Reads (element : Element) : Prop :=
  ∀ depth seen text inner outer, unescape seen = some text →
    Reader.run ⟨.content, seen, inner, outer⟩ (write depth element) =
      some ⟨.content, [], (inner.addText text).addChild (element.markup depth), outer⟩

theorem line_plain (depth : Nat) (mark : Char) (visible : mark ∉ ['\n', ' ']) :
    mark ∉ line depth := by
  simp only [List.mem_cons, List.not_mem_nil, or_false, not_or] at visible
  simp [line, visible.1, visible.2]

theorem children_read (children : List Element) (reads : ∀ child ∈ children, Reads child)
    (depth : Nat) (inner : Pending) (outer : List Pending) :
    Reader.run ⟨.content, [], inner, outer⟩ (writeChildren depth children) =
      some ⟨.content, [],
        { inner with
          text := inner.text ++ children.flatMap (fun _ => line depth)
          children := inner.children ++ Element.markups depth children }, outer⟩ := by
  induction children generalizing inner with
  | nil => simp [writeChildren, Reader.run, Element.markups]
  | cons child rest ih =>
      obtain ⟨first, later⟩ := List.forall_mem_cons.mp reads
      rw [writeChildren, List.append_assoc, Reader.run_append,
        Reader.run_content _ _ _ _ (line_plain depth '<' (by decide)), Option.bind_some,
        Reader.run_append, List.nil_append,
        first depth _ _ _ _ (unescape_plain _ (line_plain depth '&' (by decide))), Option.bind_some,
        ih later]
      simp [Pending.addText, Pending.addChild, Element.markups]

theorem proper_reads (element : Element) (proper : Proper element) : Reads element := by
  induction proper with
  | branch name attributes children named keys inside ih =>
      intro depth seen text inner outer read
      rw [write, List.append_assoc, List.append_assoc, Reader.run_append,
        Reader.run_start seen inner outer name attributes named keys text read, Option.bind_some,
        Reader.run_append, children_read children ih, Option.bind_some, Reader.run_append,
        Reader.run_content _ _ _ _ (line_plain depth '<' (by decide)), Option.bind_some,
        List.nil_append, Reader.run_end _ _ _ name _ named rfl _
          (unescape_plain _ (line_plain depth '&' (by decide)))]
      simp [Pending.addText, Pending.close, Element.markup]
  | leaf name attributes text named keys =>
      intro depth seen before inner outer read
      rw [write, List.append_assoc, Reader.run_append,
        Reader.run_start seen inner outer name attributes named keys before read, Option.bind_some,
        Reader.run_append, Reader.run_content _ _ _ _ (escape_clean '<' (by decide) _),
        Option.bind_some, List.nil_append,
        Reader.run_end _ _ _ name _ named rfl _ (unescape_escape _)]
      simp [Pending.addText, Pending.close, Element.markup]
  | verbatim name text named whole =>
      intro depth seen before inner outer read
      rw [write, List.append_assoc, List.append_assoc, List.append_assoc, Reader.run_append,
        Reader.run_start seen inner outer name [] named (by simp) before read, Option.bind_some,
        ← List.append_assoc, ← List.append_assoc, Reader.run_append,
        Reader.run_verbatim _ _ _ whole, Option.bind_some,
        Reader.run_end _ _ _ name _ named rfl [] rfl]
      simp [Pending.addText, Pending.close, Element.markup]

theorem read_render (element : Element) (proper : Proper element) :
    read (render element) = some (element.markup 0) := by
  have reads := proper_reads element proper 0 [] [] { name := "" } [] rfl
  have ends : Reader.run
      ⟨.content, [], (Pending.addText [] { name := "" }).addChild (element.markup 0), []⟩ ['\n'] =
        some ⟨.content, ['\n'],
          (Pending.addText [] { name := "" }).addChild (element.markup 0), []⟩ :=
    Reader.run_content _ _ _ _ (by decide)
  rw [read, render, String.toList_ofList, Reader.run_append, Reader.start, reads,
    Option.bind_some, ends]
  rfl

end FieldConfig.Xml
