/-! # Templates

A template is fixed text with numbered slots. Filling puts each value into its slots in one pass:
what a value holds is never read as a slot again.
-/

namespace MemberDocs.Markdown

/-- A piece of a template. -/
inductive Piece where
  | literal (text : String)
  | slot (index : Nat)
deriving DecidableEq, Repr

/-- Fixed text with numbered slots. -/
abbrev Template := List Piece

namespace Template

/-- The written form of a template, a slot as its number between braces. -/
def source (template : Template) : String :=
  template.foldr (fun piece rest =>
    match piece with
    | .literal text => text ++ rest
    | .slot index => "\x7b" ++ toString index ++ "\x7d" ++ rest) ""

/-- The template with every slot replaced by its value, or the number of the first slot that has
none. -/
def fill (values : List String) : Template → Except Nat String
  | [] => .ok ""
  | .literal text :: rest => (fill values rest).map (text ++ ·)
  | .slot index :: rest =>
    match values[index]? with
    | none => .error index
    | some value => (fill values rest).map (value ++ ·)

/-- The template with every slot filled: total where there are enough values. -/
theorem exists_fill {values : List String} {template : Template}
    (enough : ∀ index, Piece.slot index ∈ template → index < values.length) :
    ∃ text, template.fill values = .ok text := by
  induction template with
  | nil => exact ⟨"", rfl⟩
  | cons piece rest ih =>
    obtain ⟨text, filled⟩ := ih fun index member => enough index (List.mem_cons_of_mem _ member)
    cases piece with
    | literal before => exact ⟨before ++ text, by simp [fill, filled, Except.map]⟩
    | slot index =>
      have bound := enough index List.mem_cons_self
      exact ⟨values[index] ++ text, by simp [fill, filled, Except.map, bound]⟩

end Template

end MemberDocs.Markdown
