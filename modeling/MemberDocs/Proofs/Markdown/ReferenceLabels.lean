import MemberDocs.Proofs.Markdown.Lookup
import MemberDocs.Proofs.Markdown.Step

/-! # Labels of references

A reference is shown by what follows its last dot (`afterLastDot_append`). In the path of a member this
is the name of the member, but the dots of its parameters come later: so a reference to a method is
shown by its name, with the list of its parameters if it has one, as long as no parameter is of a
qualified type, and by the end of the last qualified type otherwise
(`reference_shows_what_follows_last_dot`).
-/

namespace MemberDocs

variable {before after cs : List Char}

theorem afterLastDot_of_not_mem (plain : '.' ∉ cs) : afterLastDot cs = cs := by
  cases cs with
  | nil => rfl
  | cons c rest =>
    rw [List.mem_cons, not_or] at plain
    simp [afterLastDot, plain.2, Ne.symm plain.1]

theorem afterLastDot_append (plain : '.' ∉ after) :
    afterLastDot (before ++ '.' :: after) = after := by
  induction before with
  | nil => simp [afterLastDot, plain]
  | cons c rest ih => simpa [afterLastDot] using ih

theorem split_at_last_dot (dotted : '.' ∈ cs) :
    ∃ before last, cs = before ++ '.' :: last ∧ '.' ∉ last := by
  obtain ⟨after, before, parts, plain⟩ :=
    List.eq_append_cons_of_mem (List.mem_reverse.mpr dotted)
  refine ⟨before.reverse, after.reverse, ?_, by simpa using plain⟩
  rw [← List.reverse_inj, parts]
  simp

/-- A part of the path to a member. -/
def IsPathPart (part : String) : Prop :=
  part ≠ "" ∧ ∀ c ∈ part.toList, c ∉ ['.', ':', '(', ')']

instance (part : String) : Decidable (IsPathPart part) :=
  @instDecidableAnd _ _ inferInstance (List.decidableBAll _ part.toList)

/-- A reference as a compiler writes it: a kind, the path to a member, and the types of its
parameters in parentheses if it is that of a method with parameters. -/
structure MemberReference where
  kind : Char
  /-- The parts of the path before the name of the member. -/
  scope : List String
  name : String
  /-- What stands between the parentheses. -/
  parameters : Option String
  parts : ∀ part ∈ scope ++ [name], IsPathPart part

namespace MemberReference

variable (reference : MemberReference)

def path : String := String.intercalate "." (reference.scope ++ [reference.name])

/-- The list of parameters as it is written. -/
def signature : String :=
  match reference.parameters with
  | none => ""
  | some types => "(" ++ types ++ ")"

def text : String := reference.kind.toString ++ ":" ++ reference.path ++ reference.signature

theorem isPathPart_name : IsPathPart reference.name :=
  reference.parts _ (List.mem_append_right _ List.mem_cons_self)

theorem not_mem_name {c : Char} (reserved : c ∈ ['.', ':', '(', ')']) :
    c ∉ reference.name.toList :=
  fun among => reference.isPathPart_name.2 c among reserved

/-- The characters before the name of the member: the parts of the path, each with its dot. -/
def leading : List Char :=
  reference.scope.flatMap fun part => part.toList ++ ['.']

theorem toList_path : reference.path.toList = reference.leading ++ reference.name.toList := by
  rw [path, leading, String.toList_intercalate]
  induction reference.scope with
  | nil => simp
  | cons part scope ih =>
    rw [List.cons_append, List.map_cons, List.intercalate_cons_of_ne_nil (by simp), ih]
    simp

theorem toList_text : reference.text.toList =
    reference.kind :: ':' :: (reference.leading ++ (reference.name ++ reference.signature).toList) := by
  simp [text, toList_path]

theorem simpleName_text : (simpleName reference.text).toList =
    afterLastDot (reference.leading ++ (reference.name ++ reference.signature).toList) := by
  have filled : reference.leading ++ (reference.name ++ reference.signature).toList ≠ [] := by
    simp [reference.isPathPart_name.1]
  rw [simpleName, toList_text, String.toList_ofList]
  obtain ⟨c, rest, chars⟩ := List.exists_cons_of_ne_nil filled
  rw [chars]
  rfl

/-- What follows the path is kept with the name up to its first dot. -/
theorem afterLastDot_leading (plain : '.' ∉ cs) : afterLastDot (reference.leading ++ cs) = cs := by
  rw [leading]
  rcases List.eq_nil_or_concat reference.scope with empty | ⟨scope, part, last⟩
  · rw [empty]
    exact afterLastDot_of_not_mem plain
  · rw [last, List.concat_eq_append, List.flatMap_append, List.flatMap_singleton]
    simpa using @afterLastDot_append (scope.flatMap (·.toList ++ ['.']) ++ part.toList) cs plain

theorem simpleName_of_plain (plain : '.' ∉ reference.signature.toList) :
    simpleName reference.text = reference.name ++ reference.signature := by
  apply String.toList_injective
  rw [simpleName_text, afterLastDot_leading]
  simpa [reference.not_mem_name] using plain

theorem simpleName_of_qualified {before last : String}
    (qualified : reference.parameters = some (before ++ "." ++ last)) (plain : '.' ∉ last.toList) :
    simpleName reference.text = last ++ ")" := by
  have written : reference.leading ++ (reference.name ++ reference.signature).toList =
      (reference.leading ++ (reference.name ++ "(" ++ before).toList) ++
        '.' :: (last ++ ")").toList := by
    simp [signature, qualified]
  apply String.toList_injective
  rw [simpleName_text, written, afterLastDot_append]
  simpa using plain

/-- Of the dots in a list of parameters one is the last. -/
theorem exists_last_dot (dotted : '.' ∈ reference.signature.toList) :
    ∃ before last, reference.parameters = some (before ++ "." ++ last) ∧ '.' ∉ last.toList := by
  unfold signature at dotted
  split at dotted
  next => simp at dotted
  next types given =>
    obtain ⟨before, last, parts, plain⟩ := split_at_last_dot (by simpa using dotted)
    refine ⟨String.ofList before, String.ofList last, ?_, by simpa using plain⟩
    rw [given, Option.some_inj]
    apply String.toList_injective
    simpa using parts

/-- The name stands in front of the label, unless a later dot takes it away and what follows that dot
does not happen to start with the same characters. -/
theorem name_isPrefix_simpleName_iff :
    reference.name.toList <+: (simpleName reference.text).toList ↔
      ∀ before last, reference.parameters = some (before ++ "." ++ last) → '.' ∉ last.toList →
        reference.name.toList <+: last.toList := by
  constructor
  · intro start before last qualified plain
    have label : (simpleName reference.text).toList = last.toList ++ [')'] := by
      rw [reference.simpleName_of_qualified qualified plain, String.toList_append]
      rfl
    rw [label] at start
    rcases List.prefix_concat_iff.mp start with whole | inside
    · have noEnd : ')' ∉ reference.name.toList := reference.not_mem_name (by decide)
      rw [whole] at noEnd
      simp at noEnd
    · exact inside
  · intro kept
    by_cases dotted : '.' ∈ reference.signature.toList
    · obtain ⟨before, last, qualified, plain⟩ := reference.exists_last_dot dotted
      rw [reference.simpleName_of_qualified qualified plain, String.toList_append]
      exact (kept before last qualified plain).trans (List.prefix_append _ _)
    · rw [reference.simpleName_of_plain dotted, String.toList_append]
      exact List.prefix_append _ _

end MemberReference

end MemberDocs

namespace MemberDocs.Markdown

/-- A link to something else shows the label of the reference, as its text and as its target. -/
theorem renderNode_seealso {tag : Tag} (isLink : tag.name = "seealso")
    (context : Option String) (previous : Option Tag) (children : List Node) :
    renderNode standardRules context previous (.element tag children) =
      .ok ("**See also**: [`" ++ referenceLabel tag children ++ "`](" ++
        referenceLabel tag children ++ ")\n\n") := by
  have lookup : effectiveName tag previous = "seealso" := by
    rw [effectiveName_of_plain previous] <;> rw [isLink] <;> decide
  have found : standardRules.find? (effectiveName tag previous) = some
      ⟨[.literal "**See also**: [`", .slot 0, .literal "`](", .slot 0, .literal ")\n\n"],
        .reference⟩ := by
    rw [lookup]
    rfl
  rw [renderNode_of_rule children found]
  simp [Extract.visits, renderNodes, TagRule.apply, Extract.values, Template.fill, Except.map,
    Except.mapError, Except.bind, String.append_assoc]

/-- **Labels of references.** A reference to a member is shown by what follows its last dot. Without a
list of parameters that is the name of the member, and with parameters that are not of qualified types
it is the name with the list. With a qualified type it is the end of the last one, and the parenthesis:
the name stands in front then only if that end starts with the same characters. A `seealso` with the
reference shows just this, as its text and as its target. -/
theorem reference_shows_what_follows_last_dot (reference : MemberReference) :
    (reference.parameters = none → simpleName reference.text = reference.name) ∧
    (∀ types, reference.parameters = some types → '.' ∉ types.toList →
      simpleName reference.text = reference.name ++ "(" ++ types ++ ")") ∧
    (∀ before last, reference.parameters = some (before ++ "." ++ last) → '.' ∉ last.toList →
      simpleName reference.text = last ++ ")") ∧
    (reference.name.toList <+: (simpleName reference.text).toList ↔
      ∀ before last, reference.parameters = some (before ++ "." ++ last) → '.' ∉ last.toList →
        reference.name.toList <+: last.toList) ∧
    ∀ tag : Tag, tag.name = "seealso" → tag.attribute? "cref" = some reference.text →
      ∀ context previous children,
        renderNode standardRules context previous (.element tag children) =
          .ok ("**See also**: [`" ++ simpleName reference.text ++ "`](" ++
            simpleName reference.text ++ ")\n\n") := by
  refine ⟨?_, ?_, fun before last => reference.simpleName_of_qualified,
    reference.name_isPrefix_simpleName_iff, ?_⟩
  · intro none
    have unsigned : reference.signature = "" := by rw [MemberReference.signature, none]
    rw [reference.simpleName_of_plain (by simp [unsigned]), unsigned, String.append_empty]
  · intro types given plain
    have signed : reference.signature = "(" ++ types ++ ")" := by
      rw [MemberReference.signature, given]
    rw [reference.simpleName_of_plain (by simpa [signed] using plain), signed]
    simp [String.append_assoc]
  · intro tag isLink refers context previous children
    have label : referenceLabel tag children = simpleName reference.text := by
      rw [referenceLabel, refers]
    rw [renderNode_seealso isLink, label]

/-- A method with a parameter. -/
def barOf (types : String) : MemberReference :=
  ⟨'M', ["Lib", "Foo"], "Bar", some types, by decide⟩

theorem plain_parameter_leaves_name :
    (barOf "Baz").parameters = some "Baz" ∧ '.' ∉ "Baz".toList ∧
      simpleName "M:Lib.Foo.Bar(Baz)" = "Bar(Baz)" := by
  have given : (barOf "Baz").parameters = some "Baz" := rfl
  obtain ⟨-, plain, -⟩ := reference_shows_what_follows_last_dot (barOf "Baz")
  have written : (barOf "Baz").text = "M:Lib.Foo.Bar(Baz)" := by decide
  refine ⟨given, by decide, ?_⟩
  rw [← written, plain "Baz" given (by decide)]
  decide

/-- The parameter of a qualified type stands in the place of the name. -/
theorem qualified_parameter_takes_name_away :
    (barOf "System.Int32").text = "M:Lib.Foo.Bar(System.Int32)" ∧
      simpleName "M:Lib.Foo.Bar(System.Int32)" = "Int32)" ∧
      ¬ (barOf "System.Int32").name.toList <+:
        (simpleName (barOf "System.Int32").text).toList ∧
      renderMarkdown standardRules none
          (.element ⟨"seealso", [("cref", "M:Lib.Foo.Bar(System.Int32)")], {}⟩ []) =
        .ok "**See also**: [`Int32)`](Int32))\n\n" := by
  decide +kernel

end MemberDocs.Markdown
