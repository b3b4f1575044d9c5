import MemberDocs.Proofs.Markdown.Lookup
import MemberDocs.Proofs.Markdown.Step
import MemberDocs.Proofs.Member.Labels
import MemberDocs.Proofs.Text.LineBreak

/-! # Headings of members

A member is rendered by the rule for its kind, which is read from the identifier in either case of
its letter, under a heading with its label, in which the kind is written out for a capital letter
only. Taking out the assembly name leaves the letter and the colon in front
(`exists_toList_memberLabel`). So the heading names the kind of a member with a capital letter
(`kind_in_front_of_label`), and a small letter stands there as it is written
(`letter_in_front_of_label`); `heading_names_kind_of_capital_letter` says this of whole sections.
-/

namespace MemberDocs

variable {identifier : String} {kind : MemberKind} {letter : Char} {rest : List Char}

/-! ## What labels start with -/

/-- An identifier of a known kind starts with a letter and a colon. -/
theorem MemberKind.exists_of_ofIdentifier? (known : ofIdentifier? identifier = some kind) :
    ∃ letter rest, identifier.toList = letter :: ':' :: rest ∧
      ofLetter? letter.toUpper = some kind := by
  unfold ofIdentifier? at known
  split at known
  next letter rest chars => exact ⟨letter, rest, chars, known⟩
  next => cases known

theorem MemberKind.ne_of_ofLetter? {other : Char} (noKind : ofLetter? other.toUpper = none)
    (known : ofLetter? letter.toUpper = some kind) : letter ≠ other := by
  intro same
  rw [same, noKind] at known
  cases known

/-- The letter and the colon in front stay when the assembly name is taken out. -/
theorem exists_toList_memberLabel (chars : identifier.toList = letter :: ':' :: rest)
    (other : letter ≠ ':') (assembly : Option String) :
    ∃ more, (memberLabel identifier assembly).toList =
      expandKindLetter (letter :: ':' :: more) := by
  by_cases missing : assembly ∈ [none, some ""]
  · exact ⟨rest, by rw [toList_memberLabel_of_missing missing, chars]⟩
  · cases assembly with
    | none => simp at missing
    | some name =>
      have named : name ≠ "" := by simpa using missing
      obtain ⟨more, colon⟩ := @exists_collapsed_colon name.toList rest
      refine ⟨more, ?_⟩
      rw [toList_memberLabel named, chars, collapsed_cons other, colon]

theorem toUpper_of_mem_kindLabels {label : String} (listed : (letter, label) ∈ kindLabels) :
    letter.toUpper = letter := by
  have each : ∀ entry ∈ kindLabels, entry.1.toUpper = entry.1 := by decide
  exact each (letter, label) listed

theorem startsWithKind_cons_iff :
    StartsWithKind (letter :: ':' :: rest) ↔ ∃ label, (letter, label) ∈ kindLabels := by
  constructor
  · intro starts
    obtain ⟨⟨first, label⟩, listed, start⟩ := starts
    obtain ⟨rfl, -⟩ := List.cons_prefix_cons.mp start
    exact ⟨label, listed⟩
  · intro capital
    obtain ⟨label, listed⟩ := capital
    exact ⟨(letter, label), listed, List.prefix_append [letter, ':'] rest⟩

/-- With a capital letter in front, the label starts with the name of the kind. -/
theorem kind_in_front_of_label (known : MemberKind.ofIdentifier? identifier = some kind)
    (capital : StartsWithKind identifier.toList) (assembly : Option String) :
    (kind.label ++ " ").toList <+: (memberLabel identifier assembly).toList := by
  obtain ⟨letter, rest, chars, ofLetter⟩ := MemberKind.exists_of_ofIdentifier? known
  obtain ⟨more, label⟩ :=
    exists_toList_memberLabel chars (MemberKind.ne_of_ofLetter? rfl ofLetter) assembly
  obtain ⟨name, listed⟩ := startsWithKind_cons_iff.mp (chars ▸ capital)
  have own := mem_kindLabels_iff.mp listed
  rw [← toUpper_of_mem_kindLabels listed, ofLetter] at own
  obtain rfl : kind.label = name := Option.some.inj own
  rw [label, expandKindLetter_of_mem_kindLabels listed]
  exact ⟨more, by simp⟩

/-- With a small letter in front, the label starts with it. -/
theorem letter_in_front_of_label (known : MemberKind.ofIdentifier? identifier = some kind)
    (small : ¬ StartsWithKind identifier.toList) (assembly : Option String) :
    identifier.toList.take 2 <+: (memberLabel identifier assembly).toList := by
  obtain ⟨letter, rest, chars, ofLetter⟩ := MemberKind.exists_of_ofIdentifier? known
  obtain ⟨more, label⟩ :=
    exists_toList_memberLabel chars (MemberKind.ne_of_ofLetter? rfl ofLetter) assembly
  rw [chars, startsWithKind_cons_iff] at small
  rw [label, expandKindLetter_of_not_startsWithKind (mt startsWithKind_cons_iff.mp small), chars]
  exact List.prefix_append [letter, ':'] more

namespace Text

/-- A text without line breaks in front is left there when long runs of them are cut. -/
theorem prefix_squeeze {front : List Char} {s : String} (unbroken : '\n' ∉ front)
    (start : front <+: s.toList) : front <+: (squeeze s).toList := by
  obtain ⟨rest, parts⟩ := start
  rw [toList_squeeze, ← parts, squeezeChars_unbroken unbroken]
  exact List.prefix_append front _

end Text

end MemberDocs

namespace MemberDocs.Markdown

/-! ## Sections of members -/

/-- The mark of the heading of a member: types stand above the other kinds. -/
def headingMark : MemberKind → String
  | .type => "## "
  | .field | .property | .event | .method => "#### "

theorem newline_not_mem_heading (kind : MemberKind) :
    '\n' ∉ (headingMark kind).toList ∧ '\n' ∉ (kind.label ++ " ").toList := by
  cases kind <;> decide

section Member

variable {tag : Tag} {identifier : String} {kind : MemberKind} {context : Option String}
  {children : List Node}

/-- A member of a known kind is a heading with its label, and its body. -/
theorem renderNode_of_kind (isMember : tag.name = "member")
    (named : tag.attribute? "name" = some identifier)
    (known : MemberKind.ofIdentifier? identifier = some kind) (context : Option String)
    (previous : Option Tag) (children : List Node) :
    renderNode standardRules context previous (.element tag children) =
      (renderNodes standardRules context children).map fun body =>
        headingMark kind ++ memberLabel identifier context ++ "\n\n" ++ body ++ "\n\n---\n" := by
  have lookup : effectiveName tag previous = kind.ruleName := by
    simp [effectiveName, isMember, named, known]
  have found : standardRules.find? (effectiveName tag previous) = some
      ⟨[.literal (headingMark kind), .slot 0, .literal "\n\n", .slot 1, .literal "\n\n---\n"],
        .member⟩ := by
    rw [lookup]
    cases kind <;> rfl
  have shown : tag.attributeOrEmpty "name" = identifier := by
    rw [Tag.attributeOrEmpty, named, Option.getD_some]
  apply renderNode_of_section children found
  intro body
  rw [Extract.values, shown]

/-- What the label starts with, if it has no line break, stands after the mark in the Markdown. -/
theorem heading_prefix {front : List Char} (unbroken : '\n' ∉ front)
    (start : front <+: (memberLabel identifier context).toList) (isMember : tag.name = "member")
    (named : tag.attribute? "name" = some identifier)
    (known : MemberKind.ofIdentifier? identifier = some kind) {markdown : String}
    (rendered : renderMarkdown standardRules context (.element tag children) = .ok markdown) :
    (headingMark kind).toList ++ front <+: markdown.toList := by
  obtain ⟨rest, label⟩ := start
  rw [renderMarkdown, renderNode_of_kind isMember named known] at rendered
  cases body : renderNodes standardRules context children with
  | error error =>
    rw [body] at rendered
    cases rendered
  | ok text =>
    rw [body] at rendered
    obtain rfl := Except.ok.inj rendered
    apply Text.prefix_squeeze
    · rw [List.mem_append]
      exact not_or.mpr ⟨(newline_not_mem_heading kind).1, unbroken⟩
    · simp only [String.toList_append, ← label, List.append_assoc]
      exact ⟨_, by rw [List.append_assoc]⟩

end Member

/-- **Headings.** A member whose identifier is of a kind is rendered as a section with a heading,
`##` for a type and `####` for the others. With a capital letter for the kind, the label starts with
the name of the kind and a space in every context, and so does the heading after its mark; with a
small letter, the label and the heading start with this letter and its colon. -/
theorem heading_names_kind_of_capital_letter {tag : Tag} {identifier : String} {kind : MemberKind}
    (isMember : tag.name = "member") (named : tag.attribute? "name" = some identifier)
    (known : MemberKind.ofIdentifier? identifier = some kind) (context : Option String) :
    (∀ previous children, renderNode standardRules context previous (.element tag children) =
      (renderNodes standardRules context children).map fun body =>
        headingMark kind ++ memberLabel identifier context ++ "\n\n" ++ body ++ "\n\n---\n") ∧
    (StartsWithKind identifier.toList →
      (kind.label ++ " ").toList <+: (memberLabel identifier context).toList ∧
      ∀ children markdown,
        renderMarkdown standardRules context (.element tag children) = .ok markdown →
          (headingMark kind ++ (kind.label ++ " ")).toList <+: markdown.toList) ∧
    (¬ StartsWithKind identifier.toList →
      identifier.toList.take 2 <+: (memberLabel identifier context).toList ∧
      ∀ children markdown,
        renderMarkdown standardRules context (.element tag children) = .ok markdown →
          (headingMark kind).toList ++ identifier.toList.take 2 <+: markdown.toList) := by
  refine ⟨renderNode_of_kind isMember named known context, ?_, ?_⟩
  · intro capital
    have start := kind_in_front_of_label known capital context
    refine ⟨start, ?_⟩
    intro children markdown rendered
    rw [String.toList_append]
    exact heading_prefix (newline_not_mem_heading kind).2 start isMember named known rendered
  · intro small
    have start := letter_in_front_of_label known small context
    refine ⟨start, ?_⟩
    intro children markdown rendered
    refine heading_prefix ?_ start isMember named known rendered
    obtain ⟨letter, rest, chars, ofLetter⟩ := MemberKind.exists_of_ofIdentifier? known
    have other : letter ≠ '\n' := MemberKind.ne_of_ofLetter? rfl ofLetter
    rw [chars]
    simp [other.symm]

/-- A type under the assembly whose name its namespace has. -/
theorem type_heading_names_the_kind :
    let tag : Tag := ⟨"member", [("name", "T:Lib.Shape")], {}⟩
    (tag.name = "member" ∧ tag.attribute? "name" = some "T:Lib.Shape" ∧
      MemberKind.ofIdentifier? "T:Lib.Shape" = some .type ∧
      StartsWithKind "T:Lib.Shape".toList) ∧
    renderMarkdown standardRules (some "Lib") (.element tag []) = .ok "## Type Shape\n\n---\n" ∧
    "## Type ".toList <+: "## Type Shape\n\n---\n".toList := by
  intro tag
  have capital : StartsWithKind "T:Lib.Shape".toList := ⟨('T', "Type"), by decide, by decide⟩
  have rendered : renderMarkdown standardRules (some "Lib") (.element tag []) =
      .ok "## Type Shape\n\n---\n" := by decide +kernel
  have isMember : tag.name = "member" := rfl
  have named : tag.attribute? "name" = some "T:Lib.Shape" := rfl
  have known : MemberKind.ofIdentifier? "T:Lib.Shape" = some .type := by decide
  obtain ⟨-, ofCapital, -⟩ :=
    heading_names_kind_of_capital_letter isMember named known (some "Lib")
  exact ⟨⟨isMember, named, known, capital⟩, rendered, (ofCapital capital).2 [] _ rendered⟩

/-- A small letter is read as a kind but not written out: the section is that of a type, and its
heading does not say so. -/
theorem small_letter_stays_in_heading :
    let tag : Tag := ⟨"member", [("name", "t:Foo")], {}⟩
    (tag.attribute? "name").bind MemberKind.ofIdentifier? = some .type ∧
      memberLabel "t:Foo" none = "t:Foo" ∧
      ¬ (MemberKind.type.label ++ " ").toList <+: (memberLabel "t:Foo" none).toList ∧
      renderMarkdown standardRules none (.element tag []) = .ok "## t:Foo\n\n---\n" ∧
      ¬ "## Type ".toList <+: "## t:Foo\n\n---\n".toList := by
  decide +kernel

end MemberDocs.Markdown
