import Mathlib.Data.Bool.AllAny
import MemberDocs.Proofs.Markdown.Conversion
import MemberDocs.Proofs.Markdown.Lookup
import MemberDocs.Proofs.Xml.TextSources

/-! # Where unknown tags are reported

A tag without a rule that keeps a text from being converted stands where the report says, by the lines
of the text (`unknown_tag_stands_where_reported`). The report comes from an element of the tree, whose
head is that of a tag of the text, and the name in it is the one that is written there, since every
other name that an element can go by has a rule.
-/

namespace MemberDocs

open Xml (isSpace StartsFilled HasDoctype)

/-- A tag starts at a place of a source: at that line and column, each counted from 1, stands a
less-than sign, with the name right after it and then white space, a solidus or a greater-than sign.
`before` is the source up to there. -/
def TagStandsAt (source name : List Char) (position : Position) : Prop :=
  ∃ (earlier : List (List Char)) (lead rest : List Char) (later : List (List Char)),
    Text.sourceLines source = earlier ++ (lead ++ '<' :: rest) :: later ∧
    position = ⟨earlier.length + 1, lead.length + 1⟩ ∧
    ∃ before next after, source = before ++ '<' :: (name ++ next :: after) ∧
      (isSpace next ∨ next = '/' ∨ next = '>') ∧ Text.sourceLines before = earlier ++ [lead]

theorem Xml.OpensTagAt.tagStandsAt {source : List Char} {tag : Tag}
    (opens : OpensTagAt .start source tag) :
    TagStandsAt source tag.name.toList tag.position := by
  obtain ⟨before, next, after, rfl, ends, place⟩ := opens
  obtain ⟨earlier, lead, line, later, lines, position, split, starts⟩ :=
    Position.through_start before (show '<' ≠ '\n' by decide) (tag.name.toList ++ next :: after)
  obtain ⟨rest, rfl⟩ : ∃ rest, line = '<' :: rest := by
    cases line with
    | nil => cases starts (by decide)
    | cons c rest => exact ⟨rest, by simpa using starts (by decide)⟩
  exact ⟨earlier, lead, rest, later, split, place.trans position, before, next, after, rfl, ends,
    lines⟩

namespace Markdown

/-- A tag that is reported to have no rule is in the tree that has been read, under its own name. -/
theorem exists_tag_of_unknown {source : String} {unknown : UnknownTag}
    (failed : convertText source = .error (.rendering (.unknownTag unknown))) :
    standardRules.find? unknown.name = none ∧ ∃ events root tag,
      Xml.readBytes true (Text.encodeUtf8 source) = .ok events ∧
        Element.ofEvents? events = some root ∧ root.toNode.Holds tag ∧
          unknown = ⟨tag.name, tag.position⟩ := by
  unfold convertText Xml.parseText Xml.elementOfEvents at failed
  cases read : Xml.readBytes true (Text.encodeUtf8 source) with
  | error reason => simp [read, convertElement] at failed
  | ok events =>
    cases built : Element.ofEvents? events with
    | none => simp [read, built, convertElement] at failed
    | some root =>
      simp only [read, built, convertElement] at failed
      obtain ⟨error, rendered, same⟩ := mapError_eq_error_iff.mp failed
      obtain ⟨path, visit, reached, missing, rfl, -⟩ :=
        (renderMarkdown_reports_first_unknown RuleTable.fromStandard_standardRules none
          root.toNode).2 error rendered
      cases same
      have own : visit.name = visit.tag.name := effectiveName_of_unknown missing
      exact ⟨missing, events, root, visit.tag, rfl, built, reached.holds, by rw [own]⟩

/-- **Unknown tags stand where they are reported.** If a text whose first two characters are not zero
and that declares no document type cannot be converted because of a tag without a rule, then that tag
starts at the reported line and column of the text, and no rule has its name. -/
theorem unknown_tag_stands_where_reported {source : String} (filled : StartsFilled source.toList)
    (untyped : ¬ HasDoctype source.toList) {unknown : UnknownTag}
    (failed : convertText source = .error (.rendering (.unknownTag unknown))) :
    TagStandsAt source.toList unknown.name.toList unknown.position ∧
      standardRules.find? unknown.name = none := by
  obtain ⟨missing, events, root, tag, read, built, holds, rfl⟩ := exists_tag_of_unknown failed
  have told := start_mem_of_ofEvents? built holds
  exact ⟨(Xml.opensTagAt_of_readBytes filled untyped read told).tagStandsAt, missing⟩

/-- A tag without a rule after all kinds of markup in which lines end. -/
def brokenSource : String :=
  "\uFEFF<!-- a\n--><c\r lang='é\n'><![CDATA[<\r\n]]>中<bogus\n/></c>"

theorem bogus_tag_stands_where_reported :
    ∃ unknown, convertText brokenSource = .error (.rendering (.unknownTag unknown)) ∧
      unknown = ⟨"bogus", ⟨5, 5⟩⟩ ∧
        TagStandsAt brokenSource.toList unknown.name.toList unknown.position := by
  have failed : convertText brokenSource =
      .error (.rendering (.unknownTag ⟨"bogus", ⟨5, 5⟩⟩)) := by
    decide +kernel
  have untyped : ¬ HasDoctype brokenSource.toList := by
    rintro ⟨mark, opening, rest, -, -, ⟨gap, after, -, rfl⟩, same⟩
    have inside : 'Y' ∈ brokenSource.toList := by simp [same]
    exact absurd inside (by decide +kernel)
  exact ⟨_, failed, rfl, (unknown_tag_stands_where_reported
    (List.all_iff_forall_prop.mp (by decide +kernel)) untyped failed).1⟩

/-- A text whose bytes are those of a tag in pairs. -/
def pairedSource : String :=
  "<\x00b\x00/\x00>\x00"

/-- Where the second character is zero, the bytes of a text are read as pairs. -/
theorem zero_moves_tags :
    ¬ HasDoctype pairedSource.toList ∧
      convertText pairedSource = .error (.rendering (.unknownTag ⟨"b", ⟨1, 1⟩⟩)) ∧
        ¬ TagStandsAt pairedSource.toList "b".toList ⟨1, 1⟩ := by
  refine ⟨?_, by decide +kernel, ?_⟩
  · rintro ⟨mark, opening, rest, -, -, ⟨gap, after, -, rfl⟩, same⟩
    have inside : 'D' ∈ pairedSource.toList := by simp [same]
    exact absurd inside (by decide +kernel)
  · rintro ⟨_, _, _, _, -, -, before, next, after, same, -⟩
    have inside : ['<', 'b'] <:+: pairedSource.toList := ⟨before, next :: after, by simp [same]⟩
    exact absurd inside (by decide +kernel)

end Markdown

end MemberDocs
