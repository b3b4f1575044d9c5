import MemberDocs.Markdown.Conversion
import MemberDocs.Proofs.Markdown.UnknownTags
import MemberDocs.Proofs.Xml.TextSources

/-! # What keeps a document from being converted

Under the standard rules, a document that has been read can only have a tag without a rule
(`error_of_convertElement`). A document in a text is never refused for its encoding
(`error_of_convertText`).
-/

namespace MemberDocs.Markdown

/-- Under the standard rules, only a tag without a rule keeps a tree from being rendered. -/
theorem error_of_renderMarkdown {context : Option String} {node : Node} {error : RenderError}
    (failed : renderMarkdown standardRules context node = .error error) :
    ∃ unknown, error = .unknownTag unknown := by
  have reports := reportsFirst_renderNode RuleTable.fromStandard_standardRules node context none
  unfold renderMarkdown at failed
  cases result : renderNode standardRules context none node with
  | ok text => simp [result, Except.map] at failed
  | error reason =>
    rw [result] at reports failed
    obtain ⟨_, visit, -, rfl, -⟩ := reports
    exact ⟨visit.report, (Except.error.inj failed).symm⟩

theorem error_of_convertElement {document : Except Xml.ParseError Element}
    {error : ConversionError} (failed : convertElement document = .error error) :
    (∃ reason, document = .error reason ∧ error = .document reason) ∨
      ∃ unknown, error = .rendering (.unknownTag unknown) := by
  cases document with
  | error reason => exact Or.inl ⟨reason, rfl, (Except.error.inj failed).symm⟩
  | ok element =>
    right
    simp only [convertElement] at failed
    cases rendered : renderMarkdown standardRules none element.toNode with
    | ok text => simp [rendered, Except.mapError] at failed
    | error reason =>
      obtain ⟨unknown, rfl⟩ := error_of_renderMarkdown rendered
      rw [rendered] at failed
      exact ⟨unknown, (Except.error.inj failed).symm⟩

/-- A document in a text is never refused for its encoding. -/
theorem error_of_convertText {source : String} {error : ConversionError}
    (failed : convertText source = .error error) :
    (∃ fault place, error = .document (.malformed fault place)) ∨
      ∃ unknown, error = .rendering (.unknownTag unknown) := by
  rcases error_of_convertElement failed with ⟨reason, refused, rfl⟩ | unknown
  · left
    unfold Xml.parseText Xml.elementOfEvents at refused
    cases read : Xml.readBytes true (Text.encodeUtf8 source) with
    | error other =>
      rw [read] at refused
      obtain rfl := Except.error.inj refused
      obtain ⟨fault, place, rfl⟩ := Xml.malformed_of_readBytes read
      exact ⟨fault, place, rfl⟩
    | ok events =>
      rw [read] at refused
      dsimp only at refused
      split at refused
      next => cases refused
      next =>
        cases refused
        exact ⟨_, _, rfl⟩
  · exact Or.inr unknown

end MemberDocs.Markdown
