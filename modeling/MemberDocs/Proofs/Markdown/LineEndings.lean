import Mathlib.Data.Bool.AllAny
import MemberDocs.Proofs.Markdown.Conversion
import MemberDocs.Proofs.Markdown.Placement
import MemberDocs.Proofs.Xml.Amplification
import MemberDocs.Proofs.Xml.LineEndings.Texts

/-! # Conversion of documents with unified line endings

A document gives the same Markdown with its line endings unified, or is refused with them too, unless
one of the two is converted and the other comes to the limit of what its entities may give
(`toOption_convertText_unifyChars`). In bytes it is converted as the text that they stand for, if it
names no encoding but UTF-8 (`convertBytes_of_namesUtf8`).
-/

namespace MemberDocs.Markdown

open Text (unifyChars)
open Xml (Account nestedDtd nestedSource)

/-- A conversion that is refused because too much of the document comes out of entities. -/
def ExceedsEntities (result : Except ConversionError String) : Prop :=
  ∃ place, result = .error (.document (.malformed .amplification place))

/-- Of two conversions one succeeds, and the other exceeds what entities may give. -/
def OnlyOneExceeds (first second : Except ConversionError String) : Prop :=
  first.toOption.isSome ∧ ExceedsEntities second ∨ ExceedsEntities first ∧ second.toOption.isSome

theorem not_onlyOneExceeds_self (result : Except ConversionError String) :
    ¬ OnlyOneExceeds result result := by
  rintro (⟨some, place, rfl⟩ | ⟨⟨place, rfl⟩, some⟩) <;> cases some

theorem convertBytes_of_namesUtf8 {source : String} (filled : '\x00' ∉ source.toList)
    (utf8 : Xml.NamesUtf8 source.toList) :
    convertBytes (Text.encodeUtf8 source) = convertText source := by
  unfold convertBytes convertText Xml.parseBytes Xml.parseText Text.encodeUtf8
  rw [Xml.readBytes_of_namesUtf8 (Xml.startsFilled_of_not_mem filled) utf8]

theorem toOption_convertElement_congr {first second : Except Xml.ParseError Element}
    (same : second.toOption.map Element.unplaced = first.toOption.map Element.unplaced) :
    (convertElement second).toOption = (convertElement first).toOption := by
  cases first with
  | error error =>
    obtain ⟨_, rfl⟩ := toOption_eq_none_iff.mp (Option.map_eq_none_iff.mp same)
    rfl
  | ok element =>
    obtain ⟨element', read, same⟩ := Option.map_eq_some_iff.mp same
    rw [toOption_eq_some_iff.mp read]
    unfold convertElement
    rw [toOption_mapError, toOption_mapError]
    refine toOption_renderMarkdown_congr ?_ none
    rw [← Element.toNode_unplaced, ← Element.toNode_unplaced, same]

/-- Documents of the same events have the same element, but for its places. -/
theorem toOption_elementOfEvents_congr {events events' : List Xml.Event}
    (same : events'.map Xml.Event.unplaced = events.map Xml.Event.unplaced) :
    (Xml.elementOfEvents (.ok events')).toOption.map Element.unplaced =
      (Xml.elementOfEvents (.ok events)).toOption.map Element.unplaced := by
  have told (events : List Xml.Event) :
      (Xml.elementOfEvents (.ok events)).toOption = Element.ofEvents? events := by
    unfold Xml.elementOfEvents
    dsimp only
    cases Element.ofEvents? events <;> rfl
  rw [told, told, ← ofEvents?_map_unplaced, ← ofEvents?_map_unplaced, same]

theorem toOption_convertText_unifyChars {source : String} (filled : '\x00' ∉ source.toList)
    (within : ¬ OnlyOneExceeds (convertText source)
      (convertText (String.ofList (unifyChars source.toList)))) :
    (convertText (String.ofList (unifyChars source.toList))).toOption =
      (convertText source).toOption := by
  have alike := Xml.readBytes_alike filled
  unfold convertText Xml.parseText Text.encodeUtf8 at within ⊢
  rw [String.toList_ofList] at within ⊢
  generalize Xml.readBytes true (source.toList.flatMap String.utf8EncodeChar) = first,
    Xml.readBytes true ((unifyChars source.toList).flatMap String.utf8EncodeChar) = second
    at alike within ⊢
  cases alike with
  | read same => exact toOption_convertElement_congr (toOption_elementOfEvents_congr same)
  | refused => rfl
  | exceedsFirst place =>
    rw [Option.not_isSome_iff_eq_none.mp fun some => within (Or.inr ⟨⟨place, rfl⟩, some⟩)]
    rfl
  | exceedsSecond first place =>
    rw [Option.not_isSome_iff_eq_none.mp fun some => within (Or.inl ⟨some, place, rfl⟩)]
    rfl

/-- The document is refused where its own size and that of its entities pass the limit together, at the
reference or at the end tag after it; `size` is that of what stands in front of its element. -/
theorem convertText_nested {lineEnding : List Char} {size : Nat}
    (used : ∀ c ∈ nestedSource lineEnding, c.toNat ≠ 0xFFFE ∧ c.toNat ≠ 0xFFFF)
    (prolog : (Xml.readProlog .utf8 .prolog { account := { direct := 0 } } 0 .start
        (nestedSource lineEnding)).toOption.map (fun read => (read.1.dtd, read.1.account, read.2)) =
      some (nestedDtd, { direct := size }, ⟨21, 1⟩, "<doc>&f;</doc>".toList)) :
    convertText (String.ofList (nestedSource lineEnding)) =
      if Account.isExceeded ⟨size + 8, 8388192⟩ then
        .error (.document (.malformed .amplification ⟨21, 6⟩))
      else if Account.isExceeded ⟨size + 14, 8388192⟩ then
        .error (.document (.malformed .amplification ⟨21, 9⟩))
      else .ok "#  #\n\n" := by
  have starts : nestedSource lineEnding = '<' :: '!' :: (nestedSource lineEnding).drop 2 := rfl
  have document := @Xml.readBytes_of_doctype ((nestedSource lineEnding).drop 2) (by
    rw [← starts]
    intro c member unused
    exact unused.elim (used c member).1 (used c member).2)
  obtain ⟨⟨subset, place, source⟩, read, parts⟩ := Option.map_eq_some_iff.mp prolog
  simp only [Prod.mk.injEq] at parts
  obtain ⟨declared, counted, rfl, rfl⟩ := parts
  rw [← starts, Xml.readDocument, toOption_eq_some_iff.mp read] at document
  dsimp only at document
  rw [declared, counted, Xml.readElement_nested Xml.spends_nested] at document
  unfold convertText Xml.parseText Text.encodeUtf8
  rw [String.toList_ofList, document]
  by_cases exceeded : Account.isExceeded ⟨size + 8, 8388192⟩
  · rw [if_pos exceeded, if_pos exceeded]
    rfl
  · rw [if_neg exceeded, if_neg exceeded]
    by_cases late : Account.isExceeded ⟨size + 14, 8388192⟩
    · rw [if_pos late, if_pos late]
      rfl
    · rw [if_neg late, if_neg late]
      exact toOption_eq_some_iff.mp (by decide +kernel)

/-- With line endings of two characters the document passes the limit, with unified ones it does not. -/
theorem exceedsEntities_nested :
    ExceedsEntities (convertText (String.ofList (nestedSource ['\r', '\n']))) := by
  have converted := @convertText_nested ['\r', '\n'] 418
    (List.all_iff_forall_prop.mp (by decide +kernel)) (by decide +kernel)
  exact ⟨⟨21, 6⟩, converted.trans (if_pos (by decide +kernel))⟩

theorem convertText_nested_unified :
    convertText (String.ofList (unifyChars (nestedSource ['\r', '\n']))) = .ok "#  #\n\n" := by
  have unified : unifyChars (nestedSource ['\r', '\n']) = nestedSource ['\n'] := by decide +kernel
  rw [unified]
  have converted := @convertText_nested ['\n'] 398
    (List.all_iff_forall_prop.mp (by decide +kernel)) (by decide +kernel)
  rwa [if_neg (by decide +kernel), if_neg (by decide +kernel)] at converted

end MemberDocs.Markdown
