import MemberDocs.Member.Identifier
import MemberDocs.Proofs.Text.Replace

/-! # Labels of members

A label is the identifier without the name of the assembly, with the kind written out. The two
steps do not interfere: taking out `:assembly.` leaves a colon where it found one, so an identifier
starts with a kind letter and a colon after it exactly if it did before
(`startsWithKind_collapsed_iff`). An `assembly.` that stands alone is not changed, and the texts
around it are shortened each by itself (`memberLabel_around`). The cases of a label are put together
in `labels_leave_out_assembly`.
-/

namespace MemberDocs

open Text

/-- The kind letters, each with the name that stands for it in a label. -/
def kindLabels : List (Char × String) :=
  [('F', "Field"), ('P', "Property"), ('T', "Type"), ('E', "Event"), ('M', "Method")]

/-- The identifier starts with a kind letter and a colon. -/
def StartsWithKind (identifier : List Char) : Prop :=
  ∃ entry ∈ kindLabels, [entry.1, ':'] <+: identifier

/-- The text with each `:assembly.` written as a colon. -/
def collapsed (assembly text : List Char) : List Char :=
  replaceChars (':' :: assembly ++ ['.']) [':'] 0 text

variable {assembly text rest : List Char} {letter c : Char} {label : String}

/-! ## Kinds -/

theorem mem_kindLabels_iff :
    (letter, label) ∈ kindLabels ↔
      (MemberKind.ofLetter? letter).map MemberKind.label = some label := by
  constructor
  · have each : ∀ entry ∈ kindLabels,
        (MemberKind.ofLetter? entry.1).map MemberKind.label = some entry.2 := by decide
    exact each (letter, label)
  · fun_cases MemberKind.ofLetter? letter <;> rintro ⟨⟩ <;> decide

theorem ne_colon_of_mem_kindLabels (kind : (letter, label) ∈ kindLabels) : letter ≠ ':' := by
  have each : ∀ entry ∈ kindLabels, entry.1 ≠ ':' := by decide
  exact each (letter, label) kind

theorem expandKindLetter_of_mem_kindLabels (kind : (letter, label) ∈ kindLabels)
    (rest : List Char) :
    expandKindLetter (letter :: ':' :: rest) = label.toList ++ ' ' :: rest := by
  obtain ⟨kind, found, rfl⟩ := Option.map_eq_some_iff.mp (mem_kindLabels_iff.mp kind)
  simp only [expandKindLetter, found]

theorem expandKindLetter_of_not_startsWithKind (other : ¬ StartsWithKind text) :
    expandKindLetter text = text := by
  fun_cases expandKindLetter text with
  | case1 letter rest kind found =>
    have listed : (letter, kind.label) ∈ kindLabels := mem_kindLabels_iff.mpr (by rw [found]; rfl)
    exact absurd ⟨_, listed, List.prefix_append [letter, ':'] rest⟩ other
  | case2 => rfl
  | case3 => rfl

/-- Only the kind in front is written out. -/
theorem expandKindLetter_append (inFront : StartsWithKind (text ++ rest) → StartsWithKind text) :
    expandKindLetter (text ++ rest) = expandKindLetter text ++ rest := by
  by_cases kind : StartsWithKind text
  · obtain ⟨⟨letter, label⟩, listed, more, rfl⟩ := kind
    have front := expandKindLetter_of_mem_kindLabels listed
    simp only [List.cons_append, List.nil_append, front, List.append_assoc]
  · rw [expandKindLetter_of_not_startsWithKind kind,
      expandKindLetter_of_not_startsWithKind (mt inFront kind)]

/-! ## Taking out the assembly -/

theorem collapsed_cons (other : c ≠ ':') (rest : List Char) :
    collapsed assembly (c :: rest) = c :: collapsed assembly rest := by
  apply replaceChars_copy
  intro occurs
  exact other (List.cons_prefix_cons.mp occurs).1.symm

/-- A colon stays a colon, whether the assembly follows it or not. -/
theorem exists_collapsed_colon (rest : List Char) :
    ∃ more, collapsed assembly (':' :: rest) = ':' :: more := by
  by_cases occurs : ':' :: assembly ++ ['.'] <+: ':' :: rest
  · obtain ⟨more, parts⟩ := occurs
    refine ⟨collapsed assembly more, ?_⟩
    rw [collapsed, ← parts, replaceChars_append_target (by simp)]
    rfl
  · exact ⟨_, replaceChars_copy occurs⟩

theorem collapsed_of_assembly (rest : List Char) :
    collapsed assembly (':' :: (assembly ++ '.' :: rest)) = ':' :: collapsed assembly rest := by
  have parts : ':' :: (assembly ++ '.' :: rest) = ':' :: assembly ++ ['.'] ++ rest := by simp
  rw [collapsed, parts, replaceChars_append_target (by simp)]
  rfl

theorem startsWithKind_collapsed_iff :
    StartsWithKind (collapsed assembly text) ↔ StartsWithKind text := by
  have colon (rest : List Char) : [':'] <+: collapsed assembly rest ↔ [':'] <+: rest := by
    cases rest with
    | nil => exact Iff.rfl
    | cons c rest =>
      by_cases isColon : c = ':'
      · obtain ⟨more, same⟩ := @exists_collapsed_colon assembly rest
        simp [isColon, same]
      · simp [collapsed_cons isColon]
  apply exists_congr
  rintro ⟨letter, label⟩
  apply and_congr_right
  intro listed
  have other := ne_colon_of_mem_kindLabels listed
  cases text with
  | nil => exact Iff.rfl
  | cons c rest =>
    by_cases isColon : c = ':'
    · obtain ⟨more, same⟩ := @exists_collapsed_colon assembly rest
      simp [isColon, same, other]
    · rw [collapsed_cons isColon, List.cons_prefix_cons, List.cons_prefix_cons, colon]

/-! ## Labels -/

/-- `short` is the text with every `:assembly.` written as a colon: the leftmost first, no two
overlapping, and nothing that is written in is read again. -/
def Collapses (assembly text short : String) : Prop :=
  Replaced (":" ++ assembly ++ ".").toList [':'] text.toList short.toList

theorem collapses_iff {assembly text short : String} :
    Collapses assembly text short ↔ collapsed assembly.toList text.toList = short.toList := by
  have target : (":" ++ assembly ++ ".").toList = ':' :: assembly.toList ++ ['.'] := by simp
  rw [Collapses, target, replaced_iff (by simp), collapsed]

theorem exists_collapses (assembly text : String) :
    ∃ short, Collapses assembly text short ∧
      short.toList = collapsed assembly.toList text.toList :=
  ⟨String.ofList _, collapses_iff.mpr String.toList_ofList.symm, String.toList_ofList⟩

/-- The `assembly.` between two texts has no character in common with any `:assembly.`. -/
def StandsAlone (assembly before after : String) : Prop :=
  StandsApart (":" ++ assembly ++ ".").toList before.toList (assembly ++ ".").toList after.toList

/-! ## The cases of a label -/

section

variable {assembly : String}

theorem toList_memberLabel (named : assembly ≠ "") (identifier : String) :
    (memberLabel identifier (some assembly)).toList =
      expandKindLetter (collapsed assembly.toList identifier.toList) := by
  simp [memberLabel, named, collapsed]

theorem toList_memberLabel_of_missing {assembly : Option String}
    (missing : assembly ∈ [none, some ""]) (identifier : String) :
    (memberLabel identifier assembly).toList = expandKindLetter identifier.toList := by
  have empty : assembly.getD "" = "" := by
    rcases List.mem_pair.mp missing with rfl | rfl <;> rfl
  simp [memberLabel, empty]

theorem toList_identifier (letter : Char) (name : String) :
    (letter.toString ++ ":" ++ name).toList = letter :: ':' :: name.toList := by
  simp

theorem memberLabel_of_kind (named : assembly ≠ "") (kind : (letter, label) ∈ kindLabels)
    {name rest : String}
    (left : collapsed assembly.toList (':' :: name.toList) =
      ':' :: collapsed assembly.toList rest.toList) :
    ∃ short, Collapses assembly rest short ∧
      memberLabel (letter.toString ++ ":" ++ name) (some assembly) = label ++ " " ++ short := by
  obtain ⟨short, collapses, chars⟩ := exists_collapses assembly rest
  refine ⟨short, collapses, ?_⟩
  apply String.toList_injective
  rw [toList_memberLabel named, toList_identifier, collapsed_cons (ne_colon_of_mem_kindLabels kind),
    left, expandKindLetter_of_mem_kindLabels kind, ← chars]
  simp

theorem collapses_memberLabel (named : assembly ≠ "") {identifier : String}
    (other : ¬ StartsWithKind identifier.toList) :
    Collapses assembly identifier (memberLabel identifier (some assembly)) := by
  rw [collapses_iff, toList_memberLabel named, expandKindLetter_of_not_startsWithKind]
  rwa [startsWithKind_collapsed_iff]

/-- The texts around an `assembly.` that stands alone are shortened each by itself. -/
theorem memberLabel_around (named : assembly ≠ "") {before after : String}
    (alone : StandsAlone assembly before after)
    (inFront : StartsWithKind (before ++ (assembly ++ ".") ++ after).toList →
      StartsWithKind before.toList) :
    ∃ short, Collapses assembly after short ∧
      memberLabel (before ++ (assembly ++ ".") ++ after) (some assembly) =
        memberLabel before (some assembly) ++ (assembly ++ ".") ++ short := by
  obtain ⟨short, collapses, chars⟩ := exists_collapses assembly after
  refine ⟨short, collapses, ?_⟩
  have around : collapsed assembly.toList (before ++ (assembly ++ ".") ++ after).toList =
      collapsed assembly.toList before.toList ++
        ((assembly ++ ".").toList ++ collapsed assembly.toList after.toList) := by
    have parts := @replaceChars_around _ [':'] _ _ _ (by simp) alone
    simpa [collapsed] using parts
  apply String.toList_injective
  calc (memberLabel (before ++ (assembly ++ ".") ++ after) (some assembly)).toList
      = expandKindLetter (collapsed assembly.toList before.toList ++
          ((assembly ++ ".").toList ++ collapsed assembly.toList after.toList)) := by
        rw [toList_memberLabel named, around]
    _ = expandKindLetter (collapsed assembly.toList before.toList) ++
          ((assembly ++ ".").toList ++ collapsed assembly.toList after.toList) := by
        apply expandKindLetter_append
        rw [← around, startsWithKind_collapsed_iff, startsWithKind_collapsed_iff]
        exact inFront
    _ = _ := by simp [toList_memberLabel named, chars]

theorem standsAlone_of_unbordered (unbordered : IsUnbordered (assembly ++ ".").toList)
    (absent : ':' ∉ assembly.toList) {before : String} (other : before.toList.getLast? ≠ some ':')
    (after : String) : StandsAlone assembly before after := by
  have sign : ':' ∉ (assembly ++ ".").toList := by simpa using absent
  have apart : StandsApart (':' :: (assembly ++ ".").toList) before.toList
      (assembly ++ ".").toList after.toList := standsApart_of_unbordered unbordered sign other
  simpa [StandsAlone] using apart

end

/-- **Labels of members.** After a kind letter and its colon the label is the name of the kind and a
space, then the rest without an `assembly.` in front and with every later `:assembly.` written as a
colon; with no name of an assembly nothing is left out. An identifier without a kind has its
`:assembly.` written as colons, and nothing else is changed. So only an `assembly.` directly after a
colon is ever taken out. One that has no character in common with a `:assembly.` stays where it is, as
does every one that no colon precedes, where the name holds no colon and does not overlap itself. -/
theorem labels_leave_out_assembly {assembly : String} (named : assembly ≠ "") :
    (∀ letter label, (letter, label) ∈ kindLabels → ∀ name : String,
      (∀ rest, name = assembly ++ "." ++ rest → ∃ short, Collapses assembly rest short ∧
        memberLabel (letter.toString ++ ":" ++ name) (some assembly) = label ++ " " ++ short) ∧
      (¬ (assembly ++ ".").toList <+: name.toList → ∃ short, Collapses assembly name short ∧
        memberLabel (letter.toString ++ ":" ++ name) (some assembly) = label ++ " " ++ short) ∧
      ∀ missing ∈ [none, some ""],
        memberLabel (letter.toString ++ ":" ++ name) missing = label ++ " " ++ name) ∧
    (∀ identifier : String, ¬ StartsWithKind identifier.toList →
      Collapses assembly identifier (memberLabel identifier (some assembly)) ∧
      ∀ missing ∈ [none, some ""], memberLabel identifier missing = identifier) ∧
    (∀ before after : String, StandsAlone assembly before after →
      (StartsWithKind (before ++ (assembly ++ ".") ++ after).toList →
        StartsWithKind before.toList) →
      ∃ short, Collapses assembly after short ∧
        memberLabel (before ++ (assembly ++ ".") ++ after) (some assembly) =
          memberLabel before (some assembly) ++ (assembly ++ ".") ++ short) ∧
    (IsUnbordered (assembly ++ ".").toList → ':' ∉ assembly.toList → ∀ before after : String,
      before.toList.getLast? ≠ some ':' → StandsAlone assembly before after) := by
  refine ⟨?_, ?_, ?_, ?_⟩
  · intro letter label kind name
    refine ⟨?_, ?_, ?_⟩
    · intro rest parts
      apply memberLabel_of_kind named kind
      have chars : name.toList = assembly.toList ++ '.' :: rest.toList := by simp [parts]
      rw [chars, collapsed_of_assembly]
    · intro other
      apply memberLabel_of_kind named kind
      apply replaceChars_copy
      intro occurs
      apply other
      simpa using (List.cons_prefix_cons.mp occurs).2
    · intro missing listed
      apply String.toList_injective
      rw [toList_memberLabel_of_missing listed, toList_identifier,
        expandKindLetter_of_mem_kindLabels kind]
      simp
  · intro identifier other
    refine ⟨collapses_memberLabel named other, ?_⟩
    intro missing listed
    apply String.toList_injective
    rw [toList_memberLabel_of_missing listed, expandKindLetter_of_not_startsWithKind other]
  · intro before after alone inFront
    exact memberLabel_around named alone inFront
  · intro unbordered absent before after other
    exact standsAlone_of_unbordered unbordered absent other after

/-- The namespace of a method is left out, that of its parameter stays. -/
theorem parameter_types_keep_their_namespace :
    (∃ short, Collapses "Lib" "Foo.Bar(Lib.Baz)" short ∧
      memberLabel "M:Lib.Foo.Bar(Lib.Baz)" (some "Lib") = "Method " ++ short) ∧
    (∃ short, Collapses "Lib" "Baz)" short ∧
      memberLabel "M:Lib.Foo.Bar(Lib.Baz)" (some "Lib") = "Method Foo.Bar(Lib." ++ short) := by
  obtain ⟨ofKind, -, around, alone⟩ := labels_leave_out_assembly (show "Lib" ≠ "" by decide)
  refine ⟨?_, ?_⟩
  · obtain ⟨left, -, -⟩ := ofKind 'M' "Method" (by decide) "Lib.Foo.Bar(Lib.Baz)"
    exact left "Foo.Bar(Lib.Baz)" (by decide)
  · have parameter : StandsAlone "Lib" "M:Lib.Foo.Bar(" "Baz)" :=
      alone (by decide) (by decide) "M:Lib.Foo.Bar(" "Baz)" (by decide)
    have kind : StartsWithKind "M:Lib.Foo.Bar(".toList := ⟨('M', "Method"), by decide, by decide⟩
    exact around "M:Lib.Foo.Bar(" "Baz)" parameter fun _ => kind

/-- A name that overlaps itself: after the part that is left out there is no `assembly.` any more. -/
example : memberLabel "T:x.x.x.F" (some "x.x") = "Type x.F" := by decide

end MemberDocs
