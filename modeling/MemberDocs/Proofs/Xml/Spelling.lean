import MemberDocs.Proofs.Result
import MemberDocs.Proofs.Xml.Account
import MemberDocs.Xml.Entity
import Mathlib.Data.List.Infix

/-! # How the parts of a document are spelled

One document can be written in many ways: a character as itself or by a reference (`Refers`), the
value of an attribute by such pieces between quotes of either kind (`WritesValue`), an attribute with
more or less white space (`WritesAttribute`). Whatever is spelled so is read back from its own source, in
front of any rest that it does not run into (`Refers.scan`, `WritesValue.scan`, `scan_attributes`),
and a value is read as what it stands for (`WritesValue.attributeValue`).
-/

namespace MemberDocs.Xml

/-- A complete source in UTF-8. -/
def Context.utf8 : Context := { scheme := .utf8 }

@[simp] theorem Context.utf8_scheme : Context.utf8.scheme = .utf8 := rfl

@[simp] theorem Context.utf8_ending : Context.utf8.ending = .complete := rfl

theorem span_append {α : Type} {p : α → Bool} {first rest : List α} (all : ∀ x ∈ first, p x)
    (stops : ∀ x ∈ rest.head?, p x = false) : (first ++ rest).span p = (first, rest) := by
  rw [List.span_eq_takeWhile_dropWhile, List.takeWhile_append_of_pos all,
    List.dropWhile_append_of_pos all]
  cases rest with
  | nil => simp
  | cons x more =>
    have stop := stops x rfl
    simp [stop]

/-! ## Legal characters and white space -/

/-- Characters that may stand in a document. -/
def IsLegal (source : List Char) : Prop :=
  ∀ c ∈ source, isDocumentChar c

/-- White space, or nothing. -/
def IsSpaces (source : List Char) : Prop :=
  ∀ c ∈ source, isSpace c

instance (source : List Char) : Decidable (IsLegal source) :=
  decidable_of_iff (source.all isDocumentChar) List.all_eq_true

instance (source : List Char) : Decidable (IsSpaces source) :=
  decidable_of_iff (source.all isSpace) List.all_eq_true

@[simp] theorem isLegal_nil : IsLegal [] := by simp [IsLegal]

@[simp] theorem isLegal_cons {c : Char} {rest : List Char} :
    IsLegal (c :: rest) ↔ isDocumentChar c ∧ IsLegal rest := by
  simp [IsLegal]

@[simp] theorem isLegal_append {first second : List Char} :
    IsLegal (first ++ second) ↔ IsLegal first ∧ IsLegal second := by
  simp [IsLegal, or_imp, forall_and]

theorem isLegal_flatMap {α : Type} {parts : List α} {source : α → List Char} :
    IsLegal (parts.flatMap source) ↔ ∀ part ∈ parts, IsLegal (source part) := by
  simp only [IsLegal, List.mem_flatMap]
  exact ⟨fun all part listed c inside => all c ⟨part, listed, inside⟩,
    fun each c ⟨part, listed, inside⟩ => each part listed c inside⟩

@[simp] theorem isSpaces_nil : IsSpaces [] := by simp [IsSpaces]

@[simp] theorem isSpaces_cons {c : Char} {rest : List Char} :
    IsSpaces (c :: rest) ↔ isSpace c ∧ IsSpaces rest := by
  simp [IsSpaces]

/-! ## Names -/

/-- The characters are a name of XML 1.0, with the letters, digits and marks of its fourth edition. -/
def isName : List Char → Bool
  | [] => false
  | first :: rest => Scheme.utf8.isNameStart first && rest.all Scheme.utf8.isNameChar

theorem scan_name {name rest : List Char} (named : isName name)
    (stops : ∀ c ∈ rest.head?, Scheme.utf8.isNameChar c = false) :
    Scan.name .utf8 (name ++ rest) = .ok (name, rest) := by
  cases name with
  | nil => cases named
  | cons first more =>
    simp only [isName, Bool.and_eq_true, List.all_eq_true] at named
    have split := span_append named.2 stops
    simp only [List.cons_append, Scan.name, Context.utf8, named.1, ↓reduceIte]
    rw [split]

theorem exists_cons_of_isName {name : List Char} (named : isName name) :
    ∃ first rest, name = first :: rest ∧ Scheme.utf8.isNameStart first := by
  cases name with
  | nil => cases named
  | cons first rest =>
    simp only [isName, Bool.and_eq_true] at named
    exact ⟨first, rest, rfl, named.1⟩

theorem isSpace_iff {c : Char} : isSpace c ↔ c = ' ' ∨ c = '\n' ∨ c = '\t' ∨ c = '\r' := by
  simp only [isSpace, Bool.or_eq_true, decide_eq_true_eq, or_assoc]

theorem isNameChar_of_isSpace {c : Char} (space : isSpace c) :
    Scheme.utf8.isNameChar c = false := by
  rcases isSpace_iff.mp space with rfl | rfl | rfl | rfl <;> decide

/-- A name stops before white space, and where the text goes on if there is none. -/
theorem stops_of_spaces {trail rest : List Char} (spaces : IsSpaces trail)
    (stops : ∀ c ∈ rest.head?, Scheme.utf8.isNameChar c = false) :
    ∀ c ∈ (trail ++ rest).head?, Scheme.utf8.isNameChar c = false := by
  cases trail with
  | nil => exact stops
  | cons first more =>
    intro c here
    obtain rfl := Option.some.inj here
    exact isNameChar_of_isSpace (spaces first List.mem_cons_self)

theorem isSpace_of_isNameStart {c : Char} (starts : Scheme.utf8.isNameStart c) :
    isSpace c = false := by
  by_contra space
  have other := isNameChar_of_isSpace (by simpa using space)
  simp [Scheme.isNameChar, starts] at other

/-! ## References -/

/-- The digits of a character number, with the mark of those that are hexadecimal. -/
def isNumber : List Char → Bool
  | 'x' :: hex => !hex.isEmpty && hex.all Scan.isHexDigit
  | digits => !digits.isEmpty && digits.all isAsciiDigit

/-- A reference to a character, by its number or by a name that needs no declaration. -/
inductive Refers : Token → Char → Prop where
  | number {digits : List Char} {c : Char} (written : isNumber digits)
      (means : numberedChar? digits = some c) : Refers (.character digits) c
  | entity {name : List Char} {c : Char} (means : predefinedEntity? name = some c) :
      Refers (.entity name) c

theorem scan_characterNumber {digits : List Char} (written : isNumber digits) (rest : List Char) :
    Scan.characterNumber .utf8 (digits ++ ';' :: rest) = .ok (digits, rest) := by
  have more {isDigit : Char → Bool} {digits : List Char} (all : ∀ c ∈ digits, isDigit c)
      (stops : isDigit ';' = false) :
      Scan.moreDigits .utf8 isDigit (digits ++ ';' :: rest) = .ok (digits, rest) := by
    rw [Scan.moreDigits, span_append all (by simpa using stops)]
    rfl
  unfold isNumber at written
  split at written
  next hex =>
    cases hex with
    | nil => simp at written
    | cons first others =>
      simp only [List.isEmpty_cons, Bool.not_false, Bool.true_and, List.all_cons, Bool.and_eq_true,
        List.all_eq_true] at written
      simp only [List.cons_append, Scan.characterNumber, written.1, ↓reduceIte,
        more written.2 (by decide)]
  next notHex =>
    cases digits with
    | nil => simp at written
    | cons first others =>
      simp only [List.isEmpty_cons, Bool.not_false, Bool.true_and, List.all_cons, Bool.and_eq_true,
        List.all_eq_true] at written
      have unmarked : first ≠ 'x' := fun marked => notHex others (by rw [marked])
      rw [List.cons_append, Scan.characterNumber.eq_def]
      simp only [written.1, ↓reduceIte, more written.2 (by decide)]

theorem isName_of_predefinedEntity? {name : List Char} {c : Char}
    (means : predefinedEntity? name = some c) : isName name := by
  unfold predefinedEntity? at means
  split at means
  next same => rw [same]; decide
  split at means
  next same => rw [same]; decide
  split at means
  next same => rw [same]; decide
  split at means
  next same => rw [same]; decide
  split at means
  next same => rw [same]; decide
  cases means

/-- A reference is read back, in front of any rest. -/
theorem Refers.scan {token : Token} {c : Char} (refers : Refers token c) :
    ∃ source, token.lexeme = '&' :: source ∧
      ∀ rest, Scan.reference .utf8 (source ++ rest) = .ok (token, rest) := by
  cases refers with
  | @number digits _ written means =>
    refine ⟨'#' :: digits ++ [';'], rfl, fun rest => ?_⟩
    simp only [List.cons_append, List.append_assoc, List.nil_append, Scan.reference,
      scan_characterNumber written]
  | @entity name _ means =>
    refine ⟨name ++ [';'], rfl, fun rest => ?_⟩
    have named := isName_of_predefinedEntity? means
    have semicolon : Scheme.utf8.isNameChar ';' = false := by decide
    have scanned := @scan_name name (';' :: rest) named (by simpa using semicolon)
    rw [List.append_assoc, List.singleton_append]
    cases name with
    | nil => cases named
    | cons first more =>
      have plain : first ≠ '#' := by
        rintro rfl
        have sign : Scheme.utf8.isNameStart '#' = false := by decide
        simp [isName, sign] at named
      rw [Scan.reference.eq_def]
      simp only [List.cons_append] at scanned ⊢
      split
      next rest' same => simp_all
      next =>
        rw [scanned]
        rfl

/-! ## Values of attributes -/

/-- How the value of an attribute is written between quotes: white space other than spaces, the quote
and the two signs of markup are written as references, and any other character may be. -/
inductive WritesValue (quote : Char) : List Char → List Char → Prop where
  | nil : WritesValue quote [] []
  | plain {c : Char} {source value : List Char} (legal : isDocumentChar c) (unquoted : c ≠ quote)
      (unmarked : c ≠ '<' ∧ c ≠ '&') (unbroken : isSpace c → c = ' ')
      (more : WritesValue quote source value) : WritesValue quote (c :: source) (c :: value)
  | reference {token : Token} {c : Char} {source value : List Char} (refers : Refers token c)
      (more : WritesValue quote source value) :
      WritesValue quote (token.lexeme ++ source) (c :: value)

/-- The characters of a reference are passed over. -/
theorem attributeValue_skip (quote : Char) (skipped : List Char) {rest value left : List Char}
    (read : Scan.attributeValue .utf8 quote 0 rest = .ok (value, left)) :
    Scan.attributeValue .utf8 quote skipped.length (skipped ++ rest) =
      .ok (skipped ++ value, left) := by
  induction skipped with
  | nil => exact read
  | cons c more ih => simp only [List.cons_append, List.length_cons, Scan.attributeValue, ih]

theorem WritesValue.scan {quote : Char} {source value : List Char}
    (writes : WritesValue quote source value) (quoted : quote = '"' ∨ quote = '\'')
    (rest : List Char) :
    Scan.attributeValue .utf8 quote 0 (source ++ quote :: rest) = .ok (source, rest) := by
  induction writes with
  | nil => simp [Scan.attributeValue]
  | plain legal unquoted unmarked unbroken more ih =>
    simp only [List.cons_append, Scan.attributeValue, unquoted, unmarked.1, unmarked.2, legal, ih,
      ↓reduceIte, decide_false, Bool.not_true, Bool.or_false, Bool.false_eq_true]
  | @reference token c more _ refers _ ih =>
    obtain ⟨name, lexeme, scans⟩ := refers.scan
    have notQuote : '&' ≠ quote := by rcases quoted with rfl | rfl <;> decide
    have signs : ('&' = '<') = False ∧ isDocumentChar '&' = true := by decide
    simp only [lexeme, List.cons_append, List.append_assoc, Scan.attributeValue, notQuote, signs,
      scans, List.length_cons, Nat.add_sub_cancel, attributeValue_skip quote name ih, ↓reduceIte,
      decide_false, Bool.not_true, Bool.or_false, Bool.false_eq_true]

section Fill

variable {dtd : Dtd} {replace : List Char → List Char → Filling → Except Snag Filling}
  {tally : Tally} {within : List (List Char)}

theorem fillValue_skip {isOuter isText : Bool} {scheme : Scheme} (skipped rest : List Char)
    (filling : Filling) :
    fillValue dtd replace isOuter isText tally within scheme skipped.length filling
        (skipped ++ rest) =
      fillValue dtd replace isOuter isText tally within scheme 0 filling rest := by
  induction skipped with
  | nil => rfl
  | cons c more ih => simp only [List.cons_append, List.length_cons, fillValue, ih]

section Counting

variable {filling : Filling} {size : Nat}

/-- What stands in the source can be counted while there are bytes to spare. -/
theorem Filling.exists_count (source : tally ≠ .indirect) (spares : filling.account.Spares size)
    (counted : Nat) :
    ∃ account, filling.count tally counted = .ok { filling with account } ∧
      account.Spares size := by
  unfold Filling.count
  cases tally with
  | direct =>
    rw [spares.charge_direct]
    exact ⟨_, rfl, (spares.add_direct counted).le (by omega)⟩
  | counted => exact ⟨_, rfl, spares⟩
  | indirect => exact absurd rfl source

theorem Filling.exists_settle (source : tally ≠ .indirect) (spares : filling.account.Spares size) :
    ∃ account, filling.settle tally = .ok { filling with run := 0, account } ∧
      account.Spares size := by
  unfold Filling.settle
  split
  next settled => exact ⟨filling.account, by rw [← settled], spares⟩
  next => exact @Filling.exists_count tally { filling with run := 0 } size source spares filling.run

/-- What has run up is counted first, and then what stands in the source. -/
theorem Filling.exists_settle_count (source : tally ≠ .indirect)
    (spares : filling.account.Spares size) (counted : Nat) :
    ∃ settled account, filling.settle tally = .ok settled ∧
      settled.count tally counted = .ok { filling with run := 0, account } ∧
      account.Spares size := by
  obtain ⟨settling, settled, spared⟩ := Filling.exists_settle source spares
  obtain ⟨account, counts, spared⟩ := @Filling.exists_count tally
    { filling with run := 0, account := settling } size source spared counted
  exact ⟨_, account, settled, counts, spared⟩

end Counting

/-- What is read between the quotes is the value, and it takes no more than its own length of what is
to spare. -/
theorem WritesValue.fill {quote : Char} {source value : List Char}
    (writes : WritesValue quote source value) (fromSource : tally ≠ .indirect) {size : Nat}
    {filling : Filling} (spares : filling.account.Spares (size + source.length)) :
    ∃ account, fillValue dtd replace true true tally within .utf8 0 filling source =
        .ok { chars := value.reverse ++ filling.chars, account } ∧ account.Spares size := by
  induction writes generalizing filling with
  | nil =>
    obtain ⟨account, settled, spared⟩ := Filling.exists_settle fromSource spares
    exact ⟨account, by rw [fillValue, settled]; rfl, spared⟩
  | @plain c source value legal unquoted unmarked unbroken more ih =>
    have later : filling.account.Spares (size + source.length) :=
      spares.le (by simp only [List.length_cons]; omega)
    rw [fillValue]
    by_cases space : isSpace c
    · obtain rfl := unbroken space
      obtain ⟨_, counting, settled, counted, spared⟩ :=
        Filling.exists_settle_count fromSource later (Scheme.utf8.bytes ' ')
      obtain ⟨account, filled, spared⟩ :=
        @ih (Filling.push { filling with run := 0, account := counting } ' ') spared
      have signs : isPlainValueChar ' ' = false ∧ (' ' = '&') = False ∧ (' ' = '<') = False ∧
        (' ' = '\r') = False := by decide
      refine ⟨account, ?_, spared⟩
      simp only [signs, settled, decide_false, Bool.false_and, Bool.false_eq_true, ↓reduceIte,
        counted, Filling.pushSpace, Bool.not_true, filled]
      simp [Filling.push]
    · have plain : isPlainValueChar c := by simp [isPlainValueChar, unmarked, space]
      obtain ⟨account, filled, spared⟩ := @ih
        { filling.push c with run := filling.run + Scheme.utf8.bytes c } later
      refine ⟨account, ?_, spared⟩
      simp only [plain, ↓reduceIte, filled]
      simp [Filling.push]
  | @reference token c source value refers more ih =>
    obtain ⟨name, lexeme, scans⟩ := refers.scan
    have scanned : Scan.reference ⟨.utf8, .complete⟩ (name ++ source) = .ok (token, source) :=
      scans source
    have later : filling.account.Spares (size + source.length + 1) :=
      spares.le (by simp only [lexeme, List.length_append, List.length_cons]; omega)
    obtain ⟨_, counting, settled, counted, spared⟩ :=
      Filling.exists_settle_count fromSource later (Scheme.utf8.size token.lexeme)
    have sign : isPlainValueChar '&' = false := by decide
    rw [lexeme, List.cons_append, fillValue]
    simp only [sign, settled, Bool.false_eq_true, ↓reduceIte, scanned, counted]
    simp only [lexeme, List.length_cons, Nat.add_sub_cancel, fillValue_skip]
    cases refers with
    | number written means =>
      obtain ⟨account, filled, spared⟩ :=
        @ih (Filling.push { filling with run := 0, account := counting } c) (spared.le (by omega))
      refine ⟨account, ?_, spared⟩
      by_cases space : c = ' '
      · subst space
        simp only [means, Filling.pushSpace, Bool.not_true, Bool.false_and, Bool.false_eq_true,
          ↓reduceIte, filled]
        simp [Filling.push]
      · simp only [means, filled]
        simp [Filling.push]
    | entity means =>
      obtain ⟨account, filled, spared⟩ :=
        @ih (Filling.pushPredefined { filling with run := 0, account := counting } c)
          spared.add_indirect
      refine ⟨account, ?_, spared⟩
      simp only [means, filled]
      simp [Filling.pushPredefined, Filling.push]

end Fill

/-- The value of an attribute that no declaration is known of. -/
theorem WritesValue.attributeValue {quote : Char} {source value : List Char}
    (writes : WritesValue quote source value) (dtd : Dtd) {tally : Tally}
    (fromSource : tally ≠ .indirect) {account : Account} {size : Nat}
    (spares : account.Spares (size + source.length)) :
    ∃ after, dtd.attributeValue true true tally [] .utf8 account source = .ok (value, after) ∧
      after.Spares size := by
  obtain ⟨after, filled, spared⟩ := @WritesValue.fill dtd
    (replaceInValue dtd true (dtd.entities.length + 1) []) tally [] quote source value writes
    fromSource size { account } spares
  refine ⟨after, ?_, spared⟩
  unfold Dtd.attributeValue
  simp only [filled]
  unfold Filling.finish
  simp only [List.append_nil]
  split <;> simp_all

/-! ## Attributes -/

/-- How an attribute is written: after white space, with an equals sign that white space may stand
around, and its value between quotes of either kind. -/
structure WritesAttribute (a : RawAttribute) (pair : String × String) : Prop where
  lead : a.lead ≠ [] ∧ IsSpaces a.lead
  name : a.name = pair.1.toList ∧ isName a.name
  middle : ∃ before after, a.middle = before ++ '=' :: after ∧ IsSpaces before ∧
    IsSpaces after
  quote : a.quote = '"' ∨ a.quote = '\''
  value : WritesValue a.quote a.value pair.2.toList

theorem scan_equalsSign {before after rest : List Char} (first : IsSpaces before)
    (second : IsSpaces after) (stops : ∀ c ∈ rest.head?, isSpace c = false) :
    Scan.equalsSign .utf8 (before ++ '=' :: (after ++ rest)) =
      .ok (before ++ '=' :: after, rest) := by
  have sign : isSpace '=' = false := by decide
  unfold Scan.equalsSign Scan.spaces
  rw [span_append first (by simpa using sign)]
  simp only [span_append second stops]

theorem WritesAttribute.scan {a : RawAttribute} {pair : String × String}
    (writes : WritesAttribute a pair) (rest : List Char) :
    Scan.rawAttribute .utf8 a.lead (a.name ++ a.middle ++ a.quote :: (a.value ++ a.quote :: rest)) =
      .ok (a, rest) := by
  obtain ⟨before, after, middle, first, second⟩ := writes.middle
  have sign : Scheme.utf8.isNameChar '=' = false := by decide
  have quoted : isSpace a.quote = false := by
    rcases writes.quote with same | same <;> rw [same] <;> decide
  have named := @scan_name a.name
    (before ++ '=' :: (after ++ a.quote :: (a.value ++ a.quote :: rest))) writes.name.2
    (stops_of_spaces first (by simpa using sign))
  have equals := @scan_equalsSign before after (a.quote :: (a.value ++ a.quote :: rest)) first second
    (by simpa using quoted)
  have value := writes.value.scan writes.quote rest
  have opens : (a.quote = '"' || a.quote = '\'') = true := by simpa using writes.quote
  unfold Scan.rawAttribute
  rw [middle]
  simp only [List.append_assoc, List.cons_append, named]
  simp only [equals, opens, value, ↓reduceIte]
  rw [← middle]

/-! ## Tags -/

/-- The end of a start tag, after its attributes. -/
def tagClose (empty : Bool) : List Char :=
  if empty then ['/', '>'] else ['>']

theorem scan_attributes {raws : List RawAttribute} {attributes : List (String × String)}
    (written : List.Forall₂ WritesAttribute raws attributes) {trail : List Char}
    (spaces : IsSpaces trail) (empty first : Bool) (rest : List Char) {room : Nat}
    (enough : raws.length < room) :
    Scan.attributes .utf8 first room
        (raws.flatMap RawAttribute.lexeme ++ trail ++ tagClose empty ++ rest) =
      .ok ((raws, trail, empty), rest) := by
  induction written generalizing room first with
  | nil =>
    cases room with
    | zero => cases enough
    | succ room =>
      have closes : ∀ c ∈ (tagClose empty ++ rest).head?, isSpace c = false := by
        cases empty <;> simp [tagClose, isSpace]
      have split := @span_append _ _ _ (tagClose empty ++ rest) spaces closes
      simp only [List.flatMap_nil, List.nil_append, List.append_assoc, Scan.attributes, Scan.spaces,
        split]
      cases empty <;> simp [tagClose, Scan.tagEnd]
  | @cons a pair raws pairs writes others ih =>
    cases room with
    | zero => cases enough
    | succ room =>
      have later := ih false (Nat.lt_of_succ_lt_succ enough)
      have source : (a :: raws).flatMap RawAttribute.lexeme ++ trail ++ tagClose empty ++ rest =
          a.lead ++ (a.name ++ a.middle ++ a.quote :: (a.value ++ a.quote ::
            (raws.flatMap RawAttribute.lexeme ++ trail ++ tagClose empty ++ rest))) := by
        simp [RawAttribute.lexeme]
      have scanned := writes.scan
        (raws.flatMap RawAttribute.lexeme ++ trail ++ tagClose empty ++ rest)
      rw [source, Scan.attributes]
      generalize raws.flatMap RawAttribute.lexeme ++ trail ++ tagClose empty ++ rest = left at *
      obtain ⟨filled, blank⟩ := writes.lead
      obtain ⟨c, more, named, starts⟩ := exists_cons_of_isName writes.name.2
      rw [named] at scanned ⊢
      have split := @span_append _ _ _ ((c :: more) ++ a.middle ++ a.quote ::
        (a.value ++ a.quote :: left)) blank (by simpa using isSpace_of_isNameStart starts)
      have notClose : c ≠ '>' ∧ c ≠ '/' := by
        constructor <;> rintro rfl <;> exact absurd starts (by decide)
      have notEmpty : a.lead.isEmpty = false := by simpa using filled
      unfold Scan.spaces
      simp only [split]
      simp only [List.cons_append] at scanned ⊢
      simp only [notClose, notEmpty, scanned, later, decide_false, Bool.or_false, Bool.false_eq_true,
        ↓reduceIte]

end MemberDocs.Xml
