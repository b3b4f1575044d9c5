import MemberDocs.Proofs.Xml.Scanned

/-! # Tokens and their sources

A token that has been scanned has its own spelling in front of the source (`lexeme_of_scan`), however
the source is written.
-/

namespace MemberDocs.Xml

section Parts

variable {context : Context} {source left : List Char}

theorem spaces_of_scan {trail : List Char} (read : Scan.spaces source = (trail, left)) :
    source = trail ++ left := by
  rw [Scan.spaces, List.span_eq_takeWhile_dropWhile] at read
  obtain ⟨rfl, rfl⟩ := Prod.mk.inj read
  exact List.takeWhile_append_dropWhile.symm

/-! ## References -/

theorem moreDigits_of_scan {isDigit : Char → Bool} {digits : List Char}
    (read : Scan.moreDigits context isDigit source = .ok (digits, left)) :
    source = digits ++ ';' :: left := by
  unfold Scan.moreDigits at read
  rw [List.span_eq_takeWhile_dropWhile] at read
  have whole := @List.takeWhile_append_dropWhile _ isDigit source
  split at read
  next => cases read
  next same =>
    obtain ⟨rfl, rfl⟩ := Prod.mk.inj (Except.ok.inj read)
    obtain ⟨taken, dropped⟩ := Prod.mk.inj same
    rw [← whole, taken, dropped]
  next => cases read

theorem characterNumber_of_scan {digits : List Char}
    (read : Scan.characterNumber context source = .ok (digits, left)) :
    source = digits ++ ';' :: left := by
  rw [Scan.characterNumber.eq_def] at read
  split at read
  next => cases read
  next rest =>
    split at read
    next => cases read
    next =>
      split at read
      next =>
        split at read
        next more =>
          obtain ⟨rfl, rfl⟩ := Prod.mk.inj (Except.ok.inj read)
          rw [moreDigits_of_scan more]
          rfl
        next => cases read
      next => cases read
  next =>
    split at read
    next =>
      split at read
      next more =>
        obtain ⟨rfl, rfl⟩ := Prod.mk.inj (Except.ok.inj read)
        rw [moreDigits_of_scan more]
        rfl
      next => cases read
    next => cases read

theorem lexeme_character (digits : List Char) :
    (Token.character digits).lexeme = '&' :: '#' :: digits ++ [';'] := rfl

theorem lexeme_entity (name : List Char) : (Token.entity name).lexeme = '&' :: name ++ [';'] := rfl

/-- A reference is one to a character or to an entity, and has its own source. -/
theorem reference_of_scan {token : Token}
    (read : Scan.reference context source = .ok (token, left)) :
    '&' :: source = token.lexeme ++ left ∧
      ((∃ digits, token = .character digits) ∨ ∃ name, token = .entity name) := by
  rw [Scan.reference.eq_def] at read
  split at read
  next rest =>
    split at read
    next digits _ number =>
      obtain ⟨rfl, rfl⟩ := Prod.mk.inj (Except.ok.inj read)
      rw [characterNumber_of_scan number]
      exact ⟨by simp [lexeme_character], Or.inl ⟨digits, rfl⟩⟩
    next => cases read
  next =>
    split at read
    next => cases read
    next => cases read
    next entity _ named =>
      obtain ⟨rfl, rfl⟩ := Prod.mk.inj (Except.ok.inj read)
      rw [name_of_scan named]
      exact ⟨by simp [lexeme_entity], Or.inr ⟨entity, rfl⟩⟩
    next => cases read

/-! ## Attributes -/

theorem attributeValue_of_scan {quote : Char} {skip : Nat} {value : List Char}
    (read : Scan.attributeValue context quote skip source = .ok (value, left)) :
    source = value ++ quote :: left := by
  induction source generalizing skip value with
  | nil => cases read
  | cons c rest ih =>
    -- Whatever is done with the character, the value goes on with what follows it.
    have next {skip : Nat} {more after : List Char}
        (later : Scan.attributeValue context quote skip rest = .ok (more, after))
        (same : (c :: more, after) = (value, left)) : c :: rest = value ++ quote :: left := by
      obtain ⟨rfl, rfl⟩ := Prod.mk.inj same
      rw [ih later, List.cons_append]
    rw [Scan.attributeValue.eq_def] at read
    dsimp only at read
    split at read
    next =>
      split at read
      next later => exact next later (Except.ok.inj read)
      next => cases read
    next =>
      split at read
      next isQuote =>
        obtain ⟨rfl, rfl⟩ := Prod.mk.inj (Except.ok.inj read)
        rw [isQuote, List.nil_append]
      next =>
        split at read
        next => cases read
        next =>
          split at read
          next =>
            split at read
            next => cases read
            next =>
              split at read
              next later => exact next later (Except.ok.inj read)
              next => cases read
          next =>
            split at read
            next later => exact next later (Except.ok.inj read)
            next => cases read

theorem equalsSign_of_scan {middle : List Char}
    (read : Scan.equalsSign context source = .ok (middle, left)) : source = middle ++ left := by
  unfold Scan.equalsSign Scan.spaces at read
  simp only [List.span_eq_takeWhile_dropWhile] at read
  have whole := @List.takeWhile_append_dropWhile _ isSpace source
  split at read
  next => cases read
  next before rest same =>
    obtain ⟨rfl, rfl⟩ := Prod.mk.inj (Except.ok.inj read)
    obtain ⟨taken, dropped⟩ := Prod.mk.inj same
    rw [taken, dropped] at whole
    rw [← whole, List.append_assoc, List.cons_append, List.takeWhile_append_dropWhile]
  next => cases read

theorem rawAttribute_of_scan {lead : List Char} {a : RawAttribute}
    (read : Scan.rawAttribute context lead source = .ok (a, left)) :
    a.lead = lead ∧ lead ++ source = a.lexeme ++ left := by
  unfold Scan.rawAttribute at read
  split at read
  next => cases read
  next name _ named =>
    split at read
    next => cases read
    next middle rest equals =>
      split at read
      next => cases read
      next quote rest' =>
        split at read
        next =>
          split at read
          next => cases read
          next value _ valued =>
            obtain ⟨rfl, rfl⟩ := Prod.mk.inj (Except.ok.inj read)
            refine ⟨rfl, ?_⟩
            rw [name_of_scan named, equalsSign_of_scan equals, attributeValue_of_scan valued]
            simp [RawAttribute.lexeme]
        next => cases read

theorem tagEnd_of_scan {empty : Bool} (read : Scan.tagEnd context source = .ok (empty, left)) :
    source = tagClose empty ++ left := by
  rw [Scan.tagEnd.eq_def] at read
  split at read
  next => cases read; rfl
  next =>
    split at read
    next => cases read
    next => cases read; rfl
    next => cases read
  next => cases read

theorem attributes_of_scan {first : Bool} {room : Nat} {raws : List RawAttribute}
    {trail : List Char} {empty : Bool}
    (read : Scan.attributes context first room source = .ok ((raws, trail, empty), left)) :
    source = raws.flatMap RawAttribute.lexeme ++ (trail ++ (tagClose empty ++ left)) := by
  induction room generalizing first source raws with
  | zero => cases read
  | succ room ih =>
    have whole := @List.takeWhile_append_dropWhile _ isSpace source
    unfold Scan.attributes Scan.spaces at read
    simp only [List.span_eq_takeWhile_dropWhile] at read
    split at read
    next => cases read
    next c more dropped =>
      rw [dropped] at whole
      split at read
      next =>
        split at read
        next => cases read
        next closed =>
          cases read
          rw [dropped] at closed
          rw [List.flatMap_nil, List.nil_append, ← tagEnd_of_scan closed, whole]
      next =>
        split at read
        next => cases read
        next =>
          split at read
          next => cases read
          next a rest here =>
            split at read
            next => cases read
            next later =>
              cases read
              rw [dropped] at here
              rw [← whole, (rawAttribute_of_scan here).2, ih later]
              simp

/-! ## Sections and texts -/

theorem cdataBody_of_scan {body : List Char} (read : cdataBody context source = .ok (body, left)) :
    source = body ++ ']' :: ']' :: '>' :: left := by
  induction source generalizing body with
  | nil => cases read
  | cons c rest ih =>
    rw [cdataBody.eq_def] at read
    split at read
    next same => cases same
    next same =>
      obtain ⟨rfl, rfl⟩ := Prod.mk.inj (Except.ok.inj read)
      exact same
    next same =>
      obtain ⟨rfl, rfl⟩ := List.cons.inj same
      split at read
      next => cases read
      next =>
        split at read
        next =>
          split at read
          next later =>
            obtain ⟨rfl, rfl⟩ := Prod.mk.inj (Except.ok.inj read)
            rw [ih later, List.cons_append]
          next => cases read
        next => cases read

theorem textRun_of_scan {text : List Char} (read : textRun context source = .ok (text, left)) :
    source = text ++ left := by
  induction source generalizing text with
  | nil => cases read; rfl
  | cons c rest ih =>
    rw [textRun.eq_def] at read
    split at read
    next same => cases same
    next => cases read
    next same =>
      obtain ⟨rfl, rfl⟩ := List.cons.inj same
      split at read
      next => cases read; rfl
      next =>
        split at read
        next => cases read
        next =>
          split at read
          next => cases read
          next =>
            split at read
            next =>
              split at read
              next later =>
                obtain ⟨rfl, rfl⟩ := Prod.mk.inj (Except.ok.inj read)
                rw [ih later, List.cons_append]
              next => cases read
            next => cases read

/-- Where a whole mark agrees with the front of a source, it is the front. -/
theorem eq_mark_of_agreed {mark source : List Char}
    (agreed : mark.length ≤ ((source.zip mark).takeWhile fun pair => pair.1 = pair.2).length) :
    source = mark ++ source.drop mark.length := by
  induction mark generalizing source with
  | nil => simp
  | cons c rest ih =>
    cases source with
    | nil => simp at agreed
    | cons d more =>
      by_cases same : d = c
      · subst same
        have later := @ih more (by simpa using agreed)
        rw [List.length_cons, List.drop_succ_cons, List.cons_append, ← later]
      · simp [same] at agreed

theorem cdataSection_of_scan {body : List Char}
    (read : cdataSection context source = .ok (.cdata body, left)) :
    '<' :: '!' :: '[' :: source = (Token.cdata body).lexeme ++ left := by
  unfold cdataSection at read
  dsimp only at read
  split at read
  next => cases read
  next =>
    split at read
    next => cases read
    next agreed =>
      split at read
      next => cases read
      next inside =>
        cases read
        have front : source = cdataMark ++ source.drop 6 := eq_mark_of_agreed (by
          rw [show cdataMark.length = 6 from rfl]
          omega)
        rw [cdataBody_of_scan inside] at front
        rw [front, lexeme_cdata]
        simp [cdataMark]

end Parts

/-! ## Tokens -/

/-- A token is read from its own source. -/
theorem lexeme_of_scan {source left : List Char} {token : Token}
    (read : Token.scan .utf8 source = .ok (token, left)) :
    source = token.lexeme ++ left := by
  cases Token.scanned_of_scan read with
  | comment inside =>
    rw [(comment_of_scan inside).1, lexeme_comment]
    simp
  | cdata inside => exact cdataSection_of_scan inside
  | instruction inside =>
    rw [(instruction_of_scan inside).1, lexeme_instruction]
    simp
  | endTag named closed =>
    rw [name_of_scan named, spaces_of_scan closed, lexeme_endTag]
    simp
  | startTag named inside =>
    rw [name_of_scan named, attributes_of_scan inside, lexeme_startTag]
    simp
  | character inside | entity inside => exact (reference_of_scan inside).1
  | text _ inside => exact textRun_of_scan inside

end MemberDocs.Xml
