import MemberDocs.Xml.Scheme

/-! # The XML declaration

What stands between `<?xml` and `?>`: a version, then possibly an encoding, then possibly whether
the document is standalone. A declaration that is not of this form is refused at the place of the
first character that does not fit, told by what is left from there.
-/

namespace MemberDocs.Xml

/-- What an XML declaration says. -/
structure Declaration where
  /-- The name of the encoding, with the declaration from that name on. -/
  encoding : Option (List Char × List Char) := none
  standalone : Bool := false
deriving DecidableEq, Repr

/-- An assignment in an XML declaration: its name, its value, and the declaration from each of the
two on. -/
structure Assignment where
  name : List Char
  value : List Char
  atName : List Char
  atValue : List Char
deriving DecidableEq, Repr

namespace Declaration

/-- A character of a value. -/
def isValueChar (c : Char) : Bool :=
  isAsciiLetter c || isAsciiDigit c || c = '.' || c = '-' || c = '_'

/-- The value of an assignment, after its opening quote. -/
def value (quote : Char) : List Char → Except (List Char) (List Char × List Char)
  | [] => .error []
  | c :: rest =>
    if c = quote then .ok ([], rest)
    else if isValueChar c then
      match value quote rest with
      | .ok (more, left) => .ok (c :: more, left)
      | .error at_ => .error at_
    else .error (c :: rest)

/-- The equals sign of an assignment, and what follows it, after the name. -/
def equalsSign (cs : List Char) : Except (List Char) (List Char) :=
  match cs.dropWhile isSpace with
  | '=' :: rest => .ok (rest.dropWhile isSpace)
  | rest => .error rest

/-- A character of the name of an assignment. -/
def isAssignedNameChar (c : Char) : Bool :=
  c.toNat < 128 && c ≠ '=' && !isSpace c

/-- The next assignment, if there is one, and what is left. White space has to part it from what
stands before. -/
def assignment? (cs : List Char) : Except (List Char) (Option (Assignment × List Char)) :=
  match cs with
  | [] => .ok none
  | c :: _ =>
    if !isSpace c then .error cs
    else
      match cs.dropWhile isSpace with
      | [] => .ok none
      | atName =>
        let (name, rest) := atName.span isAssignedNameChar
        if name.isEmpty then .error atName
        else
          match equalsSign rest with
          | .error at_ => .error at_
          | .ok rest =>
            match rest with
            | [] => .error []
            | quote :: atValue =>
              if quote = '"' || quote = '\'' then
                match value quote atValue with
                | .error at_ => .error at_
                | .ok (value, left) => .ok (some (⟨name, value, atName, atValue⟩, left))
              else .error rest

/-- The end of a declaration: the assignment that says whether the document is standalone, and
nothing but white space after it. -/
def ending (a : Assignment) (left : List Char) : Except (List Char) Bool :=
  if a.name ≠ "standalone".toList then .error a.atName
  else if a.value ≠ "yes".toList && a.value ≠ "no".toList then .error a.atValue
  else
    match left.dropWhile isSpace with
    | [] => .ok (a.value = "yes".toList)
    | rest => .error rest

def parse (body : List Char) : Except (List Char) Declaration :=
  match assignment? body with
  | .error at_ => .error at_
  | .ok none => .error body
  | .ok (some (version, left)) =>
    if version.name ≠ "version".toList then .error version.atName
    else
      match assignment? left with
      | .error at_ => .error at_
      | .ok none => .ok {}
      | .ok (some (second, left)) =>
        if second.name = "encoding".toList then
          if !(second.value.head?.any isAsciiLetter) then .error second.atValue
          else
            let encoding := some (second.value, second.atValue)
            match assignment? left with
            | .error at_ => .error at_
            | .ok none => .ok { encoding := encoding }
            | .ok (some (third, left)) =>
              (ending third left).map fun standalone => ⟨encoding, standalone⟩
        else (ending second left).map fun standalone => ⟨none, standalone⟩

end Declaration

end MemberDocs.Xml
