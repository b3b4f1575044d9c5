/-! # Replacing a part of a text -/

namespace MemberDocs.Text

/-- Replaces `target`, from the left and never in what was put in; `skip` counts the characters
of an occurrence just replaced that are still in front. -/
def replaceChars (target replacement : List Char) (skip : Nat) : List Char → List Char
  | [] => []
  | c :: rest =>
    match skip with
    | skip + 1 => replaceChars target replacement skip rest
    | 0 =>
      if !target.isEmpty && target.isPrefixOf (c :: rest) then
        replacement ++ replaceChars target replacement (target.length - 1) rest
      else c :: replaceChars target replacement 0 rest

/-- The text with every leftmost occurrence of `target`, no two of them overlapping, replaced. An
empty target occurs nowhere. -/
def replaceAll (target replacement s : String) : String :=
  String.ofList (replaceChars target.toList replacement.toList 0 s.toList)

end MemberDocs.Text
