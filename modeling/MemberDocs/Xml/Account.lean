import MemberDocs.Number.Binary64
import MemberDocs.Xml.Fault
import MemberDocs.Xml.Place
import MemberDocs.Xml.Scheme

/-! # How much has been read

While a document is read, the bytes of its source are counted, and so are the bytes of the texts that
stand for references in it (`Account`). From 8 MiB on, the two together may be at most 100 times what
has been read of the source (`Account.isExceeded`). A source is counted in parts, each at its place
(`Account.chargeParts`); character data is cut into parts where its lines end (`dataParts`).
-/

namespace MemberDocs.Xml

/-- The size of a text in bytes. -/
def textSize (text : List Char) : Nat :=
  text.foldl (fun n c => n + c.utf8Size) 0

/-- The size of a part of a source in bytes. -/
def Scheme.size (scheme : Scheme) (part : List Char) : Nat :=
  part.foldl (fun n c => n + scheme.bytes c) 0

/-- The nearest number of 24 binary digits, and of two equally near ones the even one. -/
def nearestSingle (n : Nat) : Nat :=
  let unit := Nat.pow 2 (n.log2 - 23)
  roundHalfEven n unit * unit

/-- What the bytes of a text count as. -/
inductive Tally where
  /-- As bytes of the source. -/
  | direct
  /-- As bytes that stand for a reference. -/
  | indirect
  /-- As nothing, since they have been counted with the markup around them. -/
  | counted
deriving DecidableEq, Repr

/-- How many bytes have been read. Values of attributes that are not taken as they stand are read
twice. -/
structure Account where
  direct : Nat := 0
  indirect : Nat := 0
deriving DecidableEq, Repr

namespace Account

def total (account : Account) : Nat :=
  account.direct + account.indirect

/-- More than 8 MiB have been read, and more than 100 times the source. The two numbers and their
quotient have single precision; a quotient of up to half a unit above 100 is 100. -/
def isExceeded (account : Account) : Bool :=
  8388608 ≤ account.total &&
    (100 * 262144 + 1) * nearestSingle account.direct < 262144 * nearestSingle account.total

def add (account : Account) (tally : Tally) (size : Nat) : Account :=
  match tally with
  | .direct => { account with direct := account.direct + size }
  | .indirect => { account with indirect := account.indirect + size }
  | .counted => account

/-- Counts bytes, as long as they are not too many. -/
def charge (account : Account) (tally : Tally) (size : Nat) : Option Account :=
  let after := account.add tally size
  if tally ≠ .counted && after.isExceeded then none else some after

/-- Counts parts of a source, up to the place of the first that is too much. -/
def chargeParts (tally : Tally) (scheme : Scheme) (account : Account) :
    List (List Char × Position) → Except PlacedFault Account
  | [] => .ok account
  | (part, position) :: parts =>
    match account.charge tally (scheme.size part) with
    | none => .error (.amplification, position)
    | some account => account.chargeParts tally scheme parts

end Account

/-- A character that ends a line, or the first of two that do. -/
def Scheme.breaksLine (scheme : Scheme) (c : Char) : Bool :=
  c = '\n' || c = '\r' && scheme ≠ .replacement

/-- The parts in which character data is read: its lines and their endings, and in a CDATA section
what starts with a closing bracket. -/
def dataParts (scheme : Scheme) (inSection : Bool) (source : List Char) : List (List Char) :=
  source.splitBy fun a b =>
    if scheme.breaksLine a || scheme.breaksLine b then
      a = '\r' && b = '\n' && scheme ≠ .replacement
    else !(inSection && b = ']')

/-- The parts of a source, each with its place. -/
def placeParts (position : Position) : List (List Char) → List (List Char × Position)
  | [] => []
  | part :: parts => (part, position) :: placeParts (position.after part) parts

end MemberDocs.Xml
