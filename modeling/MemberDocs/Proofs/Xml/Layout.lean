import MemberDocs.Proofs.Xml.Readable
import MemberDocs.Text.Blank
import MemberDocs.Xml.Content
import MemberDocs.Xml.Declaration

/-! # How documents are written

A document is written as a sequence of tokens. A text may be cut into pieces in any way, an element
without children may have one tag or two, and the gaps between tags that hold no text may be filled
(`Written`). Every tree of legal names and characters whose texts are parted and not blank can be
written so (`exists_prints`). However it is written, the tokens of its element are read back one by
one, up to the tag that closes it (`WritesElement.tokensFrom`).
-/

namespace MemberDocs.Xml

/-! ## Trees that can be written -/

/-- A head that a tag can have: its names are names of XML, no key occurs twice, and the values hold
characters that may stand in a document. -/
structure IsHead (tag : Tag) : Prop where
  named : isName tag.name.toList
  unique : (tag.attributes.map Prod.fst).Nodup
  keys : ∀ pair ∈ tag.attributes, isName pair.1.toList
  values : ∀ pair ∈ tag.attributes, IsLegal pair.2.toList

/-- A tree that can be written in a document: its heads and its characters may stand there, no text is
blank, and no two texts are neighbours. -/
inductive Printable : Node → Prop where
  | text {content : String} {position : Position} (legal : IsLegal content.toList)
      (shown : Text.isBlankText content = false) : Printable (.text content position)
  | element {tag : Tag} {children : List Node} (head : IsHead tag)
      (each : ∀ node ∈ children, Printable node)
      (parted : children.IsChain fun first second => first.tag?.isSome ∨ second.tag?.isSome) :
      Printable (.element tag children)

/-! ## Ways to write them -/

/-- What stands before a tag, or before the end, where no text is: white space and asides, and nothing
if a text has just been spelled out, which would run on in it. -/
structure FillsGap (afterText : Bool) (gap : List Token) : Prop where
  fills : ∀ token ∈ gap, Fills token
  closed : afterText → gap = []

/-- How neighbouring parts of a tree are written; `afterText` says that a text stands before them, so
that no other one can follow. -/
inductive Written : (afterText : Bool) → List Node → List Token → Prop where
  | nil {afterText : Bool} {gap : List Token} (fills : FillsGap afterText gap) :
      Written afterText [] gap
  | text {content : String} {position : Position} {nodes : List Node} {pieces more : List Token}
      {cuts : List (List Char)} (spelled : List.Forall₂ Spells pieces cuts)
      (joined : cuts.flatten = content.toList) (later : Written true nodes more) :
      Written false (.text content position :: nodes) (pieces ++ more)
  | empty {afterText : Bool} {gap more : List Token} {tag : Tag} {opening : Token}
      {nodes : List Node} (fills : FillsGap afterText gap) (opens : Opens tag true opening)
      (later : Written false nodes more) :
      Written afterText (.element tag [] :: nodes) (gap ++ opening :: more)
  | element {afterText : Bool} {gap inner more : List Token} {tag : Tag} {opening closing : Token}
      {children nodes : List Node} (fills : FillsGap afterText gap)
      (opens : Opens tag false opening) (inside : Written false children inner)
      (closes : Closes tag closing) (later : Written false nodes more) :
      Written afterText (.element tag children :: nodes)
        (gap ++ opening :: (inner ++ closing :: more))

/-- How an element is written, without what is around it. -/
inductive WritesElement : Element → List Token → Prop where
  | empty {tag : Tag} {opening : Token} (opens : Opens tag true opening) :
      WritesElement ⟨tag, []⟩ [opening]
  | full {tag : Tag} {children : List Node} {opening closing : Token} {inner : List Token}
      (opens : Opens tag false opening) (inside : Written false children inner)
      (closes : Closes tag closing) :
      WritesElement ⟨tag, children⟩ (opening :: (inner ++ [closing]))

/-- An element alone is written between two gaps. -/
theorem Written.exists_element {document : Element} {tokens : List Token}
    (written : Written false [document.toNode] tokens) :
    ∃ prolog element epilog, tokens = prolog ++ (element ++ epilog) ∧
      (∀ token ∈ prolog, Fills token) ∧ WritesElement document element ∧
      ∀ token ∈ epilog, Fills token := by
  cases document with
  | mk tag children =>
    cases written with
    | @empty _ gap more _ opening _ fills opens later =>
      cases later with
      | nil epilog => exact ⟨gap, [opening], more, by simp, fills.fills, .empty opens, epilog.fills⟩
    | @element _ gap inner more _ opening closing _ _ fills opens inside closes later =>
      cases later with
      | nil epilog =>
        exact ⟨gap, opening :: (inner ++ [closing]), more, by simp, fills.fills,
          .full opens inside closes, epilog.fills⟩

/-- No stretch of character data is cut in two without anything between. -/
def Apart (tokens : List Token) : Prop :=
  tokens.IsChain fun first second => ¬ (first.isText ∧ second.isText)

/-- What may stand at the very front of a document: nothing, or an XML declaration. -/
inductive OpensDocument : List Char → Prop where
  | nothing : OpensDocument []
  | declaration {body : List Char} {declared : Declaration} (legal : IsLegal body)
      (parted : body.head?.all isSpace) (closed : ¬ ['?', '>'] <:+: body)
      (parsed : Declaration.parse body = .ok declared) :
      OpensDocument ('<' :: '?' :: (Scan.declarationTarget ++ body ++ ['?', '>']))

/-- The source is a way to write the document, without a document type declaration. -/
def Prints (document : Element) (source : String) : Prop :=
  ∃ opening tokens, OpensDocument opening ∧ Written false [document.toNode] tokens ∧
    Apart tokens ∧ source.toList = opening ++ tokens.flatMap Token.lexeme

/-! ## Every tree can be written -/

/-- The characters that are not written as they are in some place have references. -/
theorem exists_refers : ∀ c ∈ ['\t', '\n', '\r', '"', '<', '&'], ∃ token, Refers token c := by
  simp only [List.forall_mem_cons]
  exact ⟨⟨_, @Refers.number ['9'] _ (by decide) (by decide)⟩,
    ⟨_, @Refers.number ['1', '0'] _ (by decide) (by decide)⟩,
    ⟨_, @Refers.number ['1', '3'] _ (by decide) (by decide)⟩,
    ⟨_, @Refers.entity ['q', 'u', 'o', 't'] _ (by decide)⟩,
    ⟨_, @Refers.entity ['l', 't'] _ (by decide)⟩,
    ⟨_, @Refers.entity ['a', 'm', 'p'] _ (by decide)⟩, by simp⟩

theorem exists_writesValue {value : List Char} (legal : IsLegal value) :
    ∃ source, WritesValue '"' source value := by
  induction value with
  | nil => exact ⟨[], .nil⟩
  | cons c rest ih =>
    obtain ⟨source, writes⟩ := ih fun d later => legal d (List.mem_cons_of_mem c later)
    by_cases special : c ∈ ['\t', '\n', '\r', '"', '<', '&']
    · obtain ⟨token, refers⟩ := exists_refers c special
      exact ⟨_, .reference refers writes⟩
    · simp only [List.mem_cons, List.not_mem_nil, or_false, not_or] at special
      obtain ⟨notTab, notFeed, notReturn, unquoted, unmarked⟩ := special
      have unbroken : isSpace c → c = ' ' := by simp [isSpace, notTab, notFeed, notReturn]
      exact ⟨_, .plain (legal c List.mem_cons_self) unquoted unmarked unbroken writes⟩

theorem exists_writesAttribute {pair : String × String} (key : isName pair.1.toList)
    (legal : IsLegal pair.2.toList) : ∃ raw, WritesAttribute raw pair := by
  obtain ⟨source, writes⟩ := exists_writesValue legal
  exact ⟨⟨[' '], pair.1.toList, ['='], '"', source⟩, {
    lead := ⟨by simp, by simp [isSpace]⟩
    name := ⟨rfl, key⟩
    middle := ⟨[], [], rfl, by simp, by simp⟩
    quote := Or.inl rfl
    value := writes }⟩

/-- A head can be written in a tag of either kind. -/
theorem IsHead.exists_opens {tag : Tag} (head : IsHead tag) (empty : Bool) :
    ∃ opening, Opens tag empty opening := by
  have attributes : ∃ raws, List.Forall₂ WritesAttribute raws tag.attributes := by
    have each : ∀ pair ∈ tag.attributes, ∃ raw, WritesAttribute raw pair := fun pair listed =>
      exists_writesAttribute (head.keys pair listed) (head.values pair listed)
    generalize tag.attributes = attributes at each
    induction attributes with
    | nil => exact ⟨[], .nil⟩
    | cons pair rest ih =>
      obtain ⟨raw, writes⟩ := each pair List.mem_cons_self
      obtain ⟨raws, others⟩ := ih fun other later => each other (List.mem_cons_of_mem pair later)
      exact ⟨raw :: raws, .cons writes others⟩
  obtain ⟨raws, written⟩ := attributes
  exact ⟨_, @Opens.intro tag empty raws [] head.named written (by simp)⟩

/-- Every text can be cut into single characters: a carriage return is written as a reference, any
other character in a section of its own. -/
theorem exists_spells {content : List Char} (legal : IsLegal content) :
    ∃ pieces cuts, List.Forall₂ Spells pieces cuts ∧ cuts.flatten = content ∧
      ∀ piece ∈ pieces, piece.isText = false := by
  induction content with
  | nil => exact ⟨[], [], .nil, rfl, by simp⟩
  | cons c rest ih =>
    obtain ⟨pieces, cuts, spelled, joined, noText⟩ := ih fun d later =>
      legal d (List.mem_cons_of_mem c later)
    have one : ∃ piece, Spells piece [c] ∧ piece.isText = false := by
      by_cases isReturn : c = '\r'
      · subst isReturn
        exact ⟨_, .reference (@Refers.number ['1', '3'] _ (by decide) (by decide)), rfl⟩
      · have unclosed : ¬ [']', ']', '>'] <:+: [c] := fun inside => by
          simpa using inside.length_le
        exact ⟨.cdata [c], .cdata ⟨by simpa using legal c List.mem_cons_self, unclosed⟩
          (by simpa using Ne.symm isReturn), rfl⟩
    obtain ⟨piece, spells, notText⟩ := one
    exact ⟨piece :: pieces, [c] :: cuts, .cons spells spelled, by simp [joined],
      by simpa [notText] using noText⟩

/-- There is no character data among the tokens, which would run on in other character data. -/
def Textless (tokens : List Token) : Prop :=
  ∀ token ∈ tokens, token.isText = false

/-- The part can be written in front of others that are written, unless it is a text after a text. -/
def CanPrecede (node : Node) : Prop :=
  ∀ (afterText : Bool) (following : List Node) (more : List Token),
    (afterText → node.tag?.isSome) → Written node.tag?.isNone following more → Textless more →
      ∃ tokens, Written afterText (node :: following) tokens ∧ Textless tokens

theorem exists_written_of_each {nodes : List Node} (each : ∀ node ∈ nodes, CanPrecede node)
    (parted : nodes.IsChain fun first second => first.tag?.isSome ∨ second.tag?.isSome)
    (afterText : Bool) (opens : afterText → ∀ node ∈ nodes.head?, node.tag?.isSome) :
    ∃ tokens, Written afterText nodes tokens ∧ Textless tokens := by
  induction nodes generalizing afterText with
  | nil => exact ⟨[], .nil ⟨by simp, fun _ => rfl⟩, by simp [Textless]⟩
  | cons node rest ih =>
    have follows : node.tag?.isNone → ∀ next ∈ rest.head?, next.tag?.isSome := by
      intro isText next here
      cases rest with
      | nil => cases here
      | cons second more =>
        obtain rfl : second = next := Option.some.inj here
        have neighbours := (List.isChain_cons_cons.mp parted).1
        simpa [Option.isNone_iff_eq_none.mp isText] using neighbours
    obtain ⟨more, written, textless⟩ := ih
      (fun other later => each other (List.mem_cons_of_mem node later)) parted.of_cons
      node.tag?.isNone follows
    exact each node List.mem_cons_self afterText rest more (fun text => opens text node rfl)
      written textless

theorem Printable.canPrecede {node : Node} (printable : Printable node) : CanPrecede node := by
  induction printable with
  | @text content position legal shown =>
    intro afterText following more opens later textless
    obtain ⟨pieces, cuts, spelled, joined, noPiece⟩ := exists_spells legal
    cases afterText with
    | true => cases opens rfl
    | false =>
      refine ⟨pieces ++ more, .text spelled joined later, fun token member => ?_⟩
      exact (List.mem_append.mp member).elim (noPiece token) (textless token)
  | @element tag children head each parted ih =>
    intro afterText following more _ later textless
    obtain ⟨inner, inside, noInner⟩ := exists_written_of_each ih parted false (by simp)
    obtain ⟨opening, opened⟩ := head.exists_opens false
    have closes : Closes tag (.endTag tag.name.toList []) := .intro head.named (by simp)
    have noGap : FillsGap afterText [] := ⟨by simp, fun _ => rfl⟩
    refine ⟨_, .element noGap opened inside closes later, fun token member => ?_⟩
    simp only [List.nil_append, List.mem_cons, List.mem_append] at member
    rcases member with rfl | member | rfl | member
    · cases opened
      rfl
    · exact noInner token member
    · rfl
    · exact textless token member

/-- Every tree that can be written has a source. -/
theorem exists_prints {document : Element} (printable : Printable document.toNode) :
    ∃ source, Prints document source := by
  have nothing : Written false [] [] := .nil ⟨by simp, fun _ => rfl⟩
  obtain ⟨tokens, written, textless⟩ :=
    printable.canPrecede false [] [] (by simp) nothing (by simp [Textless])
  have apart : Apart tokens := by
    refine (List.pairwise_of_forall_mem_list fun first member second _ both => ?_).isChain
    simp [textless first member] at both
  exact ⟨String.ofList (tokens.flatMap Token.lexeme), [], tokens, .nothing, written, apart, by simp⟩

/-! ## Tokens of written parts -/

theorem Written.readable {afterText : Bool} {nodes : List Node} {tokens : List Token}
    (written : Written afterText nodes tokens) : ∀ token ∈ tokens, token.Readable := by
  have gaps {afterText : Bool} {gap : List Token} (fills : FillsGap afterText gap) :
      ∀ token ∈ gap, token.Readable := fun token member => (fills.fills token member).readable
  induction written with
  | nil fills => exact gaps fills
  | text spelled joined later ih =>
    intro token member
    rcases List.mem_append.mp member with piece | more
    · obtain ⟨chars, spells⟩ := exists_of_mem_forall₂ spelled piece
      exact spells.readable
    · exact ih token more
  | empty fills opens later ih =>
    intro token member
    rcases List.mem_append.mp member with gap | member
    · exact gaps fills token gap
    · rcases List.mem_cons.mp member with rfl | more
      · exact opens.readable
      · exact ih token more
  | element fills opens inside closes later ihInside ihLater =>
    intro token member
    simp only [List.mem_append, List.mem_cons] at member
    rcases member with gap | rfl | inner | rfl | more
    · exact gaps fills token gap
    · exact opens.readable
    · exact ihInside token inner
    · exact closes.readable
    · exact ihLater token more

/-- Elements stay open through the tokens, with `depth` of them open before. -/
def KeepsOpen (depth : Int) : List Token → Prop
  | [] => True
  | token :: rest => 0 < depth + token.opens ∧ KeepsOpen (depth + token.opens) rest

/-- How many more elements are open after some tokens than before. -/
def height : List Token → Int
  | [] => 0
  | token :: rest => token.opens + height rest

@[simp] theorem height_nil : height [] = 0 := rfl

@[simp] theorem height_cons (token : Token) (rest : List Token) :
    height (token :: rest) = token.opens + height rest := rfl

@[simp] theorem height_append (first second : List Token) :
    height (first ++ second) = height first + height second := by
  induction first with
  | nil => simp
  | cons token rest ih => simp [ih, Int.add_assoc]

theorem keepsOpen_append {depth : Int} {first second : List Token} :
    KeepsOpen depth (first ++ second) ↔
      KeepsOpen depth first ∧ KeepsOpen (depth + height first) second := by
  induction first generalizing depth with
  | nil => simp [KeepsOpen]
  | cons token rest ih => simp [KeepsOpen, ih, and_assoc, Int.add_assoc]

theorem keepsOpen_of_flat {depth : Int} (positive : 0 < depth) {tokens : List Token}
    (flat : ∀ token ∈ tokens, token.opens = 0) : KeepsOpen depth tokens ∧ height tokens = 0 := by
  induction tokens with
  | nil => exact ⟨trivial, rfl⟩
  | cons token rest ih =>
    obtain ⟨keeps, level⟩ := ih fun other later => flat other (List.mem_cons_of_mem token later)
    simp [KeepsOpen, flat token List.mem_cons_self, positive, keeps, level]

theorem Aside.opens_eq {token : Token} (aside : Aside token) : token.opens = 0 := by
  cases aside <;> rfl

theorem Fills.opens_eq {token : Token} (fills : Fills token) : token.opens = 0 := by
  cases fills with
  | space => rfl
  | aside aside => exact aside.opens_eq

theorem Spells.opens_eq {token : Token} {chars : List Char} (spells : Spells token chars) :
    token.opens = 0 := by
  cases spells with
  | reference refers => cases refers <;> rfl
  | aside aside => exact aside.opens_eq
  | plain | cdata => rfl

theorem Opens.opens_eq {tag : Tag} {empty : Bool} {token : Token} (opens : Opens tag empty token) :
    token.opens = if empty then 0 else 1 := by
  cases opens
  rfl

theorem Closes.opens_eq {tag : Tag} {token : Token} (closes : Closes tag token) :
    token.opens = -1 := by
  cases closes
  rfl

/-- Written parts close all elements that they open, and no other one. -/
theorem Written.keepsOpen {afterText : Bool} {nodes : List Node} {tokens : List Token}
    (written : Written afterText nodes tokens) {depth : Int} (positive : 0 < depth) :
    KeepsOpen depth tokens ∧ height tokens = 0 := by
  have gaps {afterText : Bool} {gap : List Token} {depth : Int} (positive : 0 < depth)
      (fills : FillsGap afterText gap) : KeepsOpen depth gap ∧ height gap = 0 :=
    keepsOpen_of_flat positive fun token member => (fills.fills token member).opens_eq
  induction written generalizing depth with
  | nil fills => exact gaps positive fills
  | text spelled joined later ih =>
    obtain ⟨keeps, level⟩ := keepsOpen_of_flat positive fun token member =>
      (exists_of_mem_forall₂ spelled member).elim fun _ spells => spells.opens_eq
    obtain ⟨keepsLater, levelLater⟩ := ih positive
    simp [keepsOpen_append, keeps, level, keepsLater, levelLater]
  | empty fills opens later ih =>
    obtain ⟨keeps, level⟩ := gaps positive fills
    obtain ⟨keepsLater, levelLater⟩ := ih positive
    have flat : _ = (0 : Int) := opens.opens_eq
    simp [keepsOpen_append, keeps, level, KeepsOpen, flat, positive, keepsLater, levelLater]
  | element fills opens inside closes later ihInside ihLater =>
    obtain ⟨keeps, level⟩ := gaps positive fills
    obtain ⟨keepsInside, levelInside⟩ := @ihInside (depth + 1) (by omega)
    obtain ⟨keepsLater, levelLater⟩ := ihLater positive
    have up : _ = (1 : Int) := opens.opens_eq
    have down := closes.opens_eq
    have deeper : 0 < depth + 1 := by omega
    have back : depth + 1 + -1 = depth := by omega
    simp [keepsOpen_append, keeps, level, KeepsOpen, up, down, deeper, back, positive, keepsInside,
      levelInside, keepsLater, levelLater]

/-! ## Reading the tokens of a document -/

theorem startsMarkup_lexeme {token : Token} (noText : token.isText = false) (rest : List Char) :
    StartsMarkup (token.lexeme ++ rest) := by
  cases token with
  | text => cases noText
  | character | entity => exact ⟨'&', _, rfl, Or.inr rfl⟩
  | cdata | startTag | endTag | comment | instruction => exact ⟨'<', _, rfl, Or.inl rfl⟩

/-- What follows character data starts with markup. -/
theorem Apart.startsMarkup {token second : Token} {more : List Token}
    (apart : Apart (token :: second :: more)) (text : token.isText) (rest : List Char) :
    StartsMarkup (second.lexeme ++ rest) := by
  have parted := (List.isChain_cons_cons.mp apart).1
  exact startsMarkup_lexeme (by simpa [text] using parted) rest

/-- A reader that passes over the characters of its last token comes to the place after them. -/
theorem exists_place_of_skip {α : Type} {read : Nat → Position → List Char → α}
    (step : ∀ skip position c rest,
      read (skip + 1) position (c :: rest) = read skip (position.step c rest) rest)
    (position : Position) (skipped rest : List Char) :
    ∃ place, read skipped.length position (skipped ++ rest) = read 0 place rest := by
  induction skipped generalizing position with
  | nil => exact ⟨position, rfl⟩
  | cons c more ih =>
    obtain ⟨place, same⟩ := ih (position.step c (more ++ rest))
    exact ⟨place, (step _ _ _ _).trans same⟩

theorem tokensFrom_stopping {depth : Option Int} (position : Position) (rest : List Char) :
    tokensFrom .utf8 depth true 0 position rest = ([], .closed position rest) := by
  cases rest <;> simp [tokensFrom]

/-- A readable token at the front is the first one of the source. -/
theorem tokensFrom_lexeme {token : Token} (readable : token.Readable) (depth : Int)
    (position : Position) {rest : List Char} (follows : token.isText → StartsMarkup rest) :
    ∃ place, tokensFrom .utf8 (some depth) false 0 position (token.lexeme ++ rest) =
      let more := tokensFrom .utf8 (some (depth + token.opens))
        (token.isTag && depth + token.opens = 0) 0 place rest
      (⟨token, position⟩ :: more.1, more.2) := by
  have scanned := readable.scan rest follows
  obtain ⟨c, more, lexeme⟩ := List.exists_cons_of_ne_nil readable.filled
  obtain ⟨place, skipped⟩ := @exists_place_of_skip _ (tokensFrom .utf8 (some (depth + token.opens))
    (token.isTag && depth + token.opens = 0)) (fun _ _ _ _ => by rw [tokensFrom])
    (position.step c (more ++ rest)) more rest
  refine ⟨place, ?_⟩
  rw [lexeme, List.cons_append] at scanned ⊢
  rw [tokensFrom]
  simp only [scanned, lexeme, List.length_cons, Nat.add_sub_cancel, Option.map_some,
    Option.some.injEq, Bool.false_eq_true, ↓reduceIte, skipped]

/-- The tokens of an element are read up to the tag that closes it. -/
theorem tokensFrom_lexemes {tokens : List Token} {last : Token}
    (readable : ∀ token ∈ tokens ++ [last], token.Readable) (apart : Apart (tokens ++ [last]))
    (isTag : last.isTag) {depth : Int} (keeps : KeepsOpen depth tokens)
    (closes : depth + height tokens + last.opens = 0) (position : Position) (rest : List Char) :
    ∃ placed place, placed.map Placed.token = tokens ++ [last] ∧
      tokensFrom .utf8 (some depth) false 0 position
        ((tokens ++ [last]).flatMap Token.lexeme ++ rest) = (placed, .closed place rest) := by
  have noText {token : Token} (isTag : token.isTag) : token.isText = false := by
    cases token <;> first | rfl | cases isTag
  induction tokens generalizing depth position with
  | nil =>
    have follows : last.isText → StartsMarkup rest := by simp [noText isTag]
    obtain ⟨place, read⟩ := tokensFrom_lexeme (readable last List.mem_cons_self) depth position
      follows
    have closed : depth + last.opens = 0 := by simpa using closes
    refine ⟨[⟨last, position⟩], place, rfl, ?_⟩
    simp [read, isTag, closed, tokensFrom_stopping]
  | cons token more ih =>
    obtain ⟨positive, keepsLater⟩ := keeps
    have apartLater : Apart (more ++ [last]) := List.IsChain.of_cons apart
    have follows : token.isText → StartsMarkup ((more ++ [last]).flatMap Token.lexeme ++ rest) := by
      intro text
      cases more with
      | nil =>
        rw [List.nil_append, List.flatMap_singleton]
        exact startsMarkup_lexeme (noText isTag) rest
      | cons second others =>
        rw [List.cons_append, List.flatMap_cons, List.append_assoc]
        exact apart.startsMarkup text _
    obtain ⟨place, read⟩ := tokensFrom_lexeme (readable token List.mem_cons_self) depth position
      follows
    have closesLater : depth + token.opens + height more + last.opens = 0 := by
      rw [height_cons] at closes
      omega
    obtain ⟨placed, after, same, others⟩ := ih
      (fun other later => readable other (List.mem_cons_of_mem token later)) apartLater keepsLater
      closesLater place
    have notLast : (token.isTag && depth + token.opens = 0) = false := by
      have notZero : depth + token.opens ≠ 0 := by omega
      simp [notZero]
    refine ⟨⟨token, position⟩ :: placed, after, by simp [same], ?_⟩
    rw [List.cons_append, List.flatMap_cons, List.append_assoc, read]
    simp only [notLast, others]

/-- The tokens of an element are read up to its end, whatever follows it. -/
theorem WritesElement.tokensFrom {document : Element} {tokens : List Token}
    (writes : WritesElement document tokens) (readable : ∀ token ∈ tokens, token.Readable)
    (apart : Apart tokens) (position : Position) (rest : List Char) :
    ∃ placed place, placed.map Placed.token = tokens ∧
      tokensFrom .utf8 (some 0) false 0 position (tokens.flatMap Token.lexeme ++ rest) =
        (placed, .closed place rest) := by
  cases writes with
  | @empty tag opening opens =>
    have flat : opening.opens = 0 := opens.opens_eq
    refine @tokensFrom_lexemes [] opening readable apart ?_ 0 trivial (by simp [flat]) position rest
    cases opens
    rfl
  | @full tag children opening closing inner opens inside closes =>
    have up : opening.opens = 1 := opens.opens_eq
    have down := closes.opens_eq
    obtain ⟨keeps, level⟩ := inside.keepsOpen (show (0 : Int) < 0 + 1 by decide)
    refine @tokensFrom_lexemes (opening :: inner) closing readable apart ?_ 0 ?_ ?_ position rest
    · cases closes
      rfl
    · simpa [KeepsOpen, up] using keeps
    · simp [up, down, level]

end MemberDocs.Xml
