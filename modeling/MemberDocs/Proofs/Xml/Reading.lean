import MemberDocs.Doc.Builder
import MemberDocs.Proofs.Doc.Placement
import MemberDocs.Proofs.Text.Lines
import MemberDocs.Proofs.Xml.Layout
import Mathlib.Data.List.Forall2

/-! # What written parts build

The tokens of written parts are read one after the other, and what is told of them builds a tree.
Character data gathers until the next tag, whatever it is spelled with (`Token.Adds`); a tag makes a
text of it, unless it is blank. Inside of an element, written parts therefore add themselves
(`Written.read`), and the tokens of a whole element build that element (`WritesElement.read`).
-/

namespace MemberDocs.Xml

/-- Tokens that stand in the source of a document itself. -/
def Site.outermost : Site := { scheme := .utf8 }

/-! ## The state between two tokens -/

namespace Reading

/-- The character data since the last tag. -/
def gathered (reading : Reading) : List Char :=
  reading.pending.reverse.flatten

/-- What the events so far have built. -/
def built (reading : Reading) : Builder :=
  Builder.run {} reading.events.reverse

/-- What has been built once the character data is told. -/
def builtWithData (reading : Reading) (position : Position) : Builder :=
  if reading.gathered.isEmpty then reading.built
  else reading.built.step
    (.data (String.ofList reading.gathered) (reading.buffer.overflow.getD position))

/-- What has been built at a tag, before the tag is told. -/
def builtAtTag (reading : Reading) (position : Position) : Builder :=
  (reading.builtWithData position).flush

theorem built_tell (reading : Reading) (position : Position) (event : Event) :
    (reading.tell position event).built = (reading.builtWithData position).step event := by
  unfold builtWithData built tell Builder.run
  rw [← gathered]
  by_cases silent : reading.gathered = [] <;> simp [silent]

theorem built_tell_start (reading : Reading) (position : Position) (tag : Tag) :
    (reading.tell position (.start tag)).built =
      { reading.builtAtTag position with
        opened := ⟨tag, []⟩ :: (reading.builtAtTag position).opened } := by
  rw [built_tell]
  rfl

theorem built_tell_finish (reading : Reading) (position : Position) (name : String) :
    (reading.tell position (.finish name)).built =
      match (reading.builtAtTag position).opened with
      | [] => reading.builtAtTag position
      | innermost :: outer =>
        let element : Element := ⟨innermost.tag, innermost.children.reverse⟩
        let closed := { reading.builtAtTag position with opened := outer }
        if outer.isEmpty then { closed with root := some element }
        else closed.add element.toNode := by
  rw [built_tell]
  rfl

end Reading

/-- The text that some character data makes at a tag: none if it is blank. -/
def shownText (chars : List Char) : List Node :=
  if Text.isBlankText (String.ofList chars) then [] else [.text (String.ofList chars) {}]

theorem shownText_of_blank {chars : List Char} (blank : ∀ c ∈ chars, Text.isBlank c) :
    shownText chars = [] := by
  simpa [shownText, Text.isBlankText] using blank

@[simp] theorem shownText_nil : shownText [] = [] :=
  shownText_of_blank (by simp)

/-- The reading is inside of an element that has the given head and, apart from places, the parts
`seen` so far; `outer` are the elements around it, and `names` the names of all open ones. No more has
been replaced than read. -/
structure Reading.Inside (names : List (List Char)) (tag : Tag) (outer : List OpenElement)
    (seen : List Node) (reading : Reading) : Prop where
  named : reading.openNames = names
  spares : reading.account.Spares 0
  built : ∃ children, reading.built = { opened := ⟨tag, children⟩ :: outer } ∧
    Node.unplacedAll children.reverse = seen

namespace Reading

variable {names : List (List Char)} {head tag : Tag} {outer : List OpenElement}
  {seen : List Node} {reading : Reading}

/-- Character data is not told before the next tag. -/
theorem Inside.pending (inside : reading.Inside names tag outer seen)
    (pending : List (List Char)) (buffer : Buffer) {account : Account} (spares : account.Spares 0) :
    { reading with pending, buffer, account }.Inside names tag outer seen :=
  ⟨inside.named, spares, inside.built⟩

theorem Inside.openNames (inside : reading.Inside names tag outer seen)
    (others : List (List Char)) :
    { reading with openNames := others }.Inside others tag outer seen :=
  ⟨rfl, inside.spares, inside.built⟩

theorem Inside.counted (inside : reading.Inside names tag outer seen) {account : Account}
    (spares : account.Spares 0) : { reading with account }.Inside names tag outer seen :=
  ⟨inside.named, spares, inside.built⟩

/-- At a tag the character data before it is one of the parts. -/
theorem Inside.builtAtTag (inside : reading.Inside names tag outer seen) (position : Position) :
    ∃ children, reading.builtAtTag position = { opened := ⟨tag, children⟩ :: outer } ∧
      Node.unplacedAll children.reverse = seen ++ shownText reading.gathered := by
  obtain ⟨children, built, parts⟩ := inside.built
  unfold Reading.builtAtTag Reading.builtWithData
  by_cases silent : reading.gathered = []
  · refine ⟨children, ?_, by simp [parts, silent]⟩
    simp [silent, built, Builder.flush, Text.isBlankText, String.join]
  · by_cases blank : Text.isBlankText (String.ofList reading.gathered)
    · refine ⟨children, ?_, by simp [parts, shownText, blank]⟩
      simp [silent, built, Builder.step, Builder.flush, String.join, blank]
    · refine ⟨.text (String.ofList reading.gathered) (reading.buffer.overflow.getD position) ::
        children, ?_, by simp [parts, shownText, blank]⟩
      simp [silent, built, Builder.step, Builder.flush, Builder.add, String.join, blank]

/-- A start tag opens its element inside of the one before. -/
theorem Inside.tell_start (inside : reading.Inside names tag outer seen) (position : Position)
    (head : Tag) :
    ∃ children, (reading.tell position (.start head)).Inside names head
        (⟨tag, children⟩ :: outer) [] ∧
      Node.unplacedAll children.reverse = seen ++ shownText reading.gathered := by
  obtain ⟨children, built, parts⟩ := inside.builtAtTag position
  refine ⟨children, ⟨inside.named, inside.spares, [], ?_, rfl⟩, parts⟩
  rw [built_tell_start, built]

/-- An end tag adds its element to the parts of the one around it. -/
theorem Inside.tell_finish {children : List Node}
    (inside : reading.Inside names head (⟨tag, children⟩ :: outer) seen) (position : Position)
    (name : String) :
    (reading.tell position (.finish name)).Inside names tag outer
      (Node.unplacedAll children.reverse ++
        [.element head.bare (seen ++ shownText reading.gathered)]) := by
  obtain ⟨inner, built, parts⟩ := inside.builtAtTag position
  refine ⟨inside.named, inside.spares, .element head inner.reverse :: children, ?_,
    by simp [parts]⟩
  rw [built_tell_finish, built]
  rfl

/-- The first start tag opens the document element. -/
theorem inside_tell_start {account : Account} (spares : account.Spares 0) (position : Position)
    (head : Tag) : (Reading.tell { account } position (.start head)).Inside [] head [] [] :=
  ⟨rfl, spares, [], rfl, rfl⟩

/-- The end tag of the document element ends the document. -/
theorem Inside.root_tell_finish (inside : reading.Inside names head [] seen) (position : Position)
    (name : String) :
    ∃ root, (reading.tell position (.finish name)).built.root = some root ∧
      root.unplaced = ⟨head.bare, seen ++ shownText reading.gathered⟩ := by
  obtain ⟨inner, built, parts⟩ := inside.builtAtTag position
  refine ⟨⟨head, inner.reverse⟩, ?_, by simp [Element.unplaced, parts]⟩
  rw [built_tell_finish, built]
  rfl

end Reading

section Tokens

variable {dtd : Dtd}
  {replace : List Char → List Char → Position → Reading → Except PlacedFault Reading}

section Runs

variable {site : Site} {place? : Option Position} {reading between : Reading}

theorem Reading.tokens_cons {placed : Placed} (rest : List Placed)
    (told : reading.read dtd replace site (place?.getD placed.position) placed.token =
      .ok between) :
    reading.tokens dtd replace site place? (placed :: rest) =
      between.tokens dtd replace site place? rest := by
  rw [Reading.tokens, told]

theorem Reading.tokens_append {first : List Placed} (second : List Placed)
    (run : reading.tokens dtd replace site place? first = .ok between) :
    reading.tokens dtd replace site place? (first ++ second) =
      between.tokens dtd replace site place? second := by
  induction first generalizing reading with
  | nil =>
    obtain rfl := Except.ok.inj run
    rfl
  | cons placed rest ih =>
    rw [Reading.tokens] at run
    rw [List.cons_append, Reading.tokens]
    cases told : reading.read dtd replace site (place?.getD placed.position) placed.token with
    | error fault => simp [told] at run
    | ok after =>
      rw [told] at run
      exact ih run

end Runs

/-- A token is read in parts, and nothing of it is left out. -/
theorem Token.flatten_parts (scheme : Scheme) (token : Token) :
    (token.parts scheme).flatten = token.lexeme := by
  cases token with
  | text source => exact flatten_dataParts scheme false source
  | cdata source =>
    unfold Token.parts Token.lexeme
    generalize "<![CDATA[".toList = opening
    generalize "]]>".toList = closing
    simp [flatten_dataParts]
  | _ => simp [Token.parts]

/-- A token of the source can be counted while no more has been replaced than read, and its size is to
spare for what it holds. -/
theorem Reading.exists_read (dtd : Dtd)
    (replace : List Char → List Char → Position → Reading → Except PlacedFault Reading)
    (position : Position) {reading : Reading} (spares : reading.account.Spares 0) (token : Token) :
    ∃ account, reading.read dtd replace .outermost position token =
        { reading with account }.token dtd replace .outermost position token ∧
      account.Spares (Scheme.utf8.size token.lexeme) := by
  obtain ⟨account, counted, spared⟩ := @Account.Spares.chargeParts_direct reading.account .utf8 0
    spares (placeParts position (token.parts .utf8))
  refine ⟨account, ?_, ?_⟩
  · unfold Reading.read
    rw [show Site.outermost.tally = .direct from rfl, show Site.outermost.scheme = .utf8 from rfl,
      show Site.outermost.place position (token.parts .utf8) =
        placeParts position (token.parts .utf8) from rfl, counted]
  · rwa [map_fst_placeParts, Token.flatten_parts, Nat.zero_add] at spared

/-! ## Character data -/

/-- Wherever the token stands in a document, it adds some characters to what has been gathered since
the last tag, and does nothing else, as long as no more has been replaced than read. -/
def Token.Adds (token : Token) (chars : List Char) : Prop :=
  ∀ (dtd : Dtd)
    (replace : List Char → List Char → Position → Reading → Except PlacedFault Reading)
    (position : Position) (reading : Reading), reading.account.Spares 0 →
    ∃ pending buffer account, reading.read dtd replace .outermost position token =
        .ok { reading with pending, buffer, account } ∧
      account.Spares 0 ∧ pending.reverse.flatten = reading.gathered ++ chars

theorem Aside.adds {token : Token} (aside : Aside token) : token.Adds [] := by
  intro dtd replace position reading spares
  obtain ⟨account, read, spared⟩ := Reading.exists_read dtd replace position spares token
  refine ⟨reading.pending, reading.buffer, account, ?_, spared.le (Nat.zero_le _),
    by simp [Reading.gathered]⟩
  rw [read]
  cases aside with
  | comment written => rfl
  | instruction written => simp [Reading.token, written.ne_declarationTarget]

/-- A token that means character data adds it. -/
theorem Token.adds_of_token {token : Token} {chars : List Char}
    (portions : Position → List (Nat × Position))
    (means : ∀ (dtd : Dtd)
      (replace : List Char → List Char → Position → Reading → Except PlacedFault Reading)
      (position : Position) (reading : Reading),
      reading.token dtd replace .outermost position token =
        .ok (reading.addData chars (portions position))) :
    token.Adds chars := by
  intro dtd replace position reading spares
  obtain ⟨account, read, spared⟩ := Reading.exists_read dtd replace position spares token
  exact ⟨chars :: reading.pending, _, account, read.trans (means ..), spared.le (Nat.zero_le _),
    by simp [Reading.gathered]⟩

theorem Refers.adds {token : Token} {c : Char} (refers : Refers token c) : token.Adds [c] := by
  cases refers with
  | number written means =>
    refine Token.adds_of_token (fun position => [(c.utf8Size, position)])
      fun dtd replace position reading => ?_
    simp [Reading.token, means, Reading.addChar]
  | @entity name _ means =>
    intro dtd replace position reading spares
    obtain ⟨account, read, spared⟩ := Reading.exists_read dtd replace position spares (.entity name)
    -- The reference is longer than the one byte that stands for it.
    have long : 0 + 1 ≤ Scheme.utf8.size (Token.entity name).lexeme := by
      have size := Scheme.length_le_size (Token.entity name).lexeme
      have characters : (Token.entity name).lexeme ≠ [] := List.cons_ne_nil _ _
      have positive := List.length_pos_iff.mpr characters
      omega
    refine ⟨[c] :: reading.pending, reading.buffer.hold c.utf8Size position,
      account.add .indirect 1, ?_, (spared.le long).add_indirect, by simp [Reading.gathered]⟩
    rw [read]
    simp [Reading.token, means, Reading.addChar, Reading.addData]

theorem adds_text (source : List Char) : (Token.text source).Adds (Text.unifyChars source) :=
  Token.adds_of_token (fun position => Site.outermost.portions false position source)
    fun _ _ _ _ => rfl

/-- What spells out some characters adds them. -/
theorem Spells.adds {token : Token} {chars : List Char} (spells : Spells token chars) :
    token.Adds chars := by
  cases spells with
  | plain plain returns =>
    have gathered := adds_text chars
    rwa [Text.unifyChars_of_no_returns returns] at gathered
  | reference refers => exact refers.adds
  | cdata written returns =>
    have gathered : (Token.cdata chars).Adds (Text.unifyChars chars) :=
      Token.adds_of_token
        (fun position => Site.outermost.portions true (position.after "<![CDATA[".toList) chars)
        fun _ _ _ _ => rfl
    rwa [Text.unifyChars_of_no_returns returns] at gathered
  | aside aside => exact aside.adds

theorem isBlank_of_isSpace {c : Char} (space : isSpace c) : Text.isBlank c := by
  rcases isSpace_iff.mp space with rfl | rfl | rfl | rfl <;> decide

/-- What fills a gap adds nothing but blanks. -/
theorem Fills.adds {token : Token} (fills : Fills token) :
    ∃ chars, token.Adds chars ∧ ∀ c ∈ chars, Text.isBlank c := by
  cases fills with
  | aside aside => exact ⟨[], aside.adds, by simp⟩
  | @space source filled spaces =>
    refine ⟨_, adds_text source, fun c member => ?_⟩
    rcases Text.mem_unifyChars member with rfl | inside
    · decide
    · exact isBlank_of_isSpace (spaces c inside)

theorem exists_adds_of_fills {gap : List Token} (fills : ∀ token ∈ gap, Fills token) :
    ∃ cuts, List.Forall₂ Token.Adds gap cuts ∧ ∀ c ∈ cuts.flatten, Text.isBlank c := by
  induction gap with
  | nil => exact ⟨[], .nil, by simp⟩
  | cons token rest ih =>
    obtain ⟨chars, adds, blank⟩ := (fills token List.mem_cons_self).adds
    obtain ⟨cuts, others, blanks⟩ := ih fun other later => fills other (List.mem_cons_of_mem _ later)
    refine ⟨chars :: cuts, .cons adds others, fun c member => ?_⟩
    rw [List.flatten_cons] at member
    exact (List.mem_append.mp member).elim (blank c) (blanks c)

/-- Neighbouring tokens add what each of them adds. -/
theorem tokens_of_adds {placed : List Placed} {cuts : List (List Char)}
    (adds : List.Forall₂ Token.Adds (placed.map Placed.token) cuts) {reading : Reading}
    (spares : reading.account.Spares 0) :
    ∃ pending buffer account, reading.tokens dtd replace .outermost none placed =
        .ok { reading with pending, buffer, account } ∧
      account.Spares 0 ∧ pending.reverse.flatten = reading.gathered ++ cuts.flatten := by
  induction placed generalizing reading cuts with
  | nil =>
    cases adds
    exact ⟨reading.pending, reading.buffer, reading.account, rfl, spares, by simp [Reading.gathered]⟩
  | cons first rest ih =>
    obtain _ | ⟨here, later⟩ := adds
    obtain ⟨between, held, counted, read, spared, gathered⟩ :=
      here dtd replace first.position reading spares
    obtain ⟨pending, buffer, account, others, spared, all⟩ :=
      @ih _ later { reading with pending := between, buffer := held, account := counted } spared
    refine ⟨pending, buffer, account, ?_, spared, ?_⟩
    · exact (Reading.tokens_cons rest read).trans others
    · rw [all, Reading.gathered, gathered, List.flatten_cons, List.append_assoc]

/-! ## Tags -/

section Attributes

variable (replace) (undeclared : dtd.attributes = [])

include undeclared

/-- The attributes of a tag are read with their values, if no key occurs twice and there are as many
bytes to spare as they have characters. -/
theorem readAttributes_of_writes {raws : List RawAttribute} {attributes : Attributes}
    (written : List.Forall₂ WritesAttribute raws attributes)
    (unique : (attributes.map Prod.fst).Nodup) (seen : List (List Char × List Char))
    (fresh : ∀ pair ∈ attributes, ∀ other ∈ seen, other.1 ≠ pair.1.toList)
    (element : List Char) (position : Position) (before : List Char) {tally : Tally}
    (fromSource : tally ≠ .indirect) {account : Account}
    (spares : account.Spares (raws.flatMap RawAttribute.lexeme).length) :
    ∃ after, readAttributes dtd true tally [] .utf8 element position before seen account raws =
        .ok (seen.reverse ++ attributes.map (fun pair => (pair.1.toList, pair.2.toList)), after) ∧
      after.Spares 0 := by
  induction written generalizing seen before account with
  | nil => exact ⟨account, by simp [readAttributes], spares.le (Nat.zero_le _)⟩
  | @cons raw pair raws attributes writes others ih =>
    rw [List.map_cons, List.nodup_cons] at unique
    have name : raw.name = pair.1.toList := writes.name.1
    have unseen : seen.any (·.1 = raw.name) = false := by
      simpa [name] using fun key value listed => fresh pair List.mem_cons_self (key, value) listed
    have undefaulted : dtd.attribute? element raw.name = none := by
      simp [Dtd.attribute?, undeclared]
    have valueTally : (if isPlainValue true raw.value then .counted else tally) ≠ .indirect := by
      split
      next => decide
      next => exact fromSource
    obtain ⟨between, valued, spared⟩ := @WritesValue.attributeValue _ _ _ writes.value dtd _
      valueTally account (raws.flatMap RawAttribute.lexeme).length (spares.le (by
        simp only [List.flatMap_cons, List.length_append, RawAttribute.lexeme, List.length_cons]
        omega))
    obtain ⟨after, later, spared⟩ := ih unique.2 ((raw.name, pair.2.toList) :: seen)
      (fun next listed => by
        rintro other (_ | ⟨_, member⟩)
        · rw [name]
          intro same
          exact unique.1 (List.mem_map.mpr ⟨next, listed, (String.toList_inj.mp same).symm⟩)
        · exact fresh next (List.mem_cons_of_mem pair listed) other member)
      (before ++ raw.lexeme) spared
    refine ⟨after, ?_, spared⟩
    simp only [readAttributes, unseen, undefaulted, Option.all_none, Bool.false_eq_true, ↓reduceIte,
      valued, later]
    simp [name]

theorem withDefaults_of_undeclared (element : List Char) (attributes : Attributes) :
    withDefaults dtd element (attributes.map fun pair => (pair.1.toList, pair.2.toList)) =
      attributes := by
  simp [withDefaults, Dtd.defaults, undeclared, Function.comp_def]

/-- A tag that opens an element is told with the head of the element. -/
theorem Opens.read {tag : Tag} {empty : Bool} {opening : Token} (opens : Opens tag empty opening)
    (unique : (tag.attributes.map Prod.fst).Nodup) (position : Position) {reading : Reading}
    (spares : reading.account.Spares 0) :
    ∃ account, account.Spares 0 ∧ reading.read dtd replace .outermost position opening =
      let started :=
        { reading with account }.tell position (.start { tag with position := position })
      .ok (if empty then started.tell position (.finish tag.name)
        else { started with openNames := tag.name.toList :: reading.openNames }) := by
  cases opens with
  | @intro raws trail named attributes spaces =>
    obtain ⟨counted, read, spared⟩ := Reading.exists_read dtd replace position spares
      (.startTag tag.name.toList raws trail empty)
    have fromSource : (if empty then .counted else Site.outermost.tally) ≠ Tally.indirect := by
      cases empty <;> decide
    obtain ⟨account, valued, spared⟩ := @readAttributes_of_writes dtd undeclared raws tag.attributes
      attributes unique [] (by simp) tag.name.toList position ('<' :: tag.name.toList) _ fromSource
      counted (spared.le (by
        have characters := Scheme.length_le_size (Token.startTag tag.name.toList raws trail empty).lexeme
        simp only [lexeme_startTag, List.length_append, List.length_cons] at characters ⊢
        omega))
    refine ⟨account, spared, ?_⟩
    rw [read]
    simp only [Reading.token, show Site.outermost.isOuter = true from rfl,
      show Site.outermost.within = [] from rfl, show Site.outermost.scheme = .utf8 from rfl, valued,
      List.reverse_nil, List.nil_append, withDefaults_of_undeclared undeclared,
      String.ofList_toList]
    cases empty <;> rfl

/-- The first tag of a document opens its element. -/
theorem Opens.read_first {head : Tag} {opening : Token} (opens : Opens head false opening)
    (unique : (head.attributes.map Prod.fst).Nodup) (position : Position) {account : Account}
    (spares : account.Spares 0) :
    ∃ read, Reading.read dtd replace .outermost position { account } opening = .ok read ∧
      read.Inside [head.name.toList] { head with position := position } [] [] ∧
      read.gathered = [] := by
  obtain ⟨counted, spared, read⟩ :=
    @Opens.read dtd replace undeclared _ _ _ opens unique position { account } spares
  have started := Reading.inside_tell_start spared position { head with position := position }
  exact ⟨_, read, started.openNames [head.name.toList], rfl⟩

end Attributes

theorem Closes.read
    (replace : List Char → List Char → Position → Reading → Except PlacedFault Reading) (dtd : Dtd)
    {tag : Tag} {closing : Token} (closes : Closes tag closing)
    (position : Position) {reading : Reading} {names : List (List Char)}
    (named : reading.openNames = tag.name.toList :: names) (spares : reading.account.Spares 0) :
    ∃ account, account.Spares 0 ∧ reading.read dtd replace .outermost position closing =
      .ok { { reading with account }.tell position (.finish tag.name) with openNames := names } := by
  obtain ⟨account, read, spared⟩ := Reading.exists_read dtd replace position spares closing
  refine ⟨account, spared.le (Nat.zero_le _), ?_⟩
  rw [read]
  cases closes
  simp [Reading.token, named, Site.outermost]

/-! ## Written parts -/

section Inside

variable {names : List (List Char)} {tag : Tag} {outer : List OpenElement} {seen : List Node}
  {reading : Reading}

/-- Tokens that only add characters are read inside of an element. -/
theorem Reading.Inside.read_adds {placed : List Placed} {cuts : List (List Char)}
    (inside : reading.Inside names tag outer seen)
    (adds : List.Forall₂ Token.Adds (placed.map Placed.token) cuts) :
    ∃ read, reading.tokens dtd replace .outermost none placed = .ok read ∧
      read.Inside names tag outer seen ∧ read.gathered = reading.gathered ++ cuts.flatten := by
  obtain ⟨pending, buffer, account, read, spared, gathered⟩ := tokens_of_adds adds inside.spares
  exact ⟨_, read, inside.pending pending buffer spared, gathered⟩

/-- A gap leaves the parts as they are. -/
theorem Reading.Inside.read_gap {placed : List Placed} {afterText : Bool}
    (inside : reading.Inside names tag outer seen)
    (fills : FillsGap afterText (placed.map Placed.token))
    (silent : afterText = false → reading.gathered = []) :
    ∃ read, reading.tokens dtd replace .outermost none placed = .ok read ∧
      read.Inside names tag outer seen ∧ shownText read.gathered = shownText reading.gathered := by
  cases afterText with
  | true =>
    obtain rfl : placed = [] := by simpa using fills.closed rfl
    exact ⟨reading, rfl, inside, rfl⟩
  | false =>
    obtain ⟨cuts, adds, blank⟩ := exists_adds_of_fills fills.fills
    obtain ⟨read, same, still, gathered⟩ := inside.read_adds adds
    refine ⟨read, same, still, ?_⟩
    rw [gathered, silent rfl, List.nil_append, shownText_of_blank blank, shownText_nil]

variable (replace)

/-- A start tag makes a text of what has been gathered, and opens its element. -/
theorem Reading.Inside.read_opens (undeclared : dtd.attributes = []) {head : Tag} {opening : Token}
    (inside : reading.Inside names tag outer seen) (opens : Opens head false opening)
    (unique : (head.attributes.map Prod.fst).Nodup) (position : Position) :
    ∃ read children, reading.read dtd replace .outermost position opening = .ok read ∧
      read.Inside (head.name.toList :: names) { head with position := position }
        (⟨tag, children⟩ :: outer) [] ∧
      Node.unplacedAll children.reverse = seen ++ shownText reading.gathered ∧
      read.gathered = [] := by
  obtain ⟨account, spared, read⟩ := opens.read replace undeclared unique position inside.spares
  obtain ⟨children, started, parts⟩ :=
    (inside.counted spared).tell_start position { head with position := position }
  refine ⟨_, children, read, ?_, parts, rfl⟩
  rw [inside.named]
  exact started.openNames (head.name.toList :: names)

/-- An end tag closes its element. -/
theorem Reading.Inside.read_closes (dtd : Dtd) {head : Tag} {closing : Token} {place : Position}
    {children : List Node} (inside : reading.Inside (head.name.toList :: names)
      { head with position := place } (⟨tag, children⟩ :: outer) seen)
    (closes : Closes head closing) (position : Position) :
    ∃ read, reading.read dtd replace .outermost position closing = .ok read ∧
      read.Inside names tag outer (Node.unplacedAll children.reverse ++
        [.element head.bare (seen ++ shownText reading.gathered)]) ∧ read.gathered = [] := by
  obtain ⟨account, spared, read⟩ :=
    closes.read replace dtd position inside.named inside.spares
  have finished := (inside.counted spared).tell_finish position head.name
  exact ⟨_, read, finished.openNames names, rfl⟩

/-- The tag of an empty element adds the element. -/
theorem Reading.Inside.read_empty (undeclared : dtd.attributes = []) {head : Tag} {opening : Token}
    (inside : reading.Inside names tag outer seen) (opens : Opens head true opening)
    (unique : (head.attributes.map Prod.fst).Nodup) (position : Position) :
    ∃ read, reading.read dtd replace .outermost position opening = .ok read ∧
      read.Inside names tag outer
        (seen ++ shownText reading.gathered ++ [.element head.bare []]) ∧ read.gathered = [] := by
  obtain ⟨account, spared, read⟩ := opens.read replace undeclared unique position inside.spares
  obtain ⟨children, started, parts⟩ :=
    (inside.counted spared).tell_start position { head with position := position }
  have finished := started.tell_finish position head.name
  have silent : (Reading.tell { reading with account } position
      (.start { head with position := position })).gathered = [] := rfl
  rw [parts, silent, shownText_nil] at finished
  refine ⟨_, read, ?_, rfl⟩
  rw [if_pos rfl]
  exact finished

/-- An element adds itself, if what stands between its tags adds its children. -/
theorem Reading.Inside.read_full (undeclared : dtd.attributes = []) {head : Tag}
    {opening closing : Token} {children : List Node} {middle : List Placed}
    (inside : reading.Inside names tag outer seen) (opens : Opens head false opening)
    (unique : (head.attributes.map Prod.fst).Nodup) (closes : Closes head closing)
    (content : ∀ {tag outer} {reading : Reading},
      reading.Inside (head.name.toList :: names) tag outer [] → reading.gathered = [] →
        ∃ read parts, reading.tokens dtd replace .outermost none middle = .ok read ∧
          read.Inside (head.name.toList :: names) tag outer parts ∧
          parts ++ shownText read.gathered = Node.unplacedAll children)
    (position place : Position) (rest : List Placed) :
    ∃ read : Reading, reading.tokens dtd replace .outermost none
          (⟨opening, position⟩ :: (middle ++ ⟨closing, place⟩ :: rest)) =
        read.tokens dtd replace .outermost none rest ∧
      read.Inside names tag outer (seen ++ shownText reading.gathered ++
        [.element head.bare (Node.unplacedAll children)]) ∧ read.gathered = [] := by
  obtain ⟨opened, before, told, started, parts, silent⟩ :=
    inside.read_opens replace undeclared opens unique position
  obtain ⟨full, between, run, still, total⟩ := content started silent
  obtain ⟨closed, toldLast, added, silentAgain⟩ := still.read_closes replace dtd closes place
  rw [parts, total] at added
  refine ⟨closed, ?_, added, silentAgain⟩
  calc reading.tokens dtd replace .outermost none
        (⟨opening, position⟩ :: (middle ++ ⟨closing, place⟩ :: rest))
    _ = opened.tokens dtd replace .outermost none (middle ++ ⟨closing, place⟩ :: rest) :=
      Reading.tokens_cons _ told
    _ = full.tokens dtd replace .outermost none (⟨closing, place⟩ :: rest) :=
      Reading.tokens_append _ run
    _ = closed.tokens dtd replace .outermost none rest := Reading.tokens_cons _ toldLast

end Inside

theorem Printable.element_inv {head : Tag} {children : List Node}
    (printable : Printable (.element head children)) :
    (head.attributes.map Prod.fst).Nodup ∧ ∀ node ∈ children, Printable node := by
  cases printable with
  | element head each parted => exact ⟨head.unique, each⟩

/-- Written parts are read as the next parts of the element that they stand in. -/
theorem Written.read (undeclared : dtd.attributes = []) {afterText : Bool} {nodes : List Node}
    {tokens : List Token} (written : Written afterText nodes tokens)
    (printable : ∀ node ∈ nodes, Printable node) {placed : List Placed}
    (same : placed.map Placed.token = tokens) {names : List (List Char)} {tag : Tag}
    {outer : List OpenElement} {seen : List Node} {reading : Reading}
    (inside : reading.Inside names tag outer seen)
    (silent : afterText = false → reading.gathered = []) :
    ∃ read parts, reading.tokens dtd replace .outermost none placed = .ok read ∧
      read.Inside names tag outer parts ∧
      parts ++ shownText read.gathered =
        seen ++ shownText reading.gathered ++ Node.unplacedAll nodes := by
  induction written generalizing placed names tag outer seen reading with
  | nil fills =>
    subst same
    obtain ⟨read, run, still, shown⟩ := inside.read_gap fills silent
    exact ⟨read, seen, run, still, by simp [shown]⟩
  | @text content position nodes pieces more cuts spelled joined later ih =>
    obtain ⟨first, second, rfl, samePieces, sameMore⟩ := List.map_eq_append_iff.mp same
    have adds : List.Forall₂ Token.Adds (first.map Placed.token) cuts :=
      samePieces ▸ spelled.imp fun _ _ spells => spells.adds
    obtain ⟨between, run, still, gathered⟩ := inside.read_adds adds
    have shown : shownText between.gathered = [.text content {}] := by
      have legible : Text.isBlankText content = false := by
        cases printable _ List.mem_cons_self
        assumption
      rw [gathered, silent rfl, joined, List.nil_append, shownText, String.ofList_toList, legible]
      rfl
    obtain ⟨read, parts, others, after, total⟩ := ih
      (fun node member => printable node (List.mem_cons_of_mem _ member)) sameMore still (by simp)
    refine ⟨read, parts, ?_, after, ?_⟩
    · exact (Reading.tokens_append second run).trans others
    · simp [total, shown, silent rfl]
  | @empty afterText gap more head opening nodes fills opens later ih =>
    obtain ⟨first, rest, rfl, rfl, sameRest⟩ := List.map_eq_append_iff.mp same
    obtain ⟨⟨here, position⟩, second, rfl, rfl, sameMore⟩ := List.map_eq_cons_iff.mp sameRest
    obtain ⟨between, run, still, shown⟩ := inside.read_gap fills silent
    obtain ⟨after, told, added, nothing⟩ := still.read_empty replace undeclared opens
      (printable _ List.mem_cons_self).element_inv.1 position
    obtain ⟨read, parts, others, final, total⟩ := ih
      (fun node member => printable node (List.mem_cons_of_mem _ member)) sameMore added
      fun _ => nothing
    refine ⟨read, parts, ?_, final, by simp [total, nothing, shown]⟩
    exact (Reading.tokens_append _ run).trans ((Reading.tokens_cons second told).trans others)
  | @element afterText gap inner more head opening closing children nodes fills opens within closes
      later ihInside ihLater =>
    obtain ⟨first, rest, rfl, rfl, sameRest⟩ := List.map_eq_append_iff.mp same
    obtain ⟨⟨here, position⟩, second, rfl, rfl, sameSecond⟩ := List.map_eq_cons_iff.mp sameRest
    obtain ⟨middle, third, rfl, sameInner, sameThird⟩ := List.map_eq_append_iff.mp sameSecond
    obtain ⟨⟨last, place⟩, fourth, rfl, rfl, sameMore⟩ := List.map_eq_cons_iff.mp sameThird
    obtain ⟨unique, each⟩ := (printable _ List.mem_cons_self).element_inv
    obtain ⟨between, run, still, shown⟩ := inside.read_gap fills silent
    obtain ⟨after, told, added, nothing⟩ := still.read_full replace undeclared opens unique closes
      (fun started quiet => by simpa [quiet] using ihInside each sameInner started fun _ => quiet)
      position place fourth
    obtain ⟨read, parts, others, final, total⟩ := ihLater
      (fun node member => printable node (List.mem_cons_of_mem _ member)) sameMore added
      fun _ => nothing
    refine ⟨read, parts, ?_, final, by simp [total, nothing, shown]⟩
    exact (Reading.tokens_append _ run).trans (told.trans others)

/-- The tokens of a whole element build the element, apart from places. -/
theorem WritesElement.read (undeclared : dtd.attributes = []) {document : Element}
    {tokens : List Token} (writes : WritesElement document tokens)
    (printable : Printable document.toNode) {placed : List Placed}
    (same : placed.map Placed.token = tokens) {account : Account} (spares : account.Spares 0) :
    ∃ read root, Reading.tokens dtd replace .outermost none { account } placed = .ok read ∧
      read.account.Spares 0 ∧ read.built.root = some root ∧ root.unplaced = document.unplaced := by
  obtain ⟨unique, each⟩ := printable.element_inv
  cases writes with
  | @empty head opening opens =>
    obtain ⟨⟨here, position⟩, rest, rfl, rfl, nothing⟩ := List.map_eq_cons_iff.mp same
    obtain rfl := List.map_eq_nil_iff.mp nothing
    obtain ⟨counted, spared, told⟩ :=
      @Opens.read dtd replace undeclared _ _ _ opens unique position { account } spares
    have started := Reading.inside_tell_start spared position { head with position := position }
    obtain ⟨root, finished, bare⟩ := started.root_tell_finish position head.name
    exact ⟨_, root, Reading.tokens_cons [] told, spared, finished, bare⟩
  | @full head children opening closing inner opens inside closes =>
    obtain ⟨⟨here, position⟩, rest, rfl, rfl, sameRest⟩ := List.map_eq_cons_iff.mp same
    obtain ⟨middle, third, rfl, sameInner, sameThird⟩ := List.map_eq_append_iff.mp sameRest
    obtain ⟨⟨last, place⟩, fourth, rfl, rfl, nothing⟩ := List.map_eq_cons_iff.mp sameThird
    obtain rfl := List.map_eq_nil_iff.mp nothing
    obtain ⟨opened, told, started, silent⟩ :=
      opens.read_first replace undeclared unique position spares
    obtain ⟨full, parts, runInside, still, content⟩ :=
      inside.read undeclared each sameInner started fun _ => silent
    obtain ⟨counted, spared, toldLast⟩ := closes.read replace dtd place still.named still.spares
    obtain ⟨root, finished, bare⟩ := (still.counted spared).root_tell_finish place head.name
    refine ⟨_, root, (Reading.tokens_cons _ told).trans ((Reading.tokens_append _ runInside).trans
      (Reading.tokens_cons [] toldLast)), spared, finished, ?_⟩
    have gathered : Reading.gathered { full with account := counted } = full.gathered := rfl
    rw [bare, gathered, content, silent, shownText_nil]
    rfl

end Tokens

end MemberDocs.Xml
