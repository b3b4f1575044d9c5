import MemberDocs.Proofs.Yaml.Lines
import MemberDocs.Yaml.Data

/-! # The mapping of lines

The tokens of lines are a mapping from words to words: the graph has a value for every key and every
value, in the order in which they are written (`ofTokens_lines`), and no pair asks for a merge. Of the
lines with one key, the last one counts (`ofText_lines`).
-/

namespace MemberDocs.Yaml

/-! ## The graph -/

/-- The values of a graph that a line adds. -/
def Line.vertices (line : Line) : List Vertex :=
  [⟨.ofPlain line.key, .scalar line.key⟩, ⟨.ofPlain line.value, .scalar line.value⟩]

/-- The pairs of lines, of which the first key has the number `start`. -/
def linePairs : Nat → List Line → List (Nat × Nat)
  | _, [] => []
  | start, _ :: rest => (start, start + 1) :: linePairs (start + 2) rest

/-- The values of a document of lines, the mapping as the first of them. -/
def documentVertices (lines : List Line) : Array Vertex :=
  ⟨⟨.map, .mapping (linePairs 1 lines)⟩ :: lines.flatMap Line.vertices⟩

theorem readNode_word (fuel : Nat) (site : Site) (text : String) (rest : List Token)
    (handles : List (String × String)) (vertices : Array Vertex) (anchors : List (String × Nat)) :
    readNode (fuel + 1) site ⟨.scalar text true :: rest, handles, vertices, anchors⟩ =
      .ok (vertices.size,
        ⟨rest, handles, vertices.push ⟨.ofPlain text, .scalar text⟩, anchors⟩) := by
  simp [readNode, Draft.properties, Draft.advance, Draft.addScalar, Draft.bind, Draft.add,
    scalarTag, bind, Except.bind]

/-- The pairs of lines are read up to the end of their block. -/
theorem blockPairs_lines (lines : List Line) {fuel : Nat} (enough : lines.length + 4 ≤ fuel)
    (rest : List Token) (handles : List (String × String)) (vertices : Array Vertex)
    (anchors : List (String × Nat)) :
    blockPairs fuel ⟨lines.flatMap Line.tokens ++ .blockEnd :: rest, handles, vertices, anchors⟩ =
      .ok (linePairs vertices.size lines,
        ⟨rest, handles, vertices ++ (lines.flatMap Line.vertices).toArray, anchors⟩) := by
  induction lines generalizing fuel vertices with
  | nil =>
    obtain ⟨left, rfl⟩ : ∃ left, fuel = left + 1 := ⟨fuel - 1, by omega⟩
    simp [blockPairs, linePairs, Draft.advance]
  | cons line others ih =>
    rw [List.length_cons] at enough
    obtain ⟨left, rfl⟩ : ∃ left, fuel = left + 4 := ⟨fuel - 4, by omega⟩
    have enoughLeft : others.length + 4 ≤ left + 3 := by omega
    have later := ih enoughLeft ((vertices.push ⟨.ofPlain line.key, .scalar line.key⟩).push
      ⟨.ofPlain line.value, .scalar line.value⟩)
    have key (rest : List Token) : readPart (left + 3) .pair endsBlockPart
        ⟨.scalar line.key true :: rest, handles, vertices, anchors⟩ =
          .ok (vertices.size,
            ⟨rest, handles, vertices.push ⟨.ofPlain line.key, .scalar line.key⟩, anchors⟩) := by
      simp [readPart, endsBlockPart, readNode_word]
    have value (rest : List Token) (before : Array Vertex) :
        readValue (left + 3) .pair endsBlockPart
          ⟨.value :: .scalar line.value true :: rest, handles, before, anchors⟩ =
            .ok (before.size,
              ⟨rest, handles, before.push ⟨.ofPlain line.value, .scalar line.value⟩,
                anchors⟩) := by
      simp [readValue, readPart, endsBlockPart, Draft.advance, readNode_word]
    rw [List.flatMap_cons, Line.tokens, blockPairs]
    simp only [List.cons_append, List.nil_append, Draft.advance, key, bind, Except.bind, value,
      later]
    simp [linePairs, Line.vertices]

theorem readNode_mapping {fuel : Nat} {tokens : List Token} {handles : List (String × String)}
    {pairs : List (Nat × Nat)} {after : Draft}
    (read : blockPairs fuel ⟨tokens, handles, #[⟨.map, .mapping []⟩], []⟩ = .ok (pairs, after)) :
    readNode (fuel + 1) .block ⟨.blockMappingStart :: tokens, handles, #[], []⟩ =
      .ok (0, after.fill 0 (.mapping pairs)) := by
  rw [readNode]
  simp [Draft.properties, Draft.advance, Draft.bind, Draft.add, collectionTag, bind, Except.bind,
    read]

theorem length_le_tokens (lines : List Line) :
    lines.length ≤ (lines.flatMap Line.tokens).length := by
  induction lines with
  | nil => exact Nat.zero_le _
  | cons line others ih =>
    rw [List.flatMap_cons, List.length_append, List.length_cons]
    have : line.tokens.length = 4 := rfl
    omega

theorem ofTokens_lines (lines : List Line) :
    Graph.ofTokens (.documentStart :: .blockMappingStart :: lines.flatMap Line.tokens ++
        [.blockEnd, .streamEnd]) = .ok (some ⟨documentVertices lines, 0⟩) := by
  have enough : lines.length + 4 ≤
      4 * (Token.blockMappingStart :: (lines.flatMap Line.tokens ++
        [.blockEnd, .streamEnd])).length + 7 := by
    have counted := length_le_tokens lines
    rw [List.length_cons, List.length_append]
    omega
  have pairs := blockPairs_lines lines enough [.streamEnd] standardHandles
    #[⟨.map, .mapping []⟩] []
  have filled : Draft.fill ⟨[.streamEnd], standardHandles,
      #[⟨.map, .mapping []⟩] ++ (lines.flatMap Line.vertices).toArray, []⟩ 0
        (.mapping (linePairs 1 lines)) =
      ⟨[.streamEnd], standardHandles, documentVertices lines, []⟩ := by
    simp [Draft.fill, documentVertices, Array.modify, Array.modifyM]
  have root := readNode_mapping pairs
  rw [show (#[(⟨.map, .mapping []⟩ : Vertex)] : Array Vertex).size = 1 from rfl, filled] at root
  have ended : readStreamEnd [.streamEnd] = .ok () := rfl
  have document : readDocument standardHandles (.blockMappingStart :: (lines.flatMap Line.tokens ++
      [.blockEnd, .streamEnd])) = .ok ⟨documentVertices lines, 0⟩ := by
    simp only [readDocument, fuelFor, root, bind, Except.bind, ended]
  simp only [Graph.ofTokens, List.cons_append, readDirectives, bind, Except.bind,
    readMarkedDocument, List.nil_append, document]

/-! ## Merges -/

/-- The key and the value of a line have their places in a graph. -/
structure Line.At (vertices : Array Vertex) (line : Line) (pair : Nat × Nat) : Prop where
  key : vertexAt vertices pair.1 = ⟨.ofPlain line.key, .scalar line.key⟩
  value : vertexAt vertices pair.2 = ⟨.ofPlain line.value, .scalar line.value⟩

theorem vertexAt_append (before : List Vertex) (vertex : Vertex) (after : List Vertex) :
    vertexAt ⟨before ++ vertex :: after⟩ before.length = vertex := by
  simp [vertexAt]

theorem at_linePairs (before : List Vertex) (lines : List Line) :
    List.Forall₂ (Line.At ⟨before ++ lines.flatMap Line.vertices⟩) lines
      (linePairs before.length lines) := by
  induction lines generalizing before with
  | nil => exact .nil
  | cons line others ih =>
    have later := ih (before ++ line.vertices)
    rw [List.append_assoc, List.length_append] at later
    refine .cons ⟨?_, ?_⟩ later
    · exact vertexAt_append before _ _
    · have second := vertexAt_append (before ++ [⟨.ofPlain line.key, .scalar line.key⟩])
        ⟨.ofPlain line.value, .scalar line.value⟩ (others.flatMap Line.vertices)
      simpa [Line.vertices] using second

theorem at_documentVertices (lines : List Line) :
    List.Forall₂ (Line.At (documentVertices lines)) lines (linePairs 1 lines) :=
  at_linePairs [⟨.map, .mapping (linePairs 1 lines)⟩] lines

variable {lines : List Line}

/-- A word is a scalar like any other: it asks for no merge and is no sign. -/
theorem ofPlain_ne_of_isWord {word : String} (isWord : IsWord word) :
    Tag.ofPlain word ≠ .merge ∧ Tag.ofPlain word ≠ .value := by
  rw [ofPlain_of_isWord isWord]
  split
  next => simp
  next => split <;> simp

theorem tags_of_keys (plain : ∀ line ∈ lines, line.IsPlain) :
    ∀ pair ∈ linePairs 1 lines, (vertexAt (documentVertices lines) pair.1).tag ≠ .merge ∧
      (vertexAt (documentVertices lines) pair.1).tag ≠ .value := by
  intro pair listed
  have stand := (List.forall₂_and_left lines _).mpr ⟨plain, at_documentVertices lines⟩
  obtain ⟨line, isPlain, stands⟩ := exists_of_mem_forall₂ stand.flip listed
  rw [stands.key]
  exact ofPlain_ne_of_isWord isPlain.key

/-- What all values add to the count of merges, if they are scalars. -/
theorem foldl_scalars {step : Nat → Vertex → Nat}
    (scalar : ∀ count tag text, step count ⟨tag, .scalar text⟩ = count) (lines : List Line)
    (count : Nat) : (lines.flatMap Line.vertices).foldl step count = count := by
  induction lines with
  | nil => rfl
  | cons line others ih =>
    rw [List.flatMap_cons, List.foldl_append, Line.vertices, List.foldl_cons, scalar,
      List.foldl_cons, scalar]
    exact ih

theorem mergeCount_documentVertices (plain : ∀ line ∈ lines, line.IsPlain) :
    mergeCount (documentVertices lines) = 0 := by
  have unmerged : (linePairs 1 lines).countP (isMerge (documentVertices lines)) = 0 := by
    apply List.countP_eq_zero.mpr
    intro pair listed
    simpa [isMerge] using (tags_of_keys plain pair listed).1
  simp only [mergeCount]
  have shape : (documentVertices lines).toList =
      ⟨.map, .mapping (linePairs 1 lines)⟩ :: lines.flatMap Line.vertices := rfl
  rw [shape, List.foldl_cons, foldl_scalars (fun _ _ _ => rfl)]
  simp [unmerged]

theorem plainKeys_eq_self {vertices : Array Vertex} {pairs : List (Nat × Nat)}
    (unsigned : ∀ pair ∈ pairs, (vertexAt vertices pair.1).tag ≠ .value) :
    plainKeys vertices pairs = vertices := by
  induction pairs with
  | nil => rfl
  | cons pair rest ih =>
    obtain ⟨first, others⟩ := List.forall_mem_cons.mp unsigned
    rw [plainKeys, List.foldl_cons, if_neg first]
    exact ih others

theorem mergeInto_documentVertices (plain : ∀ line ∈ lines, line.IsPlain) :
    mergeInto (documentVertices lines) 0 = .ok (documentVertices lines) := by
  have pairs : pairsAt (documentVertices lines) 0 = linePairs 1 lines := rfl
  have kept : plainKeys (documentVertices lines) (linePairs 1 lines) = documentVertices lines :=
    plainKeys_eq_self fun pair listed => (tags_of_keys plain pair listed).2
  have same : setPairs (documentVertices lines) 0 (linePairs 1 lines) = documentVertices lines := by
    simp [setPairs, documentVertices, Array.modify, Array.modifyM]
  rw [mergeInto, mergeCount_documentVertices plain, mergeFrom, pairs, kept, List.nil_append, same]

/-! ## The values -/

namespace Assembly

variable {assembly : Assembly} {number : Nat}

theorem object?_put_self (object : Object) (inside : number < assembly.objects.size) :
    (assembly.put number object).object? number = some object := by
  simp [Assembly.object?, put, inside]

theorem object?_put_of_ne (object : Object) {other : Nat} (apart : other ≠ number) :
    (assembly.put number object).object? other = assembly.object? other := by
  simp [Assembly.object?, put, Ne.symm apart]

theorem enter_word {word : String} (isWord : IsWord word)
    (there : vertexAt assembly.vertices number = ⟨.ofPlain word, .scalar word⟩)
    (unentered : assembly.object? number = none) :
    assembly.enter number = .ok (assembly.put number (.scalar (wordScalar word))) := by
  have read := ofText_ofPlain isWord
  have tag : Tag.ofPlain word = .bool ∨ Tag.ofPlain word = .null ∨ Tag.ofPlain word = .str := by
    rw [ofPlain_of_isWord isWord]
    split
    next => simp
    next => split <;> simp
  rcases tag with tag | tag | tag <;> rw [tag] at there read <;>
    simp [enter, unentered, there, scalarOf, textOf, read, bind, Except.bind]

theorem enterKey_word {word : String} (isWord : IsWord word)
    (there : vertexAt assembly.vertices number = ⟨.ofPlain word, .scalar word⟩)
    (unentered : assembly.object? number = none) (inside : number < assembly.objects.size) :
    assembly.enterKey number =
      .ok (wordScalar word, assembly.put number (.scalar (wordScalar word))) := by
  simp only [enterKey, enter_word isWord there unentered, bind, Except.bind,
    object?_put_self _ inside]

/-- The values of lines put in their places, from the number `start` on. -/
def putLines (start : Nat) (assembly : Assembly) : List Line → Assembly
  | [] => assembly
  | line :: rest =>
    putLines (start + 2)
      ((assembly.put start (.scalar (wordScalar line.key))).put (start + 1)
        (.scalar (wordScalar line.value))) rest

theorem putLines_frame (start : Nat) (assembly : Assembly) (lines : List Line) :
    (putLines start assembly lines).vertices = assembly.vertices ∧
      (putLines start assembly lines).pending = assembly.pending ∧
      (putLines start assembly lines).objects.size = assembly.objects.size ∧
      ∀ number < start, (putLines start assembly lines).object? number =
        assembly.object? number := by
  induction lines generalizing start assembly with
  | nil => exact ⟨rfl, rfl, rfl, fun _ _ => rfl⟩
  | cons line rest ih =>
    obtain ⟨vertices, pending, size, before⟩ := ih (start + 2)
      ((assembly.put start (.scalar (wordScalar line.key))).put (start + 1)
        (.scalar (wordScalar line.value)))
    refine ⟨vertices, pending, ?_, ?_⟩
    · rw [putLines, size]
      simp [put]
    · intro number earlier
      rw [putLines, before number (by omega), object?_put_of_ne _ (by omega),
        object?_put_of_ne _ (by omega)]

/-- Every value is in its place, also if something is put in front of them afterwards. -/
theorem placed_putLines {start : Nat} {assembly : Assembly} {lines : List Line}
    (inside : start + 2 * lines.length ≤ assembly.objects.size) {values : Nat → Option Object}
    (agree : ∀ number ≥ start, values number = (putLines start assembly lines).object? number) :
    List.Forall₂ (fun line pair => values pair.2 = some (.scalar (wordScalar line.value))) lines
      (linePairs start lines) := by
  induction lines generalizing start assembly with
  | nil => exact .nil
  | cons line rest ih =>
    rw [List.length_cons] at inside
    refine .cons ?_ (ih ?_ fun number above => agree number (by omega))
    · obtain ⟨-, -, -, before⟩ := putLines_frame (start + 2)
        ((assembly.put start (.scalar (wordScalar line.key))).put (start + 1)
          (.scalar (wordScalar line.value))) rest
      rw [agree _ (by simp), putLines, before _ (by simp), object?_put_self]
      simp [put]
      omega
    · simp [put]
      omega

end Assembly

/-- The pairs of lines, of which the first key has the number `start`, added to others. -/
def linesEntries (start : Nat) (entries : List Entry) : List Line → List Entry
  | [] => entries
  | line :: rest =>
    linesEntries (start + 2) (putEntry ⟨wordScalar line.key, start, start + 1⟩ entries) rest

/-- All lines are entered, each with its key and its value. -/
theorem foldlM_enter_lines {vertices : Array Vertex} {start : Nat} {lines : List Line}
    (plain : ∀ line ∈ lines, line.IsPlain)
    (stand : List.Forall₂ (Line.At vertices) lines (linePairs start lines))
    {entries : List Entry} {assembly : Assembly} (same : assembly.vertices = vertices)
    (inside : start + 2 * lines.length ≤ assembly.objects.size)
    (unentered : ∀ number ≥ start, assembly.object? number = none) :
    (linePairs start lines).foldlM (fun (state : List Entry × Assembly) pair => do
      let (key, assembly) ← state.2.enterKey pair.1
      let assembly ← assembly.enter pair.2
      .ok (putEntry ⟨key, pair.1, pair.2⟩ state.1, assembly)) (entries, assembly) =
        (.ok (linesEntries start entries lines, assembly.putLines start lines) :
          Except Fault (List Entry × Assembly)) := by
  induction lines generalizing start entries assembly with
  | nil => rfl
  | cons line rest ih =>
    obtain ⟨isPlain, others⟩ := List.forall_mem_cons.mp plain
    rw [List.length_cons] at inside
    cases stand with
    | cons first later =>
      have key := Assembly.enterKey_word isPlain.key (same ▸ first.key)
        (unentered start (Nat.le_refl start)) (by omega)
      have valueUnentered : (assembly.put start (.scalar (wordScalar line.key))).object?
          (start + 1) = none := by
        rw [Assembly.object?_put_of_ne _ (by omega), unentered _ (by omega)]
      have value := @Assembly.enter_word
        (assembly.put start (.scalar (wordScalar line.key))) (start + 1) line.value isPlain.value
        (same ▸ first.value) valueUnentered
      rw [linePairs, List.foldlM_cons]
      simp only [key, value, bind, Except.bind]
      refine ih others later same ?_ ?_
      · simp [Assembly.put]
        omega
      · intro number above
        rw [Assembly.object?_put_of_ne _ (by omega), Assembly.object?_put_of_ne _ (by omega),
          unentered _ (by omega)]

/-! ## The pairs -/

/-- The value under a name. -/
def valueUnder (entries : List Entry) (name : String) : Option Nat :=
  (entries.find? fun entry => entry.key = .str name).map Entry.value

/-- A pair that is added is found under its own key, and under no other. -/
theorem valueUnder_putEntry {entries : List Entry} {entry : Entry}
    (distinct : ∀ known ∈ entries, known.sameKey entry ↔ known.key = entry.key) (name : String) :
    valueUnder (putEntry entry entries) name =
      if entry.key = .str name then some entry.value else valueUnder entries name := by
  induction entries with
  | nil =>
    by_cases named : entry.key = .str name <;> simp [putEntry, valueUnder, named]
  | cons known rest ih =>
    obtain ⟨first, others⟩ := List.forall_mem_cons.mp distinct
    by_cases same : known.key = entry.key
    · have put : putEntry entry (known :: rest) = { known with value := entry.value } :: rest := by
        simp [putEntry, first.mpr same]
      rw [put]
      by_cases named : entry.key = .str name <;> simp [valueUnder, same, named]
    · have put : putEntry entry (known :: rest) = known :: putEntry entry rest := by
        simp [putEntry, mt first.mp same]
      have later := ih others
      rw [put]
      unfold valueUnder at later ⊢
      by_cases front : known.key = .str name
      · have : entry.key ≠ .str name := fun own => same (front.trans own.symm)
        simp [front, this]
      · simpa [front] using later

/-- The keys are words with numbers below a bound. -/
def KeysBelow (bound : Nat) (entries : List Entry) : Prop :=
  ∀ entry ∈ entries, entry.keyNumber < bound ∧ ∃ word, entry.key = wordScalar word

theorem keysBelow_putEntry {bound : Nat} {entries : List Entry} {entry : Entry}
    (below : KeysBelow bound entries) (own : KeysBelow bound [entry]) :
    KeysBelow bound (putEntry entry entries) := by
  induction entries with
  | nil => exact own
  | cons known rest ih =>
    obtain ⟨first, others⟩ := List.forall_mem_cons.mp below
    unfold putEntry
    split
    next => exact List.forall_mem_cons.mpr ⟨first, others⟩
    next => exact List.forall_mem_cons.mpr ⟨first, ih others⟩

/-- Words with different numbers are the same key exactly if they are the same value. -/
theorem sameKey_iff_of_keysBelow {start : Nat} {entries : List Entry}
    (below : KeysBelow start entries) (word : String) (value : Nat) :
    ∀ known ∈ entries, known.sameKey ⟨wordScalar word, start, value⟩ ↔
      known.key = wordScalar word := by
  intro known listed
  obtain ⟨lower, other, key⟩ := below known listed
  have apart : known.keyNumber ≠ start := Nat.ne_of_lt lower
  rw [key]
  simpa [Entry.sameKey, apart, key] using same_wordScalar other word

theorem keysBelow_put_line {start : Nat} {entries : List Entry} (below : KeysBelow start entries)
    (word : String) :
    KeysBelow (start + 2) (putEntry ⟨wordScalar word, start, start + 1⟩ entries) := by
  apply keysBelow_putEntry
  · intro entry listed
    obtain ⟨lower, key⟩ := below entry listed
    exact ⟨Nat.lt_add_right 2 lower, key⟩
  · intro entry listed
    obtain rfl := List.mem_singleton.mp listed
    exact ⟨by simp, word, rfl⟩

theorem exists_key_of_linesEntries {start : Nat} {entries : List Entry} {lines : List Line}
    (below : KeysBelow start entries) :
    ∀ entry ∈ linesEntries start entries lines, ∃ word, entry.key = wordScalar word := by
  induction lines generalizing start entries with
  | nil => exact fun entry listed => (below entry listed).2
  | cons line rest ih => exact ih (keysBelow_put_line below line.key)

/-- The last line with a key. -/
def lastLine? (lines : List Line) (key : String) : Option Line :=
  lines.reverse.find? fun line => line.key = key

theorem lastLine?_cons (line : Line) (rest : List Line) (key : String) :
    lastLine? (line :: rest) key =
      (lastLine? rest key).or (if line.key = key then some line else none) := by
  rw [lastLine?, List.reverse_cons, List.find?_append]
  by_cases same : line.key = key <;> simp [lastLine?, same]

/-- Under a name is the value of the last line with it, or else what was there before. -/
theorem bind_valueUnder_linesEntries {name : String} (notBool : name ∉ Notation.boolWords)
    (notNull : name ∉ Notation.nullWords) {values : Nat → Option Object} {start : Nat}
    {lines : List Line} {entries : List Entry} (below : KeysBelow start entries)
    (placed : List.Forall₂ (fun line pair => values pair.2 =
      some (.scalar (wordScalar line.value))) lines (linePairs start lines)) :
    (valueUnder (linesEntries start entries lines) name).bind values =
      ((lastLine? lines name).map fun line => Object.scalar (wordScalar line.value)).or
        ((valueUnder entries name).bind values) := by
  induction lines generalizing start entries with
  | nil => simp [linesEntries, lastLine?]
  | cons line rest ih =>
    cases placed with
    | cons first later =>
      rw [linesEntries, ih (keysBelow_put_line below line.key) later, lastLine?_cons,
        valueUnder_putEntry (sameKey_iff_of_keysBelow below line.key (start + 1))]
      simp only [wordScalar_eq_str_iff notBool notNull]
      cases lastLine? rest name with
      | some last => simp
      | none => by_cases same : line.key = name <;> simp [same, first]

/-! ## The data -/

/-- The values when the mapping has been begun and its turn has come. -/
def begunAssembly (lines : List Line) : Assembly :=
  (⟨documentVertices lines, (documentVertices lines).map fun _ => none, []⟩ : Assembly).put 0
    (.dict [])

/-- The values when the mapping has been filled. -/
def filledAssembly (lines : List Line) : Assembly :=
  ((begunAssembly lines).putLines 1 lines).put 0 (.dict (linesEntries 1 [] lines))

theorem size_documentVertices (lines : List Line) :
    (documentVertices lines).size = 1 + 2 * lines.length := by
  have values : (lines.flatMap Line.vertices).length = 2 * lines.length := by
    induction lines with
    | nil => rfl
    | cons line others ih =>
      rw [List.flatMap_cons, List.length_append, ih, List.length_cons]
      have : line.vertices.length = 2 := rfl
      omega
  simp [documentVertices, values]
  omega

theorem size_begunAssembly (lines : List Line) :
    (begunAssembly lines).objects.size = 1 + 2 * lines.length := by
  simp [begunAssembly, Assembly.put, size_documentVertices]

theorem object?_untouched (lines : List Line) (number : Nat) :
    Assembly.object? ⟨documentVertices lines, (documentVertices lines).map fun _ => none, []⟩
      number = none := by
  by_cases inside : number < (documentVertices lines).size <;> simp [Assembly.object?, inside]

theorem complete_begunAssembly {lines : List Line} (plain : ∀ line ∈ lines, line.IsPlain) :
    (begunAssembly lines).complete 0 = .ok (filledAssembly lines) := by
  have unentered : ∀ number ≥ 1, (begunAssembly lines).object? number = none := by
    intro number above
    rw [begunAssembly, Assembly.object?_put_of_ne _ (by omega)]
    exact object?_untouched lines number
  have folded := @foldlM_enter_lines _ 1 lines plain (at_documentVertices lines) []
    (begunAssembly lines) rfl (Nat.le_of_eq (size_begunAssembly lines).symm) unentered
  have top : vertexAt (begunAssembly lines).vertices 0 =
      ⟨.map, .mapping (linePairs 1 lines)⟩ := rfl
  have merged : mergeInto (begunAssembly lines).vertices 0 = .ok (documentVertices lines) :=
    mergeInto_documentVertices plain
  have pairs : pairsAt (documentVertices lines) 0 = linePairs 1 lines := rfl
  have entered : (begunAssembly lines).enterPairs 0 =
      .ok (linesEntries 1 [] lines, (begunAssembly lines).putLines 1 lines) := by
    simp only [Assembly.enterPairs, top, merged, pairs, bind, Except.bind]
    exact folded
  simp only [Assembly.complete, top, entered, bind, Except.bind]
  rfl

theorem ofGraph_documentVertices {lines : List Line} (plain : ∀ line ∈ lines, line.IsPlain) :
    Data.ofGraph ⟨documentVertices lines, 0⟩ = .ok ⟨(filledAssembly lines).objects, 0⟩ := by
  have top : vertexAt (documentVertices lines) 0 = ⟨.map, .mapping (linePairs 1 lines)⟩ := rfl
  -- Scalars are read at once, so no turn comes after that of the mapping.
  have idle (fuel : Nat) : (filledAssembly lines).run fuel = .ok (filledAssembly lines) := by
    obtain ⟨-, pending, -⟩ := Assembly.putLines_frame 1 (begunAssembly lines) lines
    have none : (filledAssembly lines).pending = [] := pending
    cases fuel with
    | zero => rfl
    | succ fuel => rw [Assembly.run, none]
  have entered : Assembly.enter 0
      ⟨documentVertices lines, (documentVertices lines).map fun _ => none, []⟩ =
        .ok { begunAssembly lines with pending := [0] } := by
    simp only [Assembly.enter, object?_untouched, top]
    rfl
  have first : Assembly.run ((documentVertices lines).size + 1)
      { begunAssembly lines with pending := [0] } = .ok (filledAssembly lines) := by
    have completed : Assembly.complete 0 { begunAssembly lines with pending := [] } =
        .ok (filledAssembly lines) := complete_begunAssembly plain
    rw [Assembly.run]
    simp only [completed, bind, Except.bind, idle]
  simp only [Data.ofGraph, entered, first, bind, Except.bind]

theorem object?_filledAssembly (lines : List Line) :
    (filledAssembly lines).object? 0 = some (.dict (linesEntries 1 [] lines)) ∧
      List.Forall₂ (fun line pair => (filledAssembly lines).object? pair.2 =
        some (.scalar (wordScalar line.value))) lines (linePairs 1 lines) := by
  obtain ⟨-, -, size, -⟩ := Assembly.putLines_frame 1 (begunAssembly lines) lines
  rw [size_begunAssembly] at size
  constructor
  · apply Assembly.object?_put_self
    omega
  · apply Assembly.placed_putLines (Nat.le_of_eq (size_begunAssembly lines).symm)
    intro number above
    exact Assembly.object?_put_of_ne _ (by omega)

/-- **Lines are a mapping.** A document of lines is read as a mapping whose keys are the words of the
lines, and under a name that is a string it has the value of the last line with the name as its key. -/
theorem ofText_lines {lines : List Line} (some : lines ≠ [])
    (plain : ∀ line ∈ lines, line.IsPlain) :
    ∃ data entries, Data.ofText (documentChars lines) = .ok data ∧
      data.rootObject = .dict entries ∧
      (∀ entry ∈ entries, ∃ word, entry.key = wordScalar word) ∧
      ∀ name, name ∉ Notation.boolWords → name ∉ Notation.nullWords →
        data.valueOf entries name =
          ((lastLine? lines name).map fun line => .scalar (wordScalar line.value)).getD
            (.scalar .null) := by
  obtain ⟨root, placed⟩ := object?_filledAssembly lines
  have built : Data.ofText (documentChars lines) = .ok ⟨(filledAssembly lines).objects, 0⟩ := by
    simp only [Data.ofText, tokensOf_lines some plain, ofTokens_lines, bind, Except.bind,
      ofGraph_documentVertices plain]
  have none : KeysBelow 1 [] := by simp [KeysBelow]
  refine ⟨_, linesEntries 1 [] lines, built, ?_, exists_key_of_linesEntries none, ?_⟩
  · exact congrArg (Option.getD · (.scalar .null)) root
  · intro name notBool notNull
    have under := bind_valueUnder_linesEntries notBool notNull none placed
    rw [show valueUnder [] name = Option.none from rfl, Option.bind_none, Option.or_none] at under
    rw [← under]
    simp only [Data.valueOf, valueUnder]
    cases (linesEntries 1 [] lines).find? fun entry => entry.key = .str name with
    | none => rfl
    | some entry => rfl

end MemberDocs.Yaml
