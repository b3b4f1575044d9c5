import MemberDocs.Proofs.Markdown.Lookup
import MemberDocs.Proofs.Markdown.Step

/-! # Outlines of renderings

What rendering writes is a row of chunks: texts of the documentation with their blanks collapsed, and
fixed text in between that comes from the rules, the tags and the shape of the tree (`Chunk`). The
row is put together from those of the parts (`outline?`), and written out it is the Markdown
(`renderNode_eq_outline`). A row falls into its shown texts and the gaps around them, and to weave
them together again gives the text back (`weave_gaps`).
-/

namespace MemberDocs.Markdown

/-- A stretch of a rendering. -/
inductive Chunk where
  /-- Text that the rendering adds, or takes over without reading it as documentation. -/
  | fixed (text : String)
  /-- A text of the documentation, shown with its blanks collapsed. -/
  | shown (content : String)
deriving DecidableEq, Repr

namespace Chunk

/-- A stretch as it is written. -/
def written : Chunk → String
  | fixed text => text
  | shown content => Text.collapse content

/-- A stretch without the text that it shows. -/
def blank : Chunk → Chunk
  | fixed text => fixed text
  | shown _ => shown ""

end Chunk

/-- A row of stretches as it is written. -/
def writtenOut : List Chunk → String
  | [] => ""
  | chunk :: rest => chunk.written ++ writtenOut rest

/-- The texts of the documentation that a row shows. -/
def shownIn : List Chunk → List String
  | [] => []
  | .fixed _ :: rest => shownIn rest
  | .shown content :: rest => content :: shownIn rest

/-- The fixed text before, between and after the texts that a row shows. -/
def gaps : List Chunk → List String
  | [] => [""]
  | .fixed text :: rest =>
    match gaps rest with
    | [] => [text]
    | gap :: more => (text ++ gap) :: more
  | .shown _ :: rest => "" :: gaps rest

/-- Gaps with a text after each but the last. -/
def weave : List String → List String → String
  | gap :: gaps, text :: texts => gap ++ text ++ weave gaps texts
  | gap :: _, [] => gap
  | [], _ => ""

theorem writtenOut_append (first second : List Chunk) :
    writtenOut (first ++ second) = writtenOut first ++ writtenOut second := by
  induction first with
  | nil => simp [writtenOut]
  | cons chunk rest ih => simp [writtenOut, ih, String.append_assoc]

theorem shownIn_append (first second : List Chunk) :
    shownIn (first ++ second) = shownIn first ++ shownIn second := by
  induction first with
  | nil => rfl
  | cons chunk rest ih => cases chunk <;> simp [shownIn, ih]

theorem length_gaps (chunks : List Chunk) :
    (gaps chunks).length = (shownIn chunks).length + 1 := by
  induction chunks with
  | nil => rfl
  | cons chunk rest ih =>
    cases chunk with
    | fixed text =>
      cases split : gaps rest with
      | nil => simp [split] at ih
      | cons gap more => simpa [gaps, split, shownIn] using ih
    | shown content => simp [gaps, shownIn, ih]

theorem weave_cons_gap (text gap : String) (more texts : List String) :
    weave ((text ++ gap) :: more) texts = text ++ weave (gap :: more) texts := by
  cases texts <;> simp [weave, String.append_assoc]

/-- The gaps and the collapsed texts of a row make up what is written. -/
theorem weave_gaps (chunks : List Chunk) :
    weave (gaps chunks) ((shownIn chunks).map Text.collapse) =
      writtenOut chunks := by
  induction chunks with
  | nil => rfl
  | cons chunk rest ih =>
    cases chunk with
    | fixed text =>
      have count := length_gaps rest
      cases split : gaps rest with
      | nil => simp [split] at count
      | cons gap more =>
        rw [split] at ih
        simp [gaps, split, shownIn, weave_cons_gap, ih, writtenOut, Chunk.written]
    | shown content => simp [gaps, shownIn, weave, ih, writtenOut, Chunk.written]

/-- The gaps do not depend on what the texts between them are. -/
theorem gaps_map_blank (chunks : List Chunk) : gaps (chunks.map Chunk.blank) = gaps chunks := by
  induction chunks with
  | nil => rfl
  | cons chunk rest ih => cases chunk <;> simp [gaps, Chunk.blank, ih]

/-! ## Rows of rules and trees -/

/-- Which of the values of an extract is the rendering of the parts that it visits. -/
def Extract.bodySlot? : Extract → Option Nat
  | .body => some 0
  | .attributeAndBody _ | .member | .document | .anchor => some 1
  | .reference | .attributeAlone _ | .keyword | .code | .nothing => none

/-- The values of an extract as rows. -/
def Extract.rows (extract : Extract) (tag : Tag) (children : List Node) (outer : Option String)
    (body : List Chunk) : List (List Chunk) :=
  let fixed := (extract.values tag children outer "").map fun value => [Chunk.fixed value]
  match extract.bodySlot? with
  | some slot => fixed.set slot body
  | none => fixed

/-- A template with its slots filled by rows. -/
def Template.fillRows (rows : List (List Chunk)) : Template → List Chunk
  | [] => []
  | .literal text :: rest => .fixed text :: fillRows rows rest
  | .slot index :: rest => rows.getD index [] ++ fillRows rows rest

theorem Extract.values_eq_rows (extract : Extract) (tag : Tag) (children : List Node)
    (outer : Option String) (body : List Chunk) :
    extract.values tag children outer (writtenOut body) =
      (extract.rows tag children outer body).map writtenOut := by
  cases extract <;> simp [values, rows, bodySlot?, writtenOut, Chunk.written]

theorem Template.writtenOut_fillRows {template : Template} {rows : List (List Chunk)} {text : String}
    (filled : template.fill (rows.map writtenOut) = .ok text) :
    writtenOut (template.fillRows rows) = text := by
  induction template generalizing text with
  | nil =>
    obtain rfl : "" = text := by simpa [fill] using filled
    rfl
  | cons piece rest ih =>
    cases piece with
    | literal before =>
      simp only [fill] at filled
      cases later : Template.fill (rows.map writtenOut) rest with
      | error index => simp [later, Except.map] at filled
      | ok after =>
        obtain rfl : before ++ after = text := by simpa [later, Except.map] using filled
        simp [fillRows, writtenOut, Chunk.written, ih later]
    | slot index =>
      simp only [fill, List.getElem?_map] at filled
      cases present : rows[index]? with
      | none => simp [present] at filled
      | some row =>
        cases later : Template.fill (rows.map writtenOut) rest with
        | error index => simp [present, later, Except.map] at filled
        | ok after =>
          obtain rfl : writtenOut row ++ after = text := by
            simpa [present, later, Except.map] using filled
          simp [fillRows, writtenOut_append, ih later, present]

mutual

/-- The row of a part of a tree under the standard rules, if there is a rule for every element that
is visited. -/
def outline? (context : Option String) (previous : Option Tag) : Node → Option (List Chunk)
  | .text content _ => some [.shown content]
  | .element tag children =>
    match standardRules.find? (effectiveName tag previous) with
    | none => none
    | some rule =>
      match outlineSiblings? (rule.extract.context children context) none
          (rule.extract.visits children) with
      | none => none
      | some body =>
        some (Template.fillRows (rule.extract.rows tag children context body) rule.template)
termination_by node => sizeOf node
decreasing_by
  have := rule.extract.sizeOf_visits_le children
  simp
  omega

/-- The row of neighbouring parts. -/
def outlineSiblings? (context : Option String) (previous : Option Tag) :
    List Node → Option (List Chunk)
  | [] => some []
  | node :: rest =>
    match outline? context previous node with
    | none => none
    | some first =>
      match outlineSiblings? context (node.tag?.or previous) rest with
      | none => none
      | some others => some (first ++ others)
termination_by nodes => sizeOf nodes

end

variable {context : Option String} {previous : Option Tag}

theorem outline?_text (content : String) (position : Position) :
    outline? context previous (.text content position) = some [.shown content] := by
  rw [outline?]

theorem outline?_of_unknown {tag : Tag} (children : List Node)
    (unknown : standardRules.find? (effectiveName tag previous) = none) :
    outline? context previous (.element tag children) = none := by
  rw [outline?, unknown]

theorem outline?_of_rule {tag : Tag} (children : List Node) {rule : TagRule}
    (found : standardRules.find? (effectiveName tag previous) = some rule) :
    outline? context previous (.element tag children) =
      (outlineSiblings? (rule.extract.context children context) none
        (rule.extract.visits children)).map fun body =>
          Template.fillRows (rule.extract.rows tag children context body) rule.template := by
  rw [outline?, found]
  dsimp only
  cases outlineSiblings? (rule.extract.context children context) none
    (rule.extract.visits children) <;> rfl

theorem outlineSiblings?_nil : outlineSiblings? context previous [] = some [] := by
  rw [outlineSiblings?]

theorem outlineSiblings?_cons (node : Node) (rest : List Node) :
    outlineSiblings? context previous (node :: rest) =
      (outline? context previous node).bind fun first =>
        (outlineSiblings? context (node.tag?.or previous) rest).map (first ++ ·) := by
  rw [outlineSiblings?]
  cases outline? context previous node with
  | none => rfl
  | some first => cases outlineSiblings? context (node.tag?.or previous) rest <;> rfl

theorem renderSiblings_eq_outline {nodes : List Node}
    (each : ∀ node ∈ nodes, ∀ context previous,
      (renderNode standardRules context previous node).toOption =
        (outline? context previous node).map writtenOut)
    (context : Option String) (previous : Option Tag) :
    (renderSiblings standardRules context previous nodes).toOption =
      (outlineSiblings? context previous nodes).map writtenOut := by
  induction nodes generalizing previous with
  | nil =>
    rw [renderSiblings_nil, outlineSiblings?_nil]
    rfl
  | cons node rest ih =>
    have own := each node List.mem_cons_self context previous
    have others := ih (fun part member => each part (List.mem_cons_of_mem node member))
      (node.tag?.or previous)
    rw [renderSiblings_cons, outlineSiblings?_cons, toOption_bind, own]
    simp only [toOption_map, others]
    cases outline? context previous node with
    | none => rfl
    | some first =>
      cases outlineSiblings? context (node.tag?.or previous) rest with
      | none => rfl
      | some more => simp [writtenOut_append]

theorem toOption_apply {rule : TagRule} {name : String}
    (found : standardRules.find? name = some rule) (tag : Tag) (children : List Node)
    (context : Option String) (body : List Chunk) :
    (rule.apply tag children context (writtenOut body)).toOption =
      some (writtenOut
        (Template.fillRows (rule.extract.rows tag children context body) rule.template)) := by
  obtain ⟨markdown, applied⟩ :=
    rule.exists_apply_of_standard found tag children context (writtenOut body)
  rw [applied]
  unfold TagRule.apply at applied
  rw [Extract.values_eq_rows] at applied
  cases filled : rule.template.fill
      ((rule.extract.rows tag children context body).map writtenOut) with
  | error index => simp [filled, Except.mapError] at applied
  | ok text =>
    obtain rfl : text = markdown := by simpa [filled, Except.mapError] using applied
    rw [Template.writtenOut_fillRows filled]
    rfl

/-- **Rendering writes out the row.** A part is rendered exactly if it has a row. -/
theorem renderNode_eq_outline (node : Node) (context : Option String) (previous : Option Tag) :
    (renderNode standardRules context previous node).toOption =
      (outline? context previous node).map writtenOut := by
  induction node using Node.visitInduction generalizing context previous with
  | text content position =>
    simp [renderNode_text, outline?_text, Except.toOption, writtenOut, Chunk.written]
  | element tag children ih =>
    cases found : standardRules.find? (effectiveName tag previous) with
    | none =>
      rw [renderNode_of_unknown children found, outline?_of_unknown children found]
      rfl
    | some rule =>
      have parts := renderSiblings_eq_outline (ih rule.extract)
        (rule.extract.context children context) none
      rw [renderNode_of_rule children found, outline?_of_rule children found, toOption_bind,
        renderNodes, parts]
      cases outlineSiblings? (rule.extract.context children context) none
          (rule.extract.visits children) with
      | none => rfl
      | some body => exact toOption_apply found tag children context body

end MemberDocs.Markdown
