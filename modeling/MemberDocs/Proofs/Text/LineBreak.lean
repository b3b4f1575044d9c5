import MemberDocs.Text.LineBreak
import MemberDocs.Proofs.Text.Runs
import Mathlib.Data.List.Infix

/-! # Squeezing line breaks

Squeezing reads a text with the number of line feeds just before as its only state (`breaksAfter`).
So a text can be squeezed in parts, with the state handed on (`squeezeChars_append`), and parts that
have been squeezed before may be put together and squeezed again (`squeeze_append_squeeze`,
`squeeze_around_join`). What comes out never holds three line feeds in a row (`not_infix_squeeze`).
Seen from outside, each maximal run of line feeds is cut to two at most and all else is kept
(`squeeze_cuts_maximal_runs`).
-/

namespace MemberDocs.Text

/-- How many line feeds a text ends with after `seen` ones, as far as squeezing counts them. -/
def breaksAfter (seen : Nat) : List Char → Nat
  | [] => seen
  | c :: rest =>
    if c = '\n' then breaksAfter (if seen < 2 then seen + 1 else seen) rest else breaksAfter 0 rest

/-- The second part of a text is squeezed with the line feeds that the first one ends with. -/
theorem squeezeChars_append (seen : Nat) (first second : List Char) :
    squeezeChars seen (first ++ second) =
      squeezeChars seen first ++ squeezeChars (breaksAfter seen first) second := by
  induction first generalizing seen with
  | nil => rfl
  | cons c rest ih =>
    by_cases isBreak : c = '\n'
    · by_cases few : seen < 2 <;> simp [squeezeChars, breaksAfter, isBreak, few, ih]
    · simp [squeezeChars, breaksAfter, isBreak, ih]

theorem breaksAfter_squeezeChars (seen : Nat) (cs : List Char) :
    breaksAfter seen (squeezeChars seen cs) = breaksAfter seen cs := by
  induction cs generalizing seen with
  | nil => rfl
  | cons c rest ih =>
    by_cases isBreak : c = '\n'
    · by_cases few : seen < 2 <;> simp [squeezeChars, breaksAfter, isBreak, few, ih]
    · simp [squeezeChars, breaksAfter, isBreak, ih]

/-- Squeezing again after more line feeds is squeezing after these. -/
theorem squeezeChars_squeezeChars {before seen : Nat} (fewer : before ≤ seen) (cs : List Char) :
    squeezeChars seen (squeezeChars before cs) = squeezeChars seen cs := by
  induction cs generalizing before seen with
  | nil => rfl
  | cons c rest ih =>
    by_cases isBreak : c = '\n'
    · by_cases few : seen < 2
      · have fewBefore : before < 2 := by omega
        simp [squeezeChars, isBreak, few, fewBefore, ih (Nat.succ_le_succ fewer)]
      · by_cases fewBefore : before < 2
        · simp [squeezeChars, isBreak, few, fewBefore, ih (show before + 1 ≤ seen by omega)]
        · simp [squeezeChars, isBreak, few, fewBefore, ih fewer]
    · simp [squeezeChars, isBreak, ih (Nat.le_refl 0)]

theorem toList_squeeze (s : String) : (squeeze s).toList = squeezeChars 0 s.toList := by
  simp [squeeze]

/-- Parts that have been squeezed are squeezed together as they would have been at first. -/
theorem squeeze_append_squeeze (first second : String) :
    squeeze (squeeze first ++ squeeze second) = squeeze (first ++ second) := by
  apply String.toList_inj.mp
  simp only [toList_squeeze, String.toList_append, squeezeChars_append, breaksAfter_squeezeChars]
  rw [squeezeChars_squeezeChars (Nat.le_refl 0), squeezeChars_squeezeChars (Nat.zero_le _)]

theorem squeeze_squeeze (s : String) : squeeze (squeeze s) = squeeze s := by
  apply String.toList_inj.mp
  simp only [toList_squeeze]
  rw [squeezeChars_squeezeChars (Nat.le_refl 0)]

theorem squeeze_squeeze_append (first second : String) :
    squeeze (squeeze first ++ second) = squeeze (first ++ second) := by
  rw [← squeeze_append_squeeze, squeeze_squeeze, squeeze_append_squeeze]

theorem squeeze_append_squeeze_right (first second : String) :
    squeeze (first ++ squeeze second) = squeeze (first ++ second) := by
  rw [← squeeze_append_squeeze, squeeze_squeeze, squeeze_append_squeeze]

theorem squeeze_join_squeeze (parts : List String) :
    squeeze (String.join (parts.map squeeze)) = squeeze (String.join parts) := by
  induction parts with
  | nil => rfl
  | cons part rest ih =>
    rw [List.map_cons, String.join_cons, String.join_cons, squeeze_squeeze_append,
      ← squeeze_append_squeeze_right, ih, squeeze_append_squeeze_right]

/-- The parts in the middle of a text may each be squeezed first. -/
theorem squeeze_around_join (before after : String) (parts : List String) :
    squeeze (before ++ String.join (parts.map squeeze) ++ after) =
      squeeze (before ++ String.join parts ++ after) := by
  have middle : squeeze (before ++ String.join (parts.map squeeze)) =
      squeeze (before ++ String.join parts) := by
    rw [← squeeze_append_squeeze_right, squeeze_join_squeeze, squeeze_append_squeeze_right]
  rw [← squeeze_squeeze_append, middle, squeeze_squeeze_append]

theorem length_squeezeChars_le (seen : Nat) (cs : List Char) :
    (squeezeChars seen cs).length ≤ cs.length := by
  induction cs generalizing seen with
  | nil => exact Nat.le_refl 0
  | cons c rest ih =>
    by_cases isBreak : c = '\n'
    · by_cases few : seen < 2
      · simpa [squeezeChars, isBreak, few] using ih (seen + 1)
      · simpa [squeezeChars, isBreak, few] using Nat.le_succ_of_le (ih seen)
    · simpa [squeezeChars, isBreak] using ih 0

theorem length_squeezeChars_lt {cs : List Char} (run : ['\n', '\n', '\n'] <:+: cs) (seen : Nat) :
    (squeezeChars seen cs).length < cs.length := by
  obtain ⟨before, after, rfl⟩ := run
  have start := length_squeezeChars_le seen before
  have few : (squeezeChars (breaksAfter seen before) ('\n' :: '\n' :: '\n' :: after)).length ≤
      after.length + 2 := by
    generalize breaksAfter seen before = count
    simp only [squeezeChars, ↓reduceIte]
    split
    · split
      · split
        · omega
        · simpa using length_squeezeChars_le (count + 1 + 1) after
      · simpa using Nat.le_succ_of_le (length_squeezeChars_le (count + 1) after)
    · exact Nat.le_add_right_of_le (length_squeezeChars_le count after)
  simp only [List.append_assoc, List.cons_append, List.nil_append, squeezeChars_append,
    List.length_append, List.length_cons] at start few ⊢
  omega

/-- What has been squeezed holds no three line feeds in a row. -/
theorem not_infix_squeeze (s : String) : ¬ ['\n', '\n', '\n'] <:+: (squeeze s).toList := by
  intro run
  have shorter := length_squeezeChars_lt run 0
  rw [toList_squeeze, squeezeChars_squeezeChars (Nat.le_refl 0)] at shorter
  exact Nat.lt_irrefl _ shorter

/-! ## Maximal runs -/

variable {seen : Nat} {run cs : List Char} {runs : List (List Char)}

/-- The text parted into maximal runs, of line feeds or of other characters. -/
def breakRuns (cs : List Char) : List (List Char) :=
  cs.splitBy fun c next => (c == '\n') == (next == '\n')

/-- A run of line feeds, cut to two at most; any other run as it is. -/
def squeezeRun (run : List Char) : List Char :=
  if '\n' ∈ run then List.replicate (min run.length 2) '\n' else run

/-- The line feeds before a text do not matter if it does not start with one. -/
theorem squeezeChars_of_head?_ne (starts : cs.head? ≠ some '\n') :
    squeezeChars seen cs = squeezeChars 0 cs := by
  cases cs with
  | nil => rfl
  | cons c rest =>
    have other : c ≠ '\n' := fun same => starts (congrArg some same)
    rw [squeezeChars, squeezeChars, if_neg other, if_neg other]

theorem squeezeChars_unbroken (unbroken : '\n' ∉ run) (cs : List Char) :
    squeezeChars 0 (run ++ cs) = run ++ squeezeChars 0 cs := by
  induction run with
  | nil => rfl
  | cons c rest ih =>
    have other : '\n' ≠ c := List.ne_of_not_mem_cons unbroken
    rw [List.cons_append, squeezeChars, if_neg other.symm,
      ih (List.not_mem_of_not_mem_cons unbroken), List.cons_append]

theorem squeezeChars_breaks (count : Nat) (starts : cs.head? ≠ some '\n') :
    squeezeChars seen (List.replicate count '\n' ++ cs) =
      List.replicate (min count (2 - seen)) '\n' ++ squeezeChars 0 cs := by
  induction count generalizing seen with
  | zero => simpa using squeezeChars_of_head?_ne starts
  | succ count ih =>
    rw [List.replicate_succ, List.cons_append, squeezeChars, if_pos rfl]
    by_cases few : seen < 2
    · have fewer : min (count + 1) (2 - seen) = min count (2 - (seen + 1)) + 1 := by omega
      rw [if_pos few, ih, fewer, List.replicate_succ, List.cons_append]
    · have none : min (count + 1) (2 - seen) = min count (2 - seen) := by omega
      rw [if_neg few, ih, none]

/-- The characters of a run are line feeds all, or none of them is. -/
theorem alike_of_mem_breakRuns (member : run ∈ breakRuns cs) :
    ∀ c ∈ run, ∀ next ∈ run, (c == '\n') = (next == '\n') := by
  obtain ⟨start, parted⟩ := alternating_splitBy (· == '\n') cs
  obtain ⟨kind, alike⟩ := parted.exists_kind_of_mem member
  intro c inRun next nextInRun
  rw [alike c inRun, alike next nextInRun]

/-- Runs that are parted from each other can be squeezed one by one. -/
theorem squeezeChars_flatten
    (alike : ∀ run ∈ runs, ∀ c ∈ run, ∀ next ∈ run, (c == '\n') = (next == '\n'))
    (apart : runs.IsChain fun run next =>
      ∃ filled nextFilled, ((run.getLast filled == '\n') == (next.head nextFilled == '\n')) = false) :
    squeezeChars 0 runs.flatten = runs.flatMap squeezeRun := by
  induction runs with
  | nil => rfl
  | cons run others ih =>
    obtain ⟨alikeInRun, alikeLater⟩ := List.forall_mem_cons.mp alike
    obtain ⟨follows, apartLater⟩ := List.isChain_cons.mp apart
    rw [List.flatten_cons, List.flatMap_cons, squeezeRun, ← ih alikeLater apartLater]
    by_cases feed : '\n' ∈ run
    · have breaks : run = List.replicate run.length '\n' := by
        apply List.eq_replicate_of_mem
        intro c member
        simpa using alikeInRun c member '\n' feed
      have starts : others.flatten.head? ≠ some '\n' := by
        cases others with
        | nil => simp
        | cons next more =>
          obtain ⟨filled, nextFilled, differ⟩ := follows next rfl
          have last := alikeInRun _ (List.getLast_mem filled) '\n' feed
          rw [List.flatten_cons, List.head?_append_of_ne_nil _ nextFilled,
            List.head?_eq_some_head nextFilled]
          intro same
          simp [last, Option.some.inj same] at differ
      rw [if_pos feed]
      conv_lhs => rw [breaks]
      exact squeezeChars_breaks run.length starts
    · rw [if_neg feed]
      exact squeezeChars_unbroken feed _

/-- **Line breaks that are cut.** Of every maximal run of line feeds two are kept at most, and nothing
else is changed. So there are no three in a row in what comes out, cutting once more changes
nothing, and it does not matter whether two texts are cut before they are put together. -/
theorem squeeze_cuts_maximal_runs (first second : String) :
    (squeeze first).toList = (breakRuns first.toList).flatMap squeezeRun ∧
    ¬ ['\n', '\n', '\n'] <:+: (squeeze first).toList ∧
    squeeze (squeeze first) = squeeze first ∧
    squeeze (squeeze first ++ squeeze second) = squeeze (first ++ second) := by
  refine ⟨?_, not_infix_squeeze first, squeeze_squeeze first, squeeze_append_squeeze first second⟩
  have parted : (breakRuns first.toList).flatten = first.toList := List.flatten_splitBy _ _
  have apart := List.isChain_getLast_head_splitBy
    (fun c next => (c == '\n') == (next == '\n')) first.toList
  calc (squeeze first).toList
      = squeezeChars 0 (breakRuns first.toList).flatten := by rw [parted, toList_squeeze]
    _ = _ := squeezeChars_flatten (fun run member => alike_of_mem_breakRuns member) apart

example : squeeze "\n\n\na\n\n\n\nb\n" = "\n\na\n\nb\n" := by decide

end MemberDocs.Text
