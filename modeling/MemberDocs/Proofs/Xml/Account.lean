import MemberDocs.Xml.Account
import Mathlib.Data.List.SplitBy
import Mathlib.Data.Nat.Log

/-! # What the account allows

Rounding keeps the order of numbers (`nearestSingle_mono`) and doubles or halves none, so that more text
for references never leads back below the limit (`isExceeded_add_indirect`), and a document that has given
less for references than its source has is far from it. That is said by how many bytes are to spare
(`Account.Spares`): parts of the source add to them (`chargeParts_direct`).
-/

namespace MemberDocs.Xml

/-! ## Rounding -/

theorem roundHalfEven_mono {m n unit : Nat} (le : m ≤ n) :
    roundHalfEven m unit ≤ roundHalfEven n unit := by
  have quotients : m / unit ≤ n / unit := Nat.div_le_div_right le
  unfold roundHalfEven
  dsimp only
  by_cases same : m / unit = n / unit
  · have parts := Nat.div_add_mod m unit
    have parts' := Nat.div_add_mod n unit
    rw [same] at parts ⊢
    have rests : m % unit ≤ n % unit := by omega
    split <;> split <;> simp_all
    omega
  · split <;> split <;> omega

theorem roundHalfEven_mul {unit : Nat} (positive : 0 < unit) (n : Nat) :
    roundHalfEven (n * unit) unit = n := by
  unfold roundHalfEven
  simp [positive]

/-- A number is rounded to a multiple of a power of two, and so is none past the next power of two. -/
theorem nearestSingle_bounds {n : Nat} (nonzero : n ≠ 0) :
    Nat.pow 2 n.log2 ≤ nearestSingle n ∧ nearestSingle n ≤ Nat.pow 2 (n.log2 + 1) := by
  have low : 2 ^ n.log2 ≤ n := Nat.log2_self_le nonzero
  have high : n ≤ 2 ^ (n.log2 + 1) := Nat.lt_log2_self.le
  have positive : 0 < 2 ^ (n.log2 - 23) := Nat.two_pow_pos _
  have power (e : Nat) (le : n.log2 - 23 ≤ e) :
      2 ^ e = 2 ^ (e - (n.log2 - 23)) * 2 ^ (n.log2 - 23) := by
    rw [← Nat.pow_add, Nat.sub_add_cancel le]
  have exact (e : Nat) (le : n.log2 - 23 ≤ e) :
      roundHalfEven (2 ^ e) (2 ^ (n.log2 - 23)) * 2 ^ (n.log2 - 23) = 2 ^ e := by
    rw [power e le, roundHalfEven_mul positive]
  change 2 ^ n.log2 ≤ roundHalfEven n (2 ^ (n.log2 - 23)) * 2 ^ (n.log2 - 23) ∧
    roundHalfEven n (2 ^ (n.log2 - 23)) * 2 ^ (n.log2 - 23) ≤ 2 ^ (n.log2 + 1)
  constructor
  · rw [← exact n.log2 (by omega)]
    exact Nat.mul_le_mul_right _ (roundHalfEven_mono low)
  · rw [← exact (n.log2 + 1) (by omega)]
    exact Nat.mul_le_mul_right _ (roundHalfEven_mono high)

@[simp] theorem nearestSingle_zero : nearestSingle 0 = 0 := by decide

theorem nearestSingle_mono {m n : Nat} (le : m ≤ n) : nearestSingle m ≤ nearestSingle n := by
  by_cases zero : m = 0
  · simp [zero]
  have nonzero : n ≠ 0 := by omega
  have order : m.log2 ≤ n.log2 :=
    (Nat.le_log2 nonzero).mpr ((Nat.log2_self_le zero).trans le)
  rcases Nat.lt_or_eq_of_le order with less | same
  · calc nearestSingle m
      _ ≤ Nat.pow 2 (m.log2 + 1) := (nearestSingle_bounds zero).2
      _ ≤ Nat.pow 2 n.log2 := Nat.pow_le_pow_right (by decide) less
      _ ≤ nearestSingle n := (nearestSingle_bounds nonzero).1
  · unfold nearestSingle
    rw [same]
    exact Nat.mul_le_mul_right _ (roundHalfEven_mono le)

theorem nearestSingle_le (n : Nat) : nearestSingle n ≤ 2 * n := by
  by_cases zero : n = 0
  · simp [zero]
  · have low := Nat.log2_self_le zero
    have high : _ ≤ 2 ^ (n.log2 + 1) := (nearestSingle_bounds zero).2
    rw [Nat.pow_succ] at high
    omega

theorem le_nearestSingle (n : Nat) : n ≤ 2 * nearestSingle n := by
  by_cases zero : n = 0
  · simp [zero]
  · have high := @Nat.lt_log2_self n
    have low : 2 ^ n.log2 ≤ _ := (nearestSingle_bounds zero).1
    rw [Nat.pow_succ] at high
    omega

/-! ## Sizes -/

namespace Scheme

variable {scheme : Scheme}

theorem foldl_bytes (n : Nat) (text : List Char) :
    text.foldl (fun n c => n + scheme.bytes c) n = n + scheme.size text := by
  unfold size
  induction text generalizing n with
  | nil => rfl
  | cons c rest ih =>
    rw [List.foldl_cons, List.foldl_cons, ih, ih (0 + scheme.bytes c)]
    omega

@[simp] theorem size_nil : scheme.size [] = 0 := rfl

@[simp] theorem size_cons (c : Char) (rest : List Char) :
    scheme.size (c :: rest) = scheme.bytes c + scheme.size rest := by
  rw [size, List.foldl_cons, foldl_bytes, Nat.zero_add]

@[simp] theorem size_append (first second : List Char) :
    scheme.size (first ++ second) = scheme.size first + scheme.size second := by
  induction first with
  | nil => simp
  | cons c rest ih => simp [ih, Nat.add_assoc]

/-- Every character takes a byte. -/
theorem length_le_size (text : List Char) : text.length ≤ Scheme.utf8.size text := by
  induction text with
  | nil => simp
  | cons c rest ih =>
    have positive : 0 < c.utf8Size := c.utf8Size_pos
    have bytes : Scheme.utf8.bytes c = c.utf8Size := rfl
    rw [size_cons, List.length_cons, bytes]
    omega

end Scheme

/-! ## The limit -/

namespace Account

variable {account : Account} {tally : Tally} {scheme : Scheme} {size : Nat}

@[simp] theorem add_counted : account.add .counted size = account := rfl

theorem add_add (first second : Nat) :
    (account.add tally first).add tally second = account.add tally (first + second) := by
  cases tally <;> simp [add, Nat.add_assoc]

/-- What is too much stays too much, however much comes out of references. -/
theorem isExceeded_add_indirect (exceeded : account.isExceeded) :
    (account.add .indirect size).isExceeded := by
  have more := @nearestSingle_mono account.total (account.add .indirect size).total (by
    simp only [total, add]
    omega)
  have same : (account.add .indirect size).direct = account.direct := rfl
  simp only [isExceeded, Bool.and_eq_true, decide_eq_true_eq, same] at exceeded ⊢
  simp only [total, add] at exceeded more ⊢
  omega

/-- The source has had more bytes than stand for references, and so many are to spare. -/
def Spares (account : Account) (size : Nat) : Prop :=
  account.indirect + size ≤ account.direct

theorem Spares.le {less : Nat} (spares : account.Spares size) (le : less ≤ size) :
    account.Spares less := by
  unfold Spares at *
  omega

theorem Spares.not_exceeded (spares : account.Spares size) : account.isExceeded = false := by
  have above := nearestSingle_le account.total
  have below := le_nearestSingle account.direct
  rw [Bool.eq_false_iff]
  intro exceeded
  simp only [isExceeded, Bool.and_eq_true, decide_eq_true_eq] at exceeded
  unfold Spares at spares
  unfold total at above exceeded
  omega

theorem Spares.add_direct (spares : account.Spares size) (more : Nat) :
    (account.add .direct more).Spares (size + more) := by
  unfold Spares add at *
  dsimp only
  omega

theorem Spares.add_indirect {used : Nat} (spares : account.Spares (size + used)) :
    (account.add .indirect used).Spares size := by
  unfold Spares add at *
  dsimp only
  omega

theorem charge_eq (counts : tally ≠ .counted) :
    account.charge tally size =
      if (account.add tally size).isExceeded then none else some (account.add tally size) := by
  unfold charge
  simp [counts]

theorem Spares.charge_direct (spares : account.Spares size) (more : Nat) :
    account.charge .direct more = some (account.add .direct more) := by
  rw [charge_eq (by decide), (spares.add_direct more).not_exceeded]
  rfl

/-- Parts of the source add to what is to spare. -/
theorem Spares.chargeParts_direct (spares : account.Spares size)
    (parts : List (List Char × Position)) :
    ∃ after, account.chargeParts .direct scheme parts = .ok after ∧
      after.Spares (size + scheme.size (parts.map Prod.fst).flatten) := by
  induction parts generalizing account size with
  | nil => exact ⟨account, rfl, spares⟩
  | cons part rest ih =>
    obtain ⟨after, charged, spared⟩ := ih (spares.add_direct (scheme.size part.1))
    refine ⟨after, ?_, ?_⟩
    · rw [chargeParts, spares.charge_direct]
      exact charged
    · rwa [List.map_cons, List.flatten_cons, Scheme.size_append, ← Nat.add_assoc]

/-- What is counted can only be refused for being too much. -/
theorem fault_of_chargeParts {parts : List (List Char × Position)} {fault : PlacedFault}
    (failed : account.chargeParts tally scheme parts = .error fault) :
    fault.1 = .amplification := by
  induction parts generalizing account with
  | nil => cases failed
  | cons part rest ih =>
    rw [chargeParts] at failed
    split at failed
    next =>
      obtain rfl := Except.error.inj failed
      rfl
    next => exact ih failed

end Account

/-! ## Parts of a source -/

theorem flatten_dataParts (scheme : Scheme) (inSection : Bool) (source : List Char) :
    (dataParts scheme inSection source).flatten = source :=
  List.flatten_splitBy _ source


@[simp] theorem map_fst_placeParts (parts : List (List Char)) (position : Position) :
    (placeParts position parts).map Prod.fst = parts := by
  induction parts generalizing position with
  | nil => rfl
  | cons part rest ih => rw [placeParts, List.map_cons, ih]

end MemberDocs.Xml
