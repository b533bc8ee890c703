import Mathlib.Algebra.Group.Nat.Defs
import Mathlib.Data.List.Basic
import Mathlib.Data.List.Induction
import Mathlib.Data.List.TakeWhile
import Mathlib.Tactic.Lemma
import Parley.Number.Literal
import Parley.Variables.Basic

/-!
# Numerals and counters

Which texts are read as integers, and that the shortest numeral of an integer is one of them. So a counter, which is
kept as a numeral, can be read and moved on.

* `Numeral.Spells`: a sign and a row of digits, which spell an integer.
* `Numeral.read_of_spells`: what is spelled is read.
* `Numeral.ofDigits_lt`: a row of digits spells less than the power of ten above it.
* `Counter`: a counter that has been moved on so many times.

`Variables.counter_countVisit` and `Variables.get?_countVisit` say that a counter that is moved on goes up by one, and no
other variable changes. `Variables.countVisit?_eq_none` closes the file: at the largest number that can be written a
counter cannot be moved on.
-/

namespace Parley

namespace Text

/-- Nothing is trimmed off a text with nothing to trim in it. -/
lemma trimBy_eq {p : Char → Bool} {t : Text} (clear : ∀ c ∈ t, p c = false) : trimBy p t = t := by
  have untrimmed {u : Text} (clear : ∀ c ∈ u, p c = false) : u.dropWhile p = u := by
    refine List.dropWhile_eq_self_iff.mpr fun long => ?_
    rw [clear _ (List.getElem_mem long)]
    exact Bool.noConfusion
  have reversed : ∀ c ∈ t.reverse, p c = false := fun c mem => clear c (List.mem_reverse.mp mem)
  rw [trimBy, untrimmed clear, untrimmed reversed, List.reverse_reverse]

/-- A digit is no blank. -/
lemma isBlank_of_isDecimal {c : Char} (digit : isDecimal c = true) : isBlank c = false := by
  have clear : zeroDigits.all (fun z => (List.range 10).all fun i => !isBlank (Char.ofNat (z + i))) = true := by
    decide +kernel
  obtain ⟨d, value⟩ := Option.isSome_iff_exists.mp digit
  obtain ⟨z, found, -⟩ := Option.map_eq_some_iff.mp value
  have within := List.find?_some found
  rw [Bool.and_eq_true, decide_eq_true_eq, decide_eq_true_eq] at within
  have near : c.toNat - z ∈ List.range 10 := List.mem_range.mpr (by omega)
  have here := List.all_eq_true.mp (List.all_eq_true.mp clear z (List.mem_of_find?_eq_some found)) _ near
  rw [Nat.add_sub_cancel' within.1, Char.ofNat_toNat] at here
  simpa using here

/-- What is no blank is no spacing. -/
lemma isSpacing_of_isBlank {c : Char} (clear : isBlank c = false) : isSpacing c = false := by
  rw [isSpacing, clear, Bool.false_and]

/-- The digits of the shortest numerals. -/
lemma digitValue?_of_isDigit {c : Char} (digit : c.isDigit = true) :
    digitValue? c = some (c.toNat - '0'.toNat) := by
  have first : (decide (0x30 ≤ c.toNat) && decide (c.toNat ≤ 0x30 + 9)) = true := by
    simpa [Char.isDigit, UInt32.le_iff_toNat_le] using digit
  have zeros : zeroDigits = 0x30 :: zeroDigits.tail := rfl
  rw [digitValue?, zeros, List.find?_cons, first]
  rfl

end Text

namespace Numeral

open Text

variable {ds : Text} {t : Text} {n : Int}

/-- Digits that can be read as a number. -/
structure Row (ds : Text) : Prop where
  nonempty : ds ≠ []
  digits : ∀ c ∈ ds, isDecimal c = true
  few : ds.length ≤ digitLimit

/-- Digits of any script spell an integer, with a sign in front if need be. -/
inductive Spells : Text → Int → Prop
  | plain {ds : Text} (row : Row ds) : Spells ds (Literal.ofDigits ds)
  | plus {ds : Text} (row : Row ds) : Spells ('+' :: ds) (Literal.ofDigits ds)
  | minus {ds : Text} (row : Row ds) : Spells ('-' :: ds) (-Literal.ofDigits ds)

/-! ## Reading -/

/-- A digit is other than what is no digit. -/
lemma ne_of_isDecimal {c d : Char} (digit : isDecimal c = true) (other : isDecimal d = false) : c ≠ d := by
  rintro rfl
  rw [digit] at other
  cases other

/-- There is no sign in front of a digit. -/
lemma splitSign_of_digit {c : Char} (digit : isDecimal c = true) (t : Text) : splitSign (c :: t) = (false, c :: t) := by
  unfold splitSign
  split
  · rename_i e
    exact absurd (List.cons.inj e).1 (ne_of_isDecimal digit (by decide))
  · rename_i e
    exact absurd (List.cons.inj e).1 (ne_of_isDecimal digit (by decide))
  · rfl

/-- A digit is read by shifting the value before it by one place. -/
lemma magnitudeFrom_cons {c : Char} (digit : isDecimal c = true) (value count : Nat) (afterDigit : Bool) :
    magnitudeFrom value count afterDigit (c :: t) =
      magnitudeFrom (10 * value + (digitValue? c).getD 0) (count + 1) true t := by
  obtain ⟨d, here⟩ := Option.isSome_iff_exists.mp digit
  have plain : c ≠ '_' := ne_of_isDecimal digit (by decide)
  rw [magnitudeFrom, if_neg plain, here]
  rfl

/-- Digits are read from left to right and counted. -/
lemma magnitudeFrom_digits (digits : ∀ c ∈ ds, isDecimal c = true) (value count : Nat) (afterDigit : Bool)
    (started : ds ≠ [] ∨ afterDigit = true) : magnitudeFrom value count afterDigit ds =
      .some (ds.foldl (fun n c => 10 * n + (digitValue? c).getD 0) value, count + ds.length) := by
  induction ds generalizing value count afterDigit with
  | nil =>
    rw [started.resolve_left (absurd rfl)]
    rfl
  | cons c ds ih =>
    obtain ⟨digit, digits⟩ := List.forall_mem_cons.mp digits
    rw [magnitudeFrom_cons digit, ih digits _ _ true (.inr rfl), List.foldl_cons, List.length_cons]
    rw [Nat.add_comm ds.length, Nat.add_assoc]

/-- A row of digits is read as its value and its length. -/
lemma magnitude_of_row (row : Row ds) : magnitudeFrom 0 0 false ds = some (Literal.ofDigits ds, ds.length) := by
  rw [magnitudeFrom_digits row.digits 0 0 false (.inl row.nonempty), Nat.zero_add]
  rfl

/-- There is no sign in a row of digits. -/
lemma splitSign_of_row (row : Row ds) : splitSign ds = (false, ds) := by
  cases ds with
  | nil => rfl
  | cons c ds => exact splitSign_of_digit (row.digits c List.mem_cons_self) ds

/-- There is no blank in what is spelled. -/
lemma Spells.isBlank (spells : Spells t n) {c : Char} (mem : c ∈ t) : Text.isBlank c = false := by
  cases spells with
  | plain row => exact isBlank_of_isDecimal (row.digits c mem)
  | plus row | minus row =>
    cases mem with
    | head => decide
    | tail _ mem => exact isBlank_of_isDecimal (row.digits c mem)

/-- What is spelled is a row of digits, with a sign or without. -/
lemma Spells.splitSign_eq (spells : Spells t n) : ∃ negative ds, Row ds ∧ splitSign t = (negative, ds) ∧
    n = if negative then -(Literal.ofDigits ds : Int) else Literal.ofDigits ds := by
  cases spells with
  | plain row => exact ⟨false, _, row, splitSign_of_row row, rfl⟩
  | plus row => exact ⟨false, _, row, rfl, rfl⟩
  | minus row => exact ⟨true, _, row, rfl, rfl⟩

/-- An integer that is spelled is read. -/
theorem read_of_spells (spells : Spells t n) : read t = .ok n := by
  have untrimmed : trimSpacing t = t := trimBy_eq fun c mem => isSpacing_of_isBlank (spells.isBlank mem)
  obtain ⟨negative, ds, row, split, rfl⟩ := spells.splitSign_eq
  rw [read, untrimmed, split]
  dsimp only
  rw [magnitude_of_row row]
  dsimp only
  rw [if_neg (Nat.not_lt.mpr row.few)]

/-! ## Writing -/

/-- A natural number has the value of its digits. -/
lemma ofDigits_ofNat (n : Nat) : Literal.ofDigits (ofNat n) = n := by
  have same : ∀ m c, c ∈ ofNat n → 10 * m + (digitValue? c).getD 0 = 10 * m + (c.toNat - '0'.toNat) := by
    intro m c mem
    rw [digitValue?_of_isDigit (Nat.isDigit_of_mem_toDigits (by decide) (by decide) mem), Option.getD_some]
  refine Eq.trans ?_ (Nat.ofDigitChars_toDigits (b := 10) (by decide) (by decide))
  exact List.foldl_ext _ _ _ same

/-- The digits of a natural number are a row, if they are few enough. -/
lemma row_ofNat {n : Nat} (few : (ofNat n).length ≤ digitLimit) : Row (ofNat n) where
  nonempty := Nat.toDigits_ne_nil
  digits c mem := by
    rw [isDecimal, digitValue?_of_isDigit (Nat.isDigit_of_mem_toDigits (by decide) (by decide) mem)]
    rfl
  few := few

/-- A natural number is spelled by its digits, if they are few enough. -/
lemma spells_ofNat {n : Nat} (few : (ofNat n).length ≤ digitLimit) : Spells (ofNat n) n := by
  have spells := Spells.plain (row_ofNat few)
  rw [ofDigits_ofNat] at spells
  exact spells

/-- An integer is spelled by its sign and digits, if they are few enough. -/
lemma spells_ofInt (few : (ofNat n.natAbs).length ≤ digitLimit) : Spells (ofInt n) n := by
  cases n with
  | ofNat n => exact spells_ofNat few
  | negSucc n =>
    have spells := Spells.minus (row_ofNat (n := n + 1) few)
    rw [ofDigits_ofNat] at spells
    exact spells

/-! ## Long numerals -/

/-- A digit at the end adds its value to ten times the others. -/
lemma ofDigits_concat (ds : Text) (c : Char) :
    Literal.ofDigits (ds ++ [c]) = 10 * Literal.ofDigits ds + (digitValue? c).getD 0 := by
  unfold Literal.ofDigits
  rw [List.foldl_append]
  rfl

/-- A digit stands for less than ten. -/
lemma digitValue?_lt {c : Char} : (digitValue? c).getD 0 < 10 := by
  unfold digitValue?
  cases found : zeroDigits.find? fun z => decide (z ≤ c.toNat) && decide (c.toNat ≤ z + 9) with
  | none => exact Nat.succ_pos 9
  | some z =>
    have within := List.find?_some found
    rw [Bool.and_eq_true, decide_eq_true_eq, decide_eq_true_eq] at within
    rw [Option.map_some, Option.getD_some]
    omega

/-- Digits come to less than ten to the power of their number. -/
lemma ofDigits_lt (ds : Text) : Literal.ofDigits ds < 10 ^ ds.length := by
  induction ds using List.reverseRecOn with
  | nil => exact Nat.one_pos
  | append_singleton ds c ih =>
    have digit := digitValue?_lt (c := c)
    rw [ofDigits_concat, List.length_append, List.length_singleton, Nat.pow_succ]
    omega

/-- The digits of a number are few enough below ten to the power of the limit. -/
lemma length_ofNat_le_iff {m : Nat} : (ofNat m).length ≤ digitLimit ↔ m < 10 ^ digitLimit :=
  Nat.length_toDigits_le_iff (by decide) (by decide)

/-- An integer with few enough digits is written. -/
lemma write?_of_lt (lt : n.natAbs < 10 ^ digitLimit) : write? n = some (ofInt n) :=
  if_neg (Nat.not_lt.mpr (length_ofNat_le_iff.mpr lt))

/-- An integer with too many digits is not written. -/
lemma write?_eq_none (le : 10 ^ digitLimit ≤ n.natAbs) : write? n = none :=
  if_pos (Nat.not_le.mp fun few => Nat.not_le.mpr (length_ofNat_le_iff.mp few) le)

/-- A row of nines spells the largest number of its length. -/
lemma ofDigits_nines (k : Nat) : Literal.ofDigits (List.replicate k '9') + 1 = 10 ^ k := by
  induction k with
  | zero => rfl
  | succ k ih =>
    have nine : (digitValue? '9').getD 0 = 9 := by decide +kernel
    rw [List.replicate_succ', ofDigits_concat, nine, Nat.pow_succ]
    omega

/-- As many nines as the limit allows are a row. -/
lemma row_nines : Row (List.replicate digitLimit '9') where
  nonempty := List.ne_nil_of_length_pos (by rw [List.length_replicate]; exact Nat.succ_pos _)
  digits c mem := by
    rw [List.eq_of_mem_replicate mem]
    decide +kernel
  few := Nat.le_of_eq List.length_replicate

end Numeral

/-! ## Counters -/

/-- A counter that has been moved on so many times: missing at first, and a numeral from then on. -/
inductive Counter : Option Text → Nat → Prop
  | unset : Counter none 0
  | moved {k : Nat} (few : (Numeral.ofNat (k + 1)).length ≤ Numeral.digitLimit) :
    Counter (some (Numeral.ofNat (k + 1))) (k + 1)

namespace Variables

open Numeral

variable {vs vs' : Variables} {who key : Text} {k : Nat}

/-- What spells an integer is read as it, also with blanks around it. -/
lemma read_trim_of_spells {t : Text} {n : Int} (spells : Spells t n) : read (Text.trim t) = .ok n := by
  rw [Text.trim, Text.trimBy_eq fun c mem => spells.isBlank mem]
  exact read_of_spells spells

/-- The digits of a natural number are read as it, if they are few enough. -/
lemma read_trim_ofNat (few : (ofNat k).length ≤ digitLimit) : read (Text.trim (ofNat k)) = .ok (k : Int) :=
  read_trim_of_spells (spells_ofNat few)

/-- A counter counts as many visits as it stands at. -/
lemma visits_of_counter (h : Counter (vs.get? who) k) : vs.visits who = k := by
  unfold visits
  generalize vs.get? who = value at h
  cases h with
  | unset => rfl
  | moved few =>
    dsimp only
    rw [read_trim_ofNat few]

/-- The visits of a key are read from what is stored under it. -/
lemma visits_congr (same : vs'.get? who = vs.get? who) : vs'.visits who = vs.visits who := by
  unfold visits
  rw [same]

/-- A counter that is moved on goes up by one, if that can be written. -/
lemma counter_countVisit (h : Counter (vs.get? who) k) (counted : vs.countVisit? who = some vs') :
    Counter (vs'.get? who) (k + 1) := by
  unfold countVisit? at counted
  generalize vs.get? who = value at h counted
  cases h with
  | unset =>
    obtain rfl := Option.some.inj counted
    rw [Table.get?_set, if_pos rfl]
    exact Counter.moved (k := 0) (by decide)
  | @moved k few =>
    dsimp only at counted
    rw [read_trim_ofNat few] at counted
    obtain ⟨t, written, rfl⟩ := Option.map_eq_some_iff.mp counted
    unfold write? at written
    split at written
    · cases written
    · rename_i few
      obtain rfl := Option.some.inj written
      rw [Table.get?_set, if_pos rfl]
      exact .moved (Nat.not_lt.mp few)

/-- Other variables stay as they are when a counter is moved on. -/
lemma get?_countVisit (other : key ≠ who) (counted : vs.countVisit? key = some vs') : vs'.get? who = vs.get? who := by
  unfold countVisit? at counted
  split at counted
  · obtain rfl := Option.some.inj counted
    rw [Table.get?_set, if_neg other]
  · split at counted
    · obtain ⟨t, -, rfl⟩ := Option.map_eq_some_iff.mp counted
      rw [Table.get?_set, if_neg other]
    · obtain rfl := Option.some.inj counted
      rfl

/-- A counter cannot be moved on to a number with too many digits. -/
lemma countVisit?_eq_none {value : Text} (there : vs.get? who = some value) (spells : Spells value k)
    (long : 10 ^ digitLimit ≤ k + 1) : vs.countVisit? who = none := by
  unfold countVisit?
  rw [there]
  dsimp only
  rw [read_trim_of_spells spells]
  dsimp only
  rw [Option.map_eq_none_iff]
  exact write?_eq_none long

end Variables

end Parley
