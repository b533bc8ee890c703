import Parley.Proofs.Number.Numerals
import Parley.Proofs.Text.Cuts

/-!
# Spellings

All the texts that are read as one integer: a sign, digits of any script with single underscores between them, and
blanks around them.

* `Grouped`: rows of digits with underscores, and the digits in them.
* `Denotes`: the texts that spell an integer.
* `magnitudeFrom_iff`: digits are read in groups.
* `natAbs_lt_of_denotes`: what is spelled can also be written.

`read_trim_iff` closes the file: a text is read as the integer that it spells, and as no other.
-/

namespace Parley

open Text

namespace Numeral

variable {t u ds : Text} {c : Char} {n : Int}

/-- A row of digits of any script, in which two digits may have an underscore between them, and its digits alone. -/
inductive Grouped : Text → Text → Prop
  | last {c : Char} (digit : isDecimal c = true) : Grouped [c] [c]
  | next {c : Char} {t ds : Text} (digit : isDecimal c = true) (rest : Grouped t ds) : Grouped (c :: t) (c :: ds)
  | apart {c : Char} {t ds : Text} (digit : isDecimal c = true) (rest : Grouped t ds) :
    Grouped (c :: '_' :: t) (c :: ds)

/-- A text spells an integer, with blanks around it. -/
inductive Denotes : Text → Int → Prop
  | plain {front t ds back : Text} (before : Blank front) (digits : Grouped t ds) (few : ds.length ≤ digitLimit)
    (behind : Blank back) : Denotes (front ++ t ++ back) (Literal.ofDigits ds)
  | plus {front t ds back : Text} (before : Blank front) (digits : Grouped t ds) (few : ds.length ≤ digitLimit)
    (behind : Blank back) : Denotes (front ++ '+' :: t ++ back) (Literal.ofDigits ds)
  | minus {front t ds back : Text} (before : Blank front) (digits : Grouped t ds) (few : ds.length ≤ digitLimit)
    (behind : Blank back) : Denotes (front ++ '-' :: t ++ back) (-Literal.ofDigits ds)

/-! ## Groups of digits -/

/-- There is no blank among grouped digits. -/
lemma Grouped.solid (grouped : Grouped t ds) : ∀ c ∈ t, isBlank c = false := by
  induction grouped with
  | last digit => exact List.forall_mem_singleton.mpr (isBlank_of_isDecimal digit)
  | next digit _ ih => exact List.forall_mem_cons.mpr ⟨isBlank_of_isDecimal digit, ih⟩
  | apart digit _ ih => exact List.forall_mem_cons.mpr ⟨isBlank_of_isDecimal digit, List.forall_mem_cons.mpr ⟨rfl, ih⟩⟩

/-- There is no sign in grouped digits. -/
lemma Grouped.splitSign_eq (grouped : Grouped t ds) : splitSign t = (false, t) := by
  cases grouped with
  | last digit | next digit | apart digit => exact splitSign_of_digit digit _

/-- What the digits of a row come to, and their number, after those before. -/
def tally (value count : Nat) (ds : Text) : Nat × Nat :=
  (ds.foldl (fun n c => 10 * n + (digitValue? c).getD 0) value, count + ds.length)

/-- The first digit is added to what has been read before it. -/
lemma tally_cons (value count : Nat) (c : Char) (ds : Text) :
    tally value count (c :: ds) = tally (10 * value + (digitValue? c).getD 0) (count + 1) ds := by
  rw [tally, tally, List.length_cons, Nat.add_right_comm, Nat.add_assoc]
  rfl

/-- Grouped digits are read as the digits without what groups them. -/
lemma magnitudeFrom_of_grouped (grouped : Grouped t ds) (value count : Nat) (afterDigit : Bool) :
    magnitudeFrom value count afterDigit t = some (tally value count ds) := by
  induction grouped generalizing value count afterDigit with
  | last digit =>
    rw [magnitudeFrom_cons digit]
    rfl
  | next digit _ ih => rw [magnitudeFrom_cons digit, ih, tally_cons]
  | apart digit _ ih =>
    rw [magnitudeFrom_cons digit, magnitudeFrom, if_pos rfl, if_pos rfl, ih, tally_cons]

/-- Behind a digit, what is left may also be nothing, or begin with an underscore. -/
lemma grouped_of_magnitudeFrom {value count : Nat} {afterDigit : Bool} {r : Nat × Nat}
    (h : magnitudeFrom value count afterDigit t = some r) :
    (∃ ds, Grouped t ds ∧ r = tally value count ds) ∨ afterDigit = true ∧
      (t = [] ∧ r = (value, count) ∨ ∃ u ds, t = '_' :: u ∧ Grouped u ds ∧ r = tally value count ds) := by
  induction t generalizing value count afterDigit with
  | nil =>
    unfold magnitudeFrom at h
    split at h
    · rename_i digit
      cases h
      exact .inr ⟨digit, .inl ⟨rfl, rfl⟩⟩
    · cases h
  | cons c t ih =>
    unfold magnitudeFrom at h
    split at h
    · rename_i underscore
      split at h
      · rename_i digit
        obtain ⟨ds, grouped, rfl⟩ | ⟨wrong, -⟩ := ih h
        · exact .inr ⟨digit, .inr ⟨t, ds, by rw [underscore], grouped, rfl⟩⟩
        · cases wrong
      · cases h
    · split at h
      · rename_i d value'
        have digit : isDecimal c = true := Option.isSome_iff_exists.mpr ⟨d, value'⟩
        have first : 10 * value + d = 10 * value + (digitValue? c).getD 0 := by rw [value', Option.getD_some]
        rw [first] at h
        refine .inl ?_
        obtain ⟨ds, grouped, rfl⟩ | ⟨-, ⟨rfl, rfl⟩ | ⟨u, ds, rfl, grouped, rfl⟩⟩ := ih h
        · exact ⟨c :: ds, .next digit grouped, (tally_cons value count c ds).symm⟩
        · exact ⟨[c], .last digit, rfl⟩
        · exact ⟨c :: ds, .apart digit grouped, (tally_cons value count c ds).symm⟩
      · cases h

/-- Digits are read in groups. -/
lemma magnitudeFrom_iff {value count : Nat} :
    magnitudeFrom 0 0 false t = some (value, count) ↔ ∃ ds, Grouped t ds ∧ value = Literal.ofDigits ds ∧
      count = ds.length := by
  constructor
  · intro h
    obtain ⟨ds, grouped, e⟩ | ⟨wrong, -⟩ := grouped_of_magnitudeFrom h
    · obtain ⟨rfl, rfl⟩ := Prod.mk.inj e
      exact ⟨ds, grouped, rfl, Nat.zero_add _⟩
    · cases wrong
  · rintro ⟨ds, grouped, rfl, rfl⟩
    rw [magnitudeFrom_of_grouped grouped, tally, Nat.zero_add]
    rfl

/-- What a text denotes has no more digits than the limit allows. -/
lemma natAbs_lt_of_denotes (denotes : Denotes t n) : n.natAbs < 10 ^ digitLimit := by
  have bound {ds : Text} (few : ds.length ≤ digitLimit) : Literal.ofDigits ds < 10 ^ digitLimit :=
    (ofDigits_lt ds).trans_le (Nat.pow_le_pow_right (by decide) few)
  cases denotes with
  | plain _ _ few | plus _ _ few => exact bound few
  | minus _ _ few =>
    rw [Int.natAbs_neg]
    exact bound few

/-! ## Blanks -/

/-- A text with no blank in front has no spacing in front. -/
lemma dropWhile_isSpacing (h : t.dropWhile isBlank = t) : t.dropWhile isSpacing = t := by
  refine List.dropWhile_eq_self_iff.mpr fun long spacing => ?_
  have solid := List.dropWhile_eq_self_iff.mp h long
  rw [isSpacing_of_isBlank (Bool.eq_false_iff.mpr solid)] at spacing
  cases spacing

/-- No spacing is left around a trimmed text. -/
lemma trimSpacing_trim (t : Text) : trimSpacing (trim t) = trim t := by
  obtain ⟨front, back⟩ := trimmed_ends (trim_trim t)
  have turned : (trim t).reverse.dropWhile isBlank = (trim t).reverse := by
    rw [← List.reverse_reverse ((trim t).reverse.dropWhile isBlank)]
    exact congrArg List.reverse back
  rw [trimSpacing, trimBy, dropWhile_isSpacing front, dropWhile_isSpacing turned, List.reverse_reverse]

/-! ## Reading -/

/-- Grouped digits with a sign or without are read with blanks around them, if they are few enough. -/
lemma read_of_splitSign {front back body : Text} {negative : Bool} (before : Blank front) (behind : Blank back)
    (solid : ∀ c ∈ t, isBlank c = false) (split : splitSign t = (negative, body)) (grouped : Grouped body ds)
    (few : ds.length ≤ digitLimit) : read (trim (front ++ t ++ back)) =
      .ok (if negative then -(Literal.ofDigits ds : Int) else Literal.ofDigits ds) := by
  have whole : trim (front ++ t ++ back) = t := by
    rw [List.append_assoc, trim_blank_append before, trim_append_blank behind]
    exact trimBy_eq solid
  rw [read, trimSpacing_trim, whole, split]
  dsimp only
  rw [magnitudeFrom_iff.mpr ⟨ds, grouped, rfl, rfl⟩]
  exact if_neg (Nat.not_lt.mpr few)

/-- A text is read as the integer that it spells, and as no other. -/
lemma read_trim_iff : read (trim t) = .ok n ↔ Denotes t n := by
  constructor
  · intro h
    unfold read at h
    rw [trimSpacing_trim] at h
    obtain ⟨front, back, before, behind, whole⟩ := exists_of_trim t
    generalize split : splitSign (trim t) = parts at h
    obtain ⟨negative, body⟩ := parts
    dsimp only at h
    cases magnitude : magnitudeFrom 0 0 false body with
    | none =>
      rw [magnitude] at h
      cases h
    | some r =>
      obtain ⟨value, count⟩ := r
      obtain ⟨ds, grouped, rfl, rfl⟩ := magnitudeFrom_iff.mp magnitude
      rw [magnitude] at h
      dsimp only at h
      split at h
      · cases h
      · rename_i few
        rw [whole]
        -- The sign in front decides which of the three spellings it is.
        unfold splitSign at split
        split at split
        · rename_i e
          cases split
          cases h
          rw [e]
          exact .minus before grouped (Nat.not_lt.mp few) behind
        · rename_i e
          cases split
          cases h
          rw [e]
          exact .plus before grouped (Nat.not_lt.mp few) behind
        · cases split
          cases h
          exact .plain before grouped (Nat.not_lt.mp few) behind
  · intro denotes
    cases denotes with
    | plain before grouped few behind =>
      exact read_of_splitSign before behind grouped.solid grouped.splitSign_eq grouped few
    | plus before grouped few behind | minus before grouped few behind =>
      exact read_of_splitSign before behind (List.forall_mem_cons.mpr ⟨by decide, grouped.solid⟩) rfl grouped few

end Numeral

end Parley
