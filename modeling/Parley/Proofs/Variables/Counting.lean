import Mathlib.Algebra.Group.Int.Defs
import Parley.Proofs.Number.Spellings
import Parley.Proofs.Variables.Merging

/-!
# Counting

A counter is a text like any other variable, and may hold anything when it is moved on.

* `visits_of_denotes`, `visits_of_not_denotes`: what counters stand at.
* `moved_on`: a counter that is set to a number stands at it, and nothing else is changed.

`countVisit?_exact` closes the file, with `overfull` on the largest number.
-/

namespace Parley.Variables

open Numeral

variable {vs : Variables} {key value : Text} {n : Int}

/-- A counter whose text denotes a number counts as many visits. -/
lemma visits_of_denotes (there : vs.get? key = some value) (denotes : Denotes value n) : vs.visits key = n := by
  unfold visits
  rw [there]
  dsimp only
  rw [read_trim_iff.mpr denotes]

/-- What spells no integer is not read. -/
lemma exists_unreadable (spellsNone : ∀ n, ¬ Denotes value n) : ∃ why, read (Text.trim value) = .error why := by
  cases h : read (Text.trim value) with
  | error why => exact ⟨why, rfl⟩
  | ok n => exact absurd (read_trim_iff.mp h) (spellsNone n)

/-- A counter whose text denotes no number counts none. -/
lemma visits_of_not_denotes (there : vs.get? key = some value) (spellsNone : ∀ n, ¬ Denotes value n) :
    vs.visits key = 0 := by
  obtain ⟨why, unread⟩ := exists_unreadable spellsNone
  unfold visits
  rw [there]
  dsimp only
  rw [unread]

/-- A counter that is set to a number stands at it, and no other variable is changed. -/
lemma moved_on (vs : Variables) (key : Text) (lt : n.natAbs < 10 ^ digitLimit) :
    visits (vs.set key (ofInt n)) key = n ∧ ∀ k ≠ key, (vs.set key (ofInt n)).get? k = vs.get? k := by
  refine ⟨?_, fun k other => ?_⟩
  · unfold visits
    rw [Table.get?_set, if_pos rfl]
    dsimp only
    rw [read_trim_of_spells (spells_ofInt (length_ofNat_le_iff.mpr lt))]
  · rw [Table.get?_set, if_neg (Ne.symm other)]

/-- A counter that is moved on goes up by one, whatever it holds, and neither another variable nor the order of them is
changed: a missing one begins with one, behind the others, and one that holds an integer goes on with the next. One that
holds anything else stands at zero, and is left alone. Only what comes after the largest number cannot be written. -/
theorem countVisit?_exact (vs : Variables) (key : Text) :
    (vs.get? key = none → ∃ vs', vs.countVisit? key = some vs' ∧ vs'.visits key = 1 ∧ vs'.keys = vs.keys ++ [key] ∧
      ∀ k ≠ key, vs'.get? k = vs.get? k) ∧
    ∀ value, vs.get? key = some value →
      (∀ n, Denotes value n → vs.visits key = n ∧
        (n + 1 ≠ 10 ^ digitLimit → ∃ vs', vs.countVisit? key = some vs' ∧ vs'.visits key = n + 1 ∧ vs'.keys = vs.keys ∧
          ∀ k ≠ key, vs'.get? k = vs.get? k) ∧
        (n + 1 = 10 ^ digitLimit → vs.countVisit? key = none)) ∧
      ((∀ n, ¬ Denotes value n) → vs.visits key = 0 ∧ vs.countVisit? key = some vs) := by
  have power : ((10 ^ digitLimit : Nat) : Int) = 10 ^ digitLimit := Int.natCast_pow 10 digitLimit
  -- The counter is missing, can go up, is as large as a text can be, or holds no number.
  refine ⟨fun missing => ?_, fun value there => ⟨fun n denotes => ⟨visits_of_denotes there denotes, fun room => ?_,
    fun full => ?_⟩, fun spellsNone => ⟨visits_of_not_denotes there spellsNone, ?_⟩⟩⟩
  · have counted : vs.countVisit? key = some (vs.set key ['1']) := by
      unfold countVisit?
      rw [missing]
    have outside : key ∉ vs.keys := Table.lookup_eq_none_iff.mp missing
    have first := @moved_on 1 vs key (Nat.one_lt_pow (by decide) (by decide))
    refine ⟨_, counted, first.1, ?_, first.2⟩
    rw [Table.keys_set, if_neg outside]
  · have lt : (n + 1).natAbs < 10 ^ digitLimit := by
      have bound := natAbs_lt_of_denotes denotes
      omega
    have counted : vs.countVisit? key = some (vs.set key (ofInt (n + 1))) := by
      unfold countVisit?
      rw [there]
      dsimp only
      rw [read_trim_iff.mpr denotes]
      dsimp only
      rw [write?_of_lt lt]
      rfl
    have next := moved_on vs key lt
    refine ⟨_, counted, next.1, ?_, next.2⟩
    rw [Table.keys_set, if_pos (Table.contains_iff.mp (Option.isSome_iff_exists.mpr ⟨value, there⟩))]
  · unfold countVisit?
    rw [there]
    dsimp only
    rw [read_trim_iff.mpr denotes]
    dsimp only
    rw [write?_eq_none (by omega)]
    rfl
  · obtain ⟨why, unread⟩ := exists_unreadable spellsNone
    unfold countVisit?
    rw [there]
    dsimp only
    rw [unread]

/-- A counter below zero, in digits of two scripts, with blanks around it. -/
theorem countVisit?_exact_debt :
    let vs : Variables := Table.ofList [("b".toList, "x".toList), ("a".toList, "\t-١_0 ".toList)]
    ∃ vs', vs.countVisit? "a".toList = some vs' ∧ vs'.visits "a".toList = -9 ∧ vs'.keys = ["b", "a"].map String.toList ∧
      ∀ k ≠ "a".toList, vs'.get? k = vs.get? k := by
  intro vs
  have there : vs.get? "a".toList = some "\t-١_0 ".toList := by decide +kernel
  have denotes : Denotes "\t-١_0 ".toList (-10) := read_trim_iff.mp (by decide +kernel)
  have room : (-10 : Int) + 1 ≠ 10 ^ digitLimit := by
    have positive : (0 : Int) < 10 ^ digitLimit := Int.pow_pos (by decide)
    omega
  exact (((countVisit?_exact vs "a".toList).2 _ there).1 _ denotes).2.1 room

/-- The largest number is read, but a counter that stands at it cannot be moved on. -/
theorem overfull :
    let full := List.replicate digitLimit '9'
    let vs : Variables := Table.ofList [(['a'], full)]
    ∃ n, Denotes full n ∧ vs.get? ['a'] = some full ∧ vs.visits ['a'] = n ∧ vs.countVisit? ['a'] = none := by
  intro full vs
  have there : vs.get? ['a'] = some full := rfl
  have spells : Spells full (Literal.ofDigits full) := .plain row_nines
  have denotes : Denotes full (Literal.ofDigits full) := read_trim_iff.mp (read_trim_of_spells spells)
  refine ⟨_, denotes, there, visits_of_denotes there denotes, countVisit?_eq_none there spells ?_⟩
  rw [ofDigits_nines]

end Parley.Variables
