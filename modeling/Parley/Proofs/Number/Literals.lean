import Parley.Proofs.Number.Numerals

/-!
# Unfinished literals

A literal with an exponent breaks off at the mark of the exponent if what is to follow is missing: a sign, or digits.

* `Magnitude`, `AwaitsExponent`: the numbers without an exponent, and those that wait for one.
* `takeMagnitude?_append`, `magnitude_of_takeMagnitude?`: the longest number at the start of a text is taken off it.

`endsInExponentMark_iff` closes the file: which texts are found to break off there.
-/

namespace Parley.Literal

open Text Numeral

variable {t body ds rest : Text} {c mark : Char}

/-- Digits with at most one point before, among or behind them. -/
inductive Magnitude : Text → Prop
  | whole {ds : Text} (nonempty : ds ≠ []) (digits : ∀ c ∈ ds, isDecimal c = true) : Magnitude ds
  | pointed {ds decimals : Text} (nonempty : ds ≠ []) (digits : ∀ c ∈ ds, isDecimal c = true)
    (digits' : ∀ c ∈ decimals, isDecimal c = true) : Magnitude (ds ++ '.' :: decimals)
  | decimals {decimals : Text} (nonempty : decimals ≠ []) (digits : ∀ c ∈ decimals, isDecimal c = true) :
    Magnitude ('.' :: decimals)

/-- A number up to the mark of its exponent, the mark included. -/
inductive AwaitsExponent : Text → Prop
  | plain {body : Text} {mark : Char} (magnitude : Magnitude body) (marks : mark = 'e' ∨ mark = 'E') :
    AwaitsExponent (body ++ [mark])
  | signed {sign : Char} {body : Text} {mark : Char} (signs : sign = '+' ∨ sign = '-') (magnitude : Magnitude body)
    (marks : mark = 'e' ∨ mark = 'E') : AwaitsExponent (sign :: body ++ [mark])

/-- Digits are taken up to the first character that is none. -/
lemma takeDigits_append (digits : ∀ c ∈ ds, isDecimal c = true) (stops : isDecimal c = false) (rest : Text) :
    takeDigits (ds ++ c :: rest) = (ds, c :: rest) := by
  have stops' : ¬ isDecimal c = true := Bool.eq_false_iff.mp stops
  rw [takeDigits, List.takeWhile_append_of_pos digits, List.dropWhile_append_of_pos digits,
    List.takeWhile_cons_of_neg stops', List.dropWhile_cons_of_neg stops', List.append_nil]

/-- What is taken are digits, and they stand in front of what is left. -/
lemma eq_append_of_takeDigits (h : takeDigits t = (ds, rest)) : (∀ c ∈ ds, isDecimal c = true) ∧ t = ds ++ rest := by
  cases h
  exact ⟨fun c mem => List.mem_takeWhile_imp mem, List.takeWhile_append_dropWhile.symm⟩

/-- The mark of an exponent is no digit. -/
lemma isDecimal_of_mark (marks : mark = 'e' ∨ mark = 'E') : isDecimal mark = false := by
  obtain rfl | rfl := marks
  all_goals decide

/-- A magnitude ends where its exponent begins. -/
lemma takeMagnitude?_append (magnitude : Magnitude body) (marks : mark = 'e' ∨ mark = 'E') :
    ∃ parts, takeMagnitude? (body ++ [mark]) = some (parts, [mark]) := by
  have stops := isDecimal_of_mark marks
  cases magnitude with
  | whole nonempty digits =>
    have taken := takeDigits_append digits stops []
    obtain ⟨d, ds, rfl⟩ := List.exists_cons_of_ne_nil nonempty
    refine ⟨(d :: ds, []), ?_⟩
    rw [takeMagnitude?, taken]
    obtain rfl | rfl := marks
    all_goals rfl
  | @pointed ds decimals nonempty digits digits' =>
    have taken : takeDigits (ds ++ '.' :: decimals ++ [mark]) = (ds, '.' :: (decimals ++ [mark])) := by
      rw [List.append_assoc]
      exact takeDigits_append digits (by decide) _
    have taken' := takeDigits_append digits' stops []
    obtain ⟨d, ds, rfl⟩ := List.exists_cons_of_ne_nil nonempty
    refine ⟨(d :: ds, decimals), ?_⟩
    rw [takeMagnitude?, taken]
    simp only [taken']
  | @decimals decimals nonempty digits =>
    have nothing : takeDigits ('.' :: decimals ++ [mark]) = ([], '.' :: (decimals ++ [mark])) := rfl
    have taken := takeDigits_append digits stops []
    obtain ⟨d, ds, rfl⟩ := List.exists_cons_of_ne_nil nonempty
    refine ⟨([], d :: ds), ?_⟩
    rw [takeMagnitude?, nothing]
    simp only [taken]

/-- What is taken as a magnitude is one, and stands in front of what is left. -/
lemma magnitude_of_takeMagnitude? {parts : Text × Text} (h : takeMagnitude? t = some (parts, rest)) :
    ∃ body, Magnitude body ∧ t = body ++ rest := by
  unfold takeMagnitude? at h
  split at h
  · rename_i whole
    obtain ⟨-, rfl⟩ := eq_append_of_takeDigits whole
    split at h
    · cases h
    · rename_i nonempty decimals
      obtain ⟨digits, rfl⟩ := eq_append_of_takeDigits decimals
      cases h
      exact ⟨_, .decimals nonempty digits, rfl⟩
  · cases h
  · rename_i nonempty whole
    obtain ⟨digits, rfl⟩ := eq_append_of_takeDigits whole
    generalize decimals : takeDigits _ = pair at h
    obtain ⟨digits', rfl⟩ := eq_append_of_takeDigits decimals
    cases h
    exact ⟨_, .pointed nonempty digits digits', by simp⟩
  · rename_i nonempty _ whole
    obtain ⟨digits, rfl⟩ := eq_append_of_takeDigits whole
    cases h
    exact ⟨_, .whole nonempty digits, rfl⟩

/-- Nothing is split off a text that does not begin with a sign. -/
lemma splitSign_of_unsigned (h : t.head? ≠ some '+' ∧ t.head? ≠ some '-') : splitSign t = (false, t) := by
  unfold splitSign
  split
  · exact absurd rfl h.2
  · exact absurd rfl h.1
  · rfl

/-- A magnitude has no sign of its own. -/
lemma Magnitude.unsigned (magnitude : Magnitude body) (rest : Text) :
    (body ++ rest).head? ≠ some '+' ∧ (body ++ rest).head? ≠ some '-' := by
  have digit {ds : Text} (nonempty : ds ≠ []) (digits : ∀ c ∈ ds, isDecimal c = true) (rest : Text) :
      (ds ++ rest).head? ≠ .some '+' ∧ (ds ++ rest).head? ≠ .some '-' := by
    obtain ⟨d, ds, rfl⟩ := List.exists_cons_of_ne_nil nonempty
    have first := digits d List.mem_cons_self
    exact ⟨fun e => ne_of_isDecimal first (by decide) (Option.some.inj e),
      fun e => ne_of_isDecimal first (by decide) (Option.some.inj e)⟩
  cases magnitude with
  | whole nonempty digits => exact digit nonempty digits rest
  | pointed nonempty digits digits' =>
    rw [List.append_assoc]
    exact digit nonempty digits _
  | decimals nonempty digits => exact ⟨Option.some_inj.not.mpr (by decide), Option.some_inj.not.mpr (by decide)⟩

/-- A magnitude with the mark of an exponent behind it waits for its exponent. -/
lemma endsInExponentMark_of_magnitude (unsigned : (splitSign t).2 = body ++ [mark]) (magnitude : Magnitude body)
    (marks : mark = 'e' ∨ mark = 'E') : endsInExponentMark t = true := by
  obtain ⟨parts, taken⟩ := takeMagnitude?_append magnitude marks
  rw [endsInExponentMark, unsigned, taken]
  simpa [isExponentMark] using marks

/-- The numbers that end in the mark of an exponent are those that wait for it. -/
lemma endsInExponentMark_iff : endsInExponentMark t = true ↔ AwaitsExponent t := by
  constructor
  · intro ends
    unfold endsInExponentMark at ends
    split at ends
    · rename_i parts mark taken
      obtain ⟨body, magnitude, whole⟩ := magnitude_of_takeMagnitude? taken
      have marks : mark = 'e' ∨ mark = 'E' := by simpa [isExponentMark] using ends
      unfold splitSign at whole
      split at whole
      · obtain rfl := whole
        exact .signed (.inr rfl) magnitude marks
      · obtain rfl := whole
        exact .signed (.inl rfl) magnitude marks
      · obtain rfl := whole
        exact .plain magnitude marks
    · cases ends
  · intro awaits
    cases awaits with
    | @plain body mark magnitude marks =>
      have unsigned : (splitSign (body ++ [mark])).2 = body ++ [mark] := by
        rw [splitSign_of_unsigned (magnitude.unsigned _)]
      exact endsInExponentMark_of_magnitude unsigned magnitude marks
    | @signed sign body mark signs magnitude marks =>
      have unsigned : (splitSign (sign :: body ++ [mark])).2 = body ++ [mark] := by
        obtain rfl | rfl := signs
        all_goals rfl
      exact endsInExponentMark_of_magnitude unsigned magnitude marks

instance : DecidablePred AwaitsExponent := fun t =>
  decidable_of_iff (endsInExponentMark t = true) endsInExponentMark_iff

end Parley.Literal
