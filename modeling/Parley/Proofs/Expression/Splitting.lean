import Parley.Expression.Split
import Parley.Proofs.Number.Literals
import Parley.Proofs.Text.Cuts

/-!
# Splitting

An expression is two operands with an operator between them, and splitting it finds just these.

* `IsOperand`: the texts that may stand on a side of an operator. What looks like an operator in them is a sign.
* `operatorAt?_byLength`: an operator in front of a blank is found whole, also if a shorter one begins it.
* `cutFrom_of_passes`, `passes_of_cutFrom`: an expression is cut at the first operator that is no sign.
* `split?_written`: two operands with an operator between them are taken apart again.
* `parts_of_split?`: what has been taken apart is two operands with an operator between them.

`split?_exact` closes the file.
-/

namespace Parley.Expression

open Text

variable {operators : List Text} {before t rest left o : Text} {c : Char}

/-! ## Operands -/

/-- A plus or minus that is no operator, by what of its operand stands before it: nothing, or a number that waits for
its exponent. -/
def IsSignAfter (before : Text) (c : Char) : Prop :=
  (c = '+' ∨ c = '-') ∧ (trim before = [] ∨ Literal.AwaitsExponent (trim before))

/-- A text that may stand on a side of an operator: wherever an operator begins in it, there is a sign. -/
structure IsOperand (operators : List Text) (t : Text) : Prop where
  nonempty : t ≠ []
  trimmed : trim t = t
  clear : ∀ before c after, t = before ++ c :: after → IsSignAfter before c ∨ ∀ o ∈ operators, ¬ o <+: c :: after

/-- An operator that would be a sign of an exponent behind this operand. -/
def Clings (left operator : Text) : Prop :=
  (operator.head? = some '+' ∨ operator.head? = some '-') ∧ Literal.AwaitsExponent left

instance (left operator : Text) : Decidable (Clings left operator) :=
  inferInstanceAs (Decidable (_ ∧ _))

/-- The parts of an expression in their order, with nothing but blanks around them. -/
inductive Split.Within (s : Split) : Text → Prop
  | intro {a b c d : Text} (front : Blank a) (gap : Blank b) (gap' : Blank c) (back : Blank d) :
    Within s (a ++ s.left ++ b ++ s.operator ++ c ++ s.right ++ d)

/-- The parts of an expression with one blank on each side of the operator. -/
def Split.written (s : Split) : Text :=
  s.left ++ ' ' :: s.operator ++ ' ' :: s.right

/-- The families of operators. -/
def families : List (List Text) :=
  [compoundOperators, arithmeticOperators, comparisonOperators]

/-- The test for a sign is on the text before it read backwards. -/
lemma isSign_iff : isSign before.reverse c = true ↔ IsSignAfter before c := by
  unfold isSign IsSignAfter
  simp [Literal.endsInExponentMark_iff, List.isEmpty_iff]

/-- Blanks in front of an operand do not matter to what is a sign in it. -/
lemma isSignAfter_blank (blank : Blank rest) : IsSignAfter (rest ++ before) c ↔ IsSignAfter before c := by
  unfold IsSignAfter
  rw [trim_blank_append blank]

/-- An operator clings to an operand if its first character would be a sign there. -/
lemma clings_iff (nonempty : trim left ≠ []) :
    Clings (trim left) o ↔ ∃ c, o.head? = .some c ∧ isSign left.reverse c = true := by
  simp only [isSign_iff, IsSignAfter, nonempty, false_or]
  constructor
  · rintro ⟨first | first, awaits⟩
    · exact ⟨'+', first, .inl rfl, awaits⟩
    · exact ⟨'-', first, .inr rfl, awaits⟩
  · rintro ⟨c, first, signs, awaits⟩
    rw [Clings, first]
    exact ⟨signs.imp (congrArg Option.some) (congrArg Option.some), awaits⟩

/-! ## Operators -/

/-- Operators have characters, none of them blank. -/
def Solid (operators : List Text) : Prop :=
  ∀ o ∈ operators, o ≠ [] ∧ ∀ c ∈ o, isBlank c = false

/-- The operators of each family have characters, none of them blank. -/
lemma solid_of_family (h : operators ∈ families) : Solid operators := by
  have all : ∀ operators ∈ families, ∀ o ∈ operators, o ≠ [] ∧ o.all (fun c => !isBlank c) = true := by decide
  intro o mem
  obtain ⟨nonempty, solid⟩ := all operators h o mem
  exact ⟨nonempty, fun c mem' => by simpa using List.all_eq_true.mp solid c mem'⟩

/-- Sorting the operators by length keeps every one of them. -/
lemma mem_byLength : o ∈ byLength operators ↔ o ∈ operators :=
  List.mem_mergeSort

/-- Longer operators come first. -/
lemma pairwise_byLength (operators : List Text) : (byLength operators).Pairwise fun a b => b.length ≤ a.length := by
  have sorted := @List.pairwise_mergeSort Text (fun a b => decide (b.length ≤ a.length))
    (fun a b c h h' => decide_eq_true (Nat.le_trans (of_decide_eq_true h') (of_decide_eq_true h)))
    (fun a b => by simpa using Nat.le_total b.length a.length) operators
  exact sorted.imp of_decide_eq_true

/-- No operator is found where none begins the text. -/
lemma operatorAt?_eq_none_iff : operatorAt? operators t = none ↔ ∀ o ∈ operators, ¬ o <+: t := by
  unfold operatorAt?
  rw [List.findSome?_eq_none_iff]
  simp only [Option.map_eq_none_iff, after?_eq_none_iff]

/-- An operator that is found is one of those looked for, and begins the text. -/
lemma eq_append_of_operatorAt? (h : operatorAt? operators t = some (o, rest)) : o ∈ operators ∧ t = o ++ rest := by
  obtain ⟨o', mem, found⟩ := List.exists_of_findSome?_eq_some h
  obtain ⟨rest', begins, e⟩ := Option.map_eq_some_iff.mp found
  cases e
  exact ⟨mem, eq_append_of_after? begins⟩

/-- An operator in front of a blank is found whole, also if a shorter one begins it. -/
lemma operatorAt?_byLength (solid : Solid operators) (mem : o ∈ operators) (blank : isBlank c = true) (t : Text) :
    operatorAt? (byLength operators) (o ++ c :: t) = some (o, c :: t) := by
  cases found : operatorAt? (byLength operators) (o ++ c :: t) with
  | none =>
    have apart := operatorAt?_eq_none_iff.mp found o (mem_byLength.mpr mem)
    exact absurd (List.prefix_append o (c :: t)) apart
  | some pair =>
    obtain ⟨o', rest⟩ := pair
    obtain ⟨mem', whole⟩ := eq_append_of_operatorAt? found
    have inside : c ∉ o' := by
      intro part
      rw [(solid o' (mem_byLength.mp mem')).2 c part] at blank
      cases blank
    -- What is found ends before the blank, and so is no longer than the operator; it is tried first, and so no shorter.
    have short : o' <+: o := prefix_of_not_mem inside ⟨rest, whole.symm⟩
    have long : o.length ≤ o'.length := by
      obtain ⟨front, first, back, listed, begins, earlier⟩ := List.findSome?_eq_some_iff.mp found
      obtain ⟨rest', -, e⟩ := Option.map_eq_some_iff.mp begins
      cases e
      have place := mem_byLength.mpr mem
      have sorted := pairwise_byLength operators
      rw [listed] at place sorted
      obtain before | same | behind := List.mem_append.mp place |>.imp_right List.mem_cons.mp
      · have nothing := earlier o before
        rw [after?_append] at nothing
        cases nothing
      · rw [same]
      · exact List.rel_of_pairwise_cons (List.pairwise_append.mp sorted).2.1 behind
    cases short.eq_of_length_le long
    rw [List.append_cancel_left_eq] at whole
    rw [whole]

/-! ## Cutting -/

/-- No operator begins in a text that stands between what has been read and the rest. -/
def Passes (operators : List Text) (before t rest : Text) : Prop :=
  ∀ front c back, t = front ++ c :: back →
    isSign (front.reverse ++ before) c = true ∨ ∀ o ∈ operators, ¬ o <+: c :: back ++ rest

/-- Nothing is always passed over. -/
lemma passes_nil : Passes operators before [] rest := by
  intro front c back e
  cases front with
  | nil | cons => cases e

/-- A text is passed over if its first character is, and then the others are. -/
lemma passes_cons : Passes operators before (c :: t) rest ↔
    (isSign before c = true ∨ ∀ o ∈ operators, ¬ o <+: c :: t ++ rest) ∧ Passes operators (c :: before) t rest := by
  constructor
  · intro passes
    refine ⟨passes [] c t rfl, fun front d back e => ?_⟩
    have here := passes (c :: front) d back (congrArg (c :: ·) e)
    rwa [List.reverse_cons, List.append_assoc] at here
  · rintro ⟨here, later⟩ front d back e
    cases front with
    | nil =>
      cases e
      exact here
    | cons d' front =>
      cases e
      rw [List.reverse_cons, List.append_assoc]
      exact later front d back rfl

/-- It does not matter in which order the operators are tried. -/
lemma passes_byLength : Passes (byLength operators) before t rest ↔ Passes operators before t rest := by
  unfold Passes
  simp only [mem_byLength]

/-- A blank is no part of an operator. -/
lemma Passes.blank (solid : Solid operators) (blank : isBlank c = true) (passes : Passes operators before t []) :
    Passes operators before t (c :: rest) := by
  intro front d back e
  refine (passes front d back e).imp_right fun apart o mem begins => apart o mem ?_
  rw [List.append_nil]
  refine prefix_of_not_mem (fun part => ?_) begins
  rw [(solid o mem).2 c part] at blank
  cases blank

/-- No operator begins with a blank. -/
lemma passes_singleton (solid : Solid operators) (blank : isBlank c = true) : Passes operators before [c] rest := by
  refine passes_cons.mpr ⟨.inr fun o mem begins => ?_, passes_nil⟩
  obtain ⟨nonempty, solid⟩ := solid o mem
  obtain ⟨d, o, rfl⟩ := List.exists_cons_of_ne_nil nonempty
  obtain ⟨e, -⟩ := List.cons_prefix_cons.mp begins
  rw [← e, solid d List.mem_cons_self] at blank
  cases blank

/-- A character that is a sign or begins no operator is passed over. -/
lemma cutFrom_cons (h : isSign before c = true ∨ operatorAt? operators (c :: t) = none) :
    cutFrom operators before (c :: t) = cutFrom operators (c :: before) t := by
  rw [cutFrom]
  split
  · rfl
  · rename_i operator
    rw [h.resolve_left operator]

/-- Nothing is cut in what is passed over. -/
lemma cutFrom_of_passes (passes : Passes operators before t rest) :
    cutFrom operators before (t ++ rest) = cutFrom operators (t.reverse ++ before) rest := by
  induction t generalizing before with
  | nil => rfl
  | cons c t ih =>
    obtain ⟨here, later⟩ := passes_cons.mp passes
    rw [← operatorAt?_eq_none_iff] at here
    rw [List.cons_append] at here ⊢
    rw [cutFrom_cons here, ih later, List.reverse_cons, List.append_assoc]
    rfl

/-- An operator that is no sign is where an expression is cut. -/
lemma cutFrom_operator (solid : Solid operators) (mem : o ∈ operators)
    (plain : ¬ ∃ c, o.head? = some c ∧ isSign before c = true) (blank : isBlank c = true) (t : Text) :
    cutFrom (byLength operators) before (o ++ c :: t) = some (before.reverse, o, c :: t) := by
  have found := operatorAt?_byLength solid mem blank t
  obtain ⟨d, o, rfl⟩ := List.exists_cons_of_ne_nil (solid o mem).1
  rw [List.cons_append] at found ⊢
  rw [cutFrom, found, if_neg fun sign => plain ⟨d, rfl, sign⟩]

/-- What is cut off was passed over, and behind it stands an operator that is no sign. -/
lemma passes_of_cutFrom (h : cutFrom operators before t = some (left, o, rest)) :
    ∃ piece, left = before.reverse ++ piece ∧ t = piece ++ (o ++ rest) ∧ Passes operators before piece (o ++ rest) ∧
      o ∈ operators ∧ ¬ ∃ c, o.head? = some c ∧ isSign left.reverse c = true := by
  induction t generalizing before with
  | nil => cases h
  | cons c t ih =>
    -- A character that is passed over goes to the front of what has been passed over behind it.
    have further (here : isSign before c = true ∨ ∀ o ∈ operators, ¬ o <+: c :: t)
        (h : cutFrom operators (c :: before) t = some (left, o, rest)) :
        ∃ piece, left = before.reverse ++ piece ∧ c :: t = piece ++ (o ++ rest) ∧
          Passes operators before piece (o ++ rest) ∧ o ∈ operators ∧
          ¬ ∃ c, o.head? = some c ∧ isSign left.reverse c = true := by
      obtain ⟨piece, rfl, rfl, passes, mem, plain⟩ := ih h
      refine ⟨c :: piece, ?_, rfl, passes_cons.mpr ⟨here, passes⟩, mem, plain⟩
      rw [List.reverse_cons, List.append_assoc]
      rfl
    rw [cutFrom] at h
    split at h
    · rename_i sign
      exact further (.inl sign) h
    · rename_i plain
      split at h
      · rename_i o rest found
        cases h
        obtain ⟨mem, whole⟩ := eq_append_of_operatorAt? found
        refine ⟨[], (List.append_nil _).symm, whole, passes_nil, mem, ?_⟩
        rintro ⟨d, first, sign⟩
        obtain ⟨o', rfl⟩ : ∃ o', o = d :: o' := List.head?_eq_some_iff.mp first
        cases whole
        rw [List.reverse_reverse] at sign
        exact plain sign
      · rename_i none
        exact further (.inr (operatorAt?_eq_none_iff.mp none)) h

/-- A text that is not cut is passed over whole. -/
lemma passes_of_cutFrom_none (h : cutFrom operators before t = none) : Passes operators before t [] := by
  induction t generalizing before with
  | nil => exact passes_nil
  | cons c t ih =>
    rw [cutFrom] at h
    split at h
    · rename_i sign
      exact passes_cons.mpr ⟨.inl sign, ih h⟩
    · split at h
      · cases h
      · rename_i none
        refine passes_cons.mpr ⟨.inr ?_, ih h⟩
        rw [List.append_nil]
        exact operatorAt?_eq_none_iff.mp none

/-! ## Sides -/

/-- An operand is passed over, whatever blanks stand in front of it. -/
lemma IsOperand.passes (operand : IsOperand operators t) (blank : Blank before) :
    Passes operators before.reverse t [] := by
  intro front c back e
  rw [← List.reverse_append, isSign_iff, isSignAfter_blank blank, List.append_nil]
  exact operand.clear front c back e

/-- What is passed over is an operand, if anything is left of it without the blanks around it. -/
lemma isOperand_of_passes (passes : Passes operators [] t rest) (nonempty : trim t ≠ []) :
    IsOperand operators (trim t) := by
  refine ⟨nonempty, trim_trim t, fun before c after e => ?_⟩
  obtain ⟨front, back, blank, -, whole⟩ := exists_of_trim t
  have place : t = (front ++ before) ++ c :: (after ++ back) := by
    rw [whole, e]
    simp
  have here := passes (front ++ before) c (after ++ back) place
  rw [List.append_nil, isSign_iff, isSignAfter_blank blank] at here
  refine here.imp_right fun apart o mem begins => apart o mem ?_
  have longer : c :: (after ++ back) ++ rest = (c :: after) ++ (back ++ rest) := List.append_assoc (c :: after) back rest
  exact longer ▸ begins.trans (List.prefix_append (c :: after) (back ++ rest))

/-- An operand is a trimmed text in which nothing is cut. -/
lemma isOperand_iff : IsOperand operators t ↔ t ≠ [] ∧ trim t = t ∧ cutFrom operators [] t = none := by
  constructor
  · intro operand
    refine ⟨operand.nonempty, operand.trimmed, ?_⟩
    have nothing : Blank [] := by nofun
    have passes : Passes operators [] t [] := operand.passes nothing
    have uncut := cutFrom_of_passes passes
    rwa [List.append_nil] at uncut
  · rintro ⟨nonempty, trimmed, uncut⟩
    have operand := isOperand_of_passes (passes_of_cutFrom_none uncut) (trimmed.symm ▸ nonempty)
    rwa [trimmed] at operand

instance (operators : List Text) (t : Text) : Decidable (IsOperand operators t) :=
  decidable_of_iff _ isOperand_iff.symm

/-- Two operands with an operator between them are taken apart again. -/
lemma split?_written {s : Split} (solid : Solid operators) (mem : s.operator ∈ operators)
    (left : IsOperand operators s.left) (right : IsOperand operators s.right) (plain : ¬ Clings s.left s.operator) :
    split? operators s.written = some s := by
  obtain ⟨l, o, r⟩ := s
  dsimp only at mem left right plain
  have space : isBlank ' ' = true := by decide
  have nothing : Blank [] := by nofun
  have spaced : Blank [' '] := fun c mem => List.mem_singleton.mp mem ▸ space
  have left' : trim (l ++ [' ']) = l := (trim_concat space l).trans left.trimmed
  have right' : trim (' ' :: r) = r := (trim_cons space r).trans right.trimmed
  have first : cutFrom (byLength operators) [] (l ++ ' ' :: (o ++ ' ' :: r)) = some (l ++ [' '], o, ' ' :: r) := by
    have passes : Passes (byLength operators) [] l (' ' :: (o ++ ' ' :: r)) :=
      passes_byLength.mpr ((left.passes nothing).blank solid space)
    have gap : Passes (byLength operators) (l.reverse ++ []) [' '] (o ++ ' ' :: r) :=
      passes_byLength.mpr (passes_singleton solid space)
    have operator : ¬ ∃ c, o.head? = some c ∧ isSign (l ++ [' ']).reverse c = true := by
      rwa [← clings_iff (left'.symm ▸ left.nonempty), left']
    rw [List.reverse_append] at operator
    rw [cutFrom_of_passes passes, ← List.singleton_append, cutFrom_of_passes gap, List.append_nil,
      cutFrom_operator solid mem operator space, List.reverse_append, List.reverse_reverse, List.reverse_reverse]
  -- There is no operator in what is left, so the text is not cut a second time.
  have second : cutFrom (byLength operators) [] (' ' :: r) = none := by
    have gap : Passes (byLength operators) [] [' '] r := passes_byLength.mpr (passes_singleton solid space)
    have passes := passes_byLength.mpr (right.passes spaced)
    rw [← List.singleton_append, cutFrom_of_passes gap, ← List.append_nil r]
    exact cutFrom_of_passes passes
  have whole : Split.written ⟨l, o, r⟩ = l ++ ' ' :: (o ++ ' ' :: r) := by
    simp [Split.written]
  rw [split?, whole, first]
  simp [second, left', right', left.nonempty, right.nonempty]

/-- What has been taken apart is two operands with an operator between them. -/
lemma parts_of_split? {s : Split} (h : split? operators t = some s) :
    s.operator ∈ operators ∧ IsOperand operators s.left ∧ IsOperand operators s.right ∧ ¬ Clings s.left s.operator ∧
      s.Within t := by
  obtain ⟨⟨left, o, rest⟩, cuts, h⟩ := Option.bind_eq_some_iff.mp h
  dsimp only at h
  split at h
  · cases h
  · rename_i once
    split at h
    · cases h
    · rename_i some
      cases h
      rw [Bool.or_eq_true, not_or, List.isEmpty_iff, List.isEmpty_iff] at some
      rw [Option.not_isSome_iff_eq_none] at once
      obtain ⟨piece, whole, rfl, passes, mem, plain⟩ := passes_of_cutFrom cuts
      obtain rfl : left = piece := whole
      have passes' := passes_of_cutFrom_none once
      refine ⟨mem_byLength.mp mem, isOperand_of_passes (passes_byLength.mp passes) some.1,
        isOperand_of_passes (passes_byLength.mp passes') some.2, (clings_iff some.1).not.mpr plain, ?_⟩
      obtain ⟨a, b, front, gap, whole⟩ := exists_of_trim left
      obtain ⟨c, d, gap', back, whole'⟩ := exists_of_trim rest
      have within := Split.Within.intro (s := ⟨trim left, o, trim rest⟩) front gap gap' back
      rw [← whole, List.append_assoc _ c, List.append_assoc _ (c ++ _), ← whole', List.append_assoc] at within
      exact within

/-- Splitting is exact. Operands with an operator between them are taken apart again, unless the operator would be the
sign of an exponent; what is taken apart is operands with an operator between them and nothing but blanks around them;
and so an expression falls into the same parts again when these are put together. -/
theorem split?_exact {operators : List Text} (h : operators ∈ families) :
    (∀ left operator right : Text, operator ∈ operators → IsOperand operators left → IsOperand operators right →
      ¬ Clings left operator →
      split? operators (left ++ ' ' :: operator ++ ' ' :: right) = some ⟨left, operator, right⟩) ∧
    (∀ (t : Text) (s : Split), split? operators t = some s →
      s.operator ∈ operators ∧ IsOperand operators s.left ∧ IsOperand operators s.right ∧ ¬ Clings s.left s.operator ∧
      s.Within t) ∧
    ∀ (t : Text) (s : Split), split? operators t = some s → split? operators s.written = some s := by
  have solid := solid_of_family h
  refine ⟨fun left operator right mem l r plain => ?_, fun t s splits => parts_of_split? splits, fun t s splits => ?_⟩
  · exact split?_written (s := ⟨left, operator, right⟩) solid mem l r plain
  · obtain ⟨mem, l, r, plain, -⟩ := parts_of_split? splits
    exact split?_written solid mem l r plain

/-- The signs of a number and of its exponent are none of the operators around them. -/
theorem split?_exact_signs :
    let left := "-1e+3".toList
    let right := "-x".toList
    arithmeticOperators ∈ families ∧ ['-'] ∈ arithmeticOperators ∧ IsOperand arithmeticOperators left ∧
      IsOperand arithmeticOperators right ∧ ¬ Clings left ['-'] ∧
      split? arithmeticOperators "-1e+3 - -x".toList = some ⟨left, ['-'], right⟩ := by
  intro left right
  have family : arithmeticOperators ∈ families := by decide
  have operator : ['-'] ∈ arithmeticOperators := by decide
  have l : IsOperand arithmeticOperators left := by decide
  have r : IsOperand arithmeticOperators right := by decide
  have plain : ¬ Clings left ['-'] := by decide
  exact ⟨family, operator, l, r, plain, (split?_exact family).1 left ['-'] right operator l r plain⟩

end Parley.Expression
