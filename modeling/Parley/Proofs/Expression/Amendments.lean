import Parley.Expression.Evaluate
import Parley.Proofs.Expression.Splitting

/-!
# Amendments

An amendment `left op= right` is read in two ways, one after the other. First it changes the variable on
its left by the operand on its right. If that gives no number, whatever the reason, it is read once more as
an assignment, whose target is all that stands before the equals sign, the operator included.

* `split?_amendment`: an amendment falls into its two sides, unless its operator counts as a sign.
* `assign?_amendment`: what an amendment comes to, in one equation.
* `amends_or_creates`: a variable on the left that holds a number is all that changes, if it can be changed.
  If it cannot be, and what stands on the right is an operation that has a value, a variable of another name
  is written. Otherwise nothing is changed.

`creates_variable` closes the file: an amendment of a variable that is not there writes one.
-/

namespace Parley.Expression

open Text

variable {mode : Mode} {vs : Variables} {left right before t o rest : Text} {op : Char}

/-- The text `left op= right`. -/
def amendment (left : Text) (op : Char) (right : Text) : Text :=
  left ++ op :: '=' :: right

/-! ## Operators -/

/-- Operators of one length are tried as given. -/
lemma byLength_compoundOperators : byLength compoundOperators = compoundOperators :=
  List.mergeSort_of_pairwise (by decide)

/-- The arithmetic operators are of one length, and are tried in the order in which they are listed. -/
lemma byLength_arithmeticOperators : byLength arithmeticOperators = arithmeticOperators :=
  List.mergeSort_of_pairwise (by decide)

/-- An arithmetic operator is neither a blank nor an equals sign. -/
lemma solid_of_mem (h : [op] ∈ arithmeticOperators) : isBlank op = false ∧ op ≠ '=' := by
  have all : ∀ o ∈ arithmeticOperators, o.all (fun c => !isBlank c && c != '=') = true := by decide
  have here := all [op] h
  simpa using here

/-- A compound operator is a character and an equals sign behind it. -/
lemma mem_compoundOperators (h : o ∈ compoundOperators) : ∃ c, c ≠ '=' ∧ o = [c, '='] := by
  have all : ∀ o ∈ compoundOperators, o ≠ [] ∧ o.head? ≠ some '=' ∧ o.tail = ['='] := by decide
  obtain ⟨nonempty, first, second⟩ := all o h
  obtain ⟨c, o, rfl⟩ := List.exists_cons_of_ne_nil nonempty
  exact ⟨c, fun e => first (congrArg Option.some e), congrArg (c :: ·) second⟩

/-- An arithmetic operator with an equals sign behind it is a compound operator. -/
lemma operatorAt?_amendment (h : [op] ∈ arithmeticOperators) :
    operatorAt? compoundOperators (op :: '=' :: right) = some ([op, '='], right) := by
  simp only [arithmeticOperators, List.map_cons, List.map_nil, List.mem_cons, List.not_mem_nil, or_false] at h
  obtain h | h | h | h | h | h := h
  all_goals
    cases h
    rfl

/-- There is no compound operator at an equals sign, nor at a character with none behind it. -/
lemma operatorAt?_eq_none {c : Char} (h : c = '=' ∨ t.head? ≠ some '=') :
    operatorAt? compoundOperators (c :: t) = none := by
  refine Option.eq_none_iff_forall_ne_some.mpr fun (o, rest) found => ?_
  obtain ⟨mem, e⟩ := eq_append_of_operatorAt? found
  obtain ⟨c', apart, rfl⟩ := mem_compoundOperators mem
  cases e
  cases h with
  | inl same => exact apart same
  | inr later => exact later rfl

/-! ## Sides -/

/-- A text that lacks a character of each operator has none of them. -/
lemma cutFrom_eq_none {operators : List Text} (h : ∀ o ∈ operators, ∃ c ∉ t, c ∈ o) :
    cutFrom operators before t = none := by
  induction t generalizing before with
  | nil => rfl
  | cons c t ih =>
    have begins : operatorAt? operators (c :: t) = none := by
      refine Option.eq_none_iff_forall_ne_some.mpr fun (o, rest) found => ?_
      obtain ⟨mem, e⟩ := eq_append_of_operatorAt? found
      obtain ⟨c', missing, part⟩ := h o mem
      exact missing (e ▸ List.mem_append_left rest part)
    rw [cutFrom_cons (.inr begins)]
    refine ih fun o mem => ?_
    obtain ⟨c', missing, part⟩ := h o mem
    exact ⟨c', fun mem' => missing (List.mem_cons_of_mem c mem'), part⟩

/-- A text without an equals sign is not cut. -/
lemma cutFrom_of_not_mem (h : '=' ∉ t) : cutFrom compoundOperators before t = none := by
  refine cutFrom_eq_none fun o mem => ⟨'=', h, ?_⟩
  obtain ⟨c, -, rfl⟩ := mem_compoundOperators mem
  exact List.mem_cons_of_mem c (List.mem_singleton_self '=')

/-- What has no equals sign is passed over, if none follows it at once. -/
lemma cutFrom_append (h : '=' ∉ left) (apart : t.head? ≠ some '=') :
    cutFrom compoundOperators before (left ++ t) = cutFrom compoundOperators (left.reverse ++ before) t := by
  induction left generalizing before with
  | nil => rfl
  | cons c left ih =>
    rw [List.mem_cons, not_or] at h
    have later : (left ++ t).head? ≠ some '=' := by
      cases left with
      | nil => exact apart
      | cons c' left => exact fun first => h.2 (List.mem_of_head? first)
    rw [List.cons_append, cutFrom_cons (.inr (operatorAt?_eq_none (.inr later))), ih h.2, List.reverse_cons,
      List.append_assoc]
    rfl

/-- The operator of an amendment is the only compound operator, if it is no sign. -/
lemma cutFrom_amendment (h : [op] ∈ arithmeticOperators) (hl : '=' ∉ left) (hr : '=' ∉ right) :
    cutFrom compoundOperators [] (amendment left op right) =
      if isSign left.reverse op then none else some (left, [op, '='], right) := by
  have apart : (op :: '=' :: right).head? ≠ some '=' := fun e => (solid_of_mem h).2 (Option.some.inj e)
  rw [amendment, cutFrom_append hl apart, List.append_nil, cutFrom, operatorAt?_amendment h]
  split
  · -- What stands behind a sign begins with the equals sign, and there is no other.
    rw [cutFrom_cons (.inr (operatorAt?_eq_none (.inl rfl))), cutFrom_of_not_mem hr]
  · rw [List.reverse_reverse]

/-- Blanks in front of an operand do not matter to whether a sign stands behind it. -/
lemma isSign_dropWhile : isSign (left.dropWhile isBlank).reverse op = isSign left.reverse op := by
  unfold isSign
  rw [List.reverse_reverse, List.reverse_reverse, trim_dropWhile]

/-- Trimming an amendment trims the front of its left side and the end of its right side. -/
lemma trim_amendment (h : [op] ∈ arithmeticOperators) :
    trim (amendment left op right) = amendment (left.dropWhile isBlank) op (right.rdropWhile isBlank) := by
  have equals := rdropWhile_append_cons (p := isBlank) (c := '=') rfl [] right
  rw [amendment, trim_append_cons (solid_of_mem h).1]
  exact congrArg (left.dropWhile isBlank ++ op :: ·) equals

/-- An amendment falls into its two sides, unless one of them is empty or its operator counts as a sign. -/
lemma split?_amendment (h : [op] ∈ arithmeticOperators) (hl : '=' ∉ left) (hr : '=' ∉ right) :
    split? compoundOperators (trim (amendment left op right)) =
      if isSign left.reverse op || (trim left).isEmpty || (trim right).isEmpty then none
      else some ⟨trim left, [op, '='], trim right⟩ := by
  have hl' : '=' ∉ left.dropWhile isBlank := fun mem => hl ((List.dropWhile_suffix _).subset mem)
  have hr' : '=' ∉ right.rdropWhile isBlank := fun mem => hr ((List.rdropWhile_prefix _ _).subset mem)
  rw [trim_amendment h, split?, byLength_compoundOperators, cutFrom_amendment h hl' hr', isSign_dropWhile]
  cases sign : isSign left.reverse op with
  | true => rfl
  | false =>
    have once : cutFrom compoundOperators [] (right.rdropWhile isBlank) = none := cutFrom_of_not_mem hr'
    simp [once, trim_dropWhile, trim_rdropWhile]

/-! ## Readings -/

/-- The number that an amendment changes the variable on its left to, which has to hold a number, by the
operand on its right. -/
def amended? (mode : Mode) (vs : Variables) (left : Text) (op : Char) (right : Text) : Option Float :=
  if isSign left.reverse op || (trim left).isEmpty || (trim right).isEmpty then none
  else do
    let x ← (vs.get? (trim left)).bind parseNumber?
    let y ← operand? vs right
    compute? mode [op] x y.value

/-- The number that a text comes to as an arithmetic operation. -/
def figured? (mode : Mode) (vs : Variables) (t : Text) : Option Float := do
  let r ← resolve? vs arithmeticOperators t
  compute? mode r.operator r.left.value r.right.value

/-- Blanks around an operand do not matter. -/
lemma operand?_trim : operand? vs (trim t) = operand? vs t := by
  rw [operand?, operand?, trim_trim]

/-- A variable that holds a number goes before a literal. -/
lemma operand?_of_some {x : Float} (h : (vs.get? (trim t)).bind parseNumber? = some x) :
    operand? vs t = some ⟨x, trim t, true⟩ := by
  rw [operand?, h]

/-- A side that names no number in the store is an operand by being a number itself. -/
lemma operand?_of_none (h : (vs.get? (trim t)).bind parseNumber? = none) :
    operand? vs t = (parseNumber? (trim t)).map fun x => ⟨x, trim t, false⟩ := by
  rw [operand?, h]

/-- The compound form of an amendment stores what it comes to, if it comes to anything. -/
lemma changeVariable?_amendment (h : [op] ∈ arithmeticOperators) (hl : '=' ∉ left) (hr : '=' ∉ right) :
    changeVariable? mode vs (amendment left op right) =
      (amended? mode vs left op right).map (store vs (trim left)) := by
  rw [changeVariable?, resolve?, split?_amendment h hl hr, amended?]
  split
  · rfl
  · simp only [Option.bind_eq_bind, Option.bind_some, operand?_trim]
    cases held : (vs.get? (trim left)).bind parseNumber? with
    | some x =>
      rw [operand?_of_some held]
      cases operand? vs right with
      | none => rfl
      | some y => exact Option.map_eq_bind.symm
    | none =>
      -- A literal on the left can be read, but not changed.
      rw [operand?_of_none held]
      cases parseNumber? (trim left) with
      | none => rfl
      | some x =>
        cases operand? vs right with
        | none | some y => rfl

/-- The plain form of an amendment takes the operator for part of the target. -/
lemma setVariable?_amendment (h : [op] ∈ arithmeticOperators) (hl : '=' ∉ left) (hr : '=' ∉ right) :
    setVariable? mode vs (amendment left op right) =
      (figured? mode vs right).map (store vs (trim (left ++ [op]))) := by
  have pieces : splitPair? ['='] (amendment left op right) = some (left ++ [op], right) := by
    have apart : '=' ∉ left ++ [op] := by
      rw [List.mem_append, not_or, List.mem_singleton]
      exact ⟨hl, fun e => (solid_of_mem h).2 e.symm⟩
    have pair := splitPair?_of_not_mem apart hr
    rw [amendment]
    rwa [List.append_assoc, List.append_assoc] at pair
  have named : (trim (left ++ [op])).isEmpty = false := by
    rw [trim_append_cons (solid_of_mem h).1]
    simp
  rw [setVariable?, pieces]
  simp only [Option.bind_eq_bind, Option.bind_some, named]
  rw [figured?, Option.map_eq_bind, if_neg Bool.false_ne_true]
  exact (Option.bind_assoc _ _ _).symm

/-- What an amendment comes to: a number for the variable on its left, or else one for a variable named by all
that stands before the equals sign. -/
lemma assign?_amendment (h : [op] ∈ arithmeticOperators) (hl : '=' ∉ left) (hr : '=' ∉ right) :
    assign? mode vs (amendment left op right) =
      ((amended? mode vs left op right).map (store vs (trim left))).or
        ((figured? mode vs right).map (store vs (trim (left ++ [op])))) := by
  rw [assign?, changeVariable?_amendment h hl hr, setVariable?_amendment h hl hr]

/-! ## Outcomes -/

/-- Nothing has changed but the variable on the left, which held a number. -/
structure Amends (vs : Variables) (left : Text) (s : Stored) : Prop where
  held : ((vs.get? (trim left)).bind parseNumber?).isSome
  keys : s.vars.keys = vs.keys
  others : ∀ k, k ≠ trim left → s.vars.get? k = vs.get? k

/-- What an amendment comes to can only be had from a key of the store, and is stored under it. -/
lemma amends_of_amended {x : Float} (h : amended? mode vs left op right = some x) (y : Float) :
    Amends vs left (store vs (trim left) y) := by
  have held : ((vs.get? (trim left)).bind parseNumber?).isSome := by
    unfold amended? at h
    split at h
    · cases h
    · obtain ⟨x', there, -⟩ := Option.bind_eq_some_iff.mp h
      rw [there]
      rfl
  have there : trim left ∈ vs.keys := by
    refine not_not.mp fun missing => ?_
    have absent : vs.get? (trim left) = none := Table.lookup_eq_none_iff.mpr missing
    rw [absent] at held
    cases held
  refine ⟨held, ?_, fun k other => ?_⟩
  · exact (Table.keys_set vs _ _).trans (if_pos there)
  · exact (Table.get?_set vs _ _ _).trans (if_neg other.symm)

/-- The operator is part of what stands before the equals sign. -/
lemma trim_ne_of_mem (h : [op] ∈ arithmeticOperators) : trim (left ++ [op]) ≠ trim left := by
  intro same
  have shorter : (trim left).length ≤ (left.dropWhile isBlank).length := (List.rdropWhile_prefix isBlank _).length_le
  rw [← same, trim_append_cons (solid_of_mem h).1, List.length_append, List.length_cons] at shorter
  omega

/-- An amendment changes the variable on its left alone, which held a number, if that gives a number. If it gives
none, nothing is changed, unless the right side is an operation that has a value: that value is stored in a
variable of another name, whether there was one or not. -/
theorem amends_or_creates (mode : Mode) (vs : Variables) {left right : Text} {op : Char}
    (h : [op] ∈ arithmeticOperators) (hl : '=' ∉ left) (hr : '=' ∉ right) :
    match amended? mode vs left op right, figured? mode vs right with
    | some x, _ => assign? mode vs (amendment left op right) = some (store vs (trim left) x) ∧
      Amends vs left (store vs (trim left) x)
    | none, none => assign? mode vs (amendment left op right) = none
    | none, some x => assign? mode vs (amendment left op right) = some (store vs (trim (left ++ [op])) x) ∧
      trim (left ++ [op]) ≠ trim left := by
  rw [assign?_amendment h hl hr]
  cases amended : amended? mode vs left op right with
  | some x => exact ⟨rfl, amends_of_amended amended x⟩
  | none =>
    cases figured? mode vs right with
    | none => rfl
    | some x => exact ⟨rfl, trim_ne_of_mem h⟩

/-- Ten gold times minus two is minus twenty, stored under the key without the blank behind it. -/
theorem amends_or_creates_gold :
    let vs : Variables := Table.ofList [("gold".toList, "10".toList)]
    ['*'] ∈ arithmeticOperators ∧ '=' ∉ "gold ".toList ∧ '=' ∉ " -2".toList ∧
      ∃ x, amended? .real vs "gold ".toList '*' " -2".toList = some x ∧ formatNumber x = "-20".toList ∧
        assign? .real vs "gold *= -2".toList = some (store vs "gold".toList x) ∧
        Amends vs "gold ".toList (store vs "gold".toList x) := by
  intro vs
  have op : ['*'] ∈ arithmeticOperators := by decide
  have left : '=' ∉ "gold ".toList := by decide
  have right : '=' ∉ " -2".toList := by decide
  have value : (amended? .real vs "gold ".toList '*' " -2".toList).map formatNumber = some "-20".toList := by
    decide +kernel
  obtain ⟨x, amended, written⟩ := Option.map_eq_some_iff.mp value
  have outcome := amends_or_creates .real vs op left right
  rw [amended] at outcome
  exact ⟨op, left, right, x, amended, written, outcome⟩

/-- An amendment of a variable that is not there stores a number, in a variable named by the operator too. -/
theorem creates_variable :
    (assign? .real Table.empty "x += 2*3".toList).map (·.vars.entries) = some [("x +".toList, "6".toList)] := by
  have unchanged : changeVariable? .real Table.empty "x += 2*3".toList = none := by
    rw [changeVariable?, resolve?, split?, byLength_compoundOperators]
    decide +kernel
  rw [assign?, unchanged, setVariable?]
  simp only [resolve?, split?, byLength_arithmeticOperators]
  decide +kernel

end Parley.Expression
