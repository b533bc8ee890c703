import Parley.Proofs.Script.Directives

/-!
# Errands

What a script asks a function for, how it is written down as a line, and what can be read of it there.

* `Sends`: a line of a script sends an errand. `Sends.unique` says that there is one such errand.
* `sends_of_emitted`: if lines come of a call or a test of a function, it sends an errand.
* `Legible`: the names that are read back as they were written.

`exists_legible` closes the file: whatever its name, an errand is written down like one that can be read back.
-/

namespace Parley.Script

/-- What a line of a script asks a function for. -/
inductive Errand where
  | perform (name parameter : Text)
  | test (name parameter desired : Text)
  deriving DecidableEq, Repr

namespace Errand

/-- The function that is asked. -/
def name : Errand → Text
  | .perform name _ | .test name _ _ => name

/-- What the function is given. -/
def parameter : Errand → Text
  | .perform _ parameter | .test _ parameter _ => parameter

/-- The errand with another function and parameter. -/
def renamed (name parameter : Text) : Errand → Errand
  | .perform _ _ => .perform name parameter
  | .test _ _ desired => .test name parameter desired

/-- The line that an errand is written down as. -/
def line : Errand → Line
  | .perform name parameter => { callFunction := Statement.call name parameter }
  | .test name parameter desired => { ifFunction := Statement.call name parameter ++ ['='] ++ desired }

/-- A test without a function, or without a desired result. -/
def IsVain : Errand → Prop
  | .perform _ _ => False
  | .test name _ desired => name = [] ∨ desired = []

/-- A renamed errand has the other name. -/
@[simp] lemma name_renamed (name parameter : Text) (errand : Errand) : (errand.renamed name parameter).name = name := by
  cases errand with
  | perform | test => rfl

/-- The desired result of a test stands behind the last equals sign. -/
def Clear : Errand → Prop
  | .perform _ _ => True
  | .test _ _ desired => '=' ∉ desired

end Errand

/-- A function and its parameter, as a script mentions them: the parameter stands behind the first comma. -/
inductive Mentions : Text → Text → Text → Prop
  | alone {t : Text} (apart : ',' ∉ t) : Mentions t (Text.trim t) []
  | both {left right : Text} (apart : ',' ∉ left) : Mentions (left ++ ',' :: right) (Text.trim left) (Text.trim right)

/-- A line of a script sends an errand. -/
inductive Sends : Text → Errand → Prop
  | perform {line name parameter : Text} (directive : Text.beginsWith "DO:".toList (Text.upper line) = true)
    (mentions : Mentions (line.drop 3) name parameter) (named : name ≠ []) : Sends line (.perform name parameter)
  | test {line test target subject desired name parameter : Text}
    (directive : Text.beginsWith "IF FUNCTION:".toList (Text.upper line) = true)
    (parts : Text.splitPair? arrow (line.drop 12) = some (test, target))
    (sides : Text.splitPair? ['='] test = some (subject, desired)) (mentions : Mentions subject name parameter) :
    Sends line (.test name parameter (Text.trim desired))

/-- The name of a function is legible: it holds no double colon, and none comes about at its end. -/
structure Legible (name : Text) : Prop where
  whole : Text.includes "::".toList name = false
  last : name.getLast? ≠ some ':'

instance (name : Text) : Decidable (Legible name) :=
  decidable_of_iff (Text.includes "::".toList name = false ∧ name.getLast? ≠ some ':')
    ⟨fun h => ⟨h.1, h.2⟩, fun h => ⟨h.1, h.2⟩⟩

section Mentions

variable {t name parameter name' parameter' : Text}

/-- What a script mentions is what is read as function and parameter. -/
lemma mentions_iff : Mentions t name parameter ↔ Statement.function t = (name, parameter) := by
  constructor
  · intro mentions
    cases mentions with
    | alone apart =>
      rw [Statement.function, Text.cut_eq_none_iff.mpr apart]
      rfl
    | both apart =>
      rw [Statement.function, Text.cut_of_not_mem apart]
      rfl
  · intro reads
    unfold Statement.function at reads
    cases cuts : Text.cut [','] t with
    | none =>
      rw [cuts] at reads
      cases reads
      exact .alone (Text.cut_eq_none_iff.mp cuts)
    | some sides =>
      obtain ⟨left, right⟩ := sides
      have apart := Text.not_mem_of_cut cuts
      rw [cuts] at reads
      cases reads
      rw [Text.eq_append_of_cut cuts, List.append_assoc]
      exact .both apart

/-- A text mentions one function and one parameter. -/
lemma Mentions.unique (mentions : Mentions t name parameter) (mentions' : Mentions t name' parameter') :
    name = name' ∧ parameter = parameter' :=
  Prod.mk.inj ((mentions_iff.mp mentions).symm.trans (mentions_iff.mp mentions'))

end Mentions

/-- A line sends one errand at most. -/
lemma Sends.unique {line : Text} {errand errand' : Errand} (sends : Sends line errand)
    (sends' : Sends line errand') : errand = errand' := by
  cases sends with
  | perform directive mentions =>
    cases sends' with
    | perform _ mentions' =>
      obtain ⟨rfl, rfl⟩ := mentions.unique mentions'
      rfl
    | test directive' => exact absurd (comparable_names directive directive') (by decide)
  | test directive parts sides mentions =>
    cases sends' with
    | perform directive' => exact absurd (comparable_names directive directive') (by decide)
    | test _ parts' sides' mentions' =>
      cases parts.symm.trans parts'
      cases sides.symm.trans sides'
      obtain ⟨rfl, rfl⟩ := mentions.unique mentions'
      rfl

/-- Every call and every test of a function for which lines are emitted sends an errand, and the first of the lines is
that of the errand. -/
lemma sends_of_emitted {line : Text} {ls : List Line}
    (directive : Text.beginsWith "DO:".toList (Text.upper line) = true ∨
      Text.beginsWith "IF FUNCTION:".toList (Text.upper line) = true)
    (means : Statement.ofLine true line = .lines ls) : ∃ errand rest, Sends line errand ∧ ls = errand.line :: rest := by
  obtain directive | directive := directive
  · have reads : Statement.ofLine true line = Statement.perform (line.drop 3) :=
      Statement.ofLine_of_begins (by simp [Statement.directives]) directive
    rw [reads] at means
    unfold Statement.perform at means
    dsimp only at means
    split at means
    · cases means
    · rename_i named
      cases means
      exact ⟨.perform _ _, [], .perform directive (mentions_iff.mpr rfl) fun e => named (List.isEmpty_iff.mpr e), rfl⟩
  · have reads : Statement.ofLine true line = Statement.ifFunction (line.drop 12) :=
      Statement.ofLine_of_begins (by simp [Statement.directives]) directive
    rw [reads] at means
    unfold Statement.ifFunction at means
    split at means
    · rename_i subject desired target tested
      obtain ⟨test, side, parts, sides, rfl⟩ := Statement.test?_eq_some tested
      cases means
      exact ⟨.test _ _ _, _, .test directive parts sides (mentions_iff.mpr rfl), rfl⟩
    · cases means

/-! ## Names that are read back -/

section Calls

/-- A double colon that is written between two texts stands in the text. -/
lemma includes_append (left right : Text) : Text.includes "::".toList (left ++ "::".toList ++ right) = true := by
  obtain ⟨name, parameter, cuts, -⟩ := cut_call left right
  exact Option.isSome_iff_exists.mpr ⟨_, cuts⟩

variable {name parameter : Text}

/-- The call of a legible name is cut behind the whole name. -/
lemma cut_of_legible (legible : Legible name) :
    Text.cut "::".toList (Statement.call name parameter) = some (name, parameter) := by
  obtain ⟨left, right, cuts, more, rfl⟩ := cut_call name parameter
  have rest : more ++ ("::".toList ++ parameter) = "::".toList ++ right := by
    have whole := Text.eq_append_of_cut cuts
    rw [Statement.call, List.append_assoc, List.append_assoc, List.append_assoc] at whole
    exact List.append_cancel_left whole
  -- What comes behind the first double colon of the call is the parameter, unless the name holds one colon of it or both.
  cases more with
  | nil =>
    have same : parameter = right := List.append_cancel_left rest
    rw [cuts, List.append_nil, same]
  | cons c more =>
    obtain ⟨rfl, later⟩ := List.cons.inj rest
    cases more with
    | nil => exact absurd List.getLast?_concat legible.last
    | cons c' more =>
      obtain ⟨rfl, -⟩ := List.cons.inj later
      have holds := includes_append left more
      rw [List.append_assoc] at holds
      exact absurd (holds.symm.trans legible.whole) Bool.true_eq_false.mp

/-- Only the calls of legible names are cut behind the whole name. -/
lemma legible_of_cut (cuts : Text.cut "::".toList (Statement.call name parameter) = some (name, parameter)) :
    Legible name := by
  constructor
  · rw [Text.includes, Option.isSome_eq_false_iff, Option.isNone_iff_eq_none]
    refine Option.eq_none_iff_forall_ne_some.mpr fun (left, right) inside => ?_
    have first := Text.cut_append inside ("::".toList ++ parameter)
    rw [← List.append_assoc] at first
    obtain ⟨rfl, -⟩ := Prod.mk.inj (Option.some.inj (cuts.symm.trans first))
    have lengths := congrArg List.length (Text.eq_append_of_cut inside)
    rw [List.length_append, List.length_append, show "::".toList.length = 2 from rfl] at lengths
    omega
  · intro last
    obtain ⟨front, rfl⟩ := List.getLast?_eq_some_iff.mp last
    obtain ⟨left, right, first, shorter⟩ := cut_call front (':' :: parameter)
    have same : Statement.call front (':' :: parameter) = Statement.call (front ++ [':']) parameter := by
      simp [Statement.call]
    rw [same, cuts] at first
    cases first
    have lengths := shorter.length_le
    rw [List.length_append] at lengths
    exact Nat.not_succ_le_self _ lengths

end Calls

/-- An errand that a line sends has its desired result behind the last equals sign. -/
lemma Sends.clear {line : Text} {errand : Errand} (sends : Sends line errand) : errand.Clear := by
  cases sends with
  | perform => trivial
  | test directive parts sides mentions =>
    exact fun mem => (Text.not_mem_of_splitPair? sides).2 (Text.mem_of_mem_trim mem)

/-- Renaming an errand does not touch its desired result. -/
lemma Errand.Clear.renamed {errand : Errand} (clear : errand.Clear) (name parameter : Text) :
    (errand.renamed name parameter).Clear := by
  cases errand with
  | perform => trivial
  | test => exact clear

/-- A test stays vain when less of its name is left. -/
lemma Errand.IsVain.renamed {errand : Errand} (vain : errand.IsVain) {name : Text} (shorter : name <+: errand.name)
    (parameter : Text) : (errand.renamed name parameter).IsVain := by
  cases errand with
  | perform => exact vain.elim
  | test =>
    obtain rfl | undesired := vain
    · exact .inl (List.prefix_nil.mp shorter)
    · exact .inr undesired

/-- The line of every errand is that of one with a legible name, which begins the name that was written. -/
lemma exists_legible (errand : Errand) : ∃ name parameter, (errand.renamed name parameter).line = errand.line ∧
    Legible name ∧ name <+: errand.name ∧ (Legible errand.name → errand.renamed name parameter = errand) := by
  obtain ⟨left, right, cuts, shorter⟩ := cut_call errand.name errand.parameter
  have whole : Statement.call left right = Statement.call errand.name errand.parameter :=
    (Text.eq_append_of_cut cuts).symm
  refine ⟨left, right, ?_, legible_of_cut (whole ▸ cuts), shorter, fun legible => ?_⟩
  · cases errand with
    | perform name parameter => rw [Errand.renamed, Errand.line, whole]; rfl
    | test name parameter desired => rw [Errand.renamed, Errand.line, whole]; rfl
  · cases (cut_of_legible legible).symm.trans cuts
    cases errand with
    | perform name parameter | test name parameter desired => rfl

end Parley.Script
