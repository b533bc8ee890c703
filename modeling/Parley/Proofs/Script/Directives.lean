import Mathlib.Data.List.Nodup
import Parley.Proofs.Text.Cuts
import Parley.Script.Parse

/-!
# Directives

What comes of a line of a script. A directive with a condition becomes three lines: the test, the jump, and the end of
the branch.

* `Condition`: what a directive asks for, and `Condition.line`, how the test is written down.
* `Directs`: what a directive asks for, and where it leads. `Directs.unique` says that there is one such thing.
* `Passage`, `Emits`: the lines that a line of a script adds to its node.
* `Comes`, `comes_ofLine`: all that a line of a script may come to.
* `directs_of_three`: if three lines come of a line, it is a directive with a condition.

`parse_of_lines` closes the file: the three lines stand in their node one behind another.
-/

namespace Parley

/-- The line without its responses. -/
def Line.bare (l : Line) : Line :=
  { l with responses := [] }

namespace Script

/-- What a directive asks for before it leads to its target. -/
inductive Condition where
  | equals (key value : Text)
  | gives (name parameter desired : Text)
  | visits (test : Text)
  deriving DecidableEq, Repr

/-- The line that tests a condition. -/
def Condition.line : Condition → Line
  | .equals key value => { ifVar := key ++ ['='] ++ value }
  | .gives name parameter desired => { ifFunction := Statement.call name parameter ++ ['='] ++ desired }
  | .visits test => { ifDialogCount := test }

/-- The test, the jump, and the end of the branch. -/
def Condition.lines (condition : Condition) (target : Text) : List Line :=
  [condition.line, { link := target }, { endIf := true }]

/-- A line of a script is a directive with a condition and a target. The name of a function goes as far as the
first double colon, if there is one before its parameter. -/
inductive Directs : Text → Condition → Text → Prop
  | equals {line test target key value : Text}
    (directive : Text.beginsWith "IF:".toList (Text.upper line) = true)
    (parts : Text.splitPair? arrow (line.drop 3) = some (test, target))
    (sides : Text.splitPair? ['='] test = some (key, value)) :
    Directs line (.equals (Text.trim key) (Text.trim value)) (formatLink target)
  | gives {line test target subject desired name parameter : Text}
    (directive : Text.beginsWith "IF FUNCTION:".toList (Text.upper line) = true)
    (parts : Text.splitPair? arrow (line.drop 12) = some (test, target))
    (sides : Text.splitPair? ['='] test = some (subject, desired))
    (calls : Text.cut "::".toList (Statement.call (Statement.function subject).1 (Statement.function subject).2) =
      some (name, parameter)) :
    Directs line (.gives name parameter (Text.trim desired)) (formatLink target)
  | visits {line test target : Text}
    (directive : Text.beginsWith "COUNT".toList (Text.upper line) = true)
    (parts : Text.splitPair? arrow (line.drop 5) = some (test, target)) :
    Directs line (.visits (test.filter (· ≠ ' '))) (formatLink target)

/-- What a line of a script adds to its node, responses apart. -/
inductive Passage where
  | speech (speaker text : Text)
  | writing (assignment : Assignment)
  | call (function : Text)
  | exit
  | branch (condition : Condition) (target : Text)
  deriving DecidableEq, Repr

/-- The lines of a passage, the last of which may have responses. -/
def Passage.lines : Passage → List Response → List Line
  | .speech speaker text, rs => [{ speaker := speaker, text := text, responses := rs }]
  | .writing assignment, rs => [{ setVar := assignment, responses := rs }]
  | .call function, rs => [{ callFunction := function, responses := rs }]
  | .exit, rs => [{ exit := true, responses := rs }]
  | .branch condition target, rs => [condition.line, { link := target }, { endIf := true, responses := rs }]

/-- A line of a script adds a passage. -/
inductive Emits (line : Text) : Passage → Prop
  | speech {speaker said : Text} (sides : Text.cut [':'] line = some (speaker, said)) :
    Emits line (.speech (Text.trim speaker) (Text.trim said))
  | writing {key value : Text} (directive : Text.beginsWith "SET:".toList (Text.upper line) = true)
    (sides : Text.splitPair? ['='] (line.drop 4) = some (key, value)) :
    Emits line (.writing ⟨Text.trim key, Text.trim value⟩)
  | call {name parameter : Text} (directive : Text.beginsWith "DO:".toList (Text.upper line) = true)
    (parts : Statement.function (line.drop 3) = (name, parameter)) (named : name ≠ []) :
    Emits line (.call (Statement.call name parameter))
  | exit (capitals : Text.upper line = "EXIT".toList) : Emits line .exit
  | branch {condition : Condition} {target : Text} (directs : Directs line condition target) :
    Emits line (.branch condition target)

/-- What a line of a script may come to. -/
inductive Comes (line : Text) : Bool → Statement → Prop
  | nothing {inNodes : Bool} : Comes line inNodes .nothing
  | start (target : Text) : Comes line false (.start (formatLink target))
  | node {inNodes : Bool} {name : Text} (heading : line = '#' :: name) : Comes line inNodes (.node (Text.trim name))
  | lines {inNodes : Bool} {passage : Passage} (emits : Emits line passage) :
    Comes line inNodes (.lines (passage.lines []))
  | response {inNodes : Bool} (label target : Text) : Comes line inNodes (.response ⟨label, formatLink target⟩)

/-- The names of two directives that a line begins with. -/
lemma comparable_names {line name name' : Text} (begins : Text.beginsWith name line = true)
    (begins' : Text.beginsWith name' line = true) : name <+: name' ∨ name' <+: name :=
  List.prefix_or_prefix_of_prefix (Text.beginsWith_iff.mp begins) (Text.beginsWith_iff.mp begins')

/-- A line asks for one thing at most. -/
lemma Directs.unique {line target target' : Text} {condition condition' : Condition}
    (directs : Directs line condition target) (directs' : Directs line condition' target') :
    condition = condition' ∧ target = target' := by
  cases directs with
  | equals directive parts sides =>
    cases directs' with
    | equals directive' parts' sides' =>
      cases parts.symm.trans parts'
      cases sides.symm.trans sides'
      exact ⟨rfl, rfl⟩
    | gives directive' | visits directive' => exact absurd (comparable_names directive directive') (by decide)
  | gives directive parts sides calls =>
    cases directs' with
    | gives directive' parts' sides' calls' =>
      cases parts.symm.trans parts'
      cases sides.symm.trans sides'
      cases calls.symm.trans calls'
      exact ⟨rfl, rfl⟩
    | equals directive' | visits directive' => exact absurd (comparable_names directive directive') (by decide)
  | visits directive parts =>
    cases directs' with
    | visits directive' parts' =>
      cases parts.symm.trans parts'
      exact ⟨rfl, rfl⟩
    | equals directive' | gives directive' => exact absurd (comparable_names directive directive') (by decide)

/-- A call can be cut at its double colon, or before it. -/
lemma cut_call (name parameter : Text) : ∃ name' parameter',
    Text.cut "::".toList (Statement.call name parameter) = some (name', parameter') ∧ name' <+: name := by
  have holds : ∃ left right, Text.cut "::".toList (name ++ "::".toList) = some (left, right) := by
    induction name with
    | nil => exact ⟨[], [], rfl⟩
    | cons c name ih =>
      obtain ⟨left, right, cuts⟩ := ih
      rw [List.cons_append, Text.cut]
      cases Text.after? "::".toList (c :: (name ++ "::".toList)) with
      | some rest => exact ⟨[], rest, rfl⟩
      | none =>
        rw [cuts]
        exact ⟨c :: left, right, rfl⟩
  obtain ⟨left, right, cuts⟩ := holds
  refine ⟨left, right ++ parameter, Text.cut_append cuts parameter, ?_⟩
  have whole := Text.eq_append_of_cut cuts
  have lengths := congrArg List.length whole
  simp only [List.length_append] at lengths
  rw [List.append_assoc] at whole
  exact List.prefix_of_prefix_length_le ⟨_, whole.symm⟩ (List.prefix_append name _) (by omega)

namespace Statement

/-- Inside a node a line is a directive or plain, unless it is empty or a comment. -/
lemma ofLine_true {line : Text} (h : (line.isEmpty || line.head? = some '/') = false) :
    ofLine true line = (directive? line).getD (plain line) := by
  rw [ofLine, h]
  · rfl
  · nofun

/-- A line with a heading sign begins a node, wherever it stands. -/
lemma ofLine_heading (inNodes : Bool) (name : Text) : ofLine inNodes ('#' :: name) = .node (Text.trim name) := by
  cases inNodes with
  | false | true => rfl

/-- A line gives the directive whose name it begins with. -/
lemma directive?_of_begins {line name : Text} {read : Text → Statement} (listed : (name, read) ∈ directives)
    (begins : Text.beginsWith name (Text.upper line) = true) :
    directive? line = some (read (line.drop name.length)) := by
  have apart : ∀ n ∈ directives.map Prod.fst, ∀ n' ∈ directives.map Prod.fst, n <+: n' → n = n' := by decide
  have unique : (directives.map Prod.fst).Nodup := by decide
  cases found : directives.find? fun d => Text.beginsWith d.1 (Text.upper line) with
  | none => exact absurd begins (List.find?_eq_none.mp found _ listed)
  | some d =>
    have mem := List.mem_of_find?_eq_some found
    have first : name ∈ directives.map Prod.fst := List.mem_map_of_mem listed
    have second : d.1 ∈ directives.map Prod.fst := List.mem_map_of_mem mem
    have begins' := List.find?_some found
    have same : name = d.1 := by
      cases comparable_names begins begins' with
      | inl shorter => exact apart _ first _ second shorter
      | inr shorter => exact (apart _ second _ first shorter).symm
    obtain rfl := List.inj_on_of_nodup_map unique listed mem same
    rw [directive?, found]

/-- A line that begins with the name of a directive means what that directive makes of the rest. -/
lemma ofLine_of_begins {line name : Text} {read : Text → Statement} (listed : (name, read) ∈ directives)
    (begins : Text.beginsWith name (Text.upper line) = true) : ofLine true line = read (line.drop name.length) := by
  have first : ∀ n ∈ directives.map Prod.fst, ∃ a rest, n = a :: rest ∧ a ≠ '/' := by
    simp [directives]
  obtain ⟨a, rest, rfl, solid⟩ := first name (List.mem_map_of_mem listed)
  have shown : (line.isEmpty || line.head? = some '/') = false := by
    cases line with
    | nil => cases begins
    | cons c line =>
      refine Bool.or_eq_false_iff.mpr ⟨rfl, decide_eq_false fun e => ?_⟩
      obtain rfl := Option.some.inj e
      obtain ⟨more, whole⟩ := Text.beginsWith_iff.mp begins
      exact solid (List.cons.inj whole).1
  rw [ofLine_true shown, directive?_of_begins listed begins, Option.getD_some]

/-- A test is taken apart at its one arrow, and what stands before it at its one equals sign. -/
lemma test?_eq_some {body subject desired target : Text} (h : test? body = some (subject, desired, target)) :
    ∃ test side, Text.splitPair? arrow body = some (test, target) ∧
      Text.splitPair? ['='] test = some (subject, side) ∧ desired = Text.trim side := by
  obtain ⟨⟨test, target'⟩, parts, h⟩ := Option.bind_eq_some_iff.mp h
  obtain ⟨⟨subject', side⟩, sides, h⟩ := Option.bind_eq_some_iff.mp h
  cases h
  exact ⟨test, side, parts, sides, rfl⟩

/-- A directive for a count comes to its branch or to nothing. -/
lemma comes_count {inNodes : Bool} {line : Text}
    (directive : Text.beginsWith "COUNT".toList (Text.upper line) = true) :
    Comes line inNodes (count (line.drop 5)) := by
  unfold count
  split
  · rename_i test target parts
    exact .lines (.branch (.visits directive parts))
  · exact .nothing

/-- A directive that sets a variable comes to a writing line or to nothing. -/
lemma comes_set {inNodes : Bool} {line : Text} (directive : Text.beginsWith "SET:".toList (Text.upper line) = true) :
    Comes line inNodes (set (line.drop 4)) := by
  unfold set
  split
  · rename_i key value sides
    exact .lines (.writing directive sides)
  · exact .nothing

/-- A directive that tests a function comes to its branch or to nothing. -/
lemma comes_ifFunction {inNodes : Bool} {line : Text}
    (directive : Text.beginsWith "IF FUNCTION:".toList (Text.upper line) = true) :
    Comes line inNodes (ifFunction (line.drop 12)) := by
  unfold ifFunction
  split
  · rename_i subject desired target tested
    obtain ⟨test, side, parts, sides, rfl⟩ := test?_eq_some tested
    obtain ⟨name, parameter, calls, -⟩ := cut_call (function subject).1 (function subject).2
    have comes : Comes line inNodes _ := .lines (.branch (.gives directive parts sides calls))
    rw [Passage.lines, Condition.line, Statement.call, ← Text.eq_append_of_cut calls] at comes
    exact comes
  · exact .nothing

/-- A directive that tests a variable comes to its branch or to nothing. -/
lemma comes_ifVariable {inNodes : Bool} {line : Text}
    (directive : Text.beginsWith "IF:".toList (Text.upper line) = true) :
    Comes line inNodes (ifVariable (line.drop 3)) := by
  unfold ifVariable
  split
  · rename_i key value target tested
    obtain ⟨test, side, parts, sides, rfl⟩ := test?_eq_some tested
    exact .lines (.branch (.equals directive parts sides))
  · exact .nothing

/-- A directive that calls a function comes to its call or to nothing. -/
lemma comes_perform {inNodes : Bool} {line : Text} (directive : Text.beginsWith "DO:".toList (Text.upper line) = true) :
    Comes line inNodes (perform (line.drop 3)) := by
  unfold perform
  dsimp only
  split
  · exact .nothing
  · rename_i named
    exact .lines (.call directive rfl fun e => named (List.isEmpty_iff.mpr e))

/-- A directive comes to what one of the directives may come to. -/
lemma comes_directive {inNodes : Bool} {line : Text} {st : Statement} (h : directive? line = some st) :
    Comes line inNodes st := by
  unfold directive? at h
  dsimp only at h
  split at h
  · rename_i name read found
    have begins := List.find?_some found
    have mem := List.mem_of_find?_eq_some found
    obtain rfl := Option.some.inj h
    simp only [directives, List.mem_cons, Prod.mk.injEq, List.not_mem_nil, or_false] at mem
    obtain ⟨rfl, rfl⟩ | ⟨rfl, rfl⟩ | ⟨rfl, rfl⟩ | ⟨rfl, rfl⟩ | ⟨rfl, rfl⟩ := mem
    · exact comes_count begins
    · exact comes_set begins
    · exact comes_ifFunction begins
    · exact comes_ifVariable begins
    · exact comes_perform begins
  · split at h
    · rename_i capitals
      obtain rfl := Option.some.inj h
      exact .lines (.exit capitals)
    · cases h

/-- A plain line comes to a response, speech or nothing. -/
lemma comes_plain {inNodes : Bool} (line : Text) : Comes line inNodes (plain line) := by
  unfold plain
  split
  · exact .node rfl
  · split
    · rename_i speaker said sides
      exact .lines (.speech sides)
    · split
      · unfold answer
        split
        · exact .response _ _
        · exact .nothing
      · exact .nothing

/-- Any line of a script comes to one of the things that `Comes` lists. -/
lemma comes_ofLine (inNodes : Bool) (line : Text) : Comes line inNodes (ofLine inNodes line) := by
  unfold ofLine
  split
  · exact .nothing
  · split
    · exact .start _
    · cases directive : directive? line with
      | some st => exact comes_directive directive
      | none => exact comes_plain line

/-- Three lines come of a line if it is a directive with a condition. -/
lemma directs_of_three {line : Text} {ls : List Line} (three : ls.length = 3) (h : ofLine true line = .lines ls) :
    ∃ condition target, Directs line condition target ∧ ls = condition.lines target := by
  have comes := comes_ofLine true line
  rw [h] at comes
  cases comes with
  | lines emits =>
    cases emits with
    | branch directs => exact ⟨_, _, directs, rfl⟩
    | speech | writing | call | exit => cases three

end Statement

/-! ## Drafts that grow -/

namespace Draft

/-- A node keeps its lines as more of a script is read, but for their responses. -/
def Grows (ns ns' : List Node) : Prop :=
  ∀ (k : Nat) n, ns.reverse[k]? = some n → ∃ n', ns'.reverse[k]? = some n' ∧ n'.name = n.name ∧
    n.lines.map Line.bare <+: n'.lines.map Line.bare

/-- Nodes grow into themselves. -/
lemma Grows.refl {ns : List Node} : Grows ns ns :=
  fun _ n here => ⟨n, here, rfl, List.prefix_rfl⟩

/-- Nodes may grow further. -/
lemma Grows.trans {ns ns' ns'' : List Node} (h : Grows ns ns') (h' : Grows ns' ns'') : Grows ns ns'' := by
  intro k n here
  obtain ⟨n', there, name, more⟩ := h k n here
  obtain ⟨n'', there', name', more'⟩ := h' k n' there
  exact ⟨n'', there', name'.trans name, more.trans more'⟩

/-- Nodes grow by another node. -/
lemma grows_cons {ns : List Node} (n : Node) : Grows ns (n :: ns) := by
  intro k m here
  refine ⟨m, ?_, rfl, List.prefix_rfl⟩
  rw [List.reverse_cons, List.getElem?_append_left (List.getElem?_eq_some_iff.mp here).1]
  exact here

/-- It is the last node that grows. -/
lemma grows_head {ns : List Node} {name : Text} {ls ls' : List Line}
    (more : ls.reverse.map Line.bare <+: ls'.reverse.map Line.bare) :
    Grows (close (name, ls) :: ns) (close (name, ls') :: ns) := by
  intro k n here
  rw [List.reverse_cons] at here ⊢
  by_cases front : k < ns.reverse.length
  · rw [List.getElem?_append_left front] at here ⊢
    exact ⟨n, here, rfl, List.prefix_rfl⟩
  · rw [List.getElem?_append_right (Nat.le_of_not_lt front)] at here ⊢
    obtain ⟨last, rfl⟩ := List.getElem?_eq_some_iff.mp here
    have first : k - ns.reverse.length = 0 := Nat.lt_one_iff.mp last
    refine ⟨close (name, ls'), ?_, ?_, ?_⟩
    · rw [first]
      rfl
    · simp [close]
    · simpa [close] using more

/-- The nodes of a draft grow with each statement. -/
lemma grows_add (strict : Bool) (d : Draft) (st : Statement) : Grows d.nodes (d.add strict st).nodes := by
  obtain ⟨start, done, current⟩ := d
  cases st with
  | nothing => exact .refl
  | start name =>
    unfold add
    dsimp only
    split
    · exact .refl
    · exact .refl
  | node name => exact grows_cons _
  | lines ls =>
    cases current with
    | none => exact .refl
    | some node =>
      refine grows_head ?_
      rw [List.reverse_append, List.reverse_reverse, List.map_append]
      exact List.prefix_append _ _
  | response r =>
    cases current with
    | none => exact .refl
    | some node =>
      obtain ⟨name, lines⟩ := node
      cases lines with
      | nil => exact .refl
      | cons l lines =>
        unfold add
        dsimp only
        split
        · exact .refl
        · refine grows_head ?_
          rw [List.reverse_cons, List.reverse_cons, List.map_append, List.map_append]
          exact List.prefix_rfl

/-- The nodes of a draft grow with the lines that are read. -/
lemma grows_foldl (strict : Bool) (lines : List Text) (d : Draft) :
    Grows d.nodes (lines.foldl (addLine strict) d).nodes := by
  induction lines generalizing d with
  | nil => exact .refl
  | cons line lines ih => exact (grows_add strict d _).trans (ih _)

end Draft

/-- Lines that come of a line of a script stand in the node it is written in, one behind another. -/
theorem parse_of_lines {strict : Bool} {t raw name : Text} {pre post : List Text} {before ls : List Line} (start : Text)
    (whole : Text.lines t = pre ++ raw :: post)
    (inside : (pre.foldl (Draft.addLine strict) {}).current = some (name, before))
    (means : Statement.ofLine true (Text.trim raw) = .lines ls) :
    ∃ node, (parse strict t start).nodes[(pre.foldl (Draft.addLine strict) {}).done.length]? = some node ∧
      node.name = name ∧ (before.reverse ++ ls).map Line.bare <+: node.lines.map Line.bare := by
  unfold parse
  dsimp only
  rw [whole, List.foldl_append, List.foldl_cons]
  generalize pre.foldl (Draft.addLine strict) {} = d at inside ⊢
  have here : (d.addLine strict raw).nodes = Draft.close (name, ls.reverse ++ before) :: d.done := by
    rw [Draft.addLine, inside, Option.isSome_some, means]
    simp [Draft.add, Draft.nodes, inside]
  have first : (d.addLine strict raw).nodes.reverse[d.done.length]? =
      some (Draft.close (name, ls.reverse ++ before)) := by
    rw [here, List.reverse_cons, ← List.length_reverse, List.getElem?_concat_length]
  obtain ⟨node, there, same, more⟩ := Draft.grows_foldl strict post _ _ _ first
  refine ⟨node, there, same, ?_⟩
  simpa [Draft.close] using more

end Script

end Parley
