import Parley.Proofs.Script.Directives
import Parley.Proofs.Session.Strictness
import Parley.Proofs.Session.Walk

/-!
# Jumps

Where a directive of a script leads.

* `Condition.Holds`: what a directive asks for, in its own words.
* `passes_iff_holds`: what is written down as a line is read back as the condition.
* `Company.informs`: surroundings that tell what they know while they are asked, and are free otherwise.
* `comesTo_of_lines`: the test, the jump and the end of the branch, run as lines.

`leads_of_directive` closes the file: a directive leads to its target if its condition holds, or if it counts
visits and compares them with nothing.
-/

namespace Parley

open Script

namespace Script.Condition

/-- What a directive asks for holds on a stage. -/
inductive Holds (K : Company) (s : Stage) : Condition → Prop
  | equals {key value : Text} (stands : s.vars.get? key = some value) : Holds K s (.equals key value)
  | gives {name parameter desired : Text} {result : Option Text} (named : name ≠ []) (wanted : desired ≠ [])
    (results : s.resultIn K name (s.expandedIn K parameter) = some result)
    (same : Text.lower (result.getD []) = Text.lower (s.expandedIn K desired)) :
    Holds K s (.gives name parameter desired)
  | fewer {number : Text} {n : Int} {x : Session} (session : s.session = some x)
    (reads : Numeral.read number = .ok n) (less : s.vars.visits (s.agents x.agent).id < n) :
    Holds K s (.visits ('<' :: number))
  | more {number : Text} {n : Int} {x : Session} (session : s.session = some x)
    (reads : Numeral.read number = .ok n) (less : n < s.vars.visits (s.agents x.agent).id) :
    Holds K s (.visits ('>' :: number))
  | same {number : Text} {n : Int} {x : Session} (session : s.session = some x)
    (reads : Numeral.read number = .ok n) (even : s.vars.visits (s.agents x.agent).id = n) :
    Holds K s (.visits ('=' :: number))

/-- A condition as a script can state it: there is one way to take its line apart. -/
def Clear : Condition → Prop
  | .equals key value => '=' ∉ key ∧ '=' ∉ value ∧ Text.trim key = key ∧ Text.trim value = value
  | .gives name parameter desired =>
    '=' ∉ desired ∧ Text.cut "::".toList (Statement.call name parameter) = some (name, parameter)
  | .visits _ => True

end Script.Condition

/-- What a directive asks for is clear, as there is one way to read its line. -/
lemma Script.Directs.clear {line target : Text} {condition : Condition} (directs : Directs line condition target) :
    condition.Clear := by
  cases directs with
  | equals directive parts sides =>
    obtain ⟨first, second⟩ := Text.not_mem_of_splitPair? sides
    refine ⟨?_, ?_, Text.trim_trim _, Text.trim_trim _⟩
    · exact fun mem => first (Text.mem_of_mem_trim mem)
    · exact fun mem => second (Text.mem_of_mem_trim mem)
  | gives directive parts sides calls =>
    obtain ⟨-, second⟩ := Text.not_mem_of_splitPair? sides
    refine ⟨fun mem => second (Text.mem_of_mem_trim mem), ?_⟩
    rw [Text.eq_append_of_cut calls] at calls
    exact calls
  | visits directive parts => trivial

/-! ## Reading conditions back -/

section Passes

variable {K : Company} {s : Stage} {x : Session}

/-- A written test of a variable asks for its value. -/
lemma variableTest_iff {key value : Text} (first : '=' ∉ key) (second : '=' ∉ value) (trimmed : Text.trim key = key)
    (trimmed' : Text.trim value = value) :
    s.variableTest (key ++ ['='] ++ value) = true ↔ s.vars.get? key = some value := by
  unfold Stage.variableTest
  rw [Text.splitPair?_of_not_mem first second]
  dsimp only
  rw [trimmed, trimmed', beq_iff_eq]

/-- A written test of a function is read as one, unless something is missing. -/
lemma functionTest?_call {name parameter desired : Text} (plain : '=' ∉ desired)
    (calls : Text.cut "::".toList (Statement.call name parameter) = some (name, parameter)) :
    Play.functionTest? (Statement.call name parameter ++ ['='] ++ desired) =
      if desired = [] ∨ name = [] then none else some ⟨name, parameter, desired⟩ := by
  unfold Play.functionTest?
  rw [List.append_assoc, Text.cut_append calls]
  dsimp only
  rw [List.singleton_append, Text.cutLast_of_not_mem plain]
  cases desired with
  | nil => rfl
  | cons c desired =>
    cases name with
    | nil => rfl
    | cons d name => rfl

/-- A written test of a function asks for its result. -/
lemma functionPasses_iff {name parameter desired : Text} (plain : '=' ∉ desired)
    (calls : Text.cut "::".toList (Statement.call name parameter) = some (name, parameter)) :
    s.functionPasses K (Statement.call name parameter ++ ['='] ++ desired) = true ↔
      (Condition.gives name parameter desired).Holds K s := by
  unfold Stage.functionPasses
  rw [functionTest?_call plain calls]
  -- A test without a name or a result to compare with is none at all, and does not pass.
  by_cases vague : desired = [] ∨ name = []
  · rw [if_pos vague]
    constructor
    · intro passes
      cases passes
    · intro holds
      cases holds with
      | gives named wanted => exact (vague.elim wanted named).elim
  · rw [if_neg vague]
    obtain ⟨wanted, named⟩ := not_or.mp vague
    simp only [Option.any_some, Stage.passesIn]
    cases results : s.resultIn K name (s.expandedIn K parameter) with
    | none =>
      constructor
      · intro passes
        cases passes
      · intro holds
        cases holds with
        | gives _ _ results' =>
          rw [results] at results'
          cases results'
    | some result =>
      constructor
      · intro passes
        exact .gives named wanted results (beq_iff_eq.mp passes)
      · intro holds
        cases holds with
        | gives _ _ results' same =>
          rw [results] at results'
          cases results'
          exact beq_iff_eq.mpr same

/-- A condition on visits holds if its number can be read and the comparison comes out. -/
lemma holds_visits_iff {sign : Char} {number : Text} (session : s.session = some x) :
    (Condition.visits (sign :: number)).Holds K s ↔ ∃ n, Numeral.read number = .ok n ∧
      (sign = '<' ∧ s.vars.visits (s.agents x.agent).id < n ∨ sign = '>' ∧ n < s.vars.visits (s.agents x.agent).id ∨
        sign = '=' ∧ s.vars.visits (s.agents x.agent).id = n) := by
  have other {y : Session} (session' : s.session = some y) : y = x := Option.some.inj (session'.symm.trans session)
  constructor
  · intro holds
    cases holds with
    | fewer session' reads less =>
      obtain rfl := other session'
      exact ⟨_, reads, .inl ⟨rfl, less⟩⟩
    | more session' reads less =>
      obtain rfl := other session'
      exact ⟨_, reads, .inr (.inl ⟨rfl, less⟩)⟩
    | same session' reads even =>
      obtain rfl := other session'
      exact ⟨_, reads, .inr (.inr ⟨rfl, even⟩)⟩
  · rintro ⟨n, reads, ⟨rfl, less⟩ | ⟨rfl, less⟩ | ⟨rfl, even⟩⟩
    · exact .fewer session reads less
    · exact .more session reads less
    · exact .same session reads even

/-- A test of visits asks for the condition it states. -/
lemma countTest_iff {test : Text} (session : s.session = some x) :
    s.countTest test = true ↔ (Condition.visits test).Holds K s := by
  have agent : s.currentAgent? = some (s.agents x.agent) := by
    rw [Stage.currentAgent?, session]
    rfl
  unfold Stage.countTest
  rw [agent]
  cases test with
  | nil =>
    constructor
    · intro passes
      cases passes
    · intro holds
      cases holds
  | cons sign number =>
    rw [holds_visits_iff session]
    dsimp only
    cases Numeral.read number with
    | error e => simp
    | ok n =>
      by_cases less : sign = '<'
      · simp [less]
      · by_cases more : sign = '>'
        · simp [more]
        · simp [less, more]

/-- What is written down as a line is read back as the condition. -/
lemma passes_iff_holds {condition : Condition} (clear : condition.Clear) (session : s.session = some x) :
    s.passes K condition.line = true ↔ condition.Holds K s := by
  cases condition with
  | equals key value =>
    obtain ⟨first, second, trimmed, trimmed'⟩ := clear
    have written : (key ++ ['='] ++ value).isEmpty = false := by simp
    unfold Stage.passes Condition.line
    rw [written]
    refine (variableTest_iff first second trimmed trimmed').trans ⟨.equals, fun holds => ?_⟩
    cases holds with
    | equals stands => exact stands
  | gives name parameter desired =>
    obtain ⟨plain, calls⟩ := clear
    have written : (Statement.call name parameter ++ ['='] ++ desired).isEmpty = false := by simp
    unfold Stage.passes Condition.line
    rw [written]
    exact functionPasses_iff plain calls
  | visits test => exact countTest_iff session

end Passes

/-! ## Running the three lines -/

/-- A member is asked for something that it knows. -/
def Request.consults : Request → Bool
  | .keyword _ _ | .function _ _ _ => true
  | _ => false

/-- The surroundings tell from the tables of a company what a member knows, and do nothing else while they are
asked for it. Whatever else they do is up to them. -/
def Company.informs (K : Company) : Rule :=
  fun _ l =>
    match l with
    | .called (some q) _ _ => q.consults = false
    | .replied _ q r => q.consults = true → r = .ok (K.reply q)
    | _ => True

/-- Members have been asked for what they know, and the loop has come to a stage. Nothing is left to be done
for the lines before but to tell that a node has been entered. -/
def Arrives (a : Answer) (ps : List Pending) (past : List Label) (t : Stage) (past' : List Label) (m : Moment) :
    Prop :=
  (∃ new, past' = past ++ new ∧ ∀ s q, .asked s q ∈ new → q.consults = true) ∧
    (m = ⟨.stage (.run a (.done t (.ok ()))), ps⟩ ∨ m = ⟨.stage (.run a (Play.announce .nodeEntered .node t)), ps⟩)

section Jumps

open Play

variable {K : Company} {s t u : Stage} {x : Session} {past : List Label} {ps : List Pending} {a : Answer}
  {l : Line} {condition : Condition} {target : Text}

/-- Those who inform leave the stage its own steps. -/
lemma free_informs : K.informs.Free where
  silent := trivial
  told := trivial
  began := trivial
  asked := trivial
  answered := trivial

/-- Those who inform reply from their tables to what they are consulted for. -/
lemma binds_informs {q : Request} (consults : q.consults = true) : K.informs.Binds K past s q where
  uncalled := by
    intro c calls
    have free : q.consults = false := calls
    rw [consults] at free
    cases free
  replied := ⟨fun replies => replies consults, fun same _ => same⟩

/-- Members may be asked on the way. -/
lemma Arrives.of_append {new past' : List Label} {m : Moment} (only : ∀ s q, .asked s q ∈ new → q.consults = true)
    (h : Arrives a ps (past ++ new) t past' m) : Arrives a ps past t past' m := by
  obtain ⟨⟨new', rfl, only'⟩, comes⟩ := h
  refine ⟨⟨new ++ new', List.append_assoc _ _ _, fun s q mem => ?_⟩, comes⟩
  cases List.mem_append.mp mem with
  | inl mem => exact only s q mem
  | inr mem => exact only' s q mem

/-- The loop comes past a line that only members are consulted for. -/
lemma comesTo_consulting (running : s.phase = .running) (yields : runLine.Yields K (·.consults = true) s t ())
    (h : ∀ past, ComesTo K.informs (Arrives a ps past u) past ⟨.stage (.run a (.done t (.ok ()))), ps⟩) :
    ComesTo K.informs (Arrives a ps past u) past ⟨.stage (.run a (.done s (.ok ()))), ps⟩ := by
  refine comesTo_line free_informs running (fun _ => binds_informs) yields fun within => ?_
  refine (h _).mono (Arrives.of_append fun s' q mem => ?_)
  cases mem with
  | tail _ mem => exact (within _ mem).1

/-- The loop is where it is. -/
lemma comesTo_here : ComesTo K.informs (Arrives a ps past t) past ⟨.stage (.run a (.done t (.ok ()))), ps⟩ :=
  .here ⟨⟨[], (List.append_nil past).symm, fun _ _ mem => absurd mem List.not_mem_nil⟩, .inl rfl⟩

/-- Three lines of a node are those of a directive, whatever their responses. -/
structure Triple (condition : Condition) (target : Text) (test jump stop : Line) : Prop where
  test : test.bare = condition.line
  jump : jump.bare = { link := target }
  stop : stop.bare = { endIf := true }

/-- Lines that begin like those of a directive are its three lines and others. -/
lemma triple_of_lines {ls : List Line} (h : (condition.lines target).map Line.bare <+: ls.map Line.bare) :
    ∃ test jump stop more, ls = test :: jump :: stop :: more ∧ Triple condition target test jump stop := by
  obtain ⟨more, e⟩ := h
  match ls with
  | [] | [_] | [_, _] => simp [Condition.lines] at e
  | test :: jump :: stop :: more =>
    simp only [Condition.lines, List.map_cons, List.cons_append, List.cons.injEq] at e
    obtain ⟨first, second, third, -⟩ := e
    refine ⟨test, jump, stop, more, rfl, first.symm.trans ?_, second.symm, third.symm⟩
    cases condition with
    | _ => rfl

/-- The end of the branch is stepped past. -/
lemma comesTo_stop (stands : s.StandsAt x l) (stop : l.bare = { endIf := true }) :
    ComesTo K.informs (Arrives a ps past (s.atLine (x.index + 1))) past
      ⟨.stage (.run a (.done s (.ok ()))), ps⟩ := by
  have unlinked : s.node? l.link = none := by
    rw [show l.link = [] from congrArg Line.link stop]
    exact Stage.node?_nil
  apply comesTo_consulting stands.running _ fun _ => comesTo_here
  apply Yields.of_eq _ (runLine_of_idle stands (congrArg (·.setVar.key) stop) (congrArg Line.callFunction stop))
  rw [perform_onward (l := l) (congrArg Line.isTest stop) (congrArg (·.query.isValid) stop)
    (congrArg Line.elseIf stop) (.inl (congrArg Line.endIf stop))]
  exact yields_moveOn stands unlinked

/-- The jump moves on and does nothing else. -/
lemma runLine_jump (stands : s.StandsAt x l) (jump : l.bare = { link := target }) : runLine s = moveOn [] s := by
  rw [runLine_of_idle stands (congrArg (·.setVar.key) jump) (congrArg Line.callFunction jump),
    perform_onward (l := l) (congrArg Line.isTest jump) (congrArg (·.query.isValid) jump) (congrArg Line.elseIf jump)
      (.inr ⟨congrArg Line.exit jump, congrArg Line.isSilent jump⟩)]

/-- The jump is taken if there is a node to jump to. -/
lemma comesTo_jump {n : Node} (stands : s.StandsAt x l) (jump : l.bare = { link := target })
    (found : s.node? target = some n) :
    ComesTo K.informs (Arrives a ps past { s with session := some { x with node := n, index := 0 } }) past
      ⟨.stage (.run a (.done s (.ok ()))), ps⟩ := by
  have leads : targetOf s [] = some n := by
    rw [targetOf_nil stands.here, show l.link = target from congrArg Line.link jump]
    exact found
  have enters : runLine s =
      announce .nodeEntered .node { s with session := some { x with node := n, index := 0 } } := by
    rw [runLine_jump stands jump, moveOn, get_bind, leads]
    show announce .nodeEntered .node { s with session := s.session.map fun x => { x with node := n, index := 0 } } = _
    rw [stands.session]
    rfl
  refine .work (congrArg some (if_pos stands.running)) trivial (.here ⟨⟨_, rfl, fun s' q mem => ?_⟩, .inr ?_⟩)
  · cases mem with
    | tail _ mem => cases mem
  · rw [enters]

/-- Without a node to jump to, the jump and the end of the branch are stepped past. -/
lemma comesTo_past_jump {stop : Line} (stands : s.StandsAt x l) (jump : l.bare = { link := target })
    (unfound : s.node? target = none) (next : x.node.lines[x.index + 1]? = some stop)
    (stops : stop.bare = { endIf := true }) :
    ComesTo K.informs (Arrives a ps past (s.atLine (x.index + 2))) past
      ⟨.stage (.run a (.done s (.ok ()))), ps⟩ := by
  have unlinked : s.node? l.link = none := by
    rw [show l.link = target from congrArg Line.link jump]
    exact unfound
  refine comesTo_consulting (t := s.atLine (x.index + 1)) stands.running ?_ fun past => ?_
  · exact (yields_moveOn stands unlinked).of_eq (runLine_jump stands jump)
  · have stopped : ComesTo K.informs (Arrives a ps past _) past ⟨_, ps⟩ := comesTo_stop (stands.atLine next) stops
    rw [Stage.atLine_atLine] at stopped
    exact stopped

/-- A directive leads to its target if its condition holds, or if it compares the visits with nothing. -/
def Script.Condition.Leads (K : Company) (s : Stage) (condition : Condition) : Prop :=
  condition.Holds K s ∨ condition = .visits []

/-- The test of a directive neither acts nor links. -/
lemma Script.Condition.line_eq (condition : Condition) : condition.line =
    { ifVar := condition.line.ifVar, ifFunction := condition.line.ifFunction,
      ifDialogCount := condition.line.ifDialogCount } := by
  cases condition with
  | _ => rfl

section Tests

variable {test : Line} (stands : s.StandsAt x test) (tests : test.bare = condition.line)

include stands tests

/-- The line of a test does nothing else. -/
lemma runLine_test : runLine s = perform test s := by
  have plain := tests.trans condition.line_eq
  exact runLine_of_idle stands (congrArg (·.setVar.key) plain) (congrArg Line.callFunction plain)

omit stands in
/-- The line of a test links nowhere. -/
lemma node?_test : s.node? test.link = none := by
  have plain := tests.trans condition.line_eq
  rw [show test.link = [] from congrArg Line.link plain]
  exact Stage.node?_nil

/-- A test that holds is stepped past, and so is one that is none. -/
lemma yields_leading (clear : condition.Clear) (leads : condition.Leads K s) : runLine.Yields K (·.consults = true) s
    ((s.tested K test).atLine (x.index + 1)) () := by
  have plain := tests.trans condition.line_eq
  apply Yields.of_eq _ (runLine_test stands tests)
  cases tested : test.isTest with
  | true =>
    have passes : s.passes K test = true := by
      have read : s.passes K test = s.passes K condition.line := (congrArg (s.passes K) tests :)
      rw [read, passes_iff_holds clear stands.session]
      obtain holds | rfl := leads
      · exact holds
      · have untested : test.isTest = false := congrArg Line.isTest tests
        rw [tested] at untested
        cases untested
    exact yields_taken (fun _ _ => rfl) (fun _ _ _ => rfl) stands tested (congrArg (·.query.isValid) plain)
      (node?_test tests) passes
  | false =>
    -- Only a blank comparison is written down as a line without a test, and such a line shows nothing.
    rw [Stage.tested_of_untested tested, perform_onward tested (congrArg (·.query.isValid) plain)
      (congrArg Line.elseIf plain) (.inr ⟨congrArg Line.exit plain, congrArg Line.isSilent plain⟩)]
    exact yields_moveOn stands (node?_test tests)

/-- A test that does not hold passes over the jump and the end of the branch. -/
lemma yields_lagging {jump stop : Line} {more : List Line} (clear : condition.Clear)
    (lags : ¬ condition.Leads K s) (ahead : x.node.lines.drop (x.index + 1) = [jump] ++ stop :: more)
    (jumps : jump.bare = { link := target }) (stops : stop.bare = { endIf := true }) :
    runLine.Yields K (·.consults = true) s ((s.tested K test).atLine (x.index + 3)) () := by
  have plain := tests.trans condition.line_eq
  obtain ⟨fails, compares⟩ := not_or.mp lags
  have tested : test.isTest = true := by
    have read : test.isTest = condition.line.isTest := (congrArg Line.isTest tests :)
    rw [read]
    cases condition with
    | equals key value | gives name parameter desired => simp [Line.isTest, Condition.line]
    | visits test =>
      cases test with
      | nil => exact (compares rfl).elim
      | cons c number => rfl
  have unpassed : s.passes K test = false := by
    have read : s.passes K test = s.passes K condition.line := (congrArg (s.passes K) tests :)
    rw [read, Bool.eq_false_iff, Ne, passes_iff_holds clear stands.session]
    exact fails
  have unlinked : s.node? stop.link = none := by
    rw [show stop.link = [] from congrArg Line.link stops]
    exact Stage.node?_nil
  have flagged : stop.isFlag = true := congrArg Line.isFlag stops
  have unflagged : ∀ l ∈ [jump], l.isFlag = false := by
    intro l mem
    rw [List.mem_singleton.mp mem]
    exact congrArg Line.isFlag jumps
  -- The branch is the jump alone, and the line behind it ends it.
  have passed := yields_untaken (K := K) (P := (·.consults = true)) (fun _ _ => rfl) (fun _ _ _ => rfl) stands tested
    (congrArg (·.query.isValid) plain) unpassed ahead unflagged flagged unlinked
  rw [show stop.elseIf = false from congrArg Line.elseIf stops] at passed
  exact passed.of_eq (runLine_test stands tests)

end Tests

/-- The three lines of a directive, run one after another. -/
theorem comesTo_of_lines (session : s.session = some x) (running : s.phase = .running) (clear : condition.Clear)
    (lines : (condition.lines target).map Line.bare <+: (x.node.lines.drop x.index).map Line.bare) :
    (condition.Leads K s → ∀ n, s.node? target = some n → ComesTo K.informs
      (Arrives a ps past { s.tested K condition.line with session := some { x with node := n, index := 0 } }) past
      ⟨.stage (.run a (.done s (.ok ()))), ps⟩) ∧
    (¬ condition.Leads K s ∨ s.node? target = none → ComesTo K.informs
      (Arrives a ps past ((s.tested K condition.line).atLine (x.index + 3))) past
      ⟨.stage (.run a (.done s (.ok ()))), ps⟩) := by
  obtain ⟨test, jump, stop, more, e, triple⟩ := triple_of_lines lines
  have at_ (k : Nat) : x.node.lines[x.index + k]? = (test :: jump :: stop :: more)[k]? := by
    rw [← e, List.getElem?_drop]
  have ahead : x.node.lines.drop (x.index + 1) = jump :: stop :: more := by
    rw [← List.drop_drop, e]
    rfl
  have stands : s.StandsAt x test := ⟨session, running, at_ 0⟩
  have kept : s.Keeps (s.tested K test) := Stage.keeps_tested test
  have jumps : ((s.tested K test).atLine (x.index + 1)).StandsAt { x with index := x.index + 1 } jump :=
    (kept.standsAt stands).atLine (at_ 1)
  have node? (name : Text) : ((s.tested K test).atLine (x.index + 1)).node? name = s.node? name :=
    (Stage.node?_atLine _ _).trans (kept.node? name)
  rw [show s.tested K condition.line = s.tested K test from (congrArg (s.tested K) triple.test).symm]
  constructor
  · intro leads n found
    apply comesTo_consulting running (yields_leading stands triple.test clear leads)
    intro past
    exact comesTo_jump jumps triple.jump ((node? target).trans found)
  · intro lags
    -- A condition that leads has the jump and the end stepped past one by one, another one has them passed over.
    by_cases leads : condition.Leads K s
    · have unfound : s.node? target = none := lags.resolve_left fun lags => lags leads
      apply comesTo_consulting running (yields_leading stands triple.test clear leads)
      intro past
      have passed : ComesTo K.informs (Arrives a ps past _) past ⟨_, ps⟩ :=
        comesTo_past_jump jumps triple.jump ((node? target).trans unfound) (at_ 2) triple.stop
      rw [Stage.atLine_atLine] at passed
      exact passed
    · apply comesTo_consulting running (yields_lagging stands triple.test clear leads ahead triple.jump triple.stop)
      exact fun past => comesTo_here

end Jumps

/-- A line of a script for which three lines are put into a node is a directive with a condition. When the loop
comes to the first of the three, the directive leads to the first line of its target if there is such a node and
what it asks for holds; and also if it compares the visits with nothing. Otherwise it leads to the line behind the
three. Nothing is shown on the way, and of the stage only the place changes and what a function of the stage itself
changes when it is tested. -/
theorem leads_of_directive {strict : Bool} {t start raw name : Text} {pre post : List Text} {before ls : List Line}
    (whole : Text.lines t = pre ++ raw :: post)
    (inside : (pre.foldl (Draft.addLine strict) {}).current = some (name, before))
    (means : Statement.ofLine true (Text.trim raw) = .lines ls) (three : ls.length = 3) :
    ∃ condition target node, Directs (Text.trim raw) condition target ∧
      (parse strict t start).nodes[(pre.foldl (Draft.addLine strict) {}).done.length]? = some node ∧
      node.name = name ∧ (before.reverse ++ condition.lines target).map Line.bare <+: node.lines.map Line.bare ∧
      ∀ (K : Company) (s : Stage) (x : Session) (a : Answer) (past : List Label) (ps : List Pending),
        s.session = some x → s.phase = .running → x.node = node → x.index = before.length →
        (condition.Leads K s → ∀ n, s.node? target = some n → ComesTo K.informs
          (Arrives a ps past { s.tested K condition.line with session := some { x with node := n, index := 0 } }) past
          ⟨.stage (.run a (.done s (.ok ()))), ps⟩) ∧
        (¬ condition.Leads K s ∨ s.node? target = none → ComesTo K.informs
          (Arrives a ps past ((s.tested K condition.line).atLine (x.index + 3))) past
          ⟨.stage (.run a (.done s (.ok ()))), ps⟩) := by
  obtain ⟨condition, target, directs, rfl⟩ := Statement.directs_of_three three means
  obtain ⟨node, there, same, front⟩ := parse_of_lines start whole inside means
  refine ⟨condition, target, node, directs, there, same, front, fun K s x a past ps session running here first => ?_⟩
  refine comesTo_of_lines session running directs.clear ?_
  obtain ⟨more, e⟩ := front
  refine ⟨more, ?_⟩
  rw [here, first, List.map_drop, ← e, List.map_append, List.append_assoc, List.drop_left']
  rw [List.length_map, List.length_reverse]

/-! ## A fork -/

/-- A script with two directives, one of which compares the visits with nothing. -/
def fork : Text :=
  "#a\nIF: x = 1 => b\nCOUNT => b\nA: here\n#b\nA: there".toList

namespace Stage

/-- A session at the first line of a node of the fork. -/
def forked (node index : Nat) (vars : Variables) : Stage :=
  { monologue.cast 0 false fork [] with
    vars := vars
    phase := .running
    session := some ⟨0, 0, (parse false fork []).nodes.getD node default, index, none⟩ }

end Stage

/-- The variable has the value, so the first directive leads to the other node. -/
theorem leads_of_fork : ComesTo Company.reader.informs
    (Arrives .nothing [] [] (Stage.forked 1 0 (Table.empty.set ['x'] ['1']))) []
      ⟨.stage (.run .nothing (.done (Stage.forked 0 0 (Table.empty.set ['x'] ['1'])) (.ok ()))), []⟩ := by
  have whole : Text.lines fork = ["#a".toList] ++ "IF: x = 1 => b".toList ::
      ["COUNT => b".toList, "A: here".toList, "#b".toList, "A: there".toList] := by decide +kernel
  have inside : (["#a".toList].foldl (Draft.addLine false) {}).current = some (['a'], []) := by decide +kernel
  have means : Statement.ofLine true (Text.trim "IF: x = 1 => b".toList) =
      .lines ((Condition.equals ['x'] ['1']).lines ['b']) := by decide +kernel
  obtain ⟨condition, target, node, directs, there, -, -, leads⟩ :=
    @leads_of_directive false fork [] _ _ _ _ _ _ whole inside means rfl
  have same : (parse false fork []).nodes.getD 0 default = node := by
    rw [List.getD_eq_getElem?_getD, show (parse false fork []).nodes[0]? = some node from there]
    rfl
  have asks : Directs (Text.trim "IF: x = 1 => b".toList) (.equals ['x'] ['1']) ['b'] := by
    have parts : Text.splitPair? arrow ((Text.trim "IF: x = 1 => b".toList).drop 3) =
        some (" x = 1 ".toList, " b".toList) := by decide +kernel
    have sides : Text.splitPair? ['='] " x = 1 ".toList = some (" x ".toList, " 1 ".toList) := by decide +kernel
    exact .equals (by decide +kernel) parts sides
  obtain ⟨rfl, rfl⟩ := directs.unique asks
  refine (leads Company.reader (Stage.forked 0 0 (Table.empty.set ['x'] ['1'])) _ .nothing [] [] rfl rfl same rfl).1 ?_
    ((parse false fork []).nodes.getD 1 default) ?_
  · exact .inl (.equals (by decide +kernel))
  · decide +kernel

/-- The second directive compares the visits with nothing. What it asks for does not hold, and yet it leads to the
other node. -/
theorem blank_leads : Directs "COUNT => b".toList (.visits []) ['b'] ∧
    ((parse false fork []).nodes.getD 0 default).lines[3]? = some (Condition.visits []).line ∧
    ¬ (Condition.visits []).Holds Company.reader (Stage.forked 0 3 Table.empty) ∧
    ComesTo Company.reader.informs (Arrives .nothing [] [] (Stage.forked 1 0 Table.empty)) []
      ⟨.stage (.run .nothing (.done (Stage.forked 0 3 Table.empty) (.ok ()))), []⟩ := by
  refine ⟨?_, by decide +kernel, nofun, ?_⟩
  · have parts : Text.splitPair? arrow ("COUNT => b".toList.drop 5) = some (" ".toList, " b".toList) := by
      decide +kernel
    exact .visits (by decide +kernel) parts
  · have lines : ((Condition.visits []).lines ['b']).map Line.bare <+:
        (((parse false fork []).nodes.getD 0 default).lines.drop 3).map Line.bare := by decide +kernel
    have clear : (Condition.visits []).Clear := trivial
    refine (comesTo_of_lines (s := Stage.forked 0 3 Table.empty) rfl rfl clear lines).1 (.inr rfl)
      ((parse false fork []).nodes.getD 1 default) ?_
    decide +kernel

end Parley
