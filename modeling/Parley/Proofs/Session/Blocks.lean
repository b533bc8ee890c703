import Parley.Proofs.Session.Stroll

/-!
# Blocks

Branches one behind another, and what is run of them.

* `Branch`: the line at its head, and its body.
* `Stage.visit`: a stage when a line of a node has been run, and `Stage.leaves`, what is left of it.
* `Branch.plan`: the lines of a block that are run.
* `walks_branches`: a session walks through a block as planned, whether it has come to it in sequence or not.

`walks_block` closes the file.
-/

namespace Parley

/-- A line is handed to the presenter. -/
def Line.isShown (l : Line) : Bool :=
  !l.isTest && !l.isFlag && !l.exit && !l.isSilent

namespace Stage

variable {K : Company} {n : Node} {s : Stage}

/-- The stage when a line of a node has been run, wherever the session is then. -/
def ran (K : Company) (n : Node) (s : Stage) (l : Line) : Stage :=
  if l.isShown then (s.acted K l).shown n else (s.acted K l).tested K l

/-- The stage when one of the lines of a node has been run. -/
def visit (K : Company) (n : Node) (s : Stage) (i : Nat) : Stage :=
  match n.lines[i]? with
  | none => s
  | some l => (s.atLine i).ran K n l

/-- What is left of one of the lines of a node. -/
def leaves (K : Company) (n : Node) (s : Stage) (i : Nat) : List Mark :=
  match n.lines[i]? with
  | none => []
  | some l => .line n i :: if l.isShown then [.shown (((s.atLine i).acted K l).expandedLine K l)] else []

/-- The stage when some of the lines of a node have been run, one after another. -/
def toured (K : Company) (n : Node) (s : Stage) (is : List Nat) : Stage :=
  is.foldl (visit K n) s

/-- What is left of some of the lines of a node. -/
def seen (K : Company) (n : Node) : Stage → List Nat → List Mark
  | _, [] => []
  | s, i :: is => s.leaves K n i ++ seen K n (s.visit K n i) is

/-- Lines that are run in two parts are run one part after the other. -/
lemma toured_append (is js : List Nat) : s.toured K n (is ++ js) = (s.toured K n is).toured K n js :=
  List.foldl_append

/-- What is left of lines in two parts is left of one part after the other. -/
lemma seen_append (is js : List Nat) : s.seen K n (is ++ js) = s.seen K n is ++ (s.toured K n is).seen K n js := by
  induction is generalizing s with
  | nil => rfl
  | cons i is ih =>
    rw [List.cons_append, seen, seen, ih, List.append_assoc]
    rfl

/-- A session is at a node, and what it shows can be gone on from. -/
structure Ready (n : Node) (s : Stage) : Prop where
  node : s.session.map Session.node = some n
  running : s.phase = .running
  inRun : s.inRun = true
  presenter : s.presenter ≠ none

variable {i : Nat} {l : Line} {name : Text}

/-- A session that is ready stands at any line of its node that it is moved to. -/
lemma Ready.standsAt (ready : s.Ready n) (line : n.lines[i]? = some l) :
    ∃ x, x.node = n ∧ x.index = i ∧ (s.atLine i).StandsAt x l := by
  obtain ⟨x, session, rfl⟩ := Option.map_eq_some_iff.mp ready.node
  exact ⟨{ x with index := i }, rfl, rfl, session_atLine session i, ready.running, line⟩

/-- A session stays ready when it is moved to another line. -/
lemma Ready.atLine (ready : s.Ready n) (i : Nat) : (s.atLine i).Ready n where
  node := by
    rw [Stage.atLine, Option.map_map]
    exact ready.node
  running := ready.running
  inRun := ready.inRun
  presenter := ready.presenter

/-- A session stays ready on a stage that keeps it. -/
lemma Ready.keeps {t : Stage} (ready : s.Ready n) (keeps : s.Keeps t) : t.Ready n where
  node := by
    rw [keeps.session]
    exact ready.node
  running := keeps.phase.trans ready.running
  inRun := keeps.inRun.trans ready.inRun
  presenter := by
    rw [keeps.presenter]
    exact ready.presenter

/-- A line that has been run keeps the session where it is. -/
lemma keeps_ran (running : s.phase = .running) : s.Keeps (s.ran K n l) := by
  unfold ran
  have acts : s.Keeps (s.acted K l) := keeps_acted l
  split
  · exact acts.trans (keeps_shown (acts.phase.trans running))
  · exact acts.trans (keeps_tested l)

/-- A session stays ready over a line of its node. -/
lemma Ready.visit (ready : s.Ready n) (i : Nat) : (s.visit K n i).Ready n := by
  unfold Stage.visit
  split
  · exact ready
  · exact (ready.atLine i).keeps (keeps_ran (ready.atLine i).running)

/-- A session stays ready over some lines of its node. -/
lemma Ready.toured (ready : s.Ready n) (is : List Nat) : (s.toured K n is).Ready n := by
  induction is generalizing s with
  | nil => exact ready
  | cons i is ih => exact ih (ready.visit i)

/-- No line changes which nodes there are. -/
lemma Ready.node?_visit (ready : s.Ready n) (i : Nat) (name : Text) : (s.visit K n i).node? name = s.node? name := by
  unfold Stage.visit
  split
  · rfl
  · exact ((keeps_ran (ready.atLine i).running).node? name).trans (node?_atLine i name)

/-- Lines do not change which nodes there are. -/
lemma Ready.node?_toured (ready : s.Ready n) (is : List Nat) (name : Text) :
    (s.toured K n is).node? name = s.node? name := by
  induction is generalizing s with
  | nil => rfl
  | cons i is ih => exact (ih (ready.visit i)).trans (ready.node?_visit i name)

end Stage

/-! ## Single lines -/

section Lines

open Play

variable {K : Company} {pace : Pace} {c : Call} {n : Node} {s : Stage} {i j : Nat} {l : Line}

/-- A line that is there is run from where it stands. -/
lemma visit_of_line (line : n.lines[i]? = some l) : s.visit K n i = (s.atLine i).ran K n l := by
  rw [Stage.visit, line]

/-- A line that is there leaves its mark, and is shown if it is one to show. -/
lemma leaves_of_line (line : n.lines[i]? = some l) : s.leaves K n i =
    .line n i :: if l.isShown then [.shown (((s.atLine i).acted K l).expandedLine K l)] else [] := by
  rw [Stage.leaves, line]

/-- A line that is not shown is walked past. -/
lemma walks_hidden (ready : s.Ready n) (line : n.lines[i]? = some l) (hidden : l.isShown = false)
    (h : ∀ {x}, x.node = n → x.index = i → ((s.atLine i).acted K l).StandsAt x l →
      (perform l).Yields K (·.handsOut = false) ((s.atLine i).acted K l)
        ((((s.atLine i).acted K l).tested K l).atLine j) ()) :
    K.Walks pace c (s.atLine i) (s.leaves K n i) ((s.visit K n i).atLine j) := by
  obtain ⟨x, node, index, stands⟩ := ready.standsAt line
  have walks : K.Walks pace c (s.atLine i) _ _ :=
    Company.walks_line stands (h node index ((Stage.keeps_acted l).standsAt stands))
  rw [visit_of_line line, leaves_of_line line, Stage.ran, hidden]
  rw [node, index] at walks
  exact walks

/-- What a line does before it is tested does not change which nodes there are. -/
lemma node?_acted (name : Text) : ((s.atLine i).acted K l).node? name = s.node? name :=
  ((Stage.keeps_acted l).node? name).trans (Stage.node?_atLine i name)

/-- A line of a body or the end of a block is walked past. -/
lemma walks_past (strolls : K.Strolls) (ready : s.Ready n) (line : n.lines[i]? = some l)
    (unlinked : s.node? l.link = none) (untested : l.isTest = false) (unasked : l.query.isValid = false)
    (onward : l.elseIf = false) (stays : l.endIf = true ∨ l.exit = false) :
    K.Walks pace c (s.atLine i) (s.leaves K n i) ((s.visit K n i).atLine (i + 1)) := by
  -- Nothing is handed out for a hidden line, and a shown line hands itself out before it moves on.
  cases shows : l.isShown with
  | false =>
    refine walks_hidden ready line shows fun node index stands => ?_
    have quiet : l.endIf = true ∨ l.exit = false ∧ l.isSilent = true := by
      simp only [Line.isShown, Line.isFlag, untested, onward] at shows
      cases stop : l.endIf with
      | true => exact .inl rfl
      | false =>
        have stays : l.exit = false := stays.resolve_left (Bool.eq_false_iff.mp stop)
        rw [stop, stays] at shows
        exact .inr ⟨stays, by simpa using shows⟩
    rw [perform_onward untested unasked onward quiet, Stage.tested_of_untested untested]
    have moves := yields_moveOn (K := K) (P := (·.handsOut = false)) stands ((node?_acted _).trans unlinked)
    rw [index] at moves
    exact moves
  | true =>
    obtain ⟨x, node, index, stands⟩ := ready.standsAt line
    obtain ⟨p, presenter⟩ := Option.ne_none_iff_exists'.mp ready.presenter
    have spoken : l.isFlag = false ∧ l.exit = false ∧ l.isSilent = false := by
      simpa [Line.isShown, untested, and_assoc] using shows
    have performs : perform l = showLine l := by
      rw [perform_untested untested unasked, onward, spoken.2.1, spoken.2.2]
      rw [Line.isFlag, onward, Bool.false_or] at spoken
      rw [spoken.1]
      rfl
    have walks : K.Walks pace c (s.atLine i) _ _ :=
      Company.walks_shown strolls stands ready.inRun presenter ((Stage.node?_atLine i _).trans unlinked) performs
    rw [visit_of_line line, leaves_of_line line, Stage.ran, shows]
    rw [node, index] at walks
    exact walks

section Heads

variable (ready : s.Ready n) (line : n.lines[i]? = some l) (unasked : l.query.isValid = false)

include ready line unasked

/-- A head with a test that passes leads into its body. -/
lemma walks_into (unlinked : s.node? l.link = none) (test : l.isTest = true)
    (passes : ((s.atLine i).acted K l).passes K l = true) :
    K.Walks pace c (s.atLine i) (s.leaves K n i) ((s.visit K n i).atLine (i + 1)) := by
  refine walks_hidden ready line ?_ fun node index stands => ?_
  · rw [Line.isShown, test]
    rfl
  · have takes := yields_taken (K := K) (P := (·.handsOut = false)) (fun _ _ => rfl) (fun _ _ _ => rfl) stands test
      unasked ((node?_acted _).trans unlinked) passes
    rw [index] at takes
    exact takes

variable {body more : List Line} {flag : Line} (ahead : n.lines.drop (i + 1) = body ++ flag :: more)
  (plain : ∀ l ∈ body, l.isFlag = false) (flagged : flag.isFlag = true) (unlinked : s.node? flag.link = none)

include ahead plain flagged unlinked

/-- A head with a test that fails leads over its body. -/
lemma walks_over (test : l.isTest = true) (fails : ((s.atLine i).acted K l).passes K l = false) :
    K.Walks pace c (s.atLine i) (s.leaves K n i)
      ((s.visit K n i).atLine (i + 1 + body.length + if flag.elseIf && flag.hasCondition then 0 else 1)) := by
  refine walks_hidden ready line ?_ fun node index stands => ?_
  · rw [Line.isShown, test]
    rfl
  · rw [← node, ← index] at ahead
    have leads := yields_untaken (K := K) (P := (·.handsOut = false)) (fun _ _ => rfl) (fun _ _ _ => rfl) stands test
      unasked fails ahead plain flagged ((node?_acted _).trans unlinked)
    rw [index] at leads
    exact leads

/-- A head without a test that is come to in sequence leads over its body. -/
lemma walks_aside (untested : l.isTest = false) (other : l.elseIf = true) :
    K.Walks pace c (s.atLine i) (s.leaves K n i)
      ((s.visit K n i).atLine (i + 1 + body.length + if flag.elseIf && flag.hasCondition then 0 else 1)) := by
  refine walks_hidden ready line ?_ fun node index stands => ?_
  · rw [Line.isShown, Line.isFlag, other, untested]
    rfl
  · rw [← node, ← index] at ahead
    rw [perform_untested untested unasked, other, Stage.tested_of_untested untested]
    have leads := yields_passOver (K := K) (P := (·.handsOut = false)) stands ahead plain flagged
      ((node?_acted _).trans unlinked)
    rw [index] at leads
    exact leads

end Heads

end Lines

/-! ## Branches -/

/-- A line that may stand in a body. -/
structure Line.Plain (l : Line) : Prop where
  untested : l.isTest = false
  unasked : l.query.isValid = false
  unflagged : l.isFlag = false
  stays : l.exit = false

/-- The line at the head of a branch, and its body. -/
structure Branch where
  head : Line
  body : List Line

namespace Branch

/-- The lines of a branch, its head first. -/
def lines (b : Branch) : List Line :=
  b.head :: b.body

/-- A branch as it may stand in a block: no line of it links anywhere. -/
structure Fits (s : Stage) (b : Branch) : Prop where
  unasked : b.head.query.isValid = false
  plain : ∀ l ∈ b.body, l.Plain
  unlinked : ∀ l ∈ b.lines, s.node? l.link = none

/-- Whether the body of a branch is run, on the stage on which the head is come to. A head with a test acts before
it is tested. Without a test the body is run unless the lines before the head have been run. -/
def taken (K : Company) (ran : Bool) (s : Stage) (b : Branch) : Bool :=
  if b.head.isTest then (s.acted K b.head).passes K b.head else !ran

/-- The lines of a branch that are run. The head is run if the lines before it have been run, or if it has a
test. -/
def run (K : Company) (ran : Bool) (i : Nat) (s : Stage) (b : Branch) : List Nat :=
  (if ran || b.head.isTest then [i] else []) ++
    if b.taken K ran (s.atLine i) then List.range' (i + 1) b.body.length else []

/-- The lines that are run of branches one behind another, and of the end behind them. -/
def plan (K : Company) (n : Node) : (ran : Bool) → (i : Nat) → Stage → List Branch → List Nat
  | ran, i, _, [] => if ran then [i] else []
  | ran, i, s, b :: bs =>
    b.run K ran i s ++ plan K n (b.taken K ran (s.atLine i)) (i + 1 + b.body.length) (s.toured K n (b.run K ran i s)) bs

/-- Where a session goes on at a flag: there, if the lines before it have been run or if it has a test, and otherwise
behind it. -/
def entry (ran : Bool) (i : Nat) (flag : Line) : Nat :=
  if ran || flag.elseIf && flag.isTest then i else i + 1

end Branch

section Branches

variable {K : Company} {pace : Pace} {c : Call} {n : Node} {s : Stage} {ran : Bool} {i : Nat} {b : Branch} {flag : Line}
  {more : List Line}

/-- What remains behind some lines begins with the line there. -/
lemma line_of_drop {ls : List Line} {l : Line} (there : ls.drop i = l :: more) : ls[i]? = some l := by
  rw [← List.head?_drop, there]
  rfl

/-- What remains behind a line is the rest of what remained in front of it. -/
lemma drop_succ_of_drop {ls : List Line} {l : Line} (there : ls.drop i = l :: more) : ls.drop (i + 1) = more := by
  rw [← List.drop_drop, there]
  rfl

/-- What remains behind some lines is the rest of what remained in front of them. -/
lemma drop_of_drop {ls front : List Line} (there : ls.drop i = front ++ more) : ls.drop (i + front.length) = more := by
  rw [← List.drop_drop, there, List.drop_left]

/-- All lines of a body are run, in order. -/
lemma walks_body (strolls : K.Strolls) {body : List Line} (ready : s.Ready n)
    (there : n.lines.drop i = body ++ more) (plain : ∀ l ∈ body, l.Plain)
    (unlinked : ∀ l ∈ body, s.node? l.link = none) :
    K.Walks pace c (s.atLine i) (s.seen K n (List.range' i body.length))
      ((s.toured K n (List.range' i body.length)).atLine (i + body.length)) := by
  induction body generalizing i s with
  | nil => exact .refl
  | cons l body ih =>
    have here := plain l List.mem_cons_self
    have flags := Bool.or_eq_false_iff.mp here.unflagged
    have first : K.Walks pace c (s.atLine i) _ _ := walks_past strolls ready (line_of_drop there)
      (unlinked l List.mem_cons_self) here.untested here.unasked flags.1 (.inr here.stays)
    have behind : n.lines.drop (i + 1) = body ++ more := drop_succ_of_drop there
    have rest := ih (ready.visit (K := K) i) behind (fun l mem => plain l (List.mem_cons_of_mem _ mem)) fun l mem =>
      (ready.node?_visit i _).trans (unlinked l (List.mem_cons_of_mem _ mem))
    rw [List.length_cons, List.range'_succ, Nat.add_comm body.length 1, ← Nat.add_assoc]
    exact first.trans rest

/-- Where a branch that has not been taken leads to. -/
lemma entry_false (unasked : flag.query.isValid = false) :
    Branch.entry false i flag = i + if flag.elseIf && flag.hasCondition then 0 else 1 := by
  rw [Branch.entry, Bool.false_or, Line.hasCondition_of_unasked unasked]
  split
  · rfl
  · rfl

/-- A single line leaves what it leaves. -/
lemma seen_singleton : s.seen K n [i] = s.leaves K n i :=
  List.append_nil _

section Single

variable (strolls : K.Strolls) (ready : s.Ready n) (fits : b.Fits s) (there : n.lines.drop i = b.lines ++ flag :: more)
  (flagged : flag.isFlag = true) (unasked : flag.query.isValid = false) (unlinked : s.node? flag.link = none)

include strolls ready fits there flagged unasked unlinked

/-- A branch with a test, which is come to whether the lines before it have been run or not. -/
lemma walks_tested (test : b.head.isTest = true) :
    K.Walks pace c (s.atLine i) (s.seen K n (b.run K ran i s)) ((s.toured K n (b.run K ran i s)).atLine
      (Branch.entry (b.taken K ran (s.atLine i)) (i + 1 + b.body.length) flag)) := by
  have line : n.lines[i]? = some b.head := line_of_drop there
  have ahead : n.lines.drop (i + 1) = b.body ++ flag :: more := drop_succ_of_drop there
  have leads : b.taken K ran (s.atLine i) = ((s.atLine i).acted K b.head).passes K b.head := by
    rw [Branch.taken, if_pos test]
  rw [Branch.run, test, Bool.or_true, if_pos rfl, leads]
  cases passes : ((s.atLine i).acted K b.head).passes K b.head with
  | true =>
    have head : K.Walks pace c (s.atLine i) _ _ :=
      walks_into ready line fits.unasked (fits.unlinked _ List.mem_cons_self) test passes
    have body : K.Walks pace c ((s.visit K n i).atLine (i + 1)) _ _ :=
      walks_body strolls (ready.visit i) ahead fits.plain fun l mem =>
        (ready.node?_visit i _).trans (fits.unlinked l (List.mem_cons_of_mem _ mem))
    exact head.trans body
  | false =>
    have head : K.Walks pace c (s.atLine i) _ _ := walks_over ready line fits.unasked ahead
      (fun l mem => (fits.plain l mem).unflagged) flagged unlinked test passes
    rw [← entry_false unasked, ← seen_singleton] at head
    exact head

/-- A branch without a test. If the lines before it have not been run, its head has been passed over. -/
lemma walks_untested (untested : b.head.isTest = false) (other : b.head.elseIf = true) :
    K.Walks pace c (s.atLine (if ran then i else i + 1)) (s.seen K n (b.run K ran i s))
      ((s.toured K n (b.run K ran i s)).atLine
        (Branch.entry (b.taken K ran (s.atLine i)) (i + 1 + b.body.length) flag)) := by
  have line : n.lines[i]? = some b.head := line_of_drop there
  have ahead : n.lines.drop (i + 1) = b.body ++ flag :: more := drop_succ_of_drop there
  have leads : b.taken K ran (s.atLine i) = !ran := by
    rw [Branch.taken, untested]
    rfl
  rw [Branch.run, leads, untested, Bool.or_false]
  cases ran with
  | true =>
    have head : K.Walks pace c (s.atLine i) _ _ := walks_aside ready line fits.unasked ahead
      (fun l mem => (fits.plain l mem).unflagged) flagged unlinked untested other
    rw [← entry_false unasked, ← seen_singleton] at head
    exact head
  | false =>
    exact walks_body strolls ready ahead fits.plain fun l mem => fits.unlinked l (List.mem_cons_of_mem _ mem)

/-- One branch, up to the flag behind it. -/
lemma walks_branch (other : b.head.elseIf = true ∨ ran = true ∧ b.head.isTest = true) :
    K.Walks pace c (s.atLine (Branch.entry ran i b.head)) (s.seen K n (b.run K ran i s))
      ((s.toured K n (b.run K ran i s)).atLine
        (Branch.entry (b.taken K ran (s.atLine i)) (i + 1 + b.body.length) flag)) := by
  cases test : b.head.isTest with
  | true =>
    have here : Branch.entry ran i b.head = i := by
      rw [Branch.entry, test]
      obtain other | ⟨rfl, -⟩ := other
      · rw [other, Bool.and_self, Bool.or_true]
        rfl
      · rfl
    rw [here]
    exact walks_tested strolls ready fits there flagged unasked unlinked test
  | false =>
    have begins : b.head.elseIf = true := by
      obtain other | ⟨-, tested⟩ := other
      · exact other
      · rw [test] at tested
        cases tested
    rw [Branch.entry, test, Bool.and_false, Bool.or_false]
    exact walks_untested strolls ready fits there flagged unasked unlinked test begins

end Single

/-- The line behind the branches. -/
structure Line.Stops (s : Stage) (l : Line) : Prop where
  endIf : l.endIf = true
  untested : l.isTest = false
  unasked : l.query.isValid = false
  onward : l.elseIf = false
  unlinked : s.node? l.link = none

/-- A branch fits a stage with the same nodes. -/
lemma Branch.Fits.keeps {t : Stage} (fits : b.Fits s) (same : ∀ name, t.node? name = s.node? name) : b.Fits t :=
  ⟨fits.unasked, fits.plain, fun l mem => (same l.link).trans (fits.unlinked l mem)⟩

/-- The line that branches begin with, or else the one behind them. -/
def Branch.ahead (stop : Line) : List Branch → Line
  | [] => stop
  | b :: _ => b.head

variable {bs : List Branch} {stop : Line}

/-- What is behind a branch is a flag that can be gone on from. -/
lemma ahead_eq (more : List Line) (fits : ∀ b ∈ bs, b.Fits s) (others : ∀ b ∈ bs, b.head.elseIf = true)
    (stops : stop.Stops s) :
    (Branch.ahead stop bs).isFlag = true ∧ (Branch.ahead stop bs).query.isValid = false ∧
      s.node? (Branch.ahead stop bs).link = none ∧
      ∃ rest, bs.flatMap Branch.lines ++ stop :: more = Branch.ahead stop bs :: rest := by
  cases bs with
  | nil =>
    have flagged : stop.isFlag = true := by
      rw [Line.isFlag, stops.endIf, Bool.or_true]
    exact ⟨flagged, stops.unasked, stops.unlinked, more, rfl⟩
  | cons b bs =>
    have here := fits b List.mem_cons_self
    have flagged : b.head.isFlag = true := by
      rw [Line.isFlag, others b List.mem_cons_self, Bool.true_or]
    exact ⟨flagged, here.unasked, here.unlinked _ List.mem_cons_self, _, rfl⟩

/-- A session walks through branches as planned, whether it has come to them in sequence or has passed over what is
in front of them. -/
theorem walks_branches (strolls : K.Strolls) (ready : s.Ready n) (fits : ∀ b ∈ bs, b.Fits s)
    (opens : ∀ b ∈ bs.head?, b.head.elseIf = true ∨ ran = true ∧ b.head.isTest = true)
    (others : ∀ b ∈ bs.tail, b.head.elseIf = true) (stops : stop.Stops s)
    (there : n.lines.drop i = bs.flatMap Branch.lines ++ stop :: more) :
    K.Walks pace c (s.atLine (Branch.entry ran i (Branch.ahead stop bs))) (s.seen K n (Branch.plan K n ran i s bs))
      ((s.toured K n (Branch.plan K n ran i s bs)).atLine (i + (bs.flatMap Branch.lines).length + 1)) := by
  -- On the branches: each one leads to the flag behind it, where the rest of them is come to in sequence or not.
  induction bs generalizing ran i s with
  | nil =>
    cases ran with
    | true =>
      have past : K.Walks pace c (s.atLine i) _ _ := walks_past strolls ready (line_of_drop there) stops.unlinked
        stops.untested stops.unasked stops.onward (.inl stops.endIf)
      rw [← seen_singleton] at past
      exact past
    | false =>
      rw [Branch.entry, Branch.ahead, stops.onward]
      exact .refl
  | cons b bs ih =>
    have tail : ∀ b' ∈ bs, b'.Fits s := fun b' mem => fits b' (List.mem_cons_of_mem _ mem)
    have same := ready.node?_toured (K := K) (b.run K ran i s)
    have shift : i + b.lines.length = i + 1 + b.body.length := by
      rw [Branch.lines, List.length_cons, Nat.add_comm b.body.length, Nat.add_assoc]
    rw [List.flatMap_cons, List.append_assoc] at there
    have behind : n.lines.drop (i + 1 + b.body.length) = bs.flatMap Branch.lines ++ stop :: more := by
      rw [← shift]
      exact drop_of_drop there
    obtain ⟨flagged, unasked, unlinked, rest, e⟩ := ahead_eq more tail others stops
    have first : K.Walks pace c (s.atLine (Branch.entry ran i b.head)) _ _ :=
      walks_branch strolls ready (fits b List.mem_cons_self) (there.trans (congrArg _ e)) flagged unasked unlinked
        (opens b rfl)
    have next : K.Walks pace c ((s.toured K n (b.run K ran i s)).atLine
        (Branch.entry (b.taken K ran (s.atLine i)) (i + 1 + b.body.length) (Branch.ahead stop bs))) _ _ :=
      ih (ready.toured (b.run K ran i s)) (fun b' mem => (tail b' mem).keeps same)
        (fun b' mem => .inl (others b' (List.mem_of_mem_head? mem)))
        (fun b' mem => others b' (List.mem_of_mem_tail mem))
        ⟨stops.endIf, stops.untested, stops.unasked, stops.onward, (same _).trans stops.unlinked⟩ behind
    have whole : i + ((b :: bs).flatMap Branch.lines).length + 1 =
        i + 1 + b.body.length + (bs.flatMap Branch.lines).length + 1 := by
      rw [List.flatMap_cons, List.length_append, ← Nat.add_assoc, shift]
    rw [Branch.plan, Stage.seen_append, Stage.toured_append, whole]
    exact first.trans next

/-! ## Plans -/

namespace Branch

/-- Whether the lines in front have been run when a session has come behind branches, and the stage then. -/
def passed (K : Company) (n : Node) : (ran : Bool) → (i : Nat) → Stage → List Branch → Bool × Stage
  | ran, _, s, [] => (ran, s)
  | ran, i, s, b :: bs =>
    passed K n (b.taken K ran (s.atLine i)) (i + 1 + b.body.length) (s.toured K n (b.run K ran i s)) bs

/-- The lines of a branch that are run are its head and its body, each under its condition. -/
lemma mem_run {j : Nat} : j ∈ b.run K ran i s ↔
    (j = i ∧ (ran || b.head.isTest) = true) ∨
      (i < j ∧ j < i + 1 + b.body.length ∧ b.taken K ran (s.atLine i) = true) := by
  have first : j ∈ (if ran || b.head.isTest then [i] else []) ↔ j = i ∧ (ran || b.head.isTest) = true := by
    split
    · rename_i begins
      rw [List.mem_singleton, and_iff_left begins]
    · rename_i skipped
      exact ⟨nofun, fun here => (skipped here.2).elim⟩
  have inside : j ∈ (if b.taken K ran (s.atLine i) then List.range' (i + 1) b.body.length else []) ↔
      i < j ∧ j < i + 1 + b.body.length ∧ b.taken K ran (s.atLine i) = true := by
    split
    · rename_i taken
      rw [List.mem_range'_1, and_iff_left taken, Nat.succ_le_iff]
    · rename_i untaken
      exact ⟨nofun, fun here => (untaken here.2.2).elim⟩
  unfold run
  rw [List.mem_append, first, inside]

/-- No line before a block is run as part of it. -/
lemma le_of_mem_plan {j : Nat} (mem : j ∈ plan K n ran i s bs) : i ≤ j := by
  induction bs generalizing ran i s with
  | nil =>
    cases ran with
    | true => exact Nat.le_of_eq (List.mem_singleton.mp mem).symm
    | false => cases mem
  | cons b bs ih =>
    cases List.mem_append.mp mem with
    | inl mem =>
      obtain ⟨rfl, -⟩ | ⟨behind, -⟩ := mem_run.mp mem
      · exact Nat.le_refl _
      · exact Nat.le_of_lt behind
    | inr mem => exact Nat.le_trans (by omega) (ih mem)

/-- The lines of a branch are run in their order, each once. -/
lemma pairwise_run : (b.run K ran i s).Pairwise (· < ·) := by
  unfold run
  refine List.pairwise_append.mpr ⟨?_, ?_, ?_⟩
  · split
    · exact List.pairwise_singleton _ _
    · exact .nil
  · split
    · exact List.pairwise_lt_range'
    · exact .nil
  · intro j front k back
    split at front
    · split at back
      · obtain rfl := List.mem_singleton.mp front
        exact (List.mem_range'_1.mp back).1
      · cases back
    · cases front

/-- No line is run twice, and none before the ones in front of it. -/
lemma pairwise_plan : (plan K n ran i s bs).Pairwise (· < ·) := by
  induction bs generalizing ran i s with
  | nil =>
    unfold plan
    split
    · exact List.pairwise_singleton _ _
    · exact .nil
  | cons b bs ih =>
    refine List.pairwise_append.mpr ⟨pairwise_run, ih, fun j front k back => ?_⟩
    have behind := le_of_mem_plan back
    obtain ⟨rfl, -⟩ | ⟨-, front, -⟩ := mem_run.mp front
    · omega
    · omega

/-- A body is run as a whole or not at all. -/
lemma mem_plan_iff {bs₁ bs₂ : List Branch} {j : Nat} (inside : j < b.body.length) :
    i + (bs₁.flatMap lines).length + 1 + j ∈ plan K n ran i s (bs₁ ++ b :: bs₂) ↔
      b.taken K (passed K n ran i s bs₁).1
        ((passed K n ran i s bs₁).2.atLine (i + (bs₁.flatMap lines).length)) = true := by
  induction bs₁ generalizing ran i s with
  | nil =>
    rw [List.nil_append, plan, List.mem_append, mem_run]
    constructor
    · intro mem
      obtain (⟨here, -⟩ | ⟨-, -, taken⟩) | later := mem
      · simp only [List.flatMap_nil, List.length_nil] at here
        omega
      · exact taken
      · have behind := le_of_mem_plan later
        simp only [List.flatMap_nil, List.length_nil] at behind
        omega
    · intro taken
      refine .inl (.inr ⟨?_, ?_, taken⟩)
      · simp only [List.flatMap_nil, List.length_nil]
        omega
      · simp only [List.flatMap_nil, List.length_nil]
        omega
  | cons a bs₁ ih =>
    have shift : i + ((a :: bs₁).flatMap lines).length = i + 1 + a.body.length + (bs₁.flatMap lines).length := by
      rw [List.flatMap_cons, List.length_append, lines, List.length_cons]
      omega
    rw [List.cons_append, plan, List.mem_append, mem_run, shift, passed, ← ih]
    constructor
    · intro mem
      -- The lines of the branch in front are all before the body in question.
      obtain (⟨here, -⟩ | ⟨-, here, -⟩) | later := mem
      · omega
      · omega
      · exact later
    · exact .inr

end Branch

/-- A block in a node, none of whose lines links to a node: its first branch begins with a test, each other one with
an else, and its last line does nothing but end it. A session that has come to it walks to the line behind it, if
what it shows is gone on from without a link. Of the lines of the block those of the plan are run, in order and
once each, and nothing else acts or is shown. The lines of a body are in the plan if and only if the test at its
head passes once the head has acted, or, without a test, if the lines in front of the head have not been run. -/
theorem walks_block {first : Branch} {others : List Branch} {front : List Line} (strolls : K.Strolls)
    (ready : s.Ready n) (there : n.lines = front ++ ((first :: others).flatMap Branch.lines ++ stop :: more))
    (fits : ∀ b ∈ first :: others, b.Fits s) (test : first.head.isTest = true)
    (elses : ∀ b ∈ others, b.head.elseIf = true) (stops : stop.Stops s) :
    K.Walks pace c (s.atLine front.length)
      (s.seen K n (Branch.plan K n true front.length s (first :: others)))
      ((s.toured K n (Branch.plan K n true front.length s (first :: others))).atLine
        (front.length + ((first :: others).flatMap Branch.lines).length + 1)) ∧
    (Branch.plan K n true front.length s (first :: others)).Pairwise (· < ·) ∧
    ∀ bs₁ b bs₂ j, first :: others = bs₁ ++ b :: bs₂ → j < b.body.length →
      (front.length + (bs₁.flatMap Branch.lines).length + 1 + j ∈
          Branch.plan K n true front.length s (first :: others) ↔
        b.taken K (Branch.passed K n true front.length s bs₁).1 ((Branch.passed K n true front.length s bs₁).2.atLine
          (front.length + (bs₁.flatMap Branch.lines).length)) = true) := by
  have ahead : n.lines.drop front.length = (first :: others).flatMap Branch.lines ++ stop :: more := by
    rw [there, List.drop_left]
  refine ⟨?_, Branch.pairwise_plan, fun bs₁ b bs₂ j split inside => ?_⟩
  · refine walks_branches strolls ready fits (fun b mem => ?_) elses stops ahead
    obtain rfl : first = b := Option.some.inj mem
    exact .inr ⟨rfl, test⟩
  · rw [split]
    exact Branch.mem_plan_iff inside

end Branches

/-! ## A crossing -/

/-- The reader goes on from each line without a choice of its own. -/
lemma strolls_reader : Company.reader.Strolls :=
  fun _ _ _ ticket => ⟨.resume ticket [], rfl, .inl rfl⟩

/-- An assignment if a test passes, and a line if it does not. -/
def crossroads : List Branch :=
  [⟨{ ifVar := "x=1".toList }, [{ setVar := ⟨['y'], ['1']⟩ }]⟩, ⟨{ elseIf := true }, [{ text := ['b'] }]⟩]

/-- A node with the two branches, their end, and a line behind it. -/
def crossing : Node where
  name := ['a']
  lines := crossroads.flatMap Branch.lines ++ [{ endIf := true }, { text := ['c'] }]

/-- A session has come to the crossing. -/
def Stage.crossed : Stage :=
  { monologue with phase := .running, inRun := true, session := some ⟨0, 0, crossing, 0, none⟩ }

/-- The variable is not there, so the line is shown and nothing is assigned. -/
theorem walks_crossing : Company.reader.Strolls ∧ Stage.crossed.Ready crossing ∧
    ∃ t : Stage, t.vars.get? ['y'] = none ∧ Company.reader.Walks .atOnce .kill Stage.crossed
      [.line crossing 0, .line crossing 3, .shown { text := ['b'] }, .line crossing 4] (t.atLine 5) := by
  have ready : Stage.crossed.Ready crossing := ⟨rfl, rfl, rfl, nofun⟩
  have fits : ∀ b ∈ crossroads, b.Fits Stage.crossed := by
    intro b mem
    simp only [crossroads, List.mem_cons, List.not_mem_nil, or_false] at mem
    obtain rfl | rfl := mem
    · refine ⟨rfl, fun l mem => ?_, by decide +kernel⟩
      obtain rfl := List.mem_singleton.mp mem
      exact ⟨rfl, rfl, rfl, rfl⟩
    · refine ⟨rfl, fun l mem => ?_, by decide +kernel⟩
      obtain rfl := List.mem_singleton.mp mem
      exact ⟨rfl, rfl, rfl, rfl⟩
  have there : crossing.lines = [] ++ (crossroads.flatMap Branch.lines ++ { endIf := true } :: [{ text := ['c'] }]) :=
    rfl
  have plan : Branch.plan .reader crossing true 0 Stage.crossed crossroads = [0, 3, 4] := by decide +kernel
  have seen : Stage.crossed.seen .reader crossing [0, 3, 4] =
      [.line crossing 0, .line crossing 3, .shown { text := ['b'] }, .line crossing 4] := by decide +kernel
  have walks : Company.reader.Walks .atOnce .kill Stage.crossed
      (Stage.crossed.seen .reader crossing (Branch.plan .reader crossing true 0 Stage.crossed crossroads))
      ((Stage.crossed.toured .reader crossing
        (Branch.plan .reader crossing true 0 Stage.crossed crossroads)).atLine 5) :=
    (walks_block strolls_reader ready there fits rfl (by decide +kernel) ⟨rfl, rfl, rfl, rfl, rfl⟩).1
  rw [plan, seen] at walks
  exact ⟨strolls_reader, ready, _, by decide +kernel, walks⟩

/-! ## Blocks of another shape -/

namespace Stage

/-- An agent has a single node. -/
def single (vars : Variables) (ls : List Line) : Stage :=
  { monologue with vars := vars, agents := fun _ => { name := ['a'], dialog := { nodes := [{ lines := ls }] } } }

end Stage

namespace Company

/-- The reader reads a single node. -/
def readingSingle (vars : Variables) (ls : List Line) : List Label × Memory × Moment :=
  reader.follow .atOnce 100 (reader.recollect (.initiate (some 0) none) []) (.initial (Stage.single vars ls))

end Company

/-- A reading of a node leaves its marks. -/
def Reads (vars : Variables) (ls : List Line) (ms : List Mark) : Prop :=
  ∃ past m, Run (Company.reader.rule .atOnce (.initiate (some 0) none)) (.initial (Stage.single vars ls)) past m ∧
    marks past = ms

/-- What is left of reading a node can be computed. -/
lemma reads_of_marks {vars : Variables} {ls : List Line} {ms : List Mark}
    (h : marks (Company.readingSingle vars ls).1 = ms) : Reads vars ls ms := by
  have start : Run (Company.reader.rule .atOnce (.initiate (some 0) none)) (.initial (Stage.single vars ls)) []
      (.initial (Stage.single vars ls)) := .nil
  exact ⟨_, _, (Company.run_follow 100 start).1, h⟩

/-- A block whose head sets the variable that it tests. -/
def hasty : List Line :=
  [{ ifVar := "x=1".toList, setVar := ⟨['x'], ['1']⟩ }, { text := ['b'] }, { endIf := true }, { text := ['c'] }]

/-- A block with an end as given, and another end further down. -/
def endless (stop : Line) : List Line :=
  [{ ifVar := "x=1".toList }, { text := ['b'] }, stop, { text := ['c'] }, { endIf := true }, { text := ['d'] }]

/-- A head that acts is tested when it has acted: the variable is not there when the session comes to the head, and
yet the body is run. A session does not go on behind an end that is an else too, or that has a test of its own. -/
theorem blocks_astray :
    ((Stage.single Table.empty hasty).variableTest "x=1".toList = false ∧
      Reads Table.empty hasty [.line { lines := hasty } 0, .line { lines := hasty } 1, .shown { text := ['b'] },
        .line { lines := hasty } 2, .line { lines := hasty } 3, .shown { text := ['c'] }, .line { lines := hasty } 4]) ∧
    ∀ stop ∈ [({ endIf := true, elseIf := true } : Line), { endIf := true, ifVar := "y=1".toList }],
      Reads (Table.empty.set ['x'] ['1']) (endless stop) [.line { lines := endless stop } 0,
        .line { lines := endless stop } 1, .shown { text := ['b'] }, .line { lines := endless stop } 2,
        .line { lines := endless stop } 5, .shown { text := ['d'] }, .line { lines := endless stop } 6] := by
  refine ⟨⟨by decide +kernel, reads_of_marks (by decide +kernel)⟩, fun stop mem => reads_of_marks ?_⟩
  simp only [List.mem_cons, List.not_mem_nil, or_false] at mem
  obtain rfl | rfl := mem
  · decide +kernel
  · decide +kernel

end Parley
