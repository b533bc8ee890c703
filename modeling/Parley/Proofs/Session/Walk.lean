import Parley.Proofs.Session.Tables

/-!
# Walking

How a session walks through the lines of its node, if none of them links anywhere.

* `Stage.acted`, `Stage.passes` and `Stage.tested`: what a line makes of the stage before it is left, and what its
  test comes to.
* `yields_passOver`: a branch that is not taken is passed over up to the next flag.
* `yields_runLine`: a line acts before it is performed.

`comesTo_line` closes the file: the loop comes past a line, whatever the surroundings do.
-/

namespace Parley

/-! ## What lines leave alone -/

/-- What no variable and no function changes. -/
structure Stage.Keeps (s t : Stage) : Prop where
  session : t.session = s.session
  phase : t.phase = s.phase
  inRun : t.inRun = s.inRun
  presenter : t.presenter = s.presenter
  dialogs : ∀ a, (t.agents a).dialog = (s.agents a).dialog

namespace Stage

variable {K : Company} {s t u : Stage} {x : Session} {l : Line}

/-- A stage keeps what it has. -/
lemma Keeps.refl : s.Keeps s :=
  ⟨rfl, rfl, rfl, rfl, fun _ => rfl⟩

/-- What is kept twice is kept. -/
lemma Keeps.trans (h : s.Keeps t) (h' : t.Keeps u) : s.Keeps u where
  session := h'.session.trans h.session
  phase := h'.phase.trans h.phase
  inRun := h'.inRun.trans h.inRun
  presenter := h'.presenter.trans h.presenter
  dialogs a := (h'.dialogs a).trans (h.dialogs a)

/-- A stage that keeps the session keeps its nodes. -/
lemma Keeps.node? (h : s.Keeps t) (name : Text) : t.node? name = s.node? name := by
  unfold Stage.node? currentAgent?
  rw [h.session]
  cases s.session with
  | none => rfl
  | some x =>
    simp only [Option.map_some, Option.bind_some]
    rw [h.dialogs]

/-- A built-in function keeps the session where it is. -/
lemma keeps_callBuiltIn (name parameter : Text) : s.Keeps (s.callBuiltIn name parameter).2 := by
  have disabled (a : AgentId) : s.Keeps (s.updateAgent a fun x => { x with enabled := false }) := by
    refine ⟨rfl, rfl, rfl, rfl, fun b => ?_⟩
    unfold updateAgent
    dsimp only
    split
    · rfl
    · rfl
  unfold callBuiltIn
  dsimp only
  split
  · split
    · exact disabled _
    · exact .refl
  · repeat' split
    all_goals exact ⟨rfl, rfl, rfl, rfl, fun _ => rfl⟩

/-- A session that goes on stands at a line of its node. -/
structure StandsAt (x : Session) (l : Line) (s : Stage) : Prop where
  session : s.session = some x
  running : s.phase = .running
  line : x.node.lines[x.index]? = some l

/-- The line that a session stands at is the current one. -/
lemma StandsAt.here (stands : s.StandsAt x l) : s.currentLine? = some l := by
  rw [Stage.currentLine?, stands.session]
  exact stands.line

/-- A session that is kept stands at its line. -/
lemma Keeps.standsAt (h : s.Keeps t) (stands : s.StandsAt x l) : t.StandsAt x l :=
  ⟨h.session.trans stands.session, h.phase.trans stands.running, stands.line⟩

/-- The stage at another line of the same node. -/
def atLine (s : Stage) (i : Nat) : Stage :=
  { s with session := s.session.map fun x => { x with index := i } }

/-- The session at another line differs in its index alone. -/
lemma session_atLine (session : s.session = some x) (i : Nat) :
    (s.atLine i).session = some { x with index := i } := by
  rw [atLine, session]
  rfl

/-- A session stands at any line of its node that it is moved to. -/
lemma StandsAt.atLine {l' : Line} {i : Nat} (stands : s.StandsAt x l) (line : x.node.lines[i]? = some l') :
    (s.atLine i).StandsAt { x with index := i } l' :=
  ⟨session_atLine stands.session i, stands.running, line⟩

/-- Of two lines that a session is moved to, the second counts. -/
lemma atLine_atLine (i j : Nat) : (s.atLine i).atLine j = s.atLine j := by
  unfold atLine
  rw [Option.map_map]
  rfl

/-- Moving to another line does not change the nodes. -/
lemma node?_atLine (i : Nat) (name : Text) : (s.atLine i).node? name = s.node? name := by
  unfold Stage.node? currentAgent? atLine
  rw [Option.map_map]
  rfl

/-- No node goes by the empty name. -/
lemma node?_nil : s.node? [] = none := by
  unfold Stage.node?
  cases s.currentAgent? with
  | none => rfl
  | some a => rfl

/-! ## What lines do -/

/-- The stage when a variable has been written. -/
def assigned (s : Stage) (a : Assignment) : Stage :=
  if a.key.isEmpty then s else { s with vars := s.vars.set a.key a.value }

/-- The stage when a function has been called, which may be one of its own. -/
def called (K : Company) (s : Stage) (call : Text) : Stage :=
  if call.isEmpty then s
  else (s.callBuiltIn (Play.splitCall call).1 (s.expandedIn K (Play.splitCall call).2)).2

/-- The stage when a line has acted on variables and functions. -/
def acted (K : Company) (s : Stage) (l : Line) : Stage :=
  (s.assigned l.setVar).called K l.callFunction

/-- Whether the test of a line passes: the first one that it has. -/
def passes (K : Company) (s : Stage) (l : Line) : Bool :=
  if !l.ifVar.isEmpty then s.variableTest l.ifVar
  else if !l.ifFunction.isEmpty then s.functionPasses K l.ifFunction
  else s.countTest l.ifDialogCount

/-- The stage when a line has been tested. -/
def tested (K : Company) (s : Stage) (l : Line) : Stage :=
  if l.ifVar.isEmpty then s.functionTested K l.ifFunction else s

/-- Writing a variable keeps the session where it is. -/
lemma keeps_assigned (a : Assignment) : s.Keeps (s.assigned a) := by
  unfold assigned
  split
  · exact .refl
  · exact ⟨rfl, rfl, rfl, rfl, fun _ => rfl⟩

/-- Calling a function keeps the session where it is. -/
lemma keeps_called (call : Text) : s.Keeps (s.called K call) := by
  unfold called
  split
  · exact .refl
  · exact keeps_callBuiltIn _ _

/-- What a line does before it is tested keeps the session where it is. -/
lemma keeps_acted (l : Line) : s.Keeps (s.acted K l) :=
  (keeps_assigned _).trans (keeps_called _)

/-- Testing a function keeps the session where it is. -/
lemma keeps_functionTested (t : Text) : s.Keeps (s.functionTested K t) := by
  unfold functionTested
  split
  · exact .refl
  · exact keeps_callBuiltIn _ _

/-- Testing a line keeps the session where it is. -/
lemma keeps_tested (l : Line) : s.Keeps (s.tested K l) := by
  unfold tested
  split
  · exact keeps_functionTested _
  · exact .refl

/-- Where no function is to be tested, the stage stays as it is. -/
lemma functionTested_nil : s.functionTested K [] = s :=
  rfl

end Stage

/-- A line has a test of its own. -/
def Line.isTest (l : Line) : Bool :=
  !l.ifVar.isEmpty || !l.ifFunction.isEmpty || !l.ifDialogCount.isEmpty

/-- A line without a test leaves the stage alone when it comes to testing. -/
lemma Stage.tested_of_untested {K : Company} {s : Stage} {l : Line} (untested : l.isTest = false) :
    s.tested K l = s := by
  rw [Line.isTest, Bool.or_eq_false_iff, Bool.or_eq_false_iff, Bool.not_eq_false', Bool.not_eq_false'] at untested
  rw [tested, if_pos untested.1.1, List.isEmpty_iff.mp untested.1.2, functionTested_nil]

/-- A line begins or ends a branch. -/
def Line.isFlag (l : Line) : Bool :=
  l.elseIf || l.endIf

/-- Without a query, a line has a condition if it has a test. -/
lemma Line.hasCondition_of_unasked {l : Line} (unasked : l.query.isValid = false) : l.hasCondition = l.isTest := by
  rw [hasCondition, isTest, unasked, Bool.or_false]

namespace Play

variable {K : Company} {P : Request → Prop} {s t : Stage} {x : Session} {l : Line}

/-! ## Moving on -/

/-- Going to a line leads there. -/
lemma yields_goTo (i : Nat) : (goTo i).Yields K P s (s.atLine i) () :=
  yields_modify

/-- The link of the current line is the only one there is to follow. -/
lemma targetOf_nil (here : s.currentLine? = some l) : targetOf s [] = s.node? l.link := by
  unfold targetOf
  rw [Stage.node?_nil, Option.none_or, here]
  rfl

/-- A line that does not link anywhere is stepped past. -/
lemma yields_moveOn (stands : s.StandsAt x l) (unlinked : s.node? l.link = none) :
    (moveOn []).Yields K P s (s.atLine (x.index + 1)) () := by
  apply yields_of_get
  rw [targetOf_nil stands.here, unlinked, stands.session]
  exact yields_goTo (x.index + 1)

/-- A branch that is not taken is passed over up to the next flag. A flag without a test is stepped past too. -/
lemma yields_passOver {body more : List Line} {flag : Line} (stands : s.StandsAt x l)
    (ahead : x.node.lines.drop (x.index + 1) = body ++ flag :: more) (plain : ∀ l ∈ body, l.isFlag = false)
    (flagged : flag.isFlag = true) (unlinked : s.node? flag.link = none) :
    passOver.Yields K P s
      (s.atLine (x.index + 1 + body.length + if flag.elseIf && flag.hasCondition then 0 else 1)) () := by
  have found : (x.node.lines.drop (x.index + 1)).findIdx? (fun l => l.elseIf || l.endIf) = some body.length := by
    show (x.node.lines.drop (x.index + 1)).findIdx? Line.isFlag = some body.length
    rw [ahead, List.findIdx?_append, List.findIdx?_eq_none_iff.mpr plain, List.findIdx?_cons, if_pos flagged]
    simp
  have here : (x.node.lines.drop (x.index + 1))[body.length]? = some flag := by
    rw [ahead, List.getElem?_append_right (Nat.le_refl _), Nat.sub_self, List.getElem?_cons_zero]
  apply yields_of_get
  rw [stands.session]
  dsimp only
  rw [found]
  dsimp only
  rw [here]
  refine (yields_goTo (x.index + 1 + body.length)).bind ?_
  dsimp only
  -- A flag with a test is gone to and left to be run. Any other one is stepped past from where it stands.
  split
  · exact yields_pure
  · rw [List.getElem?_drop] at here
    rw [← Stage.node?_atLine (x.index + 1 + body.length)] at unlinked
    have stepped := yields_moveOn (K := K) (P := P) (stands.atLine here) unlinked
    rw [Stage.atLine_atLine] at stepped
    exact stepped

/-! ## Performing -/

/-- Branching leads to the next line, or past the branch. -/
lemma yields_branch {holds : Bool} (session : s.session = some x)
    (h : (if holds then moveOn [] else passOver).Yields K P s t ()) : (branch holds).Yields K P s t () := by
  apply yields_of_get
  rw [session]
  exact h

/-- A line with a test is performed as a branch. -/
lemma yields_test (keywords : ∀ m key, P (.keyword m key))
    (functions : ∀ m name parameter, P (.function m name parameter)) (test : l.isTest = true)
    (unasked : l.query.isValid = false) (h : (branch (s.passes K l)).Yields K P (s.tested K l) t ()) :
    (perform l).Yields K P s t () := by
  unfold Stage.passes Stage.tested at h
  unfold perform
  cases var : l.ifVar.isEmpty with
  | false =>
    rw [var] at h
    exact yields_of_get h
  | true =>
    rw [var] at h
    cases function : l.ifFunction.isEmpty with
    | false =>
      rw [function] at h
      exact (yields_functionHolds keywords functions l.ifFunction).bind h
    | true =>
      rw [function] at h
      have count : l.ifDialogCount.isEmpty = false := by
        rw [Line.isTest, var, function] at test
        simpa using test
      rw [unasked, count]
      rw [List.isEmpty_iff.mp function] at h
      simp only [Bool.not_true, Bool.false_eq_true, if_false, if_true, Stage.functionTested_nil] at h
      exact yields_of_get h

/-- A line without a test that has nothing to ask. -/
lemma perform_untested (untested : l.isTest = false) (unasked : l.query.isValid = false) :
    perform l = if l.elseIf then passOver else if l.endIf then moveOn [] else if l.exit then endSession
      else if l.isSilent then moveOn [] else showLine l := by
  rw [Line.isTest, Bool.or_eq_false_iff, Bool.or_eq_false_iff] at untested
  obtain ⟨⟨var, function⟩, count⟩ := untested
  unfold perform
  rw [var, function, count, unasked]
  rfl

/-- A line without a test moves on if it has nothing to show. -/
lemma perform_onward (untested : l.isTest = false) (unasked : l.query.isValid = false) (onward : l.elseIf = false)
    (quiet : l.endIf = true ∨ l.exit = false ∧ l.isSilent = true) : perform l = moveOn [] := by
  rw [perform_untested untested unasked, onward]
  obtain stop | ⟨stays, silent⟩ := quiet
  · rw [stop]
    rfl
  · rw [stays, silent]
    cases l.endIf with
    | false => rfl
    | true => rfl

section Tests

variable (keywords : ∀ m key, P (.keyword m key)) (functions : ∀ m name parameter, P (.function m name parameter))
  (stands : s.StandsAt x l) (test : l.isTest = true) (unasked : l.query.isValid = false)

include keywords functions stands test unasked

/-- A line whose test passes leads to the next line. -/
lemma yields_taken (unlinked : s.node? l.link = none) (passes : s.passes K l = true) :
    (perform l).Yields K P s ((s.tested K l).atLine (x.index + 1)) () := by
  have kept : s.Keeps (s.tested K l) := Stage.keeps_tested l
  have still := kept.standsAt stands
  apply yields_test keywords functions test unasked
  rw [passes]
  apply yields_branch still.session
  exact yields_moveOn still ((kept.node? l.link).trans unlinked)

/-- A line whose test fails leads to the flag behind its branch, or past it. -/
lemma yields_untaken {body more : List Line} {flag : Line} (fails : s.passes K l = false)
    (ahead : x.node.lines.drop (x.index + 1) = body ++ flag :: more) (plain : ∀ l ∈ body, l.isFlag = false)
    (flagged : flag.isFlag = true) (unlinked : s.node? flag.link = none) : (perform l).Yields K P s
      ((s.tested K l).atLine (x.index + 1 + body.length + if flag.elseIf && flag.hasCondition then 0 else 1)) () := by
  have kept : s.Keeps (s.tested K l) := Stage.keeps_tested l
  have still := kept.standsAt stands
  apply yields_test keywords functions test unasked
  rw [fails]
  apply yields_branch still.session
  exact yields_passOver still ahead plain flagged ((kept.node? flag.link).trans unlinked)

end Tests

/-! ## Acting -/

/-- Publishing an event leaves the stage as it is. -/
lemma yields_publish {e : Event} (may : ∀ h, P (.handle h e)) : (publish e).Yields K P s s () := by
  refine ⟨s.hears e, makes_publish, fun q mem => ?_⟩
  unfold Stage.hears at mem
  split at mem
  · cases mem
  · obtain ⟨h, -, e⟩ := List.mem_map.mp mem
    cases e
    exact may h

/-- Announcing where the session stands leaves the stage as it is. -/
lemma yields_announce {kind : EventKind} {payload : (agent node : Text) → Payload} (may : ∀ h e, P (.handle h e))
    (session : s.session = some x) : (announce kind payload).Yields K P s s () := by
  apply yields_of_get
  rw [session]
  exact yields_publish fun h => may h _

/-- Offering a function to all members changes the stage only if it is built in. -/
lemma yields_offerToAll {name parameter : Text} (functions : ∀ m, P (.function m name parameter)) :
    (offerToAll name parameter).Yields K P s (s.callBuiltIn name parameter).2 () := by
  apply yields_of_get
  refine (yields_callBuiltIn name parameter).bind (yields_each (fun m => ?_) _)
  exact (yields_ask rfl (functions m)).bind yields_pure

/-- Setting a variable sets it. -/
lemma yields_assign (a : Assignment) : (assign a).Yields K P s (s.assigned a) () := by
  unfold assign Stage.assigned
  split
  · exact yields_pure
  · exact yields_modify

variable (keywords : ∀ m key, P (.keyword m key)) (functions : ∀ m name parameter, P (.function m name parameter))
  (handlers : ∀ h e, P (.handle h e))

include keywords functions handlers in
/-- Calling a function does what it does to the stage, and asks for what it may. -/
lemma yields_callFunction (session : s.session = some x) (call : Text) :
    (callFunction call).Yields K P s (s.called K call) () := by
  unfold callFunction Stage.called
  split
  · exact yields_pure
  · refine (yields_expandParameter keywords _).bind ?_
    exact (yields_announce handlers session).bind (yields_offerToAll fun m => functions m _ _)

include keywords functions handlers in
/-- A line acts before it is performed. -/
lemma yields_runLine (stands : s.StandsAt x l) (h : (perform l).Yields K P (s.acted K l) t ()) :
    runLine.Yields K P s t () := by
  apply yields_of_get
  rw [stands.here]
  have assigned : (s.assigned l.setVar).session = some x :=
    (Stage.keeps_assigned l.setVar).session.trans stands.session
  refine (yields_assign l.setVar).bind ?_
  refine (yields_callFunction keywords functions handlers assigned l.callFunction).bind ?_
  have still : (s.acted K l).phase = .running := (Stage.keeps_acted l).phase.trans stands.running
  refine yields_of_get (s := s.acted K l) ?_
  rw [if_pos still]
  exact h

/-- A line that calls no function is performed when it has written its variable. -/
lemma runLine_of_uncalled (here : s.currentLine? = some l) (running : s.phase = .running)
    (uncalled : l.callFunction = []) : runLine s = perform l (s.assigned l.setVar) := by
  have still : (s.assigned l.setVar).phase = .running := (Stage.keeps_assigned l.setVar).phase.trans running
  have written : assign l.setVar s = .done (s.assigned l.setVar) (.ok ()) := by
    unfold assign Stage.assigned
    split
    · rfl
    · rfl
  rw [runLine, get_bind, here]
  dsimp only
  rw [callFunction, uncalled]
  show (assign l.setVar s).bind _ = _
  rw [written]
  show (if (s.assigned l.setVar).phase = .running then perform l else pure ()) (s.assigned l.setVar) = _
  rw [if_pos still]

/-- A line that does not act is only performed. -/
lemma runLine_of_idle (stands : s.StandsAt x l) (unset : l.setVar.key = []) (uncalled : l.callFunction = []) :
    runLine s = perform l s := by
  rw [runLine_of_uncalled stands.here stands.running uncalled, Stage.assigned, unset]
  rfl

end Play

/-! ## The loop -/

/-- What is seen while the stage asks for nothing but what it may. -/
def Label.Within (P : Request → Prop) : Label → Prop
  | .told _ | .replied _ _ _ => True
  | .asked _ q => P q ∧ q.handsOut = false
  | _ => False

section Loop

variable {α : Type} {K : Company} {P : Request → Prop} {rule : Rule} {goal : List Label → Moment → Prop}
  {f : Frame α} {past : List Label} {ps : List Pending} {s t : Stage} {a : α} {p : Play α}

/-- What is played asks for nothing but what it may. -/
lemma Routine.within_plays {r : Routine α} (only : ∀ q, .asked q ∈ performance (r.plays K).1 → P q) :
    ∀ l ∈ (r.plays K).1, l.Within P := by
  induction r with
  | done s a => exact fun _ mem => absurd mem List.not_mem_nil
  | tell n rest ih =>
    rw [plays_tell] at only ⊢
    intro l mem
    cases mem with
    | head => trivial
    | tail _ mem => exact ih (fun q mem => only q (List.mem_cons_of_mem _ mem)) l mem
  | ask s q k ih =>
    cases hands : q.handsOut with
    | true =>
      rw [plays_handsOut hands]
      exact fun _ mem => absurd mem List.not_mem_nil
    | false =>
      rw [plays_ask hands] at only ⊢
      intro l mem
      cases mem with
      | head => exact ⟨only q List.mem_cons_self, hands⟩
      | tail _ mem =>
        cases mem with
        | head => trivial
        | tail _ mem => exact ih _ s (fun q mem => only q (List.mem_cons_of_mem _ mem)) l mem

/-- A play comes to its result, if the surroundings are bound to reply to all that it may ask. -/
theorem comesTo_of_yields (free : rule.Free) (awaits : f.Awaits)
    (bound : ∀ {ls s q}, (∀ l ∈ ls, l.Within P) → P q → rule.Binds K (past ++ ls) s q)
    (yields : p.Yields K P s t a)
    (h : ∀ {ls}, (∀ l ∈ ls, l.Within P) → ComesTo rule goal (past ++ ls) ⟨.stage (f.act (.done t (.ok a))), ps⟩) :
    ComesTo rule goal past ⟨.stage (f.act (p s)), ps⟩ := by
  obtain ⟨signs, ⟨ls, plays, rfl⟩, only⟩ := yields
  have within : ∀ l ∈ ls, l.Within P := by
    have inner := Routine.within_plays (P := P) (r := p s) (K := K)
    rw [plays] at inner
    exact inner only
  refine comesTo_plays (K := K) free awaits ?_ ?_
  · intro ls₁ s q ls₂ e
    rw [plays] at e
    obtain rfl : ls = ls₁ ++ .asked s q :: ls₂ := e
    have first : ∀ l ∈ ls₁ ++ [.asked s q], l.Within P := by
      intro l mem
      apply within
      rw [List.append_cons]
      exact List.mem_append_left _ mem
    rw [List.append_assoc]
    exact bound first (first _ (List.mem_append_right _ (List.mem_singleton_self _))).1
  · rw [plays]
    exact h within

/-- The loop comes past a line, whatever the surroundings do. -/
theorem comesTo_line {a : Answer} (free : rule.Free) (running : s.phase = .running)
    (bound : ∀ {ls s' q}, (∀ l ∈ ls, l.Within P) → P q → rule.Binds K (past ++ .began s :: ls) s' q)
    (yields : Play.runLine.Yields K P s t ())
    (h : ∀ {ls}, (∀ l ∈ ls, l.Within P) →
      ComesTo rule goal (past ++ .began s :: ls) ⟨.stage (.run a (.done t (.ok ()))), ps⟩) :
    ComesTo rule goal past ⟨.stage (.run a (.done s (.ok ()))), ps⟩ := by
  refine .work (congrArg some (if_pos running)) free.began ?_
  refine comesTo_of_yields (f := .run a) free (Frame.awaits_run a) ?_ yields ?_
  · intro ls s' q within may
    rw [List.append_assoc]
    exact bound within may
  · intro ls within
    rw [List.append_assoc]
    exact h within

end Loop

end Parley
