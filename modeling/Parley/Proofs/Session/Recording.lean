import Parley.Proofs.Session.Calls
import Parley.Proofs.Session.Descent
import Parley.Proofs.Session.Faults
import Parley.Proofs.Session.Rest

/-!
# Recording

What lines and calls come to if the surroundings only record what they are given.

* `Recording`: the rule for such surroundings, which may still make slight changes, so many in all.
* `recording`: the contract that says what they leave as it is.
* `recording.Calm`: a play that leaves as much, and comes to a result.
* `Stage.Faces`, `Stage.Nears`: the lines that are left of a node, and how many more are enough.
* `recording.leads_runLine`: a line that is run leaves fewer lines to be run, whatever its tests come to.
* `recording.concludes_resume`: a session that goes on from a pause has not more to run than its node and its dialog.

`recording.concludes_initiate` closes the file: neither has a session that is started.
-/

namespace Parley

/-- A change that leaves dialogs and presenters alone. -/
def Adjustment.IsSlight : Adjustment → Prop
  | .setSource _ _ | .clearDialog _ | .setPresenter _ | .setQueryPresenter _ => False
  | _ => True

/-- A call comes in. -/
def Label.isCall : Label → Bool
  | .called _ _ _ => true
  | _ => false

/-- Surroundings that only record. Nobody but handlers fails. While somebody has a request to reply to, there may be
slight changes, not more than so many calls in all, and there is no other call. -/
def Recording (k : Nat) : Rule
  | past, .called owed _ c =>
    owed ≠ none ∧ past.countP Label.isCall < k ∧ ∃ change, c = .adjust change ∧ change.IsSlight
  | _, .replied _ q r => q.isHandled = false → r.isOk = true
  | _, _ => True

/-- What surroundings that only record leave as it is. -/
structure Stage.Preserves (s t : Stage) : Prop extends s.Keeps t where
  asker : t.queryPresenter = s.queryPresenter

namespace Stage

variable {s t u : Stage}

/-- A stage preserves itself. -/
lemma Preserves.refl : s.Preserves s :=
  ⟨.refl, rfl⟩

/-- What is preserved twice is preserved. -/
lemma Preserves.trans (h : s.Preserves t) (h' : t.Preserves u) : s.Preserves u :=
  ⟨h.toKeeps.trans h'.toKeeps, h'.asker.trans h.asker⟩

/-- A built-in function preserves where the session stands. -/
lemma preserves_callBuiltIn (name parameter : Text) : s.Preserves (s.callBuiltIn name parameter).2 :=
  ⟨keeps_callBuiltIn name parameter, s.queryPresenter_callBuiltIn name parameter⟩

/-- A slight change preserves where the session stands. -/
lemma preserves_adjust {change : Adjustment} (slight : change.IsSlight) : s.Preserves (s.adjust change).2 := by
  cases change with
  | setSource a source | clearDialog a | setPresenter p | setQueryPresenter p => exact slight.elim
  | setNickname a name =>
    refine ⟨⟨rfl, rfl, rfl, rfl, fun b => ?_⟩, rfl⟩
    unfold adjust updateAgent
    dsimp only
    split
    · rfl
    · rfl
  | addResponder m =>
    unfold adjust
    dsimp only
    split
    · exact .refl
    · exact ⟨⟨rfl, rfl, rfl, rfl, fun _ => rfl⟩, rfl⟩
  | _ => exact ⟨⟨rfl, rfl, rfl, rfl, fun _ => rfl⟩, rfl⟩

end Stage

/-! ## The contract -/

/-- The contract of surroundings that only record. -/
def recording (k : Nat) : Contract where
  rule := Recording k
  holds _ := True
  visit x y := x.stage.Preserves y.stage
  running _ _ := True
  visit_refl _ := .refl
  visit_trans := .trans

namespace recording

open Play

section Preserves

variable {k : Nat} {s : Stage}

/-- Requests and replies change nothing by themselves. -/
lemma asks_of {P : Stage → Prop} (keeps : ∀ {s t}, P s → s.Preserves t → P t) (q : Request) :
    (recording k).Asks (fun x => P x.stage) (fun x => P x.stage) q := by
  have upholds : (recording k).Upholds fun x => P x.stage :=
    ⟨fun _ => trivial, fun known follows => keeps known follows.visit⟩
  exact upholds.asking (fun _ _ => ⟨trivial, .refl⟩) fun _ _ _ _ => ⟨trivial, .refl⟩

/-- A report preserves the stage. -/
lemma tells (n : Notice) : Contract.Tells (fun x => s.Preserves x.stage) n :=
  fun _ known => known

/-- A request preserves the stage. -/
lemma asks (q : Request) : (recording k).Asks (fun x => s.Preserves x.stage) (fun x => s.Preserves x.stage) q :=
  asks_of .trans q

/-- What preserves every stage preserves this one. -/
lemma changes {f : Stage → Stage} (h : ∀ t : Stage, t.Preserves (f t)) :
    Contract.Changes (fun x => s.Preserves x.stage) f :=
  fun x known => known.trans (h x.stage)

/-- Consulting the surroundings preserves the stage. -/
lemma consults : (recording k).Consults fun x => s.Preserves x.stage where
  told := tells
  keyword _ _ := asks _
  function _ _ _ := asks _
  called _ _ := carries_announce tells fun _ _ _ _ => asks _
  builtIn name parameter := changes fun _ => Stage.preserves_callBuiltIn name parameter
  written _ _ := changes fun _ => ⟨⟨rfl, rfl, rfl, rfl, fun _ => rfl⟩, rfl⟩

end Preserves

/-- A play that leaves as much as the surroundings do, and comes to a result. -/
abbrev Calm {α : Type} (k : Nat) (p : Play α) (x : Scene) : Prop :=
  p.Does (recording k) x fun y r => x.stage.Preserves y.stage ∧ r.isOk = true

section Calm

variable {α β : Type} {k : Nat} {p : Play α} {f : α → Play β} {x : Scene}

/-- A play is calm if it is sure and preserves the stage. -/
lemma calm_of_sure (sure : (p x.stage).Sure)
    (carries : p.Carries (recording k) (fun y => x.stage.Preserves y.stage) fun y => x.stage.Preserves y.stage) :
    Calm k p x :=
  (carries x .refl).sure (fun keeps => keeps) sure

/-- Calm plays are calm one after another. -/
lemma Calm.bind (h : Calm k p x) (next : ∀ y a, x.stage.Preserves y.stage → Calm k (f a) y) : Calm k (p >>= f) x := by
  refine does_bind_sure h fun y a kept => (next y a kept).mono ?_
  rintro z r ⟨kept', gives⟩
  exact ⟨kept.trans kept', gives⟩

/-- Announcing where the session stands is calm. -/
lemma calm_announce {kind : EventKind} {payload : (agent node : Text) → Payload} (going : x.stage.session ≠ none) :
    Calm k (announce kind payload) x :=
  calm_of_sure (sure_announce going) (carries_announce tells fun _ _ _ _ => asks _)

/-- Setting a variable is calm. -/
lemma calm_assign (a : Assignment) : Calm k (assign a) x :=
  calm_of_sure (sure_assign a x.stage) (carries_assign consults a)

/-- Expanding a parameter is calm. -/
lemma calm_expandParameter (t : Text) : Calm k (expandParameter t) x :=
  calm_of_sure (sure_expandParameter t x.stage) (looks_expandParameter consults.toReads t).carries

/-- Calling a function is calm. -/
lemma calm_callFunction (going : x.stage.session ≠ none) (call : Text) : Calm k (callFunction call) x := by
  unfold callFunction
  split
  · exact ⟨.refl, rfl⟩
  · refine (calm_expandParameter _).bind fun y parameter kept => ?_
    have still : y.stage.session ≠ none := kept.session.trans_ne going
    refine (calm_announce still).bind fun z _ _ => ?_
    exact calm_of_sure (sure_offerToAll _ _ z.stage) (carries_offerToAll consults _ _)

/-- Testing a function is calm. -/
lemma calm_functionHolds (t : Text) : Calm k (functionHolds t) x := by
  unfold functionHolds
  split
  · exact ⟨.refl, rfl⟩
  · rename_i test _
    refine (calm_expandParameter test.parameter).bind fun y parameter _ => ?_
    refine (calm_expandParameter test.desired).bind fun z desired _ => ?_
    have decides := calm_of_sure (k := k) (sure_decide test.name parameter z.stage) (carries_decide consults _ _)
    refine decides.bind fun w result _ => ?_
    cases result with
    | none => exact ⟨.refl, rfl⟩
    | some result => exact ⟨.refl, rfl⟩

/-- Tearing down a session is calm. -/
lemma calm_tearDown (s : Session) : Calm k (tearDown s) x :=
  calm_of_sure (sure_tearDown s x.stage)
    (carries_tearDown tells (fun _ => asks _) (fun _ => asks _) (fun _ _ _ _ => asks _) fun _ _ => asks _)

/-- Delivering a line is calm. -/
lemma calm_deliver (l : Line) (ticket : Ticket) (going : x.stage.session ≠ none) : Calm k (deliver l ticket) x :=
  (calm_announce going).bind fun y _ _ => calm_of_sure (sure_handOut l ticket y.stage)
    (carries_handOut id tells (fun _ => asks _) fun _ => asks _)

/-- The query presenter is still there when the query has been announced. -/
lemma calm_deliverQuery (p : Prompt) (going : x.stage.session ≠ none) (asker : x.stage.queryPresenter ≠ none) :
    Calm k (deliverQuery p) x := by
  refine (calm_announce going).bind fun y _ kept => ?_
  obtain ⟨presenter, there⟩ := Option.ne_none_iff_exists'.mp (kept.asker.trans_ne asker)
  refine does_bind.mpr (does_get.mpr ?_)
  simp only [Then, there]
  exact calm_of_sure (sure_ask rfl y.stage) (carries_ask (asks _))

end Calm

end recording

/-! ## Lines that are left -/

/-- A session with a dialog goes on, and these lines of its node are left. -/
structure Stage.Faces (s : Stage) (d : Dialog) (ls : List Line) : Prop where
  running : s.phase = .running
  standing : ∃ x, s.session = some x ∧ s.dialogOf x = d ∧ x.node.lines.drop x.index = ls

/-- Less than so many lines are enough from here on, if any are to be run at all. -/
def Stage.Nears (s : Stage) (d : Dialog) (n : Nat) : Prop :=
  s.phase = .running → ∃ m < n, ∃ ls, s.Faces d ls ∧ d.Within ls m

section Faces

variable {s t : Stage} {d : Dialog} {ls : List Line} {n : Nat}

/-- A session that has lines left is there. -/
lemma Stage.Faces.going (faces : s.Faces d ls) : s.session ≠ none := by
  obtain ⟨x, session, -⟩ := faces.standing
  rw [session]
  exact Option.some_ne_none x

/-- The current line is the first of those that are left. -/
lemma Stage.Faces.currentLine? (faces : s.Faces d ls) : s.currentLine? = ls.head? := by
  obtain ⟨x, session, -, rfl⟩ := faces.standing
  rw [Stage.currentLine?, session, List.head?_drop]
  rfl

/-- The link of the line at hand is the only one there is to follow. -/
lemma Stage.Faces.targetOf {l : Line} (faces : s.Faces d (l :: ls)) : Play.targetOf s [] = d.node? l.link := by
  rw [Play.targetOf_nil faces.currentLine?]
  obtain ⟨x, session, rfl, -⟩ := faces.standing
  exact Stage.node?_of_session session

/-- A stage that preserves another has the same lines left. -/
lemma Stage.Preserves.faces (kept : s.Preserves t) (faces : s.Faces d ls) : t.Faces d ls := by
  obtain ⟨x, session, dialog, left⟩ := faces.standing
  exact ⟨kept.phase.trans faces.running, x, kept.session.trans session, (kept.dialogs x.agent).trans dialog, left⟩

/-- A session that is moved to a line has the lines from there on left. -/
lemma Stage.Faces.atLine {x : Session} (faces : s.Faces d ls) (session : s.session = some x) (i : Nat) :
    (s.atLine i).Faces d (x.node.lines.drop i) := by
  obtain ⟨x', session', dialog, -⟩ := faces.standing
  obtain rfl := Option.some.inj (session.symm.trans session')
  exact ⟨faces.running, _, Stage.session_atLine session i, dialog, rfl⟩

/-- If so many lines are enough, less than one more are. -/
lemma Stage.Faces.nears (faces : s.Faces d ls) (within : d.Within ls n) : s.Nears d (n + 1) :=
  fun _ => ⟨n, Nat.lt_succ_self n, ls, faces, within⟩

/-- Less than so many lines are less than more. -/
lemma Stage.Nears.mono {m : Nat} (near : s.Nears d m) (le : m ≤ n) : s.Nears d n := by
  intro running
  obtain ⟨j, less, there⟩ := near running
  exact ⟨j, Nat.lt_of_lt_of_le less le, there⟩

/-- Where no lines are to be run, any number is enough. -/
lemma Stage.nears_of_rest (rests : s.phase ≠ .running) : s.Nears d n :=
  fun running => absurd running rests

end Faces

namespace recording

open Play

variable {k n : Nat} {d : Dialog} {x : Scene} {l : Line} {ls : List Line}

/-- A play that comes to a result, and less than so many lines are enough after it. -/
abbrev Leads (k : Nat) (d : Dialog) (n : Nat) (p : Play Unit) (x : Scene) : Prop :=
  p.Does (recording k) x fun y r => y.stage.Nears d n ∧ r.isOk = true

/-- A calm play leads on if any preserved stage is near. -/
lemma Calm.leads {p : Play Unit} (h : Calm k p x) (near : ∀ t, x.stage.Preserves t → t.Nears d n) : Leads k d n p x :=
  h.mono fun _ _ known => ⟨near _ known.1, known.2⟩

/-- Going to a line leads on from that line. -/
lemma leads_goTo {i : Nat} {s : Session} (faces : x.stage.Faces d ls) (session : x.stage.session = some s)
    (within : d.Within (s.node.lines.drop i) n) : Leads k d (n + 1) (goTo i) x :=
  ⟨(faces.atLine session i).nears within, rfl⟩

/-- A session moves on to a node, or else to the next line. -/
lemma leads_moveOn {link : Text} (faces : x.stage.Faces d ls)
    (jump : ∀ m, targetOf x.stage link = some m → d.Within m.lines n) (next : d.Within ls.tail n) :
    Leads k d (n + 1) (moveOn link) x := by
  refine does_bind.mpr (does_get.mpr ?_)
  obtain ⟨s, session, dialog, rfl⟩ := faces.standing
  cases target : targetOf x.stage link with
  | some m =>
    simp only [Then, target]
    refine does_bind.mpr (does_modify.mpr ?_)
    let y : Scene := x.on { x.stage with
      session := x.stage.session.map fun s => { s with node := m, index := 0 } }
    have entered : y.stage.session = some { s with node := m, index := 0 } := by
      simp only [y, Scene.on, session, Option.map_some]
    have faces' : y.stage.Faces d m.lines := ⟨faces.running, _, entered, dialog, List.drop_zero⟩
    refine Calm.leads (x := y) (calm_announce faces'.going) fun t kept => ?_
    exact (kept.faces faces').nears (jump m target)
  | none =>
    simp only [Then, target, session]
    rw [List.tail_drop] at next
    exact leads_goTo faces session next

/-- A line that is not shown moves on to a node or to the next line. -/
lemma leads_onward (faces : x.stage.Faces d (l :: ls)) (within : d.Within (l :: ls) n) (other : l.isSpoken = false) :
    Leads k d n (moveOn []) x := by
  cases within with
  | cons jump next => exact leads_moveOn faces (fun m target => jump other m (faces.targetOf.symm.trans target)) next

/-- A branch is passed over up to a flag, which is left to be run or moved on from, or up to the end. -/
lemma leads_passOver (faces : x.stage.Faces d (l :: ls)) (within : d.Within (l :: ls) n) :
    Leads k d n passOver x := by
  cases within with
  | @cons _ _ n jump next =>
  refine does_bind.mpr (does_get.mpr ?_)
  obtain ⟨s, session, dialog, left⟩ := faces.standing
  have later : s.node.lines.drop (s.index + 1) = ls := by
    rw [← List.tail_drop, left, List.tail_cons]
  simp only [Then, session, later]
  cases found : ls.findIdx? fun l => l.elseIf || l.endIf with
  | none =>
    refine leads_goTo faces session ?_
    rw [List.drop_length]
    exact .nil
  | some i =>
    obtain ⟨inside, flagged, -⟩ := List.findIdx?_eq_some_iff_getElem.mp found
    have split : ls.drop i = ls[i] :: ls.drop (i + 1) := List.drop_eq_getElem_cons inside
    -- The line that ends the branch is a flag, and not spoken.
    have other : ls[i].isSpoken = false := by
      rw [Line.isSpoken]
      cases elseIf : ls[i].elseIf with
      | true => simp
      | false =>
        rw [elseIf, Bool.false_or] at flagged
        simp [flagged]
    have there : (x.stage.atLine (s.index + 1 + i)).Faces d (ls[i] :: ls.drop (i + 1)) := by
      rw [← split, ← later, List.drop_drop]
      exact faces.atLine session _
    have enough : d.Within (ls[i] :: ls.drop (i + 1)) n := split ▸ next.of_suffix (List.drop_suffix i ls)
    refine does_bind.mpr (does_modify.mpr ?_)
    simp only [Then, List.getElem?_eq_getElem inside]
    split
    · exact ⟨there.nears enough, rfl⟩
    · have onward := leads_onward (k := k) (x := x.on (x.stage.atLine (s.index + 1 + i))) there enough other
      exact onward.mono fun _ _ known => ⟨known.1.mono (Nat.le_succ n), known.2⟩

/-- Branching leads on, to the next line or past the branch. -/
lemma leads_branch {holds : Bool} (faces : x.stage.Faces d (l :: ls)) (within : d.Within (l :: ls) n)
    (other : l.isSpoken = false) : Leads k d n (branch holds) x := by
  refine does_bind.mpr (does_get.mpr ?_)
  obtain ⟨s, session, -⟩ := faces.standing
  simp only [Then, session]
  split
  · exact leads_onward faces within other
  · exact leads_passOver faces within

/-! ## Pauses and ends -/

/-- A calm play leads on if nothing is to be run. -/
lemma leads_of_rest {p : Play Unit} (rests : x.stage.phase ≠ .running) (calm : Calm k p x) : Leads k d n p x :=
  calm.leads fun _ kept => Stage.nears_of_rest (kept.phase.trans_ne rests)

/-- Ending the session leads on, as nothing is left to be run. -/
lemma leads_endSession (faces : x.stage.Faces d ls) : Leads k d n endSession x := by
  refine does_bind.mpr (does_get.mpr ?_)
  obtain ⟨s, session, -⟩ := faces.standing
  simp only [Then, session, faces.running]
  refine does_bind.mpr (does_set.mpr ?_)
  exact leads_of_rest (x := x.on x.stage.ended) Phase.noConfusion (calm_tearDown s)

/-- Showing a line leads on, since it pauses. -/
lemma leads_showLine (faces : x.stage.Faces d ls) : Leads k d n (showLine l) x := by
  refine does_bind.mpr (does_get.mpr ?_)
  obtain ⟨s, session, -⟩ := faces.standing
  simp only [Then, session]
  refine does_bind.mpr (does_modify.mpr ?_)
  refine does_bind_sure (calm_of_sure (sure_expandLine l _) (looks_expandLine consults.toReads l).carries) ?_
  intro y shown kept
  have going : y.stage.session ≠ none := kept.session.trans_ne faces.going
  refine does_bind.mpr (does_suspend.mpr ?_)
  exact leads_of_rest (x := y.on y.stage.suspended) Phase.noConfusion (calm_deliver shown _ going)

/-- Asking a query leads on, since it pauses or moves to the next line. -/
lemma leads_askQuery (faces : x.stage.Faces d (l :: ls)) (within : d.Within (l :: ls) n) (other : l.isSpoken = false)
    (q : Query) : Leads k d n (askQuery q) x := by
  refine does_bind.mpr (does_get.mpr ?_)
  cases asker : x.stage.queryPresenter with
  | none =>
    simp only [Then, asker]
    exact does_bind.mpr (does_tell.mpr (leads_onward (x := x.see _) faces within other))
  | some p =>
    simp only [Then, asker]
    refine does_bind.mpr (does_suspend.mpr ?_)
    refine leads_of_rest (x := x.on x.stage.suspended) Phase.noConfusion ?_
    refine (calm_of_sure (sure_expandQuery q _ _) (looks_expandQuery consults.toReads q _).carries).bind ?_
    intro y prompt kept
    exact calm_deliverQuery prompt (kept.session.trans_ne faces.going)
      (kept.asker.trans_ne (asker.trans_ne (Option.some_ne_none p)))

/-! ## Lines -/

/-- Whatever a line is for, it leads on. -/
lemma leads_perform (faces : x.stage.Faces d (l :: ls)) (within : d.Within (l :: ls) n) :
    Leads k d n (perform l) x := by
  have onward (other : l.isSpoken = false) : Leads k d n (moveOn []) x := leads_onward faces within other
  unfold perform
  split
  · rename_i var
    exact does_bind.mpr (does_get.mpr (leads_branch faces within (by simp [Line.isSpoken, Line.hasCondition, var])))
  split
  · rename_i function
    refine does_bind_sure (calm_functionHolds l.ifFunction) fun y holds kept => ?_
    exact leads_branch (kept.faces faces) within (by simp [Line.isSpoken, Line.hasCondition, function])
  split
  · rename_i query
    exact leads_askQuery faces within (by simp [Line.isSpoken, Line.hasCondition, query]) l.query
  split
  · rename_i count
    exact does_bind.mpr (does_get.mpr (leads_branch faces within (by simp [Line.isSpoken, Line.hasCondition, count])))
  split
  · exact leads_passOver faces within
  split
  · rename_i stop
    exact onward (by simp [Line.isSpoken, stop])
  split
  · exact leads_endSession faces
  split
  · rename_i silent
    exact onward (by simp [Line.isSpoken, silent])
  · exact leads_showLine faces

/-- A line that is run leaves fewer lines to be run, whatever its tests come to. -/
theorem leads_runLine (faces : x.stage.Faces d ls) (within : d.Within ls n) : Leads k d n runLine x := by
  refine does_bind.mpr (does_get.mpr ?_)
  cases ls with
  | nil =>
    simp only [Then, faces.currentLine?, List.head?_nil]
    exact leads_endSession faces
  | cons l ls =>
    simp only [Then, faces.currentLine?, List.head?_cons]
    refine does_bind_sure (calm_assign l.setVar) fun y _ written => ?_
    have faces := written.faces faces
    refine does_bind_sure (calm_callFunction faces.going l.callFunction) fun z _ called => ?_
    have faces := called.faces faces
    refine does_bind.mpr (does_get.mpr ?_)
    simp only [Then, if_pos faces.running]
    exact leads_perform faces within

/-! ## Calls -/

/-- No lines are left to be run, and none are being run. -/
def Rested (x : Scene) : Prop :=
  x.stage.inRun = false ∧ x.stage.phase ≠ .running

/-- Less than so many lines are to be run, and none are being run yet. -/
def Due (d : Dialog) (n : Nat) (x : Scene) : Prop :=
  x.stage.inRun = false ∧ x.stage.Nears d n

/-- Where nothing is left to be run, any number is due. -/
lemma Rested.due (rested : Rested x) : Due d n x :=
  ⟨rested.1, Stage.nears_of_rest rested.2⟩

/-- How a call ends that comes to a result: nothing is left to be run, or less than so many lines. -/
def Concludes (d : Dialog) (n : Nat) (x : Scene) : Except Fault Outcome → Prop
  | .error _ => True
  | .ok (.answer _) => Rested x
  | .ok (.run _) => Due d n x

/-- A call that has settled concludes. -/
lemma concludes_of_settled {why : Prop} {r : Except Fault Outcome}
    (settled : Settled Outcome.leaves Rested (Due d n) why x r) : Concludes d n x r := by
  cases r with
  | error e => trivial
  | ok o =>
    cases o with
    | answer a => exact settled
    | run a => exact settled.1

/-- Moving from line to line leaves the flag of the loop. -/
lemma moves_inRun {b : Bool} :
    (recording k).Moves (fun x => x.stage.inRun = b) fun x => x.stage.inRun = b where
  weak := id
  reported _ _ := id
  entered := carries_announce (fun _ _ => id) fun _ _ _ _ => asks_of (fun known kept => kept.inRun.trans known) _
  node known _ := known
  index _ _ := id

/-- A session that goes on from a pause runs what is left of its node, or from a node of its dialog. -/
lemma concludes_resume {ticket : Ticket} {link : Text} {a : Bool → Answer} (rested : Rested x)
    (faces : x.stage.phase = .awaiting → x.stage.resumed.Faces d ls)
    (jump : ∀ m ∈ d.nodes, d.Within m.lines n) (next : d.Within ls.tail n) :
    (resume ticket link >>= fun b => pure (outcome (a b) b) : Play Outcome).Does (recording k) x
      (Concludes d (n + 1)) := by
  refine does_bind.mpr (does_bind.mpr (does_get.mpr ?_))
  simp only [Then]
  split
  · rename_i goes
    have awaiting : x.stage.phase = .awaiting := by simpa using (Bool.and_eq_true_iff.mp goes).2
    refine does_bind.mpr (does_set.mpr (does_bind.mpr ?_))
    have moves : Leads k d (n + 1) (moveOn link) (x.on x.stage.resumed) := by
      refine leads_moveOn (faces awaiting) (fun m target => jump m ?_) next
      obtain ⟨s, session, rfl, -⟩ := (faces awaiting).standing
      exact Stage.mem_of_targetOf session target
    have still := carries_moveOn (moves_inRun (k := k)) link (x.on x.stage.resumed) rested.1
    refine (Routine.Meets.and moves still).mono ?_
    rintro y r ⟨⟨near, gives⟩, still⟩
    cases r with
    | error e => trivial
    | ok u => exact ⟨still, near⟩
  · exact rested

/-- The start of a session leaves the lines of one of its nodes to be run. -/
lemma settles_tellStart {vars : Variables} {a : AgentId} {onExit : Option Nat} {session : Session} (rested : Rested x)
    (opens : x.stage.opens a onExit = some session) (enough : ∀ m ∈ (x.stage.agents a).dialog.nodes,
      (x.stage.agents a).dialog.Within m.lines n) :
    (tellStart session.number session.agent session.node).Does (recording k) (x.on (x.stage.opened vars session))
      fun y _ => Due (x.stage.agents a).dialog (n + 1) y := by
  obtain ⟨-, -, -, first⟩ := Stage.number_of_opens opens
  obtain rfl := Stage.agent_of_opens opens
  have faces : (x.stage.opened vars session).Faces (x.stage.dialogOf session) session.node.lines :=
    ⟨rfl, session, rfl, rfl, by rw [first, List.drop_zero]⟩
  have within := enough session.node (Dialog.mem_of_startNode? (Stage.start_of_opens opens))
  have calm : Calm k (tellStart session.number session.agent session.node) (x.on (x.stage.opened vars session)) :=
    calm_of_sure (sure_tellStart _ _ _ _) (carries_tellStart tells (fun _ _ => asks _) (fun _ _ _ => asks _)
      (fun _ _ _ => asks _) _ _ _)
  refine calm.mono ?_
  rintro y r ⟨kept, -⟩
  exact ⟨kept.inRun.trans rested.1, (kept.faces faces).nears within⟩

/-- A call that starts a session concludes with the lines of its dialog to be run. -/
lemma concludes_initiate {a : Option AgentId} {onExit : Option Nat} (rested : Rested x)
    (enough : ∀ b, a = some b → (x.stage.agents b).dialog = d) (within : ∀ m ∈ d.nodes, d.Within m.lines n) :
    (initiate a onExit).Does (recording k) x (Concludes d (n + 1)) := by
  have settled : (initiate a onExit).Does (recording k) x
      (Settled Outcome.leaves Rested (Due d (n + 1)) (x.stage.phase = .idle)) := by
    refine does_initiate (F := Rested) (G := Due d (n + 1)) Rested.due (fun _ _ => id) (fun _ => id) rested ?_
    intro b vars session there opens
    obtain rfl := enough b there
    exact settles_tellStart rested opens within
  exact settled.mono fun _ _ => concludes_of_settled

end recording

end Parley
