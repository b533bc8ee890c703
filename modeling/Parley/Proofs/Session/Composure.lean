import Parley.Proofs.Session.Calls
import Parley.Proofs.Session.Faults
import Parley.Proofs.Session.Rehearsal

/-!
# Composure

A stage whose surroundings do not fail does not fail either, with one exception: the function that a test calls
ends the session.

* `Composed`: nobody but handlers fails, and counters can be moved on.
* `Scene.Retains`: what the surroundings leave as it is.
* `does_functionHolds`: a test of a function gives a result; if its session is over then, the function has just
  come back.
* `does_runLine_faults`: a line fails for one reason only.

`failed_by_test` closes the file, and `tests_fail` shows the exception.
-/

namespace Parley

/-- The window for queries is taken away. -/
def Label.Removes : Label → Prop
  | .called _ _ (.adjust (.setQueryPresenter none)) => True
  | _ => False

/-- Nobody but handlers fails, the counters of sessions to be started can be moved on, and the window for queries
stays. -/
def Composed : Rule
  | _, .replied _ q r => q.isHandled = false → r.isOk = true
  | _, .called owed s c => s.Counts c ∧ ¬ (Label.called owed s c).Removes
  | _, _ => True

/-- The function that a test of the line begun last calls has just come back, and the session is over. -/
def EndedByTest (past : List Label) : Prop :=
  ∃ (before since : List Label) (s₀ s : Stage) (line : Line) (test : Play.FunctionTest) (m : Member)
    (parameter : Text) (r : Except Fault (Reply (.function m test.name parameter))),
    past = before ++ .began s₀ :: (since ++ [.replied s (.function m test.name parameter) r]) ∧
      (∀ l ∈ since, ¬ l.Begins) ∧ s₀.currentLine? = some line ∧ line.ifVar = [] ∧
      Play.functionTest? line.ifFunction = some test ∧ s.session = none

/-! ## The contract -/

/-- A window for queries stays, and a line that is at work is the one begun last. -/
structure Scene.Retains (x y : Scene) : Prop where
  window : x.stage.queryPresenter ≠ none → y.stage.queryPresenter ≠ none
  looped : x.Unbroken y

/-- A scene retains what it has. -/
lemma Scene.Retains.refl (x : Scene) : x.Retains x :=
  ⟨id, .refl x⟩

/-- A scene retains over two visits what it retains over each. -/
lemma Scene.Retains.trans {x y z : Scene} (h : x.Retains y) (h' : y.Retains z) : x.Retains z :=
  ⟨h'.window ∘ h.window, h.looped.trans h'.looped⟩

/-- A setting other than its removal leaves the window for queries. -/
lemma Stage.queryPresenter_adjust (s : Stage) {change : Adjustment} {owed : Option Request}
    (kept : ¬ (Label.called owed s (.adjust change)).Removes) (there : s.queryPresenter ≠ none) :
    (s.adjust change).2.queryPresenter ≠ none := by
  cases change with
  | setQueryPresenter p =>
    cases p with
    | none => exact absurd trivial kept
    | some p => exact Option.some_ne_none p
  | addResponder m =>
    by_cases h : m ∈ s.responders
    · simpa only [adjust, if_pos h] using there
    · simpa only [adjust, if_neg h] using there
  | _ => exact there

/-- A sound stage from which the window for queries has not been taken away. -/
structure Scene.Composed (x : Scene) : Prop where
  sound : x.stage.Sound
  kept : ∀ l ∈ x.past, ¬ l.Removes

/-- Surroundings that keep their composure. -/
def composure : Contract where
  rule := Composed
  holds := Scene.Composed
  visit := Scene.Retains
  running x y := y.Composed ∧ y.stage.inRun = true ∧ x.stage.inRun = false ∧
    (x.stage.queryPresenter ≠ none → y.stage.queryPresenter ≠ none)
  visit_refl := .refl
  visit_trans := .trans

namespace composure

open Play

variable {x y z : Scene}

/-- More may be seen, but for the removal of the window. -/
lemma composed_see {l : Label} (holds : x.Composed) (kept : ¬ l.Removes) : (x.see l).Composed := by
  refine ⟨holds.sound, fun l' mem => ?_⟩
  rcases List.mem_append.mp mem with mem | mem
  · exact holds.kept l' mem
  · rw [List.mem_singleton.mp mem]
    exact kept

/-- A composed scene stays so whether the loop is at work or not. -/
lemma composed_looping (holds : x.Composed) (b : Bool) : (x.looping b).Composed :=
  ⟨holds.sound.alike ⟨.rfl, rfl, rfl⟩, holds.kept⟩

/-- More that is seen follows, if it begins no line and does not remove the window. -/
lemma follows_see {l : Label} (holds : x.Composed) (quiet : ¬ l.Begins) (kept : ¬ l.Removes) :
    composure.Follows x (x.see l) :=
  ⟨composed_see holds kept, id, Scene.unbroken_see quiet⟩

/-- A change of the stage follows, if it keeps the window and the loop. -/
lemma follows_on {s : Stage} (holds : x.Composed) (sound : s.Sound)
    (window : x.stage.queryPresenter ≠ none → s.queryPresenter ≠ none) (inRun : s.inRun = x.stage.inRun) :
    composure.Follows x (x.on s) :=
  ⟨⟨sound, holds.kept⟩, window, Scene.unbroken_on inRun⟩

/-- What is known stays known whatever the surroundings do. -/
abbrev Upholds (P : Scene → Prop) : Prop :=
  Contract.Upholds composure P

/-- To follow on a scene is upheld. -/
lemma upholds_follows (z : Scene) : Upholds (composure.Follows z) :=
  Contract.upholds_follows z

section Upholds

variable {P : Scene → Prop} (u : Upholds P)

include u

/-- What is upheld may be seen more, but for lines that begin and the removal of the window. -/
lemma Upholds.see {l : Label} (known : P x) (quiet : ¬ l.Begins) (kept : ¬ l.Removes) : P (x.see l) :=
  u.follows known (follows_see (u.holds known) quiet kept)

/-- What is upheld may be reported of. -/
lemma Upholds.tells (n : Notice) : Contract.Tells P n :=
  fun _ known => u.see known id id

/-- What is upheld carries over every request and its reply. -/
lemma Upholds.asks (q : Request) : composure.Asks P P q :=
  Contract.Upholds.asking u (fun _ known => follows_see (u.holds known) id id) fun _ _ holds _ => follows_see holds id id

/-- What is upheld carries over changes that keep the stage sound, the window and the loop. -/
lemma Upholds.changes {f : Stage → Stage} (sound : ∀ s : Stage, s.Sound → (f s).Sound)
    (window : ∀ s, (f s).queryPresenter = s.queryPresenter) (inRun : ∀ s, (f s).inRun = s.inRun) :
    Contract.Changes P f :=
  fun x known => u.follows known (follows_on (u.holds known) (sound x.stage (u.holds known).sound)
    (fun there => (window x.stage).trans_ne there) (inRun x.stage))

/-- What is upheld carries over a built-in function. -/
lemma Upholds.builtIn (name parameter : Text) : Contract.Changes P fun s => (s.callBuiltIn name parameter).2 := by
  refine u.changes (fun s sound => ?_) (fun s => ?_) fun s => ?_
  all_goals obtain ⟨vars, agents, e⟩ := s.callBuiltIn_eq name parameter
  all_goals rw [e]
  exact sound.alike ⟨.rfl, rfl, rfl⟩

/-- What is upheld carries over whatever consults the surroundings. -/
lemma Upholds.consults : composure.Consults P where
  told := u.tells
  keyword _ _ := u.asks _
  function _ _ _ := u.asks _
  called _ _ := carries_announce u.tells fun _ _ _ _ => u.asks _
  builtIn := u.builtIn
  written _ _ := u.changes (fun _ sound => sound.alike ⟨.rfl, rfl, rfl⟩) (fun _ => rfl) fun _ => rfl

/-- What is upheld carries over the moves of a session. -/
lemma Upholds.moves : composure.Moves P P where
  weak := id
  reported := u.tells
  entered := carries_announce u.tells fun _ _ _ _ => u.asks _
  node := Contract.enters fun _ =>
    u.changes (fun s sound => sound.alike (s.alike_moved fun _ => rfl)) (fun _ => rfl) fun _ => rfl
  index _ := u.changes (fun s sound => sound.alike (s.alike_moved fun _ => rfl)) (fun _ => rfl) fun _ => rfl

/-- What is upheld carries over the end of a session. -/
lemma Upholds.carries_endSession : endSession.Carries composure P P := by
  refine Play.carries_endSession (u.changes (fun s _ => s.sound_ended) (fun _ => rfl) fun _ => rfl) fun s => ?_
  exact carries_tearDown u.tells (fun _ => u.asks _) (fun _ => u.asks _) (fun _ _ _ _ => u.asks _) fun _ _ => u.asks _

/-- What is upheld carries over a pause. -/
lemma Upholds.suspended (known : P x) (going : x.stage.session ≠ none) : P (x.on x.stage.suspended) := by
  have sound := (u.holds known).sound
  exact u.follows known (follows_on (u.holds known) (sound.alike (sound.alike_suspended going)) id rfl)

/-- What is upheld carries over an entry in the history. -/
lemma Upholds.noted (name : Text) : Contract.Changes P fun s => { s with history := s.history ++ [name] } :=
  u.changes (fun _ sound => sound.alike ⟨.rfl, rfl, rfl⟩) (fun _ => rfl) fun _ => rfl

/-- Whatever a line does, it does while lines are run. -/
lemma Upholds.carries_runLine : runLine.Carries composure P P := by
  intro x start
  refine does_runLine u.consults id u.moves start (fun _ _ => id) u.carries_endSession ?_ ?_
  · intro y l _ known running
    have going := (u.holds known).sound.going running (by decide)
    refine does_askQuery u.tells u.moves known (fun _ _ => id) u.consults.toReads (u.suspended known going)
      (fun _ _ => id) ?_
    intro w p known' _ _
    exact carries_deliverQuery id u.tells (fun _ _ _ _ => u.asks _) (fun _ => u.asks _) w known'
  · intro y l _ known running
    refine does_showLine u.consults.toReads u.noted known (fun _ _ => id) ?_
    intro w shown going known' _
    exact carries_deliver id u.tells (fun _ _ _ _ => u.asks _) (fun _ => u.asks _) (fun _ => u.asks _) _
      (u.suspended known' going)

end Upholds

/-! ## Calls -/

/-- What is known while a call is worked on. -/
lemma takes : composure.Takes composure.Follows composure.Follows where
  moves x := (upholds_follows x).moves
  told x := (upholds_follows x).tells
  consults x := (upholds_follows x).consults
  stays holds keeps _ := follows_see holds id keeps.2
  goesOn {x owed c} holds keeps goes := by
    have called : composure.Follows x (x.calling owed c) := follows_see holds id keeps.2
    exact called.trans (follows_on called.holds (holds.sound.alike (Stage.alike_resumed goes.1)) id rfl)
  opens {x y owed c a onExit vars session} known _ _ _ opens :=
    known.trans (follows_on known.holds (Stage.Sound.opened opens) id rfl)
  ends x := (upholds_follows x).carries_endSession
  history x := (upholds_follows x).changes (fun _ sound => sound.alike ⟨.rfl, rfl, rfl⟩) (fun _ => rfl) fun _ => rfl
  built x _ _ := (upholds_follows x).changes (fun _ sound => sound.alike ⟨.rfl, rfl, rfl⟩) (fun _ => rfl) fun _ => rfl
  images x _ := (upholds_follows x).asks _
  observed x _ _ := (upholds_follows x).asks _
  started x _ _ _ := (upholds_follows x).asks _
  published x _ _ _ := (upholds_follows x).asks _
  adjusts {x owed change} known := by
    have kept := known.holds.kept _ (List.mem_append_right _ (List.mem_singleton_self _))
    have window := x.stage.queryPresenter_adjust kept
    have adjusted := known.trans (follows_on known.holds (known.holds.sound.alike (x.stage.alike_adjust change)) window
      (x.stage.adjust_eq change).2.2.2.2)
    exact adjusted.trans (follows_see adjusted.holds id id)
  answers known := known.trans (follows_see known.holds id id)
  runs {x y} known still _ :=
    ⟨composed_see (composed_looping known.holds true) id, rfl, known.visit.looped.still still, known.visit.window⟩

/-- The loop stops, and the call that it was begun for is answered. -/
lemma follows_end {r : Except Fault Answer} (holds : y.Composed) (still : x.stage.inRun = false)
    (window : x.stage.queryPresenter ≠ none → y.stage.queryPresenter ≠ none) :
    composure.Follows x ((y.looping false).answering r) :=
  ⟨composed_see (composed_looping holds false) id, window, Scene.unbroken_of_still still⟩

/-! ## Lines -/

/-- A function has just come back. -/
def CameBackLast (name : Text) (x : Scene) : Prop :=
  ∃ m parameter r, x.past.getLast? = some (.replied x.stage (.function m name parameter) r)

/-- A play that is sure gives a result while the surroundings keep their composure. -/
lemma does_sure {α : Type} {p : Play α} {known : Scene → Prop} (sure : (p x.stage).Sure)
    (does : p.Does composure x fun y _ => known y) : p.Does composure x fun y r => known y ∧ r.isOk = true :=
  does.sure (fun keeps => keeps) sure

/-- A fault is explained by what has just been seen. -/
def Explained {α : Type} (y : Scene) (r : Except Fault α) : Prop :=
  ∀ e, r = .error e → e = .noSession ∧ EndedByTest y.past

/-- A play that is sure has no fault to explain. -/
lemma explained_of_sure {α : Type} {P Q : Scene → Prop} {p : Play α} (sure : (p x.stage).Sure)
    (carries : p.Carries composure P Q) (known : P x) : p.Does composure x Explained := by
  refine (does_sure sure (carries x known)).mono ?_
  rintro y r ⟨-, gives⟩ e rfl
  cases gives

section Lines

variable {P : Scene → Prop} (u : Upholds P)

include u

/-- The members are asked for a function. If the session is over afterwards, one of them has just replied. -/
lemma Upholds.does_askFunction (name parameter : Text) (ms : List Member) (known : P x)
    (last : x.stage.session = none → CameBackLast name x) :
    (askFunction name parameter ms).Does composure x fun y r =>
      (P y ∧ (y.stage.session = none → CameBackLast name y)) ∧ r.isOk = true := by
  induction ms generalizing x with
  | nil => exact ⟨⟨known, last⟩, rfl⟩
  | cons m ms ih =>
    have asked : (ask (.function m name parameter)).Does composure x fun y _ => P y ∧ CameBackLast name y := by
      obtain ⟨out, back⟩ := u.asks (.function m name parameter) x known
      exact ⟨out, fun y r visit keeps => ⟨back y r visit keeps, m, parameter, r, List.getLast?_concat⟩⟩
    refine does_bind_sure (does_sure (sure_ask rfl x.stage) asked) ?_
    rintro y result ⟨known', last'⟩
    cases result with
    | none => exact ih known' fun _ => last'
    | some result => exact ⟨⟨known', fun _ => last'⟩, rfl⟩

/-- A function is tested during a session. If the session is over afterwards, the function has just replied. -/
lemma Upholds.does_functionHolds (t : Text) (known : P x) (going : x.stage.session ≠ none) :
    (functionHolds t).Does composure x fun y r =>
      (P y ∧ (y.stage.session = none → ∃ test, functionTest? t = some test ∧ CameBackLast test.name y)) ∧
        r.isOk = true := by
  unfold functionHolds
  split
  · exact ⟨⟨known, fun gone => absurd gone going⟩, rfl⟩
  · rename_i test found
    have looks (t : Text) := looks_expandParameter u.consults.toReads t
    refine does_bind_sure (does_sure (sure_expandParameter test.parameter x.stage) (looks _ x known)) ?_
    rintro y parameter ⟨known, same⟩
    refine does_bind_sure (does_sure (sure_expandParameter test.desired y.stage) (looks _ y known)) ?_
    rintro z desired ⟨known, same'⟩
    -- What the program does itself leaves the session alone, so only a function of the surroundings can have ended it.
    have going : (z.stage.callBuiltIn test.name parameter).2.session ≠ none := by
      obtain ⟨vars, agents, e⟩ := z.stage.callBuiltIn_eq test.name parameter
      rw [e, same', same]
      exact going
    have called := u.builtIn test.name parameter z known
    have decides : (decide test.name parameter).Does composure z fun w r =>
        (P w ∧ (w.stage.session = none → CameBackLast test.name w)) ∧ r.isOk = true := by
      have builtIn : (callBuiltIn test.name parameter).Does composure z fun w _ => P w ∧ w.stage.session ≠ none :=
        ⟨called, going⟩
      refine does_bind.mpr (does_get.mpr (does_bind_sure (does_sure (sure_callBuiltIn _ _ z.stage) builtIn) ?_))
      rintro w result ⟨known, going⟩
      cases result with
      | some result => exact ⟨⟨known, fun gone => absurd gone going⟩, rfl⟩
      | none => exact u.does_askFunction _ _ _ known fun gone => absurd gone going
    refine does_bind_sure decides ?_
    rintro w result ⟨known, last⟩
    have last (gone : w.stage.session = none) : ∃ test, functionTest? t = some test ∧ CameBackLast test.name w :=
      ⟨test, found, last gone⟩
    cases result with
    | none => exact ⟨⟨known, last⟩, rfl⟩
    | some result => exact ⟨⟨known, last⟩, rfl⟩

/-- A query finds its presenter where it was when the query was begun. -/
lemma Upholds.does_askQuery (q : Query) (known : P x) (going : x.stage.session ≠ none) :
    (askQuery q).Does composure x Explained := by
  refine does_bind.mpr (does_get.mpr ?_)
  cases presenter : x.stage.queryPresenter with
  | none =>
    simp only [Then, presenter]
    refine explained_of_sure ((sure_tell.bind fun _ => sure_moveOn []) x.stage) (P := P) (Q := P) ?_ known
    exact (carries_tell (u.tells _)).bind fun _ => carries_moveOn u.moves []
  | some p =>
    simp only [Then, presenter]
    refine does_bind.mpr (does_suspend.mpr ?_)
    let w := x.on x.stage.suspended
    have waits : P w := u.suspended known going
    have v := upholds_follows w
    have start : composure.Follows w w := .refl (u.holds waits)
    have looks : (expandQuery q (x.stage.ticket + 1)).Looks composure (composure.Follows w) :=
      looks_expandQuery v.consults.toReads q _
    refine does_bind_sure (does_sure (sure_expandQuery q _ w.stage) (looks w start)) ?_
    rintro y prompt ⟨follows, same⟩
    have still : y.stage.session ≠ none := by
      rw [same]
      exact going
    have announces : (announce .queryStarted fun agent node => .query agent node prompt).Carries composure
        (composure.Follows w) (composure.Follows w) :=
      carries_announce v.tells fun _ _ _ _ => v.asks _
    refine does_bind_sure (does_sure (sure_announce still) (announces y follows)) ?_
    intro z _ follows
    -- The window was there when the pause began, and nobody has taken it away.
    have there : z.stage.queryPresenter ≠ none := follows.visit.window (presenter.trans_ne (Option.some_ne_none p))
    obtain ⟨p', presenter'⟩ := Option.ne_none_iff_exists'.mp there
    refine does_bind.mpr (does_get.mpr ?_)
    simp only [Then, presenter']
    exact explained_of_sure (sure_ask rfl z.stage) (carries_ask (v.asks (.query p' prompt))) follows

/-- Showing a line has no fault to explain. -/
lemma Upholds.does_showLine (l : Line) (known : P x) (going : x.stage.session ≠ none) :
    (showLine l).Does composure x Explained := by
  refine does_bind.mpr (does_get.mpr ?_)
  obtain ⟨s, session⟩ := Option.ne_none_iff_exists'.mp going
  simp only [Then, session]
  refine does_bind.mpr (does_modify.mpr ?_)
  have noted := u.noted s.node.name x known
  refine does_bind_sure (does_sure (sure_expandLine l _) (looks_expandLine u.consults.toReads l _ noted)) ?_
  rintro y shown ⟨known, same⟩
  have still : y.stage.session ≠ none := by
    rw [same]
    exact going
  refine does_bind.mpr (does_suspend.mpr ?_)
  have delivers : (deliver shown (y.stage.ticket + 1)).Carries composure P P :=
    carries_deliver id u.tells (fun _ _ _ _ => u.asks _) (fun _ => u.asks _) fun _ => u.asks _
  have sure : (deliver shown (y.stage.ticket + 1) y.stage.suspended).Sure :=
    (sure_announce (s := y.stage.suspended) still).bind fun _ => sure_handOut _ _
  exact explained_of_sure sure delivers (u.suspended known still)

end Lines

/-- What a line does fails for one reason only. -/
lemma does_perform_faults {l : Line} (inRun : y.stage.inRun = true) (current : y.stage.currentLine? = some l)
    (known : composure.Follows y.beginning x) (going : x.stage.session ≠ none) :
    (perform l).Does composure x Explained := by
  have u := upholds_follows y.beginning
  have branches {z : Scene} (b : Bool) (known : composure.Follows y.beginning z) (going : z.stage.session ≠ none) :
      (branch b).Does composure z Explained :=
    explained_of_sure (sure_branch b going) (carries_branch u.moves b) known
  have steps : (moveOn []).Does composure x Explained :=
    explained_of_sure (sure_moveOn [] x.stage) (carries_moveOn u.moves []) known
  unfold perform
  split
  · exact branches _ known going
  rename_i unconditional
  split
  · refine does_bind_sure (u.does_functionHolds l.ifFunction known going) ?_
    rintro z holds ⟨known, last⟩
    by_cases gone : z.stage.session = none
    · obtain ⟨test, found, m, parameter, r, last⟩ := last gone
      obtain ⟨-, ls, past, quiet⟩ := known.visit.looped inRun
      refine does_bind.mpr (does_get.mpr ?_)
      simp only [Then, gone]
      rintro e ⟨⟩
      refine ⟨rfl, y.past, ?_⟩
      -- The last that was seen is the reply, so it came after the line was begun.
      induction ls using List.reverseRecOn with
      | nil =>
        rw [past, List.append_nil, Scene.beginning, Scene.see, List.getLast?_concat] at last
        cases last
      | append_singleton ls last' _ =>
        rw [past, ← List.append_assoc, List.getLast?_concat] at last
        obtain rfl := Option.some.inj last
        refine ⟨ls, y.stage, z.stage, l, test, m, parameter, r, ?_, ?_, current, ?_, found, gone⟩
        · rw [past, Scene.beginning, Scene.see, List.append_assoc, List.singleton_append]
        · exact fun l mem => quiet l (List.mem_append_left _ mem)
        · simpa using unconditional
    · exact branches holds known gone
  split
  · exact u.does_askQuery l.query known going
  split
  · exact branches _ known going
  split
  · exact explained_of_sure (sure_passOver going) (carries_passOver u.moves) known
  split
  · exact steps
  split
  · exact explained_of_sure (sure_endSession x.stage) u.carries_endSession known
  split
  · exact steps
  · exact u.does_showLine l known going

/-- A line fails for one reason only. -/
lemma does_runLine_faults (holds : y.Composed) (inRun : y.stage.inRun = true) (running : y.stage.phase = .running) :
    runLine.Does composure y.beginning Explained := by
  have u := upholds_follows y.beginning
  have begun : composure.Follows y.beginning y.beginning := .refl (composed_see holds id)
  refine does_bind.mpr (does_get.mpr ?_)
  change Then composure _ Explained y.beginning (.ok y.stage)
  cases current : y.stage.currentLine? with
  | none =>
    simp only [Then, current]
    exact explained_of_sure (sure_endSession y.stage) u.carries_endSession begun
  | some l =>
    simp only [Then, current]
    have going := holds.sound.going running (by decide)
    -- Neither the variable nor the function of the line can fail, so what fails is what comes behind them.
    have writes : (assign l.setVar).Does composure y.beginning fun x _ =>
        composure.Follows y.beginning x ∧ x.stage.session = y.stage.session := by
      unfold assign
      split
      · exact ⟨begun, rfl⟩
      · exact ⟨u.consults.written _ _ _ begun, rfl⟩
    refine does_bind_sure (does_sure (sure_assign _ y.stage) writes) ?_
    rintro x _ ⟨known, same⟩
    have calls : (callFunction l.callFunction).Does composure x fun x r =>
        composure.Follows y.beginning x ∧ r.isOk = true := by
      unfold callFunction
      split
      · exact ⟨known, rfl⟩
      · have looks := looks_expandParameter u.consults.toReads (splitCall l.callFunction).2
        refine does_bind_sure (does_sure (sure_expandParameter _ x.stage) (looks x known)) ?_
        rintro x' parameter ⟨known, same'⟩
        have still : x'.stage.session ≠ none := by
          rw [same', same]
          exact going
        have announces : (announce .functionCalled fun agent _ =>
            .function agent (splitCall l.callFunction).1 parameter).Carries composure _ _ :=
          carries_announce u.tells fun _ _ _ _ => u.asks _
        refine does_bind_sure (does_sure (sure_announce still) (announces x' known)) ?_
        intro x'' _ known
        exact does_sure (sure_offerToAll _ _ _) (carries_offerToAll u.consults _ _ _ known)
    refine does_bind_sure calls ?_
    intro x _ known
    refine does_bind.mpr (does_get.mpr ?_)
    by_cases running : x.stage.phase = .running
    · simp only [Then, if_pos running]
      exact does_perform_faults inRun current known (known.holds.sound.going running (by decide))
    · simp only [Then, if_neg running]
      rintro e ⟨⟩

/-! ## Runs -/

/-- Calls and lines keep the contract. -/
lemma honours : composure.Honours where
  call holds keeps := takes.call holds keeps
  line {x y} running phase := by
    obtain ⟨holds, inRun, still, window⟩ := running
    have u := upholds_follows y.beginning
    have begun : composure.Follows y.beginning y.beginning := .refl (composed_see holds id)
    refine (u.carries_runLine _ begun).mono ?_
    intro z r known
    have looped := (known.visit.looped inRun).1
    have there := known.visit.window ∘ window
    cases r with
    | ok u => exact ⟨known.holds, looped, still, there⟩
    | error e => exact follows_end known.holds still there
  rest running _ _ := follows_end running.1 running.2.2.1 running.2.2.2

end composure

/-- In a run in which nobody but handlers fails, a call fails only if the function that a test of a line has just
called has ended the session. -/
theorem failed_by_test {s s' : Stage} {e : Fault} {l₁ l₂ : List Label} {m : Moment} (fresh : s.Fresh)
    (run : Run Composed (.initial s) (l₁ ++ .answered s' (.error e) :: l₂) m) :
    e = .noSession ∧ EndedByTest l₁ := by
  refine Contract.fault_of_run (C := composure) (Q := fun past e => e = .noSession ∧ EndedByTest past)
    composure.honours ?_ ?_ ⟨fresh.sound, fun _ mem => absurd mem List.not_mem_nil⟩ run
  · intro x owed c holds keeps
    have answered := Routine.Meets.sure (fun keeps => keeps) (Call.sure keeps.1) (composure.takes.call holds keeps)
    refine answered.mono ?_
    rintro y r ⟨-, gives⟩ e rfl
    cases gives
  · rintro x y ⟨holds, inRun, -⟩ running
    exact composure.does_runLine_faults holds inRun running

/-! ## A test that ends its session -/

/-- A stage with an agent whose only line is a test of a function. -/
def tested : Stage where
  agents _ := { name := ['a'], dialog := { nodes := [{ lines := [{ ifFunction := ['f'] }] }] } }

/-- The stage with the test is fresh. -/
lemma fresh_tested : tested.Fresh :=
  ⟨rfl, rfl, rfl, rfl, rfl, rfl⟩

/-- A line is being run, and the function that was asked for gives a result. -/
def Moment.give (result : Text) (m : Moment) : List Label × Moment :=
  match m with
  | ⟨.surroundings s, .run a (.function member name parameter) resume :: ps⟩ =>
    ([.replied s (.function member name parameter) (.ok (some (some result)))],
      ⟨.stage (.run a (resume (.ok (some (some result))) s)), ps⟩)
  | _ => ([], m)

/-- Giving a result goes on with a run. -/
lemma Run.give {m₀ m : Moment} {ls : List Label} (run : Run Composed m₀ ls m) (result : Text) :
    Run Composed m₀ (ls ++ (m.give result).1) (m.give result).2 := by
  unfold Moment.give
  split
  · exact run.snoc (.reply _) fun _ => rfl
  · simpa only [List.append_nil] using run

/-- The function ends the session that tests it, and has a result. -/
def backfire : List Label × Moment :=
  let asked := (Moment.initial tested).rehearse
    [.call (.initiate (some 0) none), .work, .work, .work, .call .kill, .work]
  let given := asked.2.give ['x']
  (asked.1 ++ given.1 ++ (given.2.rehearse [.work]).1, (given.2.rehearse [.work]).2)

/-- What is seen is a start that can be counted, the end of a session, or something that is not held to anything. -/
def Label.isComposed : Label → Bool
  | .replied _ _ r => r.isOk
  | .called _ s (.initiate (some a) _) => (s.vars.countVisit? (s.agents a).id).isSome
  | .called _ _ .kill => true
  | .called _ _ _ => false
  | _ => true

/-- Where nobody fails and starts can be counted, the surroundings are composed. -/
lemma composed_of_isComposed (past : List Label) (l : Label) (h : l.isComposed = true) : Composed past l := by
  cases l with
  | replied s q r => exact fun _ => h
  | called owed s c =>
    cases c with
    | initiate a onExit =>
      cases a with
      | none => cases h
      | some a => exact ⟨Option.isSome_iff_ne_none.mp h, id⟩
    | kill => exact ⟨trivial, id⟩
    | _ => cases h
  | _ => trivial

/-- Ending the session during its test is a run with composed surroundings. -/
lemma run_backfire : Run Composed (.initial tested) backfire.1 backfire.2 := by
  have asked : Run Composed (.initial tested) ((Moment.initial tested).rehearse
      [.call (.initiate (some 0) none), .work, .work, .work, .call .kill, .work]).1 _ :=
    Moment.run_rehearse (fun past l _ => composed_of_isComposed past l) (by decide +kernel)
  exact Moment.run_rehearse_after (asked.give ['x']) (fun _ l _ => composed_of_isComposed _ l) (by decide +kernel)

/-- A call is answered with a fault. -/
def Label.fails : Label → Bool
  | .answered _ (.error _) => true
  | _ => false

/-- If the last thing seen is a failure, it is the answer to a call. -/
lemma eq_of_fails {ls : List Label} (h : ls.getLast?.any Label.fails = true) :
    ∃ l₁ s e, ls = l₁ ++ [.answered s (.error e)] := by
  cases last : ls.getLast? with
  | none =>
    rw [last] at h
    cases h
  | some l =>
    rw [last] at h
    obtain ⟨l₁, rfl⟩ := List.getLast?_eq_some_iff.mp last
    cases l with
    | answered s r =>
      cases r with
      | error e => exact ⟨l₁, s, e, rfl⟩
      | ok a => cases h
    | _ => cases h

/-- The failure there comes from the test, as it has to. -/
theorem failed_by_test_backfire : ∃ l₁ s e, backfire.1 = l₁ ++ [.answered s (.error e)] ∧ tested.Fresh ∧
    Run Composed (.initial tested) (l₁ ++ [.answered s (.error e)]) backfire.2 ∧ e = .noSession ∧
    EndedByTest l₁ := by
  have fails : backfire.1.getLast?.any Label.fails = true := by decide +kernel
  obtain ⟨l₁, s, e, split⟩ := eq_of_fails fails
  have run := run_backfire
  rw [split] at run
  exact ⟨l₁, s, e, split, fresh_tested, run, failed_by_test fresh_tested run⟩

/-- A test may end its session, and then its call fails although nobody else does. -/
theorem tests_fail : ¬ ∀ s ls m, Stage.Fresh s → Run Composed (.initial s) ls m →
    ls.all (fun l => !l.fails) = true := by
  intro never
  have fails : backfire.1.all (fun l => !l.fails) = false := by decide +kernel
  have passes := never tested backfire.1 backfire.2 fresh_tested run_backfire
  rw [fails] at passes
  cases passes

end Parley
