import Parley.Proofs.Session.Conduct
import Parley.Proofs.Session.Standing

/-!
# Calls

How far the end of a session, the lines and queries that are handed out, and calls carry what is known of a
scene. `Contract.Serves` collects what is needed for calls to be worked on, and `Serves.call` follows each call
to its answer, or to the first of the lines that are run before it. `Contract.Takes` closes the file: it is the
simpler case in which a call need not be told apart from others because it leaves lines to be run.
-/

namespace Parley

/-- A call leaves lines to be run. -/
def Outcome.leaves : Outcome → Bool
  | .answer _ => false
  | .run _ => true

/-! ## The loop -/

/-- While the loop that runs lines is at work, no other line is begun further in. -/
def Scene.Unbroken (x y : Scene) : Prop :=
  x.stage.inRun = true → y.stage.inRun = true ∧ ∃ ls, y.past = x.past ++ ls ∧ ∀ l ∈ ls, ¬ l.Begins

section Unbroken

variable {x y z : Scene}

/-- The loop is not broken into while nothing happens. -/
lemma Scene.Unbroken.refl (x : Scene) : x.Unbroken x :=
  fun inRun => ⟨inRun, [], (List.append_nil _).symm, fun _ mem => absurd mem List.not_mem_nil⟩

/-- The loop is not broken into over two visits that do not break into it. -/
lemma Scene.Unbroken.trans (h : x.Unbroken y) (h' : y.Unbroken z) : x.Unbroken z := by
  intro inRun
  obtain ⟨inRun', ls, past, quiet⟩ := h inRun
  obtain ⟨inRun'', ls', past', quiet'⟩ := h' inRun'
  refine ⟨inRun'', ls ++ ls', ?_, fun l mem => ?_⟩
  · rw [past', past, List.append_assoc]
  · exact (List.mem_append.mp mem).elim (quiet l) (quiet' l)

/-- A label that begins no line does not break into the loop. -/
lemma Scene.unbroken_see {l : Label} (quiet : ¬ l.Begins) : x.Unbroken (x.see l) := by
  refine fun inRun => ⟨inRun, [l], rfl, fun l' mem => ?_⟩
  rw [List.mem_singleton.mp mem]
  exact quiet

/-- A change of the stage that leaves the loop does not break into it. -/
lemma Scene.unbroken_on {s : Stage} (inRun : s.inRun = x.stage.inRun) : x.Unbroken (x.on s) :=
  fun looped => ⟨inRun.trans looped, [], (List.append_nil _).symm, fun _ mem => absurd mem List.not_mem_nil⟩

/-- Nothing is asked of the surroundings of a loop that is not at work. -/
lemma Scene.unbroken_of_still (still : x.stage.inRun = false) : x.Unbroken y := by
  intro inRun
  rw [still] at inRun
  cases inRun

/-- If the loop is not at work now, it was not before. -/
lemma Scene.Unbroken.still (h : x.Unbroken y) (still : y.stage.inRun = false) : x.stage.inRun = false := by
  refine Bool.eq_false_iff.mpr fun inRun => ?_
  rw [(h inRun).1] at still
  cases still

end Unbroken

namespace Play

variable {C : Contract} {F G : Scene → Prop}

/-! ## Sessions end -/

/-- A session that is going on ends, and everybody is told. -/
lemma does_endSession {x : Scene} {post : Scene → Except Fault Unit → Prop} (idle : post x (.ok ()))
    (ends : ∀ s, x.stage.session = some s → (tearDown s).Does C (x.on x.stage.ended) post) :
    endSession.Does C x post := by
  refine does_bind.mpr (does_get.mpr ?_)
  cases phase : x.stage.phase with
  | idle =>
    simp only [Then, phase]
    exact idle
  | running | awaiting =>
    cases session : x.stage.session with
    | none =>
      simp only [Then, phase, session]
      exact idle
    | some s =>
      simp only [Then, phase, session]
      exact ends s session

/-- Ending the session keeps what the change and the teardown keep. -/
lemma carries_endSession (changes : Contract.Changes F Stage.ended) (tears : ∀ s, (tearDown s).Carries C F F) :
    endSession.Carries C F F :=
  fun x known => does_endSession known fun s _ => tears s _ (changes x known)

/-- A teardown keeps what each of its requests keeps. -/
lemma carries_tearDown (told : ∀ n, Contract.Tells F n) {s : Session}
    (closes : ∀ p, C.Asks F F (.close p s.number)) (observes : ∀ o, C.Asks F F (.observeExit o s.number))
    (ended : ∀ h e, e.kind = .dialogEnded → e.session = some s.number → C.Asks F F (.handle h e))
    (calls : ∀ c, s.onExit = some c → C.Asks F F (.onExit c s.number)) : (tearDown s).Carries C F F := by
  have closed : (closePresenter s.number).Carries C F F := by
    refine carries_get.bind fun t => ?_
    cases t.presenter with
    | none => exact carries_pure
    | some p => exact carries_ask (closes p)
  have observed : (tellExit s.number).Carries C F F :=
    carries_get.bind fun t => carries_each (fun o => carries_ask (observes o)) _
  have announced : (announceEnd s).Carries C F F :=
    carries_get.bind fun t => carries_publish told fun h => ended h _ rfl rfl
  have called : (callBack s).Carries C F F := by
    unfold callBack
    cases callback : s.onExit with
    | none => exact carries_pure
    | some c => exact carries_ask (calls c callback)
  exact closed.bind fun _ => observed.bind fun _ => announced.bind fun _ => called

/-! ## Sessions wait -/

/-- A pause hands out the next ticket. -/
lemma does_suspend {x : Scene} {post : Scene → Except Fault Ticket → Prop} :
    suspend.Does C x post ↔ post (x.on x.stage.suspended) (.ok (x.stage.ticket + 1)) :=
  Iff.rfl

/-- A line is handed out with its ticket. Less may be known when it has been shown. -/
lemma carries_handOut {l : Line} {ticket : Ticket} (weak : ∀ {x}, F x → G x) (told : ∀ n, Contract.Tells F n)
    (shows : ∀ p, C.Asks F G (.show p l ticket)) (observes : ∀ o, C.Asks G G (.observeLine o l ticket)) :
    (handOut l ticket).Carries C F G := by
  have presented : (handToPresenter l ticket).Carries C F G := by
    refine carries_get.andThen weak fun s => ?_
    cases s.presenter with
    | none => exact carries_pure.weaken weak
    | some p => exact carries_ask (shows p)
  have observed : (handToObservers l ticket).Carries C G G :=
    carries_get.bind fun s => carries_each (fun o => carries_ask (observes o)) _
  refine carries_get.andThen weak fun s => ?_
  dsimp only
  split
  · exact (carries_tell (told _)).andThen weak fun _ => presented.andThen id fun _ => observed
  · exact presented.andThen id fun _ => observed

/-- A line is announced and handed out. -/
lemma carries_deliver {l : Line} {ticket : Ticket} (weak : ∀ {x}, F x → G x)
    (told : ∀ n, Contract.Tells F n)
    (lines : ∀ h k agent node, C.Asks F F (.handle h ⟨.lineStarted, some k, .line agent node l⟩))
    (shows : ∀ p, C.Asks F G (.show p l ticket)) (observes : ∀ o, C.Asks G G (.observeLine o l ticket)) :
    (deliver l ticket).Carries C F G :=
  (carries_announce told lines).andThen weak fun _ => carries_handOut weak told shows observes

/-- Handing out a query leads where its request leads. -/
lemma carries_handQuery {prompt : Prompt} (weak : ∀ {x}, F x → G x) (asks : ∀ p, C.Asks F G (.query p prompt)) :
    (handQuery prompt).Carries C F G := by
  refine carries_get.andThen weak fun s => ?_
  cases s.queryPresenter with
  | none => exact carries_fail.weaken weak
  | some p => exact carries_ask (asks p)

/-- Delivering a query leads where its announcement and its request lead. -/
lemma carries_deliverQuery {prompt : Prompt} (weak : ∀ {x}, F x → G x) (told : ∀ n, Contract.Tells F n)
    (queries : ∀ h k agent node, C.Asks F F (.handle h ⟨.queryStarted, some k, .query agent node prompt⟩))
    (asks : ∀ p, C.Asks F G (.query p prompt)) : (deliverQuery prompt).Carries C F G :=
  (carries_announce told queries).andThen weak fun _ => carries_handQuery weak asks

/-- A line is shown: its keywords are replaced while nobody can turn to the stage, and it is delivered. -/
lemma does_showLine (c : C.Reads F)
    (noted : ∀ name, Contract.Changes F fun s => { s with history := s.history ++ [name] }) {x : Scene}
    {post : Scene → Except Fault Unit → Prop} {l : Line} (start : F x)
    (fails : ∀ y e, F y → post y (.error e))
    (delivers : ∀ y shown, y.stage.session ≠ none → F y → (expandLine l).Gives shown →
      (deliver shown (y.stage.ticket + 1)).Does C (y.on y.stage.suspended) post) :
    (showLine l).Does C x post := by
  refine does_bind.mpr (does_get.mpr ?_)
  cases session : x.stage.session with
  | none =>
    simp only [Then, session]
    exact fails x _ start
  | some s =>
    simp only [Then, session]
    refine does_bind.mpr (does_modify.mpr (does_bind.mpr ?_))
    have looks : (expandLine l).Does C _ _ := looks_expandLine c l _ (noted s.node.name x start)
    -- The stage has not changed meanwhile, so the ticket of the pause is known in advance.
    refine looks.gives.mono ?_
    rintro y r ⟨⟨known, same⟩, gives⟩
    cases r with
    | error e => exact fails y e known
    | ok shown =>
      have going : y.stage.session ≠ none := by
        rw [same]
        exact Option.ne_none_iff_exists'.mpr ⟨s, session⟩
      exact does_bind.mpr (does_suspend.mpr (delivers y shown going known (gives shown rfl)))

/-- A query whose keywords have been replaced is the same one, with the ticket of the pause. -/
lemma prompt_of_gives {q : Query} {ticket : Ticket} {p : Prompt} (h : (expandQuery q ticket).Gives p) :
    p.query = q ∧ p.ticket = ticket := by
  obtain ⟨labels, -, h⟩ := gives_bind h
  obtain ⟨text, -, h⟩ := gives_bind h
  obtain ⟨description, -, h⟩ := gives_bind h
  rw [← eq_of_gives_pure h]
  exact ⟨rfl, rfl⟩

/-- A query is asked: the session waits from before its keywords are replaced. -/
lemma does_askQuery (told : ∀ n, Contract.Tells F n) (c : C.Moves F G) {H : Scene → Prop} {x : Scene}
    {post : Scene → Except Fault Unit → Prop} {q : Query} (start : F x) (skips : ∀ y r, G y → post y r)
    (reads : C.Reads H) (waits : H (x.on x.stage.suspended)) (fails : ∀ y e, H y → post y (.error e))
    (delivers : ∀ y p, H y → y.stage = x.stage.suspended → (expandQuery q (x.stage.ticket + 1)).Gives p →
      (deliverQuery p).Does C y post) :
    (askQuery q).Does C x post := by
  refine does_bind.mpr (does_get.mpr ?_)
  cases presenter : x.stage.queryPresenter with
  | none =>
    simp only [Then, presenter]
    have skipped := (carries_tell (C := C) (told .querySkipped)).andThen c.weak fun _ => carries_moveOn c []
    exact (skipped x start).mono skips
  | some p =>
    simp only [Then, presenter]
    refine does_bind.mpr (does_suspend.mpr (does_bind.mpr ?_))
    have looks : (expandQuery q (x.stage.ticket + 1)).Does C _ _ := looks_expandQuery reads q _ _ waits
    refine looks.gives.mono ?_
    rintro y r ⟨⟨known, same⟩, gives⟩
    cases r with
    | error e => exact fails y e known
    | ok prompt => exact delivers y prompt known same (gives prompt rfl)

/-! ## Sessions start -/

/-- The announcements of a new session keep what each of them keeps. -/
lemma carries_tellStart (told : ∀ n, Contract.Tells F n)
    (observed : ∀ o k, C.Asks F F (.observeStart o k))
    (started : ∀ h e, e.kind = .dialogStarted → C.Asks F F (.handle h e))
    (entered : ∀ h e, e.kind = .nodeEntered → C.Asks F F (.handle h e)) (k : Nat) (a : AgentId)
    (node : Node) : (tellStart k a node).Carries C F F := by
  refine carries_get.bind fun s => ?_
  refine (carries_each (fun o => carries_ask (observed o k)) _).bind fun _ => ?_
  refine carries_get.bind fun s => ?_
  refine (carries_publish told fun h => started h _ rfl).bind fun _ => ?_
  refine carries_get.bind fun s => ?_
  exact carries_publish told fun h => entered h _ rfl

/-- What is known when a play has come to its end: less if lines are left to be run, or if it has failed. -/
def Settled {α : Type} (leaves : α → Bool) (F G : Scene → Prop) (why : Prop) (y : Scene) : Except Fault α → Prop
  | .error _ => G y
  | .ok a =>
    match leaves a with
    | true => G y ∧ why
    | false => F y

/-- However a play has ended, what is left is known. -/
lemma Settled.known {α : Type} {leaves : α → Bool} {why : Prop} {y : Scene} {r : Except Fault α}
    (weak : F y → G y) (h : Settled leaves F G why y r) : G y := by
  cases r with
  | error e => exact h
  | ok a =>
    simp only [Settled] at h
    cases left : leaves a with
    | true =>
      rw [left] at h
      exact h.1
    | false =>
      rw [left] at h
      exact weak h

/-- What everybody is told of a session that starts is told on the stage with the session. -/
lemma does_initiate (weak : ∀ {x}, F x → G x) (told : ∀ n, Contract.Tells F n)
    (history : Contract.Changes F fun s => { s with history := [] }) {x : Scene} (start : F x)
    {a : Option AgentId} {onExit : Option Nat}
    (opens : ∀ b vars session, a = some b → x.stage.opens b onExit = some session →
      (tellStart session.number session.agent session.node).Does C (x.on (x.stage.opened vars session))
        fun y _ => G y) :
    (initiate a onExit).Does C x (Settled Outcome.leaves F G (x.stage.phase = .idle)) := by
  unfold initiate
  rw [does_bind, does_get]
  cases a with
  | none => exact told _ x start
  | some b =>
    have refused (n : Notice) : F (x.see (.told n)) := told n x start
    cases h : x.stage.phase with
    | running | awaiting =>
      simp only [Then, h]
      exact refused _
    | idle =>
      simp only [Then, h]
      rw [does_bind, does_modify]
      -- The agents and variables are still those of `x`, although the history has been cleared.
      have cleared := history x start
      cases node : (x.stage.agents b).dialog.startNode? with
      | none => exact told _ _ cleared
      | some n =>
        simp only [Then]
        rw [does_bind]
        unfold openSession
        rw [does_bind, does_get]
        simp only [Then]
        cases counted : x.stage.vars.countVisit? (x.stage.agents b).id with
        | none =>
          have e : (x.on { x.stage with history := [] }).stage.vars.countVisit?
              ((x.on { x.stage with history := [] }).stage.agents b).id = none := counted
          rw [e]
          exact weak cleared
        | some vars =>
          have e : (x.on { x.stage with history := [] }).stage.vars.countVisit?
              ((x.on { x.stage with history := [] }).stage.agents b).id = some vars := counted
          rw [e]
          have opened := opens b vars ⟨x.stage.started, b, n, 0, onExit⟩ rfl
            (by simp [Stage.opens, h, node, counted])
          refine does_bind.mpr (opened.mono ?_)
          intro y r known
          cases r with
          | error f => exact known
          | ok u => exact ⟨known, trivial⟩

/-- If a session can be opened, it is counted and opened, and its start is told. -/
lemma does_initiate_of_opens {x : Scene} {a : AgentId} {onExit : Option Nat} {session : Session}
    {post : Scene → Except Fault Outcome → Prop} (opens : x.stage.opens a onExit = some session)
    (tells : ∀ vars, x.stage.vars.countVisit? (x.stage.agents a).id = some vars →
      (tellStart session.number session.agent session.node).Does C (x.on (x.stage.opened vars session))
        fun y r => post y (r.map fun _ => .run (.flag true))) :
    (initiate (some a) onExit).Does C x post := by
  obtain ⟨vars, counted, play⟩ := initiate_of_opens opens
  unfold Does
  rw [play]
  refine does_bind (x := x.on (x.stage.opened vars session)).mpr ((tells vars counted).mono fun y r known => ?_)
  cases r with
  | error f => exact known
  | ok u => exact known

/-- Building a dialog does not fail, and reports at most one thing. -/
lemma does_build_of {x : Scene} {a : AgentId} {speaker : Text} {post : Scene → Except Fault Bool → Prop}
    (quiet : ∀ b, post (x.on (x.stage.built a speaker)) (.ok b))
    (told : ∀ n b, post ((x.on (x.stage.built a speaker)).see (.told n)) (.ok b)) :
    (build a speaker).Does C x post := by
  unfold build
  rw [does_bind, does_get]
  simp only [Then]
  rw [does_bind, does_modify]
  simp only [Then]
  cases ((x.stage.agents a).build speaker).2 with
  | none => exact quiet _
  | some f => exact told _ _

/-- A building changes the stage and reports, and asks for nothing. -/
lemma does_build (told : ∀ n, Contract.Tells F n) {a : AgentId} {speaker : Text}
    (built : Contract.Changes F fun s => s.built a speaker) {x : Scene} (start : F x) :
    (build a speaker).Does C x fun y _ =>
      F y ∧ y.stage = x.stage.built a speaker ∧ x.past <+: y.past := by
  have known : F (x.on (x.stage.built a speaker)) := built x start
  exact does_build_of (fun _ => ⟨known, rfl, List.prefix_rfl⟩) fun _ _ =>
    ⟨told _ _ known, rfl, List.prefix_append _ _⟩

/-- A call that opens a session has done nothing else before everybody is told of it, but may have reported
something. -/
lemma does_opening {x : Scene} {owed : Option Request} {c : Call} {session : Session}
    {post : Scene → Except Fault Outcome → Prop} (opening : x.stage.opening? c = some session)
    (tells : ∀ (y : Scene) (vars : Variables), y.stage = x.stage.readied c →
      (∃ ns : List Notice, y.past = (x.calling owed c).past ++ ns.map Label.told) →
      y.stage.vars.countVisit? (y.stage.agents session.agent).id = some vars →
      (tellStart session.number session.agent session.node).Does C (y.on (y.stage.opened vars session))
        fun z r => post z (r.map fun _ => .run (.flag true))) :
    c.play.Does C (x.calling owed c) post := by
  cases c with
  | start a speaker onExit =>
    have agent : session.agent = a := Stage.agent_of_opens opening
    refine does_bind.mpr (does_build_of (fun _ => ?_) fun n _ => ?_)
    · refine does_initiate_of_opens opening fun vars counted => tells _ vars rfl ⟨[], ?_⟩ (agent ▸ counted)
      rw [List.map_nil, List.append_nil]
      rfl
    · exact does_initiate_of_opens opening fun vars counted => tells _ vars rfl ⟨[n], rfl⟩ (agent ▸ counted)
  | initiate a onExit =>
    cases a with
    | none => cases opening
    | some a =>
      have agent : session.agent = a := Stage.agent_of_opens opening
      refine does_initiate_of_opens opening fun vars counted => tells _ vars rfl ⟨[], ?_⟩ (agent ▸ counted)
      rw [List.map_nil, List.append_nil]
  | _ => cases opening

/-- A ticket that is good takes the session on, and any other leaves it alone. -/
lemma does_resume {H : Scene → Prop} (c : C.Moves F H)
    (told : ∀ n, Contract.Tells G n) {x : Scene} {ticket : Ticket} {link : Text}
    (goesOn : ticket = x.stage.ticket → x.stage.phase = .awaiting → F (x.on x.stage.resumed))
    (stays : ¬ (ticket = x.stage.ticket ∧ x.stage.phase = .awaiting) → G x) :
    (resume ticket link).Does C x (Settled id G H (x.stage.phase = .awaiting)) := by
  unfold resume
  rw [does_bind, does_get]
  simp only [Then]
  by_cases h : ticket = x.stage.ticket ∧ x.stage.phase = .awaiting
  · rw [if_pos (by simpa using h)]
    refine does_bind.mpr (does_set.mpr (does_bind.mpr ?_))
    refine (carries_moveOn c link _ (goesOn h.1 h.2)).mono ?_
    intro y r known
    cases r with
    | error f => exact known
    | ok u => exact ⟨known, h.2⟩
  · rw [if_neg (by simpa using h)]
    exact told _ _ (stays h)

end Play

/-- A call builds the dialog of an agent before it does anything else. -/
inductive Call.Builds (a : AgentId) (speaker : Text) : Call → Prop
  | start (onExit : Option Nat) : Builds a speaker (.start a speaker onExit)
  | build : Builds a speaker (.build a speaker)

/-- What is needed so that the calls that `K` allows at a scene can be worked on. `F` relates the scene at which
a call comes in to those from which it goes on from a pause, `H` to those at which lines have to be run because
of it, and `G` to all others during the work on it. -/
structure Contract.Serves (C : Contract) (K : Scene → Call → Prop) (F G H : Scene → Scene → Prop) : Prop where
  weak : ∀ {x y}, G x y → H x y
  moves : ∀ x, ∃ M, C.Moves (F x) M ∧ ∀ {y}, M y → H x y
  told : ∀ x n, Tells (F x) n
  reads : ∀ x, C.Reads (G x)
  function : ∀ {x owed name parameter}, G x (x.calling owed (.function name parameter)) →
    G x ((x.calling owed (.function name parameter)).on (x.stage.callBuiltIn name parameter).2)
  stays : ∀ {x owed c}, C.holds x → C.rule x.past (.called owed x.stage c) → K x c → ¬ x.stage.GoesOn c →
    G x (x.calling owed c)
  goesOn : ∀ {x owed c}, C.holds x → C.rule x.past (.called owed x.stage c) → x.stage.GoesOn c →
    F x ((x.calling owed c).on x.stage.resumed)
  opens : ∀ {x y owed c a onExit vars session}, K x c → G x y →
    (x.calling owed c).past <+: y.past → y.stage = x.stage.readied c →
    x.stage.opening? c = some session → y.stage.opens a onExit = some session →
    (Play.tellStart session.number session.agent session.node).Does C (y.on (y.stage.opened vars session))
      fun z _ => H x z
  ends : ∀ x, Play.endSession.Carries C (G x) (G x)
  history : ∀ x, Changes (G x) fun s => { s with history := [] }
  built : ∀ {x c a speaker}, K x c → c.Builds a speaker → Changes (G x) fun s => s.built a speaker
  images : ∀ x m, C.Asks (G x) (G x) (.images m)
  published : ∀ x h e, e.session = none → C.Asks (G x) (G x) (.handle h e)
  adjusts : ∀ {x owed change}, K x (.adjust change) → G x (x.calling owed (.adjust change)) →
    C.Follows x (((x.calling owed (.adjust change)).on (x.stage.adjust change).2).answering
      (.ok (x.stage.adjust change).1))
  answers : ∀ {x y a}, G x y → C.Follows x (y.answering (.ok a))
  fails : ∀ {x y e}, H x y → C.Follows x (y.answering (.error e))
  /-- The lines are left to a loop further out. -/
  defers : ∀ {x y a}, H x y → y.stage.inRun = true → C.Follows x (y.answering (.ok a))
  runs : ∀ {x y}, H x y → y.stage.inRun = false → x.stage.phase ≠ .running →
    C.running x (y.looping true).turning

namespace Contract.Serves

open Play

variable {C : Contract} {K : Scene → Call → Prop} {F G H : Scene → Scene → Prop} {x y : Scene}

/-- What is known as a call comes in that is not meant to go on from a pause. -/
lemma start (t : C.Serves K F G H) {owed : Option Request} {c : Call} (holds : C.holds x)
    (keeps : C.rule x.past (.called owed x.stage c)) (allowed : K x c) (other : x.stage.ticketOf? c = none) :
    G x (x.calling owed c) := by
  refine t.stays holds keeps allowed fun goes => ?_
  have e := goes.2
  rw [other] at e
  cases e

/-- A call that has settled ends as the contract asks, if lines are only run where none are at work. -/
lemma ran (t : C.Serves K F G H) {why : Prop} {r : Except Fault Outcome} (run : why → x.stage.phase ≠ .running)
    (settled : Settled Outcome.leaves (G x) (H x) why y r) : C.afterCall x y r := by
  cases r with
  | error f => exact t.fails settled
  | ok o =>
    cases o with
    | answer a => exact t.answers settled
    | run a =>
      obtain ⟨known, because⟩ := settled
      simp only [afterCall]
      split
      · rename_i inRun
        exact t.defers known inRun
      · rename_i still
        exact t.runs known (by simpa using still) (run because)

/-- A call that only answers ends as the contract asks. -/
lemma of_carries {α : Type} (t : C.Serves K F G H) {p : Play α} (h : p.Carries C (G x) (G x)) (start : G x y)
    (a : α → Answer) :
    (p >>= fun b => pure (.answer (a b)) : Play Outcome).Does C y (C.afterCall x) := by
  refine does_bind.mpr ((h y start).mono ?_)
  intro z r known
  cases r with
  | error f => exact t.fails (t.weak known)
  | ok b => exact t.answers known

/-- A call that goes on from a pause ends as the contract asks. -/
lemma of_resume (t : C.Serves K F G H) {ticket : Ticket} {link : Text} {a : Bool → Answer}
    (goesOn : ticket = y.stage.ticket → y.stage.phase = .awaiting → F x (y.on y.stage.resumed))
    (stays : ¬ (ticket = y.stage.ticket ∧ y.stage.phase = .awaiting) → G x y)
    (e : y.stage = x.stage) :
    (resume ticket link >>= fun b => pure (outcome (a b) b) : Play Outcome).Does C y
      (C.afterCall x) := by
  have awaiting (h : y.stage.phase = .awaiting) : x.stage.phase ≠ .running := by
    rw [← e, h]
    decide
  obtain ⟨M, moves, known⟩ := t.moves x
  refine does_bind.mpr ((does_resume moves (t.reads x).told goesOn stays).mono ?_)
  intro z r settled
  cases r with
  | error f => exact t.fails (known settled)
  | ok b =>
    cases b with
    | false => exact t.answers settled
    | true => exact t.ran (r := .ok (.run (a true))) awaiting ⟨known settled.1, settled.2⟩

/-- A call that starts a session ends as the contract asks. -/
lemma of_initiate (t : C.Serves K F G H) {owed : Option Request} {c : Call} {a : Option AgentId}
    {onExit : Option Nat} (allowed : K x c) (start : G x y) (past : (x.calling owed c).past <+: y.past)
    (readied : y.stage = x.stage.readied c)
    (opening : ∀ b, a = some b → x.stage.opening? c = (x.stage.readied c).opens b onExit) :
    (initiate a onExit).Does C y (C.afterCall x) := by
  have told := (t.reads x).told
  refine (does_initiate t.weak told (t.history x) start fun b vars session e opens => ?_).mono ?_
  · rw [readied] at opens
    exact t.opens allowed start past readied ((opening b e).trans opens) (readied ▸ opens)
  · intro z r settled
    refine t.ran (fun h => ?_) settled
    rw [readied, Stage.phase_readied] at h
    rw [h]
    decide

/-- Every call that is allowed keeps to the contract. -/
theorem call (t : C.Serves K F G H) {owed : Option Request} {c : Call} (holds : C.holds x)
    (keeps : C.rule x.past (.called owed x.stage c)) (allowed : K x c) :
    c.play.Does C (x.calling owed c) (C.afterCall x) := by
  have told := (t.reads x).told
  cases c with
  | start a speaker onExit =>
    have built := does_build (C := C) told (t.built allowed (.start onExit)) (t.start holds keeps allowed rfl)
    refine does_bind.mpr (built.mono ?_)
    rintro y r ⟨known, e, past⟩
    cases r with
    | error f => exact t.fails (t.weak known)
    | ok b =>
      exact t.of_initiate allowed known past e (by rintro _ ⟨⟩; rfl)
  | initiate a onExit =>
    have start := t.start holds keeps allowed rfl
    exact t.of_initiate allowed start List.prefix_rfl rfl (by rintro b rfl; rfl)
  | advance link =>
    refine does_bind.mpr (does_get.mpr ?_)
    refine t.of_resume ?_ ?_ rfl
    · intro _ awaiting
      exact t.goesOn holds keeps ⟨awaiting, rfl⟩
    · intro h
      exact t.stays holds keeps allowed fun goes => h ⟨rfl, goes.1⟩
  | resume ticket link =>
    refine t.of_resume ?_ ?_ rfl
    · intro e awaiting
      exact t.goesOn holds keeps ⟨awaiting, congrArg some e⟩
    · intro h
      exact t.stays holds keeps allowed fun goes => h ⟨Option.some.inj goes.2, goes.1⟩
  | respond prompt label =>
    refine does_bind.mpr (does_bind.mpr (does_get.mpr ?_))
    have stays (h : ¬ (prompt.ticket = x.stage.ticket ∧ x.stage.phase = .awaiting)) :
        G x (x.calling owed (.respond prompt label)) :=
      t.stays holds keeps allowed fun goes => h ⟨Option.some.inj goes.2, goes.1⟩
    have goesOn (e : prompt.ticket = x.stage.ticket) (awaiting : x.stage.phase = .awaiting) :
        F x ((x.calling owed (.respond prompt label)).on x.stage.resumed) :=
      t.goesOn holds keeps ⟨awaiting, congrArg some e⟩
    simp only [Then]
    split
    · rename_i stale
      exact t.answers (told _ _ (stays fun h => stale h.1))
    · split
      · exact does_bind.mp (t.of_resume goesOn stays rfl)
      · -- Nothing but a report comes before the pause ends.
        refine does_bind.mpr (does_tell.mpr (does_bind.mp (t.of_resume ?_ ?_ rfl)))
        · exact fun e awaiting => t.told x _ _ (goesOn e awaiting)
        · exact fun h => told _ _ (stays h)
  | kill =>
    have start := t.start holds keeps allowed rfl
    exact t.of_carries (t.ends x) start fun _ => .nothing
  | keyword key =>
    have start := t.start holds keeps allowed rfl
    exact t.of_carries carries_get start fun s => .keyword (s.keyword? key)
  | function name parameter =>
    have start := t.start holds keeps allowed rfl
    exact t.answers (t.function start)
  | images =>
    have start := t.start holds keeps allowed rfl
    exact t.of_carries (carries_images (t.images x)) start .images
  | expand text =>
    have start := t.start holds keeps allowed rfl
    exact t.of_carries (looks_expandText (t.reads x) text).carries start .text
  | build a speaker =>
    have start := t.start holds keeps allowed rfl
    have built : (build a speaker).Carries C (G x) (G x) := fun y known =>
      (does_build told (t.built allowed .build) known).mono fun _ _ known' => known'.1
    exact t.of_carries built start .flag
  | publish kind j =>
    have start := t.start holds keeps allowed rfl
    have publishes := carries_publish told fun h => t.published x h ⟨kind, none, .other j⟩ rfl
    exact t.of_carries publishes start fun _ => .nothing
  | adjust change =>
    have start := t.start holds keeps allowed rfl
    exact t.adjusts allowed start

end Contract.Serves

/-- What is needed so that calls can be worked on, if as much is known when lines have to be run as during all
the rest of the work. -/
structure Contract.Takes (C : Contract) (F G : Scene → Scene → Prop) : Prop where
  moves : ∀ x, C.Moves (F x) (G x)
  told : ∀ x n, Tells (F x) n
  consults : ∀ x, C.Consults (G x)
  stays : ∀ {x owed c}, C.holds x → C.rule x.past (.called owed x.stage c) → ¬ x.stage.GoesOn c →
    G x (x.calling owed c)
  goesOn : ∀ {x owed c}, C.holds x → C.rule x.past (.called owed x.stage c) → x.stage.GoesOn c →
    F x ((x.calling owed c).on x.stage.resumed)
  opens : ∀ {x y owed c a onExit vars session}, G x y →
    (x.calling owed c).past <+: y.past → y.stage = x.stage.readied c →
    x.stage.opening? c = some session → y.stage.opens a onExit = some session →
    G x (y.on (y.stage.opened vars session))
  ends : ∀ x, Play.endSession.Carries C (G x) (G x)
  history : ∀ x, Changes (G x) fun s => { s with history := [] }
  built : ∀ x a speaker, Changes (G x) fun s => s.built a speaker
  images : ∀ x m, C.Asks (G x) (G x) (.images m)
  observed : ∀ x o k, C.Asks (G x) (G x) (.observeStart o k)
  started : ∀ x h e, e.kind = .dialogStarted ∨ e.kind = .nodeEntered → C.Asks (G x) (G x) (.handle h e)
  published : ∀ x h e, e.session = none → C.Asks (G x) (G x) (.handle h e)
  adjusts : ∀ {x owed change}, G x (x.calling owed (.adjust change)) →
    C.Follows x (((x.calling owed (.adjust change)).on (x.stage.adjust change).2).answering
      (.ok (x.stage.adjust change).1))
  answers : ∀ {x y r}, G x y → C.Follows x (y.answering r)
  runs : ∀ {x y}, G x y → y.stage.inRun = false → x.stage.phase ≠ .running →
    C.running x (y.looping true).turning

namespace Contract.Takes

variable {C : Contract} {F G : Scene → Scene → Prop} {x : Scene}

/-- What takes every call serves every call. -/
lemma serves (t : C.Takes F G) : C.Serves (fun _ _ => True) F G G :=
  { t with
    weak := id
    moves := fun x => ⟨G x, t.moves x, id⟩
    reads := fun x => (t.consults x).toReads
    function := fun known => (t.consults _).builtIn _ _ _ known
    built := fun _ _ => t.built _ _ _
    adjusts := fun _ => t.adjusts
    stays := fun holds keeps _ => t.stays holds keeps
    opens := fun _ known past readied opening opens =>
      Play.carries_tellStart (t.moves _).reported (t.observed _) (fun h e kind => t.started _ h e (.inl kind))
        (fun h e kind => t.started _ h e (.inr kind)) _ _ _ _ (t.opens known past readied opening opens)
    answers := t.answers
    fails := t.answers
    defers := fun known _ => t.answers known }

/-- Every call keeps to the contract. -/
lemma call (t : C.Takes F G) {owed : Option Request} {c : Call} (holds : C.holds x)
    (keeps : C.rule x.past (.called owed x.stage c)) :
    c.play.Does C (x.calling owed c) (C.afterCall x) :=
  t.serves.call holds keeps trivial

end Contract.Takes

end Parley
