import Parley.Proofs.Session.Calls
import Parley.Proofs.Session.Company
import Parley.Proofs.Session.Rehearsal

/-!
# Pace

A company may go on from a line while it has it in its hands, or when the call that has led to the line is
over. Lines are then run by one loop, or by one loop after another, but everybody sees the same and the stage
is left as the same one. `performs_atOnce_iff_later` closes the file.
-/

namespace Parley

/-! ## Going on -/

section Makes

variable {α β : Type} {K : Company} {s t u : Stage} {signs signs' : List Sign} {ls : List Label}

/-- A play that is left with a company ends on a stage with a result, and everybody sees the signs. -/
def Play.Makes (K : Company) (p : Play α) (s : Stage) (signs : List Sign) (t : Stage) (a : α) : Prop :=
  ∃ ls, (p s).plays K = (ls, .done t (.ok a)) ∧ performance ls = signs

/-- A routine that comes to a result is played, and then what follows it. -/
lemma Routine.plays_bind {r : Routine α} {f : α → Stage → Routine β} {a : α}
    (h : r.plays K = (ls, .done t (.ok a))) :
    (r.bind f).plays K = (ls ++ ((f a t).plays K).1, ((f a t).plays K).2) := by
  induction r generalizing ls with
  | done s r =>
    cases h
    rfl
  | tell n rest ih =>
    obtain ⟨rfl, last⟩ := Prod.mk.inj h
    rw [bind, plays_tell, ih (Prod.ext rfl last)]
    rfl
  | ask s q k ih =>
    cases hands : q.handsOut with
    | true =>
      rw [plays_handsOut hands] at h
      cases h
    | false =>
      rw [plays_ask hands] at h
      obtain ⟨rfl, last⟩ := Prod.mk.inj h
      rw [bind, plays_ask hands, ih _ _ (Prod.ext rfl last)]
      rfl

/-- A routine that comes to its end is played alike when its faults are caught. -/
lemma Routine.plays_attempt {r : Routine α} {a : Except Fault α} (h : r.plays K = (ls, .done t a)) :
    r.attempt.plays K = (ls, .done t (.ok a)) := by
  induction r generalizing ls with
  | done s r =>
    cases h
    rfl
  | tell n rest ih =>
    obtain ⟨rfl, last⟩ := Prod.mk.inj h
    rw [attempt, plays_tell, ih (Prod.ext rfl last)]
  | ask s q k ih =>
    cases hands : q.handsOut with
    | true =>
      rw [plays_handsOut hands] at h
      cases h
    | false =>
      rw [plays_ask hands] at h
      obtain ⟨rfl, last⟩ := Prod.mk.inj h
      rw [attempt, plays_ask hands, ih _ _ (Prod.ext rfl last)]

namespace Play

/-- Two plays make the signs of one after those of the other. -/
lemma Makes.bind {p : Play α} {f : α → Play β} {a : α} {b : β} (h : p.Makes K s signs t a)
    (hf : (f a).Makes K t signs' u b) : (p >>= f).Makes K s (signs ++ signs') u b := by
  obtain ⟨ls, first, rfl⟩ := h
  obtain ⟨ls', second, rfl⟩ := hf
  refine ⟨ls ++ ls', ?_, performance_append⟩
  have both := Routine.plays_bind (f := fun a s => f a s) first
  rw [second] at both
  exact both

/-- A result that is there already makes no signs. -/
lemma makes_pure {a : α} : (pure a : Play α).Makes K s [] s a :=
  ⟨[], rfl, rfl⟩

/-- Looking at the stage makes no signs. -/
lemma makes_get : get.Makes K s [] s s :=
  ⟨[], rfl, rfl⟩

/-- What depends on the stage makes what it makes on the stage as it stands. -/
lemma makes_of_get {f : Stage → Play α} {a : α} (h : (f s).Makes K s signs t a) :
    (get >>= f).Makes K s signs t a :=
  makes_get.bind h

/-- A play makes the same signs for whatever is made of its result. -/
lemma Makes.result {p : Play α} {a : α} {g : α → β} (h : p.Makes K s signs t a) :
    (p >>= fun a => pure (g a)).Makes K s signs t (g a) := by
  have both := h.bind (f := fun a => pure (g a)) makes_pure
  rw [List.append_nil] at both
  exact both

/-- Setting the stage makes no signs. -/
lemma makes_set : (set t).Makes K s [] t () :=
  ⟨[], rfl, rfl⟩

/-- Changing the stage makes no signs. -/
lemma makes_modify {f : Stage → Stage} : (modify f).Makes K s [] (f s) () :=
  ⟨[], rfl, rfl⟩

/-- A report is seen. -/
lemma makes_tell {n : Notice} : (tell n).Makes K s [.told n] s () :=
  ⟨[.told n], rfl, rfl⟩

/-- A request that does not hand the stage out is seen, and the company replies. -/
lemma makes_ask {q : Request} (hands : q.handsOut = false) : (ask q).Makes K s [.asked q] s (K.reply q) :=
  ⟨[.asked s q, .replied s q (.ok (K.reply q))], Routine.plays_ask hands, rfl⟩

/-- Telling a handler is seen, and the company does not fail. -/
lemma makes_notify {e : Event} {h : HandlerId} : (notify e h).Makes K s [.asked (.handle h e)] s () := by
  have asked : (ask (.handle h e)).Makes K s [.asked (.handle h e)] s () := makes_ask rfl
  obtain ⟨ls, plays, signs⟩ := asked
  have tried : (attempt (ask (.handle h e))).Makes K s [.asked (.handle h e)] s (.ok ()) :=
    ⟨ls, Routine.plays_attempt plays, signs⟩
  exact tried.bind makes_pure

/-- Plays that make a sign each make them one after another. -/
lemma makes_each {f : β → Play Unit} {sign : β → Sign} (h : ∀ b, (f b).Makes K s [sign b] s ()) (bs : List β) :
    (each f bs).Makes K s (bs.map sign) s () := by
  induction bs with
  | nil => exact makes_pure
  | cons b bs ih => exact (h b).bind ih

end Play

/-- What everybody sees of an event that is published. -/
def Stage.hears (s : Stage) (e : Event) : List Sign :=
  match s.bus with
  | none => []
  | some bus => (bus.handlers e.kind).map fun h => .asked (.handle h e)

/-- What everybody sees when a session moves on by a link. -/
def Stage.moving (s : Stage) (link : Text) : List Sign :=
  match Play.targetOf s link, s.session with
  | some n, some x => s.hears ⟨.nodeEntered, some x.number, .node (s.agents x.agent).id n.name⟩
  | _, _ => []

/-- The stage when its session has moved on by a link. -/
def Stage.moved (s : Stage) (link : Text) : Stage :=
  { s with session := s.session.map fun x =>
      match Play.targetOf s link with
      | some n => { x with node := n, index := 0 }
      | none => { x with index := x.index + 1 } }

namespace Play

/-- Of an event that is published, its handlers are seen. -/
lemma makes_publish {e : Event} : (publish e).Makes K s (s.hears e) s () := by
  refine makes_of_get ?_
  unfold Stage.hears
  cases s.bus with
  | none => exact makes_pure
  | some bus => exact makes_each (fun _ => makes_notify) _

/-- Where a link leads to a node, there is a session. -/
lemma session_of_targetOf {link : Text} {n : Node} (h : targetOf s link = some n) :
    ∃ x, s.session = some x := by
  cases session : s.session with
  | some x => exact ⟨x, rfl⟩
  | none => simp [targetOf, Stage.node?, Stage.currentAgent?, Stage.currentLine?, session] at h

/-- What is seen when a session moves on, and where it comes to. -/
lemma makes_moveOn {link : Text} : (moveOn link).Makes K s (s.moving link) (s.moved link) () := by
  refine makes_of_get ?_
  unfold Stage.moving Stage.moved
  cases target : targetOf s link with
  | some n =>
    obtain ⟨x, session⟩ := session_of_targetOf target
    refine makes_modify.bind (makes_of_get ?_)
    simp only [session, Option.map_some]
    exact makes_publish
  | none =>
    cases session : s.session with
    | none =>
      -- Without a session there is nothing to move, and the stage is left as it is.
      have same : ({ s with session := none } : Stage) = s := by rw [← session]
      simp only [Option.map_none, same]
      exact makes_pure
    | some x =>
      have moved : (goTo (x.index + 1)).Makes K s [] _ () := makes_modify
      simp only [session, Option.map_some] at moved ⊢
      exact moved

/-- What is seen when a session goes on after its pause. -/
lemma makes_resume {ticket : Ticket} {link : Text} (awaiting : s.phase = .awaiting) (same : ticket = s.ticket) :
    (resume ticket link).Makes K s (s.resumed.moving link) (s.resumed.moved link) true := by
  subst same
  refine makes_of_get ?_
  simp only [awaiting, decide_true, Bool.and_self, if_true]
  have wentOn : (moveOn link).Makes K s.resumed (s.resumed.moving link) (s.resumed.moved link) () :=
    makes_moveOn
  exact makes_set.bind wentOn.result

/-- What is seen when a session goes on with the answer to a prompt. -/
lemma makes_respond {prompt : Prompt} {label link : Text} (awaiting : s.phase = .awaiting)
    (same : prompt.ticket = s.ticket) (found : prompt.link? label = some link) :
    (respond prompt label).Makes K s (s.resumed.moving link) (s.resumed.moved link) true := by
  refine makes_of_get ?_
  simp only [same, found, ne_eq, not_true_eq_false, if_false]
  exact makes_resume awaiting rfl

/-- An answer that matches no response goes on all the same. -/
lemma makes_respond_unmatched {prompt : Prompt} {label : Text} (awaiting : s.phase = .awaiting)
    (same : prompt.ticket = s.ticket) (unmatched : prompt.link? label = none) :
    (respond prompt label).Makes K s (.told (.unmatchedAnswer label) :: s.resumed.moving [])
      (s.resumed.moved []) true := by
  refine makes_of_get ?_
  simp only [same, unmatched, ne_eq, not_true_eq_false, if_false]
  exact makes_tell.bind (makes_resume awaiting rfl)

end Play

/-- A call that goes on from a pause makes the same of the stage, and everybody sees the same of it, whether
lines are being run further out or not. -/
lemma makes_of_goesOn {c : Call} (goes : s.GoesOn c) : ∃ (signs : List Sign) (t : Stage) (a : Answer),
    t.lineObservers = s.lineObservers ∧ t.inRun = s.inRun ∧
      ∀ b, c.play.Makes K { s with inRun := b } signs { t with inRun := b } (.run a) := by
  obtain ⟨awaiting, ticket⟩ := goes
  -- What the stage becomes is computed from it field by field, so the flag is carried along.
  cases c with
  | advance link =>
    refine ⟨s.resumed.moving link, s.resumed.moved link, .flag true, rfl, rfl, fun b => ?_⟩
    refine Play.makes_of_get ?_
    exact (Play.makes_resume (s := { s with inRun := b }) awaiting rfl).result
  | resume t link =>
    have same : t = s.ticket := Option.some.inj ticket
    refine ⟨s.resumed.moving link, s.resumed.moved link, .nothing, rfl, rfl, fun b => ?_⟩
    exact (Play.makes_resume (s := { s with inRun := b }) awaiting same).result
  | respond prompt label =>
    have same : prompt.ticket = s.ticket := Option.some.inj ticket
    cases found : prompt.link? label with
    | some link =>
      refine ⟨s.resumed.moving link, s.resumed.moved link, .nothing, rfl, rfl, fun b => ?_⟩
      exact (Play.makes_respond (s := { s with inRun := b }) awaiting same found).result
    | none =>
      refine ⟨.told (.unmatchedAnswer label) :: s.resumed.moving [], s.resumed.moved [], .nothing, rfl, rfl, ?_⟩
      intro b
      exact (Play.makes_respond_unmatched (s := { s with inRun := b }) awaiting same found).result
  | _ => cases ticket

end Makes

/-! ## Lines -/

/-- Nobody but the presenters watches lines, and the flag of the loop is as given. -/
structure Stage.Unwatched (b : Bool) (s : Stage) : Prop where
  observers : s.lineObservers = []
  inRun : s.inRun = b

/-- The stage waits in the pause of a ticket while lines are being run. -/
structure Stage.WaitsAt (ticket : Ticket) (s : Stage) : Prop extends s.Unwatched true where
  awaiting : s.phase = .awaiting
  ticket : s.ticket = ticket

/-- Lines are being run, and what is handed out can be gone on from. -/
structure Stage.Poised (q : Request) (s : Stage) : Prop extends s.Unwatched true where
  goesOn : ∀ {c}, c.Answers q → s.GoesOn c

/-- Nothing has been handed out so far, and the stage is as given. -/
def Scene.Quiet (P : Stage → Prop) (x : Scene) : Prop :=
  (∀ l ∈ x.past, l.handsOut = false) ∧ P x.stage

/-- Something has just been handed out, for the first time. -/
def Scene.Handed (x : Scene) : Prop :=
  ∃ before s q r, x.past = before ++ [.asked s q, .replied x.stage q r] ∧ q.handsOut = true ∧
    ∀ l ∈ before, l.handsOut = false

/-- Nothing has been handed out, or that was the last thing to be done. -/
def Closes (x : Scene) (r : Except Fault Unit) : Prop :=
  x.Quiet (·.Unwatched true) ∨ x.Handed ∧ r = .ok ()

/-- What is handed out can be gone on from, and no more is known of the stage when the company gives it back
but that nobody else watches. -/
def Company.contract (K : Company) : Contract where
  rule _ l :=
    match l with
    | .replied _ q r => r = .ok (K.reply q)
    | _ => True
  holds x := ∀ s q, x.past.getLast? = some (.asked s q) → q.handsOut = true → s.Poised q
  visit x y := y = x ∨
    (∃ s q, x.past.getLast? = some (.asked s q) ∧ q.handsOut = true) ∧ y.past = x.past ∧
      y.stage.lineObservers = []
  running _ _ := True
  visit_refl _ := .inl rfl
  visit_trans := by
    rintro x y z (rfl | ⟨hands, past, observers⟩) (rfl | ⟨hands', past', observers'⟩)
    · exact .inl rfl
    · exact .inr ⟨hands', past', observers'⟩
    · exact .inr ⟨hands, past, observers⟩
    · exact .inr ⟨hands, past'.trans past, observers'⟩

/-- Setting the flag of the loop to what it is changes nothing. -/
lemma Stage.eq_of_inRun (s : Stage) {b : Bool} (inRun : s.inRun = b) : ({ s with inRun := b } : Stage) = s := by
  rw [← inRun]

namespace Company

open Play

variable {K : Company} {P : Stage → Prop} {x y : Scene} {b : Bool} {ticket : Ticket}

/-- It is quiet as long as nothing is handed out. -/
lemma quiet_see {l : Label} (known : x.Quiet P) (quiet : l.handsOut = false) : (x.see l).Quiet P := by
  refine ⟨fun l' mem => ?_, known.2⟩
  rcases List.mem_append.mp mem with mem | mem
  · exact known.1 l' mem
  · rw [List.mem_singleton.mp mem]
    exact quiet

/-- It stays quiet when something is reported. -/
lemma tells (n : Notice) : Contract.Tells (Scene.Quiet P) n :=
  fun _ known => quiet_see known rfl

/-- The request that went out last is the one that has just gone out. -/
lemma last_asking {s : Stage} {q q' : Request} (last : (x.asking q).past.getLast? = some (.asked s q')) :
    s = x.stage ∧ q' = q := by
  rw [Scene.asking, Scene.see, List.getLast?_concat] at last
  cases last
  exact ⟨rfl, rfl⟩

/-- Nothing happens to the stage while the company has nothing in its hands. -/
lemma asks {q : Request} (hands : q.handsOut = false) : K.contract.Asks (Scene.Quiet P) (Scene.Quiet P) q := by
  intro x known
  have other {s : Stage} {q' : Request} (last : (x.asking q).past.getLast? = some (.asked s q'))
      (hands' : q'.handsOut = true) : False := by
    rw [(last_asking last).2, hands] at hands'
    cases hands'
  refine ⟨fun s q' last hands' => (other last hands').elim, fun y r back _ => ?_⟩
  have same : y = x.asking q := by
    unfold Contract.Back at back
    split at back
    · rcases back.visit with same | ⟨⟨s, q', last, hands'⟩, -⟩
      · exact same
      · exact (other last hands').elim
    · exact back
  subst same
  exact quiet_see (quiet_see known hands) rfl

/-- It stays quiet when the stage changes as it may. -/
lemma changes {f : Stage → Stage} (keeps : ∀ s, P s → P (f s)) : Contract.Changes (Scene.Quiet P) f :=
  fun _ known => ⟨known.1, keeps _ known.2⟩

/-- It stays quiet when keywords are looked up. -/
lemma reads : K.contract.Reads (Scene.Quiet P) where
  told := tells
  keyword _ _ := asks rfl

/-- It stays quiet when functions are called. -/
lemma consults : K.contract.Consults (Scene.Quiet (·.Unwatched b)) where
  told := tells
  keyword _ _ := asks rfl
  function _ _ _ := asks rfl
  called _ _ := carries_announce tells fun _ _ _ _ => asks rfl
  builtIn name parameter := by
    refine changes fun s unwatched => ?_
    obtain ⟨vars, agents, e⟩ := s.callBuiltIn_eq name parameter
    rw [e]
    exact ⟨unwatched.observers, unwatched.inRun⟩
  written _ _ := changes fun _ unwatched => ⟨unwatched.observers, unwatched.inRun⟩

/-- It stays quiet when a session moves from line to line. -/
lemma moves : K.contract.Moves (Scene.Quiet (·.Unwatched b)) (Scene.Quiet (·.Unwatched b)) where
  weak := id
  reported := tells
  entered := carries_announce tells fun _ _ _ _ => asks rfl
  node := Contract.enters fun _ => changes fun _ unwatched => ⟨unwatched.observers, unwatched.inRun⟩
  index _ := changes fun _ unwatched => ⟨unwatched.observers, unwatched.inRun⟩

/-- It stays quiet when a session ends. -/
lemma carries_endSession :
    endSession.Carries K.contract (Scene.Quiet (·.Unwatched b)) (Scene.Quiet (·.Unwatched b)) :=
  Play.carries_endSession (changes fun _ unwatched => ⟨unwatched.observers, unwatched.inRun⟩) fun _ =>
    carries_tearDown tells (fun _ => asks rfl) (fun _ => asks rfl) (fun _ _ _ _ => asks rfl) fun _ _ => asks rfl

/-- What is handed out is the last thing to be done. -/
lemma does_ask {q : Request} {f : Reply q → Play Unit} (known : x.Quiet P) (hands : q.handsOut = true)
    (poised : x.stage.Poised q)
    (last : ∀ y : Scene, y.stage.lineObservers = [] → Closes y (.ok ()) →
      (f (K.reply q)).Does K.contract y Closes) :
    (ask q >>= f).Does K.contract x Closes := by
  refine does_bind.mpr (Play.does_ask.mpr ⟨?_, ?_⟩)
  · intro s q' out _
    obtain ⟨rfl, rfl⟩ := last_asking out
    exact poised
  · rintro y r back rfl
    have out : y.past = (x.asking q).past ∧ y.stage.lineObservers = [] := by
      unfold Contract.Back at back
      split at back
      · rcases back.visit with rfl | ⟨-, past, observers⟩
        · exact ⟨rfl, poised.observers⟩
        · exact ⟨past, observers⟩
      · rw [back]
        exact ⟨rfl, poised.observers⟩
    refine last _ out.2 (.inr ⟨⟨x.past, x.stage, q, .ok (K.reply q), ?_, hands, known.1⟩, rfl⟩)
    rw [Scene.replying, Scene.see, out.1, Scene.asking, Scene.see, List.append_assoc]
    rfl

/-- A stage that waits unwatched may close. -/
lemma closes_of_waiting {r : Except Fault Unit} (known : x.Quiet (·.WaitsAt ticket)) : Closes x r :=
  .inl ⟨known.1, known.2.toUnwatched⟩

/-- A line that is shown is handed to its presenter, and to nobody else. -/
lemma does_handOut {l : Line} (known : x.Quiet (·.WaitsAt ticket)) :
    (handOut l ticket).Does K.contract x Closes := by
  have unobserved {y : Scene} (observers : y.stage.lineObservers = []) (closes : Closes y (.ok ())) :
      (handToObservers l ticket).Does K.contract y Closes := by
    refine does_bind.mpr (does_get.mpr ?_)
    simp only [Then, observers]
    exact closes
  have presented {y : Scene} (known : y.Quiet (·.WaitsAt ticket)) :
      (handToPresenter l ticket >>= fun _ => handToObservers l ticket).Does K.contract y Closes := by
    unfold handToPresenter
    rw [bind_assoc]
    refine does_bind.mpr (does_get.mpr ?_)
    simp only [Then]
    cases y.stage.presenter with
    | none => exact unobserved known.2.observers (closes_of_waiting known)
    | some p =>
      refine does_ask known rfl ⟨known.2.toUnwatched, ?_⟩ fun y => unobserved
      intro c answers
      refine ⟨known.2.awaiting, ?_⟩
      cases answers with
      | resume link => exact congrArg some known.2.ticket.symm
      | advance link => rfl
  refine does_bind.mpr (does_get.mpr ?_)
  simp only [Then]
  split
  · exact does_bind.mpr (does_tell.mpr (presented (tells _ x known)))
  · exact presented known

/-- Handing out a query is the last thing to be done. -/
lemma does_handQuery {p : Prompt} (known : x.Quiet (·.WaitsAt p.ticket)) :
    (handQuery p).Does K.contract x Closes := by
  refine does_bind.mpr (does_get.mpr ?_)
  simp only [Then]
  cases x.stage.queryPresenter with
  | none => exact closes_of_waiting known
  | some presenter =>
    change (ask (.query presenter p)).Does K.contract x Closes
    rw [← bind_pure (ask (.query presenter p))]
    refine does_ask known rfl ⟨known.2.toUnwatched, ?_⟩ fun y _ closes => closes
    intro c answers
    refine ⟨known.2.awaiting, ?_⟩
    cases answers with
    | respond label => exact congrArg some known.2.ticket.symm
    | advance link => rfl

/-- An announcement comes before the last thing to be done. -/
lemma does_announce {kind : EventKind} {payload : (agent node : Text) → Payload} {p : Play Unit}
    (known : x.Quiet (·.WaitsAt ticket)) (hands : ∀ {y : Scene}, y.Quiet (·.WaitsAt ticket) →
      p.Does K.contract y Closes) :
    (announce kind payload >>= fun _ => p).Does K.contract x Closes := by
  have announced : (announce kind payload).Carries K.contract (Scene.Quiet (·.WaitsAt ticket))
      (Scene.Quiet (·.WaitsAt ticket)) := carries_announce tells fun _ _ _ _ => asks rfl
  refine does_bind.mpr ((announced x known).mono ?_)
  intro y r known
  cases r with
  | error e => exact closes_of_waiting known
  | ok u => exact hands known

/-- A line that is run hands out one thing at most, and that is the last thing to be done. -/
lemma does_runLine (known : x.Quiet (·.Unwatched true)) : runLine.Does K.contract x Closes := by
  have suspended {y : Scene} (known : y.Quiet (·.Unwatched true)) :
      (y.on y.stage.suspended).Quiet (·.WaitsAt (y.stage.ticket + 1)) :=
    ⟨known.1, ⟨known.2.observers, known.2.inRun⟩, rfl, rfl⟩
  refine Play.does_runLine consults id moves known (fun _ _ => .inl) carries_endSession ?_ ?_
  · intro y l _ known _
    refine does_askQuery tells moves known (fun _ _ => .inl) reads (suspended known)
      (fun _ _ => closes_of_waiting) ?_
    intro z p known _ gives
    rw [← (prompt_of_gives gives).2] at known
    exact does_announce known does_handQuery
  · intro y l _ known _
    refine does_showLine reads (fun _ => changes fun _ unwatched => ⟨unwatched.observers, unwatched.inRun⟩)
      known (fun _ _ => .inl) ?_
    intro z shown _ known _
    exact does_announce (suspended known) does_handOut

/-- It stays quiet when a session starts. -/
lemma carries_initiate (a : Option AgentId) (onExit : Option Nat) :
    (initiate a onExit).Carries K.contract (Scene.Quiet (·.Unwatched b)) (Scene.Quiet (·.Unwatched b)) := by
  intro x known
  refine Does.mono (fun _ _ settled => settled.known id) (does_initiate id tells ?_ known ?_)
  · exact changes fun _ unwatched => ⟨unwatched.observers, unwatched.inRun⟩
  · intro _ _ _ _ _
    refine carries_tellStart tells (fun _ _ => asks rfl) (fun _ _ _ => asks rfl) (fun _ _ _ => asks rfl) _ _ _ _ ?_
    exact ⟨known.1, known.2.observers, known.2.inRun⟩

/-- It stays quiet during a call that may start a session. -/
lemma carries_play {c : Call} (starts : c.Starts) :
    c.play.Carries K.contract (Scene.Quiet (·.Unwatched b)) (Scene.Quiet (·.Unwatched b)) := by
  cases starts with
  | initiate a onExit => exact carries_initiate a onExit
  | start a speaker onExit =>
    have built : (build a speaker).Carries K.contract (Scene.Quiet (·.Unwatched b))
        (Scene.Quiet (·.Unwatched b)) := by
      intro x known
      refine Does.mono (fun _ _ => And.left) (does_build tells ?_ known)
      exact changes fun _ unwatched => ⟨unwatched.observers, unwatched.inRun⟩
    exact built.bind fun _ => carries_initiate (some a) onExit

/-! ## What a routine comes to -/

section Meets

variable {α : Type} {post : Scene → Except Fault α → Prop} {past : List Label} {r : Routine α}

/-- A routine keeps to the contract from where its play stops. -/
lemma meets_plays (h : r.Meets K.contract post past) :
    (r.plays K).2.Meets K.contract post (past ++ (r.plays K).1) := by
  induction r generalizing past with
  | done s a => simpa only [Routine.plays, List.append_nil] using h
  | tell n rest ih =>
    have after := ih h
    rw [List.append_assoc] at after
    exact after
  | ask s q k ih =>
    cases hands : q.handsOut with
    | true => simpa only [Routine.plays_handsOut hands, List.append_nil] using h
    | false =>
      have after := ih (.ok (K.reply q)) s (h.2 _ (.ok (K.reply q)) (.refl h.1) rfl)
      rw [Routine.plays_ask hands]
      rw [Scene.replying, Scene.see, Scene.asking, Scene.see, List.append_assoc, List.append_assoc] at after
      exact after

/-- A routine that keeps to the contract can come to its end. -/
lemma reaches (h : r.Meets K.contract post past) : ∃ y a, post y a ∧ past <+: y.past := by
  induction r generalizing past with
  | done s a => exact ⟨⟨s, past⟩, a, h, List.prefix_rfl⟩
  | tell n rest ih =>
    obtain ⟨y, a, known, before⟩ := ih h
    exact ⟨y, a, known, (List.prefix_append _ _).trans before⟩
  | ask s q k ih =>
    obtain ⟨y, a, known, before⟩ := ih (.ok (K.reply q)) s (h.2 _ (.ok (K.reply q)) (.refl h.1) rfl)
    refine ⟨y, a, known, List.IsPrefix.trans ?_ before⟩
    exact (List.prefix_append _ _).trans (List.prefix_append _ _)

/-- A routine that hands nothing out comes to an end with the company. -/
lemma ends_of_quiet (h : r.Meets K.contract (fun y _ => y.Quiet P) past) :
    ∃ s a, (r.plays K).2 = .done s a ∧ P s := by
  have meets := meets_plays h
  have stops := r.stops_plays (K := K)
  cases last : (r.plays K).2 with
  | done s a =>
    rw [last] at meets
    exact ⟨s, a, rfl, meets.2⟩
  | tell n rest =>
    rw [last] at stops
    exact stops.elim
  | ask s q k =>
    rw [last] at meets stops
    have after := meets.2 _ (.ok (K.reply q)) (.refl meets.1) rfl
    obtain ⟨y, a, known, before⟩ := reaches after
    have mem : .asked s q ∈ y.past := by
      refine before.subset (List.mem_append_left _ ?_)
      exact List.mem_append_right _ (List.mem_singleton_self _)
    have hands : Label.handsOut (.asked s q) = true := stops
    rw [known.1 _ mem] at hands
    cases hands

end Meets

/-- If something has been handed out before, it has been handed out just now. -/
lemma eq_of_closes {s t : Stage} {q : Request} {r : Except Fault (Reply q)} {past : List Label}
    {a : Except Fault Unit} (closes : Closes y a) (hands : q.handsOut = true)
    (quiet : ∀ l ∈ past, l.handsOut = false) (before : past ++ [.asked s q, .replied t q r] <+: y.past) :
    y.past = past ++ [.asked s q, .replied t q r] ∧ y.stage = t ∧ a = .ok () := by
  obtain ⟨rest, whole⟩ := before
  have asked : Label.handsOut (.asked s q) = true := hands
  rcases closes with ⟨nothing, -⟩ | ⟨⟨past', s', q', r', e, hands', quiet'⟩, rfl⟩
  · rw [nothing] at asked
    · cases asked
    · rw [← whole]
      simp
  · rw [e, List.append_assoc] at whole
    -- Both ways of cutting the past come to the one label that hands something out.
    rcases List.append_eq_append_iff.mp whole with ⟨more, rfl, last⟩ | ⟨more, rfl, last⟩
    · cases more with
      | nil =>
        cases last
        exact ⟨by rw [e, List.append_nil], rfl, rfl⟩
      | cons l more =>
        obtain ⟨rfl, -⟩ := List.cons.inj last
        have silent := quiet' (.asked s q) (by simp)
        rw [silent] at asked
        cases asked
    · cases more with
      | nil =>
        cases last
        exact ⟨by rw [e, List.append_nil], rfl, rfl⟩
      | cons l more =>
        obtain ⟨rfl, -⟩ := List.cons.inj last
        have silent := quiet (.asked s' q') (by simp)
        have asked' : Label.handsOut (.asked s' q') = true := hands'
        rw [silent] at asked'
        cases asked'

/-- Once something has been handed out, nothing is left to be done. -/
lemma eq_done_of_handed {s t : Stage} {q : Request} {reply : Except Fault (Reply q)} {past : List Label}
    {r : Routine Unit} (hands : q.handsOut = true) (quiet : ∀ l ∈ past, l.handsOut = false)
    (h : r.Meets K.contract Closes (past ++ [.asked s q, .replied t q reply])) : r = .done t (.ok ()) := by
  have nothing {y : Scene} {a : Except Fault Unit} {ls : List Label} (closes : Closes y a)
      (more : past ++ [.asked s q, .replied t q reply] ++ ls <+: y.past) : ls = [] := by
    obtain ⟨same, -⟩ := eq_of_closes closes hands quiet ((List.prefix_append _ ls).trans more)
    rw [same] at more
    have short := more.length_le
    simp only [List.length_append] at short
    exact List.length_eq_zero_iff.mp (by omega)
  cases r with
  | done s' a =>
    obtain ⟨-, same, rfl⟩ := eq_of_closes h hands quiet List.prefix_rfl
    obtain rfl : s' = t := same
    rfl
  | tell n rest =>
    obtain ⟨y, a, closes, more⟩ := reaches (r := rest) h
    cases nothing closes more
  | ask s' q' k =>
    obtain ⟨y, a, closes, more⟩ := reaches (h.2 _ (.ok (K.reply q')) (.refl h.1) rfl)
    have more' := (List.prefix_append _ _).trans more
    cases nothing closes more'

/-- A line that is left with the company comes to an end, or to something that can be gone on from. -/
lemma runLine_comes {s : Stage} (unwatched : s.Unwatched true) :
    (∃ t a, ((runLine s).plays K).2 = .done t a ∧ t.Unwatched true) ∨
      ∃ t q k, ((runLine s).plays K).2 = .ask t q k ∧ q.handsOut = true ∧ t.Poised q ∧
        ∀ u, u.lineObservers = [] → k (.ok (K.reply q)) u = .done u (.ok ()) := by
  have start : (Scene.mk s []).Quiet (·.Unwatched true) := ⟨fun _ mem => absurd mem List.not_mem_nil, unwatched⟩
  -- The past is taken to be empty, so that nothing can have been handed out but by this line.
  have meets := meets_plays (does_runLine (K := K) start)
  have quiet := (runLine s).quiet_plays (K := K)
  have stops := (runLine s).stops_plays (K := K)
  generalize (runLine s).plays K = played at meets quiet stops ⊢
  obtain ⟨ls, r⟩ := played
  cases r with
  | done t a =>
    rcases meets with known | ⟨⟨before, s', q, r, past, hands, -⟩, -⟩
    · exact .inl ⟨t, a, rfl, known.2⟩
    · have whole : ls = before ++ [.asked s' q, .replied t q r] := past
      have mem : .asked s' q ∈ ls := by
        rw [whole]
        exact List.mem_append_right _ List.mem_cons_self
      have asked : Label.handsOut (.asked s' q) = true := hands
      rw [quiet _ mem] at asked
      cases asked
  | tell n rest => exact stops.elim
  | ask t q k =>
    have out : (Scene.asking ⟨t, ls⟩ q).past.getLast? = some (.asked t q) := List.getLast?_concat
    refine .inr ⟨t, q, k, rfl, stops, meets.1 t q out stops, fun u observers => ?_⟩
    have back : K.contract.Back q (Scene.asking ⟨t, ls⟩ q) ⟨u, ls ++ [.asked t q]⟩ := by
      have opened : q.isOpen = true := by
        cases q with
        | keyword m key => cases stops
        | _ => rfl
      rw [Contract.Back, if_pos opened]
      exact ⟨meets.1, .inr ⟨⟨t, q, out, stops⟩, rfl, observers⟩⟩
    have rest := meets.2 _ (.ok (K.reply q)) back rfl
    rw [Scene.replying, Scene.see, List.append_assoc] at rest
    exact eq_done_of_handed stops quiet rest

/-! ## Two paces -/

section Paces

variable {pace : Pace} {c c' : Call} {s₀ s t : Stage} {n : Nat} {memory : Memory} {signs signs' : List Sign}
  {a a' : Answer} {q : Request} {k : Except Fault (Reply q) → Stage → Routine Unit}

/-- The company goes on at once from what it has in its hands, and then gives it back. -/
lemma answers_atOnce (h : K.Reaches .atOnce c s₀ n ⟨.surroundings s, [.run a q k]⟩ memory signs)
    (due : memory.due = some c') (hands : q.handsOut = true) (makes : c'.play.Makes K s signs' t (.run a'))
    (inRun : t.inRun = true) : K.Reaches .atOnce c s₀ (n + 3) ⟨.stage (.run a (k (.ok (K.reply q)) t)), []⟩
      { memory with due := none } (signs ++ signs') := by
  obtain ⟨ls, plays, rfl⟩ := makes
  have opened : Pending.isOpen [.run a q k] = true := by
    cases q with
    | keyword m key => cases hands
    | _ => rfl
  have played := (h.call due opened Pace.noConfusion).plays Frame.call rfl
  rw [plays] at played
  have answers : Moment.work? ⟨.stage (.call (.done t (.ok (.run a')))), [.run a q k]⟩ =
      some (.answered t (.ok a'), ⟨.surroundings t, [.run a q k]⟩) := congrArg some (if_pos inRun)
  exact (played.silent (.work answers) trivial rfl).reply fun _ => rfl

/-- The company gives back what it has in its hands, and goes on when the loop has come to its end. -/
lemma answers_later (h : K.Reaches .later c s₀ n ⟨.surroundings s, [.run a q k]⟩ memory signs)
    (due : memory.due = some c') (awaiting : s.phase = .awaiting)
    (final : k (.ok (K.reply q)) s = .done s (.ok ()))
    (makes : c'.play.Makes K { s with inRun := false } signs' { t with inRun := false } (.run a'))
    (inRun : t.inRun = true) : K.Reaches .later c s₀ (n + 3) ⟨.stage (.run a' (.done t (.ok ()))), []⟩
      { memory with due := none } (signs ++ signs') := by
  obtain ⟨ls, plays, rfl⟩ := makes
  have replied : K.Reaches .later c s₀ (n + 1) ⟨.stage (.run a (k (.ok (K.reply q)) s)), []⟩ memory signs :=
    h.reply (p := .run a q k) Pace.noConfusion
  rw [final] at replied
  -- The session waits, so the loop ends and its call is answered; then the next call begins a loop again.
  have still : s.phase ≠ .running := by
    rw [awaiting]
    decide
  have ends : Moment.work? ⟨.stage (.run a (.done s (.ok ()))), []⟩ =
      some (.answered { s with inRun := false } (.ok a), ⟨.surroundings { s with inRun := false }, []⟩) :=
    congrArg some (if_neg still)
  have called := (replied.silent (.work ends) trivial rfl).call due rfl fun _ => rfl
  have played := called.plays Frame.call rfl
  rw [plays] at played
  have turns : Moment.work? ⟨.stage (.call (.done { t with inRun := false } (.ok (.run a')))), []⟩ =
      some (.silent, ⟨.stage (.run a' (.done { t with inRun := true } (.ok ()))), []⟩) := rfl
  rw [t.eq_of_inRun inRun] at turns
  exact (played.silent (.work turns) trivial rfl).le (Nat.le_succ (n + 3))

/-- At both paces the loop that runs lines is about to begin the next one. The company remembers the same, and
everybody has seen the same. -/
def InTune (K : Company) (c : Call) (s₀ : Stage) (n : Nat) (s : Stage) : Prop :=
  s.Unwatched true ∧ ∃ memory signs, memory.due = none ∧
    ∀ pace, ∃ a, K.Reaches pace c s₀ n ⟨.stage (.run a (.done s (.ok ()))), []⟩ memory signs

/-- At both paces nobody waits for a reply any more, and there is nothing left to be done. -/
def InUnison (K : Company) (c : Call) (s₀ : Stage) (n : Nat) (s : Stage) : Prop :=
  ∃ memory signs, memory.due = none ∧ ∀ pace, K.Reaches pace c s₀ n ⟨.surroundings s, []⟩ memory signs

/-- Something is handed out at both paces, and the company goes on from it, or leaves it at that. -/
lemma inTune_of_handed (hands : q.handsOut = true) (poised : s.Poised q)
    (final : ∀ t, t.lineObservers = [] → k (.ok (K.reply q)) t = .done t (.ok ()))
    (reaches : ∀ pace, ∃ a, K.Reaches pace c s₀ n ⟨.stage (.run a (.ask s q k)), []⟩ memory signs) :
    ∃ t, K.InTune c s₀ n t := by
  have handed (pace : Pace) : ∃ a, K.Reaches pace c s₀ (n + 1) ⟨.surroundings s, [.run a q k]⟩
      ⟨memory.shown ++ [q], K.choose memory.shown q⟩ (signs ++ [.asked q]) := by
    obtain ⟨a, reaches⟩ := reaches pace
    have asked := reaches.step (.work ((Frame.run a).asks s q k [])) trivial
    rw [heed, if_pos hands] at asked
    exact ⟨a, asked⟩
  cases chosen : K.choose memory.shown q with
  | none =>
    rw [chosen] at handed
    refine ⟨s, poised.toUnwatched, ⟨memory.shown ++ [q], none⟩, signs ++ [.asked q], rfl, fun pace => ?_⟩
    obtain ⟨a, handed⟩ := handed pace
    have replied : K.Reaches pace c s₀ (n + 2) ⟨.stage (.run a (k (.ok (K.reply q)) s)), []⟩ _ _ :=
      handed.reply (p := .run a q k) fun _ => rfl
    rw [final s poised.observers] at replied
    exact ⟨a, replied.le (Nat.le_add_right n 2)⟩
  | some c' =>
    rw [chosen] at handed
    have goes := poised.goesOn (K.answers chosen)
    obtain ⟨signs', t, a', observers, inRun, makes⟩ := makes_of_goesOn (K := K) goes
    have running : s.inRun = true := poised.inRun
    have unwatched : t.Unwatched true := ⟨observers.trans poised.observers, inRun.trans running⟩
    refine ⟨t, unwatched, ⟨memory.shown ++ [q], none⟩, signs ++ [.asked q] ++ signs', rfl, fun pace => ?_⟩
    obtain ⟨a, handed⟩ := handed pace
    -- At once, the call goes on inside the request; later, the loop has ended and the call begins another one.
    cases pace with
    | atOnce =>
      have made := makes true
      rw [s.eq_of_inRun running, t.eq_of_inRun unwatched.inRun] at made
      have wentOn := answers_atOnce handed rfl hands made unwatched.inRun
      rw [final t unwatched.observers] at wentOn
      exact ⟨a, wentOn.le (Nat.le_add_right n 4)⟩
    | later =>
      have wentOn := answers_later handed rfl goes.1 (final s poised.observers) (makes false) unwatched.inRun
      exact ⟨a', wentOn.le (Nat.le_add_right n 4)⟩

/-- After one line both paces are where they were, or have come to the same end. -/
lemma InTune.next (h : K.InTune c s₀ n s) : (∃ t, K.InUnison c s₀ n t) ∨ ∃ t, K.InTune c s₀ (n + 1) t := by
  obtain ⟨unwatched, memory, signs, free, reaches⟩ := h
  by_cases running : s.phase = .running
  · have played : ∃ signs, ∀ pace, ∃ a,
        K.Reaches pace c s₀ (n + 1) ⟨.stage (.run a ((runLine s).plays K).2), []⟩ memory signs := by
      refine ⟨signs ++ performance ((runLine s).plays K).1, fun pace => ?_⟩
      obtain ⟨a, reaches⟩ := reaches pace
      have begins : Moment.work? ⟨.stage (.run a (.done s (.ok ()))), []⟩ =
          some (.began s, ⟨.stage (.run a (runLine s)), []⟩) := congrArg some (if_pos running)
      exact ⟨a, (reaches.silent (.work begins) trivial rfl).plays (Frame.run a) free⟩
    obtain ⟨signs, played⟩ := played
    rcases runLine_comes unwatched with ⟨t, r, last, unwatched'⟩ | ⟨t, q, k, last, hands, poised, final⟩
    · rw [last] at played
      cases r with
      | ok u => exact .inr ⟨t, unwatched', memory, signs, free, played⟩
      | error e =>
        refine .inl ⟨{ t with inRun := false }, memory, signs, free, fun pace => ?_⟩
        obtain ⟨a, played⟩ := played pace
        exact (played.silent (.work rfl) trivial rfl).le (Nat.le_add_right n 2)
    · rw [last] at played
      exact .inr (inTune_of_handed hands poised final played)
  · refine .inl ⟨{ s with inRun := false }, memory, signs, free, fun pace => ?_⟩
    obtain ⟨a, reaches⟩ := reaches pace
    have ends : Moment.work? ⟨.stage (.run a (.done s (.ok ()))), []⟩ =
        some (.answered { s with inRun := false } (.ok a), ⟨.surroundings { s with inRun := false }, []⟩) :=
      congrArg some (if_neg running)
    exact (reaches.silent (.work ends) trivial rfl).le (Nat.le_succ n)

/-- A call that may start a session brings both paces to where they begin with lines, or to the same end. -/
lemma starts_inTune (starts : c.Starts) (still : s.Unwatched false) :
    (∃ t, K.InUnison c s 0 t) ∨ ∃ t, K.InTune c s 0 t := by
  have start : (Scene.mk s []).Quiet (·.Unwatched false) := ⟨fun _ mem => absurd mem List.not_mem_nil, still⟩
  obtain ⟨t, r, last, unwatched⟩ := ends_of_quiet (carries_play starts _ start)
  have played : ∃ signs, ∀ pace,
      K.Reaches pace c s 1 ⟨.stage (.call ((c.play s).plays K).2), []⟩ ⟨[], none⟩ signs := by
    refine ⟨performance ((c.play s).plays K).1, fun pace => ?_⟩
    have nothing : K.Reaches pace c s 0 (.initial s) ⟨[], some c⟩ [] := ⟨[], .nil, Nat.le_refl 0, rfl, rfl⟩
    exact (nothing.call rfl rfl fun _ => rfl).plays Frame.call rfl
  obtain ⟨signs, played⟩ := played
  rw [last] at played
  have answered (h : ∀ pace, K.Reaches pace c s 2 ⟨.surroundings t, []⟩ ⟨[], none⟩ signs) :
      K.InUnison c s 0 t :=
    ⟨⟨[], none⟩, signs, rfl, fun pace => (h pace).le (Nat.zero_le 2)⟩
  cases r with
  | error e => exact .inl ⟨t, answered fun pace => (played pace).silent (.work rfl) trivial rfl⟩
  | ok o =>
    cases o with
    | answer a => exact .inl ⟨t, answered fun pace => (played pace).silent (.work rfl) trivial rfl⟩
    | run a =>
      refine .inr ⟨{ t with inRun := true }, ⟨unwatched.observers, rfl⟩, ⟨[], none⟩, signs, rfl, ?_⟩
      refine fun pace => ⟨a, ?_⟩
      have off : ¬ t.inRun = true := by
        rw [unwatched.inRun]
        decide
      have turns : Moment.work? ⟨.stage (.call (.done t (.ok (.run a)))), []⟩ =
          some (.silent, ⟨.stage (.run a (.done { t with inRun := true } (.ok ()))), []⟩) :=
        congrArg some (if_neg off)
      exact ((played pace).silent (.work turns) trivial rfl).le (Nat.zero_le 2)

variable {ls : List Label}

/-- If one pace comes to an end, both come to the same end. -/
lemma InTune.ends (h : K.InTune c s₀ n s) (finishes : K.Finishes pace c s₀ ls t) :
    ∃ n t, K.InUnison c s₀ n t := by
  -- Each line takes a step of the finished run at least.
  induction left : ls.length - n using Nat.strongRecOn generalizing n s with
  | _ d ih =>
    rcases h.next with ⟨t, unison⟩ | ⟨t, tuned⟩
    · exact ⟨n, t, unison⟩
    · obtain ⟨memory, signs, -, reaches⟩ := tuned.2
      obtain ⟨a, reaches⟩ := reaches pace
      have bound := finishes.le_length reaches
      exact ih (ls.length - (n + 1)) (by omega) tuned rfl

/-- A company that performs at one pace performs the same at the other. -/
lemma performs_of_performs {pace' : Pace} (starts : c.Starts) (still : s.Unwatched false)
    (performs : K.Performs pace c s signs t) : K.Performs pace' c s signs t := by
  obtain ⟨ls, finishes, rfl⟩ := performs
  have ends : ∃ n t, K.InUnison c s n t := by
    rcases starts_inTune starts still with ⟨t, unison⟩ | ⟨t, tuned⟩
    · exact ⟨0, t, unison⟩
    · exact tuned.ends finishes
  obtain ⟨n, t', memory, signs, free, reaches⟩ := ends
  obtain ⟨rfl, rfl⟩ := finishes.unique (reaches pace) free
  obtain ⟨past, run, -, rfl, same⟩ := reaches pace'
  exact ⟨past, ⟨run, free⟩, same⟩

end Paces

end Company

/-- At both paces a company that starts a session leaves the stage as the same one, and everybody sees the
same, if nobody else watches lines and no lines are being run. -/
theorem performs_atOnce_iff_later {K : Company} {c : Call} {s s' : Stage} {signs : List Sign} (starts : c.Starts)
    (still : s.inRun = false) (unwatched : s.lineObservers = []) :
    K.Performs .atOnce c s signs s' ↔ K.Performs .later c s signs s' :=
  ⟨Company.performs_of_performs starts ⟨unwatched, still⟩,
    Company.performs_of_performs starts ⟨unwatched, still⟩⟩

/-! ## A reading -/

namespace Company

/-- A company that has no answers, and goes on from each line. -/
def reader : Company where
  reply := Request.plainReply
  choose _ q :=
    match q with
    | .show _ _ ticket => some (.resume ticket [])
    | _ => none
  answers {shown q c} h := by
    cases q with
    | «show» presenter line ticket =>
      cases h
      exact .resume []
    | _ => cases h

/-- The reader goes on at once. -/
def reading : List Label × Memory × Moment :=
  reader.follow .atOnce 60 (reader.recollect (.initiate (some 0) none) []) (.initial monologue)

end Company

/-- What is read at once can be read later. -/
theorem performs_reading_later : monologue.inRun = false ∧ monologue.lineObservers = [] ∧
    Company.reader.Performs .later (.initiate (some 0) none) monologue (performance Company.reading.1)
      Company.reading.2.2.given := by
  have start : Run (Company.reader.rule .atOnce (.initiate (some 0) none)) (.initial monologue) []
      (.initial monologue) := .nil
  have run := Company.run_follow 60 start
  have finished : Company.reading.2.2 = ⟨.surroundings Company.reading.2.2.given, []⟩ :=
    Moment.eq_of_isOver (by decide +kernel)
  have free : Company.reading.2.1.due = none := Option.isNone_iff_eq_none.mp (by decide +kernel)
  have atOnce : Company.reader.Performs .atOnce (.initiate (some 0) none) monologue
      (performance Company.reading.1) Company.reading.2.2.given := by
    refine ⟨Company.reading.1, ⟨?_, ?_⟩, rfl⟩
    · rw [← finished]
      exact run.1
    · rw [← free]
      exact congrArg Memory.due run.2
  exact ⟨rfl, rfl, (performs_atOnce_iff_later (.initiate (some 0) none) rfl rfl).mp atOnce⟩

end Parley
