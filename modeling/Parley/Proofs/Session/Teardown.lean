import Parley.Proofs.Session.Calls
import Parley.Proofs.Session.Farewell
import Parley.Proofs.Session.Rehearsal

/-!
# Teardown

Every session that has ended is torn down once, whatever the surroundings do in the meantime: its
presenter is closed, the observers and handlers of that time are told, and the callback that was given for
it is called, in this order. `teardown_exactly_once` says so of every run that has come back to where it
started.
-/

namespace Parley

/-- From one scene to another, each session takes its course. -/
def Scene.Passes (x y : Scene) : Prop :=
  ∃ ls, y.past = x.past ++ ls ∧ y.stage.audience = x.stage.audience.after ls ∧
    ∀ n, Passage n x.stage.audience ls (x.stage.life n) (y.stage.life n)

/-- Every session stays as far as it is while nothing happens. -/
lemma Scene.Passes.refl (x : Scene) : x.Passes x :=
  ⟨[], (List.append_nil _).symm, rfl, fun _ => .stays rfl .nil⟩

/-- Every session takes its course over two visits. -/
lemma Scene.Passes.trans {x y z : Scene} (h : x.Passes y) (h' : y.Passes z) : x.Passes z := by
  obtain ⟨ls, past, audience, passage⟩ := h
  obtain ⟨ls', past', audience', passage'⟩ := h'
  refine ⟨ls ++ ls', ?_, ?_, ?_⟩
  · rw [past', past, List.append_assoc]
  · rw [audience', audience, Audience.after_append]
  · intro n
    have h := passage' n
    rw [audience] at h
    exact (passage n).trans h

/-- Every session takes its course. -/
def teardowns : Contract where
  rule := Civil
  holds x := x.stage.Sound
  visit := Scene.Passes
  running x y := y.stage.Sound ∧ x.Passes y
  visit_refl := .refl
  visit_trans := .trans

namespace teardowns

open Play

variable {x y z : Scene}

/-- The stage changes, but not in what matters to the course of a session. -/
lemma follows_on {s : Stage} (sound : s.Sound) (life : s.life = x.stage.life)
    (audience : s.audience = x.stage.audience) : teardowns.Follows x (x.on s) := by
  refine ⟨sound, [], (List.append_nil _).symm, audience, ?_⟩
  intro n
  have e : (x.on s).stage.life n = x.stage.life n := congrFun life n
  rw [e]
  exact .stays rfl .nil

/-- Something is seen that does not matter to the end of a session. -/
lemma passage_see {n : Nat} {a : Audience} {l : Label} (quiet : l.ending? n = none)
    (stage : ∀ s, l.stage? = some s → s = x.stage) :
    Passage n a [l] (x.stage.life n) (x.stage.life n) := by
  refine .stays ?_ (.single fun s e => ?_)
  · change [l].filterMap (Label.ending? n) = []
    rw [List.filterMap_cons, quiet]
    rfl
  · rw [stage s e]

/-- The audience is as it was last seen when the stage is seen as it is. -/
lemma audience_see {l : Label} (stage : ∀ s, l.stage? = some s → s = x.stage) :
    x.stage.audience = x.stage.audience.after [l] := by
  change x.stage.audience = (l.stage?.map Stage.audience).getD x.stage.audience
  cases e : l.stage? with
  | none => rfl
  | some s =>
    rw [stage s e]
    rfl

/-- What is seen follows if it has nothing to do with the end of a session. -/
lemma follows_see {l : Label} (sound : x.stage.Sound) (quiet : ∀ n, l.ending? n = none)
    (stage : ∀ s, l.stage? = some s → s = x.stage) : teardowns.Follows x (x.see l) :=
  ⟨sound, [l], rfl, audience_see stage, fun n => passage_see (quiet n) stage⟩

/-- A label that shows no stage shows no other stage. -/
lemma silent {l : Label} (hidden : l.stage? = none) (s : Stage) (h : l.stage? = some s) :
    s = x.stage := by
  rw [hidden] at h
  cases h

/-- A report follows. -/
lemma tells (n : Notice) : Contract.Tells (teardowns.Follows z) n :=
  fun _ known => known.trans (follows_see known.holds (fun _ => rfl) (silent rfl))

/-- Whether the loop is at work or not follows. -/
lemma looping (b : Bool) (sound : x.stage.Sound) : teardowns.Follows x (x.looping b) :=
  follows_on (sound.alike ⟨.rfl, rfl, rfl⟩) rfl rfl

/-- A request that has nothing to do with the end of a session follows, and so does its reply. -/
lemma asks {q : Request} (h : ∀ n, q.ends n = false) :
    teardowns.Asks (teardowns.Follows z) (teardowns.Follows z) q := by
  refine Contract.asks_follows ?_ ?_
  · intro x sound
    refine follows_see sound (fun n => ?_) (by rintro s ⟨⟩; rfl)
    simp [Label.ending?, h n]
  · intro x r sound _
    exact follows_see sound (fun n => rfl) (by rintro s ⟨⟩; rfl)

/-- A handler may be told of anything but the end of a session. -/
lemma asks_handle {h : HandlerId} {e : Event} (other : e.kind ≠ .dialogEnded ∨ e.session = none) :
    teardowns.Asks (teardowns.Follows z) (teardowns.Follows z) (.handle h e) := by
  refine asks fun n => ?_
  rcases other with other | other
  · simp [Request.ends, other]
  · simp [Request.ends, other]

/-- A change that leaves alone which session is going on, and who is told of its end. -/
lemma changes {f : Stage → Stage} (alike : ∀ s : Stage, s.Alike (f s))
    (audience : ∀ s, (f s).audience = s.audience) : Contract.Changes (teardowns.Follows z) f := by
  intro x known
  have sound := known.holds.alike (alike x.stage)
  exact known.trans (follows_on sound (alike x.stage).life (audience x.stage))

/-- Consulting the surroundings follows. -/
lemma consults : teardowns.Consults (teardowns.Follows z) where
  told := tells
  keyword _ _ := asks fun _ => rfl
  function _ _ _ := asks fun _ => rfl
  called _ _ := carries_announce tells fun _ _ _ _ => asks_handle (.inl EventKind.noConfusion)
  builtIn name parameter := by
    refine changes (fun s => ?_) fun s => ?_
    · obtain ⟨vars, agents, e⟩ := s.callBuiltIn_eq name parameter
      rw [e]
      exact ⟨.rfl, rfl, rfl⟩
    · obtain ⟨vars, agents, e⟩ := s.callBuiltIn_eq name parameter
      rw [e]
      rfl
  written key value := changes (fun s => ⟨.rfl, rfl, rfl⟩) fun s => rfl

/-- Moving from line to line follows. -/
lemma moves : teardowns.Moves (teardowns.Follows z) (teardowns.Follows z) where
  weak := id
  reported := tells
  entered := carries_announce tells fun _ _ _ _ => asks_handle (.inl EventKind.noConfusion)
  node := Contract.enters fun _ => changes (fun s => s.alike_moved fun _ => rfl) fun _ => rfl
  index _ := changes (fun s => s.alike_moved fun _ => rfl) fun _ => rfl

/-! ## The end of a session -/

/-- From one scene to another, requests that are part of the end of a session that is over go out in a
round, and each other session takes its course. -/
structure Course (n : Nat) (qs : List Request) (ls : List Label) (x y : Scene) : Prop where
  past : y.past = x.past ++ ls
  audience : y.stage.audience = x.stage.audience.after ls
  sound : y.stage.Sound
  gone : y.stage.life n = .gone
  seen : Always (·.life n = .gone) ls
  round : Round n qs x.stage ls y.stage
  others : ∀ m, m ≠ n → Passage m x.stage.audience ls (x.stage.life m) (y.stage.life m)

variable {n : Nat} {qs qs' : List Request} {ls ls' : List Label}

/-- Nothing has to go out when nobody is to be told. -/
lemma Course.nil (sound : x.stage.Sound) (gone : x.stage.life n = .gone) : Course n [] [] x x :=
  ⟨(List.append_nil _).symm, rfl, sound, gone, .nil, .nil, fun _ _ => .stays rfl .nil⟩

/-- A report is part of a round without requests. -/
lemma Course.told {notice : Notice} (sound : x.stage.Sound) (gone : x.stage.life n = .gone) :
    Course n [] [.told notice] x (x.see (.told notice)) := by
  refine ⟨rfl, audience_see (silent rfl), sound, gone, .single fun s e => ?_, .told .nil, ?_⟩
  · rw [silent rfl s e, gone]
  · exact fun _ _ => passage_see rfl (silent rfl)

/-- Two rounds of the end of a session are one. -/
lemma Course.trans (h : Course n qs ls x y) (h' : Course n qs' ls' y z) :
    Course n (qs ++ qs') (ls ++ ls') x z := by
  refine ⟨?_, ?_, h'.sound, h'.gone, h.seen.append h'.seen, h.round.append h'.round, ?_⟩
  · rw [h'.past, h.past, List.append_assoc]
  · rw [h'.audience, h.audience, Audience.after_append]
  · intro m other
    have passage := h'.others m other
    rw [h.audience] at passage
    exact (h.others m other).trans passage

/-- A request that is part of the end of a session that is over goes out and is replied to. -/
lemma does_ask {q : Request} (ends : q.ends n = true) (sound : x.stage.Sound)
    (gone : x.stage.life n = .gone) :
    (ask q).Does teardowns x fun y r =>
      (q.isFarewell = true → r.isOk = true) ∧ ∃ ls, Course n [q] ls x y := by
  refine ⟨sound, ?_⟩
  intro y r back keeps
  unfold Contract.Back at back
  rw [if_pos (Request.isOpen_of_ends ends)] at back
  obtain ⟨sound', visit, past, audience, passage⟩ := back
  -- Other sessions may come and go during the visit, but this one is over.
  have steady := passage n
  rw [show (x.asking q).stage.life n = .gone from gone] at steady
  obtain ⟨quiet, seen, gone'⟩ := steady.of_gone
  refine ⟨keeps, .asked x.stage q :: (visit ++ [.replied y.stage q r]), ?_⟩
  have first : ∀ s, (Label.asked x.stage q).stage? = some s → s = x.stage := by
    rintro s ⟨⟩
    rfl
  have last : ∀ s, (Label.replied y.stage q r).stage? = some s → s = y.stage := by
    rintro s ⟨⟩
    rfl
  constructor
  · change y.past ++ [_] = _
    rw [past]
    simp only [Scene.asking, Scene.see, List.append_assoc, List.cons_append, List.nil_append]
  · rw [← List.cons_append, Audience.after_append]
    rfl
  · exact sound'
  · exact gone'
  · have before : Always (·.life n = .gone) [.asked x.stage q] :=
      .single fun s e => by rw [first s e, gone]
    have after : Always (·.life n = .gone) [.replied y.stage q r] :=
      .single fun s e => by rw [last s e, gone']
    exact before.append (seen.append after)
  · exact .asked quiet .nil
  · intro m other
    have foreign : (Label.asked x.stage q).ending? m = none :=
      if_neg fun ends' => other (Request.ends_unique ends ends')
    have before : Passage m x.stage.audience [.asked x.stage q] _ _ := passage_see foreign first
    refine before.trans ?_
    rw [← audience_see first]
    exact (passage m).trans (passage_see rfl last)

/-- A play that sends out requests that are part of the end of a session that is over. -/
def Rounds (n : Nat) (qs : List Request) (p : Play Unit) : Prop :=
  ∀ x, x.stage.Sound → x.stage.life n = .gone →
    p.Does teardowns x fun y r => r = .ok () ∧ ∃ ls, Course n qs ls x y

/-- A result that is there already sends nothing out. -/
lemma rounds_pure : Rounds n [] (pure ()) :=
  fun _ sound gone => ⟨rfl, [], .nil sound gone⟩

/-- Whoever is told of the end of a session without the bus in between does not fail. -/
lemma rounds_farewell {q : Request} {p : Play Unit}
    (h : ∀ x, x.stage.Sound → x.stage.life n = .gone →
      p.Does teardowns x fun y r => (true = true → r.isOk = true) ∧ ∃ ls, Course n [q] ls x y) :
    Rounds n [q] p := by
  intro x sound gone
  refine (h x sound gone).mono ?_
  rintro y r ⟨civil, course⟩
  cases r with
  | ok u => exact ⟨rfl, course⟩
  | error f => cases civil rfl

/-- Plays that send out a request each send them out in their order. -/
lemma rounds_each {β : Type} {f : β → Play Unit} {q : β → Request} (h : ∀ b, Rounds n [q b] (f b))
    (bs : List β) : Rounds n (bs.map q) (each f bs) := by
  induction bs with
  | nil => exact rounds_pure
  | cons b bs ih =>
    intro x sound gone
    refine does_bind.mpr ((h b x sound gone).mono ?_)
    rintro y r ⟨rfl, ls, course⟩
    refine (ih y course.sound course.gone).mono ?_
    rintro z r ⟨rfl, ls', course'⟩
    exact ⟨rfl, ls ++ ls', course.trans course'⟩

/-- A handler that fails is reported, and nobody else is kept from hearing of the end of a session. -/
lemma rounds_notify {e : Event} (ended : e.kind = .dialogEnded ∧ e.session = some n) (h : HandlerId) :
    Rounds n [.handle h e] (notify e h) := by
  intro x sound gone
  have ends : (Request.handle h e).ends n = true := by simp [Request.ends, ended]
  refine does_bind.mpr (does_attempt.mpr ((does_ask ends sound gone).mono ?_))
  rintro y r ⟨-, ls, course⟩
  cases r with
  | ok u => exact ⟨rfl, ls, course⟩
  | error f =>
    refine ⟨rfl, ls ++ [.told (.handlerFailed e.kind)], ?_⟩
    have told : Course n [] [.told (.handlerFailed e.kind)] y (y.see (.told (.handlerFailed e.kind))) :=
      .told course.sound course.gone
    exact course.trans told

/-- The presenter of the time is closed, if there is one. -/
lemma does_closePresenter (sound : x.stage.Sound) (gone : x.stage.life n = .gone) :
    (closePresenter n).Does teardowns x fun y r => r = .ok () ∧
      ∃ ls, Course n (x.stage.audience.presenter.toList.map (.close · n)) ls x y := by
  refine does_bind.mpr (does_get.mpr ?_)
  unfold Stage.audience
  simp only [Then]
  cases x.stage.presenter with
  | none => exact rounds_pure x sound gone
  | some p => exact rounds_farewell (fun y => does_ask (by simp [Request.ends])) x sound gone

/-- The observers of the time are told in their order. -/
lemma does_tellExit (sound : x.stage.Sound) (gone : x.stage.life n = .gone) :
    (tellExit n).Does teardowns x fun y r => r = .ok () ∧
      ∃ ls, Course n (x.stage.audience.observers.map (.observeExit · n)) ls x y := by
  refine does_bind.mpr (does_get.mpr ?_)
  exact rounds_each (fun o => rounds_farewell fun y => does_ask (by simp [Request.ends])) _ x sound gone

/-- The handlers of the time are told in their order. -/
lemma does_announceEnd {s : Session} (sound : x.stage.Sound) (gone : x.stage.life s.number = .gone) :
    (announceEnd s).Does teardowns x fun y r => r = .ok () ∧
      ∃ ls, Course s.number (x.stage.audience.handlers.map (.handle ·
        ⟨.dialogEnded, some s.number, .session (x.stage.agents s.agent).id s.node.name⟩)) ls x y := by
  refine does_bind.mpr (does_get.mpr (does_bind.mpr (does_get.mpr ?_)))
  unfold Stage.audience
  simp only [Then]
  cases x.stage.bus with
  | none => exact rounds_pure x sound gone
  | some bus => exact rounds_each (rounds_notify ⟨rfl, rfl⟩) _ x sound gone

/-- The callback of the session is called, if it has one. -/
lemma rounds_callBack (s : Session) :
    Rounds s.number (s.onExit.toList.map (.onExit · s.number)) (callBack s) := by
  unfold callBack
  cases s.onExit with
  | none => exact rounds_pure
  | some c => exact rounds_farewell fun y => does_ask (by simp [Request.ends])

/-- A session that is over is torn down once, and all others take their course. -/
lemma does_tearDown {s : Session} (number : s.number = n) (sound : x.stage.Sound)
    (gone : x.stage.life n = .gone) :
    (tearDown s).Does teardowns x fun y _ => y.stage.Sound ∧ y.stage.life n = .gone ∧
      ∃ ls, y.past = x.past ++ ls ∧ y.stage.audience = x.stage.audience.after ls ∧
        x.stage.audience.Clears n s.onExit ls ∧
        ∀ m, m ≠ n → Passage m x.stage.audience ls (x.stage.life m) (y.stage.life m) := by
  subst number
  refine does_bind.mpr ((does_closePresenter sound gone).mono ?_)
  rintro y₁ r ⟨rfl, closing, c₁⟩
  refine does_bind.mpr ((does_tellExit c₁.sound c₁.gone).mono ?_)
  rintro y₂ r ⟨rfl, observing, c₂⟩
  refine does_bind.mpr ((does_announceEnd c₂.sound c₂.gone).mono ?_)
  rintro y₃ r ⟨rfl, handling, c₃⟩
  refine (rounds_callBack s y₃ c₃.sound c₃.gone).mono ?_
  rintro y₄ r ⟨rfl, calling, c₄⟩
  have course := ((c₁.trans c₂).trans c₃).trans c₄
  refine ⟨course.sound, course.gone, _, course.past, course.audience, ?_, course.others⟩
  have clears : x.stage.audience.Clears s.number s.onExit
      ([] ++ (closing ++ observing ++ handling ++ calling ++ [])) :=
    .intro ⟨rfl, rfl⟩ ⟨rfl, rfl⟩ .nil (course.seen.append .nil) rfl c₁.round c₂.round c₃.round c₄.round
  rw [List.append_nil] at clears
  exact clears

/-- The session that is going on ends and is torn down, while all others take their course. -/
lemma carries_endSession : endSession.Carries teardowns (teardowns.Follows z) (teardowns.Follows z) := by
  intro x known
  have sound : x.stage.Sound := known.holds
  refine does_endSession known fun s session => ?_
  have born : ¬ x.stage.started ≤ s.number := Nat.not_le.mpr (sound.numbered s session)
  have alive : x.stage.life s.number = .alive s.onExit := by simp [Stage.life, born, session]
  have gone : x.stage.ended.life s.number = .gone := if_neg born
  have others : ∀ m, m ≠ s.number → x.stage.ended.life m = x.stage.life m := by
    intro m other
    unfold Stage.life
    rw [session]
    dsimp only [Stage.ended]
    rw [if_neg other.symm]
    rfl
  -- The stage is idle before anybody is told, so nobody who is told can end this session again.
  refine (does_tearDown rfl x.stage.sound_ended gone).mono ?_
  rintro y r ⟨sound', gone', ls, past, audience, clears, passage⟩
  refine known.trans ⟨sound', ls, past, audience, ?_⟩
  intro m
  by_cases same : m = s.number
  · rw [same, alive, gone']
    exact .clears clears
  · rw [← others m same]
    exact passage m same

/-! ## Calls and lines -/

/-- An answer follows, on a stage with the same session. -/
lemma follows_answering {s : Stage} {r : Except Fault Answer} (sound : x.stage.Sound)
    (alike : x.stage.Alike s) : teardowns.Follows x ((x.on s).answering r) := by
  have seen : ∀ s', (Label.answered s r).stage? = some s' → s' = (x.on s).stage := by
    rintro s' ⟨⟩
    rfl
  refine ⟨sound.alike alike, [.answered s r], rfl, rfl, fun n => ?_⟩
  have e : x.stage.life n = (x.on s).stage.life n := (congrFun alike.life n).symm
  rw [e]
  exact passage_see rfl seen

/-- A call that opens a session follows, as it gives the callback. -/
lemma follows_opened {owed : Option Request} {c : Call} {a : AgentId} {onExit : Option Nat}
    {vars : Variables} {session : Session} (follows : teardowns.Follows x y)
    (past : (x.calling owed c).past <+: y.past) (opening : x.stage.opening? c = some session)
    (opens : y.stage.opens a onExit = some session) :
    teardowns.Follows x (y.on (y.stage.opened vars session)) := by
  obtain ⟨sound, ls, e, audience, passage⟩ := follows
  obtain ⟨idle, number, -, -⟩ := Stage.number_of_opens opens
  have vacant : y.stage.session = none := sound.idle.mp idle
  refine ⟨Stage.Sound.opened opens, ls, e, audience, ?_⟩
  intro m
  have before := passage m
  by_cases same : m = session.number
  · have unborn : y.stage.life m = .unborn := if_pos (Nat.le_of_eq (same.trans number).symm)
    have alive : (y.on (y.stage.opened vars session)).stage.life m = .alive session.onExit := by
      simp [Scene.on, Stage.life, Stage.opened, same, number]
    -- The call was seen after what was known before, so it is among the labels that are new.
    have opened : Opened m session.onExit ls := by
      have mem : .called owed x.stage c ∈ ls := by
        rw [e] at past
        obtain ⟨rest, e'⟩ := past
        rw [Scene.calling, Scene.see, List.append_assoc] at e'
        rw [← List.append_cancel_left e']
        exact List.mem_append_left _ (List.mem_singleton_self _)
      exact ⟨owed, x.stage, c, session, mem, opening, same.symm, rfl⟩
    rw [alive]
    rw [unborn] at before
    generalize x.stage.life m = p at before
    cases before with
    | stays quiet steady =>
      exact .opens opened quiet (steady.mono fun s e => by rw [e]; exact Life.noConfusion)
  · have other : (y.on (y.stage.opened vars session)).stage.life m = y.stage.life m := by
      have ne : m ≠ y.stage.started := number ▸ same
      simp only [Scene.on, Stage.life, Stage.opened, vacant, if_neg (Ne.symm same)]
      split <;> split <;> first | rfl | omega
    rw [other]
    exact before

/-- Every kind of call follows. -/
lemma takes : teardowns.Takes teardowns.Follows teardowns.Follows where
  moves _ := moves
  told _ := tells
  consults _ := consults
  stays sound _ _ := follows_see sound (fun _ => rfl) (by rintro s ⟨⟩; rfl)
  goesOn {x owed c} sound _ goes := by
    have called : teardowns.Follows x (x.calling owed c) :=
      follows_see sound (fun _ => rfl) (by rintro s ⟨⟩; rfl)
    have alike := Stage.alike_resumed goes.1
    exact called.trans (follows_on (sound.alike alike) alike.life rfl)
  opens known past _ opening opens := follows_opened known past opening opens
  ends _ := carries_endSession
  history _ := changes (fun s => ⟨.rfl, rfl, rfl⟩) fun s => rfl
  built _ a speaker := changes (fun s => ⟨.rfl, rfl, rfl⟩) fun s => rfl
  images _ _ := asks fun _ => rfl
  observed _ _ _ := asks fun _ => rfl
  started _ h e kind := asks_handle (.inl (by rcases kind with kind | kind <;> rw [kind] <;> decide))
  published _ h e session := asks_handle (.inr session)
  adjusts {x owed change} known :=
    known.trans (follows_answering known.holds (x.stage.alike_adjust change))
  answers {x y r} known := known.trans (follows_answering known.holds (.refl y.stage))
  runs {x y} known _ _ := by
    have looping := looping true known.holds
    have turning : teardowns.Follows (y.looping true) (y.looping true).turning :=
      follows_see looping.holds (fun _ => rfl) (silent rfl)
    have started := (known.trans looping).trans turning
    exact ⟨started.holds, started.visit⟩

/-- A pause follows. -/
lemma follows_suspended (sound : x.stage.Sound) (going : x.stage.session ≠ none) :
    teardowns.Follows x (x.on x.stage.suspended) :=
  follows_on (sound.alike (sound.alike_suspended going)) (sound.alike_suspended going).life rfl

/-- A session that is going on waits at a query or a line while that is delivered. -/
lemma carries_runLine : runLine.Carries teardowns (teardowns.Follows z) (teardowns.Follows z) := by
  intro x start
  refine does_runLine consults id moves start (fun _ _ => id) carries_endSession ?_ ?_
  · intro y l _ known running
    have going := known.holds.going running (by decide)
    have waits := known.trans (follows_suspended known.holds going)
    refine does_askQuery tells moves known (fun _ _ => id) consults.toReads waits (fun _ _ => id) ?_
    intro w p known' _ _
    refine carries_deliverQuery id tells ?_ (fun p => asks fun _ => rfl) w known'
    exact fun h k agent node => asks_handle (.inl EventKind.noConfusion)
  · intro y l _ known running
    have noted (name : Text) :
        Contract.Changes (teardowns.Follows z) fun s => { s with history := s.history ++ [name] } :=
      changes (fun s => ⟨.rfl, rfl, rfl⟩) fun s => rfl
    refine does_showLine consults.toReads noted known (fun _ _ => id) ?_
    intro w shown going known' _
    have waits := known'.trans (follows_suspended known'.holds going)
    refine carries_deliver id tells ?_ (fun p => asks fun _ => rfl) (fun o => asks fun _ => rfl) _ waits
    exact fun h k agent node => asks_handle (.inl EventKind.noConfusion)

/-- Calls and lines keep the contract. -/
lemma honours : teardowns.Honours where
  call sound keeps := takes.call sound keeps
  line {x y} running phase := by
    have begun : teardowns.Follows y y.beginning :=
      follows_see running.1 (fun _ => rfl) (by rintro s ⟨⟩; rfl)
    have follows : teardowns.Follows x y.beginning := Contract.Follows.trans ⟨running.1, running.2⟩ begun
    refine (carries_runLine y.beginning follows).mono ?_
    intro w r known
    cases r with
    | error f => exact known.trans (follows_answering known.holds ⟨.rfl, rfl, rfl⟩)
    | ok u => exact ⟨known.holds, known.visit⟩
  rest {x y} running _ a := by
    have follows : teardowns.Follows x y := ⟨running.1, running.2⟩
    exact follows.trans (follows_answering follows.holds ⟨.rfl, rfl, rfl⟩)

end teardowns

/-- A run from a fresh stage that has come back to where it started, with nobody waiting for a reply: each
session that was started was opened by a call; unless it is still going on, it has been torn down once, and
the callback was the one that the call gave for it. Nothing of the kind has been seen of the session that
is going on. -/
theorem teardown_exactly_once {s s' : Stage} {ls : List Label} {n : Nat} (fresh : s.Fresh)
    (run : Run Civil (.initial s) ls ⟨.surroundings s', []⟩) (started : n < s'.started) :
    ∃ onExit, Opened n onExit ls ∧
      if s'.session.map Session.number = some n then endings n ls = []
      else s.audience.Clears n onExit ls := by
  have visit := Contract.visit_of_run teardowns.honours fresh.sound run
  obtain ⟨ls', past, -, passage⟩ := visit
  obtain rfl : ls = ls' := past
  have unborn : s.life n = .unborn := if_pos (by rw [fresh.started]; exact Nat.zero_le n)
  have passage := passage n
  rw [show (Scene.mk s []).stage.life n = .unborn from unborn] at passage
  -- The session was unborn at the start and has begun: it is going on, or it has passed with its endings.
  by_cases going : s'.session.map Session.number = some n
  · obtain ⟨x, session, number⟩ := Option.map_eq_some_iff.mp going
    have alive : s'.life n = .alive x.onExit := by
      simp [Stage.life, Nat.not_le.mpr started, session, number]
    rw [show (Scene.mk s' ls).stage.life n = .alive x.onExit from alive] at passage
    cases passage with
    | opens opened quiet _ =>
      exact ⟨x.onExit, opened, by rw [if_pos going]; exact quiet⟩
  · have gone : s'.life n = .gone := by
      unfold Stage.life
      rw [if_neg (Nat.not_le.mpr started)]
      cases session : s'.session with
      | none => rfl
      | some x =>
        have other : x.number ≠ n := fun number => going (by rw [session, Option.map_some, number])
        exact if_neg other
    rw [show (Scene.mk s' ls).stage.life n = .gone from gone] at passage
    cases passage with
    | @passes c opened clears =>
      exact ⟨c, opened, by rw [if_neg going]; exact clears⟩

/-- A session is killed as its first line is shown, and the next one starts as the presenter closes. -/
def succession : List Label × Moment :=
  (Moment.initial monologue).rehearse [.call (.initiate (some 0) (some 2)), .work, .work, .work, .call .kill,
    .work, .call (.initiate (some 0) none), .work, .work, .reply, .work, .reply, .work, .reply, .work, .reply,
    .work, .work, .reply, .work]

/-- Nobody replies with a fault. -/
def Label.isCivil : Label → Bool
  | .replied _ _ (.error _) => false
  | _ => true

/-- Where nobody replies with a fault, the surroundings are civil. -/
lemma civil_of_isCivil {past : List Label} {l : Label} (h : l.isCivil = true) : Civil past l := by
  cases l with
  | replied s q r =>
    cases r with
    | ok a => exact fun _ => rfl
    | error e => cases h
  | _ => trivial

/-- The first of two sessions has been torn down once, although the second one started meanwhile. -/
theorem teardown_of_succession : monologue.Fresh ∧
    Run Civil (.initial monologue) succession.1 ⟨.surroundings succession.2.given, []⟩ ∧
    0 < succession.2.given.started ∧
    ∃ onExit, Opened 0 onExit succession.1 ∧
      if succession.2.given.session.map Session.number = some 0 then endings 0 succession.1 = []
      else monologue.audience.Clears 0 onExit succession.1 := by
  have run : Run Civil (.initial monologue) succession.1 ⟨.surroundings succession.2.given, []⟩ := by
    rw [← Moment.eq_of_isOver (m := succession.2) (by decide +kernel)]
    exact Moment.run_rehearse (fun _ _ _ => civil_of_isCivil) (by decide +kernel)
  have started : 0 < succession.2.given.started := by decide +kernel
  exact ⟨fresh_monologue, run, started, teardown_exactly_once fresh_monologue run started⟩

end Parley
