import Mathlib.Tactic.Lemma
import Parley.Session.Machine

/-!
# Standing

Where a stage stands: whether a session is going on, which one it is, and what the next call will make of it.
`Stage.opening?` is the session that a call opens, if it opens one, and `Stage.GoesOn` says that a call goes
on from the current pause; any other call leaves both alone.
-/

namespace Parley

/-- A line is begun. -/
def Label.Begins : Label → Prop
  | .began _ => True
  | _ => False

/-- A line or a query is handed to its presenter. -/
def Request.handsOut : Request → Bool
  | .show _ _ _ | .query _ _ => true
  | _ => false

namespace Stage

/-- A stage on which nothing has happened yet. -/
structure Fresh (s : Stage) : Prop where
  idle : s.phase = .idle
  vacant : s.session = none
  started : s.started = 0
  ticket : s.ticket = 0
  still : s.inRun = false
  history : s.history = []

/-- A stage is idle exactly if no session is going on, and sessions are numbered as they start. -/
structure Sound (s : Stage) : Prop where
  idle : s.phase = .idle ↔ s.session = none
  numbered : ∀ x, s.session = some x → x.number < s.started

/-- The same session is going on on two stages, or none on both, whatever line it is at. -/
structure Alike (s t : Stage) : Prop where
  idle : t.phase = .idle ↔ s.phase = .idle
  started : t.started = s.started
  session : t.session.map (fun x => (x.number, x.agent, x.onExit)) =
    s.session.map fun x => (x.number, x.agent, x.onExit)

/-- The session of a number is going on. -/
def Hosts (s : Stage) (n : Nat) : Prop :=
  s.session.map Session.number = some n

/-- The session that starts with an agent as it stands. -/
def opens (s : Stage) (a : AgentId) (onExit : Option Nat) : Option Session :=
  if s.phase = .idle then
    (s.agents a).dialog.startNode?.bind fun node =>
      (s.vars.countVisit? (s.agents a).id).map fun _ => ⟨s.started, a, node, 0, onExit⟩
  else none

/-- The stage with the dialog of an agent built. -/
def built (s : Stage) (a : AgentId) (speaker : Text) : Stage :=
  s.updateAgent a fun _ => ((s.agents a).build speaker).1

/-- The stage with the dialog of an agent built, if a call does that. -/
def readied (s : Stage) : Call → Stage
  | .start a speaker _ => s.built a speaker
  | _ => s

/-- The session that a call opens. -/
def opening? (s : Stage) : Call → Option Session
  | .start a speaker onExit => (s.built a speaker).opens a onExit
  | .initiate (some a) onExit => s.opens a onExit
  | _ => none

/-- The stage with a session opened, and its visit counted. -/
def opened (s : Stage) (vars : Variables) (x : Session) : Stage :=
  { s with history := [], vars := vars, phase := .running, started := s.started + 1, session := some x }

/-- The pause that a call is to go on from. -/
def ticketOf? (s : Stage) : Call → Option Ticket
  | .advance _ => some s.ticket
  | .resume ticket _ => some ticket
  | .respond prompt _ => some prompt.ticket
  | _ => none

/-- A call goes on from the current pause. -/
def GoesOn (s : Stage) (c : Call) : Prop :=
  s.phase = .awaiting ∧ s.ticketOf? c = some s.ticket

/-- The stage after no session has started, although there was an agent. -/
def unopened (s : Stage) : Stage :=
  if s.phase = .idle then { s with history := [] } else s

/-- The stage when a pause is over. -/
def resumed (s : Stage) : Stage :=
  { s with ticket := s.ticket + 1, phase := .running }

/-- The stage when its session has been ended. -/
def ended (s : Stage) : Stage :=
  { s with session := none, phase := .idle, ticket := s.ticket + 1, inactiveAt := s.now + s.graceDelay }

/-- The stage when a pause begins. -/
def suspended (s : Stage) : Stage :=
  { s with phase := .awaiting, ticket := s.ticket + 1 }

/-- A fresh stage is sound. -/
lemma Fresh.sound {s : Stage} (fresh : s.Fresh) : s.Sound := by
  refine ⟨?_, ?_⟩
  · simp [fresh.idle, fresh.vacant]
  · simp [fresh.vacant]

/-- Stages that are alike have sessions of the same number. -/
lemma Alike.number {s t : Stage} (alike : s.Alike t) :
    t.session.map Session.number = s.session.map Session.number := by
  have e := congrArg (Option.map Prod.fst) alike.session
  rw [Option.map_map, Option.map_map] at e
  exact e

/-- A stage like a sound one is sound. -/
lemma Sound.alike {s t : Stage} (sound : s.Sound) (alike : s.Alike t) : t.Sound := by
  have number := alike.number
  refine ⟨?_, ?_⟩
  -- Whether there is a session can be told from its number alone.
  · rw [alike.idle, sound.idle, ← Option.map_eq_none_iff (f := Session.number), ← number,
      Option.map_eq_none_iff]
  · intro x e
    rw [e, Option.map_some] at number
    obtain ⟨y, e', same⟩ := Option.map_eq_some_iff.mp number.symm
    rw [← same, alike.started]
    exact sound.numbered y e'

/-- Building a dialog does not change the phase. -/
lemma phase_readied (s : Stage) (c : Call) : (s.readied c).phase = s.phase := by
  cases c with
  | _ => rfl

/-- Building a dialog does not change how many sessions have started. -/
lemma started_readied (s : Stage) (c : Call) : (s.readied c).started = s.started := by
  cases c with
  | _ => rfl

/-- Building a dialog does not change the variables. -/
lemma vars_readied (s : Stage) (c : Call) : (s.readied c).vars = s.vars := by
  cases c with
  | _ => rfl

/-- A stage whose session has been ended is sound. -/
lemma sound_ended (s : Stage) : s.ended.Sound :=
  ⟨⟨fun _ => rfl, fun _ => rfl⟩, fun _ e => by cases e⟩

/-- On a sound stage that is not idle there is a session. -/
lemma Sound.going {s : Stage} {p : Phase} (sound : s.Sound) (phase : s.phase = p) (busy : p ≠ .idle) :
    s.session ≠ none := by
  rw [Ne, ← sound.idle, phase]
  exact busy

/-- A stage is like itself. -/
lemma Alike.refl (s : Stage) : s.Alike s :=
  ⟨.rfl, rfl, rfl⟩

/-- Nobody else has a part in an adjustment, so the session is left alone. -/
lemma adjust_eq (s : Stage) (change : Adjustment) :
    (s.adjust change).2.phase = s.phase ∧ (s.adjust change).2.session = s.session ∧
      (s.adjust change).2.started = s.started ∧ (s.adjust change).2.ticket = s.ticket ∧
        (s.adjust change).2.inRun = s.inRun := by
  cases change with
  | addResponder m =>
    by_cases h : m ∈ s.responders
    · simp only [adjust, if_pos h, and_self]
    · simp only [adjust, if_neg h, and_self]
  | _ => exact ⟨rfl, rfl, rfl, rfl, rfl⟩

/-- A setting leaves the session. -/
lemma alike_adjust (s : Stage) (change : Adjustment) : s.Alike (s.adjust change).2 := by
  obtain ⟨phase, session, started, -⟩ := s.adjust_eq change
  refine ⟨?_, started, ?_⟩
  · rw [phase]
  · rw [session]

/-- Going on from a pause leaves the session. -/
lemma alike_resumed {s : Stage} (awaiting : s.phase = .awaiting) : s.Alike s.resumed := by
  refine ⟨?_, rfl, rfl⟩
  simp [resumed, awaiting]

/-- A pause leaves the session that it interrupts. -/
lemma Sound.alike_suspended {s : Stage} (sound : s.Sound) (going : s.session ≠ none) :
    s.Alike s.suspended := by
  refine ⟨?_, rfl, rfl⟩
  simp [suspended, sound.idle, going]

/-- The session may come to another line. -/
lemma alike_moved (s : Stage) {f : Session → Session}
    (same : ∀ x, ((f x).number, (f x).agent, (f x).onExit) = (x.number, x.agent, x.onExit)) :
    s.Alike { s with session := s.session.map f } := by
  refine ⟨.rfl, rfl, ?_⟩
  rw [Option.map_map]
  exact congrArg (Option.map · s.session) (funext same)

/-- A function of the stage itself writes variables and changes agents, and nothing else. -/
lemma callBuiltIn_eq (s : Stage) (name parameter : Text) :
    ∃ vars agents, (s.callBuiltIn name parameter).2 = { s with vars := vars, agents := agents } := by
  unfold callBuiltIn
  dsimp only
  repeat' split
  all_goals exact ⟨_, _, rfl⟩

/-- A built-in function leaves the window for queries. -/
lemma queryPresenter_callBuiltIn (s : Stage) (name parameter : Text) :
    (s.callBuiltIn name parameter).2.queryPresenter = s.queryPresenter := by
  obtain ⟨vars, agents, e⟩ := s.callBuiltIn_eq name parameter
  rw [e]

/-- A session that is opened gets the next number, and is at its first line. -/
lemma number_of_opens {s : Stage} {a : AgentId} {onExit : Option Nat} {x : Session}
    (h : s.opens a onExit = some x) :
    s.phase = .idle ∧ x.number = s.started ∧ x.onExit = onExit ∧ x.index = 0 := by
  unfold opens at h
  split at h
  · rename_i idle
    obtain ⟨node, -, h⟩ := Option.bind_eq_some_iff.mp h
    obtain ⟨vars, -, rfl⟩ := Option.map_eq_some_iff.mp h
    exact ⟨idle, rfl, rfl, rfl⟩
  · cases h

/-- A session is held with the agent that it is opened with. -/
lemma agent_of_opens {s : Stage} {a : AgentId} {onExit : Option Nat} {x : Session} (h : s.opens a onExit = some x) :
    x.agent = a := by
  unfold opens at h
  split at h
  · obtain ⟨node, -, h⟩ := Option.bind_eq_some_iff.mp h
    obtain ⟨vars, -, rfl⟩ := Option.map_eq_some_iff.mp h
    rfl
  · cases h

/-- What a call opens is opened with some agent, once its dialog has been built. -/
lemma opens_of_opening {s : Stage} {c : Call} {x : Session} (h : s.opening? c = some x) :
    ∃ a onExit, (s.readied c).opens a onExit = some x := by
  cases c with
  | start a speaker onExit => exact ⟨a, onExit, h⟩
  | initiate a onExit =>
    cases a with
    | none => cases h
    | some a => exact ⟨a, onExit, h⟩
  | _ => cases h

/-- A call opens a session on an idle stage only. -/
lemma idle_of_opening {s : Stage} {c : Call} {x : Session} (h : s.opening? c = some x) : s.phase = .idle := by
  obtain ⟨a, onExit, opens⟩ := opens_of_opening h
  rw [← s.phase_readied c]
  exact (number_of_opens opens).1

/-- The session that a call opens gets the next number. -/
lemma number_of_opening {s : Stage} {c : Call} {x : Session} (h : s.opening? c = some x) : x.number = s.started := by
  obtain ⟨a, onExit, opens⟩ := opens_of_opening h
  rw [← s.started_readied c]
  exact (number_of_opens opens).2.1

/-- What goes on from a pause opens nothing. -/
lemma opening?_of_goesOn {s : Stage} {c : Call} (goes : s.GoesOn c) : s.opening? c = none := by
  cases c with
  | start a speaker onExit | initiate a onExit => exact nomatch goes.2
  | _ => rfl

/-- A stage is sound when a session has been opened on it. -/
lemma Sound.opened {s : Stage} {a : AgentId} {onExit : Option Nat} {x : Session} {vars : Variables}
    (h : s.opens a onExit = some x) : (s.opened vars x).Sound := by
  obtain ⟨-, e, -⟩ := number_of_opens h
  refine ⟨?_, ?_⟩
  · simp [Stage.opened]
  · rintro y ⟨⟩
    simp [Stage.opened, e]

end Stage

/-! ## Starting a session -/

namespace Play

/-- What depends on the stage runs on the stage as it stands. -/
lemma get_bind {α : Type} (f : Stage → Play α) (s : Stage) : (get >>= f) s = f s s :=
  rfl

/-- What follows a change runs on the changed stage. -/
lemma modify_bind {α : Type} (g : Stage → Stage) (f : Unit → Play α) (s : Stage) : (modify g >>= f) s = f () (g s) :=
  rfl

variable {s : Stage} {a : AgentId} {onExit : Option Nat}

/-- A session that starts is there before anybody is told of it. -/
lemma initiate_of_opens {x : Session} (opens : s.opens a onExit = some x) :
    ∃ vars, s.vars.countVisit? (s.agents a).id = some vars ∧
      initiate (some a) onExit s =
        (tellStart x.number x.agent x.node >>= fun _ => pure (.run (.flag true))) (s.opened vars x) := by
  unfold Stage.opens at opens
  split at opens
  case isFalse => cases opens
  case isTrue idle =>
    obtain ⟨node, start, opens⟩ := Option.bind_eq_some_iff.mp opens
    obtain ⟨vars, counted, rfl⟩ := Option.map_eq_some_iff.mp opens
    refine ⟨vars, counted, ?_⟩
    have there : (openSession a node onExit) { s with history := [] } =
        tellStart s.started a node (s.opened vars ⟨s.started, a, node, 0, onExit⟩) := by
      rw [openSession, get_bind]
      dsimp only
      rw [counted]
      rfl
    rw [initiate, get_bind, idle]
    dsimp only
    rw [modify_bind, start]
    show (openSession a node onExit { s with history := [] }).bind _ = _
    rw [there]
    rfl

/-- If no session starts, that is reported and answered, or the number of the visit is too long. Only a session that
is going on saves the history. -/
theorem initiate_of_refused (refused : s.opens a onExit = none) :
    (∃ n, initiate (some a) onExit s = .tell n (.done s.unopened (.ok (.answer (.flag false)))) ∧
      (s.phase = .idle → (s.agents a).dialog.startNode? = none)) ∨
      initiate (some a) onExit s = .done s.unopened (.error .integerTooLongToWrite) ∧ s.phase = .idle ∧
        (s.agents a).dialog.startNode? ≠ none := by
  -- No session opens on a stage that is busy, without a node to start at, or when the counter cannot go up.
  unfold Stage.opens at refused
  split at refused
  case isFalse busy =>
    rw [Stage.unopened, if_neg busy]
    refine .inl ⟨.busy (s.agents a).id ((s.currentAgent?.map Agent.id).getD ['?']), ?_, fun idle => absurd idle busy⟩
    rw [initiate, get_bind]
    cases phase : s.phase with
    | idle => exact absurd phase busy
    | running | awaiting => rfl
  case isTrue idle =>
    rw [Stage.unopened, if_pos idle]
    cases start : (s.agents a).dialog.startNode? with
    | none =>
      refine .inl ⟨.noNodes (s.agents a).id, ?_, fun _ => rfl⟩
      conv =>
        lhs
        rw [initiate, get_bind, idle]
        dsimp only
        rw [modify_bind, start]
      rfl
    | some node =>
      rw [start, Option.bind_some, Option.map_eq_none_iff] at refused
      have failed : (openSession a node onExit) { s with history := [] } =
          .done { s with history := [] } (.error .integerTooLongToWrite) := by
        rw [openSession, get_bind]
        dsimp only
        rw [refused]
        rfl
      refine .inr ⟨?_, idle, Option.some_ne_none node⟩
      conv =>
        lhs
        rw [initiate, get_bind, idle]
        dsimp only
        rw [modify_bind, start]
      show (openSession a node onExit { s with history := [] }).bind _ = _
      rw [failed]
      rfl

end Play

end Parley
