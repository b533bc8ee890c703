import Parley.Session.Lines

/-!
# Calls

What the surroundings can do with a stage: start, steer and end sessions, ask the stage what its members
know, and change what is on it. A call is answered, and some calls run lines before they are.
-/

namespace Parley

/-- A change to the stage that involves nobody else. -/
inductive Adjustment where
  | setVariable (key value : Text)
  | removeVariable (key : Text)
  | setClock (now : Float)
  | setPlayer (name : Option Text)
  | addResponder (m : Member)
  | removeResponder (m : Member)
  | setSource (a : AgentId) (source : Source)
  | clearDialog (a : AgentId)
  | setNickname (a : AgentId) (name : Text)
  | setPresenter (presenter : Option Nat)
  | setQueryPresenter (presenter : Option Nat)
  | addStartObserver (observer : Nat)
  | addExitObserver (observer : Nat)
  | addLineObserver (observer : Nat)
  | subscribe (kind : EventKind) (handler : HandlerId)
  | unsubscribe (kind : EventKind) (handler : HandlerId)
  | clearHandlers (kind : Option EventKind)

/-- What the surroundings can do. -/
inductive Call where
  /-- Build the dialog of an agent, if need be, and start a session. -/
  | start (a : AgentId) (speaker : Text) (onExit : Option Nat)
  | initiate (a : Option AgentId) (onExit : Option Nat)
  | advance (link : Text)
  /-- Go on from the pause of a ticket. -/
  | resume (ticket : Ticket) (link : Text)
  | respond (prompt : Prompt) (label : Text)
  | kill
  | keyword (key : Text)
  | function (name parameter : Text)
  | images
  | expand (t : Text)
  | build (a : AgentId) (speaker : Text)
  | publish (kind : EventKind) (j : Json)
  | adjust (change : Adjustment)

/-- What a call is answered with. -/
inductive Answer where
  | nothing
  | flag (b : Bool)
  | text (t : Text)
  | keyword (value : Option Text)
  | function (result : Option (Option Text))
  | images (is : List InlineImage)
  deriving Inhabited

/-- How a call ends: with its answer, or with an answer to be given when the lines that are now to be run
have been run. -/
inductive Outcome where
  | answer (a : Answer)
  | run (a : Answer)

namespace Stage

/-- The stage with its bus changed, if it has one. -/
def updateBus (s : Stage) (f : Bus → Bus) : Stage :=
  { s with bus := s.bus.map f }

/-- The stage after a change, and the answer to it. -/
def adjust (s : Stage) : Adjustment → Answer × Stage
  | .setVariable key value => (.nothing, { s with vars := s.vars.set key value })
  | .removeVariable key =>
    (.flag (s.vars.contains key), { s with vars := s.vars.erase key })
  | .setClock now => (.nothing, { s with now := now })
  | .setPlayer name => (.nothing, { s with playerName := name })
  | .addResponder m =>
    (.nothing, if m ∈ s.responders then s else { s with responders := s.responders ++ [m] })
  | .removeResponder m =>
    (.flag (m ∈ s.responders), { s with responders := s.responders.erase m })
  | .setSource a source => (.nothing, s.updateAgent a (·.setSource source))
  | .clearDialog a => (.nothing, s.updateAgent a Agent.clear)
  | .setNickname a name => (.nothing, s.updateAgent a fun x => { x with nickname := name })
  | .setPresenter p => (.nothing, { s with presenter := p })
  | .setQueryPresenter p => (.nothing, { s with queryPresenter := p })
  | .addStartObserver o => (.nothing, { s with startObservers := s.startObservers ++ [o] })
  | .addExitObserver o => (.nothing, { s with exitObservers := s.exitObservers ++ [o] })
  | .addLineObserver o => (.nothing, { s with lineObservers := s.lineObservers ++ [o] })
  | .subscribe kind h => (.nothing, s.updateBus (·.subscribe kind h))
  | .unsubscribe kind h =>
    (.flag (s.bus.any (·.isSubscribed kind h)), s.updateBus (·.unsubscribe kind h))
  | .clearHandlers kind => (.nothing, s.updateBus (·.clear kind))

end Stage

namespace Play

/-- Builds the dialog of an agent if it is empty, and says whether there is one now. -/
def build (a : AgentId) (speaker : Text) : Play Bool := do
  let (agent, failure) := ((← get).agents a).build speaker
  modify (·.updateAgent a fun _ => agent)
  match failure with
  | none => pure ()
  | some f => tell (.notBuilt f)
  pure !agent.dialog.isEmpty

/-- Tells everybody that a session has started. -/
def tellStart (session : Nat) (a : AgentId) (node : Node) : Play Unit := do
  each (fun o => ask (.observeStart o session)) (← get).startObservers
  publish ⟨.dialogStarted, some session, .session ((← get).agents a).id node.name⟩
  publish ⟨.nodeEntered, some session, .node ((← get).agents a).id node.name⟩

/-- Starts a session with an agent at a node and tells everybody. -/
def openSession (a : AgentId) (node : Node) (onExit : Option Nat) : Play Unit := do
  let s ← get
  match s.vars.countVisit? (s.agents a).id with
  | none => fail .integerTooLongToWrite
  | some vars =>
    set { s with
      vars := vars, phase := .running, started := s.started + 1
      session := some ⟨s.started, a, node, 0, onExit⟩ }
    tellStart s.started a node

/-- Starts a session, unless there is no agent, another session is going on, or the agent's dialog has no
node to start at. -/
def initiate (agent : Option AgentId) (onExit : Option Nat) : Play Outcome := do
  let s ← get
  match agent, s.phase with
  | none, _ =>
    tell .noAgent
    pure (.answer (.flag false))
  | some a, .idle =>
    -- The history goes even if there turns out to be no node to start at.
    modify fun s => { s with history := [] }
    match (s.agents a).dialog.startNode? with
    | none =>
      tell (.noNodes (s.agents a).id)
      pure (.answer (.flag false))
    | some node =>
      openSession a node onExit
      pure (.run (.flag true))
  | some a, _ =>
    let current := (s.currentAgent?.map Agent.id).getD ['?']
    tell (.busy (s.agents a).id current)
    pure (.answer (.flag false))

/-- How a call that may go on from a pause ends. -/
def outcome (answer : Answer) (wentOn : Bool) : Outcome :=
  if wentOn then .run answer else .answer answer

end Play

/-- What a call does on the stage. -/
def Call.play : Call → Play Outcome
  | .start a speaker onExit => do
    let _ ← Play.build a speaker
    Play.initiate (some a) onExit
  | .initiate a onExit => Play.initiate a onExit
  | .advance link => do
    let wentOn ← Play.resume (← Play.get).ticket link
    pure (Play.outcome (.flag wentOn) wentOn)
  | .resume ticket link => do
    pure (Play.outcome .nothing (← Play.resume ticket link))
  | .respond prompt label => do
    pure (Play.outcome .nothing (← Play.respond prompt label))
  | .kill => do
    Play.endSession
    pure (.answer .nothing)
  | .keyword key => do
    pure (.answer (.keyword ((← Play.get).keyword? key)))
  | .function name parameter => do
    pure (.answer (.function (← Play.callBuiltIn name parameter)))
  | .images => do
    pure (.answer (.images (← Play.images)))
  | .expand t => do
    pure (.answer (.text (← Play.expandText t)))
  | .build a speaker => do
    pure (.answer (.flag (← Play.build a speaker)))
  | .publish kind j => do
    Play.publish ⟨kind, none, .other j⟩
    pure (.answer .nothing)
  | .adjust change => do
    let (answer, s) := (← Play.get).adjust change
    Play.set s
    pure (.answer answer)

end Parley
