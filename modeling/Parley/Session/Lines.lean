import Parley.Session.Consult
import Parley.Text.Case

/-!
# Running lines

What a session does at a line: it acts on variables and functions, tests a condition and goes on or
passes over a branch, shows the line or asks a query and waits, or ends. `runLine` is one such step.
-/

namespace Parley.Play

/-- An event about the session that is going on, given the id of its agent and the name of its node. -/
def announce (kind : EventKind) (payload : (agent node : Text) → Payload) : Play Unit := do
  let s ← get
  match s.session with
  | none => fail .noSession
  | some x => publish ⟨kind, some x.number, payload (s.agents x.agent).id x.node.name⟩

/-- Closes the presenter of a session that has ended. -/
def closePresenter (session : Nat) : Play Unit := do
  match (← get).presenter with
  | none => pure ()
  | some p => ask (.close p session)

/-- Tells the observers that a session has ended. -/
def tellExit (session : Nat) : Play Unit := do
  each (fun o => ask (.observeExit o session)) (← get).exitObservers

/-- Tells the handlers that a session has ended. Its agent goes by the id that it has by then. -/
def announceEnd (x : Session) : Play Unit := do
  let agent := (← get).agents x.agent
  publish ⟨.dialogEnded, some x.number, .session agent.id x.node.name⟩

/-- Calls whoever asked to be called at the end of a session. -/
def callBack (x : Session) : Play Unit :=
  match x.onExit with
  | none => pure ()
  | some c => ask (.onExit c x.number)

/-- Tells everybody that a session has ended. -/
def tearDown (x : Session) : Play Unit := do
  closePresenter x.number
  tellExit x.number
  announceEnd x
  callBack x

/-- Ends the session, if one is going on. The stage is idle before anybody hears of it; then the
presenter closes, the observers and handlers are told, and the callback of the session is called. -/
def endSession : Play Unit := do
  let s ← get
  match s.phase, s.session with
  | .idle, _ | _, none => pure ()
  | _, some x =>
    set { s with
      session := none, phase := .idle, ticket := s.ticket + 1, inactiveAt := s.now + s.graceDelay }
    tearDown x

/-- Goes to the first line of a node. -/
def enterNode (n : Node) : Play Unit := do
  modify fun s => { s with session := s.session.map fun x => { x with node := n, index := 0 } }
  announce .nodeEntered .node

/-- Puts the session on a line of its node. -/
def goTo (index : Nat) : Play Unit :=
  modify fun s => { s with session := s.session.map fun x => { x with index := index } }

/-- The node that a link leads to; one that leads nowhere gives way to the link of the current line. -/
def targetOf (s : Stage) (link : Text) : Option Node :=
  (s.node? link).or (s.currentLine?.bind fun l => s.node? l.link)

/-- Steps past the current line, by a link if one leads somewhere. -/
def moveOn (link : Text) : Play Unit := do
  let s ← get
  match targetOf s link with
  | some n => enterNode n
  | none =>
    match s.session with
    | some x => goTo (x.index + 1)
    | none => pure ()

/-- Passes over a branch that is not taken, to the next other branch or the end of the branches. Another
branch with a condition of its own is tried next; anything else is stepped past. -/
def passOver : Play Unit := do
  match (← get).session with
  | none => fail .noSession
  | some x =>
    let rest := x.node.lines.drop (x.index + 1)
    match rest.findIdx? (fun l => l.elseIf || l.endIf) with
    | none => goTo x.node.lines.length
    | some i =>
      goTo (x.index + 1 + i)
      -- A branch with a condition is not stepped past: it is run next, as a line like any other.
      match rest[i]? with
      | some l => if l.elseIf && l.hasCondition then pure () else moveOn []
      | none => pure ()

/-- Goes on after a test, if the session that ran it, or another one, is there to do so. -/
def branch (holds : Bool) : Play Unit := do
  match (← get).session with
  | none => fail .noSession
  | some _ => if holds then moveOn [] else passOver

/-- Writes a variable, unless the assignment has no key. -/
def assign (a : Assignment) : Play Unit :=
  if a.key.isEmpty then pure ()
  else modify fun s => { s with vars := s.vars.set a.key a.value }

/-- The name and the parameter in a call `name::parameter`. -/
def splitCall (call : Text) : Text × Text :=
  (Text.cut "::".toList call).getD (call, [])

/-- A text with its keywords replaced; the empty one needs no replacing. -/
def expandParameter (t : Text) : Play Text :=
  if t.isEmpty then pure t else expandText t

/-- Calls a function and offers the call to whoever may answer it. -/
def callFunction (call : Text) : Play Unit :=
  if call.isEmpty then pure ()
  else do
    let (name, parameter) := splitCall call
    let parameter ← expandParameter parameter
    announce .functionCalled fun agent _ => .function agent name parameter
    offerToAll name parameter

/-- A test of a function. -/
structure FunctionTest where
  name : Text
  parameter : Text
  desired : Text
  deriving DecidableEq, Repr

/-- The test that a text `name::parameter=result`, `name::parameter`, `name=result` or `name` stands for.
An equals sign with nothing behind it, and a missing name, stand for no test. -/
def functionTest? (t : Text) : Option FunctionTest :=
  let test? : Option FunctionTest :=
    match Text.cut "::".toList t with
    | some (name, rest) =>
      match Text.cutLast ['='] rest with
      | some (parameter, desired) => if desired.isEmpty then none else some ⟨name, parameter, desired⟩
      | none => some ⟨name, rest, []⟩
    | none =>
      match Text.cut ['='] t with
      | some (name, desired) => if desired.isEmpty then none else some ⟨name, [], desired⟩
      | none => some ⟨t, [], []⟩
  test?.filter fun test => !test.name.isEmpty

/-- Whether a test of a function holds: the first who has the function gives the desired result, in
whatever letter case. -/
def functionHolds (t : Text) : Play Bool := do
  match functionTest? t with
  | none => pure false
  | some test =>
    let parameter ← expandParameter test.parameter
    let desired ← expandParameter test.desired
    match ← decide test.name parameter with
    | some result => pure (Text.lower (result.getD []) == Text.lower desired)
    | none => pure false

/-- Waits for the surroundings; gives the ticket with which to go on. -/
def suspend : Play Ticket := do
  let ticket := (← get).ticket + 1
  modify fun s => { s with phase := .awaiting, ticket := ticket }
  pure ticket

/-- Goes on from the pause of a ticket, if that is the one that the session is in. -/
def resume (ticket : Ticket) (link : Text) : Play Bool := do
  let s ← get
  if ticket = s.ticket && s.phase = .awaiting then
    set { s with ticket := s.ticket + 1, phase := .running }
    moveOn link
    pure true
  else
    tell .nothingAwaiting
    pure false

/-- A line with the keywords in its texts replaced. -/
def expandLine (l : Line) : Play Line := do
  let speaker ← expandText l.speaker
  let text ← expandText l.text
  let portrait ← expandText l.portrait
  pure { l with speaker := speaker, text := text, portrait := portrait }

/-- Hands a line to the presenter, if there is one, with the ticket to go on from it. -/
def handToPresenter (l : Line) (ticket : Ticket) : Play Unit := do
  match (← get).presenter with
  | none => pure ()
  | some p => ask (.show p l ticket)

/-- Hands a line to the observers, with the ticket to go on from it. -/
def handToObservers (l : Line) (ticket : Ticket) : Play Unit := do
  each (fun o => ask (.observeLine o l ticket)) (← get).lineObservers

/-- Hands a line to the presenter and the observers. -/
def handOut (l : Line) (ticket : Ticket) : Play Unit := do
  let s ← get
  if s.presenter.isNone && s.lineObservers.isEmpty then tell .nobodyWatching
  handToPresenter l ticket
  handToObservers l ticket

/-- Announces a line and hands it out. -/
def deliver (l : Line) (ticket : Ticket) : Play Unit := do
  announce .lineStarted fun agent node => .line agent node l
  handOut l ticket

/-- Stops at a line and delivers it. -/
def present (l : Line) : Play Unit := do
  let ticket ← suspend
  deliver l ticket

/-- Shows the line that the session stands at, and keeps its node in the history. -/
def showLine (l : Line) : Play Unit := do
  match (← get).session with
  | none => fail .noSession
  | some x =>
    modify fun s => { s with history := s.history ++ [x.node.name] }
    let shown ← expandLine l
    present shown

/-- A query with its keywords replaced, to be answered with a ticket. -/
def expandQuery (q : Query) (ticket : Ticket) : Play Prompt := do
  let labels ← expandTexts (q.responses.map (·.text))
  let text ← expandText q.text
  let description ← expandText q.description
  pure ⟨text, description, labels, ticket, q⟩

/-- Hands a query to the query presenter, who has to be there. -/
def handQuery (p : Prompt) : Play Unit := do
  match (← get).queryPresenter with
  | none => fail .noQueryPresenter
  | some presenter => ask (.query presenter p)

/-- Announces a query and hands it to the query presenter. -/
def deliverQuery (p : Prompt) : Play Unit := do
  announce .queryStarted fun agent node => .query agent node p
  handQuery p

/-- Asks a query and waits; passes on when nobody is there to ask it. -/
def askQuery (q : Query) : Play Unit := do
  match (← get).queryPresenter with
  | none =>
    tell .querySkipped
    moveOn []
  | some _ =>
    let ticket ← suspend
    let prompt ← expandQuery q ticket
    deliverQuery prompt

/-- Answers a query with a label, if the query is still open. -/
def respond (p : Prompt) (label : Text) : Play Bool := do
  if p.ticket ≠ (← get).ticket then
    tell (.staleAnswer label)
    pure false
  else
    match p.link? label with
    | some link => resume p.ticket link
    | none =>
      tell (.unmatchedAnswer label)
      resume p.ticket []

/-- What a line does after its variable and its function: the first thing that it is. -/
def perform (l : Line) : Play Unit := do
  if !l.ifVar.isEmpty then branch ((← get).variableTest l.ifVar)
  else if !l.ifFunction.isEmpty then branch (← functionHolds l.ifFunction)
  else if l.query.isValid then askQuery l.query
  else if !l.ifDialogCount.isEmpty then branch ((← get).countTest l.ifDialogCount)
  else if l.elseIf then passOver
  else if l.endIf then moveOn []
  else if l.exit then endSession
  else if l.isSilent then moveOn []
  else showLine l

/-- Runs the current line. Past the last line of a node the session ends, and a line whose function has
stopped the running does nothing more. -/
def runLine : Play Unit := do
  match (← get).currentLine? with
  | none => endSession
  | some l =>
    assign l.setVar
    callFunction l.callFunction
    -- The line is the one that was fetched, whatever session the function has left behind.
    if (← get).phase = .running then perform l

end Parley.Play
