import Parley.Expression.Evaluate
import Parley.Session.Agent
import Parley.Session.Event
import Parley.Settings
import Parley.Variables.Exchange

/-!
# The stage

The state of everything that takes part in dialogs: the variables, the agents, who answers for keywords
and functions, who watches, and the session that is going on, if there is one. The functions on it are
the ones that need nobody's help.
-/

namespace Parley

/-- Agents are told apart by their numbers. -/
abbrev AgentId := Nat

/-- Somebody who answers for keywords, functions and images. -/
inductive Member where
  | agent (a : AgentId)
  | helper (h : Nat)
  deriving DecidableEq, Repr, Inhabited

/-- Whether a session is going on, and whether it waits. -/
inductive Phase where
  /-- There is no session. -/
  | idle
  | running
  /-- A line is shown or a query asked, and the session waits to be told to go on. -/
  | awaiting
  deriving DecidableEq, Repr, Inhabited

/-- A dialog that is being held. -/
structure Session where
  /-- The how-manieth session it is. -/
  number : Nat
  agent : AgentId
  node : Node
  index : Nat
  onExit : Option Nat
  deriving Repr, Inhabited

/-- The state of everything that takes part. -/
structure Stage where
  playerName : Option Text := some []
  graceDelay : Float := 0.15
  keywordLimit : Int := 256
  vars : Variables := Table.empty
  agents : AgentId → Agent := fun _ => default
  responders : List Member := []
  presenter : Option Nat := none
  queryPresenter : Option Nat := none
  bus : Option Bus := none
  startObservers : List Nat := []
  exitObservers : List Nat := []
  lineObservers : List Nat := []
  phase : Phase := .idle
  session : Option Session := none
  /-- The number of sessions that have been started. -/
  started : Nat := 0
  /-- The number of the latest pause; it also moves on when a pause ends. -/
  ticket : Ticket := 0
  /-- Whether lines are being run further out. -/
  inRun : Bool := false
  /-- The names of the nodes whose lines have been shown in this session. -/
  history : List Text := []
  now : Float := 0
  /-- Until when the last session counts as active. -/
  inactiveAt : Float := -1 / 0
  deriving Inhabited

namespace Stage

/-- The stage that settings describe. Variables that are not given are those of the settings. -/
def ofSettings (settings : Settings) (vars : Option Variables) : Stage :=
  { playerName := settings.player?
    graceDelay := settings.graceDelay
    keywordLimit := settings.expansionLimit
    vars := vars.getD (Variables.ofJson settings.initialVars) }

/-- The stage with one of its agents changed. -/
def updateAgent (s : Stage) (a : AgentId) (f : Agent → Agent) : Stage :=
  { s with agents := fun b => if b = a then f (s.agents b) else s.agents b }

/-- The agent of the session. -/
def currentAgent? (s : Stage) : Option Agent :=
  s.session.map fun x => s.agents x.agent

/-- The line that the session stands at. -/
def currentLine? (s : Stage) : Option Line :=
  s.session.bind fun x => x.node.lines[x.index]?

/-- The node of a name in the dialog of the session. -/
def node? (s : Stage) (name : Text) : Option Node :=
  s.currentAgent?.bind fun a => a.dialog.node? name

/-- Whether a session is going on or has ended only just now. -/
def isActive (s : Stage) : Bool :=
  s.phase ≠ .idle || s.now < s.inactiveAt

/-- The other members who are asked: the agent of the session, and all other responders. -/
def members (s : Stage) : List Member :=
  match s.session with
  | none => s.responders
  | some x => .agent x.agent :: s.responders.filter (· ≠ .agent x.agent)

/-- What the stage itself knows about a keyword: the player, and the agent of the session. -/
def keyword? (s : Stage) (key : Text) : Option Text :=
  match s.playerName with
  | some name =>
    if key = "player".toList && !name.isEmpty then some name
    else if key = "self".toList then s.currentAgent?.map Agent.displayName else none
  | none => if key = "self".toList then s.currentAgent?.map Agent.displayName else none

/-- The result of a comparison as a function gives it. -/
def verdict (b : Bool) : Text :=
  if b then "true".toList else "false".toList

/-- What the stage itself does when a function is called: its result if the stage has the function, and
the stage afterwards. -/
def callBuiltIn (s : Stage) (name parameter : Text) : Option (Option Text) × Stage :=
  let assign (mode : Expression.Mode) : Option (Option Text) × Stage :=
    match Expression.assign? mode s.vars parameter with
    | some r => (some (some (formatNumber r.value)), { s with vars := r.vars })
    | none => (none, s)
  let compare (mode : Expression.Mode) : Option (Option Text) × Stage :=
    ((Expression.compare? mode s.vars parameter).map fun b => some (verdict b), s)
  if name = "DisableDialog".toList then
    match s.session with
    | some x => (some none, s.updateAgent x.agent fun a => { a with enabled := false })
    | none => (some none, s)
  else if name = "Math".toList then assign .real
  else if name = "MathInt".toList then assign .whole
  else if name = "Compare".toList then compare .real
  else if name = "CompareInt".toList then compare .whole
  else (none, s)

/-- Whether a variable test `key=value` holds. -/
def variableTest (s : Stage) (test : Text) : Bool :=
  match Text.splitPair? ['='] test with
  | some (key, value) => s.vars.get? (Text.trim key) == some (Text.trim value)
  | none => false

/-- Whether a test of the number of visits holds. -/
def countTest (s : Stage) (test : Text) : Bool :=
  match s.currentAgent?, test with
  | some a, operator :: number =>
    match Numeral.read number with
    | .ok target =>
      let count := s.vars.visits a.id
      if operator = '<' then count < target
      else if operator = '>' then target < count
      else operator = '=' && count = target
    | .error _ => false
  | _, _ => false

end Stage

end Parley
