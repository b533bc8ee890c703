import Parley.Console
import Parley.Library.Basic
import Parley.Session.Machine

/-!
# The demo

A player walks up to a guard and a merchant and talks to them on a console. The demo goes step by step:
`step` says what it wants next, to write or to read a line, to report something, or to come to an end,
and gives the demo as it is afterwards.
-/

namespace Parley

/-- A line or a query that the console is at work on. -/
inductive Talk where
  | console (p : Console.Position)
  /-- The console waits for an expanded text. -/
  | expanding (next : Text → Console.Position)
  /-- The console waits until the session has gone on. -/
  | going (next : Console.Position)

/-- Where the demo is while no session asks for anything. -/
inductive Place where
  /-- The names of those who can be talked to are to be shown. -/
  | menu
  | choice
  | stranger
  | farewell
  | over (r : Except Fault Unit)

/-- A demo under way. -/
structure Demo where
  cast : List (Text × AgentId)
  moment : Moment
  /-- What the console is at work on, the latest first. -/
  talks : List Talk := []
  place : Place := .menu

namespace Demo

/-- What a demo wants, and what becomes of it. -/
inductive Effect where
  | write (line : Text) (next : Demo)
  /-- Read a line, if there is one. -/
  | read (prompt : Text) (next : Option Text → Demo)
  | report (e : LogEntry) (next : Demo)
  | pass (next : Demo)
  | stop (r : Except Fault Unit)

/-- The helper that knows the name of the town. -/
def townHelper : Nat := 0

/-- The helper that knows the variables. -/
def variableHelper : Nat := 1

/-- What a member of the demo knows about a keyword. -/
def keyword? (s : Stage) (m : Member) (key : Text) : Option Text :=
  match m with
  | .agent _ => none
  | .helper h =>
    if h = townHelper then if key = "town".toList then some "Lowmere".toList else none
    else s.vars.get? key

/-- How the surroundings meet a request: with a reply, after a line has been written, or by a talk on the
console. -/
inductive Service (q : Request) where
  | reply (r : Reply q)
  | say (line : Text) (r : Reply q)
  | converse (p : Console.Position)

/-- How the surroundings meet a request in the demo. -/
def serve (s : Stage) : (q : Request) → Service q
  | .keyword m key => .reply (keyword? s m key)
  | .function _ _ _ => .reply none
  | .images _ => .reply []
  | .show _ l ticket => .converse (.line l ticket)
  | .query _ prompt => .converse (.query prompt)
  | .close _ _ => .say Console.farewell ()
  | .onExit _ _ => .say "(conversation over)".toList ()
  | .observeLine _ _ _ | .observeStart _ _ | .observeExit _ _ | .handle _ _ => .reply ()

/-- The reply to a request that the console has dealt with. -/
def dealtWith : (q : Request) → Reply q
  | .keyword _ _ => none
  | .function _ _ _ => none
  | .images _ => []
  | .show _ _ _ | .query _ _ | .close _ _ | .onExit _ _ | .observeLine _ _ _ | .observeStart _ _
  | .observeExit _ _ | .handle _ _ => ()

/-- The stage of a demo, unless it has come to its end. -/
def stage? (d : Demo) : Option Stage :=
  match d.moment.control with
  | .surroundings s => some s
  | .stage _ => none

/-- The demo after a reply to the latest request. -/
def reply (d : Demo) (s : Stage) (p : Pending) (ps : List Pending)
    (r : Except Fault (Reply p.request)) : Demo :=
  { d with moment := ⟨.stage (p.resume r s), ps⟩ }

/-- The demo after the latest talk has come to an end, well or not. -/
def endTalk (d : Demo) (f : Option Fault) : Demo :=
  match d.stage?, d.moment.pending with
  | some s, p :: ps =>
    { d with talks := d.talks.tail }.reply s p ps
      (match f with
        | some f => .error f
        | none => .ok (dealtWith p.request))
  | _, _ => { d with talks := d.talks.tail }

/-- The demo with another latest talk. -/
def goOn (d : Demo) (t : Talk) : Demo :=
  { d with talks := t :: d.talks.tail }

/-- The demo in which a call has been entered. -/
def enter (d : Demo) (c : Call) : Demo :=
  match d.moment.enter? c with
  | some m => { d with moment := m }
  | none => d

/-- The demo after the stage has answered a call. -/
def receive (d : Demo) (r : Except Fault Answer) : Demo :=
  match d.talks, r with
  | [], .ok _ => { d with place := .menu }
  | [], .error f => { d with place := .over (.error f) }
  | _ :: _, .error f => d.endTalk (some f)
  | .expanding next :: _, .ok (.text t) => d.goOn (.console (next t))
  | .going next :: _, .ok _ => d.goOn (.console next)
  | t :: _, .ok _ => d.goOn t

/-- The fault of reading where nothing is left to read. -/
def noInput : Fault :=
  .endOfInput "EOF when reading a line".toList

/-- What the demo wants when the console is at a position. -/
def converse (d : Demo) (p : Console.Position) : Effect :=
  match Console.move p with
  | .write line next => .write line (d.goOn (.console next))
  | .read prompt next =>
    .read prompt fun line =>
      match line with
      | none => d.endTalk (some noInput)
      | some t =>
        match next t with
        | .ok p => d.goOn (.console p)
        | .error f => d.endTalk (some f)
  | .expand t next => .pass ((d.goOn (.expanding next)).enter (.expand t))
  | .advance ticket link next => .pass ((d.goOn (.going next)).enter (.resume ticket link))
  | .respond prompt label next => .pass ((d.goOn (.going next)).enter (.respond prompt label))
  | .pass next => .pass (d.goOn (.console next))
  | .finish => .pass (d.endTalk none)

/-- The names of the agents that the player may talk to. -/
def names (d : Demo) (s : Stage) : List Text :=
  (d.cast.filter fun c => (s.agents c.2).enabled).map Prod.fst

/-- What becomes of the demo when the player has named somebody to talk to. -/
def choose (d : Demo) (s : Stage) (line : Text) : Demo :=
  let name := Text.trim line
  if name.isEmpty then { d with place := .farewell }
  else
    match Table.lookup name d.cast with
    | none => { d with place := .stranger }
    | some a =>
      if (s.agents a).enabled then d.enter (.start a [] (some 0)) else { d with place := .stranger }

/-- What the demo wants while no session asks for anything. -/
def visit (d : Demo) (s : Stage) : Effect :=
  match d.place with
  | .menu =>
    match d.names s with
    | [] => .write "Nobody wants to talk to you.".toList { d with place := .farewell }
    | ns =>
      .write ("Talk to: ".toList ++ Text.join [',', ' '] ns ++ " (blank to quit)".toList)
        { d with place := .choice }
  | .choice =>
    .read "> ".toList fun line =>
      match line with
      | none => { d with place := .over (.error noInput) }
      | some t => d.choose s t
  | .stranger => .write "No one by that name.".toList { d with place := .menu }
  | .farewell =>
    .write ("Final variables: ".toList ++ s.vars.exportText [','] ['='])
      { d with place := .over (.ok ()) }
  | .over r => .stop r

/-- What the demo wants when the stage has asked for something. -/
def attend (d : Demo) : Effect :=
  match d.stage?, d.moment.pending with
  | some s, p :: ps =>
    match serve s p.request with
    | .reply r => .pass (d.reply s p ps (.ok r))
    | .say line r => .write line (d.reply s p ps (.ok r))
    | .converse position => .pass { d with talks := .console position :: d.talks }
  | _, _ => .pass d

/-- What a demo does next. -/
def step (d : Demo) : Effect :=
  match d.moment.step? with
  | some (sign, m) =>
    let d := { d with moment := m }
    match sign with
    | .silent => .pass d
    | .told n => .report n.entry d
    | .asked _ => d.attend
    | .answered r => .pass (d.receive r)
  | none =>
    match d.stage?, d.talks with
    | some _, .console p :: _ => d.converse p
    | some s, [] => d.visit s
    | _, _ => .pass d

/-- The settings of the demo, if none are given. -/
def settings : Settings :=
  { playerName := .text "Ada".toList, logLevel := .text "WARNING".toList
    initialVars := [("gold".toList, .text "20".toList)] }

/-- The log entry about a folder without anybody to talk to. -/
def emptyEntry (location : Text) : LogEntry :=
  .of .error ["No scripts found under ", location.str]

/-- What was reported while a demo was set up, and the demo, unless there is nobody to talk to. -/
structure Opening where
  log : List LogEntry
  demo : Except Fault (Option Demo)

/-- The stage that a demo begins on. -/
def stageFor (settings : Settings) (agents : List Agent) : Stage :=
  { Stage.ofSettings settings none with
    agents := fun i => (agents[i]?).getD default
    responders := [.helper townHelper, .helper variableHelper]
    presenter := some 0
    queryPresenter := some 0 }

/-- A demo with those of the cast who have a dialog. -/
def setUp (settings : Settings) (l : Library) : Opening :=
  let created := [("guard", "Captain Brann"), ("merchant", "")].map fun (id, nickname) =>
    l.createAgent id.toList none [] nickname.toList false
  let agents := created.filterMap fun c => c.toOption
  let log := created.filterMap fun c =>
    match c with
    | .ok _ => none
    | .error n => some n.entry
  if agents.isEmpty then ⟨log ++ [emptyEntry l.database.location], .ok none⟩
  else
    let cast := agents.zipIdx.map fun (a, i) => (a.name, i)
    ⟨log, .ok (some { cast := cast, moment := .initial (stageFor settings agents) })⟩

/-- A demo with the dialogs of a database, and what is reported while it is set up. -/
def begin (settings : Settings) (db : Database) : Opening :=
  match settings.loggingLevel with
  | .error f => ⟨[], .error f⟩
  | .ok _ =>
    let loaded := db.load
    let log := loaded.log.map LibraryNotice.entry
    match loaded.fault with
    | some f => ⟨log, .error f⟩
    | none =>
      let opening :=
        setUp settings { database := loaded.value, strict := settings.strictResponses.isYes }
      { opening with log := log ++ opening.log }

end Demo

end Parley
