import Parley.Fault
import Parley.Keyword.Basic
import Parley.Session.Stage

/-!
# Plays

A play is a piece of what a stage does. It changes the stage, puts notices into the log, and asks the
surroundings of the stage (presenters, observers, handlers, members) one request after another. While a
request is out the stage is in the hands of the surroundings, so a play goes on with whatever stage it
is given back. Plays follow the laws of a monad.
-/

namespace Parley

/-- What a stage reports. -/
inductive Notice where
  | noAgent
  /-- Another session is going on; the ids are those of the refused agent and of the current one. -/
  | busy (agent current : Text)
  | noNodes (agent : Text)
  | nothingAwaiting
  | staleAnswer (label : Text)
  | unmatchedAnswer (label : Text)
  | nobodyWatching
  | querySkipped
  | expansionLimit (limit : Int)
  | handlerFailed (kind : EventKind)
  | notBuilt (f : BuildFailure)
  deriving DecidableEq, Repr

/-- How a notice of a session is logged. -/
def Notice.entry : Notice → LogEntry
  | .noAgent => .of .warning ["Cannot initiate dialog without an agent"]
  | .busy agent current =>
    .of .warning ["Cannot initiate dialog for '", agent.str, "': a dialog with '", current.str,
      "' is running"]
  | .noNodes agent => .of .warning ["Agent '", agent.str, "' has no dialog nodes"]
  | .nothingAwaiting => .of .warning ["Ignoring advance: no line is awaiting it"]
  | .staleAnswer label => .of .warning ["Ignoring stale query response '", label.str, "'"]
  | .unmatchedAnswer label => .of .warning ["Query response '", label.str, "' matches no option"]
  | .nobodyWatching => .of .warning ["Dialog line shown with no presenter or line callback"]
  | .querySkipped => .of .warning ["Query reached with no query presenter; skipping it"]
  | .expansionLimit limit => Keyword.limitEntry limit
  | .handlerFailed kind => .of .error ["Error in event handler for DialogEvent.", kind.name]
  | .notBuilt f => f.entry

/-- What a stage asks of its surroundings. Those that belong to a session carry its number. -/
inductive Request where
  | keyword (m : Member) (key : Text)
  | function (m : Member) (name parameter : Text)
  | images (m : Member)
  /-- Show a line; the ticket lets the session go on. -/
  | show (presenter : Nat) (line : Line) (ticket : Ticket)
  | observeLine (observer : Nat) (line : Line) (ticket : Ticket)
  | query (presenter : Nat) (prompt : Prompt)
  | close (presenter session : Nat)
  | observeStart (observer session : Nat)
  | observeExit (observer session : Nat)
  | onExit (callback session : Nat)
  | handle (handler : HandlerId) (event : Event)

/-- What the surroundings give back. A function that a member does not have gives back nothing at all. -/
abbrev Reply : Request → Type
  | .keyword _ _ => Option Text
  | .function _ _ _ => Option (Option Text)
  | .images _ => List InlineImage
  | _ => Unit

/-- Whether the surroundings may turn to the stage before they reply. Keywords are looked up at once. -/
def Request.isOpen : Request → Bool
  | .keyword _ _ => false
  | _ => true

/-- A play that has started: it is done, reports something, or waits for a reply. -/
inductive Routine (α : Type) where
  | done (s : Stage) (result : Except Fault α)
  | tell (n : Notice) (rest : Routine α)
  | ask (s : Stage) (q : Request) (resume : Except Fault (Reply q) → Stage → Routine α)

namespace Routine

variable {α β γ : Type}

/-- One routine after another; a fault ends both. -/
def bind (r : Routine α) (f : α → Stage → Routine β) : Routine β :=
  match r with
  | .done s (.ok x) => f x s
  | .done s (.error e) => .done s (.error e)
  | .tell n rest => .tell n (rest.bind f)
  | .ask s q resume => .ask s q fun reply s => (resume reply s).bind f

/-- A routine that ends well even if a fault ends it. -/
def attempt (r : Routine α) : Routine (Except Fault α) :=
  match r with
  | .done s result => .done s (.ok result)
  | .tell n rest => .tell n rest.attempt
  | .ask s q resume => .ask s q fun reply s => (resume reply s).attempt

/-- A routine that is followed by nothing is that routine. -/
theorem bind_done (r : Routine α) : (r.bind fun x s => .done s (.ok x)) = r := by
  induction r with
  | done s result => cases result <;> rfl
  | tell n rest ih => simp only [bind, ih]
  | ask s q resume ih => simp only [bind, ih]

/-- It does not matter how routines in a row are grouped. -/
theorem bind_assoc (r : Routine α) (f : α → Stage → Routine β) (g : β → Stage → Routine γ) :
    (r.bind f).bind g = r.bind fun x s => (f x s).bind g := by
  induction r with
  | done s result => cases result <;> rfl
  | tell n rest ih => simp only [bind, ih]
  | ask s q resume ih => simp only [bind, ih]

end Routine

/-- A piece of what a stage does. -/
def Play (α : Type) : Type :=
  Stage → Routine α

namespace Play

variable {α β : Type}

instance : Monad Play where
  pure x := fun s => .done s (.ok x)
  bind p f := fun s => (p s).bind fun x s => f x s

instance : LawfulMonad Play :=
  .mk' Play (fun p => funext fun s => Routine.bind_done (p s)) (fun _ _ => rfl)
    (fun p f g => funext fun s => Routine.bind_assoc (p s) f g)

/-- The stage as it stands. -/
def get : Play Stage :=
  fun s => .done s (.ok s)

/-- Puts another stage in place. -/
def set (s : Stage) : Play Unit :=
  fun _ => .done s (.ok ())

/-- Changes the stage. -/
def modify (f : Stage → Stage) : Play Unit :=
  fun s => .done (f s) (.ok ())

/-- Gives a notice. -/
def tell (n : Notice) : Play Unit :=
  fun s => .tell n (.done s (.ok ()))

/-- Asks the surroundings. A fault in their reply ends the play. -/
def ask (q : Request) : Play (Reply q) :=
  fun s => .ask s q fun reply s => .done s reply

/-- Ends the play with a fault. -/
def fail (f : Fault) : Play α :=
  fun s => .done s (.error f)

/-- The result of a play, or the fault that ended it. -/
def attempt (p : Play α) : Play (Except Fault α) :=
  fun s => (p s).attempt

/-- Does something for each of a list, in order. -/
def each (f : β → Play Unit) : List β → Play Unit
  | [] => pure ()
  | x :: xs => do
    f x
    each f xs

end Play

end Parley
