import Parley.Dialog.Basic
import Parley.Json.Basic

/-!
# Events

What a session announces while it runs, and the bus that takes the announcements to the handlers that
have subscribed to them.
-/

namespace Parley

/-- The kinds of announcements. -/
inductive EventKind where
  | dialogStarted
  | dialogEnded
  | nodeEntered
  | lineStarted
  | queryStarted
  | functionCalled
  deriving DecidableEq, Repr, Inhabited

/-- The name of a kind of event. -/
def EventKind.name : EventKind → String
  | .dialogStarted => "DIALOG_STARTED"
  | .dialogEnded => "DIALOG_ENDED"
  | .nodeEntered => "NODE_ENTERED"
  | .lineStarted => "LINE_STARTED"
  | .queryStarted => "QUERY_STARTED"
  | .functionCalled => "FUNCTION_CALLED"

/-- The kinds in order. -/
def EventKind.all : List EventKind :=
  [.dialogStarted, .dialogEnded, .nodeEntered, .lineStarted, .queryStarted, .functionCalled]

/-- The right to go on from a line or a query, by the number of the pause that it belongs to. -/
abbrev Ticket := Nat

/-- A query as it is put to the player, with its keywords replaced. -/
structure Prompt where
  text : Text
  description : Text
  labels : List Text
  ticket : Ticket
  /-- The query as the dialog has it. -/
  query : Query
  deriving DecidableEq, Repr, Inhabited

/-- Where the answer to a query leads: the link of the first response with that label. -/
def Prompt.link? (p : Prompt) (label : Text) : Option Text :=
  ((p.query.responses.zip p.labels).find? fun r => r.2 == label).map fun r => r.1.link

/-- What an announcement carries. -/
inductive Payload where
  | session (agent node : Text)
  | node (agent node : Text)
  | line (agent node : Text) (line : Line)
  | query (agent node : Text) (prompt : Prompt)
  | function (agent name parameter : Text)
  /-- Anything that is published from outside a session. -/
  | other (j : Json)
  deriving Inhabited

/-- An announcement. -/
structure Event where
  kind : EventKind
  /-- The number of the session that it is about, if it is about one. -/
  session : Option Nat
  payload : Payload
  deriving Inhabited

/-- Handlers are told apart by their numbers. -/
abbrev HandlerId := Nat

/-- The handlers of each kind, in the order in which they subscribed. -/
structure Bus where
  handlers : EventKind → List HandlerId

namespace Bus

/-- The bus without handlers. -/
def empty : Bus :=
  ⟨fun _ => []⟩

instance : Inhabited Bus := ⟨empty⟩

/-- The bus with the handlers of one kind replaced. -/
def replace (b : Bus) (k : EventKind) (hs : List HandlerId) : Bus :=
  ⟨fun kind => if kind = k then hs else b.handlers kind⟩

/-- The bus with one more handler of a kind; one that is there already keeps its place. -/
def subscribe (b : Bus) (k : EventKind) (h : HandlerId) : Bus :=
  if h ∈ b.handlers k then b else b.replace k (b.handlers k ++ [h])

/-- Whether a handler listens to a kind of event. -/
def isSubscribed (b : Bus) (k : EventKind) (h : HandlerId) : Bool :=
  h ∈ b.handlers k

/-- The bus without a handler of a kind. -/
def unsubscribe (b : Bus) (k : EventKind) (h : HandlerId) : Bus :=
  b.replace k ((b.handlers k).erase h)

/-- The bus without the handlers of a kind, or of all kinds. -/
def clear (b : Bus) : Option EventKind → Bus
  | some k => b.replace k []
  | none => empty

end Bus

end Parley
