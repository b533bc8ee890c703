import Parley.Fault
import Parley.Session.Event
import Parley.Text.Digit

/-!
# The console

A console shows lines and asks queries in writing, and takes answers by number. Talking to the player is
a row of small moves: the console wants to write or read something, to have keywords replaced, or to let
the session go on, and comes to its next position with what it gets. `judge` decides what an answer
chooses.
-/

namespace Parley.Console

/-- What a choice is for. -/
inductive Purpose where
  /-- To go on from a line by one of its responses. -/
  | line (responses : List Response) (ticket : Ticket)
  | query (prompt : Prompt)

/-- How far the console is with a line or a query. -/
inductive Position where
  | line (l : Line) (ticket : Ticket)
  /-- The labels of responses are being expanded; those done are last one first. -/
  | labels (responses : List Response) (ticket : Ticket) (done : List Text) (rest : List Response)
  | pause (ticket : Ticket)
  | query (p : Prompt)
  /-- The description of a query is to be written. -/
  | description (p : Prompt)
  /-- The options from a number on are to be written. -/
  | menu (purpose : Purpose) (options : List Text) (number : Nat) (rest : List Text)
  | choice (purpose : Purpose) (options : List Text)
  | again (purpose : Purpose) (options : List Text)
  | chosen (purpose : Purpose) (options : List Text) (index : Nat)
  | leave (ticket : Ticket)
  /-- Nothing is left to do. -/
  | done

/-- What the console wants, and the position that it comes to with what it gets. -/
inductive Move where
  | write (t : Text) (next : Position)
  | read (prompt : Text) (next : Text → Except Fault Position)
  | expand (t : Text) (next : Text → Position)
  | advance (ticket : Ticket) (link : Text) (next : Position)
  | respond (p : Prompt) (label : Text) (next : Position)
  /-- Nothing; the console comes to the position at once. -/
  | pass (next : Position)
  /-- Nothing more. -/
  | finish

/-- The option that an answer chooses among so many, counted from zero. An answer that looks like a
number has to be one. -/
def judge (count : Nat) (answer : Text) : Except Fault (Option Nat) :=
  let t := Text.trim answer
  if !t.isEmpty && t.all Text.isDigitLike then
    match Numeral.read t with
    | .ok n => .ok (if 1 ≤ n && n ≤ count then some (n.toNat - 1) else none)
    | .error .malformed => .error (.noNumeral t)
    | .error (.tooLong digits) => .error (.integerTooLong digits)
  else .ok none

/-- A line as it is written, with its speaker in front. -/
def lineText (l : Line) : Text :=
  if l.speaker.isEmpty then l.text else l.speaker ++ ": ".toList ++ l.text

/-- An option as it is written, with its number in front. -/
def optionText (number : Nat) (label : Text) : Text :=
  "  ".toList ++ Numeral.ofNat number ++ ". ".toList ++ label

/-- What is written when an answer was no choice. -/
def reminder (count : Nat) : Text :=
  "Choose 1-".toList ++ Numeral.ofNat count

/-- What the console wants when an option has been chosen. -/
def act (purpose : Purpose) (options : List Text) (index : Nat) : Move :=
  match purpose with
  | .line responses ticket => .advance ticket ((responses[index]?.map (·.link)).getD []) .done
  | .query p => .respond p (options[index]?.getD []) .done

/-- What the console does at a position. -/
def move : Position → Move
  | .line l ticket =>
    .write (lineText l)
      (if l.responses.isEmpty then .pause ticket else .labels l.responses ticket [] l.responses)
  | .labels responses ticket done (r :: rest) =>
    .expand r.text fun label => .labels responses ticket (label :: done) rest
  | .labels responses ticket done [] =>
    .pass (.menu (.line responses ticket) done.reverse 1 done.reverse)
  | .pause ticket => .read [] fun _ => .ok (.leave ticket)
  | .leave ticket => .advance ticket [] .done
  | .query p =>
    .write (['['] ++ p.text ++ [']'])
      (if p.description.isEmpty then .menu (.query p) p.labels 1 p.labels else .description p)
  | .description p => .write p.description (.menu (.query p) p.labels 1 p.labels)
  | .menu purpose options number (o :: rest) =>
    .write (optionText number o) (.menu purpose options (number + 1) rest)
  | .menu purpose options _ [] | .choice purpose options =>
    .read "> ".toList fun answer =>
      match judge options.length answer with
      | .ok (some i) => .ok (.chosen purpose options i)
      | .ok none => .ok (.again purpose options)
      | .error f => .error f
  | .again purpose options => .write (reminder options.length) (.choice purpose options)
  | .chosen purpose options index => act purpose options index
  | .done => .finish

/-- What the console writes when a session ends. -/
def farewell : Text := []

end Parley.Console
