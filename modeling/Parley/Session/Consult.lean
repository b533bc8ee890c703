import Parley.Session.Play

/-!
# Consulting the members

How a stage finds out what a keyword stands for and what a function gives, how it announces events, and
how it replaces the keywords of a text. The stage itself is asked first, then the agent of the session,
then the other responders.
-/

namespace Parley.Play

/-- What the first of the members who knows a keyword says. -/
def askKeyword (key : Text) : List Member → Play (Option Text)
  | [] => pure none
  | m :: ms => do
    match ← ask (.keyword m key) with
    | some value => pure (some value)
    | none => askKeyword key ms

/-- What a keyword stands for: what the stage knows of it goes before what its members say. -/
def resolveKeyword (key : Text) : Play (Option Text) := do
  let s ← get
  match s.keyword? key with
  | some value => pure (some value)
  | none => askKeyword key s.members

/-- A text with its keywords replaced. -/
def expandText (t : Text) : Play Text := do
  let limit := (← get).keywordLimit
  let e ← Keyword.expand resolveKeyword limit t
  if e.limitReached then tell (.expansionLimit limit)
  pure e.text

/-- Texts with their keywords replaced, one after another. -/
def expandTexts : List Text → Play (List Text)
  | [] => pure []
  | t :: ts => do
    let t ← expandText t
    let ts ← expandTexts ts
    pure (t :: ts)

/-- Takes an event to one handler. A handler that fails is reported and keeps nobody else from it. -/
def notify (e : Event) (h : HandlerId) : Play Unit := do
  match ← attempt (ask (.handle h e)) with
  | .ok () => pure ()
  | .error _ => tell (.handlerFailed e.kind)

/-- Takes an event to everyone who is subscribed at this moment. -/
def publish (e : Event) : Play Unit := do
  match (← get).bus with
  | none => pure ()
  | some bus => each (notify e) (bus.handlers e.kind)

/-- Calls the function of the stage, if it has one of that name. -/
def callBuiltIn (name parameter : Text) : Play (Option (Option Text)) := do
  let (result, s) := (← get).callBuiltIn name parameter
  set s
  pure result

/-- Offers a call to a member and does not care for the result. -/
def offer (name parameter : Text) (m : Member) : Play Unit := do
  let _ ← ask (.function m name parameter)
  pure ()

/-- Offers a call to all members, one after another. -/
def offerToAll (name parameter : Text) : Play Unit := do
  -- Those are asked who were there before the stage's own function may have changed that.
  let members := (← get).members
  let _ ← callBuiltIn name parameter
  each (offer name parameter) members

/-- What the first of the members who has a function gives. -/
def askFunction (name parameter : Text) : List Member → Play (Option (Option Text))
  | [] => pure none
  | m :: ms => do
    match ← ask (.function m name parameter) with
    | some result => pure (some result)
    | none => askFunction name parameter ms

/-- What the first who has a function gives. -/
def decide (name parameter : Text) : Play (Option (Option Text)) := do
  let members := (← get).members
  match ← callBuiltIn name parameter with
  | some result => pure (some result)
  | none => askFunction name parameter members

/-- The images of members, one after another. -/
def imagesOf : List Member → Play (List InlineImage)
  | [] => pure []
  | m :: ms => do
    let here ← ask (.images m)
    let rest ← imagesOf ms
    pure (here ++ rest)

/-- The images of all members. -/
def images : Play (List InlineImage) := do
  imagesOf (← get).members

end Parley.Play
