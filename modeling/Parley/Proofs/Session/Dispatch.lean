import Parley.Proofs.Session.Announcements
import Parley.Proofs.Session.Pauses
import Parley.Proofs.Session.Progress

/-!
# Dispatch

An event is taken to the handlers that are subscribed when it is published, whatever they do meanwhile.

* `Unwinds`: what may be seen until some requests have been replied to, with everything that nests in them.
* `Run.excursion`: after a request the surroundings reply to it, or have still to do so.
* `Taken`: what is seen of an event that is taken to some handlers, one after another.
* `Run.each_notify`: so much of that is seen in every run.

`Run.publish` closes the file: it says so of an event that is published.
-/

namespace Parley

/-! ## Excursions -/

/-- What may be seen while some requests are out, the latest first, until all have been replied to. -/
inductive Unwinds : List Request → List Label → Prop
  | nil : Unwinds [] []
  | asked {qs : List Request} {ls : List Label} (s : Stage) (q : Request) (rest : Unwinds (q :: qs) ls) :
    Unwinds qs (.asked s q :: ls)
  | replied {qs : List Request} {ls : List Label} (s : Stage) (q : Request) (r : Except Fault (Reply q))
    (rest : Unwinds qs ls) : Unwinds (q :: qs) (.replied s q r :: ls)
  | other {qs : List Request} {l : Label} {ls : List Label} (weight : l.weight = 0) (rest : Unwinds qs ls) :
    Unwinds qs (l :: ls)

/-- All requests can be replied to in turn. -/
lemma exists_unwinds (qs : List Request) : ∃ ls, Unwinds qs ls := by
  induction qs with
  | nil => exact ⟨[], .nil⟩
  | cons q qs ih =>
    obtain ⟨ls, rest⟩ := ih
    exact ⟨_, .replied default q (.error default) rest⟩

section Steps

variable {m n : Moment} {l : Label}

/-- A step sends out a request, or takes the reply to the latest one, or leaves the requests as they are. -/
inductive Label.Turns : List Pending → Label → List Pending → Prop
  | asked (s : Stage) (p : Pending) (ps : List Pending) : Turns ps (.asked s p.request) (p :: ps)
  | replied (s : Stage) (p : Pending) (r : Except Fault (Reply p.request)) (ps : List Pending) :
    Turns (p :: ps) (.replied s p.request r) ps
  | other {l : Label} (weight : l.weight = 0) (ps : List Pending) : Turns ps l ps

/-- Each step turns the requests that are out as its label says. -/
lemma Step.turns (step : Step m l n) : l.Turns m.pending n.pending := by
  -- Only asking and replying change which requests are out.
  cases step with
  | work h =>
    obtain ⟨c, ps⟩ := m
    cases c with
    | surroundings s => cases h
    | stage act =>
      cases act with
      | call r =>
        obtain ⟨rfl, rfl⟩ := Prod.mk.inj (Option.some.inj h).symm
        cases r with
        | tell n rest => exact .other rfl ps
        | ask s q k => exact .asked s (.call q k) ps
        | done s r =>
          cases r with
          | error f => exact .other rfl ps
          | ok o =>
            cases o with
            | answer a => exact .other rfl ps
            | run a =>
              dsimp only [Moment.stepCall]
              split
              · exact .other rfl ps
              · exact .other rfl ps
      | run a r =>
        obtain ⟨rfl, rfl⟩ := Prod.mk.inj (Option.some.inj h).symm
        cases r with
        | tell n rest => exact .other rfl ps
        | ask s q k => exact .asked s (.run a q k) ps
        | done s r =>
          cases r with
          | error f => exact .other rfl ps
          | ok u =>
            dsimp only [Moment.stepRun]
            split
            · exact .other rfl ps
            · exact .other rfl ps
  | @enter s ps n c h =>
    obtain ⟨-, e⟩ := Option.ite_none_right_eq_some.mp h
    cases e
    exact .other rfl ps
  | @reply s p ps r => exact .replied s p r ps

end Steps

section Runs

variable {α : Type} {f : Frame α} {m : Moment} {ls : List Label} {ps qs : List Pending} {q : Request}
  {k : Except Fault (Reply q) → Stage → Routine α}

/-- After a request the surroundings reply to it, and the routine goes on, or they have still to do so. -/
lemma Run.excursion (awaits : f.Awaits) {c : Control}
    (run : Run Anything ⟨c, qs ++ f.hold q k :: ps⟩ ls m) :
    (∃ vs t r rest, ls = vs ++ .replied t q r :: rest ∧ Unwinds (qs.map Pending.request) vs ∧
      Run Anything ⟨.stage (f.act (k r t)), ps⟩ rest m) ∨
    ∃ more, Unwinds (qs.map Pending.request) (ls ++ more) := by
  -- On what is seen, whatever else is out: requests that nest are added to those that are out, and taken away.
  induction ls generalizing c qs with
  | nil => exact .inr (exists_unwinds _)
  | cons l ls ih =>
    obtain ⟨⟨c', ps'⟩, step, later⟩ := run.first
    have turns : l.Turns (qs ++ f.hold q k :: ps) ps' := step.turns
    generalize out : qs ++ f.hold q k :: ps = before at turns
    cases turns with
    | asked s p =>
      subst out
      have nested : Run Anything ⟨c', (p :: qs) ++ f.hold q k :: ps⟩ ls m := later
      rcases ih nested with ⟨vs, t, r, rest, rfl, unwinds, goes⟩ | ⟨more, unwinds⟩
      · exact .inl ⟨_, t, r, rest, rfl, .asked s p.request unwinds, goes⟩
      · exact .inr ⟨more, .asked s p.request unwinds⟩
    | replied s p r =>
      cases qs with
      | nil =>
        have control : c = .surroundings s := step.fits
        subst control
        rcases awaits step with ⟨c, called⟩ | ⟨r', e, n⟩
        · cases called
        · rw [n] at later
          exact .inl ⟨[], s, r', ls, by rw [e, List.nil_append], .nil, later⟩
      | cons p' qs =>
        obtain ⟨rfl, rfl⟩ := List.cons.inj out
        rcases ih later with ⟨vs, t, r', rest, rfl, unwinds, goes⟩ | ⟨more, unwinds⟩
        · exact .inl ⟨_, t, r', rest, rfl, .replied s p'.request r unwinds, goes⟩
        · exact .inr ⟨more, .replied s p'.request r unwinds⟩
    | other weight =>
      subst out
      rcases ih later with ⟨vs, t, r, rest, rfl, unwinds, goes⟩ | ⟨more, unwinds⟩
      · exact .inl ⟨_, t, r, rest, rfl, .other weight unwinds, goes⟩
      · exact .inr ⟨more, .other weight unwinds⟩

end Runs

/-! ## Handlers in turn -/

/-- What is seen of an event that is taken to some handlers: each is asked in turn, what it does nests in its request,
and a failure is reported and does not go further. -/
inductive Taken (e : Event) : List HandlerId → List Label → Prop
  | nil : Taken e [] []
  | returned {h : HandlerId} {hs : List HandlerId} {vs ls : List Label} (s t : Stage) (nested : Unwinds [] vs)
    (rest : Taken e hs ls) :
    Taken e (h :: hs) (.asked s (.handle h e) :: (vs ++ .replied t (.handle h e) (.ok ()) :: ls))
  | failed {h : HandlerId} {hs : List HandlerId} {vs ls : List Label} (s t : Stage) (f : Fault)
    (nested : Unwinds [] vs) (rest : Taken e hs ls) :
    Taken e (h :: hs)
      (.asked s (.handle h e) :: (vs ++ .replied t (.handle h e) (.error f) :: .told (.handlerFailed e.kind) :: ls))

/-- An event is taken to some handlers, and then comes what is to be next, if as much has been seen. -/
def Dispatches (e : Event) (hs : List HandlerId) (next : Stage → List Label → Prop) (ls : List Label) : Prop :=
  (∃ seen t rest, ls = seen ++ rest ∧ Taken e hs seen ∧ next t rest) ∨ ∃ more, Taken e hs (ls ++ more)

section Taken

variable {e : Event} {h : HandlerId} {hs : List HandlerId} {ls vs : List Label}
  {next next' : Stage → List Label → Prop}

/-- An event can be taken to any handlers. -/
lemma exists_taken (e : Event) (hs : List HandlerId) : ∃ ls, Taken e hs ls := by
  induction hs with
  | nil => exact ⟨[], .nil⟩
  | cons h hs ih =>
    obtain ⟨ls, rest⟩ := ih
    exact ⟨_, .returned default default .nil rest⟩

/-- Without handlers there is nothing to be seen, and anything may follow. -/
lemma dispatches_nil : Dispatches e hs next [] :=
  .inr (exists_taken e hs)

/-- What follows a dispatch may be known less exactly. -/
lemma Dispatches.mono (imp : ∀ {t rest}, next t rest → next' t rest) (d : Dispatches e hs next ls) :
    Dispatches e hs next' ls :=
  d.imp (fun ⟨seen, t, rest, split, taken, goes⟩ => ⟨seen, t, rest, split, taken, imp goes⟩) id

/-- A handler that returns comes before those that follow. -/
lemma Dispatches.returned (s t : Stage) (nested : Unwinds [] vs) (d : Dispatches e hs next ls) :
    Dispatches e (h :: hs) next (.asked s (.handle h e) :: (vs ++ .replied t (.handle h e) (.ok ()) :: ls)) := by
  rcases d with ⟨seen, u, rest, rfl, taken, goes⟩ | ⟨more, taken⟩
  · exact .inl ⟨_, u, rest, by simp, .returned s t nested taken, goes⟩
  · refine .inr ⟨more, ?_⟩
    have whole := Taken.returned (h := h) s t nested taken
    simpa using whole

/-- A handler that fails is reported, and comes before those that follow all the same. -/
lemma Dispatches.failed (s t : Stage) (f : Fault) (nested : Unwinds [] vs) (d : Dispatches e hs next ls) :
    Dispatches e (h :: hs) next
      (.asked s (.handle h e) :: (vs ++ .replied t (.handle h e) (.error f) :: .told (.handlerFailed e.kind) :: ls)) := by
  rcases d with ⟨seen, u, rest, rfl, taken, goes⟩ | ⟨more, taken⟩
  · exact .inl ⟨_, u, rest, by simp, .failed s t f nested taken, goes⟩
  · refine .inr ⟨more, ?_⟩
    have whole := Taken.failed (h := h) s t f nested taken
    simpa using whole

end Taken

/-- How a routine goes on when a handler has replied: a failure is reported, and then the others are told. -/
def Play.notified {α : Type} (e : Event) (hs : List HandlerId) (k : Unit → Stage → Routine α) :
    Except Fault Unit → Stage → Routine α
  | .ok _, t => (each (notify e) hs t).bind k
  | .error _, t => .tell (.handlerFailed e.kind) ((each (notify e) hs t).bind k)

section Runs

variable {α : Type} {f : Frame α} {m : Moment} {ls : List Label} {ps : List Pending} {e : Event} {s : Stage}
  {k : Unit → Stage → Routine α}

/-- Several handlers are told by asking the first and then going on with the others. -/
lemma Play.each_notify_cons (h : HandlerId) (hs : List HandlerId) :
    (each (notify e) (h :: hs) s).bind k = .ask s (.handle h e) (notified e hs k) := by
  refine congrArg (Routine.ask s (.handle h e)) (funext fun r => funext fun t => ?_)
  cases r with
  | ok u | error f => rfl

/-- Handlers are told in turn, whatever each of them does. -/
lemma Run.each_notify (awaits : f.Awaits) {hs : List HandlerId}
    (run : Run Anything ⟨.stage (f.act ((Play.each (Play.notify e) hs s).bind k)), ps⟩ ls m) :
    Dispatches e hs (fun t rest => Run Anything ⟨.stage (f.act (k () t)), ps⟩ rest m) ls := by
  induction hs generalizing s ls with
  | nil => exact .inl ⟨[], s, ls, rfl, .nil, run⟩
  | cons h hs ih =>
    cases ls with
    | nil => exact dispatches_nil
    | cons l ls =>
      rw [Play.each_notify_cons] at run
      obtain ⟨n, step, later⟩ := run.first
      cases (f.asks s (.handle h e) (Play.notified e hs k) ps).symm.trans step.work_inv
      have after : Run Anything ⟨.surroundings s, [] ++ f.hold (.handle h e) (Play.notified e hs k) :: ps⟩ ls m := later
      rcases after.excursion awaits with ⟨vs, t, r, rest, rfl, nested, goes⟩ | ⟨more, nested⟩
      · cases r with
        | ok u => exact (ih goes).returned s t nested
        | error fault =>
          cases rest with
          | nil =>
            obtain ⟨full, taken⟩ := exists_taken e hs
            exact .inr ⟨.told (.handlerFailed e.kind) :: full, by simpa using Taken.failed s t fault nested taken⟩
          | cons l rest =>
            obtain ⟨n, step, goes⟩ := goes.first
            cases (f.tells (.handlerFailed e.kind) _ ps).symm.trans step.work_inv
            exact (ih goes).failed s t fault nested
      · -- The handler has still to reply. It may do so, and then the others could be told.
        obtain ⟨full, taken⟩ := exists_taken e hs
        exact .inr ⟨more ++ .replied default (.handle h e) (.ok ()) :: full,
          by simpa using Taken.returned s default nested taken⟩

/-- To publish an event is to tell the handlers that are subscribed by then. -/
lemma Play.publish_eq : publish e s = each (notify e) (s.handlers e.kind) s := by
  rw [publish, get_bind, Stage.handlers]
  cases s.bus with
  | none | some bus => rfl

/-- An event that is published is taken to everyone who is subscribed at that moment, and the routine goes on. -/
theorem Run.publish (awaits : f.Awaits)
    (run : Run Anything ⟨.stage (f.act ((Play.publish e s).bind k)), ps⟩ ls m) :
    Dispatches e (s.handlers e.kind) (fun t rest => Run Anything ⟨.stage (f.act (k () t)), ps⟩ rest m) ls := by
  rw [Play.publish_eq] at run
  exact run.each_notify awaits

end Runs

end Parley
