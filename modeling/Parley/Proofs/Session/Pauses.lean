import Parley.Proofs.Session.Rehearsal

/-!
# Pauses

A session goes on from each of its pauses once at most. A pause is known by its ticket, which is handed out
with a line or a query; a call that comes with the ticket of any other pause is turned away and changes
nothing. The tickets that have been handed out or used so far are bounded by the stage's own, and that one
is good only while its pause lasts. `goesOn_once` closes the file.
-/

namespace Parley

/-- The ticket that goes out with an event. -/
def Event.ticket? : Event → Option Ticket
  | ⟨.queryStarted, some _, .query _ _ p⟩ => some p.ticket
  | _ => none

/-- The ticket that goes out with a request. -/
def Request.ticket? : Request → Option Ticket
  | .show _ _ t | .observeLine _ _ t => some t
  | .query _ p => some p.ticket
  | .handle _ e => e.ticket?
  | _ => none

/-- A call goes on from the pause of a ticket. -/
def Label.Uses (t : Ticket) : Label → Prop
  | .called _ s c => s.GoesOn c ∧ s.ticket = t
  | _ => False

/-- What is seen of a call that is turned away, as far as it is seen: there are some reports, and then an
answer is given with the stage as it was. -/
def TurnedAway (s : Stage) (ls : List Label) : Prop :=
  ∃ (notices : List Notice) (a : Answer),
    notices.map .told ++ [.answered s (.ok a)] <+: ls ∨ ls <+: notices.map .told

/-- Each pause is gone on from once at most, and only while it lasts. -/
structure GoesOnOnce (ls : List Label) : Prop where
  /-- No two calls go on from one pause. -/
  once : ls.Pairwise fun l l' => ∀ t, l.Uses t → ¬ l'.Uses t
  /-- A call goes on from the pause of a ticket that was handed out only in the session in which it was
  handed out, and only while no other line has been begun. -/
  lasting : ∀ {l₁ l₂ l₃ s q owed s' c}, ls = l₁ ++ .asked s q :: l₂ ++ .called owed s' c :: l₃ →
    s'.GoesOn c → q.ticket? = s'.ticketOf? c →
    s'.session.map Session.number = s.session.map Session.number ∧ ∀ l ∈ l₂, ¬ l.Begins
  /-- Any other call that comes with a ticket is turned away. -/
  others : ∀ {l₁ owed s c l₂}, ls = l₁ ++ .called owed s c :: l₂ → s.ticketOf? c ≠ none → ¬ s.GoesOn c →
    TurnedAway s l₂

/-! ## The contract -/

/-- Tickets that have been used or handed out are not ahead of the stage. The ticket of the stage has not
been used, and while the stage waits it belongs to the line that was begun last. -/
structure Scene.Keeps (x : Scene) : Prop where
  sound : x.stage.Sound
  used : ∀ l ∈ x.past, ∀ t, l.Uses t → t < x.stage.ticket
  handed : ∀ {l₁ s q l₂ t}, x.past = l₁ ++ .asked s q :: l₂ → q.ticket? = some t →
    t ≤ x.stage.ticket ∧ (t = x.stage.ticket → x.stage.phase = .awaiting →
      x.stage.session.map Session.number = s.session.map Session.number ∧ ∀ l ∈ l₂, ¬ l.Begins)

/-- The tickets are kept in order. -/
def pauses : Contract where
  rule := Anything
  holds := Scene.Keeps
  visit x y := x.stage.ticket ≤ y.stage.ticket
  running x y := y.Keeps ∧ x.stage.ticket ≤ y.stage.ticket
  visit_refl x := Nat.le_refl x.stage.ticket
  visit_trans := Nat.le_trans

namespace pauses

open Play

variable {x y : Scene}

/-- The stage changes. If it waits afterwards, it waits as before or in a new pause. -/
lemma follows_on {s : Stage} (keeps : x.Keeps) (sound : s.Sound) (ticket : x.stage.ticket ≤ s.ticket)
    (same : s.ticket = x.stage.ticket → s.phase = .awaiting →
      x.stage.phase = .awaiting ∧ s.session.map Session.number = x.stage.session.map Session.number) :
    pauses.Follows x (x.on s) := by
  refine ⟨⟨sound, ?_, ?_⟩, ticket⟩
  · intro l mem t uses
    exact Nat.lt_of_lt_of_le (keeps.used l mem t uses) ticket
  · intro l₁ s' q l₂ t past handed
    obtain ⟨bound, current⟩ := keeps.handed past handed
    refine ⟨Nat.le_trans bound ticket, ?_⟩
    intro e awaiting
    -- A ticket that was handed out can only be the stage's own if that has not moved on.
    have unchanged : s.ticket = x.stage.ticket := Nat.le_antisymm (e ▸ bound) ticket
    obtain ⟨before, number⟩ := same unchanged awaiting
    obtain ⟨number', last⟩ := current (e.trans unchanged) before
    exact ⟨number.trans number', last⟩

/-- Something is seen. A request comes with no ticket of a later pause, and a line is begun only when the
stage does not wait. -/
lemma follows_see {l : Label} (keeps : x.Keeps) (used : ∀ t, l.Uses t → t < x.stage.ticket)
    (handed : ∀ s q t, l = .asked s q → q.ticket? = some t → s = x.stage ∧ t ≤ x.stage.ticket)
    (begins : l.Begins → x.stage.phase ≠ .awaiting) : pauses.Follows x (x.see l) := by
  refine ⟨⟨keeps.sound, ?_, ?_⟩, Nat.le_refl _⟩
  · intro l' mem t uses
    rcases List.mem_append.mp mem with mem | mem
    · exact keeps.used l' mem t uses
    · exact used t (List.mem_singleton.mp mem ▸ uses)
  · intro l₁ s q l₂ t past ticket
    rcases append_singleton_split past with ⟨rfl, -, last⟩ | ⟨l₃, rfl, front⟩
    · obtain ⟨same, bound⟩ := handed s q t last ticket
      subst same
      refine ⟨bound, fun _ _ => ⟨rfl, ?_⟩⟩
      exact fun _ mem => absurd mem List.not_mem_nil
    · obtain ⟨bound, current⟩ := keeps.handed front ticket
      refine ⟨bound, ?_⟩
      intro e awaiting
      obtain ⟨number, last⟩ := current e awaiting
      refine ⟨number, ?_⟩
      intro l' mem
      rcases List.mem_append.mp mem with mem | mem
      · exact last l' mem
      · obtain rfl := List.mem_singleton.mp mem
        exact fun begins' => begins begins' awaiting

/-- A label that uses no ticket, asks nothing and begins no line follows. -/
lemma follows_plain {l : Label} (keeps : x.Keeps) (used : ∀ t, ¬ l.Uses t) (asked : ∀ s q, l ≠ .asked s q)
    (begins : ¬ l.Begins) : pauses.Follows x (x.see l) :=
  follows_see keeps (fun t uses => absurd uses (used t)) (fun s q _ e => absurd e (asked s q))
    fun b => absurd b begins

/-- What follows from a scene, once tickets up to a certain one may be handed out. -/
structure After (z : Scene) (t : Ticket) (x : Scene) : Prop where
  follows : pauses.Follows z x
  reached : t ≤ x.stage.ticket

variable {z : Scene} {t : Ticket}

/-- What follows further on has the ticket still behind it. -/
lemma After.step (known : After z t x) (follows : pauses.Follows x y) : After z t y :=
  ⟨known.follows.trans follows, Nat.le_trans known.reached follows.visit⟩

/-- The tickets are in order wherever they have been followed to. -/
lemma After.keeps (known : After z t x) : x.Keeps :=
  known.follows.holds

/-- The tickets stay in order when something is reported. -/
lemma tells (n : Notice) : Contract.Tells (After z t) n :=
  fun _ known => known.step (follows_plain known.keeps (fun _ => id) (fun _ _ => Label.noConfusion) id)

/-- The tickets stay in order when a request goes out with one that is not ahead. -/
lemma asks {q : Request} (bound : ∀ t', q.ticket? = some t' → t' ≤ t) :
    pauses.Asks (After z t) (After z t) q := by
  intro x known
  have asking : pauses.Follows x (x.asking q) := by
    refine follows_see known.keeps (fun _ => False.elim) ?_ False.elim
    intro s q' t' e ticket
    cases e
    exact ⟨rfl, Nat.le_trans (bound t' ticket) known.reached⟩
  refine ⟨asking.holds, ?_⟩
  intro y r back _
  have visited := (known.step asking).step (back.follows asking.holds)
  exact visited.step (follows_plain visited.keeps (fun _ => id) (fun _ _ => Label.noConfusion) id)

/-- The tickets stay in order when a request goes out without one. -/
lemma asks_plain {q : Request} (plain : q.ticket? = none) : pauses.Asks (After z t) (After z t) q := by
  refine asks fun t' ticket => ?_
  rw [plain] at ticket
  cases ticket

/-- The tickets stay in order when a handler is told of anything but a query. -/
lemma asks_handle {h : HandlerId} {e : Event} (other : e.kind ≠ .queryStarted ∨ e.session = none) :
    pauses.Asks (After z t) (After z t) (.handle h e) := by
  refine asks_plain ?_
  change e.ticket? = none
  unfold Event.ticket?
  split
  · rcases other with other | other
    · exact absurd rfl other
    · cases other
  · rfl

/-- A change that leaves alone which session is going on and whether it waits. -/
lemma changes {f : Stage → Stage} (alike : ∀ s : Stage, s.Alike (f s)) (phase : ∀ s, (f s).phase = s.phase)
    (ticket : ∀ s, (f s).ticket = s.ticket) : Contract.Changes (After z t) f := by
  intro x known
  have sound := known.keeps.sound.alike (alike x.stage)
  refine known.step (follows_on known.keeps sound (Nat.le_of_eq (ticket x.stage).symm) ?_)
  intro _ awaiting
  exact ⟨phase x.stage ▸ awaiting, (alike x.stage).number⟩

/-- The tickets stay in order when members are consulted. -/
lemma consults : pauses.Consults (After z t) where
  told := tells
  keyword _ _ := asks_plain rfl
  function _ _ _ := asks_plain rfl
  called _ _ := carries_announce tells fun _ _ _ _ => asks_handle (.inl EventKind.noConfusion)
  builtIn name parameter := by
    refine changes (fun s => ?_) (fun s => ?_) fun s => ?_
    all_goals obtain ⟨vars, agents, e⟩ := s.callBuiltIn_eq name parameter
    all_goals rw [e]
    exact ⟨.rfl, rfl, rfl⟩
  written key value := changes (fun s => ⟨.rfl, rfl, rfl⟩) (fun s => rfl) fun s => rfl

/-- The tickets stay in order when a session moves from line to line. -/
lemma moves : pauses.Moves (After z t) (After z t) where
  weak := id
  reported := tells
  entered := carries_announce tells fun _ _ _ _ => asks_handle (.inl EventKind.noConfusion)
  node := Contract.enters fun _ => changes (fun s => s.alike_moved fun _ => rfl) (fun _ => rfl) fun _ => rfl
  index _ := changes (fun s => s.alike_moved fun _ => rfl) (fun _ => rfl) fun _ => rfl

/-- The tickets stay in order when a session ends. -/
lemma carries_endSession : endSession.Carries pauses (After z t) (After z t) := by
  refine Play.carries_endSession ?_ fun s => carries_tearDown tells ?_ ?_ ?_ ?_
  · intro x known
    refine known.step (follows_on known.keeps x.stage.sound_ended (Nat.le_succ _) fun same => ?_)
    exact absurd same (Nat.succ_ne_self x.stage.ticket)
  · exact fun p => asks_plain rfl
  · exact fun o => asks_plain rfl
  · exact fun h e kind _ => asks_handle (.inl (by rw [kind]; decide))
  · exact fun c _ => asks_plain rfl

/-- A session that is going on begins to wait; the ticket of the new pause is ahead of all others. -/
lemma After.suspended (known : After z t x) (going : x.stage.session ≠ none) :
    After z (x.stage.ticket + 1) (x.on x.stage.suspended) := by
  have sound := known.keeps.sound
  have waits : pauses.Follows x (x.on x.stage.suspended) :=
    follows_on known.keeps (sound.alike (sound.alike_suspended going)) (Nat.le_succ _) fun same =>
      absurd same (Nat.succ_ne_self x.stage.ticket)
  exact ⟨(known.step waits).follows, Nat.le_refl _⟩

/-- The tickets stay in order when a line is run. -/
lemma carries_runLine : runLine.Carries pauses (After z 0) (After z 0) := by
  intro x start
  have weak {t : Ticket} {y : Scene} (known : After z t y) : After z 0 y := ⟨known.follows, Nat.zero_le _⟩
  refine does_runLine consults id moves start (fun _ _ => id) carries_endSession ?_ ?_
  · intro y l _ known running
    have going := known.keeps.sound.going running (by decide)
    refine does_askQuery tells moves known (fun _ _ => id) consults.toReads (known.suspended going)
      (fun _ _ => weak) ?_
    intro w p waits _ gives
    have bound (t' : Ticket) (e : some p.ticket = some t') : t' ≤ y.stage.ticket + 1 := by
      cases e
      exact Nat.le_of_eq (prompt_of_gives gives).2
    refine (carries_deliverQuery id tells ?_ ?_).weaken weak w waits
    · exact fun h k agent node => asks bound
    · exact fun q => asks bound
  · intro y l _ known running
    have noted (name : Text) :
        Contract.Changes (After z 0) fun s => { s with history := s.history ++ [name] } :=
      changes (fun s => ⟨.rfl, rfl, rfl⟩) (fun s => rfl) fun s => rfl
    refine does_showLine consults.toReads noted known (fun _ _ => id) ?_
    intro w shown going known' _
    have bound (t' : Ticket) (e : some (w.stage.ticket + 1) = some t') : t' ≤ w.stage.ticket + 1 := by
      cases e
      exact Nat.le_refl _
    refine (carries_deliver id tells ?_ ?_ ?_).weaken weak _ (known'.suspended going)
    · exact fun h k agent node => asks_handle (.inl EventKind.noConfusion)
    · exact fun p => asks bound
    · exact fun o => asks bound

/-- A call goes on from a pause, and uses up its ticket. -/
lemma follows_resumed {owed : Option Request} {c : Call} (keeps : x.Keeps) (goes : x.stage.GoesOn c) :
    pauses.Follows x ((x.calling owed c).on x.stage.resumed) := by
  have resumed : pauses.Follows x (x.on x.stage.resumed) :=
    follows_on keeps (keeps.sound.alike (Stage.alike_resumed goes.1)) (Nat.le_succ _) fun same =>
      absurd same (Nat.succ_ne_self x.stage.ticket)
  have seen : pauses.Follows (x.on x.stage.resumed)
      ((x.on x.stage.resumed).see (.called owed x.stage c)) := by
    refine follows_see resumed.holds ?_ (fun s q _ e => absurd e Label.noConfusion) False.elim
    rintro t ⟨-, rfl⟩
    exact Nat.lt_succ_self x.stage.ticket
  exact resumed.trans seen

/-- An answer follows. -/
lemma follows_answering {r : Except Fault Answer} (keeps : x.Keeps) : pauses.Follows x (x.answering r) :=
  follows_plain keeps (fun _ => id) (fun _ _ => Label.noConfusion) id

/-- Whether the loop is at work or not follows. -/
lemma follows_looping (b : Bool) (keeps : x.Keeps) : pauses.Follows x (x.looping b) :=
  follows_on keeps (keeps.sound.alike ⟨.rfl, rfl, rfl⟩) (Nat.le_refl _) fun _ awaiting => ⟨awaiting, rfl⟩

/-- Every kind of call keeps the tickets in order. -/
lemma takes : pauses.Takes (fun x => After x 0) fun x => After x 0 where
  moves _ := moves
  told _ := tells
  consults _ := consults
  stays {x owed c} keeps _ stays := by
    have called : pauses.Follows x (x.calling owed c) := by
      refine follows_plain keeps ?_ (fun _ _ => Label.noConfusion) id
      exact fun t uses => stays uses.1
    exact ⟨called, Nat.zero_le _⟩
  goesOn keeps _ goes := ⟨follows_resumed keeps goes, Nat.zero_le _⟩
  opens {x y owed c a onExit vars session} known _ _ _ opens := by
    refine known.step (follows_on known.keeps (Stage.Sound.opened opens) (Nat.le_refl _) ?_)
    intro _ awaiting
    cases awaiting
  ends _ := carries_endSession
  history _ := changes (fun s => ⟨.rfl, rfl, rfl⟩) (fun s => rfl) fun s => rfl
  built _ a speaker := changes (fun s => ⟨.rfl, rfl, rfl⟩) (fun s => rfl) fun s => rfl
  images _ _ := asks_plain rfl
  observed _ _ _ := asks_plain rfl
  started _ h e kind := asks_handle (.inl (by rcases kind with kind | kind <;> rw [kind] <;> decide))
  published _ h e session := asks_handle (.inr session)
  adjusts {x owed change} known := by
    obtain ⟨phase, session, -, ticket, -⟩ := x.stage.adjust_eq change
    have sound := known.keeps.sound.alike (x.stage.alike_adjust change)
    have changed := follows_on known.keeps sound (Nat.le_of_eq ticket.symm) fun _ awaiting =>
      ⟨phase ▸ awaiting, congrArg (Option.map Session.number) session⟩
    exact (known.follows.trans changed).trans (follows_answering changed.holds)
  answers known := known.follows.trans (follows_answering known.keeps)
  runs {x y} known _ _ := by
    have looping := follows_looping true known.keeps
    have turning : pauses.Follows (y.looping true) (y.looping true).turning :=
      follows_plain looping.holds (fun _ => id) (fun _ _ => Label.noConfusion) id
    have started := (known.follows.trans looping).trans turning
    exact ⟨started.holds, started.visit⟩

/-- Calls and lines keep the contract. -/
lemma honours : pauses.Honours where
  call keeps rule := takes.call keeps rule
  line {x y} running phase := by
    have follows : pauses.Follows x y := ⟨running.1, running.2⟩
    have begun : pauses.Follows y y.beginning := by
      refine follows_see follows.holds (fun _ => False.elim) (fun s q _ e => absurd e Label.noConfusion) ?_
      intro _
      rw [phase]
      decide
    refine (carries_runLine y.beginning ⟨follows.trans begun, Nat.zero_le _⟩).mono ?_
    intro w r known
    cases r with
    | error f =>
      have looping := follows_looping false known.keeps
      exact (known.follows.trans looping).trans (follows_answering looping.holds)
    | ok u => exact ⟨known.keeps, known.follows.visit⟩
  rest {x y} running _ a := by
    have looping := follows_looping false running.1
    have follows : pauses.Follows x y := ⟨running.1, running.2⟩
    exact (follows.trans looping).trans (follows_answering looping.holds)

end pauses

/-! ## Calls that are turned away -/

/-- A routine that reports something at most, and then answers a call with the stage as it is. -/
def Routine.Declines (s : Stage) : Routine Outcome → Prop
  | .done s' (.ok (.answer _)) => s' = s
  | .tell _ rest => rest.Declines s
  | _ => False

/-- A ticket that is not good is reported, and nothing else is done. -/
lemma Play.resume_eq {s : Stage} {ticket : Ticket} {link : Text}
    (stays : ¬ (ticket = s.ticket ∧ s.phase = .awaiting)) :
    Play.resume ticket link s = .tell .nothingAwaiting (.done s (.ok false)) := by
  change (if ticket = s.ticket && s.phase = .awaiting then _ else _ : Play Bool) s = _
  rw [if_neg (by simpa using stays)]
  rfl

/-- A call with a ticket that is not good is declined. -/
lemma Play.declines_resume {s : Stage} {ticket : Ticket} {link : Text} {a : Bool → Answer}
    (stays : ¬ (ticket = s.ticket ∧ s.phase = .awaiting)) :
    ((Play.resume ticket link >>= fun b => pure (Play.outcome (a b) b) : Play Outcome) s).Declines s := by
  change Routine.Declines s (Routine.bind (Play.resume ticket link s) _)
  rw [Play.resume_eq stays]
  rfl

/-- A call that comes with a ticket and does not go on from a pause changes nothing. -/
lemma Call.declines {s : Stage} {c : Call} (ticket : s.ticketOf? c ≠ none) (stays : ¬ s.GoesOn c) :
    (c.play s).Declines s := by
  cases c with
  | advance link => exact Play.declines_resume fun h => stays ⟨h.2, rfl⟩
  | resume t link =>
    refine Play.declines_resume (a := fun _ => .nothing) fun h => stays ⟨h.2, ?_⟩
    exact congrArg some h.1
  | respond p label =>
    have stays : ¬ (p.ticket = s.ticket ∧ s.phase = .awaiting) := fun h => stays ⟨h.2, congrArg some h.1⟩
    change Routine.Declines s (Routine.bind ((if p.ticket ≠ s.ticket then _ else _ : Play Bool) s) _)
    by_cases stale : p.ticket ≠ s.ticket
    · rw [if_pos stale]
      rfl
    · rw [if_neg stale]
      cases p.link? label with
      | some link => exact Play.declines_resume (a := fun _ => .nothing) stays
      | none => exact Play.declines_resume (a := fun _ => .nothing) stays
  | _ => exact absurd rfl ticket

/-- A step inside the stage is the one that its routine takes. -/
lemma Step.work_inv {act : Activity} {ps : List Pending} {l : Label} {n : Moment}
    (step : Step ⟨.stage act, ps⟩ l n) : Moment.work? ⟨.stage act, ps⟩ = some (l, n) := by
  cases step with
  | work h => exact h

/-- A routine that reports something at most, and is then done. -/
def Routine.Reports {α : Type} (s : Stage) (result : Except Fault α) : Routine α → Prop
  | .done s' r => s' = s ∧ r = result
  | .tell _ rest => rest.Reports s result
  | .ask _ _ _ => False

/-- What is seen of a call that is answered after nothing but reports, as far as it is seen. -/
def AnsweredAt (s : Stage) (a : Answer) (ls : List Label) : Prop :=
  ∃ notices : List Notice, notices.map .told ++ [.answered s (.ok a)] <+: ls ∨ ls <+: notices.map .told

/-- A call has been answered so far as it is seen, if nothing is seen of it. -/
lemma AnsweredAt.nil {s : Stage} {a : Answer} : AnsweredAt s a [] :=
  ⟨[], .inr List.nil_prefix⟩

/-- A report may come before an answer. -/
lemma AnsweredAt.told {s : Stage} {a : Answer} {ls : List Label} (n : Notice) (h : AnsweredAt s a ls) :
    AnsweredAt s a (.told n :: ls) := by
  obtain ⟨notices, h⟩ := h
  refine ⟨n :: notices, ?_⟩
  rcases h with whole | part
  · exact .inl (List.cons_prefix_cons.mpr ⟨rfl, whole⟩)
  · exact .inr (List.cons_prefix_cons.mpr ⟨rfl, part⟩)

/-- A routine that reports and is done answers its call with the stage as it was. -/
lemma Routine.Reports.answeredAt {s : Stage} {a : Answer} {r : Routine Outcome} {ps : List Pending} {ls : List Label}
    {k : Moment} (reports : r.Reports s (.ok (.answer a))) (run : Run Anything ⟨.stage (.call r), ps⟩ ls k) :
    AnsweredAt s a ls := by
  induction r generalizing ls k with
  | ask s' q resume => exact reports.elim
  | tell n rest ih =>
    cases ls with
    | nil => exact .nil
    | cons l ls =>
      obtain ⟨n', step, run⟩ := run.first
      cases step.work_inv
      exact .told n (ih reports run)
  | done s' result =>
    cases ls with
    | nil => exact .nil
    | cons l ls =>
      obtain ⟨n', step, run⟩ := run.first
      obtain ⟨rfl, rfl⟩ := reports
      cases step.work_inv
      exact ⟨[], .inl (List.prefix_append [_] ls)⟩

/-- A routine that declines reports something at most. -/
lemma Routine.Declines.reports {s : Stage} {r : Routine Outcome} (declines : r.Declines s) :
    ∃ a, r.Reports s (.ok (.answer a)) := by
  induction r with
  | ask s' q resume => exact declines.elim
  | tell n rest ih => exact ih declines
  | done s' result =>
    cases result with
    | error e => exact declines.elim
    | ok o =>
      cases o with
      | run a => exact declines.elim
      | answer a => exact ⟨a, declines, rfl⟩

/-- A call that is declined is turned away. -/
lemma Routine.Declines.turnedAway {s : Stage} {r : Routine Outcome} {ps : List Pending} {ls : List Label}
    {k : Moment} (declines : r.Declines s) (run : Run Anything ⟨.stage (.call r), ps⟩ ls k) :
    TurnedAway s ls := by
  obtain ⟨a, reports⟩ := declines.reports
  obtain ⟨notices, seen⟩ := reports.answeredAt run
  exact ⟨notices, a, seen⟩

/-- What is seen is related to all that was seen before it. -/
lemma pairwise_of_before {R : Label → Label → Prop} {ls : List Label}
    (h : ∀ l₁ l l₂, ls = l₁ ++ l :: l₂ → ∀ l' ∈ l₁, R l' l) : ls.Pairwise R := by
  induction ls using List.reverseRecOn with
  | nil => exact .nil
  | append_singleton ls l ih =>
    refine List.pairwise_append.mpr ⟨ih ?_, List.pairwise_singleton R l, ?_⟩
    · intro l₁ l' l₂ e
      refine h l₁ l' (l₂ ++ [l]) ?_
      rw [e, List.append_assoc, List.cons_append]
    · intro l' mem l'' mem'
      rw [List.mem_singleton.mp mem']
      exact h ls l [] rfl l' mem

/-- The tickets of a fresh stage are in order. -/
lemma Stage.Fresh.keeps {s : Stage} (fresh : s.Fresh) : (Scene.mk s []).Keeps := by
  refine ⟨fresh.sound, ?_, ?_⟩
  · exact fun _ mem => absurd mem List.not_mem_nil
  · intro l₁ s' q l₂ t past
    exact absurd past.symm (List.append_ne_nil_of_right_ne_nil l₁ (List.cons_ne_nil _ l₂))

/-- Each pause of a run from a fresh stage is gone on from once at most, and only while it lasts. -/
theorem goesOn_once {s : Stage} {ls : List Label} {m : Moment} (fresh : s.Fresh)
    (run : Run Anything (.initial s) ls m) : GoesOnOnce ls where
  once := by
    refine pairwise_of_before ?_
    rintro l₁ l l₂ rfl l' mem t uses' uses
    cases l with
    | called owed s' c =>
      -- The earlier call has used a ticket behind the one that this call goes on from.
      have keeps : Scene.Keeps ⟨s', l₁⟩ := Contract.holds_called pauses.honours fresh.keeps run
      obtain ⟨-, rfl⟩ := uses
      exact absurd (keeps.used l' mem s'.ticket uses') (Nat.lt_irrefl s'.ticket)
    | _ => exact uses.elim
  lasting := by
    rintro l₁ l₂ l₃ s₁ q owed s' c rfl goes ticket
    have keeps : Scene.Keeps ⟨s', l₁ ++ .asked s₁ q :: l₂⟩ :=
      Contract.holds_called pauses.honours fresh.keeps run
    exact (keeps.handed rfl (ticket.trans goes.2)).2 rfl goes.1
  others := by
    rintro l₁ owed s' c l₂ rfl ticket stays
    obtain ⟨n, n', -, step, -, rest⟩ := run.split
    obtain ⟨-, -, rfl⟩ : Label.Fits n n' (.called owed s' c) := step.fits
    exact (Call.declines ticket stays).turnedAway rest

/-- The first ticket is used twice, and the second time is after the second line has been shown. -/
def encore : List Label × Moment :=
  (Moment.initial monologue).rehearse [.call (.initiate (some 0) none), .work, .work, .work, .reply, .work,
    .work, .call (.resume 1 []), .work, .work, .work, .reply, .work, .work, .call (.resume 1 []), .work, .work]

/-- The second use of the ticket is turned away. -/
theorem goesOn_once_encore : monologue.Fresh ∧ Run Anything (.initial monologue) encore.1 encore.2 ∧
    GoesOnOnce encore.1 := by
  have anything (past : List Label) (l : Label) (_ : past.all (fun _ => true) = true) (_ : true = true) :
      Anything past l := trivial
  have run : Run Anything (.initial monologue) encore.1 encore.2 :=
    Moment.run_rehearse anything (by decide +kernel)
  exact ⟨fresh_monologue, run, goesOn_once fresh_monologue run⟩

end Parley
