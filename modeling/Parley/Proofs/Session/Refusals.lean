import Parley.Proofs.Session.Company
import Parley.Proofs.Session.Farewell
import Parley.Proofs.Session.Faults
import Parley.Proofs.Session.Pauses

/-!
# Refusals

A call that is to start a session may be refused: there is no agent, another session is going on, or the agent's
dialog has no node to start at. Then it is answered with `false` after nothing but reports, and the stage is left
as it was, except that the third refusal comes too late to save the history. The theorem `refused_of_run` says
so of every run, and that a callback is called only for a session that another call has opened; `forgets` shows
the loss.
-/

namespace Parley

/-- The agent that a call is to start a session with. -/
def Call.agent? : Call → Option AgentId
  | .start a _ _ => some a
  | .initiate a _ => a
  | _ => none

namespace Stage

/-- A call can be answered with `false`. -/
def Refuses (s : Stage) (c : Call) : Prop :=
  (c.play s).Gives (.answer (.flag false))

/-- No session is going on, and an agent has no node to start one at. -/
def Lacks (s : Stage) (a : AgentId) : Prop :=
  s.phase = .idle ∧ (s.agents a).dialog.startNode? = none

/-- The history is cleared before it turns out that there is no node to start at. -/
def Forgets (s : Stage) (c : Call) : Prop :=
  ∃ a, c.agent? = some a ∧ (s.readied c).Lacks a

end Stage

/-- What is seen before and after a call that is refused. -/
structure Refused (before : List Label) (owed : Option Request) (s : Stage) (c : Call) (after : List Label) : Prop where
  unopened : s.opening? c = none
  /-- The call is answered after nothing but reports. -/
  kept : ¬ s.Forgets c → AnsweredAt (s.readied c) (.flag false) after
  lost : s.Forgets c → AnsweredAt { s.readied c with history := [] } (.flag false) after
  /-- A callback is called for the end of a session that another call has opened with it. -/
  others : ∀ {l₁ s' k n l₂}, before ++ .called owed s c :: after = l₁ ++ .asked s' (.onExit k n) :: l₂ →
    Opened n (some k) (before ++ after)

/-! ## The answer -/

section Reports

variable {α β : Type} {s t : Stage} {a : AgentId} {b : α} {onExit : Option Nat}
variable {r : Routine α} {f : α → Stage → Routine β}

/-- Routines that report something at most and are done do so one after another. -/
lemma Routine.Reports.bind {result : Except Fault β} (reports : r.Reports s (.ok b))
    (next : (f b s).Reports t result) : (r.bind f).Reports t result := by
  induction r with
  | ask s' q resume => exact reports.elim
  | tell n rest ih => exact ih reports
  | done s' r =>
    obtain ⟨rfl, rfl⟩ := reports
    exact next

/-- What comes of two routines comes of the second one, if the first only reports. -/
lemma Routine.Reports.gives {c : β} (reports : r.Reports s (.ok b)) (gives : (r.bind f).Gives c) :
    (f b s).Gives c := by
  induction r with
  | ask s' q resume => exact reports.elim
  | tell n rest ih => exact ih reports gives
  | done s' r =>
    obtain ⟨rfl, rfl⟩ := reports
    exact gives

/-- Building a dialog only reports. -/
lemma Play.reports_build (speaker : Text) : ∃ b, (build a speaker s).Reports (s.built a speaker) (.ok b) := by
  obtain ⟨b, play | ⟨failure, play⟩⟩ := build_eq a speaker s
  · exact ⟨b, play ▸ ⟨rfl, rfl⟩⟩
  · exact ⟨b, play ▸ ⟨rfl, rfl⟩⟩

/-- A session that starts is not refused. -/
lemma Play.opens_of_gives (gives : (initiate (some a) onExit s).Gives (.answer (.flag false))) :
    s.opens a onExit = none := by
  cases opens : s.opens a onExit with
  | none => rfl
  | some x =>
    obtain ⟨vars, -, play⟩ := initiate_of_opens opens
    rw [play] at gives
    obtain ⟨_, s', -, gives⟩ := Routine.gives_bind gives
    cases Except.ok.inj gives

/-- A start that is refused only reports, and the stage stays but for the history, if it is the start node that is
missing. -/
lemma Play.reports_initiate (gives : (initiate (some a) onExit s).Gives (.answer (.flag false))) :
    ∃ t, (initiate (some a) onExit s).Reports t (.ok (.answer (.flag false))) ∧ (¬ s.Lacks a → t = s) ∧
      (s.Lacks a → t = { s with history := [] }) := by
  rcases initiate_of_refused (opens_of_gives gives) with ⟨n, play, start⟩ | ⟨play, -⟩
  · refine ⟨s.unopened, play ▸ ⟨rfl, rfl⟩, fun busy => ?_, fun lacks => if_pos lacks.1⟩
    exact if_neg fun idle => busy ⟨idle, start idle⟩
  · rw [play] at gives
    cases gives

end Reports

/-- There are three refusals. -/
lemma Stage.refuses_initiate_iff {s : Stage} {a : Option AgentId} {onExit : Option Nat} :
    s.Refuses (.initiate a onExit) ↔
      a = none ∨ ∃ b, a = some b ∧ (s.phase ≠ .idle ∨ (s.agents b).dialog.startNode? = none) := by
  constructor
  · intro gives
    cases a with
    | none => exact .inl rfl
    | some b =>
      rcases Play.initiate_of_refused (Play.opens_of_gives gives) with ⟨n, -, start⟩ | ⟨play, -⟩
      · exact .inr ⟨b, rfl, or_iff_not_imp_left.mpr fun idle => start (not_not.mp idle)⟩
      · rw [Refuses, Call.play, play] at gives
        cases gives
  · rintro (rfl | ⟨b, rfl, why⟩)
    · rfl
    · have refused : s.opens b onExit = none := by
        rcases why with busy | lacking
        · exact if_neg busy
        · simp [Stage.opens, lacking]
      rcases Play.initiate_of_refused refused with ⟨n, play, -⟩ | ⟨-, idle, start⟩
      · rw [Refuses, Call.play, play]
        rfl
      · exact why.elim (absurd idle) fun lacking => absurd lacking start

/-- A call that is refused only reports something, and opens no session. -/
lemma Call.reports_of_refuses {s : Stage} {c : Call} (starts : c.Starts) (refuses : s.Refuses c) :
    s.opening? c = none ∧ ∃ t, (c.play s).Reports t (.ok (.answer (.flag false))) ∧
      (¬ s.Forgets c → t = s.readied c) ∧ (s.Forgets c → t = { s.readied c with history := [] }) := by
  cases starts with
  | start a speaker onExit =>
    obtain ⟨b, built⟩ := Play.reports_build (s := s) (a := a) speaker
    have gives := built.gives refuses
    obtain ⟨t, reports, kept, lost⟩ := Play.reports_initiate gives
    refine ⟨Play.opens_of_gives gives, t, built.bind reports, fun h => kept fun lacks => h ⟨a, rfl, lacks⟩, ?_⟩
    rintro ⟨_, ⟨⟩, lacks⟩
    exact lost lacks
  | initiate a onExit =>
    cases a with
    | none => exact ⟨rfl, s, ⟨rfl, rfl⟩, fun _ => rfl, fun ⟨_, there, _⟩ => nomatch there⟩
    | some a =>
      obtain ⟨t, reports, kept, lost⟩ := Play.reports_initiate refuses
      refine ⟨Play.opens_of_gives refuses, t, reports, fun h => kept fun lacks => h ⟨a, rfl, lacks⟩, ?_⟩
      rintro ⟨_, ⟨⟩, lacks⟩
      exact lost lacks

/-! ## Callbacks -/

/-- The session that is going on, and each callback that is called, belong to a call that has opened a session. -/
structure Scene.CallsBack (x : Scene) : Prop where
  opened : ∀ y, x.stage.session = some y → Opened y.number y.onExit x.past
  called : ∀ {l₁ s k n l₂}, x.past = l₁ ++ .asked s (.onExit k n) :: l₂ → Opened n (some k) l₁

/-- Callbacks are given with calls that open sessions. -/
def callbacks : Contract where
  rule := Anything
  holds := Scene.CallsBack
  visit x y := x.past <+: y.past
  running x y := y.CallsBack ∧ x.past <+: y.past
  visit_refl x := x.past.prefix_refl
  visit_trans := List.IsPrefix.trans

namespace callbacks

open Play

variable {x y : Scene}

/-- The stage may change, if its session is one that a call has opened. -/
lemma follows_on {s : Stage} (holds : x.CallsBack)
    (opened : ∀ y, s.session = some y → Opened y.number y.onExit x.past) : callbacks.Follows x (x.on s) :=
  ⟨⟨opened, holds.called⟩, x.past.prefix_refl⟩

/-- Something is seen. If a callback is called, it was given with a call. -/
lemma follows_see {l : Label} (holds : x.CallsBack)
    (called : ∀ s k n, l = .asked s (.onExit k n) → Opened n (some k) x.past) : callbacks.Follows x (x.see l) := by
  refine ⟨⟨fun y session => (holds.opened y session).append_right, ?_⟩, List.prefix_append x.past [l]⟩
  intro l₁ s k n l₂ past
  rcases append_singleton_split past with ⟨-, rfl, e⟩ | ⟨l₃, -, front⟩
  · exact called s k n e
  · exact holds.called front

/-- A label that is no request follows. -/
lemma follows_plain {l : Label} (holds : x.CallsBack) (plain : ∀ s q, l ≠ .asked s q) : callbacks.Follows x (x.see l) :=
  follows_see holds fun s k n e => absurd e (plain s (.onExit k n))

/-- Whether the loop is at work or not follows. -/
lemma follows_looping (holds : x.CallsBack) (b : Bool) : callbacks.Follows x (x.looping b) :=
  follows_on holds holds.opened

section Upholds

variable {P : Scene → Prop} (u : callbacks.Upholds P)

include u

/-- A report keeps what is known. -/
lemma tells (n : Notice) : Contract.Tells P n :=
  fun _ known => u.follows known (follows_plain (u.holds known) fun _ _ => Label.noConfusion)

/-- A request keeps what is known, if a callback that it calls has been given with the session. -/
lemma asks_of {q : Request} (called : ∀ x, P x → ∀ k n, q = .onExit k n → Opened n (some k) x.past) :
    callbacks.Asks P P q := by
  refine u.asking (fun x known => follows_see (u.holds known) ?_) fun _ _ holds _ =>
    follows_plain holds fun _ _ => Label.noConfusion
  rintro s k n ⟨⟩
  exact called x known k n rfl

/-- A request that is no callback keeps what is known. -/
lemma asks {q : Request} (plain : ∀ k n, q ≠ .onExit k n) : callbacks.Asks P P q :=
  asks_of u fun _ _ k n e => absurd e (plain k n)

/-- A change that leaves alone which session is going on. -/
lemma changes {f : Stage → Stage}
    (same : ∀ s : Stage, (f s).session.map (fun y => (y.number, y.onExit)) = s.session.map fun y => (y.number, y.onExit)) :
    Contract.Changes P f := by
  intro x known
  refine u.follows known (follows_on (u.holds known) fun y session => ?_)
  have e := same x.stage
  rw [session, Option.map_some] at e
  obtain ⟨y', session', pair⟩ := Option.map_eq_some_iff.mp e.symm
  obtain ⟨number, onExit⟩ := Prod.mk.inj pair
  rw [← number, ← onExit]
  exact (u.holds known).opened y' session'

/-- Consulting the surroundings keeps what is known. -/
lemma consults : callbacks.Consults P where
  told := tells u
  keyword _ _ := asks u nofun
  function _ _ _ := asks u nofun
  called _ _ := carries_announce (tells u) fun _ _ _ _ => asks u nofun
  builtIn name parameter := by
    refine changes u fun s => ?_
    obtain ⟨vars, agents, e⟩ := s.callBuiltIn_eq name parameter
    rw [e]
  written _ _ := changes u fun _ => rfl

/-- Moving from line to line keeps what is known. -/
lemma moves : callbacks.Moves P P where
  weak := id
  reported := tells u
  entered := carries_announce (tells u) fun _ _ _ _ => asks u nofun
  node := Contract.enters fun _ => changes u fun s => by rw [Option.map_map]; rfl
  index _ := changes u fun s => by rw [Option.map_map]; rfl

end Upholds

/-- A call that has opened a session stays seen. -/
lemma upholds_opened {P : Scene → Prop} (u : callbacks.Upholds P) (n : Nat) (c : Option Nat) :
    callbacks.Upholds fun x => P x ∧ Opened n c x.past where
  holds known := u.holds known.1
  follows := by
    rintro x y ⟨known, opened⟩ follows
    obtain ⟨ls, past⟩ := follows.visit
    exact ⟨u.follows known follows, past ▸ opened.append_right⟩

/-- Ending a session calls the callback that it was opened with. -/
lemma carries_endSession {P : Scene → Prop} (u : callbacks.Upholds P) : endSession.Carries callbacks P P := by
  refine fun x known => does_endSession known fun s session => ?_
  -- The session is over before its callback is called, but the call that gave the callback stays seen.
  have opened := (u.holds known).opened s session
  have ended := u.follows known (follows_on (u.holds known) (s := x.stage.ended) nofun)
  have u' := upholds_opened u s.number s.onExit
  refine (carries_tearDown (tells u') (fun _ => asks u' nofun) (fun _ => asks u' nofun) (fun _ _ _ _ => asks u' nofun)
    (fun k callback => asks_of u' ?_) _ ⟨ended, opened⟩).mono fun _ _ known => known.1
  rintro y ⟨-, opened'⟩ _ _ ⟨⟩
  exact callback ▸ opened'

/-- Running a line keeps what is known. -/
lemma carries_runLine {P : Scene → Prop} (u : callbacks.Upholds P) : runLine.Carries callbacks P P := by
  intro x start
  have waits : Contract.Changes P Stage.suspended := changes u fun _ => rfl
  refine does_runLine (consults u) id (moves u) start (fun _ _ => id) (carries_endSession u) ?_ ?_
  · intro y l _ known _
    refine does_askQuery (tells u) (moves u) known (fun _ _ => id) (consults u).toReads (waits y known) (fun _ _ => id) ?_
    intro w p known' _ _
    exact carries_deliverQuery id (tells u) (fun _ _ _ _ => asks u nofun) (fun _ => asks u nofun) w known'
  · intro y l _ known _
    refine does_showLine (consults u).toReads (fun _ => changes u fun _ => rfl) known (fun _ _ => id) ?_
    intro w shown _ known' _
    exact carries_deliver id (tells u) (fun _ _ _ _ => asks u nofun) (fun _ => asks u nofun) (fun _ => asks u nofun) _
      (waits w known')

/-- Every kind of call keeps what is known. -/
lemma takes : callbacks.Takes callbacks.Follows callbacks.Follows where
  moves x := moves (Contract.upholds_follows x)
  told x := tells (Contract.upholds_follows x)
  consults x := consults (Contract.upholds_follows x)
  stays holds _ _ := follows_plain holds fun _ _ => Label.noConfusion
  goesOn {x owed c} holds _ _ := by
    have called : callbacks.Follows x (x.calling owed c) := follows_plain holds fun _ _ => Label.noConfusion
    exact called.trans (follows_on called.holds fun y session => called.holds.opened y session)
  opens {x y owed c a onExit vars session} known past _ opening _ := by
    refine known.trans (follows_on known.holds ?_)
    rintro _ ⟨⟩
    refine ⟨owed, x.stage, c, session, past.subset (List.mem_append_right _ (List.mem_singleton_self _)), opening, rfl, rfl⟩
  ends x := carries_endSession (Contract.upholds_follows x)
  history x := changes (Contract.upholds_follows x) fun _ => rfl
  built x _ _ := changes (Contract.upholds_follows x) fun _ => rfl
  images x _ := asks (Contract.upholds_follows x) nofun
  observed x _ _ := asks (Contract.upholds_follows x) nofun
  started x _ _ _ := asks (Contract.upholds_follows x) nofun
  published x _ _ _ := asks (Contract.upholds_follows x) nofun
  adjusts {x owed change} known := by
    have adjusted := known.trans (follows_on known.holds fun y session =>
      known.holds.opened y ((x.stage.adjust_eq change).2.1 ▸ session))
    exact adjusted.trans (follows_plain adjusted.holds fun _ _ => Label.noConfusion)
  answers known := known.trans (follows_plain known.holds fun _ _ => Label.noConfusion)
  runs {x y} known _ _ := by
    have looping := follows_looping known.holds true
    have turning : callbacks.Follows (y.looping true) (y.looping true).turning :=
      follows_plain looping.holds fun _ _ => Label.noConfusion
    have started := (known.trans looping).trans turning
    exact ⟨started.holds, started.visit⟩

/-- Calls and lines keep the contract. -/
lemma honours : callbacks.Honours where
  call holds keeps := takes.call holds keeps
  line {x y} running _ := by
    have follows : callbacks.Follows x y := ⟨running.1, running.2⟩
    have begun : callbacks.Follows y y.beginning := follows_plain running.1 fun _ _ => Label.noConfusion
    refine (carries_runLine (Contract.upholds_follows x) y.beginning (follows.trans begun)).mono ?_
    intro w r known
    cases r with
    | error f =>
      have looping := follows_looping known.holds false
      exact (known.trans looping).trans (follows_plain looping.holds fun _ _ => Label.noConfusion)
    | ok u => exact ⟨known.holds, known.visit⟩
  rest {x y} running _ a := by
    have follows : callbacks.Follows x y := ⟨running.1, running.2⟩
    have looping := follows_looping running.1 false
    exact (follows.trans looping).trans (follows_plain looping.holds fun _ _ => Label.noConfusion)

end callbacks

/-- A fresh stage has no session, and no callback has been called. -/
lemma Stage.Fresh.callsBack {s : Stage} (fresh : s.Fresh) : (Scene.mk s []).CallsBack where
  opened y session := by
    have vacant : (none : Option Session) = some y := fresh.vacant.symm.trans session
    cases vacant
  called {l₁ s k n l₂} past := absurd past.symm (List.append_ne_nil_of_right_ne_nil l₁ (List.cons_ne_nil _ l₂))

/-- In a run from a fresh stage, a call that is refused leaves the stage as it was, but for the history if there turns
out to be no node to start at. -/
theorem refused_of_run {s₀ s : Stage} {l₁ l₂ : List Label} {owed : Option Request} {c : Call} {m : Moment}
    (fresh : s₀.Fresh) (run : Run Anything (.initial s₀) (l₁ ++ .called owed s c :: l₂) m) (starts : c.Starts)
    (refuses : s.Refuses c) : Refused l₁ owed s c l₂ := by
  obtain ⟨unopened, t, reports, kept, lost⟩ := Call.reports_of_refuses starts refuses
  obtain ⟨n, n', -, step, -, rest⟩ := run.split
  obtain ⟨-, -, rfl⟩ : Label.Fits n n' (.called owed s c) := step.fits
  have answered := reports.answeredAt rest
  refine ⟨unopened, fun h => kept h ▸ answered, fun h => lost h ▸ answered, ?_⟩
  intro before s' k i since e
  rw [e] at run
  have asked : Scene.CallsBack ⟨s', before ++ [.asked s' (.onExit k i)]⟩ :=
    Contract.holds_asked callbacks.honours fresh.callsBack run
  obtain ⟨owed', s'', c', x, mem, opening, session⟩ := asked.called rfl
  refine ⟨owed', s'', c', x, ?_, opening, session⟩
  -- The call is not the one that is refused, because that opens no session.
  have seen : Label.called owed' s'' c' ∈ l₁ ++ .called owed s c :: l₂ := e ▸ List.mem_append_left _ mem
  rcases List.mem_append.mp seen with there | there
  · exact List.mem_append_left _ there
  rcases List.mem_cons.mp there with same | there
  · cases same
    rw [unopened] at opening
    cases opening
  · exact List.mem_append_right _ there

/-- A stage with an agent who has two lines to say, and one who has nothing to say. -/
def duo : Stage where
  agents
    | 0 => { name := ['a'], dialog := { nodes := [{ lines := [{ text := ['b'] }, { text := ['c'] }] }] } }
    | _ => { name := ['d'] }
  presenter := some 0

/-- A line is shown. -/
def opener : List Label × Moment :=
  (Moment.initial duo).rehearse [.call (.initiate (some 0) none), .work, .work, .work]

/-- Another session is asked for while the presenter shows the line. -/
def interruption : List Label × Moment :=
  (Moment.mk (.stage (.call ((Call.initiate (some 1) (some 2)).play opener.2.given))) opener.2.pending).rehearse
    [.work, .work]

/-- The other session is refused. -/
theorem refused_of_interruption : duo.Fresh ∧
    Run Anything (.initial duo)
      (opener.1 ++ .called (Pending.owed? opener.2.pending) opener.2.given (.initiate (some 1) (some 2)) ::
        interruption.1) interruption.2 ∧
    (Call.initiate (some 1) (some 2)).Starts ∧ opener.2.given.Refuses (.initiate (some 1) (some 2)) ∧
    Refused opener.1 (Pending.owed? opener.2.pending) opener.2.given (.initiate (some 1) (some 2)) interruption.1 := by
  have fresh : duo.Fresh := ⟨rfl, rfl, rfl, rfl, rfl, rfl⟩
  have opened : Run Anything (.initial duo) opener.1 opener.2 := Moment.run_rehearse_anything
  have called := opened.enter (by decide +kernel) (.initiate (some 1) (some 2))
  have run := called.rehearse [.work, .work]
  rw [List.append_assoc] at run
  have refuses : opener.2.given.Refuses (.initiate (some 1) (some 2)) :=
    Stage.refuses_initiate_iff.mpr (.inr ⟨1, rfl, .inl (by decide +kernel)⟩)
  exact ⟨fresh, run, .initiate _ _, refuses, refused_of_run fresh run (.initiate _ _) refuses⟩

/-- A session is killed as its first line is shown. -/
def hush : List Label × Moment :=
  (Moment.initial duo).rehearse [.call (.initiate (some 0) none), .work, .work, .work, .call .kill, .work, .reply,
    .work, .reply, .work]

/-- When the session is over, one with an agent who has nothing to say is refused, and the history is gone. -/
theorem forgets : ∃ before s n t m, duo.Fresh ∧
    Run Anything (.initial duo)
      (before ++ [.called none s (.initiate (some 1) none)] ++ [.told n] ++ [.answered t (.ok (.flag false))]) m ∧
    s.history = [[]] ∧ t.history = [] := by
  have finished : hush.2 = ⟨.surroundings hush.2.given, []⟩ := Moment.eq_of_isOver (by decide +kernel)
  have idle : hush.2.given.phase = .idle := by decide +kernel
  have lacking : (hush.2.given.agents 1).dialog.startNode? = none := by decide +kernel
  have opens : hush.2.given.opens 1 none = none := by simp [Stage.opens, lacking]
  obtain ⟨n, play, -⟩ | ⟨-, -, start⟩ := Play.initiate_of_refused opens
  · have hushed : Run Anything (.initial duo) hush.1 hush.2 := Moment.run_rehearse_anything
    rw [finished] at hushed
    have called := hushed.snoc (.enter (.initiate (some 1) none) rfl) trivial
    rw [Call.play, play] at called
    refine ⟨hush.1, hush.2.given, n, hush.2.given.unopened, _, ⟨rfl, rfl, rfl, rfl, rfl, rfl⟩,
      (called.snoc (.work rfl) trivial).snoc (.work rfl) trivial, by decide +kernel, ?_⟩
    rw [Stage.unopened, if_pos idle]
  · exact absurd lacking start

end Parley
