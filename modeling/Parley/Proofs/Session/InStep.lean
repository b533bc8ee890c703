import Parley.Proofs.Session.Calls
import Parley.Proofs.Session.Rehearsal

/-!
# In step

Which line a session is at while a line is at work. A line is fetched when it is begun, and the stage keeps
to it even if a function that it calls ends the session and starts another one. So what is handed to a
presenter is the current line exactly as long as no session has been opened since the line was begun; and a
session begins at the first line of its node, unless it came back from a function of somebody else's line.
`keepsStep` closes the file, and `session_begins_late` shows a session that misses its first line.
-/

namespace Parley

/-- Handlers are told of a line or a query. -/
def Request.announces : Request → Bool
  | .handle _ e => (e.kind == .lineStarted || e.kind == .queryStarted) && e.session.isSome
  | _ => false

/-- A function of a line is called, or handlers are told of that. -/
def Request.isInner : Request → Bool
  | .function _ _ _ => true
  | .handle _ e => e.kind == .functionCalled && e.session.isSome
  | _ => false

/-- What is handed out is a line, or the query of a line, with its keywords replaced. -/
def Request.Presents (line : Line) : Request → Prop
  | .show _ shown _ => (Play.expandLine line).Gives shown
  | .query _ prompt => (Play.expandQuery line.query prompt.ticket).Gives prompt
  | _ => True

/-- A handler has just been told of a line or a query. -/
def Hushed (past : List Label) : Prop :=
  ∃ s q, past.getLast? = some (.asked s q) ∧ q.announces = true

/-- Handlers of lines and queries do not turn to the stage. -/
def Reticent : Rule
  | past, .called _ _ _ => ¬ Hushed past
  | _, _ => True

/-- A call opens a session. -/
def Opens (ls : List Label) : Prop :=
  ∃ owed s c x, .called owed s c ∈ ls ∧ s.opening? c = some x

/-- A call opened the session as it is now. -/
def JustOpened (x : Session) (past : List Label) : Prop :=
  ∃ owed s c, .called owed s c ∈ past ∧ s.opening? c = some x

/-- A line of a session has been begun. -/
def HasBegun (n : Nat) (past : List Label) : Prop :=
  ∃ s x, .began s ∈ past ∧ s.session = some x ∧ x.number = n

/-- A session was going on when a function of a line came back. -/
def CameBack (n : Nat) (past : List Label) : Prop :=
  ∃ s q r x, .replied s q r ∈ past ∧ q.isInner = true ∧ s.session = some x ∧ x.number = n

/-- What has been handed to a presenter is the line that was begun last. The session is still at it if no
session has been opened since, and otherwise it is another session. -/
def Presented (past : List Label) (s : Stage) (q : Request) : Prop :=
  ∃ before s₀ since line, past = before ++ .began s₀ :: since ∧ (∀ l ∈ since, ¬ l.Begins) ∧
    s₀.currentLine? = some line ∧ q.Presents line ∧
    (¬ Opens since → s.session = s₀.session ∧ s.currentLine? = some line) ∧
    (Opens since → s.session.map Session.number ≠ s₀.session.map Session.number)

/-- Lines are handed out and begun in step with their sessions, as far as functions leave them alone. -/
structure KeepsStep (ls : List Label) : Prop where
  presented : ∀ {l₁ s q l₂}, ls = l₁ ++ .asked s q :: l₂ → q.handsOut = true → Presented l₁ s q
  /-- When a line is begun, its session has begun before, or came back from a function, or is at the first
  line of the node at which it was opened. -/
  begun : ∀ {l₁ s l₂}, ls = l₁ ++ .began s :: l₂ → ∃ x, s.session = some x ∧
    (HasBegun x.number l₁ ∨ CameBack x.number l₁ ∨ x.index = 0 ∧ JustOpened x l₁)

section Past

variable {n : Nat} {x : Session} {l : Label} {ls ls' past : List Label}

/-- What opens a session still does with more behind it. -/
lemma Opens.append_right (h : Opens ls) : Opens (ls ++ ls') := by
  obtain ⟨owed, s, c, x, mem, h⟩ := h
  exact ⟨owed, s, c, x, List.mem_append_left _ mem, h⟩

/-- What opens a session still does with more in front of it. -/
lemma Opens.append_left (h : Opens ls') : Opens (ls ++ ls') := by
  obtain ⟨owed, s, c, x, mem, h⟩ := h
  exact ⟨owed, s, c, x, List.mem_append_right _ mem, h⟩

/-- A session that is opened in two parts is opened in one of them. -/
lemma opens_append (h : Opens (ls ++ ls')) : Opens ls ∨ Opens ls' := by
  obtain ⟨owed, s, c, x, mem, h⟩ := h
  rcases List.mem_append.mp mem with mem | mem
  · exact .inl ⟨owed, s, c, x, mem, h⟩
  · exact .inr ⟨owed, s, c, x, mem, h⟩

/-- A session that was opened stays so, whatever is seen next. -/
lemma JustOpened.append (h : JustOpened x past) : JustOpened x (past ++ ls) := by
  obtain ⟨owed, s, c, mem, h⟩ := h
  exact ⟨owed, s, c, List.mem_append_left _ mem, h⟩

/-- A session of which a line was begun stays so, whatever is seen next. -/
lemma HasBegun.append (h : HasBegun n past) : HasBegun n (past ++ ls) := by
  obtain ⟨s, x, mem, h⟩ := h
  exact ⟨s, x, List.mem_append_left _ mem, h⟩

/-- A session that came back stays so, whatever is seen next. -/
lemma CameBack.append (h : CameBack n past) : CameBack n (past ++ ls) := by
  obtain ⟨s, q, r, x, mem, h⟩ := h
  exact ⟨s, q, r, x, List.mem_append_left _ mem, h⟩

end Past

/-! ## The contract -/

/-- From one stage to another, the session that is going on stays at its line, or ends. Another one has been
opened if it takes its place. -/
structure Stage.Leads (s s' : Stage) (ls : List Label) : Prop where
  started : s.started ≤ s'.started
  stays : ∀ x, s'.session = some x → ¬ Opens ls → s.session = some x
  opens : ∀ x, s'.session = some x → Opens ls → s.started ≤ x.number

/-- A stage leads to where the stages lead that it leads to. -/
lemma Stage.Leads.trans {s s' s'' : Stage} {ls ls' : List Label} (h : s.Leads s' ls) (h' : s'.Leads s'' ls') :
    s.Leads s'' (ls ++ ls') where
  started := Nat.le_trans h.started h'.started
  stays x e unopened := by
    have before := h'.stays x e fun opens => unopened opens.append_left
    exact h.stays x before fun opens => unopened opens.append_right
  opens x e opened := by
    by_cases later : Opens ls'
    · exact Nat.le_trans h.started (h'.opens x e later)
    · rcases opens_append opened with earlier | later'
      · exact h.opens x (h'.stays x e later) earlier
      · exact absurd later' later

/-- While the loop that runs lines is at work, no other line is begun further in, and what does not wait
does not begin to. -/
def Scene.Leads (x y : Scene) : Prop :=
  x.stage.inRun = true → y.stage.inRun = true ∧ (x.stage.phase ≠ .awaiting → y.stage.phase ≠ .awaiting ∧
    ∃ ls, y.past = x.past ++ ls ∧ (∀ l ∈ ls, ¬ l.Begins) ∧ x.stage.Leads y.stage ls)

/-- A scene leads to itself. -/
lemma Scene.Leads.refl (x : Scene) : x.Leads x := by
  intro inRun
  refine ⟨inRun, fun phase => ⟨phase, [], (List.append_nil _).symm, ?_, Nat.le_refl _, ?_, ?_⟩⟩
  · exact fun _ mem => absurd mem List.not_mem_nil
  · exact fun _ e _ => e
  · rintro _ _ ⟨owed, s, c, y, mem, -⟩
    exact absurd mem List.not_mem_nil

/-- A scene leads to where the scenes lead that it leads to. -/
lemma Scene.Leads.trans {x y z : Scene} (h : x.Leads y) (h' : y.Leads z) : x.Leads z := by
  intro inRun
  obtain ⟨inRun', go⟩ := h inRun
  obtain ⟨inRun'', go'⟩ := h' inRun'
  refine ⟨inRun'', fun phase => ?_⟩
  obtain ⟨phase', ls, past, quiet, leads⟩ := go phase
  obtain ⟨phase'', ls', past', quiet', leads'⟩ := go' phase'
  refine ⟨phase'', ls ++ ls', ?_, ?_, leads.trans leads'⟩
  · rw [past', past, List.append_assoc]
  · intro l mem
    rcases List.mem_append.mp mem with mem | mem
    · exact quiet l mem
    · exact quiet' l mem

/-- A session that has been begun or came back from a function is known; its place in the dialog is then
anywhere. -/
def Known (n : Nat) (past : List Label) : Prop :=
  HasBegun n past ∨ CameBack n past

/-- A session that is known stays known, whatever is seen next. -/
lemma Known.append {n : Nat} {past ls : List Label} (h : Known n past) : Known n (past ++ ls) :=
  h.imp HasBegun.append CameBack.append

/-- The session that is going on is known. -/
def Scene.Familiar (x : Scene) : Prop :=
  ∀ k, x.stage.session = some k → Known k.number x.past

/-- What has been handed out was in step, and a session that is not known is as it was opened. -/
structure Scene.InStep (x : Scene) : Prop where
  sound : x.stage.Sound
  presented : ∀ {l₁ s q l₂}, x.past = l₁ ++ .asked s q :: l₂ → q.handsOut = true → Presented l₁ s q
  opened : ∀ k, x.stage.session = some k → Known k.number x.past ∨ k.index = 0 ∧ JustOpened k x.past
  waiting : x.stage.phase = .awaiting → x.Familiar

/-- Lines keep in step with their sessions. -/
def steps : Contract where
  rule := Reticent
  holds := Scene.InStep
  visit x y := (Hushed x.past → y = x) ∧ x.Leads y
  running x y := y.InStep ∧ y.stage.inRun = true ∧ x.stage.inRun = false ∧ ¬ Hushed x.past
  visit_refl x := ⟨fun _ => rfl, .refl x⟩
  visit_trans := by
    rintro x y z ⟨same, leads⟩ ⟨same', leads'⟩
    refine ⟨fun hushed => ?_, leads.trans leads'⟩
    obtain rfl := same hushed
    exact same' hushed

namespace steps

open Play

variable {x y z : Scene}

/-- More may be seen in step, if what is handed out is the line at work. -/
lemma inStep_see {l : Label} (h : x.InStep)
    (presented : ∀ s q, l = .asked s q → q.handsOut = true → Presented x.past s q) : (x.see l).InStep where
  sound := h.sound
  presented {l₁ s q l₂} past hands := by
    rcases append_singleton_split past with ⟨-, rfl, last⟩ | ⟨l₃, -, front⟩
    · exact presented s q last hands
    · exact h.presented front hands
  opened k e := by
    rcases h.opened k e with known | ⟨index, opened⟩
    · exact .inl known.append
    · exact .inr ⟨index, opened.append⟩
  waiting awaiting k e := (h.waiting awaiting k e).append

/-- The stage may change in step, if its session is known or as it was opened. -/
lemma inStep_on {s : Stage} (h : x.InStep) (sound : s.Sound)
    (opened : ∀ k, s.session = some k → Known k.number x.past ∨ k.index = 0 ∧ JustOpened k x.past)
    (waiting : s.phase = .awaiting → ∀ k, s.session = some k → Known k.number x.past) :
    (x.on s).InStep where
  sound := sound
  presented past hands := h.presented past hands
  opened := opened
  waiting := waiting

/-- More may be seen, but for a line that begins or a session that is opened in place of another. -/
lemma leads_see {l : Label} (quiet : ¬ l.Begins) (vacant : Opens [l] → x.stage.session = none) :
    x.Leads (x.see l) := by
  intro inRun
  refine ⟨inRun, fun phase => ⟨phase, [l], rfl, ?_, Nat.le_refl _, fun _ e _ => e, ?_⟩⟩
  · intro l' mem
    rw [List.mem_singleton.mp mem]
    exact quiet
  · intro k e opens
    rw [show x.stage.session = some k from e] at vacant
    cases vacant opens

/-- The stage changes, and the session stays at its line or ends. -/
lemma leads_on {s : Stage} (inRun : s.inRun = x.stage.inRun) (phase : s.phase = .awaiting →
      x.stage.phase = .awaiting) (started : s.started = x.stage.started)
    (session : ∀ k, s.session = some k → x.stage.session = some k) : x.Leads (x.on s) := by
  intro running
  refine ⟨inRun.trans running, fun still => ⟨fun awaiting => still (phase awaiting), [], ?_, ?_, ?_, ?_, ?_⟩⟩
  · exact (List.append_nil _).symm
  · exact fun _ mem => absurd mem List.not_mem_nil
  · exact Nat.le_of_eq started.symm
  · exact fun k e _ => session k e
  · rintro _ _ ⟨owed, s, c, y, mem, -⟩
    exact absurd mem List.not_mem_nil

/-- Nothing but a call opens a session. -/
lemma not_opens {l : Label} (other : ∀ owed s c, l ≠ .called owed s c) : ¬ Opens [l] := by
  rintro ⟨owed, s, c, k, mem, -⟩
  exact other owed s c (List.mem_singleton.mp mem).symm

/-- What is known stays known as long as everything is in step. -/
structure Upholds (P : Scene → Prop) : Prop where
  inStep : ∀ {x}, P x → x.InStep
  leads : ∀ {x y}, P x → y.InStep → x.Leads y → P y

/-- A familiar session stays familiar when the stage changes and keeps it. -/
lemma changes_familiar {P : Scene → Prop} {f : Stage → Stage} (changes : Contract.Changes P f)
    (session : ∀ s, (f s).session = s.session) : Contract.Changes (fun x => P x ∧ x.Familiar) f := by
  rintro x ⟨known, familiar⟩
  exact ⟨changes x known, fun k e => familiar k ((session x.stage).symm.trans e)⟩

section Upholds

variable {P : Scene → Prop} (u : Upholds P)

include u

/-- What is upheld may be seen more, but for what is handed out, lines that begin, and calls. -/
lemma Upholds.see {l : Label} (known : P x) (hands : ∀ s q, l = .asked s q → q.handsOut = false)
    (quiet : ¬ l.Begins) (other : ∀ owed s c, l ≠ .called owed s c) : P (x.see l) := by
  refine u.leads known (inStep_see (u.inStep known) fun s q e handsOut => ?_) (leads_see quiet fun opens => ?_)
  · rw [hands s q e] at handsOut
    cases handsOut
  · exact absurd opens (not_opens other)

/-- What is upheld may be reported of. -/
lemma Upholds.tells (n : Notice) : Contract.Tells P n :=
  fun _ known => u.see known (fun _ _ => Label.noConfusion) id fun _ _ _ => Label.noConfusion

/-- What is upheld carries over a reply. -/
lemma Upholds.replying {q : Request} (r : Except Fault (Reply q)) (known : P x) : P (x.replying q r) :=
  u.see known (fun _ _ => Label.noConfusion) id fun _ _ _ => Label.noConfusion

/-- What is upheld carries over an answer. -/
lemma Upholds.answering (r : Except Fault Answer) (known : P x) : P (x.answering r) :=
  u.see known (fun _ _ => Label.noConfusion) id fun _ _ _ => Label.noConfusion

/-- What is upheld carries over a visit. -/
lemma Upholds.visited {q : Request} (known : P (x.asking q)) (back : steps.Back q (x.asking q) y) : P y := by
  have follows := back.follows (u.inStep known)
  exact u.leads known follows.holds follows.visit.2

/-- What is upheld carries over a request that hands out nothing. -/
lemma Upholds.asking {q : Request} (other : q.handsOut = false) (known : P x) : P (x.asking q) := by
  refine u.see known ?_ id fun _ _ _ => Label.noConfusion
  intro s q' e
  cases e
  exact other

/-- What is upheld carries over a request that hands out nothing and its reply. -/
lemma Upholds.asks {q : Request} (other : q.handsOut = false) : steps.Asks P P q := by
  intro x known
  have out := u.asking other known
  exact ⟨u.inStep out, fun y r back _ => u.replying r (u.visited out back)⟩

/-- A change that has no part in the session. -/
lemma Upholds.changes {f : Stage → Stage} (alike : ∀ s : Stage, s.Alike (f s))
    (session : ∀ s, (f s).session = s.session) (phase : ∀ s, (f s).phase = s.phase)
    (inRun : ∀ s, (f s).inRun = s.inRun) : Contract.Changes P f := by
  intro x known
  have inStep := u.inStep known
  refine u.leads known (inStep_on inStep (inStep.sound.alike (alike x.stage)) ?_ ?_) ?_
  · intro k e
    exact inStep.opened k ((session x.stage).symm.trans e)
  · intro awaiting k e
    exact inStep.waiting ((phase x.stage).symm.trans awaiting) k ((session x.stage).symm.trans e)
  · refine leads_on (inRun x.stage) (fun awaiting => ?_) (alike x.stage).started fun k e => ?_
    · exact (phase x.stage).symm.trans awaiting
    · exact (session x.stage).symm.trans e

/-- What is upheld carries over a built-in function. -/
lemma Upholds.builtIn (name parameter : Text) :
    Contract.Changes P fun s => (s.callBuiltIn name parameter).2 := by
  refine u.changes (fun s => ?_) (fun s => ?_) (fun s => ?_) fun s => ?_
  all_goals obtain ⟨vars, agents, e⟩ := s.callBuiltIn_eq name parameter
  all_goals rw [e]
  exact ⟨.rfl, rfl, rfl⟩

/-- What is upheld carries over whatever consults the surroundings. -/
lemma Upholds.consults : steps.Consults P where
  told := u.tells
  keyword _ _ := u.asks rfl
  function _ _ _ := u.asks rfl
  called _ _ := carries_announce u.tells fun _ _ _ _ => u.asks rfl
  builtIn := u.builtIn
  written _ _ := u.changes (fun _ => ⟨.rfl, rfl, rfl⟩) (fun _ => rfl) (fun _ => rfl) fun _ => rfl

/-! ### Familiar sessions -/

/-- Whatever session there is when a function comes back is familiar. -/
lemma Upholds.asks_inner {q : Request} (inner : q.isInner = true) (other : q.handsOut = false) :
    steps.Asks P (fun x => P x ∧ x.Familiar) q := by
  intro x known
  obtain ⟨out, back⟩ := u.asks other x known
  -- Whichever session is there when the function comes back has come back from it.
  refine ⟨out, fun y r visit keeps => ⟨back y r visit keeps, fun k e => .inr ?_⟩⟩
  exact ⟨y.stage, q, r, k, List.mem_append_right _ (List.mem_singleton_self _), inner, e, rfl⟩

/-- A familiar session stays familiar when a keyword is asked for. -/
lemma Upholds.asks_keyword (m : Member) (key : Text) :
    steps.Asks (fun x => P x ∧ x.Familiar) (fun x => P x ∧ x.Familiar) (.keyword m key) := by
  rintro x ⟨known, familiar⟩
  obtain ⟨out, back⟩ := u.asks (q := .keyword m key) rfl x known
  refine ⟨out, fun y r visit keeps => ⟨back y r visit keeps, ?_⟩⟩
  obtain rfl : y = x.asking (.keyword m key) := visit
  exact fun k e => (familiar k e).append.append

/-- A familiar session stays familiar when something is reported. -/
lemma Upholds.tells_familiar (n : Notice) : Contract.Tells (fun x => P x ∧ x.Familiar) n :=
  fun x known => ⟨u.tells n x known.1, fun k e => (known.2 k e).append⟩

/-- A familiar session is replaced by familiar ones only, whatever consults the surroundings. -/
lemma Upholds.consults_familiar : steps.Consults fun x => P x ∧ x.Familiar where
  told := u.tells_familiar
  keyword := u.asks_keyword
  function _ _ _ := fun x known => u.asks_inner rfl rfl x known.1
  called _ _ := carries_announce u.tells_familiar fun _ _ _ _ x known => u.asks_inner rfl rfl x known.1
  builtIn name parameter := by
    refine changes_familiar (u.builtIn name parameter) fun s => ?_
    obtain ⟨vars, agents, e⟩ := s.callBuiltIn_eq name parameter
    rw [e]
  written key value := changes_familiar (u.consults.written key value) fun _ => rfl

/-- A familiar session may go to any line, if that is not what has to be known. -/
lemma Upholds.moves {Q : Scene → Prop} (v : Upholds Q) (weak : ∀ {x}, P x → Q x)
    (moved : ∀ {x s}, P x → (x.on s).InStep → s.inRun = x.stage.inRun → P (x.on s)) :
    steps.Moves (fun x => P x ∧ x.Familiar) Q := by
  have cursor {f : Session → Session} (number : ∀ k, (f k).number = k.number)
      (alike : ∀ s : Stage, s.Alike { s with session := s.session.map f }) :
      Contract.Changes (fun x => P x ∧ x.Familiar) fun s => { s with session := s.session.map f } := by
    rintro x ⟨known, familiar⟩
    have stays (k : Session) (e : x.stage.session.map f = some k) : Known k.number x.past := by
      obtain ⟨k', e', rfl⟩ := Option.map_eq_some_iff.mp e
      rw [number]
      exact familiar k' e'
    have inStep := u.inStep known
    refine ⟨moved known (inStep_on inStep (inStep.sound.alike (alike x.stage)) ?_ ?_) rfl, stays⟩
    · exact fun k e => .inl (stays k e)
    · exact fun _ => stays
  exact {
    weak := fun known => weak known.1
    reported := v.tells
    entered := carries_announce v.tells fun _ _ _ _ => v.asks rfl
    node := Contract.enters fun n => cursor (fun _ => rfl) fun s => s.alike_moved fun _ => rfl
    index := fun i => cursor (fun _ => rfl) fun s => s.alike_moved fun _ => rfl }

/-! ### The end of a session -/

/-- What is upheld carries over the end of a session. -/
lemma Upholds.carries_endSession : endSession.Carries steps P P := by
  refine Play.carries_endSession ?_ fun s => carries_tearDown u.tells ?_ ?_ ?_ ?_
  · intro x known
    refine u.leads known (inStep_on (u.inStep known) x.stage.sound_ended ?_ ?_) (leads_on rfl ?_ rfl ?_)
    · exact fun k e => by cases e
    · exact Phase.noConfusion
    · exact Phase.noConfusion
    · exact fun k e => by cases e
  · exact fun p => u.asks rfl
  · exact fun o => u.asks rfl
  · exact fun h e _ _ => u.asks rfl
  · exact fun c _ => u.asks rfl

end Upholds

/-! ### Lines at work -/

/-- Everything is in step, and led here from a scene. -/
def From (x z : Scene) : Prop :=
  z.InStep ∧ x.Leads z

/-- Everything is in step, and the loop is at work. -/
def Loops (z : Scene) : Prop :=
  z.InStep ∧ z.stage.inRun = true

/-- To be led from a scene is upheld. -/
lemma upholds_from (x : Scene) : Upholds (From x) :=
  ⟨fun known => known.1, fun known inStep leads => ⟨inStep, known.2.trans leads⟩⟩

/-- To be at work in step is upheld. -/
lemma upholds_loops : Upholds Loops :=
  ⟨fun known => known.1, fun known inStep leads => ⟨inStep, (leads known.2).1⟩⟩

/-- The stage waits at the line that was begun in a scene. -/
structure Waits (y z : Scene) : Prop where
  inStep : z.InStep
  inRun : z.stage.inRun = true
  awaiting : z.stage.phase = .awaiting
  since : ∃ ls, z.past = y.past ++ .began y.stage :: ls ∧ (∀ l ∈ ls, ¬ l.Begins) ∧
    y.stage.Leads z.stage ls

/-- A loop whose line waits is at work. -/
lemma Waits.loops (known : Waits y z) : Loops z :=
  ⟨known.inStep, known.inRun⟩

/-- A line that waits still does when more is seen, but for what is handed out, lines that begin, and calls. -/
lemma Waits.see {l : Label} (known : Waits y z) (hands : ∀ s q, l = .asked s q → q.handsOut = false)
    (quiet : ¬ l.Begins) (other : ∀ owed s c, l ≠ .called owed s c) : Waits y (z.see l) := by
  obtain ⟨ls, past, shown, leads⟩ := known.since
  have seen : Loops (z.see l) := upholds_loops.see known.loops hands quiet other
  refine ⟨seen.1, seen.2, known.awaiting, ls ++ [l], ?_, ?_, leads.started, ?_, ?_⟩
  · rw [Scene.see, past, List.append_assoc, List.cons_append]
  · intro l' mem
    rcases List.mem_append.mp mem with mem | mem
    · exact shown l' mem
    · rw [List.mem_singleton.mp mem]
      exact quiet
  · exact fun k e closed => leads.stays k e fun opens => closed opens.append_right
  · intro k e opens
    rcases opens_append opens with opens | opens
    · exact leads.opens k e opens
    · exact absurd opens (not_opens other)

/-- A line that waits still does when something is reported. -/
lemma waits_tells (n : Notice) : Contract.Tells (Waits y) n :=
  fun _ known => known.see (fun _ _ => Label.noConfusion) id fun _ _ _ => Label.noConfusion

/-- While nobody turns to the stage, it goes on waiting. -/
lemma waits_asks {q : Request} (other : q.handsOut = false)
    (still : q.isOpen = false ∨ q.announces = true) : steps.Asks (Waits y) (Waits y) q := by
  intro x known
  have out : Waits y (x.asking q) := by
    refine known.see ?_ id fun _ _ _ => Label.noConfusion
    intro s q' e
    cases e
    exact other
  refine ⟨out.inStep, fun w r back keeps => ?_⟩
  have same : w = x.asking q := by
    unfold Contract.Back at back
    split at back
    · rename_i opened
      rcases still with closed | announces
      · rw [closed] at opened
        cases opened
      · exact back.visit.1 ⟨x.stage, q, List.getLast?_concat, announces⟩
    · exact back
  rw [same]
  exact out.see (fun _ _ => Label.noConfusion) id fun _ _ _ => Label.noConfusion

/-- A line that waits still does when keywords are looked up. -/
lemma waits_reads : steps.Reads (Waits y) where
  told := waits_tells
  keyword _ _ := waits_asks rfl (.inl rfl)

/-- What is handed out while a line waits is that line. -/
lemma waits_hands {q : Request} {line : Line} (sound : y.stage.Sound)
    (current : y.stage.currentLine? = some line) (presents : q.Presents line) :
    steps.Asks (Waits y) Loops q := by
  intro x known
  have presented : Presented x.past x.stage q := by
    obtain ⟨ls, past, quiet, leads⟩ := known.since
    have going := known.inStep.sound.going known.awaiting (by decide)
    obtain ⟨k, session⟩ := Option.ne_none_iff_exists'.mp going
    refine ⟨y.past, y.stage, ls, line, past, quiet, current, presents, ?_, ?_⟩
    · intro closed
      have same : x.stage.session = y.stage.session := session.trans (leads.stays k session closed).symm
      refine ⟨same, ?_⟩
      unfold Stage.currentLine? at current ⊢
      rw [same]
      exact current
    · intro opens number
      rw [session, Option.map_some] at number
      obtain ⟨k', session', same⟩ := Option.map_eq_some_iff.mp number.symm
      -- Numbers only grow, so a session that was opened meanwhile is not the one of the line.
      have before := sound.numbered k' session'
      have after := leads.opens k session opens
      omega
  have out : Loops (x.asking q) := by
    refine ⟨inStep_see known.inStep fun s q' e _ => ?_, known.inRun⟩
    cases e
    exact presented
  exact ⟨out.1, fun w r back _ => upholds_loops.replying r (upholds_loops.visited out back)⟩

/-- A line that is begun in step leaves the loop at work in step. -/
lemma does_runLine_beginning (inStep : y.InStep) (inRun : y.stage.inRun = true)
    (running : y.stage.phase = .running) :
    runLine.Does steps y.beginning fun z _ => Loops z := by
  let b := y.beginning
  have u := upholds_from b
  have begun : b.InStep := inStep_see inStep fun _ _ => Label.noConfusion
  have familiar : b.Familiar := fun k e =>
    .inl ⟨y.stage, k, List.mem_append_right _ (List.mem_singleton_self _), e, rfl⟩
  have weak {x : Scene} (known : From b x ∧ x.Familiar) : Loops x ∧ x.Familiar :=
    ⟨⟨known.1.1, (known.1.2 inRun).1⟩, known.2⟩
  -- A session that moves on leaves the line behind, and only the loop is still known to be at work.
  have moves : steps.Moves (fun x => Loops x ∧ x.Familiar) Loops :=
    upholds_loops.moves upholds_loops id fun known inStep same => ⟨inStep, same.trans known.2⟩
  have waits {x : Scene} (known : From b x ∧ x.Familiar) (going : x.stage.session ≠ none) :
      Waits y (x.on x.stage.suspended) := by
    obtain ⟨⟨inStep, leads⟩, familiar⟩ := known
    obtain ⟨inRun, rest⟩ := leads inRun
    obtain ⟨-, ls, past, quiet, leads⟩ := rest (by rw [show b.stage.phase = .running from running]; decide)
    have suspended := inStep_on inStep (inStep.sound.alike (inStep.sound.alike_suspended going))
      (fun k e => .inl (familiar k e)) fun _ => familiar
    refine ⟨suspended, inRun, rfl, ls, ?_, quiet, leads.started, leads.stays, leads.opens⟩
    rw [Scene.on, past]
    simp only [b, Scene.beginning, Scene.see, List.append_assoc, List.cons_append, List.nil_append]
  refine does_runLine (u.consults_familiar) weak moves ⟨⟨begun, .refl b⟩, familiar⟩ (fun _ _ => id) ?_ ?_ ?_
  · exact fun x known => upholds_loops.carries_endSession x known.1
  · intro x l current known running
    have going := known.1.1.sound.going running (by decide)
    refine does_askQuery upholds_loops.tells_familiar moves (weak known) (fun _ _ => id) waits_reads
      (waits known going) (fun _ _ => Waits.loops) ?_
    intro w p waits _ gives
    have presents : (Request.query 0 p).Presents l := by
      change (expandQuery l.query p.ticket).Gives p
      rw [(prompt_of_gives gives).2]
      exact gives
    refine carries_deliverQuery Waits.loops waits_tells ?_ ?_ w waits
    · exact fun h k agent node => waits_asks rfl (.inr rfl)
    · exact fun p => waits_hands inStep.sound current presents
  · intro x l current known running
    have noted (name : Text) : Contract.Changes (fun x => From b x ∧ x.Familiar)
        fun s => { s with history := s.history ++ [name] } := by
      refine changes_familiar (u.changes ?_ ?_ ?_ ?_) fun _ => rfl
      · exact fun _ => ⟨.rfl, rfl, rfl⟩
      · exact fun _ => rfl
      · exact fun _ => rfl
      · exact fun _ => rfl
    refine does_showLine u.consults_familiar.toReads noted known (fun _ _ known' => (weak known').1) ?_
    intro w shown going known' gives
    refine carries_deliver Waits.loops waits_tells ?_ ?_ ?_ _ (waits known' going)
    · exact fun h k agent node => waits_asks rfl (.inr rfl)
    · exact fun p => waits_hands inStep.sound current gives
    · exact fun o => upholds_loops.asks rfl

/-! ### Calls -/

/-- What is known while a call is worked on that came in at a scene. -/
def Calling (x y : Scene) : Prop :=
  ¬ Hushed x.past ∧ From x y

/-- To carry out a call in step is upheld. -/
lemma upholds_calling (x : Scene) : Upholds (Calling x) :=
  ⟨fun known => known.2.1, fun known inStep leads => ⟨known.1, inStep, known.2.2.trans leads⟩⟩

/-- A call is carried out in step, and the stage waits. -/
def GoingOn (x y : Scene) : Prop :=
  Calling x y ∧ x.stage.phase = .awaiting

/-- To go on in step is upheld. -/
lemma upholds_goingOn (x : Scene) : Upholds (GoingOn x) :=
  ⟨fun known => known.1.2.1, fun known inStep leads =>
    ⟨(upholds_calling x).leads known.1 inStep leads, known.2⟩⟩

/-- Nothing is claimed of the lines of a session that goes on from a pause. -/
lemma leads_of_awaiting {s : Stage} (inRun : s.inRun = y.stage.inRun) (awaiting : x.stage.phase = .awaiting)
    (leads : x.Leads y) : x.Leads (y.on s) :=
  fun running => ⟨inRun.trans (leads running).1, fun still => absurd awaiting still⟩

/-- A call that comes in between lines is carried out in step. -/
lemma calling_start {owed : Option Request} {c : Call} (inStep : x.InStep) (free : ¬ Hushed x.past) :
    Calling x (x.calling owed c) := by
  refine ⟨free, inStep_see inStep fun _ _ => Label.noConfusion, leads_see id ?_⟩
  rintro ⟨owed', s, c', k, mem, opening⟩
  cases List.mem_singleton.mp mem
  exact inStep.sound.idle.mp (Stage.idle_of_opening opening)

/-- A call that opens a session carries on in step. -/
lemma calling_opened {owed : Option Request} {c : Call} {a : AgentId} {onExit : Option Nat}
    {vars : Variables} {session : Session} (known : Calling x y)
    (past : (x.calling owed c).past <+: y.past) (opening : x.stage.opening? c = some session)
    (opens : y.stage.opens a onExit = some session) :
    Calling x (y.on (y.stage.opened vars session)) := by
  obtain ⟨free, inStep, leads⟩ := known
  obtain ⟨-, number, -, index⟩ := Stage.number_of_opens opens
  have mem : .called owed x.stage c ∈ y.past :=
    past.subset (List.mem_append_right _ (List.mem_singleton_self _))
  refine ⟨free, inStep_on inStep (Stage.Sound.opened opens) ?_ ?_, ?_⟩
  · rintro k ⟨⟩
    exact .inr ⟨index, owed, x.stage, c, mem, opening⟩
  · exact Phase.noConfusion
  · intro inRun
    obtain ⟨inRun', go⟩ := leads inRun
    refine ⟨inRun', fun phase => ⟨Phase.noConfusion, ?_⟩⟩
    obtain ⟨-, ls, past', quiet, leads⟩ := go phase
    -- For the line that is at work further out, the call itself is what opens the session.
    have mem : .called owed x.stage c ∈ ls := by
      rw [past', Scene.calling, Scene.see, List.prefix_append_right_inj] at past
      exact past.subset (List.mem_singleton_self _)
    refine ⟨ls, past', quiet, Nat.le_succ_of_le leads.started, ?_, ?_⟩
    · exact fun k _ closed => absurd ⟨owed, x.stage, c, session, mem, opening⟩ closed
    · rintro k ⟨⟩ _
      rw [number]
      exact leads.started

/-- Every kind of call is carried out in step. -/
lemma takes : steps.Takes (fun x y => GoingOn x y ∧ y.Familiar) Calling where
  moves x := (upholds_goingOn x).moves (upholds_calling x) And.left fun known inStep inRun =>
    ⟨⟨known.1.1, inStep, leads_of_awaiting inRun known.2 known.1.2.2⟩, known.2⟩
  told x := (upholds_goingOn x).tells_familiar
  consults x := (upholds_calling x).consults
  stays inStep free _ := calling_start inStep free
  goesOn {x owed c} inStep free goes := by
    have start : Calling x (x.calling owed c) := calling_start inStep free
    have familiar : (x.calling owed c).Familiar := fun k e => (inStep.waiting goes.1 k e).append
    have sound := inStep.sound.alike (Stage.alike_resumed goes.1)
    have resumed : ((x.calling owed c).on x.stage.resumed).InStep :=
      inStep_on start.2.1 sound (fun k e => .inl (familiar k e)) fun _ => familiar
    exact ⟨⟨⟨free, resumed, leads_of_awaiting rfl goes.1 start.2.2⟩, goes.1⟩, familiar⟩
  opens known past _ opening opens := calling_opened known past opening opens
  ends x := (upholds_calling x).carries_endSession
  history x :=
    (upholds_calling x).changes (fun _ => ⟨.rfl, rfl, rfl⟩) (fun _ => rfl) (fun _ => rfl) fun _ => rfl
  built x a speaker :=
    (upholds_calling x).changes (fun _ => ⟨.rfl, rfl, rfl⟩) (fun _ => rfl) (fun _ => rfl) fun _ => rfl
  images x _ := (upholds_calling x).asks rfl
  observed x _ _ := (upholds_calling x).asks rfl
  started x _ _ _ := (upholds_calling x).asks rfl
  published x _ _ _ := (upholds_calling x).asks rfl
  adjusts {x owed change} known := by
    have u := upholds_calling x
    have adjusted := u.changes (fun s => s.alike_adjust change) (fun s => (s.adjust_eq change).2.1)
      (fun s => (s.adjust_eq change).1) (fun s => (s.adjust_eq change).2.2.2.2) _ known
    have answered := u.answering (.ok (x.stage.adjust change).1) adjusted
    exact ⟨answered.2.1, fun hushed => absurd hushed answered.1, answered.2.2⟩
  answers {x y r} known := by
    have answered := (upholds_calling x).answering r known
    exact ⟨answered.2.1, fun hushed => absurd hushed answered.1, answered.2.2⟩
  runs {x y} known still _ := by
    have looping : (y.looping true).InStep :=
      inStep_on known.2.1 (known.2.1.sound.alike ⟨.rfl, rfl, rfl⟩) known.2.1.opened known.2.1.waiting
    refine ⟨inStep_see looping fun _ _ => Label.noConfusion, rfl, ?_, known.1⟩
    refine Bool.eq_false_iff.mpr fun inRun => ?_
    rw [(known.2.2 inRun).1] at still
    cases still

/-- When the loop ends, everything is in step. -/
lemma follows_end {r : Except Fault Answer} (inStep : y.InStep) (still : x.stage.inRun = false)
    (free : ¬ Hushed x.past) : steps.Follows x ((y.looping false).answering r) := by
  have looping : (y.looping false).InStep :=
    inStep_on inStep (inStep.sound.alike ⟨.rfl, rfl, rfl⟩) inStep.opened inStep.waiting
  refine ⟨inStep_see looping fun _ _ => Label.noConfusion, fun hushed => absurd hushed free, fun inRun => ?_⟩
  rw [still] at inRun
  cases inRun

/-- Calls and lines keep the contract. -/
lemma honours : steps.Honours where
  call inStep free := takes.call inStep free
  line {x y} running phase := by
    obtain ⟨inStep, inRun, still, free⟩ := running
    refine (does_runLine_beginning inStep inRun phase).mono ?_
    rintro w r ⟨inStep', inRun'⟩
    cases r with
    | error f => exact follows_end inStep' still free
    | ok u => exact ⟨inStep', inRun', still, free⟩
  rest running _ _ := follows_end running.1 running.2.2.1 running.2.2.2

end steps

/-- A fresh stage is in step. -/
lemma Stage.Fresh.inStep {s : Stage} (fresh : s.Fresh) : (Scene.mk s []).InStep where
  sound := fresh.sound
  presented {l₁ s q l₂} past := absurd past.symm (List.append_ne_nil_of_right_ne_nil l₁ (List.cons_ne_nil _ l₂))
  opened k e := by
    cases fresh.vacant.symm.trans e
  waiting _ k e := by
    cases fresh.vacant.symm.trans e

/-- In a run from a fresh stage whose handlers of lines and queries do not turn to the stage, lines keep in
step with their sessions. -/
theorem keepsStep {s : Stage} {ls : List Label} {m : Moment} (fresh : s.Fresh)
    (run : Run Reticent (.initial s) ls m) : KeepsStep ls where
  presented := by
    rintro l₁ s' q l₂ rfl hands
    have inStep : Scene.InStep (Scene.asking ⟨s', l₁⟩ q) := Contract.holds_asked steps.honours fresh.inStep run
    exact inStep.presented rfl hands
  begun := by
    rintro l₁ s' l₂ rfl
    obtain ⟨running, e, known⟩ := Contract.running_began steps.honours fresh.inStep run
    have inStep : Scene.InStep ⟨s', l₁⟩ := known.1
    have going := inStep.sound.going running (by decide)
    obtain ⟨k, session⟩ := Option.ne_none_iff_exists'.mp going
    refine ⟨k, session, ?_⟩
    rcases inStep.opened k session with (begun | came) | opened
    · exact .inl begun
    · exact .inr (.inl came)
    · exact .inr (.inr opened)

/-! ## A line that is missed -/

/-- The lines that are begun, each with the number of its session. -/
def places (ls : List Label) : List (Nat × Nat) :=
  ls.filterMap fun l =>
    match l with
    | .began s => s.session.map fun x => (x.number, x.index)
    | _ => none

/-- A stage with two agents. The first one has no line but the call of a function. -/
def relay : Stage where
  agents a :=
    if a = 0 then { name := ['a'], dialog := { nodes := [{ lines := [{ callFunction := ['f'] }] }] } }
    else { name := ['b'], dialog := { nodes := [{ lines := [{ text := ['c'] }, { text := ['d'] }] }] } }
  presenter := some 0

/-- The stage with two agents is fresh. -/
lemma fresh_relay : relay.Fresh :=
  ⟨rfl, rfl, rfl, rfl, rfl, rfl⟩

/-- The function ends the session and starts the one of the second agent. -/
def handover : List Label × Moment :=
  (Moment.initial relay).rehearse [.call (.initiate (some 0) none), .work, .work, .work, .call .kill, .work,
    .reply, .work, .call (.initiate (some 1) none), .work, .reply, .work, .work, .work, .reply, .work]

/-- Handlers are not told of a line or a query here. -/
def Label.isUnannounced : Label → Bool
  | .asked _ q => !q.announces
  | _ => true

/-- Where no handler is told of a line, none can turn to the stage then. -/
lemma reticent_of_unannounced {past : List Label} (h : past.all Label.isUnannounced = true) (l : Label) :
    Reticent past l := by
  cases l with
  | called owed s c =>
    rintro ⟨s', q, last, announces⟩
    have unannounced := List.all_eq_true.mp h _ (List.mem_of_getLast? last)
    rw [Label.isUnannounced, announces] at unannounced
    cases unannounced
  | _ => trivial

/-- Handing over is a run in which handlers of lines are reticent. -/
lemma run_handover : Run Reticent (.initial relay) handover.1 handover.2 :=
  Moment.run_rehearse (fun _ l past _ => reticent_of_unannounced past l) (by decide +kernel)

/-- The lines that are handed out there are in step all the same. -/
theorem keepsStep_handover : relay.Fresh ∧ Run Reticent (.initial relay) handover.1 handover.2 ∧
    KeepsStep handover.1 :=
  ⟨fresh_relay, run_handover, keepsStep fresh_relay run_handover⟩

/-- A session that a function starts in place of its own may miss its first line: when the function comes
back, the line that called it steps past the line that the new session is at. -/
theorem session_begins_late : ¬ ∀ s ls m, Stage.Fresh s → Run Reticent (.initial s) ls m →
    ∀ n i, (places ls).find? (fun place => place.1 == n) = some (n, i) → i = 0 := by
  intro fromStart
  have places : (places handover.1).find? (fun place => place.1 == 1) = some (1, 1) := by decide +kernel
  cases fromStart relay handover.1 handover.2 fresh_relay run_handover 1 1 places

end Parley
