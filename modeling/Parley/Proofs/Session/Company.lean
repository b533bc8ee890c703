import Parley.Proofs.Session.Contract
import Parley.Proofs.Session.Standing

/-!
# Companies

Surroundings that answer from tables. They go on from what has been handed to them as a function of all that
has been handed to them so far tells them, and they do so either while they have it in their hands, or when
nobody waits for a reply. `Routine.plays` follows a routine up to the first thing that is handed out, and
`makes_of_goesOn` closes the file: a call that goes on from a pause makes the same of a stage, whether lines
are being run further out or not.
-/

namespace Parley

/-- A call goes on from what has been handed out. -/
inductive Call.Answers : Request → Call → Prop
  | resume {presenter : Nat} {line : Line} {ticket : Ticket} (link : Text) :
    Answers (.show presenter line ticket) (.resume ticket link)
  | respond {presenter : Nat} {prompt : Prompt} (label : Text) :
    Answers (.query presenter prompt) (.respond prompt label)
  | advance {q : Request} (link : Text) : Answers q (.advance link)

/-- A call that may start a session. -/
inductive Call.Starts : Call → Prop
  | start (a : AgentId) (speaker : Text) (onExit : Option Nat) : Starts (.start a speaker onExit)
  | initiate (a : Option AgentId) (onExit : Option Nat) : Starts (.initiate a onExit)

/-- Surroundings that answer from tables. -/
structure Company where
  reply : (q : Request) → Reply q
  /-- The call by which to go on from what is handed out, if at all, given what was handed out before. -/
  choose : List Request → Request → Option Call
  answers : ∀ {shown q c}, choose shown q = some c → c.Answers q

/-- When a company goes on from what has been handed to it. -/
inductive Pace where
  /-- Before it replies to the request that has handed it over. -/
  | atOnce
  /-- When nobody waits for a reply. -/
  | later

/-- What a company remembers: what has been handed to it, and the call that it has yet to make. -/
structure Memory where
  shown : List Request
  due : Option Call

/-- What is seen by everybody. -/
def Label.public? : Label → Option Sign
  | .told n => some (.told n)
  | .asked _ q => some (.asked q)
  | _ => none

/-- What everybody sees of a run: the requests and the reports. -/
def performance (ls : List Label) : List Sign :=
  ls.filterMap Label.public?

/-- Something is handed out. -/
def Label.handsOut : Label → Bool
  | .asked _ q => q.handsOut
  | _ => false

namespace Company

variable (K : Company)

/-- What the company remembers when it has seen something more. -/
def heed (m : Memory) : Label → Memory
  | .asked _ q => if q.handsOut then ⟨m.shown ++ [q], K.choose m.shown q⟩ else m
  | .called _ _ _ => { m with due := none }
  | _ => m

/-- What the company remembers of what it has seen. The first call is due from the start. -/
def recollect (c : Call) (ls : List Label) : Memory :=
  ls.foldl K.heed ⟨[], some c⟩

/-- The company makes a call when it is due, and no other, and it replies from its tables. -/
def allows (pace : Pace) (m : Memory) : Label → Prop
  | .called owed _ c => m.due = some c ∧ (pace = .later → owed = none)
  | .replied _ q r => r = .ok (K.reply q) ∧ (pace = .atOnce → m.due = none)
  | _ => True

/-- The rule that a company keeps. -/
def rule (pace : Pace) (c : Call) : Rule :=
  fun past l => K.allows pace (K.recollect c past) l

/-- A stage is left with a company, which begins with a call, until nobody waits for a reply and no call is
due any more. -/
structure Finishes (pace : Pace) (c : Call) (s : Stage) (ls : List Label) (s' : Stage) : Prop where
  run : Run (K.rule pace c) (.initial s) ls ⟨.surroundings s', []⟩
  free : (K.recollect c ls).due = none

/-- A company that begins with a call leaves a stage as another one, and everybody sees the signs. -/
def Performs (pace : Pace) (c : Call) (s : Stage) (signs : List Sign) (s' : Stage) : Prop :=
  ∃ ls, K.Finishes pace c s ls s' ∧ performance ls = signs

end Company

section Memory

variable {K : Company} {c : Call} {l : Label} {ls ls' : List Label}

/-- What is seen of two parts is seen of one after the other. -/
lemma performance_append : performance (ls ++ ls') = performance ls ++ performance ls' :=
  List.filterMap_append

/-- A company remembers one thing after another. -/
lemma recollect_concat : K.recollect c (ls ++ [l]) = K.heed (K.recollect c ls) l := by
  rw [Company.recollect, List.foldl_append]
  rfl

end Memory

/-! ## Routines up to what they hand out -/

section Plays

variable {α : Type} {K : Company}

/-- What is seen of a routine that is left with a company, and where the routine is then: it has ended, or it
hands something out. -/
def Routine.plays (K : Company) : Routine α → List Label × Routine α
  | .done s r => ([], .done s r)
  | .tell n rest => (.told n :: (rest.plays K).1, (rest.plays K).2)
  | .ask s q k =>
    if q.handsOut then ([], .ask s q k)
    else
      let rest := (k (.ok (K.reply q)) s).plays K
      (.asked s q :: .replied s q (.ok (K.reply q)) :: rest.1, rest.2)

/-- The routine has ended, or hands something out. -/
def Routine.Stops : Routine α → Prop
  | .done _ _ => True
  | .tell _ _ => False
  | .ask _ q _ => q.handsOut = true

/-- A report is played, and then what follows it. -/
lemma Routine.plays_tell {n : Notice} {rest : Routine α} :
    (tell n rest).plays K = (.told n :: (rest.plays K).1, (rest.plays K).2) :=
  rfl

/-- A request is played with its reply, and then what follows them. -/
lemma Routine.plays_ask {s : Stage} {q : Request} {k : Except Fault (Reply q) → Stage → Routine α}
    (hands : q.handsOut = false) :
    (ask s q k).plays K = (.asked s q :: .replied s q (.ok (K.reply q)) ::
      ((k (.ok (K.reply q)) s).plays K).1, ((k (.ok (K.reply q)) s).plays K).2) := by
  rw [plays, if_neg (Bool.eq_false_iff.mp hands)]

/-- What hands something out is played no further. -/
lemma Routine.plays_handsOut {s : Stage} {q : Request} {k : Except Fault (Reply q) → Stage → Routine α}
    (hands : q.handsOut = true) : (ask s q k).plays K = ([], ask s q k) := by
  rw [plays, if_pos hands]

/-- A routine is played until it stops. -/
lemma Routine.stops_plays (r : Routine α) : (r.plays K).2.Stops := by
  induction r with
  | done s a => trivial
  | tell n rest ih => exact ih
  | ask s q k ih =>
    cases hands : q.handsOut with
    | true =>
      rw [plays_handsOut hands]
      exact hands
    | false =>
      rw [plays_ask hands]
      exact ih _ s

/-- Nothing is handed out while a routine is played. -/
lemma Routine.quiet_plays (r : Routine α) : ∀ l ∈ (r.plays K).1, l.handsOut = false := by
  induction r with
  | done s a => exact fun _ mem => absurd mem List.not_mem_nil
  | tell n rest ih =>
    intro l mem
    cases mem with
    | head => rfl
    | tail _ mem => exact ih l mem
  | ask s q k ih =>
    cases hands : q.handsOut with
    | true =>
      rw [plays_handsOut hands]
      exact fun _ mem => absurd mem List.not_mem_nil
    | false =>
      rw [plays_ask hands]
      intro l mem
      cases mem with
      | head => exact hands
      | tail _ mem =>
        cases mem with
        | head => rfl
        | tail _ mem => exact ih _ s l mem

end Plays

/-! ## Runs of a company -/

/-- How a routine stands in a moment: it works on a call, or runs a line. -/
structure Frame (α : Type) where
  act : Routine α → Activity
  hold : (q : Request) → (Except Fault (Reply q) → Stage → Routine α) → Pending
  tells : ∀ n rest ps, Moment.work? ⟨.stage (act (.tell n rest)), ps⟩ = some (.told n, ⟨.stage (act rest), ps⟩)
  asks : ∀ s q k ps, Moment.work? ⟨.stage (act (.ask s q k)), ps⟩ =
    some (.asked s q, ⟨.surroundings s, hold q k :: ps⟩)
  replies : ∀ s q k ps r, Step ⟨.surroundings s, hold q k :: ps⟩ (.replied s q r) ⟨.stage (act (k r s)), ps⟩

namespace Frame

/-- A routine that works on a call. -/
def call : Frame Outcome where
  act := .call
  hold := .call
  tells _ _ _ := rfl
  asks _ _ _ _ := rfl
  replies _ q k _ r := .reply (p := .call q k) r

/-- A routine that runs a line. -/
def run (a : Answer) : Frame Unit where
  act := .run a
  hold := .run a
  tells _ _ _ := rfl
  asks _ _ _ _ := rfl
  replies _ q k _ r := .reply (p := .run a q k) r

end Frame

/-- A company that begins with a call comes to a moment in a number of steps or more. So much it remembers
then, and so much everybody has seen. -/
def Company.Reaches (K : Company) (pace : Pace) (c : Call) (s : Stage) (n : Nat) (m : Moment) (memory : Memory)
    (signs : List Sign) : Prop :=
  ∃ past, Run (K.rule pace c) (.initial s) past m ∧ n ≤ past.length ∧ K.recollect c past = memory ∧
    performance past = signs

namespace Company.Reaches

variable {K : Company} {pace : Pace} {c c' : Call} {s₀ s : Stage} {n : Nat} {m m' : Moment} {l : Label}
  {memory : Memory} {signs : List Sign} {ps : List Pending}

/-- One more step that the company allows. -/
lemma step (h : K.Reaches pace c s₀ n m memory signs) (step : Step m l m') (allows : K.allows pace memory l) :
    K.Reaches pace c s₀ (n + 1) m' (K.heed memory l) (signs ++ performance [l]) := by
  obtain ⟨past, run, long, rfl, rfl⟩ := h
  refine ⟨past ++ [l], run.snoc step allows, ?_, recollect_concat, performance_append⟩
  rw [List.length_append]
  exact Nat.succ_le_succ long

/-- One more step that nobody sees. -/
lemma silent (h : K.Reaches pace c s₀ n m memory signs) (step : Step m l m') (allows : K.allows pace memory l)
    (silent : l.public? = none) : K.Reaches pace c s₀ (n + 1) m' (K.heed memory l) signs := by
  have after := h.step step allows
  rw [performance, List.filterMap_cons_none silent, List.filterMap_nil, List.append_nil] at after
  exact after

/-- The call that is due is made. -/
lemma call (h : K.Reaches pace c s₀ n ⟨.surroundings s, ps⟩ memory signs) (due : memory.due = some c')
    (opened : Pending.isOpen ps = true) (alone : pace = .later → Pending.owed? ps = none) :
    K.Reaches pace c s₀ (n + 1) ⟨.stage (.call (c'.play s)), ps⟩ { memory with due := none } signs :=
  h.silent (.enter c' (if_pos opened)) ⟨due, alone⟩ rfl

/-- A request is replied to from the tables. -/
lemma reply {p : Pending} (h : K.Reaches pace c s₀ n ⟨.surroundings s, p :: ps⟩ memory signs)
    (free : pace = .atOnce → memory.due = none) :
    K.Reaches pace c s₀ (n + 1) ⟨.stage (p.resume (.ok (K.reply p.request)) s), ps⟩ memory signs :=
  h.silent (.reply (.ok (K.reply p.request))) ⟨rfl, free⟩ rfl

/-- What is reached in so many steps or more is reached in fewer or more. -/
lemma le {n' : Nat} (h : K.Reaches pace c s₀ n m memory signs) (le : n' ≤ n) :
    K.Reaches pace c s₀ n' m memory signs := by
  obtain ⟨past, run, long, rest⟩ := h
  exact ⟨past, run, Nat.le_trans le long, rest⟩

/-- A routine is left with a company that has no call to make. -/
lemma plays {α : Type} (f : Frame α) {r : Routine α} (free : memory.due = none)
    (h : K.Reaches pace c s₀ n ⟨.stage (f.act r), ps⟩ memory signs) :
    K.Reaches pace c s₀ n ⟨.stage (f.act (r.plays K).2), ps⟩ memory (signs ++ performance (r.plays K).1) := by
  induction r generalizing n signs with
  | done s a => simpa only [Routine.plays, performance, List.filterMap_nil, List.append_nil] using h
  | tell note rest ih =>
    have told := h.step (.work (f.tells note rest ps)) trivial
    have played := ih (told.le (Nat.le_succ n))
    rw [List.append_assoc] at played
    exact played
  | ask s q k ih =>
    cases hands : q.handsOut with
    | true =>
      simpa only [Routine.plays_handsOut hands, performance, List.filterMap_nil, List.append_nil] using h
    | false =>
      have asked := h.step (.work (f.asks s q k ps)) trivial
      have same : K.heed memory (.asked s q) = memory := by
        rw [heed, if_neg (Bool.eq_false_iff.mp hands)]
      rw [same] at asked
      have replied := asked.step (f.replies s q k ps (.ok (K.reply q))) ⟨rfl, fun _ => free⟩
      have played := ih (.ok (K.reply q)) s (replied.le (Nat.le_add_right n 2))
      rw [Routine.plays_ask hands]
      rw [List.append_assoc, List.append_assoc] at played
      exact played

end Company.Reaches

section Runs

variable {K : Company} {c : Call} {pace : Pace} {m₀ m n n' : Moment} {past ls : List Label} {l : Label}
  {s t : Stage}

/-- What is seen of a step says what the next moment is. -/
lemma Step.unique (step : Step m l n) (step' : Step m l n') : n = n' := by
  cases step with
  | work h =>
    cases step' with
    | work h' => exact (Prod.mk.inj (Option.some.inj (h.symm.trans h'))).2
    | enter c' h' => cases h
    | reply r => cases h
  | enter c' h =>
    cases step' with
    | work h' => cases h'
    | enter c'' h' => exact Option.some.inj (h.symm.trans h')
  | reply r =>
    cases step' with
    | work h' => cases h'
    | reply r' => rfl

/-- What is seen of a run says where it leads. -/
lemma Run.unique {rule rule' : Rule} (run : Run rule m₀ ls n) (run' : Run rule' m₀ ls n') : n = n' := by
  induction run generalizing n' with
  | nil => exact run'.eq_of_nil.symm
  | snoc run step keeps ih =>
    obtain ⟨k, before, step', -⟩ := run'.last
    obtain rfl := ih before
    exact step.unique step'

/-- A company has one thing to do at most. -/
lemma Company.decided {l' : Label} {memory : Memory} (step : Step m l n) (step' : Step m l' n')
    (allows : K.allows pace memory l) (allows' : K.allows pace memory l') : l = l' := by
  -- A call at once comes before the reply, and a later one only if no reply is owed.
  have apart {owed : Option Request} {s s' : Stage} {c' : Call} {q : Request} {r : Except Fault (Reply q)}
      (calls : K.allows pace memory (.called owed s c')) (replies : K.allows pace memory (.replied s' q r)) :
      owed = none := by
    cases pace with
    | later => exact calls.2 rfl
    | atOnce =>
      have due := calls.1
      rw [replies.2 rfl] at due
      cases due
  cases step with
  | work h =>
    cases step' with
    | work h' => exact (Prod.mk.inj (Option.some.inj (h.symm.trans h'))).1
    | enter c' h' => cases h
    | reply r => cases h
  | enter c' h =>
    cases step' with
    | work h' => cases h'
    | enter c'' h' =>
      obtain rfl : c' = c'' := Option.some.inj (allows.1.symm.trans allows'.1)
      rfl
    | reply r => cases apart allows allows'
  | reply r =>
    cases step' with
    | work h' => cases h'
    | enter c'' h' => cases apart allows' allows
    | reply r' =>
      obtain ⟨rfl, -⟩ := allows
      obtain ⟨rfl, -⟩ := allows'
      rfl

/-- A run that is finished goes on from every other one. -/
lemma Company.Finishes.goesOn (finishes : K.Finishes pace c s ls t)
    (run : Run (K.rule pace c) (.initial s) past n) : past <+: ls := by
  induction run with
  | nil => exact List.nil_prefix
  | @snoc past l n k run step keeps ih =>
    obtain ⟨rest, rfl⟩ := ih
    -- A finished run leaves nothing to be done, and otherwise both runs do the one thing there is to do.
    cases rest with
    | nil =>
      rw [List.append_nil] at finishes
      obtain rfl := run.unique finishes.run
      cases step with
      | work h => cases h
      | enter c' h =>
        have due := keeps.1
        rw [finishes.free] at due
        cases due
    | cons l' rest =>
      obtain ⟨k', k'', before, step', keeps', -⟩ := finishes.run.split
      obtain rfl := before.unique run
      obtain rfl := Company.decided step step' keeps keeps'
      exact ⟨rest, by rw [List.append_assoc, List.singleton_append]⟩

variable {k : Nat} {memory : Memory} {signs : List Sign}

/-- Nothing is reached in more steps than a finished run has. -/
lemma Company.Finishes.le_length (finishes : K.Finishes pace c s ls t)
    (reaches : K.Reaches pace c s k m memory signs) : k ≤ ls.length := by
  obtain ⟨past, run, long, -⟩ := reaches
  exact Nat.le_trans long (finishes.goesOn run).length_le

/-- There is one way to finish at most. -/
lemma Company.Finishes.unique (finishes : K.Finishes pace c s ls t) {t' : Stage}
    (reaches : K.Reaches pace c s k ⟨.surroundings t', []⟩ memory signs) (free : memory.due = none) :
    t' = t ∧ performance ls = signs := by
  obtain ⟨past, run, -, rfl, rfl⟩ := reaches
  have finishes' : K.Finishes pace c s past t' := ⟨run, free⟩
  obtain rfl := (finishes.goesOn run).eq_of_length_le (finishes'.goesOn finishes.run).length_le
  cases run.unique finishes.run
  exact ⟨rfl, rfl⟩

end Runs

/-! ## Steps of a company -/

namespace Company

variable (K : Company) (pace : Pace)

/-- The one step that there is to do, if any. -/
def next? (memory : Memory) : Moment → Option (Label × Moment)
  | ⟨.stage act, ps⟩ => Moment.work? ⟨.stage act, ps⟩
  | ⟨.surroundings s, []⟩ =>
    memory.due.map fun c => (.called none s c, ⟨.stage (.call (c.play s)), []⟩)
  | ⟨.surroundings s, p :: ps⟩ =>
    match pace, memory.due with
    | .atOnce, some c =>
      (Moment.enter? ⟨.surroundings s, p :: ps⟩ c).map fun n => (.called (some p.request) s c, n)
    | _, _ => some (.replied s p.request (.ok (K.reply p.request)),
        ⟨.stage (p.resume (.ok (K.reply p.request)) s), ps⟩)

/-- What is seen of a number of steps, what the company remembers after them, and the moment that they lead
to. There are fewer steps if nothing is left to be done. -/
def follow : Nat → Memory → Moment → List Label × Memory × Moment
  | 0, memory, m => ([], memory, m)
  | n + 1, memory, m =>
    match K.next? pace memory m with
    | none => ([], memory, m)
    | some (l, m') =>
      (l :: (follow n (K.heed memory l) m').1, (follow n (K.heed memory l) m').2)

variable {K pace} {memory : Memory} {m m' : Moment} {l : Label}

/-- The next step is one, and the company allows it. -/
lemma step_of_next (h : K.next? pace memory m = some (l, m')) : Step m l m' ∧ K.allows pace memory l := by
  obtain ⟨control, ps⟩ := m
  -- The stage works as far as it can; only when nothing is left to do is a call made or a reply given.
  cases control with
  | stage act =>
    have step : Step ⟨.stage act, ps⟩ l m' := .work h
    refine ⟨step, ?_⟩
    cases l with
    | called owed s c => cases step.fits.1
    | replied s q r => cases step.fits
    | _ => trivial
  | surroundings s =>
    cases ps with
    | nil =>
      obtain ⟨c, due, e⟩ := Option.map_eq_some_iff.mp h
      cases e
      exact ⟨.enter c rfl, due, fun _ => rfl⟩
    | cons p ps =>
      simp only [next?] at h
      split at h
      · rename_i due
        obtain ⟨n, enters, e⟩ := Option.map_eq_some_iff.mp h
        cases e
        exact ⟨.enter _ enters, due, Pace.noConfusion⟩
      · rename_i other
        cases h
        refine ⟨.reply _, rfl, fun atOnce => ?_⟩
        subst atOnce
        cases due : memory.due with
        | none => rfl
        | some c => exact (other c rfl due).elim

/-- Following a company a number of steps is a run of it, and the company remembers it. -/
lemma run_follow {c : Call} {m₀ : Moment} {past : List Label} (n : Nat) (run : Run (K.rule pace c) m₀ past m) :
    Run (K.rule pace c) m₀ (past ++ (K.follow pace n (K.recollect c past) m).1)
        (K.follow pace n (K.recollect c past) m).2.2 ∧
      K.recollect c (past ++ (K.follow pace n (K.recollect c past) m).1) =
        (K.follow pace n (K.recollect c past) m).2.1 := by
  induction n generalizing past m with
  | zero => simpa only [follow, List.append_nil, and_true] using run
  | succ n ih =>
    unfold follow
    cases next : K.next? pace (K.recollect c past) m with
    | none => simpa only [List.append_nil, and_true] using run
    | some after =>
      obtain ⟨l, m'⟩ := after
      obtain ⟨step, allows⟩ := step_of_next next
      have rest := ih (run.snoc step allows)
      rw [recollect_concat, List.append_assoc] at rest
      exact rest

end Company

end Parley
