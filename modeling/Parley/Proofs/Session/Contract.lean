import Mathlib.Data.List.Induction
import Mathlib.Tactic.Lemma
import Parley.Session.Machine

/-!
# Contracts

What a stage and its surroundings may rely on in each other, however calls and requests nest. A contract
names a rule that the surroundings keep, what `holds` of every scene at which they have control, and how
the scenes before and after a `visit` of the surroundings are related. `Play.Does` says what a play does
while visits keep to the contract, and `Honours` says that all calls and lines keep to it in their turn.
`Contract.safe` closes the file: if a contract is honoured, it is kept in every run, at every depth.
-/

namespace Parley

/-- A stage, and what has been seen before. -/
structure Scene where
  stage : Stage
  past : List Label

namespace Scene

/-- The scene after something more has been seen. -/
def see (x : Scene) (l : Label) : Scene :=
  ⟨x.stage, x.past ++ [l]⟩

/-- The scene with another stage. -/
def on (x : Scene) (s : Stage) : Scene :=
  ⟨s, x.past⟩

/-- The scene after a request. -/
def asking (x : Scene) (q : Request) : Scene :=
  x.see (.asked x.stage q)

/-- The scene after a reply to a request. -/
def replying (x : Scene) (q : Request) (r : Except Fault (Reply q)) : Scene :=
  x.see (.replied x.stage q r)

/-- The scene after a call, which may come in while a request waits for its reply. -/
def calling (x : Scene) (owed : Option Request) (c : Call) : Scene :=
  x.see (.called owed x.stage c)

/-- The scene after the answer to a call. -/
def answering (x : Scene) (r : Except Fault Answer) : Scene :=
  x.see (.answered x.stage r)

/-- The scene after a line has been begun. -/
def beginning (x : Scene) : Scene :=
  x.see (.began x.stage)

/-- The scene at which the stage turns from a call to the lines that it has to run. -/
def turning (x : Scene) : Scene :=
  x.see .silent

/-- The scene with the loop that runs lines at work, or not. -/
def looping (x : Scene) (b : Bool) : Scene :=
  x.on { x.stage with inRun := b }

end Scene

/-- The surroundings may do anything. -/
def Anything : Rule :=
  fun _ _ => True

/-- What a stage and its surroundings rely on. -/
structure Contract where
  /-- What the surroundings are held to. -/
  rule : Rule
  /-- What holds whenever the surroundings have control. -/
  holds : Scene → Prop
  /-- How the scene changes while the surroundings have control. -/
  visit : Scene → Scene → Prop
  /-- How the scene changes from a call to each line that is run before its answer. -/
  running : Scene → Scene → Prop
  visit_refl : ∀ x, visit x x
  visit_trans : ∀ {x y z}, visit x y → visit y z → visit x z

namespace Contract

variable (C : Contract)

/-- The second scene keeps to the contract after the first. -/
structure Follows (x y : Scene) : Prop where
  holds : C.holds y
  visit : C.visit x y

/-- The scene at which a reply comes, given the one at which its request went out. The surroundings can
turn to the stage in between only if the request is an open one. -/
def Back (q : Request) (x y : Scene) : Prop :=
  if q.isOpen then C.Follows x y else y = x

end Contract

/-- From here on a routine keeps to a contract, and ends in a scene that fulfils a condition. -/
def Routine.Meets {α : Type} (C : Contract) (post : Scene → Except Fault α → Prop) :
    Routine α → List Label → Prop
  | .done s r, past => post ⟨s, past⟩ r
  | .tell n rest, past => rest.Meets C post (past ++ [.told n])
  | .ask s q k, past =>
    C.holds (Scene.asking ⟨s, past⟩ q) ∧
      ∀ y r, C.Back q (Scene.asking ⟨s, past⟩ q) y → C.rule y.past (.replied y.stage q r) →
        (k r y.stage).Meets C post (y.replying q r).past

/-- A play that starts in a scene keeps to a contract, and ends in a scene that fulfils a condition. -/
def Play.Does {α : Type} (p : Play α) (C : Contract) (x : Scene)
    (post : Scene → Except Fault α → Prop) : Prop :=
  (p x.stage).Meets C post x.past

namespace Contract

variable (C : Contract)

/-- How a call ends: it is answered, or the loop starts to run lines. -/
def afterCall (x y : Scene) : Except Fault Outcome → Prop
  | .error e => C.Follows x (y.answering (.error e))
  | .ok (.answer a) => C.Follows x (y.answering (.ok a))
  | .ok (.run a) =>
    if y.stage.inRun then C.Follows x (y.answering (.ok a)) else C.running x (y.looping true).turning

/-- How a line ends: the call is answered with its fault, or the loop goes on. -/
def afterLine (x y : Scene) : Except Fault Unit → Prop
  | .error e => C.Follows x ((y.looping false).answering (.error e))
  | .ok () => C.running x y

/-- Every call and every line keeps to the contract. -/
structure Honours : Prop where
  call : ∀ {x owed c}, C.holds x → C.rule x.past (.called owed x.stage c) →
    c.play.Does C (x.calling owed c) (C.afterCall x)
  line : ∀ {x y}, C.running x y → y.stage.phase = .running →
    Play.runLine.Does C y.beginning (C.afterLine x)
  rest : ∀ {x y}, C.running x y → y.stage.phase ≠ .running →
    ∀ a, C.Follows x ((y.looping false).answering (.ok a))

end Contract

section Meets

variable {α β : Type} {C : Contract} {post post' : Scene → Except Fault α → Prop}

/-- A routine fulfils less than it fulfils. -/
lemma Routine.Meets.mono {r : Routine α} {past : List Label}
    (imp : ∀ y a, post y a → post' y a) (h : r.Meets C post past) : r.Meets C post' past := by
  induction r generalizing past with
  | done s a => exact imp _ _ h
  | tell n rest ih => exact ih h
  | ask s q k ih =>
    refine ⟨h.1, ?_⟩
    intro y r back keeps
    exact ih _ _ (h.2 y r back keeps)

/-- What a routine has to fulfil so that another one may follow: a fault of it is the fault of both. -/
def Routine.Then (C : Contract) (f : α → Stage → Routine β) (post : Scene → Except Fault β → Prop)
    (y : Scene) : Except Fault α → Prop
  | .ok a => (f a y.stage).Meets C post y.past
  | .error e => post y (.error e)

/-- Two routines fulfil what the first has to fulfil for the second to follow. -/
lemma Routine.meets_bind {r : Routine α} {f : α → Stage → Routine β} {past : List Label}
    {post : Scene → Except Fault β → Prop} :
    (r.bind f).Meets C post past ↔ r.Meets C (Routine.Then C f post) past := by
  induction r generalizing past with
  | done s a => cases a <;> rfl
  | tell n rest ih => exact ih
  | ask s q k ih =>
    refine and_congr_right fun _ => ?_
    exact forall₂_congr fun y r => imp_congr_right fun _ => imp_congr_right fun _ => ih r y.stage

/-- Catching faults turns a fault into a result. -/
lemma Routine.meets_attempt {r : Routine α} {past : List Label}
    {post : Scene → Except Fault (Except Fault α) → Prop} :
    r.attempt.Meets C post past ↔ r.Meets C (fun y a => post y (.ok a)) past := by
  induction r generalizing past with
  | done s a => rfl
  | tell n rest ih => exact ih
  | ask s q k ih =>
    refine and_congr_right fun _ => ?_
    exact forall₂_congr fun y r => imp_congr_right fun _ => imp_congr_right fun _ => ih r y.stage

end Meets

namespace Play

variable {α β : Type} {C : Contract} {x : Scene} {post : Scene → Except Fault α → Prop}

/-- A play fulfils less than it fulfils. -/
lemma Does.mono {p : Play α} {post' : Scene → Except Fault α → Prop}
    (imp : ∀ y a, post y a → post' y a) (h : p.Does C x post) : p.Does C x post' :=
  Routine.Meets.mono imp h

/-- What a play has to fulfil so that another one may follow. -/
def Then (C : Contract) (f : α → Play β) (post : Scene → Except Fault β → Prop) (y : Scene) :
    Except Fault α → Prop
  | .ok a => (f a).Does C y post
  | .error e => post y (.error e)

/-- Two plays fulfil what the first has to fulfil for the second to follow. -/
lemma does_bind {p : Play α} {f : α → Play β} {post : Scene → Except Fault β → Prop} :
    (p >>= f).Does C x post ↔ p.Does C x (Then C f post) := by
  refine Routine.meets_bind.trans ?_
  constructor
  · exact Routine.Meets.mono fun y a h => by cases a <;> exact h
  · exact Routine.Meets.mono fun y a h => by cases a <;> exact h

/-- Looking at the stage fulfils what holds of the stage as it is. -/
lemma does_get {post : Scene → Except Fault Stage → Prop} :
    get.Does C x post ↔ post x (.ok x.stage) :=
  Iff.rfl

/-- Setting the stage fulfils what holds with the new one. -/
lemma does_set {s : Stage} {post : Scene → Except Fault Unit → Prop} :
    (set s).Does C x post ↔ post (x.on s) (.ok ()) :=
  Iff.rfl

/-- Changing the stage fulfils what holds with the changed one. -/
lemma does_modify {f : Stage → Stage} {post : Scene → Except Fault Unit → Prop} :
    (modify f).Does C x post ↔ post (x.on (f x.stage)) (.ok ()) :=
  Iff.rfl

/-- A report fulfils what holds once it has been seen. -/
lemma does_tell {n : Notice} {post : Scene → Except Fault Unit → Prop} :
    (tell n).Does C x post ↔ post (x.see (.told n)) (.ok ()) :=
  Iff.rfl

/-- A request fulfils what holds at every reply that keeps the rule, if the contract holds when it goes out. -/
lemma does_ask {q : Request} {post : Scene → Except Fault (Reply q) → Prop} :
    (ask q).Does C x post ↔ C.holds (x.asking q) ∧
      ∀ y r, C.Back q (x.asking q) y → C.rule y.past (.replied y.stage q r) →
        post (y.replying q r) r :=
  Iff.rfl

/-- Catching faults fulfils what holds with a fault as the result. -/
lemma does_attempt {p : Play α} {post : Scene → Except Fault (Except Fault α) → Prop} :
    p.attempt.Does C x post ↔ p.Does C x fun y a => post y (.ok a) :=
  Routine.meets_attempt

end Play

/-! ## Results -/

section Gives

variable {α β : Type}

/-- The routine can end with a result, if the surroundings reply and leave the stage in some way. -/
def Routine.Gives (a : α) : Routine α → Prop
  | .done _ r => r = .ok a
  | .tell _ rest => rest.Gives a
  | .ask _ _ k => ∃ r s, (k r s).Gives a

/-- The play can end with a result, from some stage. -/
def Play.Gives (p : Play α) (a : α) : Prop :=
  ∃ s, (p s).Gives a

/-- A play that gives a result after another one gives it after a result of the other one. -/
lemma Routine.gives_bind {r : Routine α} {f : α → Stage → Routine β} {b : β} (h : (r.bind f).Gives b) :
    ∃ a s, r.Gives a ∧ (f a s).Gives b := by
  induction r with
  | done s r =>
    cases r with
    | ok a => exact ⟨a, s, rfl, h⟩
    | error e => cases h
  | tell n rest ih => exact ih h
  | ask s q k ih =>
    obtain ⟨r, s', h⟩ := h
    obtain ⟨a, s'', first, second⟩ := ih r s' h
    exact ⟨a, s'', ⟨r, s', first⟩, second⟩

/-- What two plays give comes from something that the first gives. -/
lemma Play.gives_bind {p : Play α} {f : α → Play β} {b : β} (h : (p >>= f).Gives b) :
    ∃ a, p.Gives a ∧ (f a).Gives b := by
  obtain ⟨s, h⟩ := h
  obtain ⟨a, s', first, second⟩ := Routine.gives_bind h
  exact ⟨a, ⟨s, first⟩, s', second⟩

/-- A result that is there already is the only one given. -/
lemma Play.eq_of_gives_pure {a b : α} (h : (pure a : Play α).Gives b) : a = b := by
  obtain ⟨s, h⟩ := h
  exact Except.ok.inj h

/-- A routine that keeps to a contract ends with a result that it gives. -/
lemma Routine.Meets.gives {C : Contract} {r : Routine α} {post : Scene → Except Fault α → Prop}
    {past : List Label} (h : r.Meets C post past) :
    r.Meets C (fun y b => post y b ∧ ∀ a, b = .ok a → r.Gives a) past := by
  induction r generalizing past with
  | done s b => exact ⟨h, fun _ => id⟩
  | tell n rest ih => exact ih h
  | ask s q k ih =>
    refine ⟨h.1, ?_⟩
    intro y r back keeps
    refine (ih r y.stage (h.2 y r back keeps)).mono ?_
    exact fun z b known => ⟨known.1, fun a e => ⟨r, y.stage, known.2 a e⟩⟩

/-- A play that keeps to a contract ends with a result that it gives. -/
lemma Play.Does.gives {C : Contract} {p : Play α} {x : Scene} {post : Scene → Except Fault α → Prop}
    (h : p.Does C x post) : p.Does C x fun y b => post y b ∧ ∀ a, b = .ok a → p.Gives a :=
  Routine.Meets.mono (fun _ _ known => ⟨known.1, fun a e => ⟨x.stage, known.2 a e⟩⟩) (Routine.Meets.gives h)

end Gives

/-! ## Runs -/

section Runs

variable {rule : Rule} {m n k : Moment} {l : Label} {ls l₁ l₂ : List Label} {s : Stage}

/-- Something that is seen was seen before, or is what is seen last. -/
lemma append_singleton_split {l l' : Label} {ls l₁ l₂ : List Label} (e : ls ++ [l] = l₁ ++ l' :: l₂) :
    (l₂ = [] ∧ ls = l₁ ∧ l = l') ∨ ∃ l₃, l₂ = l₃ ++ [l] ∧ ls = l₁ ++ l' :: l₃ := by
  induction l₂ using List.reverseRecOn with
  | nil =>
    obtain ⟨front, last⟩ := List.append_inj' e rfl
    exact .inl ⟨rfl, front, (List.cons.inj last).1⟩
  | append_singleton l₃ l'' _ =>
    rw [← List.cons_append, ← List.append_assoc] at e
    obtain ⟨front, last⟩ := List.append_inj' e rfl
    exact .inr ⟨l₃, by rw [(List.cons.inj last).1], front⟩

/-- The last step of a run keeps the rule. -/
lemma Run.last (run : Run rule m (ls ++ [l]) k) : ∃ n, Run rule m ls n ∧ Step n l k ∧ rule ls l := by
  generalize e : ls ++ [l] = ls' at run
  cases run with
  | nil => simp at e
  | @snoc ls' l' n k run step keeps =>
    obtain ⟨rfl, last⟩ := List.append_inj' e rfl
    obtain rfl : l = l' := (List.cons.inj last).1
    exact ⟨n, run, step, keeps⟩

/-- A run in which nothing is seen goes nowhere. -/
lemma Run.eq_of_nil (run : Run rule m [] k) : k = m := by
  generalize e : [] = ls at run
  cases run with
  | nil => rfl
  | snoc run step keeps => simp at e

/-- A run can be cut in two, of which the second is held to nothing. -/
lemma Run.cut (run : Run rule m (l₁ ++ l₂) k) : ∃ n, Run rule m l₁ n ∧ Run Anything n l₂ k := by
  induction l₂ using List.reverseRecOn generalizing k with
  | nil => exact ⟨k, l₁.append_nil ▸ run, .nil⟩
  | append_singleton l₂ l ih =>
    rw [← List.append_assoc] at run
    obtain ⟨n, run, step, -⟩ := run.last
    obtain ⟨n', first, rest⟩ := ih run
    exact ⟨n', first, rest.snoc step trivial⟩

/-- A run can be cut around anything that is seen in it. -/
lemma Run.split (run : Run rule m (l₁ ++ l :: l₂) k) :
    ∃ n n', Run rule m l₁ n ∧ Step n l n' ∧ rule l₁ l ∧ Run Anything n' l₂ k := by
  rw [← List.singleton_append, ← List.append_assoc] at run
  obtain ⟨n', first, rest⟩ := run.cut
  obtain ⟨n, run, step, keeps⟩ := first.last
  exact ⟨n, n', run, step, keeps, rest⟩

/-- A run begins with a step. -/
lemma Run.first (run : Run rule m (l :: ls) k) : ∃ n, Step m l n ∧ Run Anything n ls k := by
  have run : Run rule m ([] ++ l :: ls) k := run
  obtain ⟨n, n', start, step, -, rest⟩ := run.split
  obtain rfl := start.eq_of_nil
  exact ⟨n', step, rest⟩

/-- What a label says about the moments around its step. -/
def Label.Fits (m n : Moment) : Label → Prop
  | .began s => s.phase = .running ∧ ∃ a, m.control = .stage (.run a (.done s (.ok ())))
  | .asked s _ | .answered s _ => n.control = .surroundings s
  | .called owed s c => m.control = .surroundings s ∧ owed = Pending.owed? m.pending ∧
    n = ⟨.stage (.call (c.play s)), m.pending⟩
  | .replied s _ _ => m.control = .surroundings s
  | _ => True

/-- What is seen fits the moments before and after it. -/
lemma Step.fits (step : Step m l n) : l.Fits m n := by
  cases step with
  | work h =>
    obtain ⟨c, ps⟩ := m
    cases c with
    | surroundings s => simp [Moment.work?] at h
    | stage act =>
      cases act with
      | call r =>
        have h : Moment.stepCall ps r = (l, n) := Option.some.inj h
        unfold Moment.stepCall Moment.answering at h
        split at h
        case h_5 => split at h <;> (cases h; trivial)
        all_goals (cases h; trivial)
      | run a r =>
        have h : Moment.stepRun ps a r = (l, n) := Option.some.inj h
        unfold Moment.stepRun Moment.answering at h
        split at h
        case h_4 =>
          split at h
          · rename_i running
            cases h
            exact ⟨running, a, rfl⟩
          · cases h
            trivial
        all_goals (cases h; trivial)
  | enter c h =>
    unfold Moment.enter? at h
    dsimp only at h
    split at h
    · exact ⟨rfl, rfl, (Option.some.inj h).symm⟩
    · cases h
  | reply r => rfl

end Runs

namespace Contract

variable (C : Contract)

/-- What the stage does from here on keeps to the contract, for a call that came in at another scene. -/
def Goes (entered : Scene → Prop) (past : List Label) : Activity → Prop
  | .call r => ∃ e, entered e ∧ r.Meets C (C.afterCall e) past
  | .run _ r => ∃ e, entered e ∧ r.Meets C (C.afterLine e) past

/-- What is still to come once the surroundings give control back keeps to the contract, for all requests
that have not been replied to. -/
def Owed (x₀ : Scene) : List Pending → Scene → Prop
  | [], x => C.visit x₀ x
  | p :: ps, x => ∃ a, C.Back p.request a x ∧
      ∀ y r, C.Back p.request a y → C.rule y.past (.replied y.stage p.request r) →
        C.Goes (fun e => Pending.isOpen ps ∧ Owed x₀ ps e) (y.replying p.request r).past
          (p.resume r y.stage)

/-- A moment from which on everything keeps to the contract. -/
def Safe (x₀ : Scene) (past : List Label) (m : Moment) : Prop :=
  match m.control with
  | .surroundings s => C.holds ⟨s, past⟩ ∧ C.Owed x₀ m.pending ⟨s, past⟩
  | .stage act => C.Goes (fun e => Pending.isOpen m.pending ∧ C.Owed x₀ m.pending e) past act

variable {C} {x₀ : Scene}

/-- A scene follows on itself, if the contract holds of it. -/
lemma Follows.refl {x : Scene} (h : C.holds x) : C.Follows x x :=
  ⟨h, C.visit_refl x⟩

/-- A scene follows on what the scenes before it follow on. -/
lemma Follows.trans {x y z : Scene} (h : C.Follows x y) (h' : C.Follows y z) : C.Follows x z :=
  ⟨h'.holds, C.visit_trans h.visit h'.visit⟩

/-- A reply may come at once. -/
lemma Back.refl {q : Request} {x : Scene} (h : C.holds x) : C.Back q x x := by
  unfold Back
  split
  · exact .refl h
  · rfl

/-- The scene at which a reply comes follows on the one of its request. -/
lemma Back.follows {q : Request} {x y : Scene} (h : C.holds x) (back : C.Back q x y) :
    C.Follows x y := by
  unfold Back at back
  split at back
  · exact back
  · subst back
    exact .refl h

/-- What is still owed is owed after another visit, if one may come in. -/
lemma Owed.follow {ps : List Pending} {x y : Scene} (h : C.Owed x₀ ps x) (opened : Pending.isOpen ps)
    (f : C.Follows x y) : C.Owed x₀ ps y := by
  cases ps with
  | nil => exact C.visit_trans h f.visit
  | cons p ps =>
    -- The visit is part of the one that began with the latest request; no other request is concerned.
    obtain ⟨a, back, goes⟩ := h
    refine ⟨a, ?_, goes⟩
    unfold Back at back ⊢
    have e : p.request.isOpen = true := opened
    rw [if_pos e] at back ⊢
    exact back.trans f

/-- A step inside the loop keeps to the contract. -/
lemma Goes.stepRun (honours : C.Honours) {ps : List Pending} {past : List Label} {a : Answer}
    {r : Routine Unit}
    (goes : C.Goes (fun e => Pending.isOpen ps ∧ C.Owed x₀ ps e) past (.run a r)) :
    C.Safe x₀ (past ++ [(Moment.stepRun ps a r).1]) (Moment.stepRun ps a r).2 := by
  obtain ⟨e, ⟨opened, owed⟩, meets⟩ := goes
  cases r with
  | tell n rest => exact ⟨e, ⟨opened, owed⟩, meets⟩
  | ask s q resume =>
    refine ⟨meets.1, Scene.asking ⟨s, past⟩ q, .refl meets.1, ?_⟩
    intro y r back keeps
    exact ⟨e, ⟨opened, owed⟩, meets.2 y r back keeps⟩
  | done s r =>
    cases r with
    | error f =>
      have follows : C.Follows e _ := meets
      exact ⟨follows.holds, owed.follow opened follows⟩
    | ok u =>
      have running : C.running e ⟨s, past⟩ := meets
      simp only [Moment.stepRun]
      by_cases h : s.phase = .running
      · rw [if_pos h]
        exact ⟨e, ⟨opened, owed⟩, honours.line running h⟩
      · rw [if_neg h]
        have follows := honours.rest running h a
        exact ⟨follows.holds, owed.follow opened follows⟩

/-- A step inside a call keeps to the contract. -/
lemma Goes.stepCall {ps : List Pending} {past : List Label} {r : Routine Outcome}
    (goes : C.Goes (fun e => Pending.isOpen ps ∧ C.Owed x₀ ps e) past (.call r)) :
    C.Safe x₀ (past ++ [(Moment.stepCall ps r).1]) (Moment.stepCall ps r).2 := by
  obtain ⟨e, ⟨opened, owed⟩, meets⟩ := goes
  cases r with
  | tell n rest => exact ⟨e, ⟨opened, owed⟩, meets⟩
  | ask s q resume =>
    refine ⟨meets.1, Scene.asking ⟨s, past⟩ q, .refl meets.1, ?_⟩
    intro y r back keeps
    exact ⟨e, ⟨opened, owed⟩, meets.2 y r back keeps⟩
  | done s r =>
    cases r with
    | error f =>
      have follows : C.Follows e _ := meets
      exact ⟨follows.holds, owed.follow opened follows⟩
    | ok o =>
      cases o with
      | answer a =>
        have follows : C.Follows e _ := meets
        exact ⟨follows.holds, owed.follow opened follows⟩
      | run a =>
        replace meets : C.afterCall e ⟨s, past⟩ (.ok (.run a)) := meets
        simp only [Moment.stepCall]
        -- The call is answered at once if a loop is at work further out, and otherwise begins one.
        simp only [afterCall] at meets
        by_cases h : s.inRun
        · rw [if_pos h] at meets ⊢
          exact ⟨meets.holds, owed.follow opened meets⟩
        · rw [if_neg h] at meets ⊢
          exact ⟨e, ⟨opened, owed⟩, meets⟩

/-- In a run that keeps the rule of a contract, everything keeps to the contract. -/
theorem safe (honours : C.Honours) {s : Stage} (start : C.holds ⟨s, []⟩) {ls : List Label} {m : Moment}
    (run : Run C.rule (.initial s) ls m) : C.Safe ⟨s, []⟩ ls m := by
  -- On the run: a step works on what has control, and adds or takes the latest request, so what is owed for
  -- those further out is carried along unchanged.
  induction run with
  | nil => exact ⟨start, C.visit_refl _⟩
  | @snoc ls l n k run step keeps ih =>
    cases step with
    | work h =>
      obtain ⟨c, ps⟩ := n
      cases c with
      | surroundings s => simp [Moment.work?] at h
      | stage act =>
        cases act with
        | call r =>
          obtain ⟨rfl, rfl⟩ := Prod.mk.inj (Option.some.inj h).symm
          exact Goes.stepCall ih
        | run a r =>
          obtain ⟨rfl, rfl⟩ := Prod.mk.inj (Option.some.inj h).symm
          exact Goes.stepRun honours ih
    | @enter s ps _ c h =>
      obtain ⟨holds, owed⟩ := ih
      simp only [Moment.enter?] at h
      by_cases opened : Pending.isOpen ps
      · rw [if_pos opened] at h
        cases h
        exact ⟨⟨s, ls⟩, ⟨opened, owed⟩, honours.call holds keeps⟩
      · simp [opened] at h
    | @reply s p ps r =>
      obtain ⟨_, _, back, goes⟩ := ih
      exact goes ⟨s, ls⟩ r back keeps

section Corollaries

variable {s : Stage} {ls l₁ l₂ : List Label} {m : Moment}

/-- When all requests have been replied to, all that has happened is a visit. -/
lemma visit_of_run (honours : C.Honours) (start : C.holds ⟨s, []⟩) {s' : Stage}
    (run : Run C.rule (.initial s) ls ⟨.surroundings s', []⟩) : C.visit ⟨s, []⟩ ⟨s', ls⟩ :=
  (safe honours start run).2

/-- The contract holds whenever a request goes out. -/
lemma holds_asked (honours : C.Honours) (start : C.holds ⟨s, []⟩) {s' : Stage} {q : Request}
    (run : Run C.rule (.initial s) (l₁ ++ .asked s' q :: l₂) m) :
    C.holds (Scene.asking ⟨s', l₁⟩ q) := by
  obtain ⟨n, n', run, step, keeps, -⟩ := run.split
  have safe := safe honours start (run.snoc step keeps)
  have e : n'.control = .surroundings s' := step.fits
  unfold Safe at safe
  rw [e] at safe
  exact safe.1

/-- The contract holds whenever a call comes in. -/
lemma holds_called (honours : C.Honours) (start : C.holds ⟨s, []⟩) {owed : Option Request} {s' : Stage}
    {c : Call} (run : Run C.rule (.initial s) (l₁ ++ .called owed s' c :: l₂) m) :
    C.holds ⟨s', l₁⟩ := by
  obtain ⟨n, n', run, step, keeps, -⟩ := run.split
  have safe := safe honours start run
  have e : n.control = .surroundings s' := step.fits.1
  unfold Safe at safe
  rw [e] at safe
  exact safe.1

/-- Whenever a line is begun, the stage is running, and the loop keeps to the contract. -/
lemma running_began (honours : C.Honours) (start : C.holds ⟨s, []⟩) {s' : Stage}
    (run : Run C.rule (.initial s) (l₁ ++ .began s' :: l₂) m) :
    s'.phase = .running ∧ ∃ e, C.running e ⟨s', l₁⟩ := by
  obtain ⟨n, n', run, step, keeps, -⟩ := run.split
  have safe := safe honours start run
  obtain ⟨running, a, e⟩ := step.fits
  unfold Safe at safe
  rw [e] at safe
  obtain ⟨e, _, meets⟩ := safe
  exact ⟨running, e, meets⟩

end Corollaries

end Contract

end Parley
