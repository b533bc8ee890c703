import Parley.Proofs.Session.Calls

/-!
# Rehearsal

Surroundings that follow a plan. A plan is a list of moves, and every request is replied to in the plainest
way. What is seen of a rehearsal can be computed, and `run_rehearse` says that it is a run.
-/

namespace Parley

/-- A stage with an agent who has two lines to say. -/
def monologue : Stage where
  agents _ := { name := ['a'], dialog := { nodes := [{ lines := [{ text := ['b'] }, { text := ['c'] }] }] } }
  presenter := some 0
  exitObservers := [1]

/-- The stage with the two lines is fresh. -/
lemma fresh_monologue : monologue.Fresh :=
  ⟨rfl, rfl, rfl, rfl, rfl, rfl⟩

/-- What a plan does next. -/
inductive Move where
  /-- The stage takes a step. -/
  | work
  | call (c : Call)
  | reply

/-- The plainest reply to a request. -/
def Request.plainReply : (q : Request) → Reply q
  | .keyword _ _ => none
  | .function _ _ _ => none
  | .images _ => []
  | .show _ _ _ | .observeLine _ _ _ | .query _ _ | .close _ _ | .observeStart _ _ | .observeExit _ _
  | .onExit _ _ | .handle _ _ => ()

namespace Moment

/-- What is seen of a move, and the moment after it, if it can be made. -/
def move? (m : Moment) : Move → Option (Label × Moment)
  | .work => m.work?
  | .call c =>
    match m with
    | ⟨.stage _, _⟩ => none
    | ⟨.surroundings s, ps⟩ =>
      (enter? ⟨.surroundings s, ps⟩ c).map fun n => (.called (Pending.owed? ps) s c, n)
  | .reply =>
    match m with
    | ⟨.surroundings s, p :: ps⟩ =>
      some (.replied s p.request (.ok p.request.plainReply),
        ⟨.stage (p.resume (.ok p.request.plainReply) s), ps⟩)
    | _ => none

/-- What is seen of a plan, and the moment after it. Moves that cannot be made are left out. -/
def rehearse (m : Moment) : List Move → List Label × Moment
  | [] => ([], m)
  | move :: moves =>
    match m.move? move with
    | none => m.rehearse moves
    | some (l, n) => (l :: (n.rehearse moves).1, (n.rehearse moves).2)

/-- The stage when its surroundings have it. -/
def given (m : Moment) : Stage :=
  match m.control with
  | .surroundings s => s
  | .stage _ => default

/-- The surroundings have control, and nobody waits for a reply. -/
def isOver (m : Moment) : Bool :=
  match m with
  | ⟨.surroundings _, []⟩ => true
  | _ => false

/-- When a rehearsal is over, the surroundings have the stage and nobody waits. -/
lemma eq_of_isOver {m : Moment} (h : m.isOver = true) : m = ⟨.surroundings m.given, []⟩ := by
  obtain ⟨control, ps⟩ := m
  cases control with
  | stage act => cases h
  | surroundings s =>
    cases ps with
    | nil => rfl
    | cons p ps => cases h

/-- A move that can be made is a step. -/
lemma step_of_move {m n : Moment} {move : Move} {l : Label} (h : m.move? move = some (l, n)) :
    Step m l n := by
  cases move with
  | work => exact .work h
  | call c =>
    obtain ⟨control, ps⟩ := m
    cases control with
    | stage act => cases h
    | surroundings s =>
      obtain ⟨n', enter, e⟩ := Option.map_eq_some_iff.mp h
      cases e
      exact .enter c enter
  | reply =>
    obtain ⟨control, ps⟩ := m
    cases control with
    | stage act => cases h
    | surroundings s =>
      cases ps with
      | nil => cases h
      | cons p ps =>
        cases h
        exact .reply _

/-- The check need only stand for the rule after what has been seen before. -/
lemma run_rehearse_after {rule : Rule} {check : Label → Bool} {m₀ m : Moment} {ls : List Label} {moves : List Move}
    (run : Run rule m₀ ls m)
    (sound : ∀ later l, later.all check = true → check l = true → rule (ls ++ later) l)
    (checked : (m.rehearse moves).1.all check = true) :
    Run rule m₀ (ls ++ (m.rehearse moves).1) (m.rehearse moves).2 := by
  induction moves generalizing m ls with
  | nil => simpa only [rehearse, List.append_nil] using run
  | cons move moves ih =>
    unfold rehearse at checked ⊢
    cases h : m.move? move with
    | none =>
      rw [h] at checked
      exact ih run sound checked
    | some ln =>
      obtain ⟨l, n⟩ := ln
      rw [h] at checked
      obtain ⟨first, rest⟩ := Bool.and_eq_true_iff.mp checked
      have keeps := sound [] l rfl first
      rw [List.append_nil] at keeps
      have sound (later : List Label) (l' : Label) (passed : later.all check = true) (passes : check l' = true) :
          rule (ls ++ [l] ++ later) l' := by
        rw [List.append_assoc]
        exact sound (l :: later) l' (by rw [List.all_cons, first, passed]; rfl) passes
      have whole := ih (run.snoc (step_of_move h) keeps) sound rest
      rw [List.append_assoc] at whole
      exact whole

/-- A rehearsal goes on with a run, if what is seen of it passes a check that the rule respects. -/
lemma run_rehearse_of_run {rule : Rule} {check : Label → Bool}
    (sound : ∀ past l, past.all check = true → check l = true → rule past l) {m₀ m : Moment}
    {ls : List Label} {moves : List Move} (run : Run rule m₀ ls m) (before : ls.all check = true)
    (checked : (m.rehearse moves).1.all check = true) :
    Run rule m₀ (ls ++ (m.rehearse moves).1) (m.rehearse moves).2 := by
  refine run_rehearse_after run (fun later l passed => sound _ l ?_) checked
  rw [List.all_append, before, passed]
  rfl

/-- A rehearsal in which all that is seen passes a check is a run, if the check stands for the rule. -/
theorem run_rehearse {rule : Rule} {m : Moment} {moves : List Move} {check : Label → Bool}
    (sound : ∀ past l, past.all check = true → check l = true → rule past l)
    (checked : (m.rehearse moves).1.all check = true) :
    Run rule m (m.rehearse moves).1 (m.rehearse moves).2 :=
  run_rehearse_after .nil sound checked

/-- The surroundings have control, and may make a call. -/
def isFree (m : Moment) : Bool :=
  match m.control with
  | .surroundings _ => Pending.isOpen m.pending
  | .stage _ => false

end Moment

section Run

variable {m₀ m : Moment} {ls : List Label}

/-- Surroundings that are held to nothing may follow any plan. -/
lemma Run.rehearse (run : Run Anything m₀ ls m) (moves : List Move) :
    Run Anything m₀ (ls ++ (m.rehearse moves).1) (m.rehearse moves).2 := by
  have anything (later : List Label) (l : Label) (_ : later.all (fun _ => true) = true) (_ : true = true) :
      Anything (ls ++ later) l := trivial
  exact Moment.run_rehearse_after run anything (List.all_eq_true.mpr fun _ _ => rfl)

/-- Any rehearsal is a run if the surroundings may do anything. -/
lemma Moment.run_rehearse_anything {moves : List Move} : Run Anything m (m.rehearse moves).1 (m.rehearse moves).2 :=
  Run.rehearse .nil moves

/-- When the surroundings have control, any call may come in. -/
lemma Run.enter (run : Run Anything m₀ ls m) (free : m.isFree = true) (c : Call) :
    Run Anything m₀ (ls ++ [.called (Pending.owed? m.pending) m.given c]) ⟨.stage (.call (c.play m.given)), m.pending⟩ := by
  obtain ⟨control, ps⟩ := m
  cases control with
  | stage act => cases free
  | surroundings s => exact run.snoc (.enter c (if_pos free)) trivial

end Run

end Parley
