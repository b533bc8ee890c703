import Parley.Proofs.Session.Contract
import Parley.Proofs.Session.Standing

/-!
# Farewell

What there is to see of the end of a session. Each session has a `Life` of its own, and `Passage` says what
may be seen of its end while it goes from one stage of life to another; what belongs to other sessions may
come in between. `Passage.trans` puts two passages together.
-/

namespace Parley

/-- The request is part of the end of a session. -/
def Request.ends (n : Nat) : Request → Bool
  | .close _ k | .observeExit _ k | .onExit _ k => k == n
  | .handle _ e => e.kind == .dialogEnded && e.session == some n
  | _ => false

/-- The request tells somebody of the end of a session without the bus in between. -/
def Request.isFarewell : Request → Bool
  | .close _ _ | .observeExit _ _ | .onExit _ _ => true
  | _ => false

/-- Nobody fails when told of the end of a session. -/
def Civil : Rule
  | _, .replied _ q r => q.isFarewell = true → r.isOk = true
  | _, _ => True

/-- What is seen of the end of a session. -/
def Label.ending? (n : Nat) : Label → Option Request
  | .asked _ q => if q.ends n then some q else none
  | _ => none

/-- The requests that are part of the end of a session, in the order in which they went out. -/
def endings (n : Nat) (ls : List Label) : List Request :=
  ls.filterMap (Label.ending? n)

/-- The stage as it is seen, if it is. -/
def Label.stage? : Label → Option Stage
  | .began s | .asked s _ | .answered s _ | .called _ s _ | .replied s _ _ => some s
  | .silent | .told _ => none

/-- Whenever a stage is seen, the surroundings have it or have had it and the contract holds, or a line is begun. -/
lemma Contract.of_seen {C : Contract} (honours : C.Honours) {s t : Stage} {l : Label} {l₁ l₂ : List Label} {m : Moment}
    (start : C.holds ⟨s, []⟩) (run : Run C.rule (.initial s) (l₁ ++ l :: l₂) m) (seen : l.stage? = some t) :
    (∃ past, (past = l₁ ∨ past = l₁ ++ [l] ∧ ∀ owed s' c, l ≠ .called owed s' c) ∧ C.holds ⟨t, past⟩) ∨
      l = .began t ∧ ∃ e, C.running e ⟨t, l₁⟩ := by
  obtain ⟨n, n', first, step, keeps, -⟩ := run.split
  have before := safe honours start first
  have after := safe honours start (first.snoc step keeps)
  have fits := step.fits
  unfold Safe at before after
  cases l with
  | silent | told => cases seen
  | began s' =>
    cases seen
    exact .inr ⟨rfl, (running_began honours start run).2⟩
  -- The surroundings have been given the stage.
  | asked s' q | answered s' r =>
    cases seen
    have given : n'.control = .surroundings t := fits
    rw [given] at after
    exact .inl ⟨_, .inr ⟨rfl, fun _ _ _ => Label.noConfusion⟩, after.1⟩
  -- The surroundings have had the stage.
  | called owed s' c =>
    cases seen
    rw [fits.1] at before
    exact .inl ⟨l₁, .inl rfl, before.1⟩
  | replied s' q r =>
    cases seen
    have given : n.control = .surroundings t := fits
    rw [given] at before
    exact .inl ⟨l₁, .inl rfl, before.1⟩

/-- All stages that are seen have a property. -/
def Always (p : Stage → Prop) (ls : List Label) : Prop :=
  ∀ l ∈ ls, ∀ s, l.stage? = some s → p s

/-! ## The course of a session -/

/-- How far a session has come. -/
inductive Life where
  | unborn
  | alive (onExit : Option Nat)
  | gone
  deriving DecidableEq

/-- How far a session has come on a stage. -/
def Stage.life (s : Stage) (n : Nat) : Life :=
  if s.started ≤ n then .unborn
  else
    match s.session with
    | none => .gone
    | some x => if x.number = n then .alive x.onExit else .gone

/-- Those who are told of the end of a session. -/
structure Audience where
  presenter : Option Nat
  observers : List Nat
  handlers : List HandlerId

/-- Those who are to be told of the end of a session. -/
def Stage.audience (s : Stage) : Audience :=
  ⟨s.presenter, s.exitObservers, (s.bus.map (·.handlers .dialogEnded)).getD []⟩

/-- The audience as it was last seen. -/
def Audience.after (a : Audience) (ls : List Label) : Audience :=
  ls.foldl (fun a l => (l.stage?.map Stage.audience).getD a) a

/-- Requests go out one after another, each when the one before has been replied to, and nothing else is
seen of the end of the session meanwhile. The stages are those at the first request and after the last
reply. -/
inductive Round (n : Nat) : List Request → Stage → List Label → Stage → Prop where
  | nil {s : Stage} : Round n [] s [] s
  | told {qs : List Request} {s s' : Stage} {notice : Notice} {ls : List Label} (rest : Round n qs s ls s') :
      Round n qs s (.told notice :: ls) s'
  | asked {q : Request} {qs : List Request} {s s' s'' : Stage} {r : Except Fault (Reply q)}
      {visit ls : List Label} (quiet : endings n visit = []) (rest : Round n qs s' ls s'') :
      Round n (q :: qs) s (.asked s q :: (visit ++ .replied s' q r :: ls)) s''

/-- A session is torn down once while this is seen: it ends, then the presenter of that time is closed,
then all observers who are there by then are told in their order, then all handlers who are there by then
in theirs, and then the callback of the session is called. -/
inductive Audience.Clears (a : Audience) (n : Nat) (onExit : Option Nat) : List Label → Prop where
  | intro {x : Session} {s₀ s₁ s₂ s₃ s₄ : Stage} {before closing observing handling calling after : List Label}
      (session : x.number = n ∧ x.onExit = onExit)
      (quiet : endings n before = [] ∧ endings n after = [])
      (going : Always (·.life n ≠ .gone) before)
      (gone : Always (·.life n = .gone) (closing ++ observing ++ handling ++ calling ++ after))
      (audience : s₀.audience = a.after before)
      (closes : Round n (s₀.audience.presenter.toList.map (.close · n)) s₀ closing s₁)
      (observes : Round n (s₁.audience.observers.map (.observeExit · n)) s₁ observing s₂)
      (handles : Round n (s₂.audience.handlers.map
        (.handle · ⟨.dialogEnded, some n, .session (s₂.agents x.agent).id x.node.name⟩)) s₂ handling s₃)
      (calls : Round n (onExit.toList.map (.onExit · n)) s₃ calling s₄) :
      a.Clears n onExit (before ++ (closing ++ observing ++ handling ++ calling ++ after))

/-- A call was made that opened a session with a callback for its end. -/
def Opened (n : Nat) (onExit : Option Nat) (ls : List Label) : Prop :=
  ∃ owed s c x, .called owed s c ∈ ls ∧ s.opening? c = some x ∧ x.number = n ∧ x.onExit = onExit

/-- What may be seen while a session comes from one stage of its life to another. -/
inductive Passage (n : Nat) (a : Audience) (ls : List Label) : Life → Life → Prop where
  | stays {l : Life} (quiet : endings n ls = []) (steady : Always (·.life n = l) ls) : Passage n a ls l l
  | opens {c : Option Nat} (opened : Opened n c ls) (quiet : endings n ls = [])
      (going : Always (·.life n ≠ .gone) ls) : Passage n a ls .unborn (.alive c)
  | clears {c : Option Nat} (clears : a.Clears n c ls) : Passage n a ls (.alive c) .gone
  | passes {c : Option Nat} (opened : Opened n c ls) (clears : a.Clears n c ls) :
      Passage n a ls .unborn .gone

section Passage

variable {n : Nat} {a : Audience} {c : Option Nat} {l : Label} {ls ls' : List Label}
variable {p : Stage → Prop}

/-- The ends that are seen in two parts are seen one part after the other. -/
lemma endings_append : endings n (ls ++ ls') = endings n ls ++ endings n ls' :=
  List.filterMap_append

/-- If neither of two parts has to do with the end of a session, both together have not. -/
lemma endings_append_eq_nil (h : endings n ls = []) (h' : endings n ls' = []) :
    endings n (ls ++ ls') = [] := by
  rw [endings_append, h, h', List.append_nil]

/-- The audience after two parts is that after the second, starting from the first. -/
lemma Audience.after_append : a.after (ls ++ ls') = (a.after ls).after ls' :=
  List.foldl_append

/-- Nothing is seen of any stage where nothing is seen. -/
lemma Always.nil : Always p [] :=
  fun _ mem => absurd mem List.not_mem_nil

/-- What holds of the one stage that is seen always holds. -/
lemma Always.single (h : ∀ s, l.stage? = some s → p s) : Always p [l] := by
  intro l' mem
  rw [List.mem_singleton.mp mem]
  exact h

/-- What always holds in two parts always holds. -/
lemma Always.append (h : Always p ls) (h' : Always p ls') : Always p (ls ++ ls') := by
  intro l mem
  rcases List.mem_append.mp mem with mem | mem
  · exact h l mem
  · exact h' l mem

/-- What always holds implies what always holds. -/
lemma Always.mono {q : Stage → Prop} (imp : ∀ s, p s → q s) (h : Always p ls) : Always q ls :=
  fun l mem s e => imp s (h l mem s e)

/-- A session that was opened stays so, whatever is seen next. -/
lemma Opened.append_right (h : Opened n c ls) : Opened n c (ls ++ ls') := by
  obtain ⟨owed, s, call, x, mem, h⟩ := h
  exact ⟨owed, s, call, x, List.mem_append_left _ mem, h⟩

/-- A session that was opened stays so, whatever was seen before. -/
lemma Opened.append_left (h : Opened n c ls') : Opened n c (ls ++ ls') := by
  obtain ⟨owed, s, call, x, mem, h⟩ := h
  exact ⟨owed, s, call, x, List.mem_append_right _ mem, h⟩

/-- A session that has been torn down stays so if nothing is seen of its end any more. -/
lemma Audience.Clears.append_right (h : a.Clears n c ls) (quiet : endings n ls' = [])
    (gone : Always (·.life n = .gone) ls') : a.Clears n c (ls ++ ls') := by
  cases h with
  | intro session quiet₀ going gone₀ audience closes observes handles calls =>
    rw [List.append_assoc, List.append_assoc (_ ++ _ ++ _ ++ _)]
    refine .intro session ⟨quiet₀.1, endings_append_eq_nil quiet₀.2 quiet⟩ going ?_ audience closes
      observes handles calls
    rw [← List.append_assoc]
    exact gone₀.append gone

/-- A session that is torn down may have gone on before, with nothing seen of its end. -/
lemma Audience.Clears.append_left (h : (a.after ls).Clears n c ls') (quiet : endings n ls = [])
    (going : Always (·.life n ≠ .gone) ls) : a.Clears n c (ls ++ ls') := by
  cases h with
  | intro session quiet₀ going₀ gone audience closes observes handles calls =>
    rw [← List.append_assoc]
    refine .intro session ⟨endings_append_eq_nil quiet quiet₀.1, quiet₀.2⟩ (going.append going₀) gone ?_
      closes observes handles calls
    rw [after_append]
    exact audience

/-- What is seen of a session on the way from one stage of its life to another, and on from there. -/
lemma Passage.trans {p q r : Life} (h : Passage n a ls p q) (h' : Passage n (a.after ls) ls' q r) :
    Passage n a (ls ++ ls') p r := by
  cases h with
  | stays quiet steady =>
    cases h' with
    | stays quiet' steady' => exact .stays (endings_append_eq_nil quiet quiet') (steady.append steady')
    | opens opened quiet' going =>
      have going' : Always (·.life n ≠ .gone) ls := steady.mono fun s e => by rw [e]; exact Life.noConfusion
      exact .opens opened.append_left (endings_append_eq_nil quiet quiet') (going'.append going)
    | clears clears =>
      have going : Always (·.life n ≠ .gone) ls := steady.mono fun s e => by rw [e]; exact Life.noConfusion
      exact .clears (clears.append_left quiet going)
    | passes opened clears =>
      have going : Always (·.life n ≠ .gone) ls := steady.mono fun s e => by rw [e]; exact Life.noConfusion
      exact .passes opened.append_left (clears.append_left quiet going)
  | opens opened quiet going =>
    cases h' with
    | stays quiet' steady =>
      have going' : Always (·.life n ≠ .gone) ls' := steady.mono fun s e => by rw [e]; exact Life.noConfusion
      exact .opens opened.append_right (endings_append_eq_nil quiet quiet') (going.append going')
    | clears clears => exact .passes opened.append_right (clears.append_left quiet going)
  | clears clears =>
    cases h' with
    | stays quiet' steady => exact .clears (clears.append_right quiet' steady)
  | passes opened clears =>
    cases h' with
    | stays quiet' steady => exact .passes opened.append_right (clears.append_right quiet' steady)

/-- Two rounds of requests are one round. -/
lemma Round.append {qs qs' : List Request} {s s' s'' : Stage} (h : Round n qs s ls s')
    (h' : Round n qs' s' ls' s'') : Round n (qs ++ qs') s (ls ++ ls') s'' := by
  induction h with
  | nil => exact h'
  | told rest ih => exact .told (ih h')
  | asked quiet rest ih =>
    simp only [List.cons_append, List.append_assoc]
    exact .asked quiet (ih h')

/-- A session that is over stays so, and nothing more is seen of its end. -/
lemma Passage.of_gone {p : Life} (h : Passage n a ls .gone p) :
    endings n ls = [] ∧ Always (·.life n = .gone) ls ∧ p = .gone := by
  cases h with
  | stays quiet steady => exact ⟨quiet, steady, rfl⟩

/-- A request has to do with the end of one session. -/
lemma Request.ends_unique {q : Request} {m : Nat} (h : q.ends n = true) (h' : q.ends m = true) :
    m = n := by
  cases q with
  | close p k => exact (beq_iff_eq.mp h').symm.trans (beq_iff_eq.mp h)
  | observeExit o k => exact (beq_iff_eq.mp h').symm.trans (beq_iff_eq.mp h)
  | onExit c k => exact (beq_iff_eq.mp h').symm.trans (beq_iff_eq.mp h)
  | handle g e =>
    have e₁ := beq_iff_eq.mp (Bool.and_eq_true_iff.mp h).2
    have e₂ := beq_iff_eq.mp (Bool.and_eq_true_iff.mp h').2
    exact Option.some.inj (e₂.symm.trans e₁)
  | _ => cases h

/-- Whoever is told of an end may turn to the stage. -/
lemma Request.isOpen_of_ends {q : Request} (h : q.ends n = true) : q.isOpen = true := by
  cases q with
  | keyword m key => cases h
  | _ => rfl

end Passage

/-- Stages that differ in other things have their sessions equally far. -/
lemma Stage.Alike.life {s t : Stage} (alike : s.Alike t) : t.life = s.life := by
  funext n
  have session := congrArg (Option.map fun k => (k.1, k.2.2)) alike.session
  rw [Option.map_map, Option.map_map] at session
  unfold Stage.life
  rw [alike.started]
  cases e : s.session with
  | none =>
    rw [e] at session
    rw [Option.map_eq_none_iff.mp session]
  | some x =>
    rw [e] at session
    obtain ⟨y, e', same⟩ := Option.map_eq_some_iff.mp session
    obtain ⟨number, onExit⟩ := Prod.mk.inj same
    rw [e']
    dsimp only at number onExit ⊢
    rw [number, onExit]

end Parley
