import Parley.Proofs.Session.Likeness
import Parley.Proofs.Session.Pace

/-!
# Strictness

A script that is read strictly loses the responses behind lines that show nothing. What a stage does goes
on step by step as it does without them.

* `Moment.Mirrors`: two moments do the same from now on, on stages that are alike.
* `Rule.Blind`: the surroundings are not held to anything that only the responses of such lines could tell.
* `Step.mirrored` and `Run.mirrored`: what one stage does, the other does as well.

`strict_unnoticed` closes the file: nobody notices whether a script was read strictly.
-/

namespace Parley

/-- What is seen, with the stage hushed. -/
def Label.hushed : Label → Label
  | .silent => .silent
  | .told n => .told n
  | .began s => .began s.hushed
  | .asked s q => .asked s.hushed q
  | .answered s r => .answered s.hushed r
  | .called owed s c => .called owed s.hushed c
  | .replied s q r => .replied s.hushed q r

/-- The rule does not see the difference between stages that are alike. -/
def Rule.Blind (rule : Rule) : Prop :=
  ∀ {past past' l l'}, past.map Label.hushed = past'.map Label.hushed → l.hushed = l'.hushed →
    rule past l → rule past' l'

/-- From now on the two activities do the same, on stages that are alike. -/
inductive Activity.Mirrors : Activity → Activity → Prop
  | call {r r' : Routine Outcome} (goes : r.Mirrors Eq r') : Mirrors (.call r) (.call r')
  | run {r r' : Routine Unit} (a : Answer) (goes : r.Mirrors Eq r') : Mirrors (.run a r) (.run a r')

/-- When replied to alike, what is pending goes on the same on stages that are alike. -/
inductive Pending.Mirrors : Pending → Pending → Prop
  | call {q : Request} {k k' : Except Fault (Reply q) → Stage → Routine Outcome}
    (goes : ∀ reply {s t : Stage}, s.Like t → (k reply s).Mirrors Eq (k' reply t)) :
    Mirrors (.call q k) (.call q k')
  | run {q : Request} {k k' : Except Fault (Reply q) → Stage → Routine Unit} (a : Answer)
    (goes : ∀ reply {s t : Stage}, s.Like t → (k reply s).Mirrors Eq (k' reply t)) :
    Mirrors (.run a q k) (.run a q k')

/-- From now on the two moments do the same, on stages that are alike. -/
inductive Moment.Mirrors : Moment → Moment → Prop
  | stage {act act' : Activity} {ps ps' : List Pending} (goes : act.Mirrors act')
    (owed : List.Forall₂ Pending.Mirrors ps ps') : Mirrors ⟨.stage act, ps⟩ ⟨.stage act', ps'⟩
  | surroundings {s t : Stage} {ps ps' : List Pending} (like : s.Like t)
    (owed : List.Forall₂ Pending.Mirrors ps ps') : Mirrors ⟨.surroundings s, ps⟩ ⟨.surroundings t, ps'⟩

section Mirrors

variable {m m' n : Moment} {l : Label} {ls : List Label} {ps ps' : List Pending} {s t : Stage}

/-- Hushing what is seen leaves what everybody sees. -/
lemma performance_hushed (ls : List Label) : performance (ls.map Label.hushed) = performance ls := by
  unfold performance
  rw [List.filterMap_map]
  congr
  funext l
  cases l with
  | _ => rfl

/-- Those that mirror each other wait for the same replies. -/
lemma Pending.requests_mirrors (owed : List.Forall₂ Pending.Mirrors ps ps') :
    ps.map Pending.request = ps'.map Pending.request := by
  induction owed with
  | nil => rfl
  | cons first rest ih =>
    rw [List.map_cons, List.map_cons, ih]
    cases first with
    | call goes | run a goes => rfl

/-- Those that mirror each other owe the same reply. -/
lemma Pending.owed?_mirrors (owed : List.Forall₂ Pending.Mirrors ps ps') :
    Pending.owed? ps = Pending.owed? ps' := by
  unfold owed?
  rw [← List.head?_map, ← List.head?_map, requests_mirrors owed]

/-- Calls that mirror each other take steps that do. -/
lemma Routine.Mirrors.stepCall {r r' : Routine Outcome} (h : r.Mirrors Eq r')
    (owed : List.Forall₂ Pending.Mirrors ps ps') :
    (Moment.stepCall ps r).1.hushed = (Moment.stepCall ps' r').1.hushed ∧
      (Moment.stepCall ps r).2.Mirrors (Moment.stepCall ps' r').2 := by
  cases h with
  | tell goes => exact ⟨rfl, .stage (.call goes) owed⟩
  | @ask s t q k k' like goes =>
    exact ⟨congrArg (Label.asked · q) like, .surroundings like (.cons (.call goes) owed)⟩
  | @fault s t e like =>
    exact ⟨congrArg (Label.answered · (.error e)) like, .surroundings like owed⟩
  | @done s t a b like result =>
    subst result
    cases a with
    | answer a => exact ⟨congrArg (Label.answered · (.ok a)) like, .surroundings like owed⟩
    | run a =>
      simp only [Moment.stepCall]
      rw [like.view Stage.inRun fun _ => rfl]
      split
      · exact ⟨congrArg (Label.answered · (.ok a)) like, .surroundings like owed⟩
      · exact ⟨rfl, .stage (.run a (.done (like.looping true) rfl)) owed⟩

/-- Lines that mirror each other take steps that do. -/
lemma Routine.Mirrors.stepRun {r r' : Routine Unit} {a : Answer} (h : r.Mirrors Eq r')
    (owed : List.Forall₂ Pending.Mirrors ps ps') :
    (Moment.stepRun ps a r).1.hushed = (Moment.stepRun ps' a r').1.hushed ∧
      (Moment.stepRun ps a r).2.Mirrors (Moment.stepRun ps' a r').2 := by
  cases h with
  | tell goes => exact ⟨rfl, .stage (.run a goes) owed⟩
  | @ask s t q k k' like goes =>
    exact ⟨congrArg (Label.asked · q) like, .surroundings like (.cons (.run a goes) owed)⟩
  | @fault s t e like =>
    have off := like.looping false
    exact ⟨congrArg (Label.answered · (.error e)) off, .surroundings off owed⟩
  | @done s t _ _ like result =>
    have off := like.looping false
    have phase := like.view Stage.phase fun _ => rfl
    simp only [Moment.stepRun]
    by_cases running : t.phase = .running
    · rw [if_pos running, if_pos (phase.trans running)]
      exact ⟨congrArg Label.began like, .stage (.run a (Play.blind_runLine s t like)) owed⟩
    · rw [if_neg running, if_neg (phase ▸ running)]
      exact ⟨congrArg (Label.answered · (.ok a)) off, .surroundings off owed⟩

/-- What one of the moments does next, the other does as well. -/
lemma Step.mirrored (step : Step m l n) (h : m.Mirrors m') :
    ∃ l' n', Step m' l' n' ∧ l.hushed = l'.hushed ∧ n.Mirrors n' := by
  cases step with
  | work works =>
    cases h with
    | surroundings like owed => cases works
    | stage goes owed =>
      cases goes with
      | call goes =>
        obtain ⟨rfl, rfl⟩ := Prod.mk.inj (Option.some.inj works).symm
        obtain ⟨seen, next⟩ := goes.stepCall owed
        exact ⟨_, _, .work rfl, seen, next⟩
      | run a goes =>
        obtain ⟨rfl, rfl⟩ := Prod.mk.inj (Option.some.inj works).symm
        obtain ⟨seen, next⟩ := goes.stepRun owed
        exact ⟨_, _, .work rfl, seen, next⟩
  | @enter s ps _ c enters =>
    cases h with
    | @surroundings s t ps ps' like owed =>
      have same := Pending.owed?_mirrors owed
      have opens : Pending.isOpen ps = Pending.isOpen ps' := congrArg (fun o => o.all Request.isOpen) same
      simp only [Moment.enter?] at enters
      by_cases opened : Pending.isOpen ps = true
      · rw [if_pos opened] at enters
        obtain rfl := Option.some.inj enters
        refine ⟨.called (Pending.owed? ps') t c, _, .enter c (if_pos (opens ▸ opened)), ?_, ?_⟩
        · rw [same]
          exact congrArg (Label.called _ · c) like
        · exact .stage (.call (c.blind_play s t like)) owed
      · rw [if_neg opened] at enters
        cases enters
  | @reply s p ps r =>
    cases h with
    | @surroundings s t _ _ like owed =>
      cases owed with
      | @cons p p' ps ps' first rest =>
        -- The reply goes to the request that is out last, in both of them.
        cases first with
        | @call q k k' goes =>
          exact ⟨.replied t q r, _, .reply (p := .call q k') r, congrArg (Label.replied · q r) like,
            .stage (.call (goes r like)) rest⟩
        | @run q k k' a goes =>
          exact ⟨.replied t q r, _, .reply (p := .run a q k') r, congrArg (Label.replied · q r) like,
            .stage (.run a (goes r like)) rest⟩

/-- What one of the moments comes to, the other comes to as well, while everything that is seen is alike. -/
lemma Run.mirrored {rule : Rule} (blind : rule.Blind) (run : Run rule m ls n) (h : m.Mirrors m') :
    ∃ ls' n', Run rule m' ls' n' ∧ ls.map Label.hushed = ls'.map Label.hushed ∧ n.Mirrors n' := by
  induction run with
  | nil => exact ⟨[], m', .nil, rfl, h⟩
  | @snoc ls l n k run step keeps ih =>
    obtain ⟨ls', n', run', seen, mirrors⟩ := ih
    obtain ⟨l', k', step', same, mirrors'⟩ := step.mirrored mirrors
    refine ⟨ls' ++ [l'], k', run'.snoc step' (blind seen same keeps), ?_, mirrors'⟩
    rw [List.map_append, List.map_append, seen, List.map_singleton, List.map_singleton, same]

end Mirrors

/-- A company goes by what is handed to it and by nothing else. -/
lemma Company.blind_rule (K : Company) (pace : Pace) (c : Call) : (K.rule pace c).Blind := by
  intro past past' l l' seen same keeps
  have heeds (m : Memory) (l : Label) : K.heed m l.hushed = K.heed m l := by
    cases l with
    | _ => rfl
  have remembers (ls : List Label) : K.recollect c (ls.map Label.hushed) = K.recollect c ls := by
    unfold recollect
    rw [List.foldl_map]
    simp only [heeds]
  have allows (m : Memory) (l : Label) : K.allows pace m l.hushed ↔ K.allows pace m l := by
    cases l with
    | _ => rfl
  unfold rule at keeps ⊢
  rw [← allows, ← remembers, ← seen, ← same, remembers, allows]
  exact keeps

/-- The stage with an agent who has the dialog of a script, read strictly or not. -/
def Stage.cast (s : Stage) (a : AgentId) (strict : Bool) (t start : Text) : Stage :=
  s.updateAgent a fun x => { x with strict := strict, dialog := Script.parse strict t start }

/-- A stage is like the one with the script read the other way. -/
lemma Stage.like_cast (s : Stage) (a : AgentId) (t start : Text) (b b' : Bool) :
    (s.cast a b t start).Like (s.cast a b' t start) := by
  have same (b : Bool) : (Script.parse b t start).hushed = (Script.parse false t start).hushed := by
    cases b with
    | false => rfl
    | true => rw [Script.parse_true, Dialog.hushed_hushed]
  have hushed (b : Bool) : (s.cast a b t start).hushed =
      s.hushed.updateAgent a fun x => { x with strict := false, dialog := (Script.parse false t start).hushed } := by
    apply hushed_updateAgent
    simp only [Agent.hushed, same b]
  unfold Like
  rw [hushed, hushed]

/-- A script that is read strictly loses the responses behind lines that show nothing, and nothing else. In a
run nobody notices: whenever the surroundings have control, they have seen the same and owe the same replies,
and the stages differ in nothing else. -/
theorem strict_unnoticed (t start : Text) :
    Script.parse true t start = (Script.parse false t start).hushed ∧
      ∀ (rule : Rule) (s u : Stage) (a : AgentId) (b b' : Bool) (ls : List Label) (ps : List Pending),
        rule.Blind → Run rule (.initial (s.cast a b t start)) ls ⟨.surroundings u, ps⟩ →
        ∃ ls' u' ps', Run rule (.initial (s.cast a b' t start)) ls' ⟨.surroundings u', ps'⟩ ∧
          performance ls' = performance ls ∧ ps'.map Pending.request = ps.map Pending.request ∧
            u'.history = u.history ∧ u'.vars = u.vars ∧ u'.hushed = u.hushed := by
  refine ⟨Script.parse_true t start, fun rule s u a b b' ls ps blind run => ?_⟩
  have alike : Moment.Mirrors (.initial (s.cast a b t start)) (.initial (s.cast a b' t start)) :=
    .surroundings (s.like_cast a t start b b') .nil
  obtain ⟨ls', n', run', seen, mirrors⟩ := run.mirrored blind alike
  cases mirrors with
  | @surroundings _ u' _ ps' like owed =>
    have same : performance ls' = performance ls := by
      rw [← performance_hushed ls', ← seen, performance_hushed]
    exact ⟨ls', u', ps', run', same, (Pending.requests_mirrors owed).symm, (like.view Stage.history fun _ => rfl).symm,
      (like.view Stage.vars fun _ => rfl).symm, like.symm⟩

/-- A script with a response behind a line that shows nothing. -/
def aside : Text :=
  "#a\nSET: x = 1\n- yes => a\nA: hi".toList

namespace Company

/-- A reading of the script, which has been read leniently. -/
def readingAside : List Label × Memory × Moment :=
  reader.follow .atOnce 60 (reader.recollect (.initiate (some 0) none) [])
    (.initial (monologue.cast 0 false aside []))

end Company

/-- The response is lost, and a reader does not miss it. -/
theorem strict_unnoticed_aside : Script.parse true aside [] ≠ Script.parse false aside [] ∧
    ∃ ls' u' ps', Run (Company.reader.rule .atOnce (.initiate (some 0) none))
        (.initial (monologue.cast 0 true aside [])) ls' ⟨.surroundings u', ps'⟩ ∧
      performance ls' = performance Company.readingAside.1 ∧ ps'.map Pending.request = [] ∧
        u'.history = Company.readingAside.2.2.given.history ∧
          u'.vars = Company.readingAside.2.2.given.vars ∧
            u'.hushed = Company.readingAside.2.2.given.hushed := by
  have start : Run (Company.reader.rule .atOnce (.initiate (some 0) none))
      (.initial (monologue.cast 0 false aside [])) [] (.initial (monologue.cast 0 false aside [])) := .nil
  have run := (Company.run_follow 60 start).1
  have finished : Company.readingAside.2.2 = ⟨.surroundings Company.readingAside.2.2.given, []⟩ :=
    Moment.eq_of_isOver (by decide +kernel)
  refine ⟨by decide +kernel, ?_⟩
  refine (strict_unnoticed aside []).2 _ monologue _ 0 false true Company.readingAside.1 []
    (Company.reader.blind_rule .atOnce (.initiate (some 0) none)) ?_
  rw [← finished]
  exact run

end Parley
