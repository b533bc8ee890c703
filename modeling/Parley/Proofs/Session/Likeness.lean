import Parley.Proofs.Script.Hushed
import Parley.Proofs.Session.Standing

/-!
# Likeness

Two stages are alike if they differ at most in the responses of lines that show nothing. Nothing that a stage
does hangs on the difference.

* `Stage.Like`: the relation, and what two stages that are alike have in common.
* `Routine.Mirrors`: two routines ask and report the same, and go on from stages that are alike.
* `mirrors_perform`: responses come to nobody unless their line is shown.
* `blind_runLine` and `Call.blind_play`: no line and no call sees the difference.
-/

namespace Parley

/-! ## Stages -/

/-- The session with its node hushed. -/
def Session.hushed (x : Session) : Session :=
  { x with node := x.node.hushed }

/-- The agent with its dialog hushed. How it reads scripts is left out. -/
def Agent.hushed (a : Agent) : Agent :=
  { a with strict := false, dialog := a.dialog.hushed }

/-- The stage with its agents and its session hushed. -/
def Stage.hushed (s : Stage) : Stage :=
  { s with
    agents := fun a => (s.agents a).hushed
    session := s.session.map Session.hushed }

/-- The stages differ at most in the responses of lines that show nothing. -/
def Stage.Like (s t : Stage) : Prop :=
  s.hushed = t.hushed

/-- If two options are alike under a function, both are empty or both hold something alike. -/
lemma alike_of_map {α β : Type} {f : α → β} {o o' : Option α} (h : o.map f = o'.map f) :
    (o = none ∧ o' = none) ∨ ∃ x x', o = some x ∧ o' = some x' ∧ f x = f x' := by
  cases o with
  | none => exact .inl ⟨rfl, Option.map_eq_none_iff.mp h.symm⟩
  | some x =>
    obtain ⟨x', e, same⟩ := Option.map_eq_some_iff.mp h.symm
    exact .inr ⟨x, x', rfl, e, same.symm⟩

/-- Lines with the same hushed form differ in their responses alone, and only if they show nothing. -/
lemma Line.eq_of_hushed {l l' : Line} (h : l.hushed = l'.hushed) :
    ∃ rs, l' = { l with responses := rs } ∧ (l.isSilent = false → rs = l.responses) := by
  have same : l.isSilent = l'.isSilent := by
    rw [← isSilent_hushed, h, isSilent_hushed]
  cases silent : l.isSilent with
  | false =>
    rw [hushed_of_shown silent, hushed_of_shown (same.symm.trans silent)] at h
    subst h
    exact ⟨l.responses, rfl, fun _ => rfl⟩
  | true =>
    rw [hushed_of_silent silent, hushed_of_silent (same.symm.trans silent)] at h
    refine ⟨l'.responses, ?_, Bool.noConfusion⟩
    exact (congrArg (fun m : Line => { m with responses := l'.responses }) h).symm

/-- Nodes with the same hushed form differ in their lines alone. -/
lemma Node.eq_of_hushed {n n' : Node} (h : n.hushed = n'.hushed) :
    ∃ ls, n' = { n with lines := ls } ∧ ls.map Line.hushed = n.lines.map Line.hushed := by
  refine ⟨n'.lines, ?_, (congrArg Node.lines h).symm⟩
  exact (congrArg (fun m : Node => { m with lines := n'.lines }) h).symm

/-- Sessions with the same hushed form differ in the lines of their node alone. -/
lemma Session.eq_of_hushed {x y : Session} (h : x.hushed = y.hushed) :
    ∃ ls, y = { x with node := { x.node with lines := ls } } ∧
      ls.map Line.hushed = x.node.lines.map Line.hushed := by
  have nodes : x.node.hushed = y.node.hushed := congrArg (fun z : Session => z.node) h
  obtain ⟨ls, node, lines⟩ := Node.eq_of_hushed nodes
  refine ⟨ls, ?_, lines⟩
  rw [← node]
  exact (congrArg (fun z : Session => { z with node := y.node }) h).symm

/-- The nodes of a hushed dialog are found by the same names. -/
lemma Dialog.hushed_node? (d : Dialog) (name : Text) :
    d.hushed.node? name = (d.node? name).map Node.hushed := by
  unfold Dialog.node? Dialog.hushed
  split
  · rfl
  · rw [List.find?_map]
    rfl

/-- A hushed dialog starts where the dialog does. -/
lemma Dialog.hushed_startNode? (d : Dialog) : d.hushed.startNode? = d.startNode?.map Node.hushed := by
  have start : d.hushed.node? d.start = _ := d.hushed_node? d.start
  have first : d.hushed.nodes.head? = d.nodes.head?.map Node.hushed := List.head?_map
  unfold startNode?
  rw [show d.hushed.start = d.start from rfl, start, first]
  cases d.node? d.start with
  | some n => rfl
  | none => rfl

/-- Hushing does not empty a dialog. -/
lemma Dialog.isEmpty_hushed (d : Dialog) : d.hushed.isEmpty = d.isEmpty := by
  unfold isEmpty hushed
  simp only [List.isEmpty_map]

/-- A line that is hushed is not hushed any further. -/
lemma Line.hushed_hushed (l : Line) : l.hushed.hushed = l.hushed := by
  cases silent : l.isSilent with
  | false => rw [hushed_of_shown silent, hushed_of_shown silent]
  | true => exact hushed_of_bare (by rw [hushed_of_silent silent])

/-- A dialog that is hushed is not hushed any further. -/
lemma Dialog.hushed_hushed (d : Dialog) : d.hushed.hushed = d.hushed := by
  have again (n : Node) : n.hushed.hushed = n.hushed := by
    simp [Node.hushed, Line.hushed_hushed]
  simp [hushed, again]

/-- An agent that reads its script strictly builds the hushed form of what it builds otherwise. -/
lemma Agent.build_hushed (a : Agent) (speaker : Text) :
    (a.hushed.build speaker).1.hushed = (a.build speaker).1.hushed ∧
      (a.hushed.build speaker).2 = (a.build speaker).2 := by
  have twice := Dialog.hushed_hushed
  unfold build
  rw [show a.hushed.dialog = a.dialog.hushed from rfl, Dialog.isEmpty_hushed]
  split
  · exact ⟨by simp only [hushed, twice], rfl⟩
  · rw [show a.hushed.source = a.source from rfl]
    cases a.source with
    | missing => exact ⟨by simp only [hushed, filled, twice], rfl⟩
    | dialog d => exact ⟨rfl, rfl⟩
    | json t =>
      dsimp only
      split
      · exact ⟨by simp only [hushed, filled, twice], rfl⟩
      · split
        · exact ⟨rfl, rfl⟩
        · exact ⟨by simp only [hushed, filled, twice], rfl⟩
    | staticText t => exact ⟨rfl, rfl⟩
    | script t start =>
      dsimp only
      split
      · exact ⟨by simp only [hushed, filled, twice], rfl⟩
      · refine ⟨?_, rfl⟩
        cases strict : a.strict with
        | false => simp only [hushed, filled, strict]
        | true => simp only [hushed, filled, strict, Script.parse_true, twice]

/-- An agent may be changed before or after the stage is hushed, if the changes agree. -/
lemma Stage.hushed_updateAgent (s : Stage) (a : AgentId) (f g : Agent → Agent)
    (same : (f (s.agents a)).hushed = g (s.agents a).hushed) :
    (s.updateAgent a f).hushed = s.hushed.updateAgent a g := by
  have agents : (fun b => (if b = a then f (s.agents b) else s.agents b).hushed) =
      fun b => if b = a then g (s.agents b).hushed else (s.agents b).hushed := by
    funext b
    by_cases here : b = a
    · subst here
      simp only [if_true, same]
    · simp only [if_neg here]
  exact congrArg (fun agents => { s.hushed with agents := agents }) agents

namespace Stage.Like

variable {s t : Stage} {α : Type}

/-- Likeness goes both ways. -/
lemma symm (h : s.Like t) : t.Like s :=
  Eq.symm h

/-- What does not see the difference shows the same of stages that are alike. -/
lemma view (h : s.Like t) (f : Stage → α) (keeps : ∀ s, f s.hushed = f s) : f s = f t := by
  rw [← keeps s, ← keeps t]
  exact congrArg f h

/-- A change that does not see the difference leaves stages alike. -/
lemma change {f : Stage → Stage} (commutes : ∀ s, (f s).hushed = f s.hushed) (h : s.Like t) :
    (f s).Like (f t) := by
  unfold Like
  rw [commutes, commutes]
  exact congrArg f h

/-- Stages that are alike may both be marked as running, or as not. -/
lemma looping (h : s.Like t) (b : Bool) : ({ s with inRun := b } : Stage).Like { t with inRun := b } :=
  h.change (f := fun u => { u with inRun := b }) fun _ => rfl

/-- The agents of stages that are alike are alike. -/
lemma agent (h : s.Like t) (a : AgentId) : (s.agents a).hushed = (t.agents a).hushed :=
  congrArg (fun u : Stage => u.agents a) h

/-- The agents of stages that are alike have the same names. -/
lemma id (h : s.Like t) (a : AgentId) : (s.agents a).id = (t.agents a).id :=
  h.view (fun u => (u.agents a).id) fun _ => rfl

/-- Stages that are alike are both without a session, or their sessions differ in the lines of the node alone. -/
lemma session (h : s.Like t) : (s.session = none ∧ t.session = none) ∨
    ∃ x ls, s.session = some x ∧ t.session = some { x with node := { x.node with lines := ls } } ∧
      ls.map Line.hushed = x.node.lines.map Line.hushed := by
  have same : s.session.map Session.hushed = t.session.map Session.hushed := congrArg Stage.session h
  obtain absent | ⟨x, y, e, e', alike⟩ := alike_of_map same
  · exact .inl absent
  · obtain ⟨ls, rfl, lines⟩ := Session.eq_of_hushed alike
    exact .inr ⟨x, ls, e, e', lines⟩

/-- Stages that are alike have the same members. -/
lemma members (h : s.Like t) : s.members = t.members := by
  refine h.view Stage.members ?_
  intro s
  unfold Stage.members Stage.hushed
  cases s.session with
  | none => rfl
  | some x => rfl

/-- The agents in session on stages that are alike are alike. -/
lemma currentAgent (h : s.Like t) :
    s.currentAgent?.map Agent.hushed = t.currentAgent?.map Agent.hushed := by
  have hushed (u : Stage) : u.currentAgent?.map Agent.hushed = u.hushed.currentAgent? := by
    unfold currentAgent? Stage.hushed
    cases u.session with
    | none => rfl
    | some x => rfl
  rw [hushed, hushed, h]

/-- Stages that are alike know the same keywords. -/
lemma keyword (h : s.Like t) (key : Text) : s.keyword? key = t.keyword? key := by
  have name (u : Stage) : u.currentAgent?.map Agent.displayName =
      (u.currentAgent?.map Agent.hushed).map Agent.displayName := by
    rw [Option.map_map]
    rfl
  have player : s.playerName = t.playerName := h.view Stage.playerName fun _ => rfl
  unfold keyword?
  rw [player, name s, name t, h.currentAgent]

/-- A name leads to nodes that are alike on stages that are alike. -/
lemma node (h : s.Like t) (name : Text) :
    (s.node? name).map Node.hushed = (t.node? name).map Node.hushed := by
  have hushed (u : Stage) : (u.node? name).map Node.hushed =
      (u.currentAgent?.map Agent.hushed).bind fun a => a.dialog.node? name := by
    unfold Stage.node?
    cases u.currentAgent? with
    | none => rfl
    | some a => exact (a.dialog.hushed_node? name).symm
  rw [hushed, hushed, h.currentAgent]

/-- The current lines of stages that are alike are alike. -/
lemma currentLine (h : s.Like t) :
    s.currentLine?.map Line.hushed = t.currentLine?.map Line.hushed := by
  obtain ⟨e, e'⟩ | ⟨x, ls, e, e', lines⟩ := h.session
  · simp only [currentLine?, e, e', Option.bind_none]
  · simp only [currentLine?, e, e', Option.bind_some, ← List.getElem?_map, lines]

/-- A link leads nowhere on both of two stages that are alike, or to nodes that are alike. -/
lemma targetOf (h : s.Like t) (link : Text) : (Play.targetOf s link = none ∧ Play.targetOf t link = none) ∨
    ∃ n n', Play.targetOf s link = some n ∧ Play.targetOf t link = some n' ∧ n.hushed = n'.hushed := by
  have linked : (s.currentLine?.bind fun l => s.node? l.link).map Node.hushed =
      (t.currentLine?.bind fun l => t.node? l.link).map Node.hushed := by
    obtain ⟨e, e'⟩ | ⟨l, l', e, e', alike⟩ := alike_of_map h.currentLine
    · rw [e, e', Option.bind_none, Option.bind_none]
    · obtain ⟨rs, rfl, -⟩ := Line.eq_of_hushed alike
      rw [e, e', Option.bind_some, Option.bind_some]
      exact h.node l.link
  apply alike_of_map
  unfold Play.targetOf
  rw [Option.map_or, Option.map_or, h.node, linked]

/-- A test of visits comes out the same on stages that are alike. -/
lemma countTest (h : s.Like t) (test : Text) : s.countTest test = t.countTest test := by
  have id (u : Stage) (a : Agent) : u.vars.visits a.id = u.vars.visits a.hushed.id := rfl
  have vars : s.vars = t.vars := h.view Stage.vars fun _ => rfl
  unfold Stage.countTest
  obtain ⟨e, e'⟩ | ⟨a, b, e, e', alike⟩ := alike_of_map h.currentAgent
  · rw [e, e']
  · rw [e, e']
    cases test with
    | nil => rfl
    | cons operator number =>
      dsimp only
      rw [vars, id t a, id t b, alike]

/-- Stages that are alike stay alike when nodes that are alike are entered. -/
lemma entered {n n' : Node} (h : s.Like t) (nodes : n.hushed = n'.hushed) :
    ({ s with session := s.session.map fun x => { x with node := n, index := 0 } } : Stage).Like
      { t with session := t.session.map fun x => { x with node := n', index := 0 } } := by
  have hushed (u : Stage) (m : Node) :
      ({ u with session := u.session.map fun x => { x with node := m, index := 0 } } : Stage).hushed =
        { u.hushed with session := u.hushed.session.map fun x => { x with node := m.hushed, index := 0 } } := by
    unfold Stage.hushed
    cases u.session with
    | none => rfl
    | some x => rfl
  unfold Like
  rw [hushed, hushed, nodes, show s.hushed = t.hushed from h]

/-- A built-in function gives the same on stages that are alike, and leaves them alike. -/
lemma callBuiltIn (h : s.Like t) (name parameter : Text) :
    (s.callBuiltIn name parameter).1 = (t.callBuiltIn name parameter).1 ∧
      (s.callBuiltIn name parameter).2.Like (t.callBuiltIn name parameter).2 := by
  have hushed (u : Stage) : (u.callBuiltIn name parameter).1 = (u.hushed.callBuiltIn name parameter).1 ∧
      (u.callBuiltIn name parameter).2.hushed = (u.hushed.callBuiltIn name parameter).2 := by
    unfold Stage.callBuiltIn
    rw [show u.hushed.vars = u.vars from rfl]
    dsimp only
    split
    · cases e : u.session with
      | none => simp [Stage.hushed, e]
      | some x =>
        let disable (a : Agent) : Agent := { a with enabled := false }
        have disabled := hushed_updateAgent u x.agent disable disable rfl
        simp only [show u.hushed.session = _ from congrArg (Option.map Session.hushed) e, Option.map_some]
        exact ⟨trivial, disabled⟩
    · repeat' split
      all_goals exact ⟨rfl, rfl⟩
  obtain ⟨result, stage⟩ := hushed s
  obtain ⟨result', stage'⟩ := hushed t
  unfold Like
  rw [result, result', stage, stage', show s.hushed = t.hushed from h]
  trivial

/-- A setting is answered the same on stages that are alike, and leaves them alike. -/
lemma adjust (h : s.Like t) (change : Adjustment) :
    (s.adjust change).1 = (t.adjust change).1 ∧ (s.adjust change).2.Like (t.adjust change).2 := by
  have hushed (u : Stage) : (u.adjust change).1 = (u.hushed.adjust change).1 ∧
      (u.adjust change).2.hushed = (u.hushed.adjust change).2 := by
    cases change with
    | addResponder m =>
      unfold Stage.adjust
      rw [show u.hushed.responders = u.responders from rfl]
      by_cases mem : m ∈ u.responders
      · simp only [if_pos mem, and_self]
      · simp only [if_neg mem]
        exact ⟨trivial, rfl⟩
    | setSource a source => exact ⟨rfl, hushed_updateAgent u a _ (fun b => b.setSource source) rfl⟩
    | clearDialog a => exact ⟨rfl, hushed_updateAgent u a _ Agent.clear rfl⟩
    | setNickname a name => exact ⟨rfl, hushed_updateAgent u a _ (fun b => { b with nickname := name }) rfl⟩
    | _ => exact ⟨rfl, rfl⟩
  obtain ⟨answer, stage⟩ := hushed s
  obtain ⟨answer', stage'⟩ := hushed t
  unfold Like
  rw [answer, answer', stage, stage', show s.hushed = t.hushed from h]
  trivial

/-- Agents of stages that are alike build dialogs that are alike, and fail alike. -/
lemma build (h : s.Like t) (a : AgentId) (speaker : Text) :
    ((s.agents a).build speaker).1.hushed = ((t.agents a).build speaker).1.hushed ∧
      ((s.agents a).build speaker).2 = ((t.agents a).build speaker).2 := by
  obtain ⟨agent, failure⟩ := (s.agents a).build_hushed speaker
  obtain ⟨agent', failure'⟩ := (t.agents a).build_hushed speaker
  rw [← agent, ← agent', ← failure, ← failure', h.agent]
  exact ⟨rfl, rfl⟩

/-- Stages that are alike stay alike when an agent is replaced by ones that are alike. -/
lemma updated {b c : Agent} (h : s.Like t) (a : AgentId) (same : b.hushed = c.hushed) :
    (s.updateAgent a fun _ => b).Like (t.updateAgent a fun _ => c) := by
  have hushed (u : Stage) (d : Agent) :
      (u.updateAgent a fun _ => d).hushed = u.hushed.updateAgent a fun _ => d.hushed :=
    hushed_updateAgent u a _ _ rfl
  unfold Like
  rw [hushed, hushed, same, show s.hushed = t.hushed from h]

/-- Agents of stages that are alike have no start node both, or start nodes that differ in their lines alone. -/
lemma startNode (h : s.Like t) (a : AgentId) : ((s.agents a).dialog.startNode? = none ∧
    (t.agents a).dialog.startNode? = none) ∨ ∃ n ls, (s.agents a).dialog.startNode? = some n ∧
      (t.agents a).dialog.startNode? = some { n with lines := ls } ∧
        ls.map Line.hushed = n.lines.map Line.hushed := by
  have same : (s.agents a).dialog.hushed = (t.agents a).dialog.hushed :=
    congrArg (fun b : Agent => b.dialog) (h.agent a)
  have nodes := congrArg Dialog.startNode? same
  rw [Dialog.hushed_startNode?, Dialog.hushed_startNode?] at nodes
  obtain absent | ⟨n, n', e, e', alike⟩ := alike_of_map nodes
  · exact .inl absent
  · obtain ⟨ls, rfl, lines⟩ := Node.eq_of_hushed alike
    exact .inr ⟨n, ls, e, e', lines⟩

end Stage.Like

/-! ## Plays -/

/-- Two routines ask and report the same, and their stages are alike as long as the surroundings leave them
alike. -/
inductive Routine.Mirrors {α β : Type} (R : α → β → Prop) : Routine α → Routine β → Prop
  | done {s t : Stage} {a : α} {b : β} (like : s.Like t) (result : R a b) :
    Mirrors R (.done s (.ok a)) (.done t (.ok b))
  | fault {s t : Stage} {e : Fault} (like : s.Like t) : Mirrors R (.done s (.error e)) (.done t (.error e))
  | tell {n : Notice} {rest : Routine α} {rest' : Routine β} (goes : Mirrors R rest rest') :
    Mirrors R (.tell n rest) (.tell n rest')
  | ask {s t : Stage} {q : Request} {k : Except Fault (Reply q) → Stage → Routine α}
    {k' : Except Fault (Reply q) → Stage → Routine β} (like : s.Like t)
    (goes : ∀ reply {u v : Stage}, u.Like v → Mirrors R (k reply u) (k' reply v)) :
    Mirrors R (.ask s q k) (.ask t q k')

/-- Started on stages that are alike, the plays run as routines that mirror each other. -/
def Play.Mirrors {α β : Type} (R : α → β → Prop) (p : Play α) (p' : Play β) : Prop :=
  ∀ s t : Stage, s.Like t → (p s).Mirrors R (p' t)

/-- The play does not see the difference between stages that are alike. -/
def Play.Blind {α : Type} (p : Play α) : Prop :=
  p.Mirrors Eq p

section Mirrors

variable {α β γ δ : Type} {R : α → β → Prop} {S : γ → δ → Prop} {s t : Stage}

/-- Routines mirror each other if their first parts do, and then what follows on stages that are alike. -/
lemma Routine.Mirrors.bind {r : Routine α} {r' : Routine β} {f : α → Stage → Routine γ}
    {g : β → Stage → Routine δ} (h : r.Mirrors R r')
    (hf : ∀ {a b u v}, R a b → u.Like v → (f a u).Mirrors S (g b v)) : (r.bind f).Mirrors S (r'.bind g) := by
  induction h with
  | done like result => exact hf result like
  | fault like => exact .fault like
  | tell goes ih => exact .tell ih
  | ask like goes ih => exact .ask like fun reply _ _ like => ih reply like

/-- Routines that mirror each other still do when their faults are caught. -/
lemma Routine.Mirrors.attempt {r r' : Routine α} (h : r.Mirrors Eq r') :
    r.attempt.Mirrors Eq r'.attempt := by
  induction h with
  | done like result => exact .done like (congrArg Except.ok result)
  | fault like => exact .done like rfl
  | tell goes ih => exact .tell ih
  | ask like goes ih => exact .ask like fun reply _ _ like => ih reply like

namespace Play

/-- Plays mirror each other if their first parts do, and then what follows. -/
lemma Mirrors.bind {p : Play α} {p' : Play β} {f : α → Play γ} {g : β → Play δ} (h : p.Mirrors R p')
    (hf : ∀ {a b}, R a b → (f a).Mirrors S (g b)) : (p >>= f).Mirrors S (p' >>= g) :=
  fun s t like => (h s t like).bind fun result like => hf result _ _ like

/-- What follows a blind play has to mirror itself for each result. -/
lemma Blind.bind {p : Play α} {f g : α → Play γ} {S : γ → γ → Prop} (h : p.Blind)
    (hf : ∀ a, (f a).Mirrors S (g a)) : (p >>= f).Mirrors S (p >>= g) := by
  refine Mirrors.bind h ?_
  rintro a _ rfl
  exact hf a

/-- A result that is there already does not hang on the difference. -/
lemma blind_pure {a : α} : (pure a : Play α).Blind :=
  fun _ _ like => .done like rfl

/-- Plays that depend on the stage mirror each other if they do so on stages that are alike. -/
lemma mirrors_of_get {f : Stage → Play α} {g : Stage → Play β}
    (h : ∀ {s t}, s.Like t → (f s).Mirrors R (g t)) : (get >>= f).Mirrors R (get >>= g) :=
  fun s t like => h like s t like

/-- A choice mirrors another if both of its sides do. -/
lemma mirrors_ite {b : Bool} {p q : Play α} {p' q' : Play β} (yes : b = true → p.Mirrors R p')
    (no : ¬ b = true → q.Mirrors R q') : (if b then p else q).Mirrors R (if b then p' else q') := by
  split
  · exact yes ‹_›
  · exact no ‹_›

/-- Setting stages that are alike comes to the same. -/
lemma mirrors_set (like : s.Like t) : (set s).Mirrors Eq (set t) :=
  fun _ _ _ => .done like rfl

/-- Changes that keep stages alike mirror each other. -/
lemma mirrors_modify {f g : Stage → Stage} (keeps : ∀ {s t}, s.Like t → (f s).Like (g t)) :
    (modify f).Mirrors Eq (modify g) :=
  fun _ _ like => .done (keeps like) rfl

/-- A change that does not see the difference is blind. -/
lemma blind_modify {f : Stage → Stage} (commutes : ∀ s, (f s).hushed = f s.hushed) : (modify f).Blind :=
  mirrors_modify fun like => like.change commutes

/-- A report is blind. -/
lemma blind_tell {n : Notice} : (tell n).Blind :=
  fun _ _ like => .tell (.done like rfl)

/-- A request is blind, since what comes back is alike. -/
lemma blind_ask (q : Request) : (ask q).Blind := by
  refine fun _ _ like => .ask like fun reply _ _ like => ?_
  cases reply with
  | ok a => exact .done like rfl
  | error e => exact .fault like

/-- A fault is blind. -/
lemma blind_fail {e : Fault} : (fail e : Play α).Blind :=
  fun _ _ like => .fault like

/-- A blind play stays blind when its faults are caught. -/
lemma Blind.attempt {p : Play α} (h : p.Blind) : p.attempt.Blind :=
  fun s t like => (h s t like).attempt

/-- Blind plays one after another are blind. -/
lemma blind_each {f : β → Play Unit} (h : ∀ b, (f b).Blind) (bs : List β) : (each f bs).Blind := by
  induction bs with
  | nil => exact blind_pure
  | cons b bs ih => exact (h b).bind fun _ => ih

/-! ### Members -/

/-- Asking the members for a keyword is blind. -/
lemma blind_askKeyword (key : Text) (ms : List Member) : (askKeyword key ms).Blind := by
  induction ms with
  | nil => exact blind_pure
  | cons m ms ih =>
    refine (blind_ask _).bind fun value => ?_
    cases value with
    | none => exact ih
    | some value => exact blind_pure

/-- Looking up a keyword is blind. -/
lemma blind_resolveKeyword (key : Text) : (resolveKeyword key).Blind := by
  refine mirrors_of_get fun {s t} like => ?_
  rw [like.keyword, like.members]
  cases t.keyword? key with
  | none => exact blind_askKeyword key t.members
  | some value => exact blind_pure

/-- Expanding a text is blind, from any state of the expansion. -/
lemma blind_expandFrom (fuel count : Nat) (known : Table Text Text) (t : Text) :
    (Keyword.expandFrom resolveKeyword fuel count known t).Blind := by
  induction fuel generalizing count known t with
  | zero =>
    unfold Keyword.expandFrom
    split
    · exact blind_pure
    · exact blind_pure
    · contradiction
  | succ fuel ih =>
    unfold Keyword.expandFrom
    split
    · exact blind_pure
    · contradiction
    · rename_i e
      cases e
      split
      · exact ih _ _ _
      · exact (blind_resolveKeyword _).bind fun _ => ih _ _ _

/-- Expanding a text is blind. -/
lemma blind_expandText (t : Text) : (expandText t).Blind := by
  refine mirrors_of_get fun {u v} like => ?_
  rw [like.view Stage.keywordLimit fun _ => rfl]
  refine (blind_expandFrom _ _ _ _).bind fun e => ?_
  dsimp only
  split
  · exact blind_tell.bind fun _ => blind_pure
  · exact blind_pure

/-- Expanding several texts is blind. -/
lemma blind_expandTexts (ts : List Text) : (expandTexts ts).Blind := by
  induction ts with
  | nil => exact blind_pure
  | cons t ts ih =>
    refine (blind_expandText t).bind fun t => ?_
    exact ih.bind fun ts => blind_pure

/-- Expanding a parameter is blind. -/
lemma blind_expandParameter (t : Text) : (expandParameter t).Blind := by
  unfold expandParameter
  split
  · exact blind_pure
  · exact blind_expandText t

/-- Expanding a line is blind, responses and all. -/
lemma blind_expandLine (l : Line) : (expandLine l).Blind := by
  refine (blind_expandText l.speaker).bind fun speaker => ?_
  refine (blind_expandText l.text).bind fun text => ?_
  exact (blind_expandText l.portrait).bind fun portrait => blind_pure

/-- Expanding a query is blind. -/
lemma blind_expandQuery (q : Query) (ticket : Ticket) : (expandQuery q ticket).Blind := by
  refine (blind_expandTexts _).bind fun labels => ?_
  refine (blind_expandText q.text).bind fun text => ?_
  exact (blind_expandText q.description).bind fun description => blind_pure

/-- Publishing an event is blind. -/
lemma blind_publish (e : Event) : (publish e).Blind := by
  refine mirrors_of_get fun {s t} like => ?_
  rw [like.view Stage.bus fun _ => rfl]
  cases t.bus with
  | none => exact blind_pure
  | some bus =>
    refine blind_each (fun h => ?_) _
    refine (blind_ask _).attempt.bind fun r => ?_
    cases r with
    | ok u => exact blind_pure
    | error f => exact blind_tell

/-- Announcing where the session stands is blind. -/
lemma blind_announce (kind : EventKind) (payload : (agent node : Text) → Payload) :
    (announce kind payload).Blind := by
  refine mirrors_of_get fun like => ?_
  obtain ⟨e, e'⟩ | ⟨x, ls, e, e', -⟩ := like.session
  · simp only [e, e']
    exact blind_fail
  · simp only [e, e', like.id]
    exact blind_publish _

/-- Calling a built-in function is blind. -/
lemma blind_callBuiltIn (name parameter : Text) : (callBuiltIn name parameter).Blind := by
  refine mirrors_of_get fun {s t} like => ?_
  have both := like.callBuiltIn name parameter
  generalize s.callBuiltIn name parameter = r at both ⊢
  generalize t.callBuiltIn name parameter = r' at both ⊢
  obtain ⟨result, u⟩ := r
  obtain ⟨result', v⟩ := r'
  obtain ⟨rfl, after⟩ := both
  exact (mirrors_set after).bind fun _ => blind_pure

/-- Offering a function to all members is blind. -/
lemma blind_offerToAll (name parameter : Text) : (offerToAll name parameter).Blind := by
  refine mirrors_of_get fun like => ?_
  rw [like.members]
  refine (blind_callBuiltIn name parameter).bind fun _ => blind_each (fun m => ?_) _
  exact (blind_ask _).bind fun _ => blind_pure

/-- Asking for the result of a function is blind. -/
lemma blind_decide (name parameter : Text) : (decide name parameter).Blind := by
  refine mirrors_of_get fun {s t} like => ?_
  rw [like.members]
  refine (blind_callBuiltIn name parameter).bind fun r => ?_
  cases r with
  | some result => exact blind_pure
  | none =>
    generalize t.members = ms
    induction ms with
    | nil => exact blind_pure
    | cons m ms ih =>
      refine (blind_ask _).bind fun r => ?_
      cases r with
      | none => exact ih
      | some result => exact blind_pure

/-- Asking for the images is blind. -/
lemma blind_images : images.Blind := by
  refine mirrors_of_get fun {s t} like => ?_
  rw [like.members]
  generalize t.members = ms
  induction ms with
  | nil => exact blind_pure
  | cons m ms ih =>
    refine (blind_ask _).bind fun here => ?_
    exact Blind.bind ih fun rest => blind_pure

/-! ### Lines -/

/-- Sessions that differ in the lines of their node are torn down alike. -/
lemma mirrors_tearDown (x : Session) (ls : List Line) :
    (tearDown x).Mirrors Eq (tearDown { x with node := { x.node with lines := ls } }) := by
  have closed : (closePresenter x.number).Blind := by
    refine mirrors_of_get fun {s t} like => ?_
    rw [like.view Stage.presenter fun _ => rfl]
    cases t.presenter with
    | none => exact blind_pure
    | some p => exact blind_ask (.close p x.number)
  have told : (tellExit x.number).Blind := by
    refine mirrors_of_get fun like => ?_
    rw [like.view Stage.exitObservers fun _ => rfl]
    exact blind_each (fun o => blind_ask (.observeExit o x.number)) _
  have announced : (announceEnd x).Mirrors Eq (announceEnd { x with node := { x.node with lines := ls } }) := by
    refine mirrors_of_get fun like => ?_
    dsimp only
    rw [like.id]
    exact blind_publish _
  have called : (callBack x).Blind := by
    unfold callBack
    cases x.onExit with
    | none => exact blind_pure
    | some c => exact blind_ask (.onExit c x.number)
  refine closed.bind fun _ => told.bind fun _ => ?_
  exact announced.bind fun _ => called

/-- Ending the session is blind. -/
lemma blind_endSession : endSession.Blind := by
  refine mirrors_of_get fun {s t} like => ?_
  have ended : s.ended.Like t.ended := like.change fun _ => rfl
  rw [like.view Stage.phase fun _ => rfl]
  obtain ⟨e, e'⟩ | ⟨x, ls, e, e', -⟩ := like.session
  · simp only [e, e']
    cases t.phase with
    | idle | running | awaiting => exact blind_pure
  · simp only [e, e']
    cases t.phase with
    | idle => exact blind_pure
    | running | awaiting => exact (mirrors_set ended).bind fun _ => mirrors_tearDown x ls

/-- Nodes that are alike are entered alike. -/
lemma mirrors_enterNode {n n' : Node} (nodes : n.hushed = n'.hushed) :
    (enterNode n).Mirrors Eq (enterNode n') := by
  have entered : (modify _).Mirrors Eq (modify _) := mirrors_modify fun like => like.entered nodes
  exact entered.bind fun _ => blind_announce _ _

/-- Going to a line is blind. -/
lemma blind_goTo (i : Nat) : (goTo i).Blind := by
  refine blind_modify fun s => ?_
  unfold Stage.hushed
  cases s.session with
  | none => rfl
  | some x => rfl

/-- Moving on is blind, whether it follows a link or not. -/
lemma blind_moveOn (link : Text) : (moveOn link).Blind := by
  refine mirrors_of_get fun {s t} like => ?_
  obtain ⟨e, e'⟩ | ⟨n, n', e, e', nodes⟩ := like.targetOf link
  · simp only [e, e']
    obtain ⟨e, e'⟩ | ⟨x, ls, e, e', -⟩ := like.session
    · simp only [e, e']
      exact blind_pure
    · simp only [e, e']
      exact blind_goTo _
  · simp only [e, e']
    exact mirrors_enterNode nodes

/-- Where the next branch begins does not hang on responses. -/
lemma findIdx?_marked {ls ls' : List Line} (h : ls.map Line.hushed = ls'.map Line.hushed) :
    ls.findIdx? (fun l => l.elseIf || l.endIf) = ls'.findIdx? fun l => l.elseIf || l.endIf := by
  have marked (l : Line) : (l.hushed.elseIf || l.hushed.endIf) = (l.elseIf || l.endIf) := by
    unfold Line.hushed
    split
    · rfl
    · rfl
  have hushed (ls : List Line) : (ls.map Line.hushed).findIdx? (fun l => l.elseIf || l.endIf) =
      ls.findIdx? fun l => l.elseIf || l.endIf := by
    rw [List.findIdx?_map]
    exact congrArg (fun p => ls.findIdx? p) (funext marked)
  rw [← hushed ls, h, hushed]

/-- Passing over lines is blind, as no end of a branch is hushed away. -/
lemma blind_passOver : passOver.Blind := by
  refine mirrors_of_get fun {s t} like => ?_
  obtain ⟨e, e'⟩ | ⟨x, ls, e, e', lines⟩ := like.session
  · simp only [e, e']
    exact blind_fail
  · have rest : (ls.drop (x.index + 1)).map Line.hushed = (x.node.lines.drop (x.index + 1)).map Line.hushed := by
      rw [List.map_drop, List.map_drop, lines]
    have ends : ls.length = x.node.lines.length := by
      have lengths := congrArg List.length lines
      rw [List.length_map, List.length_map] at lengths
      exact lengths
    simp only [e, e']
    rw [findIdx?_marked rest, ends]
    split
    · exact blind_goTo _
    · rename_i i _
      refine (blind_goTo _).bind fun _ => ?_
      have next := congrArg (fun ls => ls[i]?) rest
      simp only [List.getElem?_map] at next
      obtain ⟨e, e'⟩ | ⟨l, l', e, e', alike⟩ := alike_of_map next
      · rw [e, e']
        exact blind_pure
      · obtain ⟨rs, rfl, -⟩ := Line.eq_of_hushed alike
        rw [e, e']
        dsimp only
        rw [show ({ l with responses := rs } : Line).hasCondition = l.hasCondition from rfl]
        split
        · exact blind_pure
        · exact blind_moveOn []

/-- Branching is blind. -/
lemma blind_branch (holds : Bool) : (branch holds).Blind := by
  refine mirrors_of_get fun {s t} like => ?_
  obtain ⟨e, e'⟩ | ⟨x, ls, e, e', lines⟩ := like.session
  · simp only [e, e']
    exact blind_fail
  · simp only [e, e']
    split
    · exact blind_moveOn []
    · exact blind_passOver

/-- Setting a variable is blind. -/
lemma blind_assign (a : Assignment) : (assign a).Blind := by
  unfold assign
  split
  · exact blind_pure
  · exact blind_modify fun _ => rfl

/-- Calling a function is blind. -/
lemma blind_callFunction (call : Text) : (callFunction call).Blind := by
  unfold callFunction
  split
  · exact blind_pure
  · refine (blind_expandParameter _).bind fun parameter => ?_
    exact (blind_announce _ _).bind fun _ => blind_offerToAll _ parameter

/-- Testing a function is blind. -/
lemma blind_functionHolds (t : Text) : (functionHolds t).Blind := by
  unfold functionHolds
  split
  · exact blind_pure
  · refine (blind_expandParameter _).bind fun parameter => ?_
    refine (blind_expandParameter _).bind fun desired => ?_
    refine (blind_decide _ parameter).bind fun r => ?_
    cases r with
    | none => exact blind_pure
    | some result => exact blind_pure

/-- Pausing is blind. -/
lemma blind_suspend : suspend.Blind := by
  refine mirrors_of_get fun {s t} like => ?_
  rw [like.view Stage.ticket fun _ => rfl]
  refine Blind.bind ?_ fun _ => blind_pure
  exact blind_modify fun _ => rfl

/-- Going on after a pause is blind. -/
lemma blind_resume (ticket : Ticket) (link : Text) : (resume ticket link).Blind := by
  refine mirrors_of_get fun {s t} like => ?_
  have on : s.resumed.Like t.resumed := like.change fun _ => rfl
  have same : (ticket = s.ticket && s.phase = .awaiting) = (ticket = t.ticket && t.phase = .awaiting) := by
    rw [like.view Stage.ticket fun _ => rfl, like.view Stage.phase fun _ => rfl]
  rw [same]
  split
  · exact (mirrors_set on).bind fun _ => (blind_moveOn link).bind fun _ => blind_pure
  · exact blind_tell.bind fun _ => blind_pure

/-- Delivering an expanded line is blind. -/
lemma blind_deliver (l : Line) (ticket : Ticket) : (deliver l ticket).Blind := by
  have presented : (handToPresenter l ticket).Blind := by
    refine mirrors_of_get fun {s t} like => ?_
    rw [like.view Stage.presenter fun _ => rfl]
    cases t.presenter with
    | none => exact blind_pure
    | some p => exact blind_ask (.show p l ticket)
  have observed : (handToObservers l ticket).Blind := by
    refine mirrors_of_get fun like => ?_
    rw [like.view Stage.lineObservers fun _ => rfl]
    exact blind_each (fun o => blind_ask (.observeLine o l ticket)) _
  refine (blind_announce _ _).bind fun _ => mirrors_of_get fun {s t} like => ?_
  rw [like.view Stage.presenter fun _ => rfl, like.view Stage.lineObservers fun _ => rfl]
  dsimp only
  split
  · exact blind_tell.bind fun _ => presented.bind fun _ => observed
  · exact presented.bind fun _ => observed

/-- Showing a line is blind. -/
lemma blind_showLine (l : Line) : (showLine l).Blind := by
  refine mirrors_of_get fun {s t} like => ?_
  obtain ⟨e, e'⟩ | ⟨x, ls, e, e', -⟩ := like.session
  · simp only [e, e']
    exact blind_fail
  · simp only [e, e']
    refine Blind.bind ?_ fun _ => (blind_expandLine l).bind fun shown => ?_
    · exact blind_modify fun _ => rfl
    · exact blind_suspend.bind fun ticket => blind_deliver shown ticket

/-- Asking a query is blind. -/
lemma blind_askQuery (q : Query) : (askQuery q).Blind := by
  refine mirrors_of_get fun {s t} like => ?_
  rw [like.view Stage.queryPresenter fun _ => rfl]
  cases t.queryPresenter with
  | none => exact blind_tell.bind fun _ => blind_moveOn []
  | some p =>
    refine blind_suspend.bind fun ticket => (blind_expandQuery q ticket).bind fun prompt => ?_
    refine (blind_announce _ _).bind fun _ => mirrors_of_get fun {s t} like => ?_
    rw [like.view Stage.queryPresenter fun _ => rfl]
    cases t.queryPresenter with
    | none => exact blind_fail
    | some p => exact blind_ask (.query p prompt)

/-- Answering a prompt is blind. -/
lemma blind_respond (p : Prompt) (label : Text) : (respond p label).Blind := by
  refine mirrors_of_get fun {s t} like => ?_
  rw [like.view Stage.ticket fun _ => rfl]
  split
  · exact blind_tell.bind fun _ => blind_pure
  · split
    · exact blind_resume _ _
    · exact blind_tell.bind fun _ => blind_resume _ _

/-- The responses of a line come to nobody unless the line is shown. -/
lemma mirrors_perform {l : Line} {rs : List Response} (same : l.isSilent = false → rs = l.responses) :
    (perform l).Mirrors Eq (perform { l with responses := rs }) := by
  unfold perform
  dsimp only
  refine mirrors_ite (fun _ => mirrors_of_get fun {s t} like => ?_) fun _ => ?_
  · rw [like.view (fun u => u.variableTest l.ifVar) fun _ => rfl]
    exact blind_branch _
  refine mirrors_ite (fun _ => (blind_functionHolds _).bind fun holds => blind_branch holds) fun _ => ?_
  refine mirrors_ite (fun _ => blind_askQuery _) fun _ => ?_
  refine mirrors_ite (fun _ => mirrors_of_get fun {s t} like => ?_) fun _ => ?_
  · rw [like.countTest]
    exact blind_branch _
  refine mirrors_ite (fun _ => blind_passOver) fun _ => ?_
  refine mirrors_ite (fun _ => blind_moveOn []) fun _ => ?_
  refine mirrors_ite (fun _ => blind_endSession) fun _ => ?_
  refine mirrors_ite (fun _ => blind_moveOn []) fun shown => ?_
  rw [same (Bool.eq_false_iff.mpr shown)]
  exact blind_showLine l

/-- A step of the loop is blind. -/
lemma blind_runLine : runLine.Blind := by
  refine mirrors_of_get fun {s t} like => ?_
  obtain ⟨e, e'⟩ | ⟨l, l', e, e', alike⟩ := alike_of_map like.currentLine
  · simp only [e, e']
    exact blind_endSession
  · obtain ⟨rs, rfl, same⟩ := Line.eq_of_hushed alike
    simp only [e, e']
    refine (blind_assign l.setVar).bind fun _ => (blind_callFunction l.callFunction).bind fun _ => ?_
    refine mirrors_of_get fun {s t} like => ?_
    rw [like.view Stage.phase fun _ => rfl]
    split
    · exact mirrors_perform same
    · exact blind_pure

/-! ### Calls -/

/-- Building a dialog is blind. -/
lemma blind_build (a : AgentId) (speaker : Text) : (build a speaker).Blind := by
  refine mirrors_of_get fun {s t} like => ?_
  obtain ⟨agents, failures⟩ := like.build a speaker
  have empty : ((s.agents a).build speaker).1.dialog.isEmpty = ((t.agents a).build speaker).1.dialog.isEmpty := by
    have same := congrArg (fun b : Agent => b.dialog.isEmpty) agents
    exact (Dialog.isEmpty_hushed _).symm.trans (same.trans (Dialog.isEmpty_hushed _))
  have updated : (modify (·.updateAgent a fun _ => ((s.agents a).build speaker).1)).Mirrors Eq
      (modify (·.updateAgent a fun _ => ((t.agents a).build speaker).1)) :=
    mirrors_modify fun like => like.updated a agents
  dsimp only
  rw [failures, empty]
  refine updated.bind fun _ => ?_
  split
  · exact blind_pure.bind fun _ => blind_pure
  · exact blind_tell.bind fun _ => blind_pure

/-- A session begins with the same announcements, whatever lines its node has. -/
lemma mirrors_tellStart (session : Nat) (a : AgentId) (n : Node) (ls : List Line) :
    (tellStart session a n).Mirrors Eq (tellStart session a { n with lines := ls }) := by
  refine mirrors_of_get fun {s t} like => ?_
  rw [like.view Stage.startObservers fun _ => rfl]
  refine (blind_each (fun o => blind_ask (.observeStart o session)) _).bind fun _ => ?_
  refine mirrors_of_get fun {s t} like => ?_
  rw [like.id]
  refine (blind_publish _).bind fun _ => mirrors_of_get fun {s t} like => ?_
  rw [like.id]
  exact blind_publish _

/-- Sessions are opened alike at nodes whose lines differ in idle responses. -/
lemma mirrors_openSession (a : AgentId) (n : Node) {ls : List Line}
    (lines : ls.map Line.hushed = n.lines.map Line.hushed) (onExit : Option Nat) :
    (openSession a n onExit).Mirrors Eq (openSession a { n with lines := ls } onExit) := by
  refine mirrors_of_get fun {s t} like => ?_
  rw [like.view Stage.vars fun _ => rfl, like.id, like.view Stage.started fun _ => rfl]
  split
  · exact blind_fail
  · rename_i vars _
    refine (mirrors_set ?_).bind fun _ => mirrors_tellStart t.started a n ls
    have nodes : n.hushed = ({ n with lines := ls } : Node).hushed := by
      unfold Node.hushed
      rw [lines]
    show ({ s.hushed with
      vars := vars, phase := .running, started := t.started + 1
      session := some ⟨t.started, a, n.hushed, 0, onExit⟩ } : Stage) =
        { t.hushed with
          vars := vars, phase := .running, started := t.started + 1
          session := some ⟨t.started, a, ({ n with lines := ls } : Node).hushed, 0, onExit⟩ }
    rw [nodes, show s.hushed = t.hushed from like]

/-- Starting a session is blind. -/
lemma blind_initiate (a : Option AgentId) (onExit : Option Nat) : (initiate a onExit).Blind := by
  refine mirrors_of_get fun {s t} like => ?_
  have current : s.currentAgent?.map Agent.id = t.currentAgent?.map Agent.id := by
    obtain ⟨e, e'⟩ | ⟨b, c, e, e', alike⟩ := alike_of_map like.currentAgent
    · rw [e, e']
    · rw [e, e']
      show some b.hushed.id = some c.hushed.id
      rw [alike]
  rw [like.view Stage.phase fun _ => rfl, current]
  cases a with
  | none => exact blind_tell.bind fun _ => blind_pure
  | some a =>
    cases t.phase with
    | running | awaiting =>
      dsimp only
      rw [like.id]
      exact blind_tell.bind fun _ => blind_pure
    | idle =>
      dsimp only
      rw [like.id]
      refine Blind.bind ?_ fun _ => ?_
      · exact blind_modify fun _ => rfl
      · obtain ⟨e, e'⟩ | ⟨n, ls, e, e', lines⟩ := like.startNode a
        · simp only [e, e']
          exact blind_tell.bind fun _ => blind_pure
        · simp only [e, e']
          exact (mirrors_openSession a n lines onExit).bind fun _ => blind_pure

end Play

/-- No call sees the difference. -/
lemma Call.blind_play (c : Call) : c.play.Blind := by
  open Play in
  cases c with
  | start a speaker onExit => exact (blind_build a speaker).bind fun _ => blind_initiate (some a) onExit
  | initiate a onExit => exact blind_initiate a onExit
  | advance link =>
    refine mirrors_of_get fun {s t} like => ?_
    rw [like.view Stage.ticket fun _ => rfl]
    exact (blind_resume _ link).bind fun wentOn => blind_pure
  | resume ticket link => exact (blind_resume ticket link).bind fun _ => blind_pure
  | respond prompt label => exact (blind_respond prompt label).bind fun _ => blind_pure
  | kill => exact blind_endSession.bind fun _ => blind_pure
  | keyword key =>
    refine mirrors_of_get fun {s t} like => ?_
    rw [like.keyword]
    exact blind_pure
  | function name parameter => exact (blind_callBuiltIn name parameter).bind fun _ => blind_pure
  | images => exact blind_images.bind fun _ => blind_pure
  | expand t => exact (blind_expandText t).bind fun _ => blind_pure
  | build a speaker => exact (blind_build a speaker).bind fun _ => blind_pure
  | publish kind j => exact (blind_publish _).bind fun _ => blind_pure
  | adjust change =>
    refine mirrors_of_get fun {s t} like => ?_
    obtain ⟨answer, after⟩ := like.adjust change
    dsimp only
    rw [answer]
    exact (mirrors_set after).bind fun _ => blind_pure

end Mirrors

end Parley
