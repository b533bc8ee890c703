import Parley.Library.Check
import Parley.Proofs.Session.Farewell
import Parley.Proofs.Session.Rehearsal
import Parley.Proofs.Session.Walk

/-!
# Links

Where links lead when they are looked up. If a check of a dialog finds no problem, all its links name nodes. A
session stays at the nodes of its dialog, and what is handed out for a pause are links of that dialog, so whatever
is looked up is found.

* `Dialog.isSound_of_problems`: what it means that a check finds no problem.
* `Attentive`: the surroundings go on with what has been handed out.
* `Heeds`: links lead to the nodes that they name.
* `links`: the contract; `links.suits_line` says that the responses of a line suit its session.

`heeded` closes the file, and `ignored` shows the exception: a line that goes on in another session.
-/

namespace Parley

/-! ## Dialogs -/

namespace Dialog

variable {d : Dialog} {target name : Text} {n : Node}

/-- A line of the dialog links to something. -/
def Links (d : Dialog) (target : Text) : Prop :=
  ∃ n ∈ d.nodes, ∃ l ∈ n.lines, target ∈ targets l

/-- If no line has a problem, the links of each are sound. -/
lemma isSound_of_lineProblems {node : Text} {index : Nat} {ls : List Line} {l : Line}
    (sound : d.lineProblems node index ls = []) (mem : l ∈ ls) (links : target ∈ targets l) :
    d.isSound target = true := by
  induction ls generalizing index with
  | nil => cases mem
  | cons l' ls ih =>
    obtain ⟨here, later⟩ := List.append_eq_nil_iff.mp sound
    rcases List.mem_cons.mp mem with rfl | mem
    · simpa using List.filter_eq_nil_iff.mp (List.map_eq_nil_iff.mp here) target links
    · exact ih later mem

/-- If a check finds no problem, the start and all links are empty or name nodes. -/
theorem isSound_of_problems (sound : d.problems = []) :
    d.isSound d.start = true ∧ ∀ target, d.Links target → d.isSound target = true := by
  obtain ⟨start, lines⟩ := List.append_eq_nil_iff.mp sound
  constructor
  · by_contra unsound
    rw [if_neg unsound] at start
    cases start
  · rintro target ⟨n, node, l, line, links⟩
    exact isSound_of_lineProblems (List.flatMap_eq_nil_iff.mp lines n node) line links

/-- A link that is not empty and no problem is found. -/
lemma found_of_isSound (sound : d.isSound target = true) (named : target ≠ []) :
    ∃ n, d.node? target = some n ∧ n.name = target := by
  have named : target.isEmpty = false := by simpa using named
  unfold isSound at sound
  rw [named, Bool.false_or] at sound
  obtain ⟨n, mem, same⟩ := List.any_eq_true.mp sound
  have there : (d.nodes.find? (·.name == target)).isSome = true := List.find?_isSome.mpr ⟨n, mem, same⟩
  obtain ⟨m, found⟩ := Option.isSome_iff_exists.mp there
  refine ⟨m, ?_, by simpa using List.find?_some found⟩
  unfold node?
  rw [named]
  exact found

/-- A node that is found is a node of the dialog. -/
lemma mem_of_node? (found : d.node? name = some n) : n ∈ d.nodes := by
  unfold node? at found
  split at found
  · cases found
  · exact List.mem_of_find?_eq_some found

/-- The start node is a node of the dialog. -/
lemma mem_of_startNode? (start : d.startNode? = some n) : n ∈ d.nodes := by
  rcases Option.or_eq_some_iff.mp start with found | ⟨-, first⟩
  · exact mem_of_node? found
  · exact List.mem_of_head? first

/-- In a dialog without problems the start node is the one that the start names. -/
lemma name_of_startNode? (sound : d.problems = []) (named : d.start ≠ []) (start : d.startNode? = some n) :
    n.name = d.start := by
  obtain ⟨m, found, name⟩ := found_of_isSound (isSound_of_problems sound).1 named
  unfold startNode? at start
  rw [found, Option.some_or] at start
  rw [← Option.some.inj start]
  exact name

end Dialog

/-! ## What is handed out -/

/-- A response is handed out for the pause of a ticket, with the line or the query that it belongs to. -/
inductive Request.Hands (now : Ticket) : Request → Ticket → Response → Prop
  | shown {p : Nat} {l : Line} {t : Ticket} {r : Response} (mem : r ∈ l.responses) : Hands now (.show p l t) t r
  | observed {o : Nat} {l : Line} {t : Ticket} {r : Response} (mem : r ∈ l.responses) :
    Hands now (.observeLine o l t) t r
  | asked {w : Nat} {p : Prompt} {r : Response} (mem : r ∈ p.query.responses) : Hands now (.query w p) p.ticket r
  | lineStarted {h : HandlerId} {n : Nat} {agent node : Text} {l : Line} {r : Response} (mem : r ∈ l.responses) :
    Hands now (.handle h ⟨.lineStarted, some n, .line agent node l⟩) now r
  | queryStarted {h : HandlerId} {n : Nat} {agent node : Text} {p : Prompt} {r : Response}
    (mem : r ∈ p.query.responses) :
    Hands now (.handle h ⟨.queryStarted, some n, .query agent node p⟩) p.ticket r

/-- A prompt is handed out. -/
inductive Request.Prompts : Request → Prompt → Prop
  | asked {w : Nat} {p : Prompt} : Prompts (.query w p) p
  | queryStarted {h : HandlerId} {n : Nat} {agent node : Text} {p : Prompt} :
    Prompts (.handle h ⟨.queryStarted, some n, .query agent node p⟩) p

/-- A prompt that is handed out hands out its responses. -/
lemma Request.Prompts.hands {q : Request} {p : Prompt} {r : Response} (h : q.Prompts p) (now : Ticket)
    (mem : r ∈ p.query.responses) : q.Hands now p.ticket r := by
  cases h with
  | asked => exact .asked mem
  | queryStarted => exact .queryStarted mem

/-- The link of an answer is that of a response. -/
lemma Prompt.mem_of_link {p : Prompt} {label link : Text} (h : p.link? label = some link) :
    ∃ r ∈ p.query.responses, r.link = link := by
  obtain ⟨⟨r, shown⟩, found, rfl⟩ := Option.map_eq_some_iff.mp h
  exact ⟨r, (List.of_mem_zip (List.mem_of_find?_eq_some found)).1, rfl⟩

/-- The link that a call passes on. -/
def Call.link : Call → Text
  | .advance link | .resume _ link => link
  | .respond p label => (p.link? label).getD []
  | _ => []

namespace Stage

/-- A call leaves the dialog of the session alone. -/
def Spares (s : Stage) : Call → Prop
  | .adjust (.setSource a _) | .adjust (.clearDialog a) => ∀ x, s.session = some x → x.agent ≠ a
  | _ => True

/-- A call passes on nothing, or the link of a response that was handed out for the current pause. Prompts have been
handed out too. -/
def PassesBack (s : Stage) (past : List Label) : Call → Prop
  | .advance link | .resume _ link =>
    link = [] ∨ ∃ s' q r, .asked s' q ∈ past ∧ q.Hands s'.ticket s.ticket r ∧ r.link = link
  | .respond p _ => ∃ s' q, .asked s' q ∈ past ∧ q.Prompts p
  | _ => True

end Stage

/-- The surroundings leave the dialog of a session alone, and go on from a pause with what has been handed out. -/
def Attentive : Rule
  | past, .called _ s c => s.Spares c ∧ (s.GoesOn c → s.PassesBack past c)
  | _, _ => True

namespace Stage

/-- The dialog of the agent with whom a session is held. -/
def dialogOf (s : Stage) (x : Session) : Dialog :=
  (s.agents x.agent).dialog

/-- A session is at a node of its dialog. -/
def Seated (s : Stage) : Prop :=
  ∀ x, s.session = some x → x.node ∈ (s.dialogOf x).nodes

/-- With what is passed on, the session comes to the node that a link names. -/
def Finds (s : Stage) (passed link : Text) : Prop :=
  ∃ n, Play.targetOf s passed = some n ∧ n.name = link

end Stage

/-- The line that was begun last belongs to another session. -/
def Displaced (n : Nat) (past : List Label) : Prop :=
  ∃ before s₀ since, past = before ++ .began s₀ :: since ∧ (∀ l ∈ since, ¬ l.Begins) ∧ ¬ s₀.Hosts n

/-- A call opened the session of a number on a dialog. -/
def OpenedOn (n : Nat) (d : Dialog) (ls : List Label) : Prop :=
  ∃ owed s c x, .called owed s c ∈ ls ∧ s.opening? c = some x ∧ x.number = n ∧ (s.readied c).dialogOf x = d

/-- Links of dialogs without problems lead to the nodes that they name. -/
structure Heeds (ls : List Label) : Prop where
  /-- A session stays on the dialog that it was opened on. -/
  opened : Always (fun s => ∀ x, s.session = some x → OpenedOn x.number (s.dialogOf x) ls) ls
  starts : ∀ {owed s c x}, .called owed s c ∈ ls → s.opening? c = some x →
    ((s.readied c).dialogOf x).problems = [] → ((s.readied c).dialogOf x).start ≠ [] →
    x.node.name = ((s.readied c).dialogOf x).start
  seated : Always Stage.Seated ls
  /-- The link of a line is found from wherever the line is the current one. -/
  own : ∀ {l s x i line}, l ∈ ls → l.stage? = some s → s.session = some x → (s.dialogOf x).problems = [] →
    x.node.lines[i]? = some line → line.link ≠ [] → (s.atLine i).Finds [] line.link
  passed : ∀ {l₁ owed s c l₂ x}, ls = l₁ ++ .called owed s c :: l₂ → s.GoesOn c → s.session = some x →
    (s.dialogOf x).problems = [] → c.link ≠ [] → s.resumed.Finds c.link c.link ∨ Displaced x.number l₁

namespace Stage

variable {s s' s'' : Stage} {x k : Session} {link : Text} {n : Node}

/-- In a session, nodes are looked up in its dialog. -/
lemma node?_of_session (session : s.session = some x) : s.node? link = (s.dialogOf x).node? link := by
  unfold Stage.node? currentAgent?
  rw [session]
  rfl

/-- In a session, links lead to nodes of its dialog. -/
lemma mem_of_targetOf (session : s.session = some x) (target : Play.targetOf s link = some n) :
    n ∈ (s.dialogOf x).nodes := by
  rcases Option.or_eq_some_iff.mp target with found | ⟨-, own⟩
  · rw [node?_of_session session] at found
    exact Dialog.mem_of_node? found
  · obtain ⟨l, -, found⟩ := Option.bind_eq_some_iff.mp own
    rw [node?_of_session session] at found
    exact Dialog.mem_of_node? found

/-- A link of a dialog without problems leads to the node that it names. -/
lemma finds_of_links (session : s.session = some x) (sound : (s.dialogOf x).problems = [])
    (links : (s.dialogOf x).Links link) (named : link ≠ []) : s.Finds link link := by
  obtain ⟨n, found, name⟩ := Dialog.found_of_isSound ((Dialog.isSound_of_problems sound).2 link links) named
  refine ⟨n, ?_, name⟩
  unfold Play.targetOf
  rw [node?_of_session session, found, Option.some_or]

/-- The link of a line of a node of the dialog is found when the line is the current one. -/
lemma finds_own {i : Nat} {line : Line} (seated : s.Seated) (session : s.session = some x)
    (sound : (s.dialogOf x).problems = []) (there : x.node.lines[i]? = some line) (named : line.link ≠ []) :
    (s.atLine i).Finds [] line.link := by
  have links : (s.dialogOf x).Links line.link :=
    ⟨x.node, seated x session, line, List.mem_of_getElem? there, List.mem_cons_self⟩
  obtain ⟨n, found, name⟩ := Dialog.found_of_isSound ((Dialog.isSound_of_problems sound).2 _ links) named
  refine ⟨n, ?_, name⟩
  have current : (s.atLine i).currentLine? = some line := by
    unfold currentLine?
    rw [session_atLine session]
    exact there
  unfold Play.targetOf
  rw [node?_nil, Option.none_or, current, Option.bind_some, node?_atLine, node?_of_session session, found]

/-- A session is opened at the start node of its dialog. -/
lemma start_of_opens {a : AgentId} {onExit : Option Nat} (h : s.opens a onExit = some x) :
    (s.dialogOf x).startNode? = some x.node := by
  unfold opens at h
  split at h
  · obtain ⟨node, start, h⟩ := Option.bind_eq_some_iff.mp h
    obtain ⟨vars, -, rfl⟩ := Option.map_eq_some_iff.mp h
    exact start
  · cases h

/-- A call opens a session at the start node of its dialog, as it is once it has been built. -/
lemma start_of_opening {c : Call} (h : s.opening? c = some x) :
    ((s.readied c).dialogOf x).startNode? = some x.node := by
  obtain ⟨a, onExit, opens⟩ := opens_of_opening h
  exact start_of_opens opens

/-! ## The contract -/

/-- The session that is there was there before. It is held on the same dialog, and is at a node of that. -/
def Retains (s s' : Stage) : Prop :=
  ∀ k', s'.session = some k' → ∃ k, s.session = some k ∧ k.number = k'.number ∧ s'.dialogOf k' = s.dialogOf k ∧
    k'.node ∈ (s'.dialogOf k').nodes

/-- The session that is there is held on the same dialog as before, or it is a new one. -/
structure Continues (s s' : Stage) : Prop where
  started : s.started ≤ s'.started
  ticket : s.ticket ≤ s'.ticket
  session : ∀ k', s'.session = some k' → s.started ≤ k'.number ∨
    ∃ k, s.session = some k ∧ k.number = k'.number ∧ s'.dialogOf k' = s.dialogOf k

/-- A stage continues itself. -/
lemma Continues.refl (s : Stage) : s.Continues s :=
  ⟨Nat.le_refl _, Nat.le_refl _, fun k session => .inr ⟨k, session, rfl, rfl⟩⟩

/-- A stage continues what the stages before it continue. -/
lemma Continues.trans (h : s.Continues s') (h' : s'.Continues s'') : s.Continues s'' where
  started := Nat.le_trans h.started h'.started
  ticket := Nat.le_trans h.ticket h'.ticket
  session k'' session := by
    rcases h'.session k'' session with later | ⟨k', session', number', dialog'⟩
    · exact .inl (Nat.le_trans h.started later)
    · rw [← number', dialog']
      exact h.session k' session'

/-- A stage continues another whether the loop is at work or not. -/
lemma Continues.looping (h : s.Continues s') (b : Bool) : s.Continues { s' with inRun := b } :=
  ⟨h.started, h.ticket, h.session⟩

/-- A stage with the same session continues the other one. -/
lemma Retains.continues (h : s.Retains s') (started : s'.started = s.started) (ticket : s.ticket ≤ s'.ticket) :
    s.Continues s' := by
  refine ⟨Nat.le_of_eq started.symm, ticket, fun k' session => .inr ?_⟩
  obtain ⟨k, session', number, dialog, -⟩ := h k' session
  exact ⟨k, session', number, dialog⟩

/-- A session stays at its node if it is the same, on the same dialog. -/
lemma Seated.retains (seated : s.Seated) (session : s'.session = s.session)
    (dialog : ∀ k, s.session = some k → s'.dialogOf k = s.dialogOf k) : s.Retains s' := by
  intro k there
  have there : s.session = some k := session.symm.trans there
  refine ⟨k, there, rfl, dialog k there, ?_⟩
  rw [dialog k there]
  exact seated k there

/-- The dialog of a session that is going on is there, so it is not built again. -/
lemma Seated.retains_built (seated : s.Seated) (a : AgentId) (speaker : Text) : s.Retains (s.built a speaker) := by
  refine seated.retains rfl fun k session => ?_
  unfold dialogOf built updateAgent
  dsimp only
  split
  · rename_i same
    have filled : (s.agents a).dialog.isEmpty = false := by
      have nodes := List.ne_nil_of_mem (seated k session)
      rw [dialogOf, same] at nodes
      unfold Dialog.isEmpty
      rw [List.isEmpty_eq_false_iff.mpr nodes, Bool.false_and, Bool.false_and, Bool.false_and]
    unfold Agent.build
    rw [filled, same]
    rfl
  · rfl

/-- A setting that spares the dialog of the session leaves it at its node. -/
lemma Seated.retains_adjust {change : Adjustment} (seated : s.Seated) (spares : s.Spares (.adjust change)) :
    s.Retains (s.adjust change).2 := by
  refine seated.retains (s.adjust_eq change).2.1 fun k session => ?_
  cases change with
  | setSource a source | clearDialog a =>
    have other : k.agent ≠ a := spares k session
    simp only [adjust, dialogOf, updateAgent, if_neg other]
  | setNickname a name =>
    simp only [adjust, dialogOf, updateAgent]
    split
    · rfl
    · rfl
  | addResponder m =>
    simp only [adjust, dialogOf]
    split
    · rfl
    · rfl
  | _ => rfl

end Stage

/-- A session stays displaced until another line is begun. -/
lemma Displaced.append {n : Nat} {past ls : List Label} (h : Displaced n past) (quiet : ∀ l ∈ ls, ¬ l.Begins) :
    Displaced n (past ++ ls) := by
  obtain ⟨before, s₀, since, rfl, quiet', other⟩ := h
  refine ⟨before, s₀, since ++ ls, ?_, fun l mem => ?_, other⟩
  · rw [List.append_assoc, List.cons_append]
  · exact (List.mem_append.mp mem).elim (quiet' l) (quiet l)

/-- A link is one of the dialog of the session, unless the line that was begun last belongs to another one. -/
def Scene.Suits (x : Scene) (link : Text) : Prop :=
  ∀ k, x.stage.session = some k → (x.stage.dialogOf k).Links link ∨ Displaced k.number x.past

/-- The dialog that a session was opened on stays the same, whatever is seen next. -/
lemma OpenedOn.append {n : Nat} {d : Dialog} {past ls : List Label} (h : OpenedOn n d past) :
    OpenedOn n d (past ++ ls) := by
  obtain ⟨owed, s, c, x, mem, opened⟩ := h
  exact ⟨owed, s, c, x, List.mem_append_left _ mem, opened⟩

/-- A session is at a node of its dialog, and what has been handed out for a pause suits it. -/
structure Scene.Linked (x : Scene) : Prop where
  sound : x.stage.Sound
  seated : x.stage.Seated
  opened : ∀ k, x.stage.session = some k → OpenedOn k.number (x.stage.dialogOf k) x.past
  spared : ∀ owed s c, .called owed s c ∈ x.past → s.Spares c
  handed : ∀ s q t r, .asked s q ∈ x.past → q.Hands s.ticket t r → t ≤ x.stage.ticket
  suits : x.stage.phase = .awaiting →
    ∀ s q r, .asked s q ∈ x.past → q.Hands s.ticket x.stage.ticket r → x.Suits r.link

/-- Sessions stay at the nodes of their dialogs, and links suit them. -/
def links : Contract where
  rule := Attentive
  holds := Scene.Linked
  visit x y := x.stage.Continues y.stage ∧ x.Unbroken y
  running x y := y.Linked ∧ y.stage.inRun = true ∧ x.stage.inRun = false ∧ x.stage.Continues y.stage
  visit_refl x := ⟨.refl x.stage, .refl x⟩
  visit_trans h h' := ⟨h.1.trans h'.1, h.2.trans h'.2⟩

namespace links

open Play

variable {x y z : Scene}

/-- More may be seen, if calls spare the dialog and what is handed out suits the session. -/
lemma linked_see {l : Label} (h : x.Linked) (spares : ∀ owed s c, l = .called owed s c → s.Spares c)
    (hands : ∀ s q, l = .asked s q → ∀ t r, q.Hands s.ticket t r → t ≤ x.stage.ticket ∧ x.Suits r.link)
    (quiet : x.stage.phase = .awaiting → ¬ l.Begins) : (x.see l).Linked where
  sound := h.sound
  seated := h.seated
  opened k session := (h.opened k session).append
  spared owed s c mem := by
    rcases List.mem_append.mp mem with mem | mem
    · exact h.spared owed s c mem
    · exact spares owed s c (List.mem_singleton.mp mem).symm
  handed s q t r mem handed := by
    rcases List.mem_append.mp mem with mem | mem
    · exact h.handed s q t r mem handed
    · exact (hands s q (List.mem_singleton.mp mem).symm t r handed).1
  suits awaiting s q r mem handed := by
    have suits : x.Suits r.link := by
      rcases List.mem_append.mp mem with mem | mem
      · exact h.suits awaiting s q r mem handed
      · exact (hands s q (List.mem_singleton.mp mem).symm _ r handed).2
    intro k session
    refine (suits k session).imp id fun displaced => displaced.append fun l' mem' => ?_
    rw [List.mem_singleton.mp mem']
    exact quiet awaiting

/-- A stage that begins to wait has nothing handed out for the pause. -/
lemma linked_on {s : Stage} (h : x.Linked) (sound : s.Sound) (seated : s.Seated)
    (opened : ∀ k, s.session = some k → OpenedOn k.number (s.dialogOf k) x.past) (ticket : x.stage.ticket ≤ s.ticket)
    (waits : s.phase = .awaiting → s.ticket = x.stage.ticket → x.stage.phase = .awaiting ∧ x.stage.Retains s) :
    (x.on s).Linked where
  sound := sound
  seated := seated
  opened := opened
  spared := h.spared
  handed s' q t r mem handed := Nat.le_trans (h.handed s' q t r mem handed) ticket
  suits awaiting s' q r mem handed := by
    have same : s.ticket = x.stage.ticket := Nat.le_antisymm (h.handed s' q _ r mem handed) ticket
    obtain ⟨awaiting', retains⟩ := waits awaiting same
    intro k' session
    obtain ⟨k, session', number, dialog, -⟩ := retains k' session
    have handed : q.Hands s'.ticket x.stage.ticket r := same ▸ handed
    have suits := h.suits awaiting' s' q r mem handed k session'
    rw [number, ← dialog] at suits
    exact suits

/-- More that is seen follows, if it begins no line, spares the dialog and hands out what suits. -/
lemma follows_see {l : Label} (h : x.Linked) (quiet : ¬ l.Begins)
    (spares : ∀ owed s c, l = .called owed s c → s.Spares c)
    (hands : ∀ s q, l = .asked s q → ∀ t r, q.Hands s.ticket t r → t ≤ x.stage.ticket ∧ x.Suits r.link) :
    links.Follows x (x.see l) :=
  ⟨linked_see h spares hands fun _ => quiet, .refl _, Scene.unbroken_see quiet⟩

/-- The session stays on its dialog, and a pause is a new one if it has just begun. -/
lemma follows_on {s : Stage} (h : x.Linked) (sound : s.Sound) (retains : x.stage.Retains s)
    (started : s.started = x.stage.started) (ticket : x.stage.ticket ≤ s.ticket) (inRun : s.inRun = x.stage.inRun)
    (waits : s.phase = .awaiting → s.ticket = x.stage.ticket → x.stage.phase = .awaiting) :
    links.Follows x (x.on s) := by
  have seated : s.Seated := by
    intro k' session
    obtain ⟨k, -, -, -, node⟩ := retains k' session
    exact node
  have opened (k' : Session) (session : s.session = some k') : OpenedOn k'.number (s.dialogOf k') x.past := by
    obtain ⟨k, session', number, dialog, -⟩ := retains k' session
    rw [← number, dialog]
    exact h.opened k session'
  refine ⟨linked_on h sound seated opened ticket fun awaiting same => ⟨waits awaiting same, retains⟩, ?_, ?_⟩
  · exact retains.continues started ticket
  · exact Scene.unbroken_on inRun

/-- What is known stays known whatever the surroundings do. -/
abbrev Upholds (P : Scene → Prop) : Prop :=
  Contract.Upholds links P

/-- To follow on a scene is upheld. -/
lemma upholds_follows (z : Scene) : Upholds (links.Follows z) :=
  Contract.upholds_follows z

section Upholds

variable {P : Scene → Prop} (u : Upholds P)

include u

/-- What is upheld may be seen more, but for lines that begin, calls and requests. -/
lemma Upholds.see {l : Label} (known : P x) (quiet : ¬ l.Begins) (call : ∀ owed s c, l ≠ .called owed s c)
    (request : ∀ s q, l ≠ .asked s q) : P (x.see l) :=
  u.follows known (follows_see (u.holds known) quiet (fun owed s c e => absurd e (call owed s c))
    fun s q e => absurd e (request s q))

/-- What is upheld may be reported of. -/
lemma Upholds.tells (n : Notice) : Contract.Tells P n :=
  fun _ known => u.see known id (fun _ _ _ => Label.noConfusion) fun _ _ => Label.noConfusion

/-- What is handed out has to suit the session. -/
lemma Upholds.asks_handing {q : Request}
    (hands : ∀ {x}, P x → ∀ t r, q.Hands x.stage.ticket t r → t ≤ x.stage.ticket ∧ x.Suits r.link) :
    links.Asks P P q := by
  refine Contract.Upholds.asking u (fun x known => ?_) fun x r linked _ => ?_
  · refine follows_see (u.holds known) id (fun _ _ _ => Label.noConfusion) ?_
    rintro s q' ⟨⟩
    exact hands known
  · exact follows_see linked id (fun _ _ _ => Label.noConfusion) fun _ _ => Label.noConfusion

/-- What is upheld carries over a request that hands out nothing, and its reply. -/
lemma Upholds.asks {q : Request} (empty : ∀ now t r, ¬ q.Hands now t r) : links.Asks P P q :=
  u.asks_handing fun _ t r handed => absurd handed (empty _ t r)

/-- Handlers are told of something other than a line or a query. -/
lemma Upholds.asks_handle {h : HandlerId} {e : Event}
    (other : e.session = none ∨ e.kind ≠ .lineStarted ∧ e.kind ≠ .queryStarted) : links.Asks P P (.handle h e) := by
  refine u.asks fun now t r handed => ?_
  cases handed with
  | lineStarted => exact other.elim nofun fun kind => kind.1 rfl
  | queryStarted => exact other.elim nofun fun kind => kind.2 rfl

/-- A change that has no part in the session. -/
lemma Upholds.changes {f : Stage → Stage} (alike : ∀ s : Stage, s.Alike (f s))
    (retains : ∀ s : Stage, s.Seated → s.Retains (f s)) (phase : ∀ s, (f s).phase = s.phase)
    (ticket : ∀ s, (f s).ticket = s.ticket) (inRun : ∀ s, (f s).inRun = s.inRun) : Contract.Changes P f := by
  intro x known
  have linked := u.holds known
  refine u.follows known (follows_on linked (linked.sound.alike (alike x.stage)) (retains x.stage linked.seated)
    (alike x.stage).started (Nat.le_of_eq (ticket x.stage).symm) (inRun x.stage) fun awaiting _ => ?_)
  exact (phase x.stage).symm.trans awaiting

/-- What is upheld carries over a built-in function. -/
lemma Upholds.builtIn (name parameter : Text) : Contract.Changes P fun s => (s.callBuiltIn name parameter).2 := by
  refine u.changes (fun s => ?_) (fun s seated => ?_) (fun s => ?_) (fun s => ?_) fun s => ?_
  case refine_2 =>
    have keeps := s.keeps_callBuiltIn name parameter
    exact seated.retains keeps.session fun k _ => keeps.dialogs k.agent
  all_goals obtain ⟨vars, agents, e⟩ := s.callBuiltIn_eq name parameter
  all_goals rw [e]
  exact ⟨.rfl, rfl, rfl⟩

/-- What is upheld carries over whatever consults the surroundings. -/
lemma Upholds.consults : links.Consults P where
  told := u.tells
  keyword _ _ := u.asks nofun
  function _ _ _ := u.asks nofun
  called _ _ := carries_announce u.tells fun _ _ _ _ => u.asks_handle (.inr ⟨nofun, nofun⟩)
  builtIn := u.builtIn
  written _ _ := u.changes (fun _ => ⟨.rfl, rfl, rfl⟩) (fun _ seated => seated.retains rfl fun _ _ => rfl)
    (fun _ => rfl) (fun _ => rfl) fun _ => rfl

/-- Wherever a link leads, it is to a node of the dialog. -/
lemma Upholds.moves : links.Moves P P where
  weak := id
  reported := u.tells
  entered := carries_announce u.tells fun _ _ _ _ => u.asks_handle (.inr ⟨nofun, nofun⟩)
  node {x link n} known target := by
    have linked := u.holds known
    refine u.follows known (follows_on linked (linked.sound.alike (Stage.alike_moved _ fun _ => rfl)) ?_ rfl
      (Nat.le_refl _) rfl fun awaiting _ => awaiting)
    intro k' session
    obtain ⟨k, session', rfl⟩ := Option.map_eq_some_iff.mp session
    have node := Stage.mem_of_targetOf session' target
    exact ⟨k, session', rfl, rfl, node⟩
  index i := by
    refine u.changes (fun s => s.alike_moved fun _ => rfl) (fun s seated k' session => ?_)
      (fun _ => rfl) (fun _ => rfl) fun _ => rfl
    obtain ⟨k, session', rfl⟩ := Option.map_eq_some_iff.mp session
    exact ⟨k, session', rfl, rfl, seated k session'⟩

/-- What is upheld carries over the end of a session. -/
lemma Upholds.carries_endSession : endSession.Carries links P P := by
  refine Play.carries_endSession (fun x known => ?_) fun s => carries_tearDown u.tells (fun _ => u.asks nofun)
    (fun _ => u.asks nofun) (fun _ _ kind _ => u.asks_handle (.inr ?_)) fun _ _ => u.asks nofun
  · exact u.follows known (follows_on (u.holds known) x.stage.sound_ended nofun rfl (Nat.le_succ _) rfl nofun)
  · rw [kind]
    exact ⟨nofun, nofun⟩

/-- What is upheld carries over a pause, as its ticket is a new one. -/
lemma Upholds.suspended (known : P x) (going : x.stage.session ≠ none) : P (x.on x.stage.suspended) := by
  have linked := u.holds known
  have retains : x.stage.Retains x.stage.suspended := linked.seated.retains rfl fun _ _ => rfl
  refine u.follows known (follows_on linked (linked.sound.alike (linked.sound.alike_suspended going)) retains rfl
    (Nat.le_succ _) rfl fun _ same => ?_)
  exact absurd same (Nat.succ_ne_self _)

/-- What is upheld carries over an entry in the history. -/
lemma Upholds.noted (name : Text) : Contract.Changes P fun s => { s with history := s.history ++ [name] } :=
  u.changes (fun _ => ⟨.rfl, rfl, rfl⟩) (fun _ seated => seated.retains rfl fun _ _ => rfl) (fun _ => rfl)
    (fun _ => rfl) fun _ => rfl

end Upholds

/-! ## Lines -/

/-- The responses of a line that is at work suit the session, unless that is not the one of the line. -/
lemma suits_line {l : Line} {r : Response} (linked : y.Linked) (inRun : y.stage.inRun = true)
    (current : y.stage.currentLine? = some l) (known : links.Follows y.beginning x)
    (mem : r ∈ l.responses ∨ r ∈ l.query.responses) : x.Suits r.link := by
  obtain ⟨continues, unbroken⟩ := known.visit
  intro k session
  rcases continues.session k session with later | ⟨k₀, session₀, -, dialog⟩
  · obtain ⟨-, ls, past, quiet⟩ := unbroken inRun
    refine .inr ⟨y.past, y.stage, ls, ?_, quiet, fun hosts => ?_⟩
    · rw [past, Scene.beginning, Scene.see, List.append_assoc, List.singleton_append]
    · obtain ⟨k', there, same⟩ := Option.map_eq_some_iff.mp hosts
      have earlier := linked.sound.numbered k' there
      rw [same] at earlier
      exact absurd later (Nat.not_le.mpr earlier)
  · have session₀ : y.stage.session = some k₀ := session₀
    rw [Stage.currentLine?, session₀] at current
    refine .inl ?_
    rw [dialog]
    refine ⟨k₀.node, linked.seated k₀ session₀, l, List.mem_of_getElem? current, ?_⟩
    unfold Dialog.targets
    refine mem.elim (fun mem => List.mem_append_left _ (List.mem_cons_of_mem _ ?_)) fun mem => List.mem_append_right _ ?_
    all_goals exact List.mem_map_of_mem mem

/-- A line is at work, and has begun a pause. -/
structure Handing (y : Scene) (t : Ticket) (x : Scene) : Prop where
  follows : links.Follows y.beginning x
  ticket : t ≤ x.stage.ticket

/-- To be handing out is upheld. -/
lemma upholds_handing (y : Scene) (t : Ticket) : Upholds (Handing y t) :=
  ⟨fun known => known.follows.holds, fun known follows =>
    ⟨known.follows.trans follows, Nat.le_trans known.ticket follows.visit.1.ticket⟩⟩

/-- A line that is shown keeps its responses. -/
lemma responses_of_gives {l shown : Line} (h : (expandLine l).Gives shown) : shown.responses = l.responses := by
  obtain ⟨speaker, -, h⟩ := gives_bind h
  obtain ⟨text, -, h⟩ := gives_bind h
  obtain ⟨portrait, -, h⟩ := gives_bind h
  rw [← eq_of_gives_pure h]

/-- Whatever a line does, what it hands out suits its session. -/
lemma carries_runLine (linked : y.Linked) (inRun : y.stage.inRun = true) (running : y.stage.phase = .running) :
    runLine.Does links y.beginning fun z _ => links.Follows y.beginning z := by
  have u := upholds_follows y.beginning
  have begun : links.Follows y.beginning y.beginning := by
    refine .refl (linked_see linked (fun _ _ _ => Label.noConfusion) (fun _ _ => Label.noConfusion) fun awaiting => ?_)
    cases running.symm.trans awaiting
  refine does_runLine u.consults id u.moves begun (fun _ _ => id) u.carries_endSession ?_ ?_
  -- A query is handed out as it stands in the line, so its responses are those of the dialog.
  · intro x l current known running
    have going := known.holds.sound.going running (by decide)
    refine does_askQuery u.tells u.moves known (fun _ _ => id) u.consults.toReads (u.suspended known going)
      (fun _ _ => id) ?_
    intro w p known same gives
    have query := (prompt_of_gives gives).1
    have v := upholds_handing y p.ticket
    have start : Handing y p.ticket w := by
      refine ⟨known, ?_⟩
      rw [same, (prompt_of_gives gives).2]
      exact Nat.le_refl _
    have suits {x : Scene} {r : Response} (known : Handing y p.ticket x) (mem : r ∈ p.query.responses) :
        x.Suits r.link :=
      suits_line linked inRun current known.follows (.inr (query ▸ mem))
    refine Does.mono (fun _ _ known => known.follows)
      (carries_deliverQuery (G := Handing y p.ticket) id v.tells (fun _ _ _ _ => ?_) (fun _ => ?_) w start)
    · refine v.asks_handing fun known t r handed => ?_
      cases handed with
      | queryStarted mem => exact ⟨known.ticket, suits known mem⟩
    · refine v.asks_handing fun known t r handed => ?_
      cases handed with
      | asked mem => exact ⟨known.ticket, suits known mem⟩
  -- What is shown is the line with its texts expanded, which has the same responses.
  · intro x l current known running
    refine does_showLine u.consults.toReads u.noted known (fun _ _ => id) ?_
    intro w shown going known gives
    have responses := responses_of_gives gives
    have v := upholds_handing y (w.stage.ticket + 1)
    have start : Handing y (w.stage.ticket + 1) (w.on w.stage.suspended) := ⟨u.suspended known going, Nat.le_refl _⟩
    have suits {x : Scene} {r : Response} (known : Handing y (w.stage.ticket + 1) x) (mem : r ∈ shown.responses) :
        x.Suits r.link :=
      suits_line linked inRun current known.follows (.inl (responses ▸ mem))
    refine Does.mono (fun _ _ known => known.follows) (carries_deliver (G := Handing y (w.stage.ticket + 1)) id v.tells
      (fun _ _ _ _ => ?_) (fun _ => ?_) (fun _ => ?_) _ start)
    · refine v.asks_handing fun known t r handed => ?_
      cases handed with
      | lineStarted mem => exact ⟨Nat.le_refl _, suits known mem⟩
    · refine v.asks_handing fun known t r handed => ?_
      cases handed with
      | shown mem => exact ⟨known.ticket, suits known mem⟩
    · refine v.asks_handing fun known t r handed => ?_
      cases handed with
      | observed mem => exact ⟨known.ticket, suits known mem⟩

/-! ## Calls -/

/-- A call that spares the dialog follows. -/
lemma follows_calling {owed : Option Request} {c : Call} (linked : x.Linked) (spares : x.stage.Spares c) :
    links.Follows x (x.calling owed c) := by
  refine follows_see linked id ?_ fun _ _ => Label.noConfusion
  rintro _ _ _ ⟨⟩
  exact spares

/-- What is known while a call is worked on. -/
lemma takes : links.Takes links.Follows links.Follows where
  moves x := (upholds_follows x).moves
  told x := (upholds_follows x).tells
  consults x := (upholds_follows x).consults
  stays linked keeps _ := follows_calling linked keeps.1
  goesOn {x owed c} linked keeps goes := by
    have called : links.Follows x (x.calling owed c) := follows_calling linked keeps.1
    have retains : x.stage.Retains x.stage.resumed := linked.seated.retains rfl fun _ _ => rfl
    exact called.trans (follows_on called.holds (linked.sound.alike (Stage.alike_resumed goes.1)) retains rfl
      (Nat.le_succ _) rfl nofun)
  opens {x y owed c a onExit vars session} known past readied opening opens := by
    refine known.trans ⟨linked_on known.holds (Stage.Sound.opened opens) ?_ ?_ (Nat.le_refl _) nofun, ?_, ?_⟩
    · rintro _ ⟨⟩
      have node := Dialog.mem_of_startNode? (Stage.start_of_opens opens)
      exact node
    · rintro _ ⟨⟩
      have mem : .called owed x.stage c ∈ y.past :=
        past.subset (List.mem_append_right _ (List.mem_singleton_self _))
      refine ⟨owed, x.stage, c, session, mem, opening, rfl, ?_⟩
      rw [← readied]
      rfl
    · refine ⟨Nat.le_succ _, Nat.le_refl _, ?_⟩
      rintro _ ⟨⟩
      exact .inl (Nat.le_of_eq (Stage.number_of_opens opens).2.1.symm)
    · exact Scene.unbroken_on rfl
  ends x := (upholds_follows x).carries_endSession
  history x := (upholds_follows x).changes (fun _ => ⟨.rfl, rfl, rfl⟩)
    (fun _ seated => seated.retains rfl fun _ _ => rfl) (fun _ => rfl) (fun _ => rfl) fun _ => rfl
  built x a speaker := (upholds_follows x).changes (fun _ => ⟨.rfl, rfl, rfl⟩)
    (fun _ seated => seated.retains_built a speaker) (fun _ => rfl) (fun _ => rfl) fun _ => rfl
  images x _ := (upholds_follows x).asks nofun
  observed x _ _ := (upholds_follows x).asks nofun
  started x h e kinds := by
    refine (upholds_follows x).asks_handle (.inr ?_)
    rcases kinds with kind | kind <;> (rw [kind]; exact ⟨nofun, nofun⟩)
  published x h e session := (upholds_follows x).asks_handle (.inl session)
  adjusts {x owed change} known := by
    obtain ⟨phase, session, started, ticket, inRun⟩ := x.stage.adjust_eq change
    have spares : x.stage.Spares (.adjust change) :=
      known.holds.spared _ _ _ (List.mem_append_right _ (List.mem_singleton_self _))
    have adjusted := known.trans (follows_on known.holds (known.holds.sound.alike (x.stage.alike_adjust change))
      (known.holds.seated.retains_adjust spares) started (Nat.le_of_eq ticket.symm) inRun fun awaiting _ =>
        phase.symm.trans awaiting)
    exact adjusted.trans (follows_see adjusted.holds id (fun _ _ _ => Label.noConfusion) fun _ _ => Label.noConfusion)
  answers known :=
    known.trans (follows_see known.holds id (fun _ _ _ => Label.noConfusion) fun _ _ => Label.noConfusion)
  runs {x y} known still _ := by
    have linked := known.holds
    have looping : (y.looping true).Linked :=
      linked_on linked (linked.sound.alike ⟨.rfl, rfl, rfl⟩) linked.seated linked.opened (Nat.le_refl _) fun awaiting _ =>
        ⟨awaiting, linked.seated.retains rfl fun _ _ => rfl⟩
    refine ⟨?_, rfl, known.visit.2.still still, known.visit.1.looping true⟩
    exact linked_see looping (fun _ _ _ => Label.noConfusion) (fun _ _ => Label.noConfusion) fun _ => id

/-! ## Runs -/

/-- The loop stops, and the call that it was begun for is answered. -/
lemma follows_end {r : Except Fault Answer} (linked : y.Linked) (still : x.stage.inRun = false)
    (continues : x.stage.Continues y.stage) : links.Follows x ((y.looping false).answering r) := by
  have looping : (y.looping false).Linked :=
    linked_on linked (linked.sound.alike ⟨.rfl, rfl, rfl⟩) linked.seated linked.opened (Nat.le_refl _) fun awaiting _ =>
      ⟨awaiting, linked.seated.retains rfl fun _ _ => rfl⟩
  refine ⟨?_, continues.looping false, Scene.unbroken_of_still still⟩
  exact linked_see looping (fun _ _ _ => Label.noConfusion) (fun _ _ => Label.noConfusion) fun _ => id

/-- Calls and lines keep the contract. -/
lemma honours : links.Honours where
  call linked keeps := takes.call linked keeps
  line {x y} running phase := by
    obtain ⟨linked, inRun, still, continues⟩ := running
    refine (carries_runLine linked inRun phase).mono ?_
    intro z r known
    have continues := continues.trans known.visit.1
    cases r with
    | ok u => exact ⟨known.holds, (known.visit.2 inRun).1, still, continues⟩
    | error e => exact follows_end known.holds still continues
  rest running _ _ := follows_end running.1 running.2.2.1 running.2.2.2

end links

/-- A fresh stage has no session, and nothing has been handed out. -/
lemma Stage.Fresh.linked {s : Stage} (fresh : s.Fresh) : (Scene.mk s []).Linked where
  sound := fresh.sound
  seated x session := by cases fresh.vacant.symm.trans session
  opened x session := by cases fresh.vacant.symm.trans session
  spared _ _ _ mem := by cases mem
  handed _ _ _ _ mem := by cases mem
  suits _ _ _ _ mem := by cases mem

/-- Whenever a stage is seen, links suit its session. -/
lemma links.linked_of_seen {s s' : Stage} {ls : List Label} {l : Label} {m : Moment} (fresh : s.Fresh)
    (run : Run Attentive (.initial s) ls m) (mem : l ∈ ls) (seen : l.stage? = some s') :
    ∃ past, past <+: ls ∧ Scene.Linked ⟨s', past⟩ := by
  obtain ⟨l₁, l₂, rfl⟩ := List.append_of_mem mem
  have earlier : l₁ <+: l₁ ++ l :: l₂ := List.prefix_append _ _
  have later : l₁ ++ [l] <+: l₁ ++ l :: l₂ := ⟨l₂, by rw [List.append_assoc, List.singleton_append]⟩
  obtain ⟨past, rfl | ⟨rfl, -⟩, linked⟩ | ⟨-, e, linked, -⟩ := Contract.of_seen links.honours fresh.linked run seen
  · exact ⟨_, earlier, linked⟩
  · exact ⟨_, later, linked⟩
  · exact ⟨l₁, earlier, linked⟩

/-- A link that a call passes on has been handed out for the pause that it ends. -/
lemma Stage.handed_of_passesBack {s : Stage} {past : List Label} {c : Call} (goes : s.GoesOn c)
    (passes : s.PassesBack past c) (named : c.link ≠ []) :
    ∃ s' q r, .asked s' q ∈ past ∧ q.Hands s'.ticket s.ticket r ∧ r.link = c.link := by
  cases c with
  | advance link | resume ticket link => exact passes.resolve_left named
  | respond p label =>
    obtain ⟨s', q, mem, prompts⟩ := passes
    have ticket : p.ticket = s.ticket := Option.some.inj goes.2
    cases link : p.link? label with
    | none =>
      rw [Call.link, link] at named
      exact absurd rfl named
    | some target =>
      obtain ⟨r, mem', rfl⟩ := Prompt.mem_of_link link
      refine ⟨s', q, r, mem, ticket ▸ prompts.hands s'.ticket mem', ?_⟩
      rw [Call.link, link]
      rfl
  | _ => exact absurd rfl named

/-- In a run from a fresh stage whose surroundings are attentive, the links of dialogs without problems lead to the
nodes that they name. -/
theorem heeded {s : Stage} {ls : List Label} {m : Moment} (fresh : s.Fresh) (run : Run Attentive (.initial s) ls m) :
    Heeds ls := by
  have seated : Always Stage.Seated ls := by
    intro l mem s' seen
    obtain ⟨past, -, linked⟩ := links.linked_of_seen fresh run mem seen
    exact linked.seated
  refine ⟨fun l mem s' seen x session => ?_, fun _ opening sound named => ?_, seated,
    fun mem seen session sound there named => ?_, ?_⟩
  · obtain ⟨past, ⟨rest, rfl⟩, linked⟩ := links.linked_of_seen fresh run mem seen
    exact (linked.opened x session).append
  · exact Dialog.name_of_startNode? sound named (Stage.start_of_opening opening)
  · exact Stage.finds_own (seated _ mem _ seen) session sound there named
  · rintro l₁ owed s' c l₂ x rfl goes session sound named
    have linked : Scene.Linked ⟨s', l₁⟩ := Contract.holds_called links.honours fresh.linked run
    obtain ⟨n, n', -, -, keeps, -⟩ := run.split
    obtain ⟨s₀, q, r, mem, handed, link⟩ := Stage.handed_of_passesBack goes (keeps.2 goes) named
    have suits := linked.suits goes.1 s₀ q r mem handed x session
    rw [link] at suits
    exact suits.imp (fun links => Stage.finds_of_links (s := s'.resumed) session sound links named) id

/-! ## A line that goes on in another session -/

/-- A stage with two agents. The first line of the first one calls a function, and a handler hears of that. -/
def sidetrack : Stage where
  agents a :=
    if a = 0 then
      { name := ['a'], dialog := { nodes := [
        { name := ['a'], lines := [
          { text := ['b'], callFunction := ['f'], responses := [{ text := ['d'], link := ['c'] }] }] },
        { name := ['c'] }] } }
    else { name := ['b'], dialog := { nodes := [{ name := ['b'], lines := [{ text := ['e'] }] }] } }
  presenter := some 0
  bus := some ⟨fun kind => if kind = .functionCalled then [0] else []⟩

/-- The stage with two agents is fresh. -/
lemma fresh_sidetrack : sidetrack.Fresh :=
  ⟨rfl, rfl, rfl, rfl, rfl, rfl⟩

/-- The dialogs of its agents have no problems. -/
lemma problems_sidetrack (a : AgentId) : (sidetrack.agents a).dialog.problems = [] := by
  unfold sidetrack
  dsimp only
  split
  · decide
  · decide

/-- The handler ends the session and starts the one of the second agent, and the line goes on in that. -/
def detour : List Label × Moment :=
  (Moment.initial sidetrack).rehearse [.call (.initiate (some 0) none), .work, .work, .work, .call .kill, .work, .reply,
    .work, .call (.initiate (some 1) none), .work, .reply, .work, .reply, .work, .reply, .work]

/-- In the end the link of the response that was shown is passed on. -/
def wayBack : List Label :=
  detour.1 ++ [.called none detour.2.given (.advance ['c'])]

/-- A call does not go on from a pause. -/
def Label.isAttentive : Label → Bool
  | .called _ _ (.initiate _ _) | .called _ _ .kill => true
  | .called _ _ _ => false
  | _ => true

/-- Where calls do not go on from a pause, the surroundings are attentive. -/
lemma attentive_of_isAttentive (past : List Label) (l : Label) (h : l.isAttentive = true) : Attentive past l := by
  cases l with
  | called owed s c =>
    cases c with
    | initiate a onExit | kill => exact ⟨trivial, fun goes => nomatch goes.2⟩
    | _ => cases h
  | _ => trivial

/-- A line is shown for the pause of a ticket, and has a response with a link. -/
def Label.shows (t : Ticket) (link : Text) : Label → Bool
  | .asked _ (.show _ l t') => t' == t && l.responses.any (·.link == link)
  | _ => false

/-- The responses of a line that is shown are handed out. -/
lemma handed_of_shows {past : List Label} {t : Ticket} {link : Text} (h : past.any (Label.shows t link) = true) :
    ∃ s q r, .asked s q ∈ past ∧ q.Hands s.ticket t r ∧ r.link = link := by
  obtain ⟨l, mem, shows⟩ := List.any_eq_true.mp h
  cases l with
  | asked s q =>
    cases q with
    | «show» p line t' =>
      obtain ⟨same, responds⟩ := Bool.and_eq_true_iff.mp shows
      obtain ⟨r, there, leads⟩ := List.any_eq_true.mp responds
      obtain rfl := beq_iff_eq.mp same
      exact ⟨s, _, r, mem, .shown there, beq_iff_eq.mp leads⟩
    | _ => cases shows
  | _ => cases shows

/-- Going on with the link of the response is a run with attentive surroundings. -/
lemma run_wayBack : ∃ m, Run Attentive (.initial sidetrack) wayBack m := by
  have run : Run Attentive (.initial sidetrack) detour.1 ⟨.surroundings detour.2.given, []⟩ := by
    rw [← Moment.eq_of_isOver (m := detour.2) (by decide +kernel)]
    exact Moment.run_rehearse (fun past l _ => attentive_of_isAttentive past l) (by decide +kernel)
  have handed : ∃ s q r, .asked s q ∈ detour.1 ∧ q.Hands s.ticket detour.2.given.ticket r ∧ r.link = ['c'] :=
    handed_of_shows (by decide +kernel)
  exact ⟨_, run.snoc (.enter (.advance ['c']) rfl) ⟨trivial, fun _ => .inr handed⟩⟩

/-- The links in that run are heeded, but for the one of the displaced line. -/
theorem heeded_wayBack : ∃ m, sidetrack.Fresh ∧ Run Attentive (.initial sidetrack) wayBack m ∧ Heeds wayBack := by
  obtain ⟨m, run⟩ := run_wayBack
  exact ⟨m, fresh_sidetrack, run, heeded fresh_sidetrack run⟩

/-- A function turns to the stage. -/
def Label.reenters : Label → Bool
  | .called (some (.function _ _ _)) _ _ => true
  | _ => false

/-- A line that goes on in another session may have the link of its response ignored, even if no function turns to the
stage. -/
theorem ignored : ¬ ∀ s ls m, Stage.Fresh s → (∀ a, (s.agents a).dialog.problems = []) →
    Run Attentive (.initial s) ls m → ls.all (fun l => !l.reenters) = true →
    ∀ l₁ owed s' c l₂ x, ls = l₁ ++ .called owed s' c :: l₂ → s'.GoesOn c → s'.session = some x → c.link ≠ [] →
      s'.resumed.Finds c.link c.link := by
  intro found
  obtain ⟨m, run⟩ := run_wayBack
  have going : detour.2.given.session.isSome = true := by decide +kernel
  obtain ⟨x, session⟩ := Option.isSome_iff_exists.mp going
  have awaiting : detour.2.given.phase = .awaiting := by decide +kernel
  have finds := found sidetrack wayBack m fresh_sidetrack problems_sidetrack run (by decide +kernel) detour.1 none
    detour.2.given (.advance ['c']) [] x rfl ⟨awaiting, rfl⟩ session (List.cons_ne_nil _ _)
  obtain ⟨n, target, -⟩ := finds
  have nowhere : (Play.targetOf detour.2.given.resumed ['c']).isNone = true := by decide +kernel
  rw [show Play.targetOf detour.2.given.resumed ['c'] = some n from target] at nowhere
  cases nowhere

end Parley
