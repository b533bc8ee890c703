import Parley.Proofs.Session.Walk

/-!
# Strolling

How a session goes from line to line if the company that it is left with goes on from each line without a link.

* `Company.Walks`: the loop comes from a stage to another one, and this is what is left of the way.
* `walks_line`: a line that is not handed out is walked past.
* `Play.Offers`: a play comes to something that it hands out.
* `comesTo_goingOn`: what the company has in its hands it goes on from, at once or later.

`walks_shown` closes the file: a line that is shown is walked past too.
-/

namespace Parley

/-- The company goes on from each line without a link. -/
def Company.Strolls (K : Company) : Prop :=
  ∀ shown presenter line ticket, ∃ c, K.choose shown (.show presenter line ticket) = some c ∧
    (c = .resume ticket [] ∨ c = .advance [])

/-- What is left of the way of a session. -/
inductive Mark where
  /-- A line of a node has been begun. -/
  | line (node : Node) (index : Nat)
  /-- A line has been handed to the presenter. -/
  | shown (l : Line)
  deriving DecidableEq

/-- What is left of a label. -/
def Label.mark? : Label → Option Mark
  | .began s => s.session.map fun x => .line x.node x.index
  | .asked _ (.show _ l _) => some (.shown l)
  | _ => none

/-- What is left of all that has been seen. -/
def marks (ls : List Label) : List Mark :=
  ls.filterMap Label.mark?

/-- What has been seen since, and what is left of it. -/
def Left (past past' : List Label) (ms : List Mark) : Prop :=
  ∃ new, past' = past ++ new ∧ marks new = ms

section Runs

variable {K : Company} {P : Request → Prop} {pace : Pace} {c : Call} {past past' past'' ls : List Label} {l : Label}
  {m n : Moment} {goal : List Label → Moment → Prop} {s t : Stage} {q : Request} {ms ms' : List Mark}

/-- Nothing is left of nothing. -/
lemma Left.refl : Left past past [] :=
  ⟨[], (List.append_nil past).symm, rfl⟩

/-- What is left of two parts is left of one after the other. -/
lemma Left.trans (h : Left past past' ms) (h' : Left past' past'' ms') : Left past past'' (ms ++ ms') := by
  obtain ⟨new, rfl, rfl⟩ := h
  obtain ⟨new', rfl, rfl⟩ := h'
  exact ⟨new ++ new', List.append_assoc _ _ _, List.filterMap_append⟩

/-- A label that leaves no mark adds nothing. -/
lemma Left.concat (h : Left past past' ms) (unmarked : l.mark? = none) : Left past (past' ++ [l]) ms := by
  have after : Left past' (past' ++ [l]) [] := ⟨[l], rfl, List.filterMap_cons_none unmarked⟩
  have both := h.trans after
  rw [List.append_nil] at both
  exact both

/-- Nothing is left of what members are consulted for. -/
lemma marks_of_within (within : ∀ l ∈ ls, l.Within P) : marks ls = [] := by
  refine List.filterMap_eq_nil_iff.mpr fun l mem => ?_
  have kind := within l mem
  cases l with
  | told n | replied s q r => rfl
  | asked s q =>
    cases q with
    | «show» presenter line ticket => cases kind.2
    | _ => rfl
  | _ => exact kind.elim

/-- What members are consulted for adds nothing. -/
lemma Left.within (h : Left past past' ms) (within : ∀ l ∈ ls, l.Within P) : Left past (past' ++ ls) ms := by
  have both := h.trans ⟨ls, rfl, marks_of_within within⟩
  rw [List.append_nil] at both
  exact both

/-- The company remembers nothing of what is not handed to it. -/
lemma recollect_of_within (within : ∀ l ∈ ls, l.Within P) : K.recollect c (past ++ ls) = K.recollect c past := by
  induction ls using List.reverseRecOn with
  | nil => rw [List.append_nil]
  | append_singleton ls l ih =>
    rw [← List.append_assoc, recollect_concat, ih fun l mem => within l (List.mem_append_left _ mem)]
    have kind := within l (List.mem_append_right _ (List.mem_singleton_self _))
    cases l with
    | told n | replied s q r => rfl
    | asked s q =>
      rw [Company.heed, kind.2]
      rfl
    | _ => exact kind.elim

/-- A company leaves the stage its own steps. -/
lemma Company.free_rule : (K.rule pace c).Free where
  silent := trivial
  told := trivial
  began := trivial
  asked := trivial
  answered := trivial

/-- Nothing but the reply is left to the company, unless it has a call to make and makes it at once. -/
lemma Company.binds_rule (free : pace = .atOnce → (K.recollect c past).due = none) :
    (K.rule pace c).Binds K past s q where
  uncalled := by
    rintro c' ⟨due, alone⟩
    cases pace with
    | atOnce =>
      rw [free rfl] at due
      cases due
    | later => cases alone rfl
  replied := ⟨fun replies => replies.1, fun same => ⟨same, free⟩⟩

/-- A company has one thing to do at most, so whatever it may do comes about. -/
lemma Company.comesTo_step (step : Step m l n) (allows : K.allows pace (K.recollect c past) l)
    (h : ComesTo (K.rule pace c) goal (past ++ [l]) n) : ComesTo (K.rule pace c) goal past m := by
  refine .step ⟨l, n, step, allows⟩ fun step' allows' => ?_
  obtain rfl := Company.decided step' step allows' allows
  obtain rfl := step'.unique step
  exact h

/-- A step that the company does not heed, and of which nothing is left. -/
lemma Company.comesTo_turn (step : Step m l n) (allows : K.allows pace (K.recollect c past) l)
    (unheeded : K.heed (K.recollect c past) l = K.recollect c past) (unmarked : l.mark? = none)
    (h : ∀ past', K.recollect c past' = K.recollect c past → Left past past' [] →
      ComesTo (K.rule pace c) goal past' n) : ComesTo (K.rule pace c) goal past m :=
  comesTo_step step allows (h _ (recollect_concat.trans unheeded) (Left.refl.concat unmarked))

/-- A play that hands nothing out. -/
lemma Company.comesTo_quiet {α : Type} {f : Frame α} (awaits : f.Awaits) {p : Play α} {a : α} {ps : List Pending}
    (free : pace = .atOnce → (K.recollect c past).due = none) (yields : p.Yields K (·.handsOut = false) s t a)
    (h : ∀ past', K.recollect c past' = K.recollect c past → Left past past' [] →
      ComesTo (K.rule pace c) goal past' ⟨.stage (f.act (.done t (.ok a))), ps⟩) :
    ComesTo (K.rule pace c) goal past ⟨.stage (f.act (p s)), ps⟩ := by
  refine comesTo_of_yields free_rule awaits (fun within _ => binds_rule fun atOnce => ?_) yields fun within =>
    h _ (recollect_of_within within) (Left.refl.within within)
  rw [recollect_of_within within]
  exact free atOnce

/-- The loop comes from a stage to another one, and so much is left of the way. The company has no call to make
before or after. -/
def Company.Walks (K : Company) (pace : Pace) (c : Call) (s : Stage) (ms : List Mark) (t : Stage) : Prop :=
  ∀ past a, (K.recollect c past).due = none → ComesTo (K.rule pace c) (fun past' m =>
    (K.recollect c past').due = none ∧ Left past past' ms ∧ ∃ b, m = ⟨.stage (.run b (.done t (.ok ()))), []⟩) past
      ⟨.stage (.run a (.done s (.ok ()))), []⟩

namespace Company

variable {u : Stage}

/-- A session that stays where it is leaves nothing. -/
lemma Walks.refl : K.Walks pace c s [] s :=
  fun _ a free => .here ⟨free, .refl, a, rfl⟩

/-- Two walks are one. -/
lemma Walks.trans (h : K.Walks pace c s ms t) (h' : K.Walks pace c t ms' u) : K.Walks pace c s (ms ++ ms') u := by
  intro past a free
  refine (h past a free).trans ?_
  rintro _ _ ⟨free', left, b, rfl⟩
  refine (h' _ b free').mono ?_
  rintro _ _ ⟨free'', left', there⟩
  exact ⟨free'', left.trans left', there⟩

end Company

end Runs

/-! ## Lines that are not shown -/

section Lines

open Play

variable {K : Company} {P : Request → Prop} {pace : Pace} {c : Call} {past ls : List Label} {s t : Stage} {x : Session}
  {l : Line}

/-- A line that is begun leaves its mark. -/
lemma left_began (session : s.session = some x) : Left past (past ++ [.began s]) [.line x.node x.index] := by
  refine ⟨[.began s], rfl, ?_⟩
  rw [marks, List.filterMap_cons, Label.mark?, session]
  rfl

/-- A company does not take notice of a line being begun, nor of what members are consulted for. -/
lemma recollect_began (within : ∀ l ∈ ls, l.Within P) :
    K.recollect c (past ++ .began s :: ls) = K.recollect c past := by
  rw [List.append_cons, recollect_of_within within, recollect_concat]
  rfl

/-- A line that hands nothing out is walked past. -/
lemma Company.walks_line (stands : s.StandsAt x l)
    (h : (perform l).Yields K (·.handsOut = false) (s.acted K l) t ()) :
    K.Walks pace c s [.line x.node x.index] t := by
  intro past a free
  have yields : runLine.Yields K (·.handsOut = false) s t () :=
    yields_runLine (fun _ _ => rfl) (fun _ _ _ => rfl) (fun _ _ => rfl) stands h
  refine comesTo_line free_rule stands.running (fun within _ => binds_rule fun _ => ?_) yields fun within => .here ?_
  · rw [recollect_began within]
    exact free
  · have left : Left past (past ++ [.began s] ++ _) [.line x.node x.index] := (left_began stands.session).within within
    rw [← List.append_cons] at left
    refine ⟨?_, left, a, rfl⟩
    rw [recollect_began within]
    exact free

end Lines

/-! ## Lines that are shown -/

/-- A line with its keywords replaced. -/
def Stage.expandedLine (K : Company) (s : Stage) (l : Line) : Line :=
  { l with
    speaker := s.expandedIn K l.speaker, text := s.expandedIn K l.text, portrait := s.expandedIn K l.portrait }

/-- The stage when it has been noted that a line of a node is shown. -/
def Stage.noted (s : Stage) (n : Node) : Stage :=
  { s with history := s.history ++ [n.name] }

/-- The stage when a line of a node has been shown and gone on from. -/
def Stage.shown (s : Stage) (n : Node) : Stage :=
  (s.noted n).suspended.resumed

/-- A line that has been shown and gone on from leaves the session where it was. -/
lemma Stage.keeps_shown {s : Stage} {n : Node} (running : s.phase = .running) : s.Keeps (s.shown n) :=
  ⟨rfl, running.symm, rfl, rfl, fun _ => rfl⟩

namespace Play

variable {K : Company} {P : Request → Prop} {s t u : Stage} {x : Session} {l : Line}

/-- A play that is left with a company comes to something that it hands out, and asks for nothing but what it
may before. -/
def Offers (K : Company) (P : Request → Prop) (p : Play Unit) (s t : Stage) (q : Request) (rest : Play Unit) : Prop :=
  ∃ ls k, (p s).plays K = (ls, .ask t q k) ∧ (∀ l ∈ ls, l.Within P) ∧ ∀ u, k (.ok (K.reply q)) u = rest u

/-- A request that hands something out is offered. -/
lemma offers_ask {q : Request} {f : Reply q → Play Unit} (hands : q.handsOut = true) :
    (ask q >>= f).Offers K P s s q (f (K.reply q)) :=
  ⟨[], _, Routine.plays_handsOut hands, fun _ mem => absurd mem List.not_mem_nil, fun _ => rfl⟩

/-- A play that is come to offers what it offers, with the other one in front. -/
lemma Yields.offers {α : Type} {p : Play α} {f : α → Play Unit} {a : α} {q : Request} {rest : Play Unit}
    (h : p.Yields K P s t a) (hf : (f a).Offers K P t u q rest) : (p >>= f).Offers K P s u q rest := by
  obtain ⟨signs, ⟨ls, first, rfl⟩, only⟩ := h
  obtain ⟨ls', k, second, within, final⟩ := hf
  refine ⟨ls ++ ls', k, ?_, fun l mem => ?_, final⟩
  · have both := Routine.plays_bind (f := fun a s => f a s) first
    rw [second] at both
    exact both
  · cases List.mem_append.mp mem with
    | inl mem =>
      have inner := Routine.within_plays (P := P) (r := p s) (K := K)
      rw [first] at inner
      exact inner only l mem
    | inr mem => exact within l mem

/-- What depends on the stage offers what it offers on the stage as it stands. -/
lemma offers_of_get {f : Stage → Play Unit} {q : Request} {rest : Play Unit} (h : (f s).Offers K P s t q rest) :
    (get >>= f).Offers K P s t q rest :=
  h

variable (keywords : ∀ m key, P (.keyword m key)) (functions : ∀ m name parameter, P (.function m name parameter))
  (handlers : ∀ h e, P (.handle h e))

include keywords in
/-- A line is expanded as the tables say. -/
lemma yields_expandLine (l : Line) : (expandLine l).Yields K P s s (s.expandedLine K l) := by
  refine (yields_expandText keywords l.speaker).bind ?_
  refine (yields_expandText keywords l.text).bind ?_
  exact (yields_expandText keywords l.portrait).bind yields_pure

/-- A pause hands out the next ticket. -/
lemma yields_suspend : suspend.Yields K P s s.suspended (s.ticket + 1) :=
  yields_of_get (yields_modify.bind yields_pure)

/-- A line is offered to the presenter, and the observers are still to be told. -/
lemma offers_handOut {p : Nat} {ticket : Ticket} (presenter : s.presenter = some p) :
    (handOut l ticket).Offers K P s s (.show p l ticket) (handToObservers l ticket) := by
  have offered : (handToPresenter l ticket >>= fun _ => handToObservers l ticket).Offers K P s s
      (.show p l ticket) (handToObservers l ticket) := by
    rw [handToPresenter, bind_assoc]
    apply offers_of_get
    rw [presenter]
    exact offers_ask rfl
  apply offers_of_get
  rw [presenter]
  exact offered

include keywords handlers in
/-- A line is shown to the presenter in a pause, and to the observers after that. -/
lemma offers_showLine {p : Nat} (session : s.session = some x) (presenter : s.presenter = some p) :
    (showLine l).Offers K P s (s.noted x.node).suspended
      (.show p (s.expandedLine K l) (s.ticket + 1)) (handToObservers (s.expandedLine K l) (s.ticket + 1)) := by
  have waits : (s.noted x.node).suspended.session = some x ∧ (s.noted x.node).suspended.presenter = some p :=
    ⟨session, presenter⟩
  apply offers_of_get
  rw [session]
  refine (yields_modify (f := (·.noted x.node))).offers ?_
  refine (yields_expandLine keywords l).offers (yields_suspend.offers ?_)
  exact (yields_announce handlers waits.1).offers (offers_handOut waits.2)

include keywords functions handlers in
/-- A line that is run offers what it offers once it has acted. -/
lemma offers_runLine {q : Request} {rest : Play Unit} (stands : s.StandsAt x l)
    (h : (perform l).Offers K P (s.acted K l) t q rest) : runLine.Offers K P s t q rest := by
  apply offers_of_get
  rw [stands.here]
  have assigned : (s.assigned l.setVar).session = some x :=
    (Stage.keeps_assigned l.setVar).session.trans stands.session
  refine (yields_assign l.setVar).offers ?_
  refine (yields_callFunction keywords functions handlers assigned l.callFunction).offers ?_
  have still : (s.acted K l).phase = .running := (Stage.keeps_acted l).phase.trans stands.running
  refine offers_of_get (s := s.acted K l) ?_
  rw [if_pos still]
  exact h

/-- Observers are told of a line, and leave the stage as it is. -/
lemma yields_handToObservers (observers : ∀ o l t, P (.observeLine o l t)) (l : Line) (ticket : Ticket) :
    (handToObservers l ticket).Yields K P s s () :=
  yields_of_get (yields_each (fun o => yields_ask rfl (observers o l ticket)) _)

end Play

/-! ## Going on -/

section GoingOn

open Play

variable {K : Company} {P : Request → Prop} {pace : Pace} {c c' : Call} {past : List Label} {s t u : Stage}
  {x : Session} {l : Line} {a b : Answer} {goal : List Label → Moment → Prop} {q : Request}
  {k : Except Fault (Reply q) → Stage → Routine Unit}

/-- A session goes on from its pause where moving on leads. -/
lemma yields_resume {link : Text} (awaiting : s.phase = .awaiting) (moves : (moveOn link).Yields K P s.resumed t ()) :
    (resume s.ticket link).Yields K P s t true := by
  apply yields_of_get
  simp only [awaiting, decide_true, Bool.and_self, if_true]
  exact yields_set.bind (moves.bind yields_pure)

/-- A call that goes on from a line without a link steps past it. -/
lemma yields_goingOn (awaiting : s.phase = .awaiting) (stands : s.resumed.StandsAt x l)
    (unlinked : s.resumed.node? l.link = none) (goes : c' = .resume s.ticket [] ∨ c' = .advance []) :
    ∃ b, c'.play.Yields K P s (s.resumed.atLine (x.index + 1)) (.run b) := by
  have resumes : (resume s.ticket []).Yields K P s (s.resumed.atLine (x.index + 1)) true :=
    yields_resume awaiting (yields_moveOn stands unlinked)
  obtain rfl | rfl := goes
  · exact ⟨.nothing, resumes.bind yields_pure⟩
  · exact ⟨.flag true, yields_of_get (resumes.bind yields_pure)⟩

section Paces

variable {rest : Play Unit} (due : (K.recollect c past).due = some c')
  (final : ∀ u, k (.ok (K.reply q)) u = rest u) (quiet : ∀ u, rest.Yields K (·.handsOut = false) u u ())

include due final quiet

/-- The company goes on from what it has in its hands, and then gives it back. -/
lemma Company.comesTo_atOnce (opened : Pending.isOpen [.run a q k] = true) (inRun : t.inRun = true)
    (plays : c'.play.Yields K (·.handsOut = false) s t (.run b))
    (h : ∀ past', (K.recollect c past').due = none → Left past past' [] →
      ComesTo (K.rule .atOnce c) goal past' ⟨.stage (.run a (.done t (.ok ()))), []⟩) :
    ComesTo (K.rule .atOnce c) goal past ⟨.surroundings s, [.run a q k]⟩ := by
  -- The call finds the loop running, so it leaves the lines to it and is answered.
  refine comesTo_step (.enter c' (if_pos opened)) ⟨due, Pace.noConfusion⟩ ?_
  have called : Left past (past ++ [.called (some q) s c']) [] := Left.refl.concat rfl
  have free : (K.recollect c (past ++ [.called (some q) s c'])).due = none := by
    rw [recollect_concat]
    rfl
  refine comesTo_quiet (f := .call) Frame.awaits_call (fun _ => free) plays fun past₁ same₁ left₁ => ?_
  refine comesTo_turn (.work (congrArg some (if_pos inRun))) trivial rfl rfl fun past₂ same₂ left₂ => ?_
  have free₂ : (K.recollect c past₂).due = none := by
    rw [same₂, same₁]
    exact free
  refine comesTo_turn (.reply (.ok (K.reply q))) ⟨rfl, fun _ => free₂⟩ rfl rfl fun past₃ same₃ left₃ => ?_
  show ComesTo _ _ _ ⟨.stage (.run a (k (.ok (K.reply q)) t)), []⟩
  have free₃ : (K.recollect c past₃).due = none := by
    rw [same₃]
    exact free₂
  rw [final]
  refine comesTo_quiet (f := .run a) (Frame.awaits_run a) (fun _ => free₃) (quiet t) fun past₄ same₄ left₄ => ?_
  refine h past₄ ?_ ((called.trans left₁).trans ((left₂.trans left₃).trans left₄))
  rw [same₄]
  exact free₃

/-- The company gives back what it has in its hands, and goes on when the loop has come to its end. -/
lemma Company.comesTo_later (awaiting : s.phase = .awaiting)
    (plays : c'.play.Yields K (·.handsOut = false) { s with inRun := false } { t with inRun := false } (.run b))
    (h : ∀ past', (K.recollect c past').due = none → Left past past' [] →
      ComesTo (K.rule .later c) goal past' ⟨.stage (.run b (.done { t with inRun := true } (.ok ()))), []⟩) :
    ComesTo (K.rule .later c) goal past ⟨.surroundings s, [.run a q k]⟩ := by
  -- The loop ends first, for the stage is waiting. The call then starts another one.
  have still : s.phase ≠ .running := by
    rw [awaiting]
    decide
  refine comesTo_turn (.reply (.ok (K.reply q))) ⟨rfl, Pace.noConfusion⟩ rfl rfl fun past₁ same₁ left₁ => ?_
  show ComesTo _ _ _ ⟨.stage (.run a (k (.ok (K.reply q)) s)), []⟩
  rw [final]
  refine comesTo_quiet (f := .run a) (Frame.awaits_run a) Pace.noConfusion (quiet s) fun past₂ same₂ left₂ => ?_
  refine comesTo_turn (.work (congrArg some (if_neg still))) trivial rfl rfl fun past₃ same₃ left₃ => ?_
  have due₃ : (K.recollect c past₃).due = some c' := by
    rw [same₃, same₂, same₁]
    exact due
  refine comesTo_step (.enter c' rfl) ⟨due₃, fun _ => rfl⟩ ?_
  have called : Left past₃ (past₃ ++ [.called none { s with inRun := false } c']) [] := Left.refl.concat rfl
  have free : (K.recollect c (past₃ ++ [.called none { s with inRun := false } c'])).due = none := by
    rw [recollect_concat]
    rfl
  refine comesTo_quiet (f := .call) Frame.awaits_call (fun _ => free) plays fun past₄ same₄ left₄ => ?_
  refine comesTo_turn (.work rfl) trivial rfl rfl fun past₅ same₅ left₅ => ?_
  refine h past₅ ?_ (((left₁.trans left₂).trans (left₃.trans called)).trans (left₄.trans left₅))
  rw [same₅, same₄]
  exact free

/-- What the company has in its hands it goes on from, at either pace. -/
lemma Company.comesTo_goingOn (opened : Pending.isOpen [.run a q k] = true) (awaiting : s.phase = .awaiting)
    (inRun : s.inRun = true) (stands : s.resumed.StandsAt x l) (unlinked : s.resumed.node? l.link = none)
    (goes : c' = .resume s.ticket [] ∨ c' = .advance [])
    (h : ∀ past' b, (K.recollect c past').due = none → Left past past' [] →
      ComesTo (K.rule pace c) goal past' ⟨.stage (.run b (.done (s.resumed.atLine (x.index + 1)) (.ok ()))), []⟩) :
    ComesTo (K.rule pace c) goal past ⟨.surroundings s, [.run a q k]⟩ := by
  cases pace with
  | atOnce =>
    obtain ⟨b, plays⟩ := yields_goingOn (K := K) (P := (·.handsOut = false)) awaiting stands unlinked goes
    exact comesTo_atOnce (t := s.resumed.atLine (x.index + 1)) due final quiet opened inRun plays fun past' => h past' a
  | later =>
    have stays : ({ s with inRun := false } : Stage).resumed.StandsAt x l := ⟨stands.session, rfl, stands.line⟩
    obtain ⟨b, plays⟩ := yields_goingOn (K := K) (P := (·.handsOut = false)) (s := { s with inRun := false }) awaiting
      stays unlinked goes
    have same := (s.resumed.atLine (x.index + 1)).eq_of_inRun inRun
    refine comesTo_later due final quiet (t := s.resumed.atLine (x.index + 1)) awaiting plays fun past' free left => ?_
    rw [same]
    exact h past' b free left

end Paces

/-- A play comes to what it hands out. -/
lemma Company.comesTo_offered {rest : Play Unit} {p : Play Unit} (free : (K.recollect c past).due = none)
    (offers : p.Offers K (·.handsOut = false) s t q rest)
    (h : ∀ past' k, K.recollect c past' = K.recollect c past → Left past past' [] →
      (∀ u, k (.ok (K.reply q)) u = rest u) →
        ComesTo (K.rule pace c) goal past' ⟨.stage (.run a (.ask t q k)), []⟩) :
    ComesTo (K.rule pace c) goal past ⟨.stage (.run a (p s)), []⟩ := by
  obtain ⟨ls, k, plays, within, final⟩ := offers
  refine comesTo_plays (K := K) (f := .run a) free_rule (Frame.awaits_run a) ?_ ?_
  · intro ls₁ s' q' ls₂ e
    rw [plays] at e
    obtain rfl : ls = ls₁ ++ .asked s' q' :: ls₂ := e
    rw [List.append_assoc]
    refine binds_rule fun _ => ?_
    rw [recollect_of_within (P := (·.handsOut = false))]
    · exact free
    · intro l mem
      apply within
      rw [List.append_cons]
      exact List.mem_append_left _ mem
  · rw [plays]
    exact h _ k (recollect_of_within within) (Left.refl.within within) final

/-- A line is begun, and comes to what it hands out. The company then knows what it has to do about it. -/
lemma Company.comesTo_handed {rest : Play Unit} (free : (K.recollect c past).due = none) (stands : s.StandsAt x l)
    (offers : runLine.Offers K (·.handsOut = false) s t q rest) (hands : q.handsOut = true)
    (h : ∀ past' shown k, (K.recollect c past').due = K.choose shown q →
      Left past past' (.line x.node x.index :: marks [.asked t q]) → (∀ u, k (.ok (K.reply q)) u = rest u) →
        ComesTo (K.rule pace c) goal past' ⟨.surroundings t, [.run a q k]⟩) :
    ComesTo (K.rule pace c) goal past ⟨.stage (.run a (.done s (.ok ()))), []⟩ := by
  have begun : Left past (past ++ [.began s]) [.line x.node x.index] := left_began stands.session
  have same : K.recollect c (past ++ [.began s]) = K.recollect c past := recollect_concat
  refine comesTo_step (.work (congrArg some (if_pos stands.running))) trivial ?_
  generalize past ++ [.began s] = past₁ at begun same ⊢
  rw [← same] at free
  refine comesTo_offered free offers fun past₂ k same₂ left₂ final => ?_
  refine comesTo_step (.work ((Frame.run a).asks _ _ k [])) trivial ?_
  refine h _ (K.recollect c past₂).shown k ?_ ((begun.trans left₂).trans ⟨_, rfl, rfl⟩) final
  rw [recollect_concat, heed, if_pos hands]

/-- A line that is shown is gone on from, at either pace. -/
theorem Company.walks_shown {p : Nat} (strolls : K.Strolls) (stands : s.StandsAt x l) (inRun : s.inRun = true)
    (presenter : s.presenter = some p) (unlinked : s.node? l.link = none) (shows : perform l = showLine l) :
    K.Walks pace c s [.line x.node x.index, .shown ((s.acted K l).expandedLine K l)]
      (((s.acted K l).shown x.node).atLine (x.index + 1)) := by
  intro past a free
  have kept : s.Keeps (s.acted K l) := Stage.keeps_acted l
  have acts := kept.standsAt stands
  have gone : s.Keeps ((s.acted K l).shown x.node) := kept.trans (Stage.keeps_shown acts.running)
  have offers : runLine.Offers K (·.handsOut = false) s ((s.acted K l).noted x.node).suspended
      (.show p ((s.acted K l).expandedLine K l) ((s.acted K l).ticket + 1))
      (handToObservers ((s.acted K l).expandedLine K l) ((s.acted K l).ticket + 1)) := by
    apply offers_runLine (fun _ _ => rfl) (fun _ _ _ => rfl) (fun _ _ => rfl) stands
    rw [shows]
    exact offers_showLine (fun _ _ => rfl) (fun _ _ => rfl) acts.session (kept.presenter.trans presenter)
  refine comesTo_handed free stands offers rfl fun past₁ shown k due left final => ?_
  obtain ⟨c', chosen, goes⟩ := strolls shown p ((s.acted K l).expandedLine K l) ((s.acted K l).ticket + 1)
  refine comesTo_goingOn (due.trans chosen) final (fun u => yields_handToObservers (fun _ _ _ => rfl) _ _) rfl rfl
    (kept.inRun.trans inRun) (gone.standsAt stands) ((gone.node? l.link).trans unlinked) goes
    fun past₂ b free₂ left₂ => ?_
  exact .here ⟨free₂, left.trans left₂, b, rfl⟩

end GoingOn

end Parley
