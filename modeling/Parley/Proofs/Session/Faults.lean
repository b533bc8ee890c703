import Parley.Proofs.Session.Conduct
import Parley.Proofs.Session.Standing

/-!
# Where faults come from

Most plays come to a result if whoever they ask gives one, whatever happens to the stage meanwhile.

* `Routine.Sure`: a routine that ends with no fault of its own.
* `Play.sure_moveOn`, `Play.sure_endSession` and the like: the plays that no stage makes fail.
* `Play.sure_announce`, `Play.sure_passOver`, `Play.sure_branch`: those that need a session.
* `Call.sure`: a call does not fail, if the counter of a session to be started can be moved on.

`Contract.fault_of_run` closes the file: what is known of the faults of single calls and lines is known of all
faults that are seen in a run.
-/

namespace Parley

/-- The fault of a handler is reported, and ends nothing. -/
def Request.isHandled : Request → Bool
  | .handle _ _ => true
  | _ => false

variable {α β : Type}

/-- The routine comes to a result, if whoever is asked gives one. -/
def Routine.Sure : Routine α → Prop
  | .done _ r => r.isOk = true
  | .tell _ rest => rest.Sure
  | .ask _ q k => ∀ r s, (q.isHandled = false → r.isOk = true) → (k r s).Sure

/-- Routines that are sure are sure one after another. -/
lemma Routine.Sure.bind {r : Routine α} {f : α → Stage → Routine β} (h : r.Sure) (hf : ∀ a s, (f a s).Sure) :
    (r.bind f).Sure := by
  induction r with
  | done s r =>
    cases r with
    | ok a => exact hf a s
    | error e => cases h
  | tell n rest ih => exact ih h
  | ask s q k ih => exact fun r s gives => ih r s (h r s gives)

/-- Whatever keeps to a contract comes to a result, if it is sure and the surroundings give theirs. -/
lemma Routine.Meets.sure {C : Contract} {post : Scene → Except Fault α → Prop} {r : Routine α} {past : List Label}
    (gives : ∀ {past s q r}, C.rule past (.replied s q r) → q.isHandled = false → r.isOk = true) (sure : r.Sure)
    (h : r.Meets C post past) : r.Meets C (fun y a => post y a ∧ a.isOk = true) past := by
  induction r generalizing past with
  | done s r => exact ⟨h, sure⟩
  | tell n rest ih => exact ih sure h
  | ask s q k ih =>
    refine ⟨h.1, fun y r back keeps => ?_⟩
    exact ih r y.stage (sure r y.stage (gives keeps)) (h.2 y r back keeps)

/-- What a routine fulfils apart it fulfils together. -/
lemma Routine.Meets.and {C : Contract} {post post' : Scene → Except Fault α → Prop} {r : Routine α} {past : List Label}
    (h : r.Meets C post past) (h' : r.Meets C post' past) :
    r.Meets C (fun y a => post y a ∧ post' y a) past := by
  induction r generalizing past with
  | done s r => exact ⟨h, h'⟩
  | tell n rest ih => exact ih h h'
  | ask s q k ih => exact ⟨h.1, fun y r back keeps => ih r y.stage (h.2 y r back keeps) (h'.2 y r back keeps)⟩

namespace Play

variable {C : Contract} {x : Scene} {known : Scene → Prop}

/-- A play that is sure comes to a result, whatever else is known of it. -/
lemma Does.sure {p : Play α}
    (gives : ∀ {past s q r}, C.rule past (.replied s q r) → q.isHandled = false → r.isOk = true)
    (does : p.Does C x fun y _ => known y) (sure : (p x.stage).Sure) :
    p.Does C x fun y r => known y ∧ r.isOk = true :=
  Routine.Meets.sure gives sure does

/-- What comes after a play that comes to a result. -/
lemma does_bind_sure {p : Play α} {f : α → Play β} {post : Scene → Except Fault β → Prop}
    (does : p.Does C x fun y r => known y ∧ r.isOk = true) (next : ∀ y a, known y → (f a).Does C y post) :
    (p >>= f).Does C x post := by
  refine does_bind.mpr (does.mono ?_)
  rintro y r ⟨known, gives⟩
  cases r with
  | error e => cases gives
  | ok a => exact next y a known

/-- The play comes to a result on every stage. -/
def Sure (p : Play α) : Prop :=
  ∀ s, (p s).Sure

variable {p : Play α} {f : α → Play β} {s : Stage}

/-- Plays that are sure are sure one after another. -/
lemma Sure.bind (h : p.Sure) (hf : ∀ a, (f a).Sure) : (p >>= f).Sure :=
  fun s => (h s).bind hf

/-- A result that is there already is sure. -/
lemma sure_pure {a : α} : (pure a : Play α).Sure :=
  fun _ => rfl

/-- Looking at the stage is sure. -/
lemma sure_get : get.Sure :=
  fun _ => rfl

/-- Setting the stage is sure. -/
lemma sure_set {s : Stage} : (set s).Sure :=
  fun _ => rfl

/-- Changing the stage is sure. -/
lemma sure_modify {f : Stage → Stage} : (modify f).Sure :=
  fun _ => rfl

/-- A report is sure. -/
lemma sure_tell {n : Notice} : (tell n).Sure :=
  fun _ => rfl

/-- A request is sure, unless it is to a handler, who may fail. -/
lemma sure_ask {q : Request} (h : q.isHandled = false) : (ask q).Sure :=
  fun _ _ _ gives => gives h

/-- Plays that are sure are sure in any number. -/
lemma sure_each {f : β → Play Unit} (h : ∀ b, (f b).Sure) (bs : List β) : (each f bs).Sure := by
  induction bs with
  | nil => exact sure_pure
  | cons b bs ih => exact (h b).bind fun _ => ih

/-! ## Keywords, events and functions -/

/-- Asking the members for a keyword is sure. -/
lemma sure_askKeyword (key : Text) (ms : List Member) : (askKeyword key ms).Sure := by
  induction ms with
  | nil => exact sure_pure
  | cons m ms ih =>
    refine (sure_ask rfl).bind fun value => ?_
    cases value with
    | none => exact ih
    | some value => exact sure_pure

/-- Looking up a keyword is sure. -/
lemma sure_resolveKeyword (key : Text) : (resolveKeyword key).Sure := by
  refine sure_get.bind fun s => ?_
  cases s.keyword? key with
  | none => exact sure_askKeyword key s.members
  | some value => exact sure_pure

/-- Expanding a text is sure, from any state of the expansion. -/
lemma sure_expandFrom (fuel count : Nat) (known : Table Text Text) (t : Text) :
    (Keyword.expandFrom resolveKeyword fuel count known t).Sure := by
  induction fuel generalizing count known t with
  | zero =>
    unfold Keyword.expandFrom
    split
    · exact sure_pure
    · exact sure_pure
    · contradiction
  | succ fuel ih =>
    unfold Keyword.expandFrom
    split
    · exact sure_pure
    · contradiction
    · rename_i e
      cases e
      split
      · exact ih _ _ _
      · exact (sure_resolveKeyword _).bind fun _ => ih _ _ _

/-- Expanding a text is sure. -/
lemma sure_expandText (t : Text) : (expandText t).Sure := by
  refine sure_get.bind fun s => (sure_expandFrom _ _ _ _).bind fun e => ?_
  dsimp only
  split
  · exact sure_tell.bind fun _ => sure_pure
  · exact sure_pure

/-- Expanding several texts is sure. -/
lemma sure_expandTexts (ts : List Text) : (expandTexts ts).Sure := by
  induction ts with
  | nil => exact sure_pure
  | cons t ts ih => exact (sure_expandText t).bind fun _ => ih.bind fun _ => sure_pure

/-- Expanding a parameter is sure. -/
lemma sure_expandParameter (t : Text) : (expandParameter t).Sure := by
  unfold expandParameter
  split
  · exact sure_pure
  · exact sure_expandText t

/-- Expanding a line is sure. -/
lemma sure_expandLine (l : Line) : (expandLine l).Sure :=
  (sure_expandText l.speaker).bind fun _ => (sure_expandText l.text).bind fun _ =>
    (sure_expandText l.portrait).bind fun _ => sure_pure

/-- Expanding a query is sure. -/
lemma sure_expandQuery (q : Query) (ticket : Ticket) : (expandQuery q ticket).Sure :=
  (sure_expandTexts _).bind fun _ => (sure_expandText q.text).bind fun _ =>
    (sure_expandText q.description).bind fun _ => sure_pure

/-- Whatever becomes of a handler, the event is taken on. -/
lemma sure_notify (e : Event) (h : HandlerId) : (notify e h).Sure := by
  have asks : (attempt (ask (.handle h e))).Sure := fun s r t _ => rfl
  refine asks.bind fun r => ?_
  cases r with
  | ok u => exact sure_pure
  | error f => exact sure_tell

/-- Publishing an event is sure, since the faults of its handlers are caught. -/
lemma sure_publish (e : Event) : (publish e).Sure := by
  refine sure_get.bind fun s => ?_
  cases s.bus with
  | none => exact sure_pure
  | some bus => exact sure_each (sure_notify e) _

/-- Calling a built-in function is sure. -/
lemma sure_callBuiltIn (name parameter : Text) : (callBuiltIn name parameter).Sure :=
  fun _ => rfl

/-- Offering a function to all members is sure. -/
lemma sure_offerToAll (name parameter : Text) : (offerToAll name parameter).Sure := by
  refine sure_get.bind fun s => (sure_callBuiltIn name parameter).bind fun _ => sure_each (fun m => ?_) _
  exact (sure_ask rfl).bind fun _ => sure_pure

/-- Asking for the result of a function is sure. -/
lemma sure_decide (name parameter : Text) : (decide name parameter).Sure := by
  refine sure_get.bind fun s => (sure_callBuiltIn name parameter).bind fun r => ?_
  cases r with
  | some result => exact sure_pure
  | none =>
    dsimp only
    generalize s.members = ms
    induction ms with
    | nil => exact sure_pure
    | cons m ms ih =>
      refine (sure_ask rfl).bind fun r => ?_
      cases r with
      | some result => exact sure_pure
      | none => exact ih

/-- Asking for the images is sure. -/
lemma sure_images : images.Sure := by
  refine sure_get.bind fun s => ?_
  generalize s.members = ms
  induction ms with
  | nil => exact sure_pure
  | cons m ms ih => exact (sure_ask rfl).bind fun _ => ih.bind fun _ => sure_pure

/-! ## From line to line -/

/-- Setting a variable is sure. -/
lemma sure_assign (a : Assignment) : (assign a).Sure := by
  unfold assign
  split
  · exact sure_pure
  · exact sure_modify

/-- What depends on the stage is sure on a stage on which it is sure. -/
lemma sure_of_get {f : Stage → Play α} (h : (f s s).Sure) : ((get >>= f) s).Sure :=
  h

/-- Announcing where the session stands is sure as long as there is one. -/
lemma sure_announce {kind : EventKind} {payload : (agent node : Text) → Payload} (going : s.session ≠ none) :
    (announce kind payload s).Sure := by
  refine sure_of_get ?_
  obtain ⟨x, session⟩ := Option.ne_none_iff_exists'.mp going
  rw [session]
  exact sure_publish _ s

/-- Entering a node is sure as long as there is a session. -/
lemma sure_enterNode (n : Node) (going : s.session ≠ none) : (enterNode n s).Sure := by
  let t : Stage := { s with session := s.session.map fun x => { x with node := n, index := 0 } }
  have still : t.session ≠ none := Option.map_eq_none_iff.not.mpr going
  exact sure_announce (s := t) still

/-- A link leads somewhere only during a session. -/
lemma going_of_targetOf {link : Text} {n : Node} (h : targetOf s link = some n) : s.session ≠ none := by
  intro session
  simp [targetOf, Stage.node?, Stage.currentAgent?, Stage.currentLine?, session] at h

/-- Moving on is sure, as it ends without a session. -/
lemma sure_moveOn (link : Text) : (moveOn link).Sure := by
  refine fun s => sure_of_get ?_
  cases target : targetOf s link with
  | some n => exact sure_enterNode n (going_of_targetOf target)
  | none =>
    cases s.session with
    | none => exact sure_pure s
    | some x => exact sure_modify s

/-- Passing over lines is sure as long as there is a session. -/
lemma sure_passOver (going : s.session ≠ none) : (passOver s).Sure := by
  refine sure_of_get ?_
  obtain ⟨x, session⟩ := Option.ne_none_iff_exists'.mp going
  rw [session]
  dsimp only
  cases (x.node.lines.drop (x.index + 1)).findIdx? fun l => l.elseIf || l.endIf with
  | none => exact sure_modify s
  | some i =>
    refine Routine.Sure.bind (sure_modify s) fun _ => ?_
    cases (x.node.lines.drop (x.index + 1))[i]? with
    | none => exact sure_pure
    | some l =>
      dsimp only
      split
      · exact sure_pure
      · exact sure_moveOn []

/-- Branching is sure as long as there is a session. -/
lemma sure_branch (holds : Bool) (going : s.session ≠ none) : (branch holds s).Sure := by
  refine sure_of_get ?_
  obtain ⟨x, session⟩ := Option.ne_none_iff_exists'.mp going
  rw [session]
  dsimp only
  split
  · exact sure_moveOn [] s
  · exact sure_passOver going

/-! ## Sessions -/

/-- Tearing down a session is sure. -/
lemma sure_tearDown (x : Session) : (tearDown x).Sure := by
  have closed : (closePresenter x.number).Sure := by
    refine sure_get.bind fun s => ?_
    cases s.presenter with
    | none => exact sure_pure
    | some p => exact sure_ask rfl
  have told : (tellExit x.number).Sure := sure_get.bind fun s => sure_each (fun _ => sure_ask rfl) _
  have announced : (announceEnd x).Sure := sure_get.bind fun s => sure_publish _
  have called : (callBack x).Sure := by
    unfold callBack
    cases x.onExit with
    | none => exact sure_pure
    | some c => exact sure_ask rfl
  exact closed.bind fun _ => told.bind fun _ => announced.bind fun _ => called

/-- Ending the session is sure, also if there is none. -/
lemma sure_endSession : endSession.Sure := by
  refine fun s => sure_of_get ?_
  cases s.phase with
  | idle => exact sure_pure s
  | running | awaiting =>
    cases s.session with
    | none => exact sure_pure s
    | some x => exact (sure_set.bind fun _ => sure_tearDown x) s

/-- Going on after a pause is sure. -/
lemma sure_resume (ticket : Ticket) (link : Text) : (resume ticket link).Sure := by
  refine sure_get.bind fun s => ?_
  split
  · exact sure_set.bind fun _ => (sure_moveOn link).bind fun _ => sure_pure
  · exact sure_tell.bind fun _ => sure_pure

/-- Answering a prompt is sure. -/
lemma sure_respond (p : Prompt) (label : Text) : (respond p label).Sure := by
  refine sure_get.bind fun s => ?_
  split
  · exact sure_tell.bind fun _ => sure_pure
  · split
    · exact sure_resume _ _
    · exact sure_tell.bind fun _ => sure_resume _ _

/-- A line is handed to whoever is there. -/
lemma sure_handOut (l : Line) (ticket : Ticket) : (handOut l ticket).Sure := by
  have presented : (handToPresenter l ticket).Sure := by
    refine sure_get.bind fun s => ?_
    cases s.presenter with
    | none => exact sure_pure
    | some p => exact sure_ask rfl
  have observed : (handToObservers l ticket).Sure := sure_get.bind fun s => sure_each (fun _ => sure_ask rfl) _
  refine sure_get.bind fun s => ?_
  split
  · exact sure_tell.bind fun _ => presented.bind fun _ => observed
  · exact presented.bind fun _ => observed

/-- The announcements of a new session are sure. -/
lemma sure_tellStart (k : Nat) (a : AgentId) (node : Node) : (tellStart k a node).Sure := by
  refine sure_get.bind fun s => (sure_each (fun _ => sure_ask rfl) _).bind fun _ => ?_
  refine sure_get.bind fun s => (sure_publish _).bind fun _ => ?_
  exact sure_get.bind fun s => sure_publish _

/-- The stage is left with what was built, whether a failure is reported or not. -/
lemma build_eq (a : AgentId) (speaker : Text) (s : Stage) :
    ∃ b, build a speaker s = .done (s.built a speaker) (.ok b) ∨
      ∃ failure, build a speaker s = .tell (.notBuilt failure) (.done (s.built a speaker) (.ok b)) := by
  refine ⟨!((s.agents a).build speaker).1.dialog.isEmpty, ?_⟩
  unfold build
  rw [show ∀ f : Stage → Play Bool, (get >>= f) s = f s s from fun _ => rfl]
  cases failure : ((s.agents a).build speaker).2 with
  | none =>
    simp only [failure]
    exact .inl rfl
  | some failure' =>
    simp only [failure]
    exact .inr ⟨failure', rfl⟩

/-- What follows a building is sure if it is on the stage with the dialog built. -/
lemma sure_build_bind {a : AgentId} {speaker : Text} {f : Bool → Play β}
    (h : ∀ b, (f b (s.built a speaker)).Sure) : ((build a speaker >>= f) s).Sure := by
  change ((build a speaker s).bind _).Sure
  obtain ⟨b, e | ⟨failure, e⟩⟩ := build_eq a speaker s
  · rw [e]
    exact h b
  · rw [e]
    exact h b

/-- A session is started, or refused, if its counter can be moved on. -/
lemma sure_initiate {a : Option AgentId} {onExit : Option Nat}
    (counts : ∀ b, a = some b → s.vars.countVisit? (s.agents b).id ≠ none) : (initiate a onExit s).Sure := by
  refine sure_of_get ?_
  cases a with
  | none => exact (sure_tell.bind fun _ => sure_pure) s
  | some b =>
    obtain ⟨vars, counted⟩ := Option.ne_none_iff_exists'.mp (counts b rfl)
    cases phase : s.phase with
    | running | awaiting =>
      exact (sure_tell.bind fun _ => sure_pure) s
    | idle =>
      dsimp only
      cases (s.agents b).dialog.startNode? with
      | none => exact (sure_modify.bind fun _ => sure_tell.bind fun _ => sure_pure) s
      | some node =>
        have opens : (openSession b node onExit { s with history := [] }).Sure := by
          refine sure_of_get ?_
          dsimp only
          rw [counted]
          exact (sure_set.bind fun _ => sure_tellStart s.started b node) _
        exact opens.bind fun _ => sure_pure

end Play

/-- The counter of the session that a call is to start is absent, or can be moved on. -/
def Stage.Counts (s : Stage) : Call → Prop
  | .start a speaker _ => (s.built a speaker).vars.countVisit? ((s.built a speaker).agents a).id ≠ none
  | .initiate (some a) _ => s.vars.countVisit? (s.agents a).id ≠ none
  | _ => True

open Play in
/-- A call does not fail, if the counter of a session to be started can be moved on. -/
lemma Call.sure {s : Stage} {c : Call} (counts : s.Counts c) : (c.play s).Sure := by
  cases c with
  | start a speaker onExit =>
    refine sure_build_bind fun _ => sure_initiate ?_
    rintro b ⟨⟩
    exact counts
  | initiate a onExit =>
    have starts : (Play.initiate a onExit s).Sure := by
      refine sure_initiate ?_
      rintro b rfl
      exact counts
    exact starts
  | advance link => exact (sure_get.bind fun t => (sure_resume t.ticket link).bind fun _ => sure_pure) s
  | resume ticket link => exact ((sure_resume ticket link).bind fun _ => sure_pure) s
  | respond prompt label => exact ((sure_respond prompt label).bind fun _ => sure_pure) s
  | kill => exact (sure_endSession.bind fun _ => sure_pure) s
  | keyword key => exact (sure_get.bind fun _ => sure_pure) s
  | function name parameter => exact ((sure_callBuiltIn name parameter).bind fun _ => sure_pure) s
  | images => exact (sure_images.bind fun _ => sure_pure) s
  | expand t => exact ((sure_expandText t).bind fun _ => sure_pure) s
  | build a speaker => exact sure_build_bind fun _ => sure_pure _
  | publish kind j => exact ((sure_publish _).bind fun _ => sure_pure) s
  | adjust change => exact (sure_get.bind fun t => sure_set.bind fun _ => sure_pure) s

/-! ## Faults in a run -/

section Blames

variable {C : Contract} {Q : List Label → Fault → Prop} {l : Label} {past : List Label}

/-- All faults that calls have been answered with are explained by what was seen before. -/
def Blames (Q : List Label → Fault → Prop) (past : List Label) : Prop :=
  ∀ l₁ s e l₂, past = l₁ ++ .answered s (.error e) :: l₂ → Q l₁ e

/-- Faults stay explained when more is seen, if a new one is explained. -/
lemma Blames.see (h : Blames Q past) (last : ∀ s e, l = .answered s (.error e) → Q past e) :
    Blames Q (past ++ [l]) := by
  intro l₁ s e l₂ split
  rcases append_singleton_split split with ⟨-, rfl, rfl⟩ | ⟨l₃, -, front⟩
  · exact last s e rfl
  · exact h l₁ s e l₃ front

/-- The contract in which the faults are explained too. -/
def Contract.blaming (C : Contract) (Q : List Label → Fault → Prop) : Contract where
  rule := C.rule
  holds x := C.holds x ∧ Blames Q x.past
  visit := C.visit
  running x y := C.running x y ∧ Blames Q y.past
  visit_refl := C.visit_refl
  visit_trans := C.visit_trans

/-- What keeps to a contract keeps to it with all earlier faults explained. -/
lemma Routine.Meets.blaming {post : Scene → Except Fault α → Prop} {r : Routine α} (h : r.Meets C post past)
    (blames : Blames Q past) :
    r.Meets (C.blaming Q) (fun y a => post y a ∧ Blames Q y.past) past := by
  induction r generalizing past with
  | done s a => exact ⟨h, blames⟩
  | tell n rest ih => exact ih h (blames.see fun _ _ => Label.noConfusion)
  | ask s q k ih =>
    have asked : Blames Q (past ++ [.asked s q]) := blames.see fun _ _ => Label.noConfusion
    refine ⟨⟨h.1, asked⟩, fun y r back keeps => ?_⟩
    unfold Contract.Back at back
    split at back
    · rename_i opened
      have back' : C.Back q (Scene.asking ⟨s, past⟩ q) y := by
        unfold Contract.Back
        rw [if_pos opened]
        exact ⟨back.holds.1, back.visit⟩
      exact ih r y.stage (h.2 y r back' keeps) (Blames.see back.holds.2 fun _ _ => Label.noConfusion)
    · rename_i closed
      subst back
      have back' : C.Back q (Scene.asking ⟨s, past⟩ q) (Scene.asking ⟨s, past⟩ q) := by
        unfold Contract.Back
        rw [if_neg closed]
      exact ih r s (h.2 _ r back' keeps) (asked.see fun _ _ => Label.noConfusion)

/-- A scene that follows also does with its faults explained. -/
lemma Contract.Follows.blaming {x y : Scene} (h : C.Follows x y) (blames : Blames Q y.past) :
    (C.blaming Q).Follows x y :=
  ⟨⟨h.holds, blames⟩, h.visit⟩

/-- What is known of the faults of single calls and lines is known of all faults that are seen in a run. -/
theorem Contract.fault_of_run (honours : C.Honours)
    (calls : ∀ {x owed c}, C.holds x → C.rule x.past (.called owed x.stage c) →
      c.play.Does C (x.calling owed c) fun y r => ∀ e, r = .error e → Q y.past e)
    (lines : ∀ {x y}, C.running x y → y.stage.phase = .running →
      Play.runLine.Does C y.beginning fun z r => ∀ e, r = .error e → Q z.past e)
    {s s' : Stage} {e : Fault} {l₁ l₂ : List Label} {m : Moment} (start : C.holds ⟨s, []⟩)
    (run : Run C.rule (.initial s) (l₁ ++ .answered s' (.error e) :: l₂) m) : Q l₁ e := by
  -- The contract also keeps that the faults seen so far are explained; the run is then cut behind the one in question.
  have explained : (C.blaming Q).Honours := by
    constructor
    · rintro x owed c ⟨holds, blames⟩ keeps
      have called : Blames Q (x.calling owed c).past := blames.see fun _ _ => Label.noConfusion
      have both := Routine.Meets.blaming (Routine.Meets.and (honours.call holds keeps) (calls holds keeps)) called
      refine both.mono ?_
      rintro y r ⟨⟨after, why⟩, blames⟩
      cases r with
      | error e => exact Follows.blaming after (blames.see fun s f same => by cases same; exact why e rfl)
      | ok o =>
        cases o with
        | answer a => exact Follows.blaming after (blames.see fun _ _ same => by cases same)
        | run a =>
          simp only [afterCall] at after ⊢
          split
          · rename_i inRun
            rw [if_pos inRun] at after
            exact Follows.blaming after (blames.see fun _ _ same => by cases same)
          · rename_i still
            rw [if_neg still] at after
            exact ⟨after, blames.see fun _ _ => Label.noConfusion⟩
    · rintro x y ⟨running, blames⟩ phase
      have begun : Blames Q y.beginning.past := blames.see fun _ _ => Label.noConfusion
      have both := Routine.Meets.blaming (Routine.Meets.and (honours.line running phase) (lines running phase)) begun
      refine both.mono ?_
      rintro z r ⟨⟨after, why⟩, blames⟩
      cases r with
      | error e => exact Follows.blaming after (blames.see fun s f same => by cases same; exact why e rfl)
      | ok u => exact ⟨after, blames⟩
    · rintro x y ⟨running, blames⟩ phase a
      exact Follows.blaming (honours.rest running phase a) (blames.see fun _ _ same => by cases same)
  obtain ⟨n, n', run, step, keeps, -⟩ := run.split
  have safe := (C.blaming Q).safe explained (s := s) ⟨start, fun l₁ s e l₂ split => absurd split (by simp)⟩
    (run.snoc step keeps)
  have control : n'.control = .surroundings s' := step.fits
  unfold Contract.Safe at safe
  rw [control] at safe
  exact safe.1.2 l₁ s' e [] rfl

end Blames

end Parley
