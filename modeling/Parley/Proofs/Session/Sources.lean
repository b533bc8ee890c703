import Parley.Proofs.Session.Faults
import Parley.Proofs.Session.Pauses
import Parley.Proofs.Session.Tally

/-!
# Sources

An agent holds its dialogs from the source that was set last, although the dialog is built once and kept.

* `Source.dialog?` and `Source.counter`: the dialog that a source stands for, and the id that its visits go by.
* `Order`: what has been asked of an agent so far.
* `Agent.Fulfils`: the agent does as it was asked. `Agent.Fulfils.build` is the heart: a dialog that is kept is the one that
  would be built.
* `supplies`: the contract.

`runs_latest` closes the file, and `overdue` shows what it does not say: a single line that is kept is said by the
speaker with whom it was built.
-/

namespace Parley

/-! ## Agents -/

namespace Source

variable {strict : Bool} {speaker speaker' : Text} {source : Source}

/-- The dialog that is built from a source, if one can be built. The speaker says a single line. -/
def dialog? (strict : Bool) (speaker : Text) : Source → Option Dialog
  | .missing => none
  | .dialog d => some d
  | .json t => if t.isEmpty then none else (Dialog.type.parse t).toOption
  | .staticText t => some (Agent.staticDialog speaker t)
  | .script t start => if t.isEmpty then none else some (Script.parse strict t start)

/-- The id that visits go by. -/
def counter (name : Text) : Source → Text
  | .staticText _ => Agent.staticId
  | _ => name

/-- Only a dialog that has been built depends on who speaks. -/
lemma dialog?_of_isEmpty (empty : ((source.dialog? strict speaker).getD {}).isEmpty = true) :
    source.dialog? strict speaker' = source.dialog? strict speaker := by
  cases source with
  | staticText t => cases empty
  | _ => rfl

end Source

/-- An empty dialog has nothing in it. -/
lemma Dialog.eq_of_isEmpty {d : Dialog} (empty : d.isEmpty = true) : d = {} := by
  obtain ⟨start, nodes, windowType, data⟩ := d
  simp only [isEmpty, Bool.and_eq_true, List.isEmpty_iff] at empty
  obtain ⟨⟨⟨rfl, rfl⟩, rfl⟩, rfl⟩ := empty
  rfl

/-- What has been asked of an agent: its source, and who was to speak when the dialog was first asked for since. -/
structure Order where
  source : Source
  speaker? : Option Text := none

namespace Order

variable {a b : AgentId} {o : Order} {speaker : Text}

/-- The dialog is asked for. -/
def asked (o : Order) (speaker : Text) : Order :=
  { o with speaker? := some (o.speaker?.getD speaker) }

/-- What a call asks of an agent. -/
def heard (a : AgentId) (o : Order) : Call → Order
  | .adjust (.setSource b source) => if b = a then ⟨source, none⟩ else o
  | .adjust (.clearDialog b) => if b = a then { o with speaker? := none } else o
  | .build b speaker | .start b speaker _ => if b = a then o.asked speaker else o
  | _ => o

/-- What a label asks of an agent. -/
def seen (a : AgentId) (o : Order) : Label → Order
  | .called _ _ c => o.heard a c
  | _ => o

/-- What has been asked of an agent in the end. -/
def after (a : AgentId) (o : Order) (ls : List Label) : Order :=
  ls.foldl (Order.seen a) o

/-- What has been asked in the end is what the last label asked after the others. -/
lemma after_snoc {ls : List Label} {l : Label} : o.after a (ls ++ [l]) = (o.after a ls).seen a l := by
  rw [after, List.foldl_append]
  rfl

end Order

namespace Agent

variable {x y : Agent} {o : Order} {speaker : Text}

/-- An agent has not built its dialog since it was last asked to do something else, or has built what it was asked
to. -/
structure Fulfils (x : Agent) (o : Order) : Prop where
  source : x.source = o.source
  unbuilt : o.speaker? = none → x.dialog = {}
  built : ∀ speaker, o.speaker? = some speaker →
    x.dialog = (o.source.dialog? x.strict speaker).getD {} ∧ x.id = o.source.counter x.name

/-- An agent that agrees with another in what a dialog is built from fulfils the same order. -/
lemma Fulfils.of_eq (h : x.Fulfils o) (source : y.source = x.source) (dialog : y.dialog = x.dialog)
    (strict : y.strict = x.strict) (id : y.id = x.id) (name : y.name = x.name) : y.Fulfils o := by
  refine ⟨source.trans h.source, fun unmade => dialog.trans (h.unbuilt unmade), fun speaker made => ?_⟩
  rw [dialog, strict, id, name]
  exact h.built speaker made

/-- A new source has nothing built from it yet. -/
lemma fulfils_setSource (x : Agent) (source : Source) : (x.setSource source).Fulfils ⟨source, none⟩ :=
  ⟨rfl, fun _ => rfl, nofun⟩

/-- An agent that is cleared has nothing built. -/
lemma Fulfils.clear (h : x.Fulfils o) : x.clear.Fulfils { o with speaker? := none } :=
  ⟨h.source, fun _ => rfl, nofun⟩

/-- A dialog that is there is not built again. -/
lemma build_of_filled (filled : x.dialog.isEmpty = false) : (x.build speaker).1 = x := by
  rw [build, if_pos (by rw [filled]; rfl)]

/-- A dialog that cannot be built stays empty. -/
lemma build_eq (empty : x.dialog.isEmpty = true) :
    (x.build speaker).1 =
      { x with id := x.source.counter x.name, dialog := (x.source.dialog? x.strict speaker).getD {} } := by
  have blankDialog : x.dialog = {} := Dialog.eq_of_isEmpty empty
  unfold build
  rw [empty]
  cases source : x.source with
  | missing => simp [filled, Source.dialog?, Source.counter, blankDialog, source]
  | dialog d => simp [filled, Source.dialog?, Source.counter, source]
  | json t =>
    simp only [Source.dialog?, Source.counter]
    by_cases blank : t.isEmpty = true
    · simp [filled, blank, blankDialog, source]
    · cases Dialog.type.parse t with
      | ok d => simp [filled, blank, Except.toOption, source]
      | error issues => simp [filled, blank, Except.toOption, blankDialog, source]
  | staticText t => simp [filled, Source.dialog?, Source.counter, source]
  | script t start =>
    by_cases blank : t.isEmpty = true
    · simp [filled, blank, blankDialog, Source.dialog?, Source.counter, source]
    · simp [filled, blank, Source.dialog?, Source.counter, source]

/-- Building leaves how scripts are read, and the name. -/
lemma build_same (x : Agent) (speaker : Text) :
    (x.build speaker).1.strict = x.strict ∧ (x.build speaker).1.name = x.name := by
  by_cases empty : x.dialog.isEmpty = true
  · rw [build_eq empty]
    exact ⟨rfl, rfl⟩
  · rw [build_of_filled (by simpa using empty)]
    exact ⟨rfl, rfl⟩

/-- The dialog is built, or the one that is there is the one that was to be built. -/
lemma Fulfils.build (h : x.Fulfils o) (speaker : Text) : (x.build speaker).1.Fulfils (o.asked speaker) := by
  by_cases empty : x.dialog.isEmpty = true
  · rw [build_eq empty, h.source]
    refine ⟨rfl, nofun, ?_⟩
    rintro _ ⟨⟩
    refine ⟨?_, rfl⟩
    cases first : o.speaker? with
    | none => rfl
    | some speaker' =>
      -- Building has been tried before and failed, so who speaks does not matter.
      rw [(h.built speaker' first).1] at empty
      rw [Option.getD_some]
      exact congrArg (Option.getD · {}) (Source.dialog?_of_isEmpty empty)
  · rw [build_of_filled (by simpa using empty)]
    refine ⟨h.source, nofun, ?_⟩
    rintro _ ⟨⟩
    cases first : o.speaker? with
    | none => exact absurd (h.unbuilt first ▸ rfl) empty
    | some speaker' => exact h.built speaker' first

end Agent

/-! ## Stages -/

/-- The number of the session that a call opens, and the dialog that it is opened on. -/
def Label.opening? : Label → Option (Nat × Dialog)
  | .called _ s c => (s.opening? c).map fun k => (k.number, (s.readied c).dialogOf k)
  | _ => none

/-- The sessions that calls have opened, with their dialogs. -/
def openings (ls : List Label) : List (Nat × Dialog) :=
  ls.filterMap Label.opening?

namespace Stage

variable {s : Stage} {a b : AgentId} {o : Order} {c : Call}

/-- A change leaves all that an agent builds its dialog from as it is, and the dialog too. -/
def Supplies (s s' : Stage) (a : AgentId) : Prop :=
  ∀ o, (s.agents a).Fulfils o → (s'.agents a).Fulfils o

/-- A stage with the same agents supplies the same dialogs. -/
lemma supplies_of_agents {s s' : Stage} (same : s'.agents = s.agents) : s.Supplies s' a :=
  fun _ fulfils => by rwa [same]

/-- Switching an agent off leaves what its dialog is built from. -/
lemma supplies_disable : s.Supplies (s.updateAgent b fun x => { x with enabled := false }) a := by
  intro o fulfils
  rw [updateAgent]
  dsimp only
  split
  · exact fulfils.of_eq rfl rfl rfl rfl rfl
  · exact fulfils

/-- A built-in function leaves what dialogs are built from. -/
lemma supplies_callBuiltIn (name parameter : Text) : s.Supplies (s.callBuiltIn name parameter).2 a := by
  unfold callBuiltIn
  dsimp only
  split
  · split
    · exact supplies_disable
    · exact supplies_of_agents rfl
  · repeat' split
    all_goals exact supplies_of_agents rfl

/-- The agent builds its dialog as soon as it is asked to. -/
lemma fulfils_built (fulfils : (s.agents a).Fulfils o) (b : AgentId) (speaker : Text) :
    ((s.built b speaker).agents a).Fulfils (if b = a then o.asked speaker else o) := by
  rw [built, updateAgent]
  dsimp only
  by_cases same : b = a
  · subst same
    rw [if_pos rfl, if_pos rfl]
    exact fulfils.build speaker
  · rw [if_neg (Ne.symm same), if_neg same]
    exact fulfils

/-- An agent does as it was asked when a setting has been made. -/
lemma fulfils_adjust (fulfils : (s.agents a).Fulfils o) (change : Adjustment) :
    ((s.adjust change).2.agents a).Fulfils (o.heard a (.adjust change)) := by
  have updated {f : Agent → Agent} (b : AgentId) (o' : Order) (here : (f (s.agents a)).Fulfils o') :
      ((s.updateAgent b f).agents a).Fulfils (if b = a then o' else o) := by
    rw [updateAgent]
    dsimp only
    by_cases same : b = a
    · subst same
      rw [if_pos rfl, if_pos rfl]
      exact here
    · rw [if_neg (Ne.symm same), if_neg same]
      exact fulfils
  cases change with
  | setSource b source => exact updated (f := (·.setSource source)) b _ (Agent.fulfils_setSource _ source)
  | clearDialog b => exact updated b _ fulfils.clear
  | setNickname b name =>
    have renamed := updated (f := fun x => { x with nickname := name }) b o (fulfils.of_eq rfl rfl rfl rfl rfl)
    rwa [ite_self] at renamed
  | addResponder m =>
    rw [adjust]
    split
    · exact fulfils
    · exact fulfils
  | _ => exact fulfils

end Stage

/-! ## The contract -/

/-- The surroundings leave the dialog of a session alone. -/
def Sparing : Rule
  | _, .called _ s c => s.Spares c
  | _, _ => True

/-- An agent does as it was asked, and the session that is going on is the latest one, held on its dialog. -/
structure Scene.Supplied (a : AgentId) (o : Order) (x : Scene) : Prop where
  sound : x.stage.Sound
  seated : x.stage.Seated
  fulfils : (x.stage.agents a).Fulfils (o.after a x.past)
  latest : ∀ k, x.stage.session = some k → (openings x.past).getLast? = some (k.number, x.stage.dialogOf k)

/-- An agent holds its dialogs from the source that was set last. -/
def supplies (a : AgentId) (o : Order) : Contract where
  rule := Sparing
  holds := Scene.Supplied a o
  visit _ _ := True
  running _ := Scene.Supplied a o
  visit_refl _ := trivial
  visit_trans _ _ := trivial

namespace supplies

open Play Scene

variable {a : AgentId} {o : Order} {x y : Scene} {s : Stage} {l : Label} {c : Call} {owed : Option Request}

/-- Whatever is supplied follows. -/
lemma follows (known : y.Supplied a o) : (supplies a o).Follows x y :=
  ⟨known, trivial⟩

/-- The stage may change, if it retains the session and the agent still does as it was asked. -/
lemma supplied_on (h : x.Supplied a o) (sound : s.Sound) (retains : x.stage.Retains s)
    (fulfils : (s.agents a).Fulfils (o.after a x.past)) : (x.on s).Supplied a o := by
  refine ⟨sound, fun k session => ?_, fulfils, fun k session => ?_⟩
  · obtain ⟨-, -, -, -, node⟩ := retains k session
    exact node
  · obtain ⟨k', session', number, dialog, -⟩ := retains k session
    rw [← number, show (x.on s).stage.dialogOf k = _ from dialog]
    exact h.latest k' session'

/-- Something is seen that asks nothing of the agent and opens no session. -/
lemma supplied_see (h : x.Supplied a o) (quiet : ∀ o : Order, o.seen a l = o) (unopened : l.opening? = none) :
    (x.see l).Supplied a o := by
  refine ⟨h.sound, h.seated, ?_, fun k session => ?_⟩
  · rw [see, Order.after_snoc, quiet]
    exact h.fulfils
  · rw [see, openings, List.filterMap_append, List.filterMap_cons_none unopened, List.filterMap_nil, List.append_nil]
    exact h.latest k session

/-- Every request and its reply leave dialogs supplied. -/
lemma asks (q : Request) : (supplies a o).Asks (Supplied a o) (Supplied a o) q := by
  intro x known
  have out : (x.asking q).Supplied a o := supplied_see known (fun _ => rfl) rfl
  refine ⟨out, fun y r back _ => ?_⟩
  have visited : y.Supplied a o := (back.follows out).holds
  exact supplied_see visited (fun _ => rfl) rfl

/-- A report leaves dialogs supplied. -/
lemma tells (n : Notice) : Contract.Tells (Supplied a o) n :=
  fun _ known => supplied_see known (fun _ => rfl) rfl

/-- A change leaves dialogs supplied, if it keeps the session and what dialogs are built from. -/
lemma changes {f : Stage → Stage} (alike : ∀ s : Stage, s.Alike (f s))
    (retains : ∀ s : Stage, s.Seated → s.Retains (f s)) (kept : ∀ s : Stage, s.Supplies (f s) a) :
    Contract.Changes (Supplied a o) f :=
  fun x known => supplied_on known (known.sound.alike (alike x.stage)) (retains x.stage known.seated)
    (kept x.stage _ known.fulfils)

/-- A change that has no part in agents and sessions. -/
lemma changes_plain {f : Stage → Stage} (phase : ∀ s, (f s).phase = s.phase) (session : ∀ s, (f s).session = s.session)
    (started : ∀ s, (f s).started = s.started) (agents : ∀ s, (f s).agents = s.agents) :
    Contract.Changes (Supplied a o) f := by
  refine changes (fun s => ⟨by rw [phase], started s, by rw [session]⟩) (fun s seated => ?_) fun s =>
    Stage.supplies_of_agents (agents s)
  exact seated.retains (session s) fun k _ => congrArg (fun agents => (agents k.agent).dialog) (agents s)

/-- A built-in function leaves dialogs supplied. -/
lemma builtIn (name parameter : Text) :
    Contract.Changes (Supplied a o) fun s => (s.callBuiltIn name parameter).2 := by
  refine changes (fun s => ?_) (fun s seated => ?_) fun s => s.supplies_callBuiltIn name parameter
  · obtain ⟨vars, agents, e⟩ := s.callBuiltIn_eq name parameter
    rw [e]
    exact ⟨.rfl, rfl, rfl⟩
  · have keeps := s.keeps_callBuiltIn name parameter
    exact seated.retains keeps.session fun k _ => keeps.dialogs k.agent

/-- Consulting the surroundings leaves dialogs supplied. -/
lemma consults : (supplies a o).Consults (Supplied a o) where
  told := tells
  keyword _ _ := asks _
  function _ _ _ := asks _
  called _ _ := carries_announce tells fun _ _ _ _ => asks _
  builtIn := builtIn
  written _ _ := changes_plain (fun _ => rfl) (fun _ => rfl) (fun _ => rfl) fun _ => rfl

/-- Moving from line to line leaves dialogs supplied. -/
lemma moves : (supplies a o).Moves (Supplied a o) (Supplied a o) where
  weak := id
  reported := tells
  entered := carries_announce tells fun _ _ _ _ => asks _
  node {x link n} known target := by
    refine supplied_on known (known.sound.alike (Stage.alike_moved _ fun _ => rfl)) ?_ known.fulfils
    intro k' session
    obtain ⟨k, session', rfl⟩ := Option.map_eq_some_iff.mp session
    have node := Stage.mem_of_targetOf session' target
    exact ⟨k, session', rfl, rfl, node⟩
  index i := by
    refine changes (fun s => s.alike_moved fun _ => rfl) (fun s seated k' session => ?_) fun _ =>
      Stage.supplies_of_agents rfl
    obtain ⟨k, session', rfl⟩ := Option.map_eq_some_iff.mp session
    exact ⟨k, session', rfl, rfl, seated k session'⟩

/-- The end of a session leaves dialogs supplied. -/
lemma carries_endSession : endSession.Carries (supplies a o) (Supplied a o) (Supplied a o) := by
  refine Play.carries_endSession (fun x known => ?_) fun s =>
    carries_tearDown tells (fun _ => asks _) (fun _ => asks _) (fun _ _ _ _ => asks _) fun _ _ => asks _
  exact supplied_on known x.stage.sound_ended nofun known.fulfils

/-- A pause leaves dialogs supplied. -/
lemma suspended (known : x.Supplied a o) (going : x.stage.session ≠ none) : (x.on x.stage.suspended).Supplied a o :=
  supplied_on known (known.sound.alike (known.sound.alike_suspended going)) (known.seated.retains rfl fun _ _ => rfl)
    known.fulfils

/-- An entry in the history leaves dialogs supplied. -/
lemma noted (name : Text) : Contract.Changes (Supplied a o) fun s => { s with history := s.history ++ [name] } :=
  changes_plain (fun _ => rfl) (fun _ => rfl) (fun _ => rfl) fun _ => rfl

/-- Whether the loop is at work or not leaves dialogs supplied. -/
lemma looping (known : y.Supplied a o) (b : Bool) : (y.looping b).Supplied a o :=
  supplied_on known (known.sound.alike ⟨.rfl, rfl, rfl⟩) (known.seated.retains rfl fun _ _ => rfl) known.fulfils

/-- Running a line leaves dialogs supplied. -/
lemma carries_runLine : runLine.Carries (supplies a o) (Supplied a o) (Supplied a o) := by
  intro x known
  refine does_runLine consults id moves known (fun _ _ => id) carries_endSession ?_ ?_
  · intro y l _ known running
    have going := known.sound.going running (by decide)
    refine does_askQuery tells moves known (fun _ _ => id) consults.toReads (suspended known going) (fun _ _ => id) ?_
    intro z p known _ _
    exact carries_deliverQuery id tells (fun _ _ _ _ => asks _) (fun _ => asks _) z known
  · intro y l _ known running
    refine does_showLine consults.toReads noted known (fun _ _ => id) ?_
    intro z shown going known _
    exact carries_deliver id tells (fun _ _ _ _ => asks _) (fun _ => asks _) (fun _ => asks _) _ (suspended known going)

/-! ## Calls -/

/-- If dialogs are supplied when a call ends, it ends as the contract asks. -/
lemma afterCall_of_supplied (known : y.Supplied a o) (r : Except Fault Outcome) : (supplies a o).afterCall x y r := by
  have answered (r : Except Fault Answer) : (supplies a o).Follows x (y.answering r) :=
    follows (supplied_see known (fun _ => rfl) rfl)
  cases r with
  | error f => exact answered (.error f)
  | ok oc =>
    cases oc with
    | answer b => exact answered (.ok b)
    | run b =>
      simp only [Contract.afterCall]
      split
      · exact answered (.ok b)
      · exact supplied_see (looping known true) (fun _ => rfl) rfl

/-- A call that opens no session has been heard of when its agent has done as it asks. -/
lemma supplied_called (h : x.Supplied a o) (unopened : x.stage.opening? c = none) (sound : s.Sound)
    (retains : x.stage.Retains s) (fulfils : ∀ o, (x.stage.agents a).Fulfils o → (s.agents a).Fulfils (o.heard a c)) :
    ((x.calling owed c).on s).Supplied a o := by
  have opening : (Label.called owed x.stage c).opening? = none := by rw [Label.opening?, unopened, Option.map_none]
  refine ⟨sound, fun k session => ?_, ?_, fun k session => ?_⟩
  · obtain ⟨-, -, -, -, node⟩ := retains k session
    exact node
  · show (s.agents a).Fulfils (o.after a (x.past ++ [_]))
    rw [Order.after_snoc]
    exact fulfils _ h.fulfils
  · obtain ⟨k', session', number, dialog, -⟩ := retains k session
    rw [← number, show ((x.calling owed c).on s).stage.dialogOf k = _ from dialog]
    show (openings (x.past ++ [_])).getLast? = _
    rw [openings, List.filterMap_append, List.filterMap_cons_none opening, List.filterMap_nil, List.append_nil]
    exact h.latest k' session'

/-- The dialog of an agent is built. -/
lemma supplied_built (h : x.Supplied a o) (unopened : x.stage.opening? c = none) {b : AgentId} {speaker : Text}
    (builds : c.Builds b speaker) : ((x.calling owed c).on (x.stage.built b speaker)).Supplied a o := by
  refine supplied_called h unopened (h.sound.alike ⟨.rfl, rfl, rfl⟩) (h.seated.retains_built b speaker) fun o fulfils => ?_
  cases builds with
  | start | build => exact Stage.fulfils_built fulfils b speaker

/-- The session that a call opens is the latest one, held on the dialog that has been built for it. -/
lemma supplied_opened (h : x.Supplied a o) {k : Session} (opening : x.stage.opening? c = some k) (vars : Variables) :
    ((x.calling owed c).on ((x.stage.readied c).opened vars k)).Supplied a o := by
  obtain ⟨b, onExit, opens⟩ := Stage.opens_of_opening opening
  have node := Dialog.mem_of_startNode? (Stage.start_of_opening opening)
  have called : (Label.called owed x.stage c).opening? = some (k.number, (x.stage.readied c).dialogOf k) := by
    rw [Label.opening?, opening, Option.map_some]
  refine ⟨Stage.Sound.opened opens, ?_, ?_, ?_⟩
  · rintro _ ⟨⟩
    exact node
  · show ((x.stage.readied c).agents a).Fulfils (o.after a (x.past ++ [_]))
    rw [Order.after_snoc]
    cases c with
    | start b speaker onExit => exact Stage.fulfils_built h.fulfils b speaker
    | initiate b onExit => exact h.fulfils
    | _ => cases opening
  · rintro _ ⟨⟩
    show (openings (x.past ++ [_])).getLast? = _
    rw [openings, List.filterMap_append, List.filterMap_cons_some called, List.filterMap_nil, List.getLast?_concat]
    rfl

/-- Reports are not seen of the stage. -/
lemma supplied_told (h : x.Supplied a o) (ns : List Notice) :
    (Scene.mk x.stage (x.past ++ ns.map Label.told)).Supplied a o := by
  induction ns using List.reverseRecOn with
  | nil =>
    rw [List.map_nil, List.append_nil]
    exact h
  | append_singleton ns n ih =>
    rw [List.map_append, ← List.append_assoc]
    exact supplied_see (l := .told n) ih (fun _ => rfl) rfl

/-- A call that opens a session opens it on the dialog that was asked for. -/
lemma does_opening (h : x.Supplied a o) {k : Session} (opening : x.stage.opening? c = some k) :
    c.play.Does (supplies a o) (x.calling owed c) ((supplies a o).afterCall x) := by
  refine Play.does_opening opening fun y vars readied told _ => ?_
  obtain ⟨stage, past⟩ := y
  obtain ⟨ns, told⟩ := told
  subst readied told
  have there : ((x.calling owed c).on ((x.stage.readied c).opened vars k)).Supplied a o :=
    supplied_opened h opening vars
  have opened := supplied_told there ns
  have tellStart := carries_tellStart tells (fun _ _ => asks _) (fun _ _ _ => asks _) (fun _ _ _ => asks _)
    k.number k.agent k.node _ opened
  exact tellStart.mono fun z r known => afterCall_of_supplied known _

/-- A call that opens no session, builds no dialog and changes nothing at once. -/
structure Apart (x : Scene) (c : Call) : Prop where
  unopened : x.stage.opening? c = none
  unbuilt : ∀ b speaker, ¬ c.Builds b speaker
  unadjusted : ∀ change, c ≠ .adjust change

/-- A call that builds and changes nothing asks nothing of an agent. -/
lemma Apart.heard (apart : Apart x c) (o : Order) : o.heard a c = o := by
  cases c with
  | start b speaker onExit => exact absurd (.start onExit) (apart.unbuilt b speaker)
  | build b speaker => exact absurd .build (apart.unbuilt b speaker)
  | adjust change => exact absurd rfl (apart.unadjusted change)
  | _ => rfl

/-- Every call that builds and changes nothing leaves dialogs supplied. -/
lemma serves : (supplies a o).Serves Apart (fun _ => Supplied a o) (fun _ => Supplied a o)
    fun _ => Supplied a o where
  weak := id
  moves _ := ⟨Supplied a o, moves, id⟩
  told _ := tells
  reads _ := consults.toReads
  function known := builtIn _ _ _ known
  stays {x owed c} known _ apart _ := by
    refine supplied_called known apart.unopened known.sound (known.seated.retains rfl fun _ _ => rfl) fun o fulfils => ?_
    rwa [apart.heard]
  goesOn {x owed c} known _ goes := by
    refine supplied_called known (Stage.opening?_of_goesOn goes) (known.sound.alike (Stage.alike_resumed goes.1))
      (known.seated.retains rfl fun _ _ => rfl) fun o fulfils => ?_
    cases c with
    | advance | resume | respond => exact fulfils
    | _ => cases goes.2
  opens apart _ _ _ opening _ := by
    rw [apart.unopened] at opening
    cases opening
  ends _ := carries_endSession
  history _ := changes_plain (fun _ => rfl) (fun _ => rfl) (fun _ => rfl) fun _ => rfl
  built apart builds := absurd builds (apart.unbuilt _ _)
  images _ _ := asks _
  published _ _ _ _ := asks _
  adjusts apart := absurd rfl (apart.unadjusted _)
  answers known := follows (supplied_see known (fun _ => rfl) rfl)
  fails known := follows (supplied_see known (fun _ => rfl) rfl)
  defers known _ := follows (supplied_see known (fun _ => rfl) rfl)
  runs known _ _ := supplied_see (looping known true) (fun _ => rfl) rfl

/-- A start that opens no session builds the dialog of its agent all the same. -/
lemma does_start (h : x.Supplied a o) {b : AgentId} {speaker : Text} {onExit : Option Nat}
    (unopened : x.stage.opening? (.start b speaker onExit) = none) :
    (Call.start b speaker onExit).play.Does (supplies a o) (x.calling owed (.start b speaker onExit))
      ((supplies a o).afterCall x) := by
  have built : ((x.calling owed (.start b speaker onExit)).on (x.stage.built b speaker)).Supplied a o :=
    supplied_built h unopened (.start onExit)
  have initiates {y : Scene} (known : y.Supplied a o) (readied : y.stage = x.stage.built b speaker) :
      (initiate (some b) onExit).Does (supplies a o) y ((supplies a o).afterCall x) := by
    refine (does_initiate id tells (changes_plain (fun _ => rfl) (fun _ => rfl) (fun _ => rfl) fun _ => rfl) known
      ?_).mono fun z r settled => afterCall_of_supplied (settled.known id) r
    rintro _ vars k ⟨⟩ opens
    rw [readied, show (x.stage.built b speaker).opens b onExit = none from unopened] at opens
    cases opens
  exact does_bind.mpr (does_build_of (fun _ => initiates built rfl) fun n _ => initiates (tells n _ built) rfl)

/-- A call that builds a dialog builds the one that was asked for. -/
lemma does_build (h : x.Supplied a o) {b : AgentId} {speaker : Text} :
    (Call.build b speaker).play.Does (supplies a o) (x.calling owed (.build b speaker)) ((supplies a o).afterCall x) := by
  have built : ((x.calling owed (.build b speaker)).on (x.stage.built b speaker)).Supplied a o :=
    supplied_built h rfl .build
  refine does_bind.mpr (does_build_of (fun r => ?_) fun n r => ?_)
  · exact afterCall_of_supplied built (.ok (.answer (.flag r)))
  · exact afterCall_of_supplied (tells n _ built) (.ok (.answer (.flag r)))

/-- A setting that spares the dialog of the session leaves dialogs supplied. -/
lemma does_adjust (h : x.Supplied a o) {change : Adjustment} (spares : x.stage.Spares (.adjust change)) :
    (Call.adjust change).play.Does (supplies a o) (x.calling owed (.adjust change)) ((supplies a o).afterCall x) := by
  have adjusted : ((x.calling owed (.adjust change)).on (x.stage.adjust change).2).Supplied a o :=
    supplied_called h rfl (h.sound.alike (x.stage.alike_adjust change)) (h.seated.retains_adjust spares)
      fun o fulfils => Stage.fulfils_adjust fulfils change
  exact afterCall_of_supplied adjusted (.ok (.answer (x.stage.adjust change).1))

/-- Calls and lines keep the contract. -/
lemma honours : (supplies a o).Honours where
  call {x owed c} known keeps := by
    cases opening : x.stage.opening? c with
    | some k => exact does_opening known opening
    | none =>
      cases c with
      | start b speaker onExit => exact does_start known opening
      | build b speaker => exact does_build known
      | adjust change => exact does_adjust known keeps
      | _ => exact serves.call known keeps ⟨opening, nofun, nofun⟩
  line {x y} known _ := by
    refine (carries_runLine _ (supplied_see known (fun _ => rfl) rfl)).mono fun z r known => ?_
    cases r with
    | error e => exact follows (supplied_see (looping known false) (fun _ => rfl) rfl)
    | ok u => exact known
  rest known _ _ := follows (supplied_see (looping known false) (fun _ => rfl) rfl)

end supplies

/-! ## The first sight of a session -/

section Shows

variable {α β : Type} {P : Stage → Prop}

/-- The stage has a property when it is seen next. -/
def Routine.Shows (P : Stage → Prop) : Routine α → Prop
  | .done s _ => P s
  | .tell _ rest => rest.Shows P
  | .ask s _ _ => P s

/-- A play leaves a property of the stage alone until the stage is seen. -/
def Play.Shows (P : Stage → Prop) (p : Play α) : Prop :=
  ∀ s, P s → (p s).Shows P

/-- A property that two routines leave alone is shown by one after the other. -/
lemma Routine.Shows.bind {r : Routine α} {f : α → Stage → Routine β} (h : r.Shows P)
    (hf : ∀ a s, P s → (f a s).Shows P) : (r.bind f).Shows P := by
  induction r with
  | done s result =>
    cases result with
    | error e => exact h
    | ok a => exact hf a s h
  | tell n rest ih => exact ih h
  | ask s q resume => exact h

namespace Play

/-- A property that two plays leave alone is shown by one after the other. -/
lemma Shows.bind {p : Play α} {f : α → Play β} (h : p.Shows P) (hf : ∀ a, (f a).Shows P) : (p >>= f).Shows P :=
  fun s known => (h s known).bind fun a t known' => hf a t known'

/-- A result that is there already leaves the stage alone. -/
lemma shows_pure {a : α} : (pure a : Play α).Shows P :=
  fun _ known => known

/-- Looking at the stage leaves it alone. -/
lemma shows_get : get.Shows P :=
  fun _ known => known

/-- A request shows the stage as it is. -/
lemma shows_ask {q : Request} : (ask q).Shows P :=
  fun _ known => known

/-- Plays that leave a property alone leave it alone in any number. -/
lemma shows_each {f : β → Play Unit} (h : ∀ b, (f b).Shows P) (bs : List β) : (each f bs).Shows P := by
  induction bs with
  | nil => exact shows_pure
  | cons b bs ih => exact (h b).bind fun _ => ih

/-- Publishing an event shows the stage as it is. -/
lemma shows_publish {e : Event} : (publish e).Shows P := by
  refine shows_get.bind fun s => ?_
  cases s.bus with
  | none => exact shows_pure
  | some bus =>
    have asked (h : HandlerId) : (notify e h).Shows P := fun t known => known
    exact shows_each asked _

/-- The announcements of a session show the stage as it is. -/
lemma shows_tellStart (n : Nat) (a : AgentId) (node : Node) : (tellStart n a node).Shows P := by
  refine shows_get.bind fun s => (shows_each (fun o => shows_ask) _).bind fun _ => ?_
  exact shows_get.bind fun s => shows_publish.bind fun _ => shows_get.bind fun s => shows_publish

/-- A session that starts is there, and its visit has been counted, when the stage is seen next. -/
lemma shows_initiate {s : Stage} {a : AgentId} {onExit : Option Nat} {k : Session} (opens : s.opens a onExit = some k) :
    ∃ vars, s.vars.countVisit? (s.agents a).id = some vars ∧
      (initiate (some a) onExit s).Shows fun t => t.vars = vars ∧ t.session = some k := by
  obtain ⟨vars, counted, play⟩ := initiate_of_opens opens
  refine ⟨vars, counted, ?_⟩
  rw [play]
  exact ((shows_tellStart _ _ _).bind fun _ => shows_pure) _ ⟨rfl, rfl⟩

end Play

/-- A call that starts a session shows it, with its visit counted. -/
lemma Call.shows_start {s : Stage} {a : AgentId} {speaker : Text} {onExit : Option Nat} {k : Session}
    (opening : s.opening? (.start a speaker onExit) = some k) :
    ∃ vars, s.vars.countVisit? ((s.built a speaker).agents a).id = some vars ∧
      ((Call.start a speaker onExit).play s).Shows fun t => t.vars = vars ∧ t.session = some k := by
  obtain ⟨vars, counted, shows⟩ := Play.shows_initiate (s := s.built a speaker) opening
  refine ⟨vars, counted, ?_⟩
  change (Routine.bind (Play.build a speaker s) fun _ => Play.initiate (some a) onExit).Shows _
  obtain ⟨b, build | ⟨failure, build⟩⟩ := Play.build_eq a speaker s
  · rw [build]
    exact shows
  · rw [build]
    exact shows

end Shows

section Seen

variable {P : Stage → Prop} {s t : Stage} {ps : List Pending} {ls : List Label} {m : Moment}

/-- The loop shows the stage as it is handed to it, but for being at work. -/
lemma seen_of_loop (looping : ∀ b, P { s with inRun := b }) {a : Answer}
    (run : Run Anything ⟨.stage (.run a (.done { s with inRun := true } (.ok ()))), ps⟩ ls m)
    (seen : ls.findSome? Label.stage? = some t) : P t := by
  cases ls with
  | nil => cases seen
  | cons l ls =>
    obtain ⟨n, step, -⟩ := run.first
    have step : some (Moment.stepRun ps a (.done { s with inRun := true } (.ok ()))) = some (l, n) := step.work_inv
    rw [Moment.stepRun] at step
    split at step
    · cases step
      cases seen
      exact looping true
    · cases step
      cases seen
      exact looping false

/-- What is seen next has the property, whether lines are run or not. -/
lemma Routine.Shows.seen {r : Routine Outcome} (shows : r.Shows P) (looping : ∀ s b, P s → P { s with inRun := b })
    (run : Run Anything ⟨.stage (.call r), ps⟩ ls m) (seen : ls.findSome? Label.stage? = some t) : P t := by
  -- By what is left to do. When all is done, the stage is seen in the answer, or in the loop that begins.
  induction r generalizing ls with
  | ask s q resume =>
    cases ls with
    | nil => cases seen
    | cons l ls =>
      obtain ⟨n, step, -⟩ := run.first
      cases step.work_inv
      cases seen
      exact shows
  | tell n rest ih =>
    cases ls with
    | nil => cases seen
    | cons l ls =>
      obtain ⟨n, step, run⟩ := run.first
      cases step.work_inv
      exact ih shows run seen
  | done s result =>
    cases ls with
    | nil => cases seen
    | cons l ls =>
      obtain ⟨n, step, run⟩ := run.first
      have answered {r : Except Fault Answer} (step : some (Moment.answering s ps r) = some (l, n)) : P t := by
        cases step
        cases seen
        exact shows
      cases result with
      | error e => exact answered step.work_inv
      | ok o =>
        cases o with
        | answer a => exact answered step.work_inv
        | run a =>
          have step : some (Moment.stepCall ps (.done s (.ok (.run a)))) = some (l, n) := step.work_inv
          rw [Moment.stepCall] at step
          split at step
          · exact answered step
          · cases step
            exact seen_of_loop (fun b => looping s b shows) run seen

end Seen

/-! ## Runs -/

/-- The dialog that an agent was asked for. -/
def Order.dialog? (o : Order) (strict : Bool) : Option Dialog :=
  o.speaker?.bind fun speaker => o.source.dialog? strict speaker

/-- A session that a call has opened is held on a dialog, and counted under an id. -/
structure HeldOn (s : Stage) (k : Session) (d : Dialog) (id : Text) (after : List Label) : Prop where
  start : d.startNode? = some k.node
  first : k.index = 0
  /-- The session is there, and its visit has been counted, when the stage is seen next. -/
  counted : ∃ vars, s.vars.countVisit? id = some vars ∧
    ∀ t, after.findSome? Label.stage? = some t → t.vars = vars ∧ t.session = some k
  /-- Until another session is opened, no other is seen, and this one is at a node of the dialog, where links lead. -/
  held : ∀ {p l q t k'}, after = p ++ l :: q → openings p = [] → l.stage? = some t → t.session = some k' →
    k'.number = k.number ∧ t.dialogOf k' = d ∧ k'.node ∈ d.nodes

/-- On a fresh stage nothing has been asked for but the source that is there. -/
lemma Scene.supplied_of_fresh {s : Stage} {a : AgentId} (fresh : s.Fresh) (unbuilt : (s.agents a).dialog = {}) :
    (Scene.mk s []).Supplied a ⟨(s.agents a).source, none⟩ where
  sound := fresh.sound
  seated k session := by cases fresh.vacant.symm.trans session
  fulfils := ⟨rfl, fun _ => unbuilt, nofun⟩
  latest k session := by cases fresh.vacant.symm.trans session

/-- The dialog of an agent that has been built is not empty if a session can be held on it. -/
lemma Agent.Fulfils.dialog?_eq {x : Agent} {o : Order} {n : Node} (fulfils : x.Fulfils o)
    (start : x.dialog.startNode? = some n) : o.dialog? x.strict = some x.dialog ∧ x.id = o.source.counter x.name := by
  cases first : o.speaker? with
  | none =>
    rw [fulfils.unbuilt first] at start
    cases start
  | some speaker =>
    obtain ⟨dialog, id⟩ := fulfils.built speaker first
    refine ⟨?_, id⟩
    rw [Order.dialog?, first, Option.bind_some]
    cases built : o.source.dialog? x.strict speaker with
    | none =>
      rw [dialog, built] at start
      cases start
    | some d =>
      rw [dialog, built]
      rfl

section Runs

variable {s₀ s t : Stage} {a : AgentId} {o : Order} {l : Label} {l₁ l₂ : List Label} {owed : Option Request}
variable {c : Call} {speaker : Text} {onExit : Option Nat} {k : Session} {m : Moment}

/-- A start asks for a dialog, with its speaker. -/
lemma Order.after_start : o.after a (l₁ ++ [.called owed s (.start a speaker onExit)]) = (o.after a l₁).asked speaker := by
  rw [after_snoc]
  exact if_pos rfl

/-- A call that opens a session adds it to those that were opened. -/
lemma openings_called (opening : s.opening? c = some k) :
    openings (l₁ ++ .called owed s c :: l₂) =
      openings l₁ ++ (k.number, (s.readied c).dialogOf k) :: openings l₂ := by
  have opened : (Label.called owed s c).opening? = some (k.number, (s.readied c).dialogOf k) := by
    rw [Label.opening?, opening, Option.map_some]
  rw [openings, List.filterMap_append, List.filterMap_cons_some opened]
  rfl

/-- Whenever a stage is seen with a session, that is the one opened last. -/
lemma supplies.latest_of_seen (start : Scene.Supplied a o ⟨s₀, []⟩)
    (run : Run Sparing (.initial s₀) (l₁ ++ l :: l₂) m) (seen : l.stage? = some t) (session : t.session = some k) :
    (openings l₁).getLast? = some (k.number, t.dialogOf k) ∧ k.node ∈ (t.dialogOf k).nodes := by
  obtain ⟨past, rfl | ⟨rfl, other⟩, known⟩ | ⟨-, e, known⟩ := Contract.of_seen honours start run seen
  · exact ⟨known.latest k session, known.seated k session⟩
  · have unopened : l.opening? = none := by
      cases l with
      | called owed s c => exact absurd rfl (other owed s c)
      | _ => rfl
    have latest : (openings (l₁ ++ [l])).getLast? = some (k.number, t.dialogOf k) := known.latest k session
    rw [openings, List.filterMap_append, List.filterMap_cons_none unopened, List.filterMap_nil, List.append_nil] at latest
    exact ⟨latest, known.seated k session⟩
  · have known : Scene.Supplied a o ⟨t, l₁⟩ := known
    exact ⟨known.latest k session, known.seated k session⟩

/-- In a run from a fresh stage that leaves dialogs alone while sessions are held on them, an agent holds its sessions on
the dialog that it was asked for last. -/
theorem runs_latest (fresh : s₀.Fresh) (unbuilt : (s₀.agents a).dialog = {})
    (run : Run Sparing (.initial s₀) (l₁ ++ .called owed s (.start a speaker onExit) :: l₂) m)
    (opening : s.opening? (.start a speaker onExit) = some k) :
    ∃ o d, o = Order.after a ⟨(s₀.agents a).source, none⟩ (l₁ ++ [.called owed s (.start a speaker onExit)]) ∧
      o.dialog? (s.agents a).strict = some d ∧ HeldOn s k d (o.source.counter (s.agents a).name) l₂ := by
  have start := Scene.supplied_of_fresh fresh unbuilt
  have known : Scene.Supplied a _ ⟨s, l₁⟩ := Contract.holds_called supplies.honours start run
  have agent : k.agent = a := Stage.agent_of_opens opening
  -- The agent has built what it was asked for by the time the session is opened.
  have fulfils := Stage.fulfils_built known.fulfils a speaker
  have built : (s.built a speaker).agents a = ((s.agents a).build speaker).1 := if_pos rfl
  rw [if_pos rfl, built] at fulfils
  have node : ((s.agents a).build speaker).1.dialog.startNode? = some k.node := by
    rw [← built, ← Stage.start_of_opening opening, Stage.dialogOf, agent]
    rfl
  obtain ⟨dialog, id⟩ := fulfils.dialog?_eq node
  obtain ⟨strict, name⟩ := (s.agents a).build_same speaker
  rw [strict] at dialog
  rw [name, ← built] at id
  refine ⟨_, _, rfl, by rw [Order.after_start]; exact dialog, node, (Stage.number_of_opens opening).2.2.2, ?_, ?_⟩
  · obtain ⟨vars, counted, shows⟩ := Call.shows_start opening
    rw [Order.after_start, ← id]
    refine ⟨vars, counted, fun t seen => ?_⟩
    obtain ⟨n, n', -, step, -, rest⟩ := run.split
    obtain ⟨-, -, rfl⟩ : Label.Fits n n' (.called owed s (.start a speaker onExit)) := step.fits
    exact shows.seen (fun _ _ known => known) rest seen
  · rintro p l q t k' rfl quiet seen session
    rw [← List.cons_append, ← List.append_assoc] at run
    obtain ⟨latest, there⟩ := supplies.latest_of_seen start run seen session
    rw [openings_called opening, quiet, List.getLast?_concat] at latest
    obtain ⟨number, dialog⟩ := Prod.mk.inj (Option.some.inj latest)
    have same : ((s.agents a).build speaker).1.dialog = t.dialogOf k' := by
      rw [← dialog, ← built, Stage.dialogOf, agent]
      rfl
    exact ⟨number.symm, same.symm, same ▸ there⟩

end Runs

/-! ## A line that is kept -/

/-- A stage with agents who have not been given anything to say. -/
def vacant : Stage where
  presenter := some 0

/-- The stage with nothing to say is fresh. -/
lemma fresh_vacant : vacant.Fresh :=
  ⟨rfl, rfl, rfl, rfl, rfl, rfl⟩

/-- A line is set, and a session in which somebody says it is over as soon as it is shown. -/
def repetition : List Label × Moment :=
  (Moment.initial vacant).rehearse [.call (.adjust (.setSource 0 (.staticText ['t']))), .work,
    .call (.start 0 ['x'] none), .work, .work, .work, .call .kill, .work, .reply, .work, .reply, .work]

/-- A dialog is changed only if no session is going on. -/
def Label.isSparing : Label → Bool
  | .called _ s (.adjust _) => s.session.isNone
  | _ => true

/-- Where dialogs are only changed between sessions, the surroundings are sparing. -/
lemma sparing_of_isSparing {past : List Label} {l : Label} (h : l.isSparing = true) : Sparing past l := by
  cases l with
  | called owed s c =>
    cases c with
    | adjust change =>
      have vacant : s.session = none := Option.isNone_iff_eq_none.mp h
      show s.Spares (.adjust change)
      cases change with
      | setSource a source | clearDialog a => exact fun k session => nomatch vacant.symm.trans session
      | _ => trivial
    | _ => trivial
  | _ => trivial

/-- Saying the line once is a run with sparing surroundings. -/
lemma run_repetition : Run Sparing (.initial vacant) repetition.1 ⟨.surroundings repetition.2.given, []⟩ := by
  rw [← Moment.eq_of_isOver (m := repetition.2) (by decide +kernel)]
  exact Moment.run_rehearse (fun _ _ _ => sparing_of_isSparing) (by decide +kernel)

/-- Somebody else is to say the line next. -/
theorem runs_latest_repetition : ∃ k m, vacant.Fresh ∧ (vacant.agents 0).dialog = {} ∧
    Run Sparing (.initial vacant)
      (repetition.1 ++ .called none repetition.2.given (.start 0 ['y'] none) :: []) m ∧
    repetition.2.given.opening? (.start 0 ['y'] none) = some k ∧
    ∃ o d, o = Order.after 0 ⟨(vacant.agents 0).source, none⟩
        (repetition.1 ++ [.called none repetition.2.given (.start 0 ['y'] none)]) ∧
      o.dialog? (repetition.2.given.agents 0).strict = some d ∧
      HeldOn repetition.2.given k d (o.source.counter (repetition.2.given.agents 0).name) [] := by
  have run := run_repetition.snoc (.enter (.start 0 ['y'] none) rfl) trivial
  have opens : (repetition.2.given.opening? (.start 0 ['y'] none)).isSome = true := by decide +kernel
  obtain ⟨k, opening⟩ := Option.isSome_iff_exists.mp opens
  exact ⟨k, _, fresh_vacant, rfl, run, opening, runs_latest fresh_vacant rfl run opening⟩

/-- A single line is not said by the speaker of the call that starts the session, if it has been built before. -/
theorem overdue : ¬ ∀ s₀ s a l₁ speaker onExit k t, Stage.Fresh s₀ → (s₀.agents a).dialog = {} →
    Run Sparing (.initial s₀) l₁ ⟨.surroundings s, []⟩ → s.opening? (.start a speaker onExit) = some k →
    (Order.after a ⟨(s₀.agents a).source, none⟩ l₁).source = .staticText t →
    k.node.lines = [{ speaker := speaker, text := t }] := by
  intro said
  have opens : (repetition.2.given.opening? (.start 0 ['y'] none)).any
      (fun k => k.node.lines == [{ speaker := ['x'], text := ['t'] }]) = true := by decide +kernel
  obtain ⟨k, opening, lines⟩ := (Option.any_eq_true _ _).mp opens
  have source : (Order.after 0 ⟨(vacant.agents 0).source, none⟩ repetition.1).source = .staticText ['t'] := by
    decide +kernel
  have line :=
    said vacant repetition.2.given 0 repetition.1 ['y'] none k ['t'] fresh_vacant rfl run_repetition opening source
  rw [beq_iff_eq.mp lines] at line
  exact absurd line (by decide)

end Parley
