import Parley.Proofs.Session.Progress
import Parley.Proofs.Session.Rehearsal

/-!
# Rest

Where a stage stands when nobody waits for a reply any more, however calls and requests were nested before and
whatever faults there were.

* `Scene.Leaves`: lines are left to be run only if somebody will run them, or after a fault.
* `Scene.Bears`: what is known while a call has lines to be run, and while they are run.
* `rests.honours`: every call and every line leaves the stage so.
* `comesTo_killed`: a session that is killed comes to its end.
* `Stage.begins`: a stage without a session starts one if it is asked to.

`recovers_of_run` closes the file: a stage at rest is in good order, or can be brought back to it.
-/

namespace Parley

/-- A call has ended with a fault during the session that is going on. -/
def Scene.Failed (x : Scene) : Prop :=
  ∃ s e, .answered s (.error e) ∈ x.past ∧ s.session.map Session.number = x.stage.session.map Session.number

/-- Lines are left to be run: a loop further out will run them, a fault has stopped their running, or they were
left before. -/
def Scene.Leaves (x y : Scene) : Prop :=
  y.stage.inRun = true ∨ y.Failed ∨
    x.stage.phase = .running ∧ y.stage.session.map Session.number = x.stage.session.map Session.number

/-- How the surroundings leave a stage: the loop is as it was, and lines are left to be run for a reason only. -/
structure Scene.Rests (x y : Scene) : Prop where
  past : x.past <+: y.past
  inRun : y.stage.inRun = x.stage.inRun
  running : y.stage.phase = .running → x.Leaves y

/-- The stage is sound, and lines are being run or not as given. -/
structure Scene.Bears (x : Scene) (b : Bool) (y : Scene) : Prop where
  sound : y.stage.Sound
  past : x.past <+: y.past
  inRun : y.stage.inRun = b

namespace Scene

variable {x y z : Scene}

/-- A failure stays one as long as the session stays. -/
lemma Failed.mono (h : y.Failed) (past : y.past <+: z.past)
    (same : y.stage.session.map Session.number = z.stage.session.map Session.number) : z.Failed := by
  obtain ⟨s, e, mem, number⟩ := h
  exact ⟨s, e, past.subset mem, number.trans same⟩

/-- A scene rests as it is. -/
lemma Rests.refl (x : Scene) : x.Rests x :=
  ⟨List.prefix_rfl, rfl, fun running => .inr (.inr ⟨running, rfl⟩)⟩

/-- A scene rests after two visits that leave it so. -/
lemma Rests.trans (h : x.Rests y) (h' : y.Rests z) : x.Rests z := by
  refine ⟨h.past.trans h'.past, h'.inRun.trans h.inRun, fun running => ?_⟩
  obtain inRun | failed | ⟨before, same⟩ := h'.running running
  · exact .inl inRun
  · exact .inr (.inl failed)
  · obtain inRun | failed | ⟨before, same'⟩ := h.running before
    · exact .inl (h'.inRun.trans inRun)
    · exact .inr (.inl (failed.mono h'.past same.symm))
    · exact .inr (.inr ⟨before, same.trans same'⟩)

end Scene

/-- Nobody is held to anything, and lines are not left to be run without a reason. -/
def rests : Contract where
  rule := Anything
  holds x := x.stage.Sound
  visit := Scene.Rests
  running x y := x.Bears true y ∧ x.stage.inRun = false
  visit_refl := .refl
  visit_trans := .trans

namespace rests

open Play

variable {x y z : Scene} {b : Bool}

/-- Whatever is seen follows. -/
lemma follows_see {l : Label} (sound : x.stage.Sound) : rests.Follows x (x.see l) :=
  ⟨sound, List.prefix_append _ _, rfl, fun running => .inr (.inr ⟨running, rfl⟩)⟩

/-- A change of the stage follows, if it leaves the session, the phase and the loop. -/
lemma follows_on {s : Stage} (sound : x.stage.Sound) (phase : s.phase = x.stage.phase)
    (session : s.session = x.stage.session) (started : s.started = x.stage.started)
    (inRun : s.inRun = x.stage.inRun) : rests.Follows x (x.on s) := by
  have alike : x.stage.Alike s := ⟨by rw [phase], started, by rw [session]⟩
  refine ⟨sound.alike alike, List.prefix_rfl, inRun, ?_⟩
  exact fun running => .inr (.inr ⟨phase ▸ running, congrArg _ session⟩)

/-- A change of the stage follows, if no session is left and the loop is left alone. -/
lemma follows_idle {s : Stage} (sound : s.Sound) (idle : s.phase = .idle) (inRun : s.inRun = x.stage.inRun) :
    rests.Follows x (x.on s) := by
  refine ⟨sound, List.prefix_rfl, inRun, fun running => ?_⟩
  have running : s.phase = .running := running
  rw [idle] at running
  cases running

/-! ## While nothing is left to be run -/

/-- A report follows. -/
lemma tells (n : Notice) : Contract.Tells (rests.Follows z) n :=
  fun _ known => known.trans (follows_see known.holds)

/-- Every request follows, and so does its reply. -/
lemma asks (q : Request) : rests.Asks (rests.Follows z) (rests.Follows z) q :=
  Contract.asks_follows (fun _ sound => follows_see sound) fun _ _ sound _ => follows_see sound

/-- What leaves the session, the phase and the loop on every stage follows. -/
lemma changes {f : Stage → Stage} (phase : ∀ s, (f s).phase = s.phase) (session : ∀ s, (f s).session = s.session)
    (started : ∀ s, (f s).started = s.started) (inRun : ∀ s, (f s).inRun = s.inRun) :
    Contract.Changes (rests.Follows z) f :=
  fun x known => known.trans (follows_on known.holds (phase x.stage) (session x.stage) (started x.stage)
    (inRun x.stage))

/-- Consulting the surroundings follows. -/
lemma consults : rests.Consults (rests.Follows z) where
  told := tells
  keyword _ _ := asks _
  function _ _ _ := asks _
  called _ _ := carries_announce tells fun _ _ _ _ => asks _
  builtIn name parameter := by
    intro x known
    obtain ⟨vars, agents, e⟩ := x.stage.callBuiltIn_eq name parameter
    have called : rests.Follows x (x.on (x.stage.callBuiltIn name parameter).2) := by
      rw [e]
      exact follows_on known.holds rfl rfl rfl rfl
    exact known.trans called
  written _ _ := changes (fun _ => rfl) (fun _ => rfl) (fun _ => rfl) fun _ => rfl

/-- The end of a session follows. -/
lemma ends : endSession.Carries rests (rests.Follows z) (rests.Follows z) := by
  refine carries_endSession (fun x known => ?_) fun _ => ?_
  · exact known.trans (follows_idle x.stage.sound_ended rfl rfl)
  · exact carries_tearDown tells (fun _ => asks _) (fun _ => asks _) (fun _ _ _ _ => asks _) fun _ _ => asks _

/-! ## While lines are to be run -/

/-- What follows bears on, with the loop as it was. -/
lemma bears_of_follows (known : rests.Follows x y) : x.Bears x.stage.inRun y :=
  ⟨known.holds, known.visit.past, known.visit.inRun⟩

/-- Whatever is seen bears on. -/
lemma bears_see {l : Label} (known : x.Bears b y) : x.Bears b (y.see l) :=
  ⟨known.sound, known.past.trans (List.prefix_append _ _), known.inRun⟩

/-- A report bears on. -/
lemma bears_tells (n : Notice) : Contract.Tells (Scene.Bears z b) n :=
  fun _ => bears_see

/-- Every request bears on, and so does its reply. -/
lemma bears_asks (q : Request) : rests.Asks (Scene.Bears z b) (Scene.Bears z b) q := by
  intro x known
  refine ⟨known.sound, fun y r back _ => bears_see ?_⟩
  have visited : rests.Follows (x.asking q) y := back.follows known.sound
  exact ⟨visited.holds, (bears_see known).past.trans visited.visit.past, visited.visit.inRun.trans known.inRun⟩

/-- What keeps the stage sound and leaves the loop bears on. -/
lemma bears_changes {f : Stage → Stage} (alike : ∀ s, s.Sound → (f s).Sound) (inRun : ∀ s, (f s).inRun = s.inRun) :
    Contract.Changes (Scene.Bears z b) f :=
  fun x known => ⟨alike x.stage known.sound, known.past, (inRun x.stage).trans known.inRun⟩

/-- Consulting the surroundings bears on. -/
lemma bears_consults : rests.Consults (Scene.Bears z b) where
  told := bears_tells
  keyword _ _ := bears_asks _
  function _ _ _ := bears_asks _
  called _ _ := carries_announce bears_tells fun _ _ _ _ => bears_asks _
  builtIn name parameter := by
    intro x known
    obtain ⟨vars, agents, e⟩ := x.stage.callBuiltIn_eq name parameter
    have called : z.Bears b (x.on (x.stage.callBuiltIn name parameter).2) := by
      rw [e]
      exact ⟨known.sound.alike ⟨.rfl, rfl, rfl⟩, known.past, known.inRun⟩
    exact called
  written _ _ := bears_changes (fun _ sound => sound.alike ⟨.rfl, rfl, rfl⟩) fun _ => rfl

/-- Moving from line to line bears on. -/
lemma bears_moves : rests.Moves (Scene.Bears z b) (Scene.Bears z b) where
  weak := id
  reported := bears_tells
  entered := carries_announce bears_tells fun _ _ _ _ => bears_asks _
  node := Contract.enters fun _ => bears_changes (fun s sound => sound.alike (s.alike_moved fun _ => rfl)) fun _ => rfl
  index _ := bears_changes (fun s sound => sound.alike (s.alike_moved fun _ => rfl)) fun _ => rfl

/-- A pause bears on. -/
lemma bears_suspended (known : z.Bears b x) (going : x.stage.session ≠ none) :
    z.Bears b (x.on x.stage.suspended) :=
  ⟨known.sound.alike (known.sound.alike_suspended going), known.past, known.inRun⟩

/-- Whatever a line does, it does while lines are run. -/
lemma carries_runLine : runLine.Carries rests (Scene.Bears z b) (Scene.Bears z b) := by
  intro x start
  have ends : endSession.Carries rests (Scene.Bears z b) (Scene.Bears z b) := by
    refine carries_endSession ?_ fun _ => ?_
    · exact bears_changes (fun s _ => s.sound_ended) fun _ => rfl
    · exact carries_tearDown bears_tells (fun _ => bears_asks _) (fun _ => bears_asks _)
        (fun _ _ _ _ => bears_asks _) fun _ _ => bears_asks _
  refine does_runLine bears_consults id bears_moves start (fun _ _ => id) ends ?_ ?_
  · intro y l _ known running
    have going := known.sound.going running (by decide)
    refine does_askQuery bears_tells bears_moves known (fun _ _ => id) bears_consults.toReads
      (bears_suspended known going) (fun _ _ => id) ?_
    intro w p known' _ _
    exact carries_deliverQuery id bears_tells (fun _ _ _ _ => bears_asks _) (fun _ => bears_asks _) w known'
  · intro y l _ known running
    have noted (name : Text) :
        Contract.Changes (Scene.Bears z b) fun s => { s with history := s.history ++ [name] } :=
      bears_changes (fun _ sound => sound.alike ⟨.rfl, rfl, rfl⟩) fun _ => rfl
    refine does_showLine bears_consults.toReads noted known (fun _ _ => id) ?_
    intro w shown going known' _
    exact carries_deliver id bears_tells (fun _ _ _ _ => bears_asks _) (fun _ => bears_asks _)
      (fun _ => bears_asks _) _ (bears_suspended known' going)

/-! ## Calls -/

/-- A fault may leave the session running. -/
lemma follows_failing {e : Fault} {s : Stage} (known : x.Bears b y) (sound : s.Sound)
    (inRun : s.inRun = x.stage.inRun) : rests.Follows x ((y.on s).answering (.error e)) := by
  refine ⟨sound, known.past.trans (List.prefix_append _ _), inRun, fun _ => .inr (.inl ?_)⟩
  exact ⟨s, e, List.mem_append_right _ (List.mem_singleton_self _), rfl⟩

/-- Every kind of call leaves the stage at rest, or with lines to be run. -/
lemma serves : rests.Serves (fun _ _ => True) (fun x => x.Bears x.stage.inRun) rests.Follows
    fun x => x.Bears x.stage.inRun where
  weak := bears_of_follows
  moves x := ⟨x.Bears x.stage.inRun, bears_moves, id⟩
  told _ := bears_tells
  reads _ := consults.toReads
  function known := consults.builtIn _ _ _ known
  stays sound _ _ _ := follows_see sound
  goesOn {x owed c} sound _ goes := by
    have called : rests.Follows x (x.calling owed c) := follows_see sound
    exact ⟨sound.alike (Stage.alike_resumed goes.1), called.visit.past, rfl⟩
  opens _ known _ _ _ opens := by
    refine carries_tellStart bears_tells (fun _ _ => bears_asks _) (fun _ _ _ => bears_asks _)
      (fun _ _ _ => bears_asks _) _ _ _ _ ?_
    exact ⟨Stage.Sound.opened opens, known.visit.past, known.visit.inRun⟩
  ends _ := ends
  history _ := changes (fun _ => rfl) (fun _ => rfl) (fun _ => rfl) fun _ => rfl
  built _ _ := changes (fun _ => rfl) (fun _ => rfl) (fun _ => rfl) fun _ => rfl
  images _ _ := asks _
  published _ _ _ _ := asks _
  adjusts {x owed change} _ known := by
    obtain ⟨phase, session, started, -, inRun⟩ := x.stage.adjust_eq change
    have adjusted := known.trans (follows_on known.holds phase session started inRun)
    exact adjusted.trans (follows_see adjusted.holds)
  answers known := known.trans (follows_see known.holds)
  fails {x y e} known := follows_failing known known.sound known.inRun
  defers {x y a} known inRun :=
    ⟨known.sound, known.past.trans (List.prefix_append _ _), known.inRun, fun _ => .inl inRun⟩
  runs {x y} known still _ := by
    have sound : ({ y.stage with inRun := true } : Stage).Sound := known.sound.alike ⟨.rfl, rfl, rfl⟩
    exact ⟨bears_see (y := y.looping true) ⟨sound, known.past, rfl⟩, known.inRun.symm.trans still⟩

/-- Every call and every line leaves the stage so. -/
lemma honours : rests.Honours where
  call sound keeps := serves.call sound keeps trivial
  line {x y} running phase := by
    refine (carries_runLine y.beginning (bears_see running.1)).mono ?_
    intro w r known
    cases r with
    | error e => exact follows_failing known (known.sound.alike ⟨.rfl, rfl, rfl⟩) running.2.symm
    | ok u => exact ⟨known, running.2⟩
  rest {x y} running phase a := by
    obtain ⟨known, still⟩ := running
    refine ⟨known.sound.alike ⟨.rfl, rfl, rfl⟩, known.past.trans (List.prefix_append _ _), still.symm, ?_⟩
    exact fun running => absurd running phase

end rests

/-! ## Recovery -/

/-- The surroundings make no calls, and reply from the tables of a company. -/
def Company.attends (K : Company) : Rule :=
  fun _ l =>
    match l with
    | .called _ _ _ => False
    | .replied _ q r => r = .ok (K.reply q)
    | _ => True

section Recovery

open Play

variable {K : Company} {s t : Stage} {past : List Label} {signs : List Sign}

/-- Those who attend leave the stage its own steps. -/
lemma free_attends : K.attends.Free where
  silent := trivial
  told := trivial
  began := trivial
  asked := trivial
  answered := trivial

/-- Those who attend only reply, from their tables. -/
lemma binds_attends {q : Request} : K.attends.Binds K past s q where
  uncalled := id
  replied := .rfl

/-- A teardown makes signs only. -/
lemma makes_tearDown (x : Session) : ∃ signs, (tearDown x).Makes K s signs s () := by
  have closed : ∃ signs, (closePresenter x.number).Makes K s signs s () := by
    cases presenter : s.presenter with
    | none => exact ⟨_, makes_of_get (by rw [presenter]; exact makes_pure)⟩
    | some p => exact ⟨_, makes_of_get (by rw [presenter]; exact makes_ask rfl)⟩
  have told : ∃ signs, (tellExit x.number).Makes K s signs s () :=
    ⟨s.exitObservers.map fun o => .asked (.observeExit o x.number),
      makes_of_get (makes_each (fun _ => makes_ask rfl) _)⟩
  have announced : ∃ signs, (announceEnd x).Makes K s signs s () := ⟨_, makes_of_get makes_publish⟩
  have called : ∃ signs, (callBack x).Makes K s signs s () := by
    unfold callBack
    cases x.onExit with
    | none => exact ⟨_, makes_pure⟩
    | some c => exact ⟨_, makes_ask rfl⟩
  obtain ⟨_, closed⟩ := closed
  obtain ⟨_, told⟩ := told
  obtain ⟨_, announced⟩ := announced
  obtain ⟨_, called⟩ := called
  exact ⟨_, closed.bind (told.bind (announced.bind called))⟩

/-- The announcements of a new session make signs only. -/
lemma makes_tellStart (n : Nat) (a : AgentId) (node : Node) :
    ∃ signs, (tellStart n a node).Makes K s signs s () := by
  have told : (each (fun o => ask (.observeStart o n)) s.startObservers).Makes K s
      (s.startObservers.map fun o => .asked (.observeStart o n)) s () := makes_each (fun _ => makes_ask rfl) _
  exact ⟨_, makes_of_get (told.bind (makes_of_get (makes_publish.bind (makes_of_get makes_publish))))⟩

/-- The stage when a session that may have been going on has been ended. -/
def Stage.killed (s : Stage) : Stage :=
  match s.phase with
  | .idle => s
  | _ => s.ended

/-- A stage is idle when its session has been killed. -/
lemma killed_idle : s.killed.phase = .idle := by
  unfold Stage.killed
  cases phase : s.phase with
  | idle => exact phase
  | running | awaiting => rfl

/-- Killing the session leaves the stage without it. -/
lemma makes_kill (sound : s.Sound) : ∃ signs, Call.kill.play.Makes K s signs s.killed (.answer .nothing) := by
  have ends : ∃ signs, endSession.Makes K s signs s.killed () := by
    unfold Stage.killed
    cases phase : s.phase with
    | idle => exact ⟨_, makes_of_get (by rw [phase]; exact makes_pure)⟩
    | running | awaiting =>
      obtain ⟨x, session⟩ := Option.ne_none_iff_exists'.mp (sound.going phase (by decide))
      obtain ⟨signs, tears⟩ := makes_tearDown (K := K) (s := s.ended) x
      refine ⟨signs, makes_of_get ?_⟩
      rw [phase, session]
      exact makes_set.bind tears
  obtain ⟨signs, ends⟩ := ends
  exact ⟨signs, ends.result⟩

/-- A session that is killed comes to its end, if those who are told only reply. -/
lemma comesTo_killed (sound : s.Sound) : ComesTo K.attends (fun _ m => m = ⟨.surroundings s.killed, []⟩) past
    ⟨.stage (.call (Call.kill.play s)), []⟩ := by
  obtain ⟨signs, makes⟩ := makes_kill (K := K) sound
  refine comesTo_of_makes free_attends Frame.awaits_call (fun _ => binds_attends) makes fun _ => ?_
  exact .work rfl trivial (.here rfl)

/-- The session that a stage starts with an agent, who has a node to start at and a counter that can be moved
on. Nobody is asked for anything before the session is there. -/
lemma initiate_eq {a : AgentId} {onExit : Option Nat} {node : Node} {vars : Variables} (idle : s.phase = .idle)
    (start : (s.agents a).dialog.startNode? = some node) (counted : s.vars.countVisit? (s.agents a).id = some vars) :
    (Call.initiate (some a) onExit).play s = (tellStart s.started a node >>= fun _ => pure (.run (.flag true)))
      (s.opened vars ⟨s.started, a, node, 0, onExit⟩) := by
  have opens : s.opens a onExit = some ⟨s.started, a, node, 0, onExit⟩ := by simp [Stage.opens, idle, start, counted]
  obtain ⟨vars', counted', play⟩ := initiate_of_opens opens
  obtain rfl := Option.some.inj (counted.symm.trans counted')
  exact play

/-- A dialog with nodes has one to start at. -/
lemma startNode?_of_nodes {d : Dialog} (nodes : d.nodes ≠ []) : ∃ node, d.startNode? = some node := by
  obtain ⟨first, rest, e⟩ := List.exists_cons_of_ne_nil nodes
  unfold Dialog.startNode?
  rw [e, List.head?_cons]
  cases d.node? d.start with
  | none => exact ⟨first, rfl⟩
  | some node => exact ⟨node, rfl⟩

end Recovery

/-- A stage that starts a session with an agent: the session is there, at the first line of the agent's start
node, before anybody is told, and it comes to that line if those who are told only reply. -/
def Stage.Begins (K : Company) (a : AgentId) (onExit : Option Nat) (s : Stage) : Prop :=
  ∃ node vars, (s.agents a).dialog.startNode? = some node ∧
    (Call.initiate (some a) onExit).play s =
      (Play.tellStart s.started a node >>= fun _ => pure (.run (.flag true)))
        (s.opened vars ⟨s.started, a, node, 0, onExit⟩) ∧
    ∀ past, ComesTo K.attends (fun _ m => ∃ u : Stage, m = ⟨.stage (.run (.flag true) (.done u (.ok ()))), []⟩ ∧
      u.phase = .running ∧ u.session = some ⟨s.started, a, node, 0, onExit⟩) past
        ⟨.stage (.call ((Call.initiate (some a) onExit).play s)), []⟩

/-- A stage at rest without a session starts one, if the dialog has nodes and the visit can be counted. -/
lemma Stage.begins {K : Company} {a : AgentId} {s : Stage} {onExit : Option Nat} (idle : s.phase = .idle)
    (still : s.inRun = false) (nodes : (s.agents a).dialog.nodes ≠ [])
    (counted : s.vars.countVisit? (s.agents a).id ≠ none) : s.Begins K a onExit := by
  obtain ⟨node, start⟩ := startNode?_of_nodes nodes
  obtain ⟨vars, counts⟩ := Option.ne_none_iff_exists'.mp counted
  have play : (Call.initiate (some a) onExit).play s = _ := initiate_eq idle start counts
  refine ⟨node, vars, start, play, fun past => ?_⟩
  rw [play]
  obtain ⟨signs, told⟩ := makes_tellStart (K := K) (s := s.opened vars ⟨s.started, a, node, 0, onExit⟩) s.started a node
  refine comesTo_of_makes free_attends Frame.awaits_call (fun _ => binds_attends) told.result fun _ => ?_
  refine .work (l := .silent) (congrArg some (if_neg ?_)) trivial (.here ⟨_, rfl, rfl, rfl⟩)
  rw [show (s.opened vars ⟨s.started, a, node, 0, onExit⟩).inRun = s.inRun from rfl, still]
  decide

/-- A stage at rest. -/
structure Stage.AtRest (ls : List Label) (s : Stage) : Prop where
  still : s.inRun = false
  agent : s.phase = .idle ↔ s.session.map Session.agent = none
  node : s.phase = .idle ↔ s.session.map Session.node = none
  cleared : s.phase = .idle → s.session.bind Session.onExit = none ∧ (s.session.map Session.index).getD 0 = 0
  /-- Lines are left to be run only if a call has failed during the session. -/
  failed : s.phase = .running → Scene.Failed ⟨s, ls⟩

/-- A run from a fresh stage that has come back to where it started, whatever the surroundings have done: the
stage is at rest. From there a session that is going on can be killed, and then every agent can be talked to
who has a node and whose counter can be moved on. -/
theorem recovers_of_run {s s' : Stage} {ls : List Label} (fresh : s.Fresh)
    (run : Run Anything (.initial s) ls ⟨.surroundings s', []⟩) :
    s'.AtRest ls ∧ s'.killed.phase = .idle ∧ ∀ K : Company,
      (∀ past, ComesTo K.attends (fun _ m => m = ⟨.surroundings s'.killed, []⟩) past
        ⟨.stage (.call (Call.kill.play s')), []⟩) ∧
      ∀ a onExit, (s'.agents a).dialog.nodes ≠ [] → s'.vars.countVisit? (s'.agents a).id ≠ none →
        s'.killed.Begins K a onExit := by
  have safe := Contract.safe rests.honours fresh.sound run
  have sound : s'.Sound := safe.1
  have visit : Scene.Rests ⟨s, []⟩ ⟨s', ls⟩ := safe.2
  have still : s'.inRun = false := visit.inRun.trans fresh.still
  have kept : s'.killed.inRun = s'.inRun ∧ s'.killed.agents = s'.agents ∧ s'.killed.vars = s'.vars := by
    unfold Stage.killed
    cases s'.phase with
    | _ => exact ⟨rfl, rfl, rfl⟩
  refine ⟨⟨still, ?_, ?_, fun idle => ?_, fun running => ?_⟩, killed_idle, fun K => ⟨fun _ => ?_, ?_⟩⟩
  · rw [sound.idle, Option.map_eq_none_iff]
  · rw [sound.idle, Option.map_eq_none_iff]
  · rw [sound.idle.mp idle]
    exact ⟨rfl, rfl⟩
  · -- Nobody is left to run the lines, and none were left to begin with.
    obtain inRun | failed | ⟨before, -⟩ := visit.running running
    · rw [still] at inRun
      cases inRun
    · exact failed
    · rw [fresh.idle] at before
      cases before
  · exact comesTo_killed sound
  · intro a onExit nodes counted
    apply Stage.begins killed_idle (kept.1.trans still)
    · rw [kept.2.1]
      exact nodes
    · rw [kept.2.1, kept.2.2]
      exact counted

/-- The surroundings reply with a fault. -/
def Moment.fail (e : Fault) (m : Moment) : List Label × Moment :=
  match m with
  | ⟨.surroundings s, p :: ps⟩ => ([.replied s p.request (.error e)], ⟨.stage (p.resume (.error e) s), ps⟩)
  | _ => ([], m)

/-- Failing goes on with a run. -/
lemma Run.fail {m₀ m : Moment} {ls : List Label} (run : Run Anything m₀ ls m) (e : Fault) :
    Run Anything m₀ (ls ++ (m.fail e).1) (m.fail e).2 := by
  obtain ⟨control, ps⟩ := m
  cases control with
  | stage act => simpa only [Moment.fail, List.append_nil] using run
  | surroundings s =>
    cases ps with
    | nil => simpa only [Moment.fail, List.append_nil] using run
    | cons p ps => exact run.snoc (.reply (.error e)) trivial

/-- An observer fails as it is told that a session has started. -/
def mishap : List Label × Moment :=
  let told := (Moment.initial monologue).rehearse
    [.call (.adjust (.addStartObserver 2)), .work, .call (.initiate (some 0) none), .work]
  let failed := told.2.fail (.raised [])
  (told.1 ++ failed.1 ++ (failed.2.rehearse [.work]).1, (failed.2.rehearse [.work]).2)

/-- The session is left running, and one can go on from there all the same. -/
theorem recovers_of_mishap : monologue.Fresh ∧
    Run Anything (.initial monologue) mishap.1 ⟨.surroundings mishap.2.given, []⟩ ∧
    mishap.2.given.phase = .running ∧ mishap.2.given.AtRest mishap.1 ∧
    mishap.2.given.killed.Begins Company.reader 0 none := by
  have run : Run Anything (.initial monologue) mishap.1 ⟨.surroundings mishap.2.given, []⟩ := by
    rw [← Moment.eq_of_isOver (m := mishap.2) (by decide +kernel)]
    have free : ∀ (past : List Label) (l : Label), past.all (fun _ => true) = true → true = true → Anything past l :=
      fun _ _ _ _ => trivial
    have told : Run Anything (.initial monologue) ((Moment.initial monologue).rehearse
        [.call (.adjust (.addStartObserver 2)), .work, .call (.initiate (some 0) none), .work]).1 _ :=
      Moment.run_rehearse free (by decide +kernel)
    exact Moment.run_rehearse_of_run free (told.fail (.raised [])) (by decide +kernel) (by decide +kernel)
  obtain ⟨rest, -, recovers⟩ := recovers_of_run fresh_monologue run
  refine ⟨fresh_monologue, run, by decide +kernel, rest, (recovers Company.reader).2 0 none ?_ ?_⟩
  · decide +kernel
  · decide +kernel

end Parley
