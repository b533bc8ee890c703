import Parley.Proofs.Script.Errands
import Parley.Proofs.Session.Jumps

/-!
# Errands on a stage

What happens when a line of a script that asks for a function is run.

* `Script.Errand.play`: an errand is carried out, for the function, the parameter and the result that it names.
* `runLine_of_legible`: a line whose function has a legible name carries out the errand that it is written for.
* `play_ne`: errands for different functions are not carried out alike, since each asks for its own.

`errand_kept` closes the file: an errand is carried out as it was written if and only if its name is legible.
-/

namespace Parley

open Script

/-! ## Carrying errands out -/

namespace Play

/-- Everybody who may have a function is called, with the keywords in its parameter replaced. -/
def dispatch (name parameter : Text) : Play Unit := do
  let parameter ← expandParameter parameter
  announce .functionCalled fun agent _ => .function agent name parameter
  offerToAll name parameter

/-- Whether the first who has a function gives the desired result, in whatever letter case. Keywords are replaced in the
parameter and in the desired result. -/
def consult (name parameter desired : Text) : Play Bool := do
  let parameter ← expandParameter parameter
  let desired ← expandParameter desired
  match ← decide name parameter with
  | some result => pure (Text.lower (result.getD []) == Text.lower desired)
  | none => pure false

end Play

open Play

/-- An errand is carried out. A call steps past its line when it is over, if the session still runs. A test that is vain
fails at once. -/
def Script.Errand.play : Errand → Play Unit
  | .perform name parameter => do
    dispatch name parameter
    if (← get).phase = .running then moveOn []
  | .test name parameter desired =>
    if name = [] ∨ desired = [] then branch false
    else do branch (← consult name parameter desired)

section Errands

variable {s : Stage} {x : Session} {l : Line} {errand : Errand}

/-- A vain test fails at once. -/
lemma play_of_vain (vain : errand.IsVain) : errand.play = branch false := by
  cases errand with
  | perform name parameter => exact vain.elim
  | test name parameter desired => exact if_pos vain

/-- The line of an errand with a legible name carries it out. -/
lemma runLine_of_legible (stands : s.StandsAt x l) (written : l.bare = errand.line) (clear : errand.Clear)
    (legible : Legible errand.name) : runLine s = errand.play s := by
  cases errand with
  | perform name parameter =>
    have cuts : Text.cut "::".toList (Statement.call name parameter) = some (name, parameter) := cut_of_legible legible
    have calls : l.callFunction = Statement.call name parameter := congrArg Line.callFunction written
    have filled : (Statement.call name parameter).isEmpty = false := by
      simp [Statement.call]
    have dispatches : callFunction l.callFunction = dispatch name parameter := by
      rw [callFunction, calls, filled, splitCall, cuts]
      rfl
    have onward : perform l = moveOn [] :=
      perform_onward (l := l) (congrArg Line.isTest written) (congrArg (·.query.isValid) written)
        (congrArg Line.elseIf written) (.inr ⟨congrArg Line.exit written, congrArg Line.isSilent written⟩)
    have key : l.setVar.key = [] := congrArg (·.setVar.key) written
    have unset : assign l.setVar = pure () := by
      rw [assign, key]
      rfl
    rw [runLine, get_bind, stands.here]
    dsimp only
    rw [unset, dispatches, onward, pure_bind]
    rfl
  | test name parameter desired =>
    have cuts : Text.cut "::".toList (Statement.call name parameter) = some (name, parameter) := cut_of_legible legible
    have tests : l.ifFunction = Statement.call name parameter ++ ['='] ++ desired := congrArg Line.ifFunction written
    have filled : l.ifFunction.isEmpty = false := by
      rw [tests]
      simp
    have var : l.ifVar = [] := congrArg Line.ifVar written
    have branches : runLine s = (functionHolds l.ifFunction >>= branch) s := by
      rw [runLine_of_idle stands (congrArg (·.setVar.key) written) (congrArg Line.callFunction written), perform, filled,
        var]
      rfl
    rw [branches, functionHolds, tests, functionTest?_call clear cuts, Errand.play]
    by_cases vain : name = [] ∨ desired = []
    · rw [if_pos vain, if_pos vain.symm]
      rfl
    · rw [if_neg vain, if_neg fun h => vain h.symm]
      rfl

end Errands

/-! ## What is asked on an errand -/

/-- If a member is asked for a function, it is the one of that name. -/
def Request.Concerns (name : Text) (q : Request) : Prop :=
  ∀ m name' v, q = .function m name' v → name' = name

/-- A play that is left with a company comes to ask for something. -/
def Play.Asks {α : Type} (K : Company) (p : Play α) (s : Stage) (q : Request) : Prop :=
  ∃ t, .asked t q ∈ ((p s).plays K).1

section Asks

variable {α β : Type} {K : Company} {P : Request → Prop} {s t : Stage} {q : Request} {p : Play α} {f : α → Play β} {a : α}

/-- What is seen of a routine is seen with another one behind it. -/
lemma Routine.mem_plays_bind {r : Routine α} {f : α → Stage → Routine β} {l : Label} (mem : l ∈ (r.plays K).1) :
    l ∈ ((r.bind f).plays K).1 := by
  induction r with
  | done s r => cases mem
  | tell n rest ih =>
    rw [plays_tell] at mem
    rw [bind, plays_tell]
    cases mem with
    | head => exact List.mem_cons_self
    | tail _ mem => exact List.mem_cons_of_mem _ (ih mem)
  | ask s q k ih =>
    cases hands : q.handsOut with
    | true =>
      rw [plays_handsOut hands] at mem
      cases mem
    | false =>
      rw [plays_ask hands] at mem
      rw [bind, plays_ask hands]
      cases mem with
      | head => exact List.mem_cons_self
      | tail _ mem =>
        cases mem with
        | head => exact List.mem_cons_of_mem _ List.mem_cons_self
        | tail _ mem => exact List.mem_cons_of_mem _ (List.mem_cons_of_mem _ (ih _ _ mem))

/-- What a play asks for is asked for with another one behind it. -/
lemma Play.Asks.bind (h : p.Asks K s q) : (p >>= f).Asks K s q := by
  obtain ⟨t, mem⟩ := h
  exact ⟨t, Routine.mem_plays_bind mem⟩

/-- A play that is come to asks for what it asks for, with the other one in front. -/
lemma Play.Yields.asks (yields : p.Yields K P s t a) (h : (f a).Asks K t q) : (p >>= f).Asks K s q := by
  obtain ⟨signs, ⟨ls, plays, -⟩, -⟩ := yields
  obtain ⟨u, mem⟩ := h
  have both := Routine.plays_bind (f := fun a s => f a s) plays
  refine ⟨u, ?_⟩
  show _ ∈ (((p s).bind fun a s => f a s).plays K).1
  rw [both]
  exact List.mem_append_right _ mem

/-- What depends on the stage asks for what it asks for on the stage as it stands. -/
lemma asks_of_get {f : Stage → Play β} (h : (f s).Asks K s q) : (get >>= f).Asks K s q :=
  h

/-- A request that does not hand the stage out is asked. -/
lemma asks_ask (hands : q.handsOut = false) : (ask q).Asks K s q := by
  refine ⟨s, ?_⟩
  have plays : ((ask q s).plays K).1 = _ := congrArg Prod.fst (Routine.plays_ask hands)
  rw [plays]
  exact List.mem_cons_self

/-- What is asked is something that may be. -/
lemma Play.Yields.may (yields : p.Yields K P s t a) (h : p.Asks K s q) : P q := by
  obtain ⟨signs, ⟨ls, plays, rfl⟩, only⟩ := yields
  obtain ⟨u, mem⟩ := h
  rw [plays] at mem
  exact only q (List.mem_filterMap.mpr ⟨_, mem, rfl⟩)

end Asks

section Carried

variable {K : Company} {P : Request → Prop} {s t : Stage} {x : Session} {name parameter desired : Text}

/-- Moving on comes to an end, and asks handlers at most. -/
lemma exists_yields_moveOn (handlers : ∀ h e, P (.handle h e)) (link : Text) :
    ∃ t, (moveOn link).Yields K P s t () := by
  refine ⟨s.moved link, s.moving link, makes_moveOn, fun q mem => ?_⟩
  unfold Stage.moving Stage.hears at mem
  split at mem
  · split at mem
    · cases mem
    · obtain ⟨h, -, e⟩ := List.mem_map.mp mem
      cases e
      exact handlers h _
  · cases mem

/-- Passing over lines comes to an end, and asks handlers at most. -/
lemma exists_yields_passOver (handlers : ∀ h e, P (.handle h e)) (session : s.session = some x) :
    ∃ t, passOver.Yields K P s t () := by
  refine Exists.imp (fun t => yields_of_get) ?_
  rw [session]
  dsimp only
  split
  · exact ⟨_, yields_goTo _⟩
  · split
    · split
      · exact ⟨_, (yields_goTo _).bind yields_pure⟩
      · obtain ⟨t, yields⟩ := exists_yields_moveOn (s := s.atLine _) handlers []
        exact ⟨t, (yields_goTo _).bind yields⟩
    · exact ⟨_, (yields_goTo _).bind yields_pure⟩

/-- Branching comes to an end, and asks handlers at most. -/
lemma exists_yields_branch (handlers : ∀ h e, P (.handle h e)) (session : s.session = some x) (holds : Bool) :
    ∃ t, (branch holds).Yields K P s t () := by
  obtain ⟨t, yields⟩ : ∃ t, (if holds then moveOn [] else passOver).Yields K P s t () := by
    cases holds with
    | true => exact exists_yields_moveOn handlers []
    | false => exact exists_yields_passOver handlers session
  exact ⟨t, yields_branch session yields⟩

section Yields

variable (keywords : ∀ m key, P (.keyword m key)) (functions : ∀ m v, P (.function m name v))

include keywords functions

/-- A call of a function comes to an end, and only a built-in one changes the stage. -/
lemma yields_dispatch (handlers : ∀ h e, P (.handle h e)) (session : s.session = some x) :
    (dispatch name parameter).Yields K P s (s.callBuiltIn name (s.expandedIn K parameter)).2 () := by
  refine (yields_expandParameter keywords parameter).bind ?_
  exact (yields_announce handlers session).bind (yields_offerToAll fun m => functions m _)

/-- A test of a function comes to a result, and only a built-in one changes the stage. -/
lemma exists_yields_consult :
    ∃ b, (consult name parameter desired).Yields K P s (s.callBuiltIn name (s.expandedIn K parameter)).2 b := by
  have decides := yields_decide (K := K) (s := s) fun m => functions m (s.expandedIn K parameter)
  cases results : s.resultIn K name (s.expandedIn K parameter) with
  | none =>
    rw [results] at decides
    refine ⟨false, ?_⟩
    refine (yields_expandParameter keywords parameter).bind ?_
    exact (yields_expandParameter keywords desired).bind (decides.bind yields_pure)
  | some result =>
    rw [results] at decides
    refine ⟨Text.lower (result.getD []) == Text.lower (s.expandedIn K desired), ?_⟩
    refine (yields_expandParameter keywords parameter).bind ?_
    exact (yields_expandParameter keywords desired).bind (decides.bind yields_pure)

end Yields

/-- When an errand is carried out, members are asked for no function but its own. -/
lemma exists_yields_play (errand : Errand) (session : s.session = some x) :
    ∃ t, errand.play.Yields K (Request.Concerns errand.name) s t () := by
  have keywords (m : Member) (key : Text) : Request.Concerns errand.name (.keyword m key) := nofun
  have handlers (h : HandlerId) (e : Event) : Request.Concerns errand.name (.handle h e) := nofun
  have functions (m : Member) (v : Text) : Request.Concerns errand.name (.function m errand.name v) := by
    intro m' name' v' same
    cases same
    rfl
  cases errand with
  | perform name parameter =>
    have dispatches : (dispatch name parameter).Yields K (Request.Concerns name) s _ () :=
      yields_dispatch keywords functions handlers session
    refine Exists.imp (fun t => dispatches.bind) (Exists.imp (fun t => yields_of_get) ?_)
    split
    · exact exists_yields_moveOn handlers []
    · exact ⟨_, yields_pure⟩
  | test name parameter desired =>
    rw [Errand.play]
    split
    · exact exists_yields_branch handlers session false
    · obtain ⟨b, consults⟩ : ∃ b, (consult name parameter desired).Yields K (Request.Concerns name) s _ b :=
        exists_yields_consult keywords functions
      have kept := (Stage.keeps_callBuiltIn name (s.expandedIn K parameter)).session.trans session
      exact Exists.imp (fun t => consults.bind) (exists_yields_branch handlers kept b)

/-- The stage itself has no function whose name is not legible. -/
lemma callBuiltIn_of_not_legible (illegible : ¬ Legible name) (v : Text) : s.callBuiltIn name v = (none, s) := by
  have other (known : Text) (legible : Legible known) : name ≠ known := by
    rintro rfl
    exact illegible legible
  rw [Stage.callBuiltIn, if_neg (other _ (by decide)), if_neg (other _ (by decide)), if_neg (other _ (by decide)),
    if_neg (other _ (by decide)), if_neg (other _ (by decide))]

/-- When a call or a test is carried out that the stage itself cannot answer, the agent of the session is asked. -/
lemma asks_play {errand : Errand} (solid : ¬ errand.IsVain) (illegible : ¬ Legible errand.name)
    (session : s.session = some x) :
    errand.play.Asks K s (.function (.agent x.agent) errand.name (s.expandedIn K errand.parameter)) := by
  have members : s.members = .agent x.agent :: s.responders.filter (· ≠ .agent x.agent) := by
    rw [Stage.members, session]
  have expands (t : Text) : (expandParameter t).Yields K (fun _ => True) s s (s.expandedIn K t) :=
    yields_expandParameter (fun _ _ => trivial) t
  have own (v : Text) : (callBuiltIn errand.name v).Yields K (fun _ => True) s s none := by
    have reads := yields_callBuiltIn (K := K) (P := fun _ => True) (s := s) errand.name v
    rw [callBuiltIn_of_not_legible illegible] at reads
    exact reads
  cases errand with
  | perform name parameter =>
    have announces : (announce .functionCalled fun agent _ =>
        .function agent name (s.expandedIn K parameter)).Yields K (fun _ => True) s s () :=
      yields_announce (fun _ _ => trivial) session
    refine Asks.bind ((expands parameter).asks (announces.asks (asks_of_get ((own _).asks ?_))))
    rw [members]
    exact (asks_ask rfl).bind.bind
  | test name parameter desired =>
    have solid : ¬ (name = [] ∨ desired = []) := solid
    rw [Errand.play, if_neg solid]
    refine Asks.bind ((expands parameter).asks ((expands desired).asks (Asks.bind (asks_of_get ((own _).asks ?_)))))
    rw [members]
    exact (asks_ask rfl).bind

/-- Errands for different functions are not carried out alike. -/
lemma play_ne {errand errand' : Errand} (solid : ¬ errand.IsVain) (illegible : ¬ Legible errand.name)
    (session : s.session = some x) (other : errand.name ≠ errand'.name) : errand.play s ≠ errand'.play s := by
  intro same
  obtain ⟨t, yields⟩ := exists_yields_play (K := Company.reader) errand' session
  have asks := asks_play (K := Company.reader) solid illegible session
  exact other ((yields.of_eq same).may asks _ _ _ rfl)

end Carried

/-- A line of a script that calls or tests a function, and for which lines are emitted, sends an errand, and the first of
its lines stands in its node. A test without a function or without a desired result fails at once. Every other errand
is carried out as it was written if and only if the name of the function is legible; otherwise another one is, for a
function whose name is a shorter part of it. -/
theorem errand_kept {strict : Bool} {t raw name : Text} {pre post : List Text} {before ls : List Line} (start : Text)
    (whole : Text.lines t = pre ++ raw :: post)
    (inside : (pre.foldl (Draft.addLine strict) {}).current = some (name, before))
    (directive : Text.beginsWith "DO:".toList (Text.upper (Text.trim raw)) = true ∨
      Text.beginsWith "IF FUNCTION:".toList (Text.upper (Text.trim raw)) = true)
    (means : Statement.ofLine true (Text.trim raw) = .lines ls) :
    ∃ errand node l, Sends (Text.trim raw) errand ∧
      (parse strict t start).nodes[(pre.foldl (Draft.addLine strict) {}).done.length]? = some node ∧
      node.name = name ∧ node.lines[before.length]? = some l ∧ l.bare = errand.line ∧
      ∀ (s : Stage) (x : Session), s.session = some x → s.phase = .running → x.node = node → x.index = before.length →
        (errand.IsVain → runLine s = branch false s) ∧
        (¬ errand.IsVain → (runLine s = errand.play s ↔ Legible errand.name)) ∧
        (¬ Legible errand.name → ∃ name parameter, name <+: errand.name ∧ name ≠ errand.name ∧
          runLine s = (errand.renamed name parameter).play s) := by
  obtain ⟨errand, rest, sends, rfl⟩ := sends_of_emitted directive means
  obtain ⟨node, there, same, front⟩ := parse_of_lines start whole inside means
  obtain ⟨l, here, written⟩ : ∃ l, node.lines[before.length]? = some l ∧ l.bare = errand.line := by
    obtain ⟨more, e⟩ := front
    have bare : (node.lines.map Line.bare)[before.length]? = some errand.line.bare := by
      rw [← e, List.map_append, List.append_assoc, List.getElem?_append_right (by simp)]
      simp
    rw [List.getElem?_map] at bare
    obtain ⟨l, here, written⟩ := Option.map_eq_some_iff.mp bare
    refine ⟨l, here, written.trans ?_⟩
    cases errand with
    | perform | test => rfl
  refine ⟨errand, node, l, sends, there, same, here, written, fun s x session running at_ first => ?_⟩
  have stands : s.StandsAt x l := ⟨session, running, by rw [at_, first]; exact here⟩
  -- What is carried out goes by a legible name at the front of the written one, which is all of it if that is legible.
  obtain ⟨shorter, parameter, line, legible, begins, restored⟩ := exists_legible errand
  have runs : runLine s = (errand.renamed shorter parameter).play s := by
    refine runLine_of_legible stands (written.trans line.symm) (sends.clear.renamed shorter parameter) ?_
    rwa [Errand.name_renamed]
  have other (illegible : ¬ Legible errand.name) : shorter ≠ errand.name := fun e => illegible (e ▸ legible)
  refine ⟨fun vain => ?_, fun solid => ⟨fun kept => ?_, fun legible => ?_⟩, fun illegible => ?_⟩
  · rw [runs, play_of_vain (vain.renamed begins parameter)]
  · by_contra illegible
    refine play_ne solid illegible session ?_ (kept.symm.trans runs)
    rw [Errand.name_renamed]
    exact (other illegible).symm
  · rw [runs, restored legible]
  · exact ⟨shorter, parameter, begins, other illegible, runs⟩

/-- A function whose name is legible, with a parameter that would not be. -/
theorem errand_kept_parameter :
    let t := "#a\nIF FUNCTION: has , a::b = <<w>> => b\n#b\nA: hi".toList
    let s : Stage := { monologue with
      phase := .running, session := some ⟨0, 0, (parse false t []).nodes.getD 0 default, 0, none⟩ }
    runLine s = (Errand.test "has".toList "a::b".toList "<<w>>".toList).play s := by
  intro t s
  have whole : Text.lines t = ["#a".toList] ++ "IF FUNCTION: has , a::b = <<w>> => b".toList ::
      ["#b".toList, "A: hi".toList] := by decide +kernel
  have inside : (["#a".toList].foldl (Draft.addLine false) {}).current = some (['a'], []) := by decide +kernel
  have means : Statement.ofLine true (Text.trim "IF FUNCTION: has , a::b = <<w>> => b".toList) =
      .lines ((Condition.gives "has".toList "a::b".toList "<<w>>".toList).lines ['b']) := by decide +kernel
  obtain ⟨errand, node, l, sends, there, -, -, -, runs⟩ := errand_kept [] whole inside (.inr (by decide +kernel)) means
  have sent : Sends (Text.trim "IF FUNCTION: has , a::b = <<w>> => b".toList)
      (.test "has".toList "a::b".toList "<<w>>".toList) := by
    have parts : Text.splitPair? arrow ((Text.trim "IF FUNCTION: has , a::b = <<w>> => b".toList).drop 12) =
        some (" has , a::b = <<w>> ".toList, " b".toList) := by decide +kernel
    have sides : Text.splitPair? ['='] " has , a::b = <<w>> ".toList = some (" has , a::b ".toList, " <<w>> ".toList) := by
      decide +kernel
    have mentions : Mentions " has , a::b ".toList "has".toList "a::b".toList := mentions_iff.mpr (by decide +kernel)
    exact .test (by decide +kernel) parts sides mentions
  obtain rfl := sends.unique sent
  have same : (parse false t []).nodes.getD 0 default = node := by
    rw [List.getD_eq_getElem?_getD, show (parse false t []).nodes[0]? = some node from there]
    rfl
  have solid : ¬ (Errand.test "has".toList "a::b".toList "<<w>>".toList).IsVain := by
    rintro (named | wanted)
    · cases named
    · cases wanted
  exact ((runs s _ rfl rfl same rfl).2.1 solid).mpr (by decide)

end Parley
