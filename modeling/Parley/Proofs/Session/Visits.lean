import Parley.Proofs.Session.Tally

/-!
# Visits

If nobody writes the counter of an id, it stands at the number of sessions that have been opened with agents of that id,
whatever else happens, and lines that go by the number of visits go by that.

* `visits`: the contract.
* `Tallies`: what the counter and the lines that look at it have to do with the sessions.
* `tallies_of_run`: they keep to that in every run.

`overruled` closes the file: a line with another test does not go by the number of visits.
-/

namespace Parley

/-! ## The contract -/

/-- The counter of an id stands at the number of its sessions whenever the stage is seen. -/
def visits (who : Text) : Contract where
  rule := Anything
  holds := Scene.Visited who
  visit _ _ := True
  running _ := Scene.Loose who
  visit_refl _ := trivial
  visit_trans _ _ := trivial

namespace visits

open Play Scene

variable {who : Text} {x y : Scene} {s : Stage}

/-- Whatever is tallied follows. -/
lemma follows (known : y.Visited who) : (visits who).Follows x y :=
  ⟨known, trivial⟩

/-- Every request and its reply leave what is known in between. -/
lemma asks (q : Request) : (visits who).Asks (Loose who) (Loose who) q := by
  intro x known
  have out : (x.asking q).Visited who := known.visited rfl rfl
  refine ⟨out, fun y r back _ => ?_⟩
  have visited : y.Visited who := (back.follows out).holds
  exact (visited.loose.visited rfl rfl).loose

/-- Variables may be written again when a function has been consulted. -/
lemma asks_writable {q : Request} (around : q.asksAround = true) :
    (visits who).Asks (Writable who) (Writable who) q := by
  intro x known
  obtain ⟨out, back⟩ := asks q x known.loose
  exact ⟨out, fun y r visit keeps => (back y r visit keeps).writable rfl around⟩

/-- A report leaves what is known in between. -/
lemma tells (n : Notice) : Contract.Tells (Loose who) n :=
  fun _ known => known.unseen rfl

/-- A change that leaves the session and the variables alone. -/
lemma changes {f : Stage → Stage} (alike : ∀ s : Stage, s.Alike (f s))
    (attends : ∀ s : Stage, s.Staffed → s.Attends (f s)) (vars : ∀ s, (f s).vars = s.vars) :
    Contract.Changes (Loose who) f := by
  intro x known
  refine known.on (known.listed.alike (alike x.stage) fun _ => attends x.stage) ?_
  rw [vars]

/-- While variables may be written, the stage may change as long as its session stays with its agent. -/
lemma changes_writable {f : Stage → Stage} (alike : ∀ s : Stage, s.Alike (f s))
    (attends : ∀ s : Stage, s.Staffed → s.Attends (f s)) : Contract.Changes (Writable who) f :=
  fun x known => known.on (known.listed.alike (alike x.stage) fun _ => attends x.stage)

/-- A built-in function may write variables. -/
lemma writes_builtIn (name parameter : Text) :
    Contract.Changes (Writable who) fun s => (s.callBuiltIn name parameter).2 := by
  refine changes_writable (fun s => ?_) fun s staffed => staffed.attends_callBuiltIn name parameter
  obtain ⟨vars, agents, e⟩ := s.callBuiltIn_eq name parameter
  rw [e]
  exact ⟨.rfl, rfl, rfl⟩

/-- Whatever consults the surroundings may write variables. -/
lemma consults : (visits who).Consults (Writable who) where
  told _ _ known := known.unseen rfl
  keyword _ _ := asks_writable rfl
  function _ _ _ := asks_writable rfl
  called _ _ := carries_announce (fun _ _ known => known.unseen rfl) fun _ _ _ _ => asks_writable rfl
  builtIn := writes_builtIn
  written _ _ := changes_writable (fun _ => ⟨.rfl, rfl, rfl⟩) fun _ staffed => staffed.attends rfl fun _ _ => ⟨rfl, rfl⟩

/-- Looking up keywords leaves what is known in between. -/
lemma reads : (visits who).Reads (Loose who) :=
  ⟨tells, fun _ _ => asks _⟩

/-- Moving from line to line leaves what is known in between. -/
lemma moves : (visits who).Moves (Loose who) (Loose who) where
  weak := id
  reported := tells
  entered := carries_announce tells fun _ _ _ _ => asks _
  node := Contract.enters fun _ => changes (fun s => s.alike_moved fun _ => rfl)
    (fun _ staffed => staffed.attends_map fun _ => ⟨rfl, rfl⟩) fun _ => rfl
  index _ := changes (fun s => s.alike_moved fun _ => rfl)
    (fun _ staffed => staffed.attends_map fun _ => ⟨rfl, rfl⟩) fun _ => rfl

/-- The end of a session leaves what is known in between. -/
lemma carries_endSession : endSession.Carries (visits who) (Loose who) (Loose who) := by
  refine Play.carries_endSession (fun x known => ?_) fun s =>
    carries_tearDown tells (fun _ => asks _) (fun _ => asks _) (fun _ _ _ _ => asks _) fun _ _ => asks _
  exact known.on (known.listed.on x.stage.sound_ended rfl nofun fun _ _ => nofun) rfl

/-- A pause leaves what is known in between. -/
lemma suspended (known : x.Loose who) (going : x.stage.session ≠ none) : (x.on x.stage.suspended).Loose who := by
  refine known.on (known.listed.alike (known.listed.sound.alike_suspended going) fun _ staffed => ?_) rfl
  exact staffed.attends rfl fun _ _ => ⟨rfl, rfl⟩

/-- An entry in the history leaves what is known in between. -/
lemma noted (name : Text) : Contract.Changes (Loose who) fun s => { s with history := s.history ++ [name] } :=
  changes (fun _ => ⟨.rfl, rfl, rfl⟩) (fun _ staffed => staffed.attends rfl fun _ _ => ⟨rfl, rfl⟩) fun _ => rfl

/-- Whether the loop is at work or not leaves what is known in between. -/
lemma looping (known : y.Loose who) (b : Bool) : (y.looping b).Loose who := by
  refine known.on (known.listed.alike ⟨.rfl, rfl, rfl⟩ fun _ staffed => ?_) rfl
  exact staffed.attends rfl fun _ _ => ⟨rfl, rfl⟩

/-- A line may write variables, and leaves what is known in between. -/
lemma carries_runLine : runLine.Carries (visits who) (Writable who) (Loose who) := by
  intro x known
  refine does_runLine consults Writable.loose moves known (fun _ _ => id) carries_endSession ?_ ?_
  · intro y l _ known running
    have going := known.listed.sound.going running (by decide)
    refine does_askQuery tells moves known.loose (fun _ _ => id) reads (suspended known.loose going) (fun _ _ => id) ?_
    intro z p known _ _
    exact carries_deliverQuery id tells (fun _ _ _ _ => asks _) (fun _ => asks _) z known
  · intro y l _ known running
    refine does_showLine reads noted known.loose (fun _ _ => id) ?_
    intro z shown going known _
    exact carries_deliver id tells (fun _ _ _ _ => asks _) (fun _ => asks _) (fun _ => asks _) _ (suspended known going)

/-! ## Calls -/

/-- If as much is known when a call ends, it ends as the contract asks. -/
lemma afterCall_of_loose (known : y.Loose who) (r : Except Fault Outcome) : (visits who).afterCall x y r := by
  have answered (r : Except Fault Answer) : (visits who).Follows x (y.answering r) := follows (known.visited rfl rfl)
  cases r with
  | error f => exact answered (.error f)
  | ok o =>
    cases o with
    | answer a => exact answered (.ok a)
    | run a =>
      simp only [Contract.afterCall]
      split
      · exact answered (.ok a)
      · exact (looping known true).unseen rfl

/-- Reports are not seen of the stage. -/
lemma loose_told (known : x.Loose who) (ns : List Notice) : (Scene.mk x.stage (x.past ++ ns.map Label.told)).Loose who := by
  induction ns using List.reverseRecOn with
  | nil =>
    rw [List.map_nil, List.append_nil]
    exact known
  | append_singleton ns n ih =>
    rw [List.map_append, ← List.append_assoc]
    exact ih.unseen (l := .told n) rfl

section Opening

variable {owed : Option Request} {c : Call} {k : Session} {vars : Variables}

/-- A session that is opened is the latest one, and it is one of the id of its agent. -/
lemma listed_opened (known : x.Listed who) (opening : x.stage.opening? c = some k) :
    ((x.calling owed c).on ((x.stage.readied c).opened vars k)).Listed who := by
  obtain ⟨a, onExit, opens⟩ := Stage.opens_of_opening opening
  have number : k.number = x.stage.started := Stage.number_of_opening opening
  have started : ((x.stage.readied c).opened vars k).started = x.stage.started + 1 :=
    congrArg (· + 1) (x.stage.started_readied c)
  have sessions : sessionsOf who (x.calling owed c).past = _ := sessionsOf_called opening
  -- The number of the session is larger than those before, so that it is the last one of its agent.
  have new {n : Nat} (mem : n ∈ sessionsOf who (x.calling owed c).past) :
      n ∈ sessionsOf who x.past ∨ n = k.number ∧ ((x.stage.readied c).agents k.agent).id = who := by
    rw [sessions, List.mem_append] at mem
    refine mem.imp (fun mem => mem) fun mem => ?_
    split at mem
    · rename_i same
      exact ⟨List.mem_singleton.mp mem, same⟩
    · cases mem
  refine ⟨Stage.Sound.opened opens, ?_, fun n mem => ?_, ?_, fun spared => ⟨?_, ?_⟩⟩
  · rintro _ ⟨⟩
    exact (congrArg (· + 1) number).trans started.symm
  · show n < ((x.stage.readied c).opened vars k).started
    rw [started]
    rcases new mem with old | ⟨rfl, -⟩
    · exact Nat.lt_succ_of_lt (known.below n old)
    · rw [number]
      exact Nat.lt_succ_self _
  · show (sessionsOf who (x.calling owed c).past).Pairwise (· < ·)
    rw [sessions]
    refine List.pairwise_append.mpr ⟨known.ascending, ?_, fun n old n' new => ?_⟩
    · split
      · exact List.pairwise_singleton _ _
      · exact List.Pairwise.nil
    · split at new
      · rw [List.mem_singleton.mp new, number]
        exact known.below n old
      · cases new
  · rintro _ ⟨⟩
    exact Stage.isEmpty_of_startNode? (Stage.start_of_opening opening)
  · rintro _ ⟨⟩ mem
    rcases new mem with old | ⟨-, same⟩
    · exact absurd (known.below _ old) (by rw [number]; exact Nat.lt_irrefl _)
    · exact same

/-- The counter of the agent goes up by one, and no other counter changes. -/
lemma loose_opened (known : x.Visited who) (opening : x.stage.opening? c = some k)
    (counted : x.stage.vars.countVisit? ((x.stage.readied c).agents k.agent).id = some vars) :
    ((x.calling owed c).on ((x.stage.readied c).opened vars k)).Loose who := by
  refine ⟨listed_opened known.listed opening, fun untouched => .inl ?_⟩
  have tallied : x.Tallied who := known.tallied (Untouched.left untouched)
  have sessions : sessionsOf who (x.calling owed c).past = _ := sessionsOf_called opening
  show Counter (vars.get? who) (sessionsOf who (x.calling owed c).past).length
  rw [sessions]
  by_cases same : ((x.stage.readied c).agents k.agent).id = who
  · rw [if_pos same, List.length_append]
    rw [same] at counted
    exact Variables.counter_countVisit tallied counted
  · rw [if_neg same, List.append_nil, Variables.get?_countVisit same counted]
    exact tallied

/-- A call that opens a session counts it. -/
lemma does_opening (known : x.Visited who) (opening : x.stage.opening? c = some k) :
    c.play.Does (visits who) (x.calling owed c) ((visits who).afterCall x) := by
  refine Play.does_opening opening fun y vars readied told counted => ?_
  obtain ⟨stage, past⟩ := y
  obtain ⟨ns, told⟩ := told
  subst readied told
  rw [Stage.vars_readied] at counted
  have opened : Loose who ⟨_, (x.calling owed c).past ++ _⟩ := loose_told (loose_opened known opening counted) ns
  have tellStart := carries_tellStart tells (fun _ _ => asks _) (fun _ _ _ => asks _) (fun _ _ _ => asks _)
    k.number k.agent k.node _ opened
  exact tellStart.mono fun z r known => afterCall_of_loose known _

end Opening

/-- A call that opens no session leaves what is known in between. -/
lemma loose_calling {owed : Option Request} {c : Call} (known : x.Visited who) (unopened : x.stage.opening? c = none) :
    (x.calling owed c).Loose who := by
  refine (known.loose.visited rfl ?_).loose
  rw [Label.opens?, unopened]
  rfl

/-- Calls that do not open a session leave the counter alone. -/
lemma serves : (visits who).Serves (fun x c => x.stage.opening? c = none) (fun _ => Loose who) (fun _ => Loose who)
    fun _ => Loose who where
  weak := id
  moves _ := ⟨Loose who, moves, id⟩
  told _ := tells
  reads _ := reads
  function known := (writes_builtIn _ _ _ (known.writable rfl rfl)).loose
  stays known _ unopened _ := loose_calling known unopened
  goesOn {x owed c} known _ goes := by
    have called : (x.calling owed c).Loose who := loose_calling known (Stage.opening?_of_goesOn goes)
    refine called.on (called.listed.alike (Stage.alike_resumed goes.1) fun _ staffed => ?_) rfl
    exact staffed.attends rfl fun _ _ => ⟨rfl, rfl⟩
  opens unopened _ _ _ opening _ := by
    rw [unopened] at opening
    cases opening
  ends _ := carries_endSession
  history _ := changes (fun _ => ⟨.rfl, rfl, rfl⟩) (fun _ staffed => staffed.attends rfl fun _ _ => ⟨rfl, rfl⟩)
    fun _ => rfl
  built {_ _ a speaker} _ _ :=
    changes (fun _ => ⟨.rfl, rfl, rfl⟩) (fun _ staffed => staffed.attends_built a speaker) fun _ => rfl
  images _ _ := asks _
  published _ _ _ _ := asks _
  adjusts {x owed change} _ known := by
    have listed := known.listed.alike (x.stage.alike_adjust change) fun spared staffed =>
      staffed.attends_adjust (spared _ _ _ (List.mem_append_right _ (List.mem_singleton_self _)))
    refine follows (Loose.visited ?_ rfl rfl)
    cases writes : (Call.adjust change).writes with
    | true => exact ((known.writable rfl writes).on listed).loose
    | false => exact known.on listed (by rw [Stage.vars_adjust writes]; rfl)
  answers known := follows (known.visited rfl rfl)
  fails known := follows (known.visited rfl rfl)
  defers known _ := follows (known.visited rfl rfl)
  runs known _ _ := (looping known true).unseen rfl

/-- Calls and lines keep the contract. -/
lemma honours : (visits who).Honours where
  call {x owed c} known keeps := by
    cases opening : x.stage.opening? c with
    | none => exact serves.call known keeps opening
    | some k => exact does_opening known opening
  line {x y} known _ := by
    have begun : y.beginning.Writable who := (known.visited rfl rfl).loose.writable rfl rfl
    refine (carries_runLine _ begun).mono fun z r known => ?_
    cases r with
    | error e => exact follows ((looping known false).visited rfl rfl)
    | ok u => exact known
  rest known _ _ := follows ((looping known false).visited rfl rfl)

end visits

/-! ## Tests of the number of visits -/

/-- How a number of visits is compared. -/
inductive Comparison where
  | less
  | more
  | equal
  deriving DecidableEq, Repr

namespace Comparison

/-- The character that a comparison is written with. -/
def mark : Comparison → Char
  | .less => '<'
  | .more => '>'
  | .equal => '='

/-- The comparison holds of a number of visits and another number. -/
def Holds : Comparison → Int → Int → Prop
  | .less, k, n => k < n
  | .more, k, n => n < k
  | .equal, k, n => k = n

instance (c : Comparison) (k n : Int) : Decidable (c.Holds k n) :=
  match c with
  | .less => inferInstanceAs (Decidable (k < n))
  | .more => inferInstanceAs (Decidable (n < k))
  | .equal => inferInstanceAs (Decidable (k = n))

end Comparison

/-- A line has none of the tests that go before the one of the number of visits. -/
structure Line.GoesByVisits (l : Line) : Prop where
  var : l.ifVar = []
  function : l.ifFunction = []
  query : l.query.isValid = false

section Tests

variable {t : Stage} {x : Session} {l : Line} {c : Comparison} {number : Text} {k n : Int}

/-- Writing a variable does not change the agents. -/
lemma Stage.agents_assigned (a : Assignment) : (t.assigned a).agents = t.agents := by
  unfold assigned
  split
  · rfl
  · rfl

/-- What a line does before it is tested does not change the id of an agent. -/
lemma Stage.id_acted (K : Company) (a : AgentId) : ((t.acted K l).agents a).id = (t.agents a).id := by
  unfold acted called
  split
  · rw [agents_assigned]
  · rw [id_callBuiltIn, agents_assigned]

/-- A test of visits compares their number with the one that is written. -/
lemma Stage.countTest_eq (session : t.session = some x) (count : t.vars.visits (t.agents x.agent).id = k)
    (reads : Numeral.read number = .ok n) : t.countTest (c.mark :: number) = decide (c.Holds k n) := by
  unfold countTest currentAgent?
  rw [session, Option.map_some]
  dsimp only
  rw [reads, count]
  cases c with
  | less | more => rfl
  | equal => rfl

/-- A line that goes by the number of visits is taken or passed over. -/
lemma Play.perform_counted (goes : l.GoesByVisits) (session : t.session = some x)
    (count : t.vars.visits (t.agents x.agent).id = k) (tests : l.ifDialogCount = c.mark :: number)
    (reads : Numeral.read number = .ok n) :
    perform l t = (if c.Holds k n then moveOn [] else passOver) t := by
  have branches : perform l t = branch (t.countTest (c.mark :: number)) t := by
    unfold perform
    rw [goes.var, goes.function, goes.query, tests]
    rfl
  have goesOn (b : Bool) : branch b t = (if b then moveOn [] else passOver) t := by
    rw [branch, get_bind, session]
  rw [branches, goesOn, Stage.countTest_eq session count reads]
  by_cases holds : c.Holds k n
  · rw [if_pos (by simpa using holds), if_pos holds]
  · rw [if_neg (by simpa using holds), if_neg holds]

end Tests

/-! ## Runs -/

/-- The counter of an id stands at the number of its sessions, and tests go by that. -/
structure Tallies (who : Text) (ls : List Label) : Prop where
  counts : ∀ {l₁ l l₂} {t : Stage}, ls = l₁ ++ l :: l₂ → l.stage? = some t →
    t.vars.visits who = (sessionsOf who l₁).length
  /-- The session that is going on is the latest one of the id, if it is one of them. -/
  latest : ∀ {l₁ l l₂} {t : Stage} {x : Session} {k : Nat}, ls = l₁ ++ l :: l₂ → l.stage? = some t →
    t.session = some x → (sessionsOf who l₁)[k]? = some x.number → k + 1 = (sessionsOf who l₁).length
  /-- In the session after `k` others a line is taken if the test holds of `k + 1`, and is passed over otherwise. -/
  performs : ∀ {l₁ l l₂} {t : Stage} {x : Session} {k : Nat} {line : Line} {c : Comparison} {number : Text} {n : Int},
    ls = l₁ ++ l :: l₂ → l.stage? = some t → t.session = some x → (sessionsOf who l₁)[k]? = some x.number →
    Spared l₁ → line.GoesByVisits → line.ifDialogCount = c.mark :: number → Numeral.Spells number n →
    Play.perform line t = (if c.Holds (k + 1) n then Play.moveOn [] else Play.passOver) t
  /-- So is a line that is begun, if it writes another variable at most and calls no function first. -/
  runs : ∀ {l₁ l₂} {t : Stage} {x : Session} {k : Nat} {line : Line} {c : Comparison} {number : Text} {n : Int},
    ls = l₁ ++ .began t :: l₂ → t.session = some x → (sessionsOf who l₁)[k]? = some x.number →
    Spared l₁ → t.currentLine? = some line → line.GoesByVisits →
    line.ifDialogCount = c.mark :: number → Numeral.Spells number n → line.callFunction = [] →
    (t.assigned line.setVar).vars.get? who = t.vars.get? who →
    Play.runLine t = (if c.Holds (k + 1) n then Play.moveOn [] else Play.passOver) (t.assigned line.setVar)
  /-- So is one that calls a function first, if members reply to it and do nothing else. -/
  calls : ∀ {l₁ l₂} {t u : Stage} {x : Session} {k : Nat} {line : Line} {c : Comparison} {number : Text} {n : Int}
    (K : Company), ls = l₁ ++ .began t :: l₂ → (sessionsOf who l₁)[k]? = some x.number → Spared l₁ →
    t.StandsAt x line → line.GoesByVisits → line.ifDialogCount = c.mark :: number → Numeral.Spells number n →
    (t.acted K line).vars.get? who = t.vars.get? who →
    (if c.Holds (k + 1) n then Play.moveOn [] else Play.passOver).Yields K (·.handsOut = false) (t.acted K line) u () →
    Play.runLine.Yields K (·.handsOut = false) t u ()

/-- On a fresh stage without the counter there have been no sessions. -/
lemma Stage.Fresh.visited {s : Stage} {who : Text} (fresh : s.Fresh) (absent : s.vars.get? who = none) :
    (Scene.mk s []).Visited who := by
  refine ⟨⟨fresh.sound, fun k session => ?_, nofun, List.Pairwise.nil, fun _ => ⟨?_, ?_⟩⟩, fun _ => ?_⟩
  · cases fresh.vacant.symm.trans session
  · exact fun k session => by cases fresh.vacant.symm.trans session
  · exact fun k session => by cases fresh.vacant.symm.trans session
  · show Counter (s.vars.get? who) 0
    rw [absent]
    exact .unset

section Runs

variable {who : Text} {s t : Stage} {l : Label} {l₁ l₂ ls : List Label} {m : Moment} {x : Session} {k : Nat}

/-- Whenever a stage is seen, the counter stands at the number of sessions. -/
lemma visits.visited_of_seen (fresh : s.Fresh) (absent : s.vars.get? who = none)
    (run : Run Anything (.initial s) (l₁ ++ l :: l₂) m) (seen : l.stage? = some t) :
    ∃ past, past <+: l₁ ++ l :: l₂ ∧ sessionsOf who past = sessionsOf who l₁ ∧ (Spared l₁ → Spared past) ∧
      Scene.Visited who ⟨t, past⟩ := by
  have earlier : l₁ <+: l₁ ++ l :: l₂ := List.prefix_append _ _
  have later : l₁ ++ [l] <+: l₁ ++ l :: l₂ := ⟨l₂, by rw [List.append_assoc, List.singleton_append]⟩
  obtain ⟨past, rfl | ⟨rfl, other⟩, visited⟩ | ⟨rfl, e, loose⟩ :=
    Contract.of_seen honours (fresh.visited absent) run seen
  · exact ⟨_, earlier, rfl, id, visited⟩
  · have quiet : l.opens? who = none := by
      cases l with
      | called owed s' c => exact absurd rfl (other owed s' c)
      | _ => rfl
    exact ⟨_, later, sessionsOf_snoc quiet, fun spared => spared.snoc other, visited⟩
  · have loose : Scene.Loose who ⟨t, l₁⟩ := loose
    exact ⟨_, later, sessionsOf_snoc rfl, fun spared => spared.snoc fun _ _ _ => Label.noConfusion, loose.visited rfl rfl⟩

/-- The latest of numbers in order is the last one. -/
lemma length_of_latest {ns : List Nat} {n : Nat} (ascending : ns.Pairwise (· < ·)) (below : ∀ i ∈ ns, i ≤ n)
    (there : ns[k]? = some n) : k + 1 = ns.length := by
  obtain ⟨short, here⟩ := List.getElem?_eq_some_iff.mp there
  refine Nat.le_antisymm short (Nat.le_of_not_lt fun long => ?_)
  have later := List.pairwise_iff_getElem.mp ascending k (k + 1) short long (Nat.lt_succ_self k)
  rw [here] at later
  exact absurd (below _ (List.getElem_mem long)) (Nat.not_le.mpr later)

/-- The session that is going on is the latest of its id, if it is one of them. -/
lemma Scene.Listed.length_eq {past : List Label} (listed : Scene.Listed who ⟨t, past⟩) (session : t.session = some x)
    (there : (sessionsOf who past)[k]? = some x.number) : k + 1 = (sessionsOf who past).length := by
  refine length_of_latest listed.ascending (fun i mem => ?_) there
  have latest : x.number + 1 = t.started := listed.latest x session
  have below : i < t.started := listed.below i mem
  omega

/-- If an id has no counter at first and nobody writes it, it is counted how many of its sessions have been opened, and
lines go by that. -/
theorem tallies_of_run (fresh : s.Fresh) (absent : s.vars.get? who = none) (run : Run Anything (.initial s) ls m)
    (untouched : Untouched who ls) : Tallies who ls := by
  have counts {l₁ l l₂} {t : Stage} (e : ls = l₁ ++ l :: l₂) (seen : l.stage? = some t) :
      t.vars.visits who = (sessionsOf who l₁).length := by
    subst e
    obtain ⟨past, ⟨rest, e⟩, same, -, visited⟩ := visits.visited_of_seen fresh absent run seen
    rw [← e] at untouched
    rw [← same]
    exact Variables.visits_of_counter (visited.tallied untouched.left)
  have latest {l₁ l l₂} {t : Stage} {x : Session} {k : Nat} (e : ls = l₁ ++ l :: l₂) (seen : l.stage? = some t)
      (session : t.session = some x) (there : (sessionsOf who l₁)[k]? = some x.number) :
      k + 1 = (sessionsOf who l₁).length := by
    subst e
    obtain ⟨past, -, same, -, visited⟩ := visits.visited_of_seen fresh absent run seen
    rw [← same] at there ⊢
    exact visited.listed.length_eq session there
  -- The agent of the session still goes by the id, so the test looks at the counter.
  have current {l₁ l l₂} {t : Stage} {x : Session} {k : Nat} (e : ls = l₁ ++ l :: l₂) (seen : l.stage? = some t)
      (session : t.session = some x) (there : (sessionsOf who l₁)[k]? = some x.number) (spared : Spared l₁) :
      (t.agents x.agent).id = who ∧ t.vars.visits who = (k : Int) + 1 := by
    refine ⟨?_, ?_⟩
    · subst e
      obtain ⟨past, -, same, spares, visited⟩ := visits.visited_of_seen fresh absent run seen
      rw [← same] at there
      exact (visited.listed.named (spares spared)).2 x session (List.mem_of_getElem? there)
    · rw [counts e seen, ← latest e seen session there]
      exact Int.natCast_succ k
  refine ⟨counts, latest, ?_, ?_, ?_⟩
  · intro l₁ l l₂ t x k line c number n e seen session there spared goes tests spells
    obtain ⟨named, count⟩ := current e seen session there spared
    rw [← named] at count
    exact Play.perform_counted goes session count tests (Numeral.read_of_spells spells)
  · intro l₁ l₂ t x k line c number n e session there spared here goes tests spells calls kept
    obtain ⟨named, count⟩ := current e rfl session there spared
    subst e
    obtain ⟨n₀, n₁, -, step, -⟩ := run.split
    have running : t.phase = .running := step.fits.1
    have keeps : t.Keeps (t.assigned line.setVar) := Stage.keeps_assigned line.setVar
    rw [Play.runLine_of_uncalled here running calls]
    refine Play.perform_counted goes (keeps.session.trans session) ?_ tests (Numeral.read_of_spells spells)
    rw [Stage.agents_assigned, named, Variables.visits_congr kept, count]
  · intro l₁ l₂ t u x k line c number n K e there spared stands goes tests spells kept yields
    obtain ⟨named, count⟩ := current e rfl stands.session there spared
    have acted : (t.acted K line).session = some x := (Stage.keeps_acted line).session.trans stands.session
    refine Play.yields_runLine (fun _ _ => rfl) (fun _ _ _ => rfl) (fun _ _ => rfl) stands (yields.of_eq ?_)
    refine Play.perform_counted goes acted ?_ tests (Numeral.read_of_spells spells)
    rw [Stage.id_acted, named, Variables.visits_congr kept, count]

end Runs

/-- A stage with an agent who says something else from the second visit on. -/
def frequented : Stage where
  agents _ := { name := ['a'], dialog := { nodes := [{ lines := [
    { ifDialogCount := ['>', '1'] }, { text := ['b'] }, { endIf := true }, { text := ['c'] }] }] } }
  presenter := some 0

/-- Two visits. Another one is refused during the first, which is cut short. -/
def revisit : List Label × Moment :=
  (Moment.initial frequented).rehearse [.call (.initiate (some 0) none), .work, .work, .work, .work,
    .call (.initiate (some 0) none), .work, .work, .reply, .work, .call .kill, .work, .reply, .work,
    .call (.initiate (some 0) none), .work, .work, .work, .work, .reply, .work]

/-- The two visits are a run. -/
lemma run_revisit : Run Anything (.initial frequented) revisit.1 revisit.2 :=
  Moment.run_rehearse_anything

/-- In that run the counter keeps to the sessions, and the refused one does not count. -/
theorem tallies_revisit : ∃ m, frequented.Fresh ∧ frequented.vars.get? ['a'] = none ∧
    Run Anything (.initial frequented) revisit.1 m ∧ Untouched ['a'] revisit.1 ∧ sessionsOf ['a'] revisit.1 = [0, 1] ∧
      Tallies ['a'] revisit.1 := by
  have fresh : frequented.Fresh := ⟨rfl, rfl, rfl, rfl, rfl, rfl⟩
  have untouched : Untouched ['a'] revisit.1 := by decide +kernel
  exact ⟨_, fresh, rfl, run_revisit, untouched, by decide +kernel, tallies_of_run fresh rfl run_revisit untouched⟩

/-! ## Lines with another test -/

/-- A stage with an agent whose line has two tests. The variable that the first one looks at is missing. -/
def vetoing : Stage where
  agents _ := { name := ['a'], dialog := { nodes := [{ lines := [
    { ifVar := ['b', '=', 'c'], ifDialogCount := ['=', '1'] }, { text := ['d'] }] }] } }

/-- The first line is begun of the first session. -/
def vetoed : List Label × Moment :=
  (Moment.initial vetoing).rehearse [.call (.initiate (some 0) none), .work]

/-- The stage at which the loop comes to a line. -/
def Moment.due (m : Moment) : Stage :=
  match m.control with
  | .stage (.run _ (.done s _)) => s
  | _ => default

/-- The index of the line that a play has come to without asking for anything. -/
def Routine.index? {α : Type} : Routine α → Option Nat
  | .done s _ => s.session.map Session.index
  | _ => none

/-- Where calls only start and end sessions, no dialog is changed. -/
lemma spared_of_isAttentive {ls : List Label} (h : ls.all Label.isAttentive = true) : Spared ls :=
  fun _ _ _ mem => (attentive_of_isAttentive [] _ (List.all_eq_true.mp h _ mem)).1

/-- A line with another test may be passed over although its test of the number of visits holds. -/
theorem overruled : ¬ ∀ s who ls m, Stage.Fresh s → s.vars.get? who = none → Run Anything (.initial s) ls m →
    Untouched who ls → ∀ l₁ l₂ t x (k : Nat) line c number n, ls = l₁ ++ .began t :: l₂ → t.session = some x →
      (sessionsOf who l₁)[k]? = some x.number → Spared l₁ → t.currentLine? = some line →
      line.ifDialogCount = Comparison.mark c :: number → Numeral.Spells number n → line.callFunction = [] →
      (t.assigned line.setVar).vars.get? who = t.vars.get? who →
      Play.runLine t = (if c.Holds (k + 1) n then Play.moveOn [] else Play.passOver) (t.assigned line.setVar) := by
  intro goes
  have fresh : vetoing.Fresh := ⟨rfl, rfl, rfl, rfl, rfl, rfl⟩
  have opened : Run Anything (.initial vetoing) vetoed.1 vetoed.2 := Moment.run_rehearse_anything
  have begun : Step vetoed.2 (.began vetoed.2.due) ⟨.stage (.run (.flag true) (Play.runLine vetoed.2.due)), []⟩ :=
    .work rfl
  have one : Numeral.Spells ['1'] 1 := Numeral.spells_ofNat (n := 1) (by decide)
  have taken := goes vetoing ['a'] _ _ fresh rfl (opened.snoc begun trivial) (by decide +kernel) vetoed.1 [] vetoed.2.due
    _ 0 _ .equal ['1'] 1 rfl rfl rfl (spared_of_isAttentive (by decide +kernel)) rfl rfl one rfl rfl
  exact absurd (congrArg Routine.index? taken) (by decide +kernel)

end Parley
