import Parley.Proofs.Session.Announcements
import Parley.Proofs.Session.Faults
import Parley.Proofs.Session.Rehearsal

/-!
# Brackets

What is announced of a session is bracketed by its start and its end.

* `brackets.Lively.does_announce`: a session that is going on is announced in its place.
* `brackets.does_tellStart`: the start of a session is announced first.
* `brackets.carries_runLine`: a line is handed out in time.
* `brackets.honours`: calls and lines keep to the contract.

`bracketed` closes the file, and `entered_late` shows that a node may be announced after the end of its session.
-/

namespace Parley

namespace brackets

open Play

variable {x y z b : Scene} {n : Nat}

/-! ## A session that is going on -/

/-- No other session has taken the place of the one of a scene. -/
structure Bides (b z : Scene) : Prop where
  orderly : z.Orderly
  lasts : b.Lasts z
  shrinks : b.Shrinks z

/-- The session is one that has been announced. -/
structure Goes (b z : Scene) : Prop extends Bides b z where
  heralds : z.Heralds

/-- Handlers only hear of the end of the session. -/
structure Hushes (b z : Scene) : Prop extends Bides b z where
  lulls : b.Lulls z

/-- A session that nothing replaces twice is replaced by nothing. -/
lemma Bides.trans (h : Bides b y) (h' : Bides y z) : Bides b z :=
  ⟨h'.orderly, h.lasts.trans h'.lasts, h.shrinks.trans h'.shrinks⟩

/-- That nothing replaces the session is upheld. -/
lemma upholds_bides (b : Scene) : Upholds False (Bides b) :=
  ⟨Bides.orderly, fun known orderly lasts shrinks _ => known.trans ⟨orderly, lasts, shrinks⟩⟩

/-- That handlers only hear of ends is upheld as long as somebody has yet to reply. -/
lemma upholds_hushes (b : Scene) : Upholds True (Hushes b) :=
  ⟨fun known => known.orderly, fun known orderly lasts shrinks lulls =>
    ⟨known.toBides.trans ⟨orderly, lasts, shrinks⟩, known.lulls.trans (lulls trivial)⟩⟩

/-- A session that has been announced stays so while nothing replaces it. -/
lemma heralds_of_bides (heralds : b.Heralds) (h : Bides b z) : z.Heralds := by
  intro n hosts
  obtain ⟨ls, past, -⟩ := h.lasts.since
  rw [past]
  exact (heralds n (h.shrinks n hosts)).append

/-- That the session is an announced one is upheld. -/
lemma upholds_goes (b : Scene) : Upholds False (Goes b) where
  orderly known := known.orderly
  stays known orderly lasts shrinks _ :=
    ⟨known.toBides.trans ⟨orderly, lasts, shrinks⟩, heralds_of_bides known.heralds ⟨orderly, lasts, shrinks⟩⟩

/-- Nobody has heard of the end of a session that is going on. -/
lemma not_told_end (orderly : x.Orderly) (hosts : x.stage.Hosts n) : ¬ Told n .dialogEnded x.past := by
  rintro ⟨s, h, e, mem, session, kind⟩
  have ends : (Request.handle h e).ends n = true := by simp [Request.ends, session, kind]
  exact (orderly.ended n s _ mem ends).2 hosts

/-- Anything but the start and the end may be announced of a session that is going on. -/
lemma placed_of_hosts {kind : EventKind} (orderly : x.Orderly) (heralds : x.Heralds) (hosts : x.stage.Hosts n)
    (first : kind ≠ .dialogStarted) (last : kind ≠ .dialogEnded) : Placed n x.past x.stage kind := by
  have placed : x.stage.Hosts n ∧ ¬ Told n .dialogEnded x.past ∧ Heralded n x.past :=
    ⟨hosts, not_told_end orderly hosts, heralds n hosts⟩
  cases kind with
  | dialogStarted => exact absurd rfl first
  | dialogEnded => exact absurd rfl last
  | nodeEntered => exact .inl placed
  | lineStarted | queryStarted | functionCalled => exact placed

/-- What is known as long as the session that is going on is one that has been announced. -/
structure Lively (P : Scene → Prop) : Prop extends Upholds False P where
  heralds : ∀ {x}, P x → x.Heralds

/-- A session that goes on is lively. -/
lemma lively_goes (b : Scene) : Lively (Goes b) :=
  ⟨upholds_goes b, fun known => known.heralds⟩

section Lively

variable {P : Scene → Prop} (v : Lively P)

include v

/-- A lively session is announced in its place, and stays or ends during the announcement. -/
lemma Lively.does_announce {kind : EventKind} {payload : (agent node : Text) → Payload} {base : List Label}
    {Q : Request → Prop} (first : kind ≠ .dialogStarted) (last : kind ≠ .dialogEnded) (known : P x)
    (kept : Kept base n Q x) (hosts : x.stage.Hosts n)
    (among : ∀ h e, e.kind = kind → e.session = some n → Q (.handle h e)) :
    (announce kind payload).Does brackets x fun y r => (P y ∧ Kept base n Q y) ∧ r.isOk = true := by
  refine does_bind.mpr (does_get.mpr ?_)
  obtain ⟨s, session, rfl⟩ := Option.map_eq_some_iff.mp hosts
  simp only [Then, session]
  have orderly := v.orderly known
  have airs : Airs P base Q ⟨kind, some s.number, payload (x.stage.agents s.agent).id s.node.name⟩ s.number x :=
    ⟨known, kept, orderly.sound.numbered s session, fun _ =>
      placed_of_hosts orderly (v.heralds known) hosts first last⟩
  refine (v.does_publish rfl last (fun h => among h _ rfl rfl) airs).mono ?_
  rintro y r ⟨⟨airs, -⟩, gives⟩
  exact ⟨⟨airs.known, airs.kept⟩, gives⟩

/-- Anything but the start and the end may be announced of a lively session. -/
lemma Lively.announces {kind : EventKind} {payload : (agent node : Text) → Payload} (first : kind ≠ .dialogStarted)
    (last : kind ≠ .dialogEnded) : (announce kind payload).Carries brackets P P := by
  intro x known
  cases session : x.stage.session with
  | none =>
    refine does_bind.mpr (does_get.mpr ?_)
    simp only [Then, session]
    exact known
  | some s =>
    have hosts : x.stage.Hosts s.number := congrArg (Option.map Session.number) session
    have kept : Kept x.past s.number (fun _ => True) x := ⟨[], (List.append_nil _).symm, .inl hosts⟩
    refine (v.does_announce first last known kept hosts fun _ _ _ _ => trivial).mono ?_
    exact fun y r known => known.1.1

/-- A lively session consults the surroundings in its place. -/
lemma Lively.consults : brackets.Consults P where
  told := v.tells
  keyword _ _ := v.asks_plain (fun _ _ => Request.noConfusion) (fun _ => rfl) rfl
  function _ _ _ := v.asks_plain (fun _ _ => Request.noConfusion) (fun _ => rfl) rfl
  called _ _ := v.announces EventKind.noConfusion EventKind.noConfusion
  builtIn := v.builtIn
  written _ _ := v.changes (fun _ => ⟨.rfl, rfl, rfl⟩) (fun _ => rfl) (fun _ => rfl) fun _ => rfl

/-- A lively session moves from line to line in its place. -/
lemma Lively.moves : brackets.Moves P P where
  weak := id
  reported := v.tells
  entered := v.announces EventKind.noConfusion EventKind.noConfusion
  node := Contract.enters fun _ =>
    v.changes (fun s => s.alike_moved fun _ => rfl) (fun _ => rfl) (fun _ => rfl) fun _ => rfl
  index _ := v.changes (fun s => s.alike_moved fun _ => rfl) (fun _ => rfl) (fun _ => rfl) fun _ => rfl

/-- A lively session may be paused. -/
lemma Lively.suspended (known : P x) (going : x.stage.session ≠ none) : P (x.on x.stage.suspended) := by
  have orderly := v.orderly known
  have suspended := orderly_on orderly (orderly.sound.alike (orderly.sound.alike_suspended going)) (Nat.le_refl _)
    (fun _ => .inl) fun _ n hosts => v.heralds known n hosts
  exact v.stays known suspended ((Scene.Lasts.refl x).on (Nat.le_refl _) id rfl) (fun _ => id) False.elim

end Lively

/-! ## Lines -/

/-- A line is at work whose session is going on, or has ended as the line was made known. -/
def Delivering (y : Scene) (n : Nat) (x : Scene) : Prop :=
  Goes y.beginning x ∧ Kept y.beginning.past n (Request.Delivers n) x

/-- What is delivered while a line is made known is in time. -/
lemma inTime_of_delivering {s : Session} (inRun : y.stage.inRun = true) (session : y.stage.session = some s)
    (known : Delivering y s.number x) : InTime x.past x.stage := by
  obtain ⟨known, since, past, kept⟩ := known
  obtain ⟨ls, past', quiet, -⟩ := known.lasts.since
  obtain rfl : since = ls := List.append_cancel_left (past.symm.trans past')
  refine ⟨y.past, y.stage, since, s, ?_, quiet inRun, session, kept.imp (fun hosts => ⟨hosts, fun t p mem => ?_⟩) id⟩
  · rw [past, Scene.beginning, Scene.see, List.append_assoc, List.singleton_append]
  · exact (known.orderly.ended _ t _ mem (beq_self_eq_true _)).2 hosts

/-- A line may be handed out while it is made known. -/
lemma asks_line {s : Session} {q : Request} (inRun : y.stage.inRun = true) (session : y.stage.session = some s)
    (line : q.isLine = true) : brackets.Asks (Delivering y s.number) (Delivering y s.number) q := by
  have among : q.Delivers s.number := by
    cases q with
    | «show» | observeLine | query => trivial
    | _ => cases line
  refine (upholds_goes y.beginning).asks_kept among (fun x known kept => ⟨?_, fun n ends => ?_, fun _ => ?_⟩)
    fun _ => False.elim
  · rintro h e n rfl
    cases line
  · cases q with
    | «show» | observeLine | query => cases ends
    | _ => cases line
  · exact inTime_of_delivering inRun session ⟨known, kept⟩

/-- Reports may come while a line is made known. -/
lemma delivering_tells (notice : Notice) : Contract.Tells (Delivering y n) notice :=
  fun _ known => ⟨(upholds_goes y.beginning).tells notice _ known.1, known.2.see _⟩

/-- A line or a query is announced, and then it is handed out. -/
lemma does_delivery {s : Session} {kind : EventKind} {payload : (agent node : Text) → Payload} {p : Play Unit}
    (session : y.stage.session = some s) (kinds : kind = .lineStarted ∨ kind = .queryStarted)
    (hands : p.Carries brackets (Delivering y s.number) (Delivering y s.number)) (known : Goes y.beginning x)
    (going : x.stage.session ≠ none) :
    (announce kind payload >>= fun _ => p).Does brackets x fun z _ => Goes y.beginning z := by
  obtain ⟨s', session'⟩ := Option.ne_none_iff_exists'.mp going
  have hosts' : x.stage.Hosts s'.number := congrArg (Option.map Session.number) session'
  have same : y.stage.Hosts s'.number := known.shrinks _ hosts'
  have hosts : x.stage.Hosts s.number := by
    unfold Stage.Hosts at same
    rw [session, Option.map_some] at same
    rw [Option.some.inj same]
    exact hosts'
  obtain ⟨ls, past, -⟩ := known.lasts.since
  have kept : Kept y.beginning.past s.number (Request.Delivers s.number) x := ⟨ls, past, .inl hosts⟩
  have first : kind ≠ .dialogStarted := by rcases kinds with rfl | rfl <;> decide
  have last : kind ≠ .dialogEnded := by rcases kinds with rfl | rfl <;> decide
  have among (h : HandlerId) (e : Event) (same : e.kind = kind) (session : e.session = some s.number) :
      (Request.handle h e).Delivers s.number :=
    ⟨by rw [same]; exact kinds, session⟩
  refine does_bind.mpr (((lively_goes y.beginning).does_announce first last known kept hosts among).mono ?_)
  rintro z r ⟨known, gives⟩
  cases r with
  | error f => cases gives
  | ok _ => exact (hands z known).mono fun _ _ known => known.1

/-- Whatever a line does, it does in time. -/
lemma carries_runLine (orderly : y.Orderly) (heralds : y.Heralds) (inRun : y.stage.inRun = true)
    (running : y.stage.phase = .running) : runLine.Does brackets y.beginning fun z _ => Goes y.beginning z := by
  have v := lively_goes y.beginning
  obtain ⟨s, session⟩ := Option.ne_none_iff_exists'.mp (orderly.sound.going running (by decide))
  have begun : y.beginning.Orderly := by
    refine orderly_see orderly ?_ fun _ _ => Label.noConfusion
    rw [requestsOut_see]
    exact Int.add_nonneg orderly.out (Int.le_refl 0)
  have start : Goes y.beginning y.beginning :=
    ⟨⟨begun, .refl _, fun _ => id⟩, fun n hosts => (heralds n hosts).append⟩
  refine does_runLine v.consults id v.moves start (fun _ _ => id) v.carries_endSession ?_ ?_
  · intro x l _ known running
    have going := known.orderly.sound.going running (by decide)
    refine does_askQuery v.tells v.moves known (fun _ _ => id) v.consults.toReads (v.suspended known going)
      (fun _ _ => id) ?_
    intro w p known same _
    refine does_delivery session (.inr rfl) (carries_handQuery id fun _ => asks_line inRun session rfl) known ?_
    rw [same]
    exact going
  · intro x l _ known running
    refine does_showLine v.consults.toReads (fun _ => v.changes (fun _ => ⟨.rfl, rfl, rfl⟩) (fun _ => rfl)
      (fun _ => rfl) fun _ => rfl) known (fun _ _ => id) ?_
    intro w shown going known _
    have hands : (handOut shown (w.stage.ticket + 1)).Carries brackets (Delivering y s.number) (Delivering y s.number) :=
      carries_handOut id delivering_tells (fun _ => asks_line inRun session rfl) fun _ => asks_line inRun session rfl
    exact does_delivery session (.inl rfl) hands (v.suspended known going) going

/-! ## Starts -/

/-- A call has come in, and handlers have only heard of ends since. -/
def CameIn (x : Scene) (owed : Option Request) (c : Call) (w : Scene) : Prop :=
  ∃ since, w.past = x.past ++ .called owed x.stage c :: since ∧ (∀ l ∈ since, ¬ l.Strays) ∧
    ∃ l ∈ .called owed x.stage c :: since, ∃ t, l.stage? = some t ∧ t.bus = w.stage.bus

section Start

variable {o w : Scene} {owed : Option Request} {c : Call} {session : Session}

/-- A call is still the one that came in last while handlers only hear of ends. -/
lemma CameIn.hushes (h : CameIn x owed c o) (still : o.stage.phase ≠ .awaiting) (hushes : Hushes o w) :
    CameIn x owed c w := by
  obtain ⟨since, past, quiet, l, mem, t, stage, bus⟩ := h
  obtain ⟨-, ls, past', quiet'⟩ := hushes.lulls still
  obtain ⟨ls', past'', -, bus'⟩ := hushes.lasts.since
  obtain rfl : ls' = ls := List.append_cancel_left (past''.symm.trans past')
  refine ⟨since ++ ls', ?_, fun l mem => (List.mem_append.mp mem).elim (quiet l) (quiet' l), ?_⟩
  · rw [past', past, List.append_assoc, List.cons_append]
  · rw [← List.cons_append]
    rcases bus' with same | ⟨l', mem', seen⟩
    · exact ⟨l, List.mem_append_left _ mem, t, stage, bus.trans same.symm⟩
    · exact ⟨l', List.mem_append_right _ mem', seen⟩

/-- What has been heard of a session that has just been opened is its end. -/
lemma ended_of_told {kind : EventKind} (orderly : x.Orderly) (opening : x.stage.opening? c = some session)
    (cameIn : CameIn x owed c w) (told : Told session.number kind w.past) : kind = .dialogEnded := by
  obtain ⟨since, past, quiet, -⟩ := cameIn
  rw [past] at told
  rcases told_append told with before | ⟨s, h, e, mem, about, rfl⟩
  · have born := orderly.told _ _ before
    rw [Stage.number_of_opening opening] at born
    exact absurd born (Nat.lt_irrefl _)
  · rcases List.mem_cons.mp mem with same | mem
    · cases same
    · by_contra other
      exact quiet _ mem ⟨by rw [about]; exact Option.some_ne_none _, other⟩

/-- Nothing has been heard of a session that has just been opened and goes on. -/
lemma not_told {kind : EventKind} (orderly : x.Orderly) (opening : x.stage.opening? c = some session)
    (cameIn : CameIn x owed c w) (orderly' : w.Orderly) (hosts : w.stage.Hosts session.number) :
    ¬ Told session.number kind w.past := by
  intro told
  obtain rfl := ended_of_told orderly opening cameIn told
  exact not_told_end orderly' hosts told

/-- A session that is kept over some requests is kept over more. -/
lemma Kept.mono {base : List Label} {Q Q' : Request → Prop} (imp : ∀ q, Q q → Q' q) (h : Kept base n Q w) :
    Kept base n Q' w := by
  obtain ⟨since, past, kept⟩ := h
  exact ⟨since, past, kept.imp id fun ⟨q, among, ended⟩ => ⟨q, imp q among, ended⟩⟩

/-- A start observer of the session is told. -/
def Observed (n : Nat) (q : Request) : Prop :=
  ∃ o, q = .observeStart o n

/-- The start of a session is announced before anything else, unless an observer has ended it. -/
lemma placed_start (orderly : x.Orderly) (opening : x.stage.opening? c = some session) (cameIn : CameIn x owed c w)
    (orderly' : w.Orderly) (kept : Kept x.past session.number (Observed session.number) w) :
    Placed session.number w.past w.stage .dialogStarted := by
  obtain ⟨since, past, hosts | ⟨q, ⟨o, rfl⟩, ended⟩⟩ := kept
  · exact .inl ⟨hosts, fun kind => not_told orderly opening cameIn orderly' hosts⟩
  · refine .inr ⟨fun kind => ended_of_told orderly opening cameIn, o, ?_⟩
    rw [past]
    exact ended.append_left

/-- Everybody hears of the start of a session. -/
lemma does_greeting {agent name : Text} (orderly : x.Orderly) (opening : x.stage.opening? c = some session)
    (cameIn : CameIn x owed c w) (orderly' : w.Orderly) (born : session.number < w.stage.started)
    (kept : Kept x.past session.number (Observed session.number) w) :
    (publish ⟨.dialogStarted, some session.number, .session agent name⟩).Does brackets w fun y r =>
      (Bides w y ∧ Kept x.past session.number (Request.Greets session.number) y ∧
        (y.stage.Hosts session.number → Heralded session.number y.past)) ∧ r.isOk = true := by
  have greets : Kept x.past session.number (Request.Greets session.number) w :=
    kept.mono fun q ⟨o, same⟩ => by
      rw [same]
      exact rfl
  have airs : Airs (Bides w) x.past (Request.Greets session.number)
      ⟨.dialogStarted, some session.number, .session agent name⟩ session.number w :=
    ⟨⟨orderly', .refl w, fun _ => id⟩, greets, born, fun _ => placed_start orderly opening cameIn orderly' kept⟩
  refine ((upholds_bides w).does_publish rfl EventKind.noConfusion (fun _ => ⟨rfl, rfl⟩) airs).mono ?_
  rintro y r ⟨⟨airs, ls, past, heard⟩, gives⟩
  refine ⟨⟨airs.known, airs.kept, fun hosts => ?_⟩, gives⟩
  have quiet (kind : EventKind) : ¬ Told session.number kind w.past :=
    not_told orderly opening cameIn orderly' (airs.known.shrinks _ hosts)
  obtain ⟨since, before, -, seen⟩ := cameIn
  rw [before] at past quiet
  rw [past]
  exact .intro opening rfl quiet seen heard

/-- The first node of a session is announced after its start. -/
lemma does_entrance {agent name : Text} {base : List Label} (orderly : w.Orderly) (born : n < w.stage.started)
    (kept : Kept base n (Request.Greets n) w) (heralded : w.stage.Hosts n → Heralded n w.past) :
    (publish ⟨.nodeEntered, some n, .node agent name⟩).Does brackets w fun y _ => Bides w y := by
  have placed : Placed n w.past w.stage .nodeEntered := by
    obtain ⟨since, past, hosts | ⟨q, among, ended⟩⟩ := kept
    · exact .inl ⟨hosts, not_told_end orderly hosts, heralded hosts⟩
    · refine .inr ⟨q, among, ?_⟩
      rw [past]
      exact ended.append_left
  have airs : Airs (Bides w) base (fun _ => True) ⟨.nodeEntered, some n, .node agent name⟩ n w :=
    ⟨⟨orderly, .refl w, fun _ => id⟩, kept.mono fun _ _ => trivial, born, fun _ => placed⟩
  refine ((upholds_bides w).does_publish rfl EventKind.noConfusion (fun _ => trivial) airs).mono ?_
  exact fun y r known => known.1.1.known

/-- The start of a session is announced first, and then its first node. -/
lemma does_tellStart {a : AgentId} {node : Node} (orderly : x.Orderly) (opening : x.stage.opening? c = some session)
    (start : o.Orderly) (opened : o.stage.session = some session) (still : o.stage.phase ≠ .awaiting)
    (cameIn : CameIn x owed c o) :
    (tellStart session.number a node).Does brackets o fun z _ => o.Lasts z ∧ z.Orderly ∧ z.Heralds := by
  have u := upholds_hushes o
  have observes : (each (fun i => ask (.observeStart i session.number)) o.stage.startObservers).Carries brackets
      (fun w => Hushes o w ∧ Kept x.past session.number (Observed session.number) w)
      fun w => Hushes o w ∧ Kept x.past session.number (Observed session.number) w := by
    refine carries_each (fun i => carries_ask (u.asks_kept ⟨i, rfl⟩ (fun _ _ _ => ?_) fun _ _ => id)) _
    exact proper_plain (fun _ _ => Request.noConfusion) (fun _ => rfl) rfl
  have hosts : o.stage.Hosts session.number := congrArg (Option.map Session.number) opened
  have kept : Kept x.past session.number (Observed session.number) o := by
    obtain ⟨since, past, -⟩ := cameIn
    exact ⟨_, past, .inl hosts⟩
  have observed := Routine.Meets.sure (fun keeps _ => keeps) (sure_each (fun _ => sure_ask rfl) _ _)
    (observes o ⟨⟨⟨start, .refl o, fun _ => id⟩, .refl o⟩, kept⟩)
  refine does_bind.mpr (does_get.mpr (does_bind.mpr (observed.mono ?_)))
  rintro w r ⟨⟨hushes, kept⟩, gives⟩
  cases r with
  | error f => cases gives
  | ok _ =>
    have cameIn := cameIn.hushes still hushes
    have born : session.number < w.stage.started :=
      Nat.lt_of_lt_of_le (start.sound.numbered session opened) hushes.lasts.started
    refine does_bind.mpr (does_get.mpr (does_bind.mpr ?_))
    refine (does_greeting orderly opening cameIn hushes.orderly born kept).mono ?_
    rintro y r ⟨⟨bides, kept, heralded⟩, gives⟩
    cases r with
    | error f => cases gives
    | ok _ =>
      have born := Nat.lt_of_lt_of_le born bides.lasts.started
      refine does_bind.mpr (does_get.mpr ((does_entrance bides.orderly born kept heralded).mono ?_))
      intro z _ entered
      have whole := hushes.toBides.trans (bides.trans entered)
      refine ⟨whole.lasts, whole.orderly, heralds_of_bides (fun m there => ?_) entered⟩
      -- No other session has come in between, so the one that is there is the one that was opened.
      obtain rfl : session.number = m := Option.some.inj (hosts.symm.trans (hushes.toBides.trans bides |>.shrinks m there))
      exact heralded there

end Start

/-! ## Calls -/

/-- What is known while a call is worked on. -/
structure Calling (x y : Scene) : Prop extends Hushes x y where
  before : x.Orderly
  free : ∃ owed c, (x.calling owed c).past <+: y.past ∧ (Busy x.past → x.stage.opening? c = none)

/-- That a call is worked on is upheld. -/
lemma upholds_calling (x : Scene) : Upholds True (Calling x) where
  orderly known := known.orderly
  stays known orderly lasts shrinks lulls := by
    obtain ⟨owed, c, past, free⟩ := known.free
    obtain ⟨ls, past', -⟩ := lasts.since
    refine ⟨(upholds_hushes x).stays known.toHushes orderly lasts shrinks lulls, known.before, owed, c, ?_, free⟩
    rw [past']
    exact past.trans (List.prefix_append _ _)

/-- What is known of a session that goes on because of a call. -/
structure GoingOn (x y : Scene) : Prop extends Goes x y where
  before : x.Orderly
  awaiting : x.stage.phase = .awaiting

/-- A session that goes on because of a call is lively. -/
lemma lively_goingOn (x : Scene) : Lively (GoingOn x) where
  orderly known := known.orderly
  stays known orderly lasts shrinks lulls :=
    ⟨(upholds_goes x).stays known.toGoes orderly lasts shrinks lulls, known.before, known.awaiting⟩
  heralds known := known.heralds

/-- A call may always come in. -/
lemma orderly_calling {owed : Option Request} {c : Call} (orderly : x.Orderly) : (x.calling owed c).Orderly := by
  refine orderly_see orderly ?_ fun _ _ => Label.noConfusion
  rw [requestsOut_see]
  exact Int.add_nonneg orderly.out (Int.le_refl 0)

/-- When a call has been worked on, the scene is as it has to be. -/
lemma parts_of_calling (known : Calling x y) : x.Parts y := by
  refine ⟨known.before, known.orderly, known.lasts, fun _ => ⟨known.shrinks, known.lulls⟩, fun still => ?_⟩
  refine heralds_of_bides (fun n hosts => ?_) known.toBides
  cases phase : x.stage.phase with
  | idle =>
    have vacant := known.before.sound.idle.mp phase
    unfold Stage.Hosts at hosts
    rw [vacant] at hosts
    cases hosts
  | running => exact absurd phase still
  | awaiting => exact known.before.waiting phase n hosts

/-- When a session has gone on because of a call, the scene is as it has to be. -/
lemma parts_of_goingOn (known : GoingOn x y) : x.Parts y := by
  have lulls : x.Lulls y := fun still => absurd known.awaiting still
  exact ⟨known.before, known.orderly, known.lasts, fun _ => ⟨known.shrinks, lulls⟩, fun _ => known.heralds⟩

/-- A call begins to be worked on if it opens no session while somebody has yet to reply. -/
lemma calling_start {owed : Option Request} {c : Call} (orderly : x.Orderly)
    (free : Busy x.past → x.stage.opening? c = none) : Calling x (x.calling owed c) where
  orderly := orderly_calling orderly
  lasts := (Scene.Lasts.refl x).see rfl fun _ => id
  shrinks _ := id
  lulls := (Scene.Lulls.refl x).see fun _ => id
  before := orderly
  free := ⟨owed, c, List.prefix_rfl, free⟩

/-- A call that goes on from a pause finds the session announced. -/
lemma goingOn_start {owed : Option Request} {c : Call} (orderly : x.Orderly) (goes : x.stage.GoesOn c) :
    GoingOn x ((x.calling owed c).on x.stage.resumed) := by
  have heralds : (x.calling owed c).Heralds := fun n hosts => (orderly.waiting goes.1 n hosts).append
  have called : (x.calling owed c).Orderly := orderly_calling orderly
  have resumed : ((x.calling owed c).on x.stage.resumed).Orderly :=
    orderly_on called (orderly.sound.alike (Stage.alike_resumed goes.1)) (Nat.le_refl _) (fun _ => .inl) fun _ => heralds
  refine ⟨⟨⟨resumed, ?_, fun _ => id⟩, heralds⟩, orderly, goes.1⟩
  exact ((Scene.Lasts.refl x).see rfl fun _ => id).on (Nat.le_refl _) id rfl

/-- A call opens a session only if no request is out, and the session is then announced. -/
lemma does_opening {owed : Option Request} {c : Call} {a a' : AgentId} {node : Node} {onExit : Option Nat}
    {vars : Variables} {session : Session} (known : Calling x y) (past : (x.calling owed c).past <+: y.past)
    (opening : x.stage.opening? c = some session) (opens : y.stage.opens a onExit = some session) :
    (tellStart session.number a' node).Does brackets (y.on (y.stage.opened vars session)) fun z _ => x.Parts z := by
  have idle := Stage.idle_of_opening opening
  obtain ⟨owed', c', past', free⟩ := known.free
  have same : (x.calling owed c).past = (x.calling owed' c').past :=
    List.IsPrefix.eq_of_length_le (List.prefix_of_prefix_length_le past past' (by simp [Scene.calling, Scene.see]))
      (by simp [Scene.calling, Scene.see])
  cases List.append_cancel_left same
  -- With a request out, only calls that open no session are made.
  have idle' : ¬ Busy x.past := by
    intro busy
    rw [free busy] at opening
    cases opening
  have opened : (y.on (y.stage.opened vars session)).Orderly := by
    refine orderly_on known.orderly (Stage.Sound.opened opens) (Nat.le_succ _) (fun n hosts => .inr ?_) ?_
    · have number : session.number = n := Option.some.inj hosts
      exact Nat.le_of_eq ((Stage.number_of_opens opens).2.1.symm.trans number)
    · exact Phase.noConfusion
  have lasts : x.Lasts (y.on (y.stage.opened vars session)) :=
    known.lasts.on (Nat.le_succ _) known.lasts.inRun rfl
  have cameIn : CameIn x owed c (y.on (y.stage.opened vars session)) := by
    obtain ⟨-, ls, before, quiet⟩ := known.lulls (by rw [idle]; decide)
    obtain ⟨ls', before', -, bus⟩ := known.lasts.since
    obtain rfl : ls' = ls := List.append_cancel_left (before'.symm.trans before)
    rw [before, Scene.calling, Scene.see, List.prefix_append_right_inj] at past
    obtain ⟨since, rfl⟩ := past
    refine ⟨since, before, fun l mem => quiet l (List.mem_append_right _ mem), ?_⟩
    rcases bus with same | seen
    · exact ⟨_, List.mem_cons_self, x.stage, rfl, same.symm⟩
    · exact seen
  refine (does_tellStart known.before opening opened rfl Phase.noConfusion cameIn).mono ?_
  rintro z r ⟨lasts', orderly, heralds⟩
  exact ⟨known.before, orderly, lasts.trans lasts', fun busy => absurd busy idle', fun _ => heralds⟩

/-- An answer follows on a call that has been worked on. -/
lemma follows_parts (known : x.Parts y) {r : Except Fault Answer} : brackets.Follows x (y.answering r) := by
  have answered : (y.answering r).Orderly := by
    refine orderly_see known.orderly ?_ fun _ _ => Label.noConfusion
    rw [requestsOut_see]
    exact Int.add_nonneg known.orderly.out (Int.le_refl 0)
  refine ⟨answered, known.lasts.see rfl fun _ => id, fun busy => ?_⟩
  obtain ⟨shrinks, lulls⟩ := known.wanes busy
  exact ⟨shrinks, lulls.see fun _ => id⟩

/-- The answer to a setting follows on its call. -/
lemma follows_adjusted {owed : Option Request} {change : Adjustment} (known : Calling x (x.calling owed (.adjust change))) :
    brackets.Follows x (((x.calling owed (.adjust change)).on (x.stage.adjust change).2).answering
      (.ok (x.stage.adjust change).1)) := by
  obtain ⟨phase, session, started, -, inRun⟩ := x.stage.adjust_eq change
  have same (n : Nat) (hosts : (x.stage.adjust change).2.Hosts n) : x.stage.Hosts n := by
    unfold Stage.Hosts at hosts
    rw [session] at hosts
    exact hosts
  have adjusted : ((x.calling owed (.adjust change)).on (x.stage.adjust change).2).Orderly := by
    refine orderly_on known.orderly (known.before.sound.alike (x.stage.alike_adjust change)) (Nat.le_of_eq started.symm)
      (fun n hosts => .inl (same n hosts)) fun awaiting n hosts => ?_
    exact known.orderly.waiting (phase.symm.trans awaiting) n (same n hosts)
  refine ⟨orderly_see adjusted ?_ fun _ _ => Label.noConfusion, ?_, fun _ => ⟨same, ?_⟩⟩
  · rw [requestsOut_see]
    exact Int.add_nonneg adjusted.out (Int.le_refl 0)
  · exact known.lasts.showing (Nat.le_of_eq started.symm) inRun.trans rfl (fun _ => id) rfl
  · exact (known.lulls.on fun still => phase.trans_ne still).see fun _ => id

/-- Every kind of call can be worked on. -/
lemma serves : brackets.Serves (fun _ _ => True) GoingOn Calling Scene.Parts where
  weak := parts_of_calling
  moves x := ⟨GoingOn x, (lively_goingOn x).moves, parts_of_goingOn⟩
  told x := (lively_goingOn x).tells
  reads x := ⟨(upholds_calling x).tells, fun _ _ =>
    (upholds_calling x).asks_plain (fun _ _ => Request.noConfusion) (fun _ => rfl) rfl⟩
  function known := (upholds_calling _).builtIn _ _ _ known
  stays orderly free _ _ := calling_start orderly free
  goesOn orderly _ goes := goingOn_start orderly goes
  opens _ known past _ opening opens := does_opening known past opening opens
  ends x := (upholds_calling x).carries_endSession
  history x := (upholds_calling x).changes (fun _ => ⟨.rfl, rfl, rfl⟩) (fun _ => rfl) (fun _ => rfl) fun _ => rfl
  built {x _ _ _} _ _ := (upholds_calling x).changes (fun _ => ⟨.rfl, rfl, rfl⟩) (fun _ => rfl) (fun _ => rfl) fun _ => rfl
  images x _ := (upholds_calling x).asks_plain (fun _ _ => Request.noConfusion) (fun _ => rfl) rfl
  published x h e session := by
    refine (upholds_calling x).asks (fun y known => ⟨?_, fun n ends => ?_, fun line => by cases line⟩) fun s _ strays => ?_
    · rintro _ _ n ⟨⟩ about
      rw [session] at about
      cases about
    · have about := (handle_ends ends).2
      rw [session] at about
      cases about
    · exact strays.1 session
  adjusts _ := follows_adjusted
  answers known := follows_parts (parts_of_calling known)
  fails known := follows_parts known
  defers known _ := follows_parts known
  runs {x y} known still phase := by
    have looping : (y.looping true).Orderly :=
      orderly_on known.orderly (known.orderly.sound.alike ⟨.rfl, rfl, rfl⟩) (Nat.le_refl _) (fun _ => .inl)
        known.orderly.waiting
    -- The turn of the loop hands nothing out, so as many requests are out as before.
    have turning : (y.looping true).turning.Orderly := by
      refine orderly_see looping ?_ fun _ _ => Label.noConfusion
      rw [requestsOut_see]
      exact Int.add_nonneg looping.out (Int.le_refl 0)
    refine ⟨⟨known.before, turning, ?_, fun busy => ?_, fun phase n hosts => (known.heralds phase n hosts).append⟩,
      rfl, Bool.eq_false_iff.mpr fun inRun => ?_, phase⟩
    · have lasts : x.Lasts (y.looping true) := known.lasts.on (Nat.le_refl _) (fun _ => rfl) rfl
      exact lasts.see rfl fun _ => id
    · obtain ⟨shrinks, lulls⟩ := known.wanes busy
      have lulls : x.Lulls (y.looping true) := lulls.on id
      exact ⟨shrinks, lulls.see fun _ => id⟩
    · rw [known.lasts.inRun inRun] at still
      cases still

/-! ## Runs -/

/-- When the loop ends, its answer follows on the call. -/
lemma follows_end {r : Except Fault Answer} (known : x.Parts y) (still : x.stage.inRun = false) :
    brackets.Follows x ((y.looping false).answering r) := by
  have parts : x.Parts (y.looping false) := by
    refine ⟨known.before, ?_, ?_, fun busy => ?_, known.heralds⟩
    · exact orderly_on known.orderly (known.orderly.sound.alike ⟨.rfl, rfl, rfl⟩) (Nat.le_refl _) (fun _ => .inl)
        known.orderly.waiting
    · refine known.lasts.on (Nat.le_refl _) (fun inRun => ?_) rfl
      rw [still] at inRun
      cases inRun
    · obtain ⟨shrinks, lulls⟩ := known.wanes busy
      exact ⟨shrinks, lulls.on id⟩
  exact follows_parts parts

/-- A line is run nowhere but in a session that has been waiting or has just been opened. -/
lemma parts_of_line {w : Scene} (known : x.Parts y) (still : x.stage.inRun = false) (phase : x.stage.phase ≠ .running)
    (running : y.stage.phase = .running) (goes : Goes y.beginning w) : x.Parts w := by
  have begun : x.Lasts y.beginning := by
    refine known.lasts.see rfl fun inRun => ?_
    rw [still] at inRun
    cases inRun
  refine ⟨known.before, goes.orderly, begun.trans goes.lasts, fun busy => ?_, fun _ => goes.heralds⟩
  obtain ⟨shrinks, -⟩ := known.wanes busy
  refine ⟨shrinks.trans goes.shrinks, fun waits => ?_⟩
  have idle : x.stage.phase = .idle := by
    cases e : x.stage.phase with
    | idle => rfl
    | running => exact absurd e phase
    | awaiting => exact absurd e waits
  obtain ⟨s, session⟩ := Option.ne_none_iff_exists'.mp (known.orderly.sound.going running (by decide))
  have hosts : x.stage.Hosts s.number := shrinks _ (congrArg (Option.map Session.number) session)
  unfold Stage.Hosts at hosts
  rw [known.before.sound.idle.mp idle] at hosts
  cases hosts

/-- Calls and lines keep the contract. -/
lemma honours : brackets.Honours where
  call orderly keeps := serves.call orderly keeps trivial
  line {x y} running phase := by
    obtain ⟨known, inRun, still, rests⟩ := running
    refine (carries_runLine known.orderly (known.heralds rests) inRun phase).mono ?_
    intro w r goes
    have parts := parts_of_line known still rests phase goes
    cases r with
    | error f => exact follows_end parts still
    | ok u => exact ⟨parts, goes.lasts.inRun inRun, still, rests⟩
  rest running _ _ := follows_end running.1 running.2.2.1

end brackets

/-- Nothing has been seen on a fresh stage, and nothing is out of order. -/
lemma Stage.Fresh.orderly {s : Stage} (fresh : s.Fresh) : (Scene.mk s []).Orderly where
  sound := fresh.sound
  out := Int.le_refl 0
  told _ _ told := by
    obtain ⟨_, _, _, mem, -⟩ := told
    cases mem
  ended _ _ _ mem := by cases mem
  ordered := by
    constructor
    · intro l₁ s h e l₂ n split
      exact absurd split.symm (List.append_ne_nil_of_right_ne_nil l₁ (List.cons_ne_nil _ l₂))
    · intro l₁ s q l₂ split
      exact absurd split.symm (List.append_ne_nil_of_right_ne_nil l₁ (List.cons_ne_nil _ l₂))
  waiting awaiting := by
    cases fresh.idle.symm.trans awaiting

/-- In a run from a fresh stage in which nobody fails, and nobody who has yet to reply starts a session, what is
announced of a session and handed out of it is bracketed by its start and its end. -/
theorem bracketed {s : Stage} {ls : List Label} {m : Moment} (fresh : s.Fresh) (run : Run Placid (.initial s) ls m) :
    Bracketed ls where
  announced := by
    rintro l₁ s' h e l₂ n rfl
    have orderly : Scene.Orderly (Scene.asking ⟨s', l₁⟩ (.handle h e)) :=
      Contract.holds_asked brackets.honours fresh.orderly run
    exact orderly.ordered.announced rfl
  handed := by
    rintro l₁ s' q l₂ rfl
    have orderly : Scene.Orderly (Scene.asking ⟨s', l₁⟩ q) := Contract.holds_asked brackets.honours fresh.orderly run
    exact orderly.ordered.handed rfl

/-! ## A session that ends as it starts -/

/-- What handlers have heard of a session. -/
def heard (n : Nat) (ls : List Label) : List EventKind :=
  ls.filterMap fun l =>
    match l with
    | .asked _ (.handle _ e) => if e.session = some n then some e.kind else none
    | _ => none

/-- A stage with an agent who has a line to say, and a handler that hears of everything. -/
def overheard : Stage where
  agents _ := { name := ['a'], dialog := { nodes := [{ lines := [{ text := ['b'] }] }] } }
  bus := some ⟨fun _ => [0]⟩

/-- The stage with the handler is fresh. -/
lemma fresh_overheard : overheard.Fresh :=
  ⟨rfl, rfl, rfl, rfl, rfl, rfl⟩

/-- A session starts, and the handler ends it when it hears of that. -/
def refusal : List Label × Moment :=
  let entered := (Moment.initial overheard).rehearse [.call (.initiate (some 0) none)]
  let refused := entered.2.rehearse [.work, .call .kill, .work, .reply, .work, .reply, .work, .reply, .work]
  (entered.1 ++ refused.1, refused.2)

/-- Nobody fails or starts a session. -/
def Label.isPlacid : Label → Bool
  | .called _ s c => (s.opening? c).isNone
  | .replied _ _ r => r.isOk
  | _ => true

/-- Where nobody fails or starts a session, the surroundings are placid. -/
lemma placid_of_isPlacid (past : List Label) (l : Label) (h : l.isPlacid = true) : Placid past l := by
  cases l with
  | called owed s c => exact fun _ => Option.isNone_iff_eq_none.mp h
  | replied s q r => exact h
  | _ => trivial

/-- Ending the session when it starts is a run with placid surroundings. -/
lemma run_refusal : Run Placid (.initial overheard) refusal.1 refusal.2 := by
  have entered : Run Placid (.initial overheard)
      ((Moment.initial overheard).rehearse [.call (.initiate (some 0) none)]).1 _ :=
    Run.nil.snoc (.enter (.initiate (some 0) none) rfl) fun busy => absurd busy (Int.lt_irrefl 0)
  exact Moment.run_rehearse_after entered (fun _ l _ => placid_of_isPlacid _ l) (by decide +kernel)

/-- That run is bracketed all the same. -/
theorem bracketed_refusal : overheard.Fresh ∧ Run Placid (.initial overheard) refusal.1 refusal.2 ∧
    Bracketed refusal.1 :=
  ⟨fresh_overheard, run_refusal, bracketed fresh_overheard run_refusal⟩

/-- A node may be announced after the end of its session. -/
theorem entered_late : ¬ ∀ s ls m, Stage.Fresh s → Run Placid (.initial s) ls m →
    ∀ n, .dialogEnded ∈ heard n ls → (heard n ls).getLast? = some .dialogEnded := by
  intro last
  have kinds : heard 0 refusal.1 = [.dialogStarted, .dialogEnded, .nodeEntered] := by decide +kernel
  have late := last overheard refusal.1 refusal.2 fresh_overheard run_refusal 0
  rw [kinds] at late
  cases late (by decide)

end Parley
