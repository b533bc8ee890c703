import Parley.Proofs.Session.Calls
import Parley.Proofs.Session.Farewell

/-!
# Announcements

When handlers hear of a session, and when its lines are handed out. What is announced of a session comes between
the announcement of its start and that of its end, and nothing is handed out after its presenter has been closed,
unless the session ends while its start or the very line is being made known.

* `Placed`: where in a run an announcement may come.
* `InTime`: when a line may be handed out.
* `Bracketed`: all announcements are placed, and all lines are in time.
* `brackets`: the contract; `Upholds` says what is known of a scene whatever the surroundings do.
* `Upholds.does_publish`: an event is taken to all its handlers.
-/

namespace Parley

/-- What a request adds to those that are out, and a reply takes away. -/
def Label.weight : Label → Int
  | .asked _ _ => 1
  | .replied _ _ _ => -1
  | _ => 0

/-- How many requests have been asked and not been replied to. -/
def requestsOut (past : List Label) : Int :=
  past.foldl (fun out l => out + l.weight) 0

/-- Somebody has yet to reply to a request. -/
def Busy (past : List Label) : Prop :=
  0 < requestsOut past

/-- Nobody fails, and nobody who has yet to reply to a request starts a session. -/
def Placid : Rule
  | _, .replied _ _ r => r.isOk = true
  | past, .called _ s c => Busy past → s.opening? c = none
  | _, _ => True

/-- A handler has been told something about a session. -/
def Told (n : Nat) (kind : EventKind) (past : List Label) : Prop :=
  ∃ s h e, .asked s (.handle h e) ∈ past ∧ e.session = some n ∧ e.kind = kind

/-- An event that a handler is told of is announced, and not just taken on from another handler. -/
def Announced (past : List Label) (e : Event) : Prop :=
  ∀ s h r, past.getLast? ≠ some (.replied s (.handle h e) r)

/-- The handlers of a kind of event. -/
def Stage.handlers (s : Stage) (kind : EventKind) : List HandlerId :=
  (s.bus.map (·.handlers kind)).getD []

/-- The start of a session was announced before anything else of it, to everybody who was subscribed to that. -/
inductive Heralded (n : Nat) : List Label → Prop
  | intro {before since after : List Label} {owed : Option Request} {s₀ s : Stage} {c : Call} {x : Session}
      {payload : Payload} (opening : s₀.opening? c = some x) (number : x.number = n)
      (quiet : ∀ kind, ¬ Told n kind (before ++ .called owed s₀ c :: since))
      (seen : ∃ l ∈ .called owed s₀ c :: since, ∃ t, l.stage? = some t ∧ t.bus = s.bus)
      (heard : ∀ h ∈ s.handlers .dialogStarted,
        ∃ t, .asked t (.handle h ⟨.dialogStarted, some n, payload⟩) ∈ after) :
      Heralded n (before ++ .called owed s₀ c :: since ++ after)

/-- The session was going on when a request went out, and no more when the reply came. -/
def EndedDuring (n : Nat) (q : Request) (past : List Label) : Prop :=
  ∃ s s' r, List.Sublist [.asked s q, .replied s' q r] past ∧ s.Hosts n ∧ ¬ s'.Hosts n

/-- Somebody is told that a session has started. -/
def Request.Greets (n : Nat) : Request → Prop
  | .observeStart _ k => k = n
  | .handle _ e => e.kind = .dialogStarted ∧ e.session = some n
  | _ => False

/-- A line or a query is handed to a presenter or an observer, or announced of a session. -/
def Request.Delivers (n : Nat) : Request → Prop
  | .show _ _ _ | .observeLine _ _ _ | .query _ _ => True
  | .handle _ e => (e.kind = .lineStarted ∨ e.kind = .queryStarted) ∧ e.session = some n
  | _ => False

/-- A line or a query is handed to a presenter or an observer. -/
def Request.isLine : Request → Bool
  | .show _ _ _ | .observeLine _ _ _ | .query _ _ => true
  | _ => false

/-- Where something may be announced of a session. -/
def Placed (n : Nat) (past : List Label) (s : Stage) : EventKind → Prop
  | .dialogStarted => (s.Hosts n ∧ ∀ kind, ¬ Told n kind past) ∨
    (∀ kind, Told n kind past → kind = .dialogEnded) ∧ ∃ o, EndedDuring n (.observeStart o n) past
  | .nodeEntered => (s.Hosts n ∧ ¬ Told n .dialogEnded past ∧ Heralded n past) ∨
    ∃ q : Request, q.Greets n ∧ EndedDuring n q past
  | .dialogEnded => ¬ s.Hosts n ∧ n < s.started
  | .lineStarted | .queryStarted | .functionCalled => s.Hosts n ∧ ¬ Told n .dialogEnded past ∧ Heralded n past

/-- A line that is handed out is the one that was begun last. Its session is still going on, and its presenter has
not been closed, unless the session ended while the line was made known. -/
def InTime (past : List Label) (s : Stage) : Prop :=
  ∃ before s₀ since x, past = before ++ .began s₀ :: since ∧ (∀ l ∈ since, ¬ l.Begins) ∧ s₀.session = some x ∧
    (s.Hosts x.number ∧ (∀ t p, .asked t (.close p x.number) ∉ past) ∨
      ∃ q : Request, q.Delivers x.number ∧ EndedDuring x.number q since)

/-- All announcements are placed, and all lines are in time. -/
structure Bracketed (ls : List Label) : Prop where
  announced : ∀ {l₁ s h e l₂ n}, ls = l₁ ++ .asked s (.handle h e) :: l₂ → e.session = some n → Announced l₁ e →
    Placed n l₁ s e.kind
  handed : ∀ {l₁ s q l₂}, ls = l₁ ++ .asked s q :: l₂ → q.isLine = true → InTime l₁ s

section Past

variable {n : Nat} {q : Request} {kind : EventKind} {l : Label} {past ls : List Label}

/-- Each label changes the number of requests that are out by its weight. -/
lemma requestsOut_see (x : Scene) (l : Label) : requestsOut (x.see l).past = requestsOut x.past + l.weight := by
  rw [Scene.see, requestsOut, List.foldl_append]
  rfl

/-- What has been told in two parts has been told in one of them. -/
lemma told_append (h : Told n kind (past ++ ls)) : Told n kind past ∨ Told n kind ls := by
  obtain ⟨s, h, e, mem, told⟩ := h
  exact (List.mem_append.mp mem).imp (⟨s, h, e, ·, told⟩) (⟨s, h, e, ·, told⟩)

/-- A session that was announced stays so, whatever is seen next. -/
lemma Heralded.append (h : Heralded n past) : Heralded n (past ++ ls) := by
  cases h with
  | @intro before since after owed s₀ s c x payload opening number quiet seen heard =>
    rw [List.append_assoc]
    have heard' (h : HandlerId) (mem : h ∈ s.handlers .dialogStarted) :
        ∃ t, .asked t (.handle h ⟨.dialogStarted, some n, payload⟩) ∈ after ++ ls := by
      obtain ⟨t, mem⟩ := heard h mem
      exact ⟨t, List.mem_append_left _ mem⟩
    exact .intro opening number quiet seen heard'

/-- A session that ended during a request has ended, whatever is seen next. -/
lemma EndedDuring.append (h : EndedDuring n q past) : EndedDuring n q (past ++ ls) := by
  obtain ⟨s, s', r, sublist, ended⟩ := h
  exact ⟨s, s', r, sublist.trans (List.sublist_append_left past ls), ended⟩

/-- A session that ended during a request has ended, whatever was seen before. -/
lemma EndedDuring.append_left (h : EndedDuring n q ls) : EndedDuring n q (past ++ ls) := by
  obtain ⟨s, s', r, sublist, ended⟩ := h
  exact ⟨s, s', r, sublist.trans (List.sublist_append_right past ls), ended⟩

end Past

/-! ## The contract -/

/-- A handler is told something about a session other than its end. -/
def Label.Strays : Label → Prop
  | .asked _ (.handle _ e) => e.session ≠ none ∧ e.kind ≠ .dialogEnded
  | _ => False

/-- The session that is going on has been announced. -/
def Scene.Heralds (x : Scene) : Prop :=
  ∀ n, x.stage.Hosts n → Heralded n x.past

/-- What the surroundings and the stage both leave as it is. -/
structure Scene.Lasts (x y : Scene) : Prop where
  out : requestsOut y.past = requestsOut x.past
  started : x.stage.started ≤ y.stage.started
  inRun : x.stage.inRun = true → y.stage.inRun = true
  since : ∃ ls, y.past = x.past ++ ls ∧ (x.stage.inRun = true → ∀ l ∈ ls, ¬ l.Begins) ∧
    (y.stage.bus = x.stage.bus ∨ ∃ l ∈ ls, ∃ t, l.stage? = some t ∧ t.bus = y.stage.bus)

/-- No other session has taken the place of the one that is going on. -/
def Scene.Shrinks (x y : Scene) : Prop :=
  ∀ n, y.stage.Hosts n → x.stage.Hosts n

/-- A session that does not wait does not begin to, and handlers only hear of its end. -/
def Scene.Lulls (x y : Scene) : Prop :=
  x.stage.phase ≠ .awaiting → y.stage.phase ≠ .awaiting ∧ ∃ ls, y.past = x.past ++ ls ∧ ∀ l ∈ ls, ¬ l.Strays

section Scenes

variable {x y z : Scene}

/-- A scene lasts as it is. -/
lemma Scene.Lasts.refl (x : Scene) : x.Lasts x :=
  ⟨rfl, Nat.le_refl _, id, [], (List.append_nil _).symm, fun _ _ mem => absurd mem List.not_mem_nil, .inl rfl⟩

/-- A scene lasts over one visit after another. -/
lemma Scene.Lasts.trans (h : x.Lasts y) (h' : y.Lasts z) : x.Lasts z := by
  obtain ⟨ls, past, quiet, bus⟩ := h.since
  obtain ⟨ls', past', quiet', bus'⟩ := h'.since
  refine ⟨h'.out.trans h.out, Nat.le_trans h.started h'.started, h'.inRun ∘ h.inRun, ls ++ ls', ?_, ?_, ?_⟩
  · rw [past', past, List.append_assoc]
  · intro inRun l mem
    exact (List.mem_append.mp mem).elim (quiet inRun l) (quiet' (h.inRun inRun) l)
  · rcases bus' with same' | ⟨l, mem, seen⟩
    · rcases bus with same | ⟨l, mem, t, stage, same⟩
      · exact .inl (same'.trans same)
      · exact .inr ⟨l, List.mem_append_left _ mem, t, stage, same.trans same'.symm⟩
    · exact .inr ⟨l, List.mem_append_right _ mem, seen⟩

/-- A session that no other has replaced twice has been replaced by none. -/
lemma Scene.Shrinks.trans (h : x.Shrinks y) (h' : y.Shrinks z) : x.Shrinks z :=
  fun n hosts => h n (h' n hosts)

/-- It is quiet as long as nothing is seen. -/
lemma Scene.Lulls.refl (x : Scene) : x.Lulls x :=
  fun still => ⟨still, [], (List.append_nil _).symm, fun _ mem => absurd mem List.not_mem_nil⟩

/-- It is quiet over two quiet visits. -/
lemma Scene.Lulls.trans (h : x.Lulls y) (h' : y.Lulls z) : x.Lulls z := by
  intro still
  obtain ⟨still', ls, past, quiet⟩ := h still
  obtain ⟨still'', ls', past', quiet'⟩ := h' still'
  refine ⟨still'', ls ++ ls', ?_, fun l mem => ?_⟩
  · rw [past', past, List.append_assoc]
  · exact (List.mem_append.mp mem).elim (quiet l) (quiet' l)

/-- Those who have yet to reply still have to after a visit. -/
lemma Scene.Lasts.busy (h : x.Lasts y) (busy : Busy x.past) : Busy y.past := by
  unfold Busy
  rw [h.out]
  exact busy

/-- A scene lasts over a label that is no request or reply, and begins no line inside the loop. -/
lemma Scene.Lasts.see {l : Label} (h : x.Lasts y) (weight : l.weight = 0)
    (quiet : x.stage.inRun = true → ¬ l.Begins) : x.Lasts (y.see l) := by
  obtain ⟨ls, past, hushed, bus⟩ := h.since
  refine ⟨?_, h.started, h.inRun, ls ++ [l], ?_, fun inRun l' mem => ?_, ?_⟩
  · rw [requestsOut_see, weight, Int.add_zero, h.out]
  · rw [Scene.see, past, List.append_assoc]
  · rcases List.mem_append.mp mem with mem | mem
    · exact hushed inRun l' mem
    · rw [List.mem_singleton.mp mem]
      exact quiet inRun
  · exact bus.imp id fun ⟨l', mem, seen⟩ => ⟨l', List.mem_append_left _ mem, seen⟩

/-- A scene lasts over a change of the stage that keeps its bus and the loop. -/
lemma Scene.Lasts.on {s : Stage} (h : x.Lasts y) (started : y.stage.started ≤ s.started)
    (inRun : x.stage.inRun = true → s.inRun = true) (bus : s.bus = y.stage.bus) : x.Lasts (y.on s) := by
  obtain ⟨ls, past, hushed, bus'⟩ := h.since
  refine ⟨h.out, Nat.le_trans h.started started, inRun, ls, past, hushed, ?_⟩
  rcases bus' with same | ⟨l, mem, t, stage, same⟩
  · exact .inl (bus.trans same)
  · exact .inr ⟨l, mem, t, stage, same.trans bus.symm⟩

/-- Whatever has become of the bus can be seen from the last label. -/
lemma Scene.Lasts.showing {s : Stage} {l : Label} (h : x.Lasts y) (started : y.stage.started ≤ s.started)
    (inRun : x.stage.inRun = true → s.inRun = true) (weight : l.weight = 0) (quiet : x.stage.inRun = true → ¬ l.Begins)
    (stage : l.stage? = some s) : x.Lasts ((y.on s).see l) := by
  obtain ⟨ls, past, hushed, -⟩ := h.since
  refine ⟨?_, Nat.le_trans h.started started, inRun, ls ++ [l], ?_, fun inRun l' mem => ?_, .inr ⟨l, ?_, s, stage, rfl⟩⟩
  · rw [requestsOut_see, weight, Int.add_zero]
    exact h.out
  · rw [Scene.see, Scene.on, past, List.append_assoc]
  · rcases List.mem_append.mp mem with mem | mem
    · exact hushed inRun l' mem
    · rw [List.mem_singleton.mp mem]
      exact quiet inRun
  · exact List.mem_append_right _ (List.mem_singleton_self _)

/-- It stays quiet when a label is seen that does not stray. -/
lemma Scene.Lulls.see {l : Label} (h : x.Lulls y) (quiet : x.stage.phase ≠ .awaiting → ¬ l.Strays) :
    x.Lulls (y.see l) := by
  intro still
  obtain ⟨still', ls, past, hushed⟩ := h still
  refine ⟨still', ls ++ [l], by rw [Scene.see, past, List.append_assoc], fun l' mem => ?_⟩
  rcases List.mem_append.mp mem with mem | mem
  · exact hushed l' mem
  · rw [List.mem_singleton.mp mem]
    exact quiet still

/-- It stays quiet when the stage changes and does not begin to wait. -/
lemma Scene.Lulls.on {s : Stage} (h : x.Lulls y) (still : y.stage.phase ≠ .awaiting → s.phase ≠ .awaiting) :
    x.Lulls (y.on s) :=
  fun still' => ⟨still (h still').1, (h still').2⟩

end Scenes

/-- Everything that has been seen is bracketed, and what has ended stays so. -/
structure Scene.Orderly (x : Scene) : Prop where
  sound : x.stage.Sound
  out : 0 ≤ requestsOut x.past
  told : ∀ n kind, Told n kind x.past → n < x.stage.started
  ended : ∀ n s q, .asked s q ∈ x.past → q.ends n = true → n < x.stage.started ∧ ¬ x.stage.Hosts n
  ordered : Bracketed x.past
  waiting : x.stage.phase = .awaiting → x.Heralds

/-- What is left behind when a call has been worked on, or a line. -/
structure Scene.Parts (x y : Scene) : Prop where
  before : x.Orderly
  orderly : y.Orderly
  lasts : x.Lasts y
  wanes : Busy x.past → x.Shrinks y ∧ x.Lulls y
  heralds : x.stage.phase ≠ .running → y.Heralds

/-- Announcements are placed and lines are in time. -/
def brackets : Contract where
  rule := Placid
  holds := Scene.Orderly
  visit x y := x.Lasts y ∧ (Busy x.past → x.Shrinks y ∧ x.Lulls y)
  running x y := x.Parts y ∧ y.stage.inRun = true ∧ x.stage.inRun = false ∧ x.stage.phase ≠ .running
  visit_refl x := ⟨.refl x, fun _ => ⟨fun _ => id, .refl x⟩⟩
  visit_trans := by
    rintro x y z ⟨lasts, wanes⟩ ⟨lasts', wanes'⟩
    refine ⟨lasts.trans lasts', fun busy => ?_⟩
    obtain ⟨shrinks, lulls⟩ := wanes busy
    obtain ⟨shrinks', lulls'⟩ := wanes' (lasts.busy busy)
    exact ⟨shrinks.trans shrinks', lulls.trans lulls'⟩

namespace brackets

open Play

variable {x y z : Scene} {n : Nat}

/-- The stage may change, if its session is the one there was, or a new one. -/
lemma orderly_on {s : Stage} (h : x.Orderly) (sound : s.Sound) (started : x.stage.started ≤ s.started)
    (hosts : ∀ n, s.Hosts n → x.stage.Hosts n ∨ x.stage.started ≤ n)
    (waiting : s.phase = .awaiting → (x.on s).Heralds) : (x.on s).Orderly where
  sound := sound
  out := h.out
  told n kind told := Nat.lt_of_lt_of_le (h.told n kind told) started
  ended n t q mem ends := by
    obtain ⟨born, gone⟩ := h.ended n t q mem ends
    refine ⟨Nat.lt_of_lt_of_le born started, fun there => ?_⟩
    exact (hosts n there).elim gone (Nat.not_le.mpr born)
  ordered := h.ordered
  waiting := waiting

/-- A request may be asked. -/
structure Proper (x : Scene) (q : Request) : Prop where
  announced : ∀ {h e n}, q = .handle h e → e.session = some n →
    n < x.stage.started ∧ (Announced x.past e → Placed n x.past x.stage e.kind)
  ended : ∀ n, q.ends n = true → n < x.stage.started ∧ ¬ x.stage.Hosts n
  handed : q.isLine = true → InTime x.past x.stage

/-- A request that is part of no announcement, and hands out nothing. -/
lemma proper_plain {q : Request} (h : ∀ h e, q ≠ .handle h e) (ends : ∀ n, q.ends n = false) (other : q.isLine = false) :
    Proper x q where
  announced e := absurd e (h _ _)
  ended n e := by
    rw [ends n] at e
    cases e
  handed e := by
    rw [other] at e
    cases e

/-- More may be seen, if it is no request. -/
lemma orderly_see {l : Label} (h : x.Orderly) (out : 0 ≤ requestsOut (x.see l).past)
    (other : ∀ s q, l ≠ .asked s q) : (x.see l).Orderly where
  sound := h.sound
  out := out
  told n kind told := by
    rcases told_append told with told | ⟨s, g, e, mem, -⟩
    · exact h.told n kind told
    · exact absurd (List.mem_singleton.mp mem).symm (other _ _)
  ended n s q mem ends := by
    rcases List.mem_append.mp mem with mem | mem
    · exact h.ended n s q mem ends
    · exact absurd (List.mem_singleton.mp mem).symm (other _ _)
  ordered := by
    constructor
    · intro l₁ s g e l₂ n split
      rcases append_singleton_split split with ⟨-, -, last⟩ | ⟨l₃, -, front⟩
      · exact absurd last (other _ _)
      · exact h.ordered.announced front
    · intro l₁ s q l₂ split
      rcases append_singleton_split split with ⟨-, -, last⟩ | ⟨l₃, -, front⟩
      · exact absurd last (other _ _)
      · exact h.ordered.handed front
  waiting awaiting n hosts := (h.waiting awaiting n hosts).append

/-- A request may go out if it is proper. -/
lemma orderly_asking {q : Request} (h : x.Orderly) (proper : Proper x q) : (x.asking q).Orderly where
  sound := h.sound
  out := by
    rw [Scene.asking, requestsOut_see]
    exact Int.add_nonneg h.out Int.one_nonneg
  told n kind told := by
    rcases told_append told with told | ⟨s, g, e, mem, session, -⟩
    · exact h.told n kind told
    · cases List.mem_singleton.mp mem
      exact (proper.announced rfl session).1
  ended n s q' mem ends := by
    rcases List.mem_append.mp mem with mem | mem
    · exact h.ended n s q' mem ends
    · cases List.mem_singleton.mp mem
      exact proper.ended n ends
  ordered := by
    constructor
    · intro l₁ s g e l₂ n split session announced
      rcases append_singleton_split split with ⟨-, rfl, last⟩ | ⟨l₃, -, front⟩
      · cases last
        exact (proper.announced rfl session).2 announced
      · exact h.ordered.announced front session announced
    · intro l₁ s q' l₂ split line
      rcases append_singleton_split split with ⟨-, rfl, last⟩ | ⟨l₃, -, front⟩
      · cases last
        exact proper.handed line
      · exact h.ordered.handed front line
  waiting awaiting n hosts := (h.waiting awaiting n hosts).append

/-- A handler ends a session only by being told that it has ended. -/
lemma handle_ends {h : HandlerId} {e : Event} (ends : (Request.handle h e).ends n = true) :
    e.kind = .dialogEnded ∧ e.session = some n := by
  obtain ⟨kind, session⟩ := Bool.and_eq_true_iff.mp ends
  exact ⟨beq_iff_eq.mp kind, beq_iff_eq.mp session⟩

/-- What is known stays known as long as the session is not replaced. If it has to be calm, handlers hear only of
the end of the session. -/
structure Upholds (calm : Prop) (P : Scene → Prop) : Prop where
  orderly : ∀ {x}, P x → x.Orderly
  stays : ∀ {x y}, P x → y.Orderly → x.Lasts y → x.Shrinks y → (calm → x.Lulls y) → P y

section Upholds

variable {calm : Prop} {P : Scene → Prop} (u : Upholds calm P)

include u

/-- What is upheld may be seen more, but for requests, replies, lines that begin, and what strays. -/
lemma Upholds.see {l : Label} (known : P x) (weight : l.weight = 0) (other : ∀ s q, l ≠ .asked s q)
    (quiet : ¬ l.Begins) (calmly : ¬ l.Strays) : P (x.see l) := by
  have orderly := u.orderly known
  have out : 0 ≤ requestsOut (x.see l).past := by
    rw [requestsOut_see, weight, Int.add_zero]
    exact orderly.out
  exact u.stays known (orderly_see orderly out other) ((Scene.Lasts.refl x).see weight fun _ => quiet)
    (fun _ => id) fun _ => (Scene.Lulls.refl x).see fun _ => calmly

/-- What is upheld may be reported of. -/
lemma Upholds.tells (notice : Notice) : Contract.Tells P notice :=
  fun _ known => u.see known rfl (fun _ _ => Label.noConfusion) id id

/-- A change that has no part in the session. -/
lemma Upholds.changes {f : Stage → Stage} (alike : ∀ s : Stage, s.Alike (f s)) (phase : ∀ s, (f s).phase = s.phase)
    (inRun : ∀ s, (f s).inRun = s.inRun) (bus : ∀ s, (f s).bus = s.bus) : Contract.Changes P f := by
  intro x known
  have orderly := u.orderly known
  have same (n : Nat) : (f x.stage).Hosts n → x.stage.Hosts n := (alike x.stage).number.symm.trans
  refine u.stays known (orderly_on orderly (orderly.sound.alike (alike x.stage)) ?_ (fun n => .inl ∘ same n) ?_) ?_ same ?_
  · exact Nat.le_of_eq (alike x.stage).started.symm
  · exact fun awaiting n hosts => orderly.waiting ((phase x.stage).symm.trans awaiting) n (same n hosts)
  · exact (Scene.Lasts.refl x).on (Nat.le_of_eq (alike x.stage).started.symm) (inRun x.stage).trans (bus x.stage)
  · exact fun _ => (Scene.Lulls.refl x).on fun still => (phase x.stage).trans_ne still

/-- A request that is proper is asked, and the surroundings do what they like before they reply. -/
lemma Upholds.visited {q : Request} (known : P x) (proper : Proper x q) (calmly : calm → ¬ (Label.asked x.stage q).Strays)
    {r : Except Fault (Reply q)} (back : brackets.Back q (x.asking q) y) :
    P (y.replying q r) ∧ ∃ ls, y.past = (x.asking q).past ++ ls := by
  have orderly := u.orderly known
  have asking := orderly_asking orderly proper
  obtain ⟨orderly', lasts, wanes⟩ := back.follows asking
  have out : requestsOut (x.asking q).past = requestsOut x.past + 1 := requestsOut_see x _
  have busy : Busy (x.asking q).past := by
    unfold Busy
    rw [out]
    exact Int.lt_add_one_of_le orderly.out
  obtain ⟨shrinks, lulls⟩ := wanes busy
  obtain ⟨ls, past, quiet, -⟩ := lasts.since
  -- The visit leaves as many requests out as it found, and the reply takes back the one that was asked.
  have replied : requestsOut (y.replying q r).past = requestsOut x.past := by
    rw [Scene.replying, requestsOut_see, lasts.out, out]
    exact Int.add_neg_cancel_right _ 1
  refine ⟨u.stays known (orderly_see orderly' ?_ fun _ _ => Label.noConfusion) ?_ shrinks ?_, ls, past⟩
  · rw [← Scene.replying, replied]
    exact orderly.out
  · refine ⟨replied, lasts.started, lasts.inRun, .asked x.stage q :: (ls ++ [.replied y.stage q r]), ?_, ?_, ?_⟩
    · rw [Scene.replying, Scene.see, past, Scene.asking, Scene.see]
      simp only [List.append_assoc, List.cons_append, List.nil_append]
    · intro inRun l mem
      rcases List.mem_cons.mp mem with rfl | mem
      · exact id
      · rcases List.mem_append.mp mem with mem | mem
        · exact quiet inRun l mem
        · rw [List.mem_singleton.mp mem]
          exact id
    · refine .inr ⟨.replied y.stage q r, ?_, y.stage, rfl, rfl⟩
      exact List.mem_cons_of_mem _ (List.mem_append_right _ (List.mem_singleton_self _))
  · intro calm
    have asked : x.Lulls (x.asking q) := (Scene.Lulls.refl x).see fun _ => calmly calm
    exact (asked.trans lulls).see fun _ => id

/-- What is upheld carries over a built-in function. -/
lemma Upholds.builtIn (name parameter : Text) : Contract.Changes P fun s => (s.callBuiltIn name parameter).2 := by
  refine u.changes (fun s => ?_) (fun s => ?_) (fun s => ?_) fun s => ?_
  all_goals obtain ⟨vars, agents, e⟩ := s.callBuiltIn_eq name parameter
  all_goals rw [e]
  exact ⟨.rfl, rfl, rfl⟩

/-- What is upheld carries over a proper request and its reply. -/
lemma Upholds.asks {q : Request} (proper : ∀ x, P x → Proper x q)
    (calmly : ∀ s, calm → ¬ (Label.asked s q).Strays) : brackets.Asks P P q := by
  intro x known
  refine ⟨orderly_asking (u.orderly known) (proper x known), fun y r back _ => ?_⟩
  exact (u.visited known (proper x known) (calmly x.stage) back).1

/-- What is upheld carries over a request that has nothing to do with events, ends or lines. -/
lemma Upholds.asks_plain {q : Request} (h : ∀ h e, q ≠ .handle h e) (ends : ∀ n, q.ends n = false)
    (other : q.isLine = false) : brackets.Asks P P q := by
  refine u.asks (fun _ _ => proper_plain h ends other) fun s _ strays => ?_
  cases q with
  | handle g e => exact h g e rfl
  | _ => exact strays

/-! ## The end of a session -/

/-- A session is over. -/
def Gone (n : Nat) (x : Scene) : Prop :=
  n < x.stage.started ∧ ¬ x.stage.Hosts n

/-- That a session is over is upheld too. -/
lemma Upholds.gone : Upholds calm fun x => P x ∧ Gone n x where
  orderly known := u.orderly known.1
  stays known orderly lasts shrinks lulls := by
    obtain ⟨known, born, gone⟩ := known
    exact ⟨u.stays known orderly lasts shrinks lulls, Nat.lt_of_lt_of_le born lasts.started, gone ∘ shrinks _⟩

/-- What is upheld carries over a request that makes known the end of a session that is over. -/
lemma Upholds.asks_ending {q : Request} (ends : q.ends n = true) (other : q.isLine = false) :
    brackets.Asks (fun x => P x ∧ Gone n x) (fun x => P x ∧ Gone n x) q := by
  refine (u.gone (n := n)).asks (fun x known => ⟨?_, fun m ends' => ?_, fun line => ?_⟩) fun s _ strays => ?_
  · rintro h e m rfl session
    obtain ⟨kind, session'⟩ := handle_ends ends
    obtain rfl := Option.some.inj (session'.symm.trans session)
    rw [kind]
    exact ⟨known.2.1, fun _ => ⟨known.2.2, known.2.1⟩⟩
  · rw [Request.ends_unique ends ends']
    exact known.2
  · rw [other] at line
    cases line
  · cases q with
    | handle h e => exact strays.2 (handle_ends ends).1
    | _ => exact strays

/-- What is upheld carries over the teardown of a session that is over. -/
lemma Upholds.carries_tearDown (s : Session) : (tearDown s).Carries brackets (fun x => P x ∧ Gone s.number x)
    fun x => P x ∧ Gone s.number x := by
  refine Play.carries_tearDown u.gone.tells ?_ ?_ ?_ ?_
  · exact fun p => u.asks_ending (beq_self_eq_true _) rfl
  · exact fun o => u.asks_ending (beq_self_eq_true _) rfl
  · exact fun h e kind session => u.asks_ending (by simp [Request.ends, kind, session]) rfl
  · exact fun c _ => u.asks_ending (beq_self_eq_true _) rfl

/-- The session is over before anybody is told. -/
lemma Upholds.carries_endSession : endSession.Carries brackets P P := by
  intro x known
  refine does_endSession known fun s session => ?_
  have orderly := u.orderly known
  have hostless (n : Nat) : ¬ x.stage.ended.Hosts n := by rintro ⟨⟩
  have ended : (x.on x.stage.ended).Orderly :=
    orderly_on orderly x.stage.sound_ended (Nat.le_refl _) (fun n hosts => absurd hosts (hostless n))
      fun _ n hosts => absurd hosts (hostless n)
  have known : P (x.on x.stage.ended) := by
    refine u.stays known ended ((Scene.Lasts.refl x).on (Nat.le_refl _) id rfl)
      (fun n hosts => absurd hosts (hostless n)) ?_
    exact fun _ => (Scene.Lulls.refl x).on fun _ => Phase.noConfusion
  have gone : Gone s.number (x.on x.stage.ended) := ⟨orderly.sound.numbered s session, hostless _⟩
  exact (u.carries_tearDown s _ ⟨known, gone⟩).mono fun _ _ known => known.1

end Upholds

/-! ## Announcements -/

/-- A session is going on, or it has ended during one of certain requests. -/
def Kept (base : List Label) (n : Nat) (Q : Request → Prop) (x : Scene) : Prop :=
  ∃ since, x.past = base ++ since ∧ (x.stage.Hosts n ∨ ∃ q, Q q ∧ EndedDuring n q since)

section Kept

variable {base : List Label} {Q : Request → Prop} {P : Scene → Prop}

/-- A session that is kept stays so when more is seen. -/
lemma Kept.see (h : Kept base n Q x) (l : Label) : Kept base n Q (x.see l) := by
  obtain ⟨since, past, kept⟩ := h
  refine ⟨since ++ [l], by rw [Scene.see, past, List.append_assoc], kept.imp id ?_⟩
  rintro ⟨q, among, ended⟩
  exact ⟨q, among, ended.append⟩

/-- During a request the session goes on, or it ends. -/
lemma Kept.replying {q : Request} {r : Except Fault (Reply q)} {ls : List Label} (h : Kept base n Q x) (among : Q q)
    (past : y.past = (x.asking q).past ++ ls) : Kept base n Q (y.replying q r) := by
  obtain ⟨since, before, kept⟩ := h
  refine ⟨since ++ .asked x.stage q :: (ls ++ [.replied y.stage q r]), ?_, ?_⟩
  · rw [Scene.replying, Scene.see, past, Scene.asking, Scene.see, before]
    simp only [List.append_assoc, List.cons_append, List.nil_append]
  · rcases kept with hosts | ⟨q', among', ended⟩
    · by_cases still : y.stage.Hosts n
      · exact .inl still
      · have sublist : List.Sublist [.asked x.stage q, .replied y.stage q r]
            (since ++ .asked x.stage q :: (ls ++ [.replied y.stage q r])) :=
          ((List.sublist_append_right ls _).cons_cons _).trans (List.sublist_append_right since _)
        exact .inr ⟨q, among, x.stage, y.stage, r, sublist, hosts, still⟩
    · exact .inr ⟨q', among', ended.append⟩

/-- A session is kept over a request among those during which it may end. -/
lemma Upholds.asks_kept {calm : Prop} (u : Upholds calm P) {q : Request} (among : Q q)
    (proper : ∀ x, P x → Kept base n Q x → Proper x q) (calmly : ∀ s, calm → ¬ (Label.asked s q).Strays) :
    brackets.Asks (fun x => P x ∧ Kept base n Q x) (fun x => P x ∧ Kept base n Q x) q := by
  rintro x ⟨known, kept⟩
  have proper := proper x known kept
  refine ⟨orderly_asking (u.orderly known) proper, fun y r back _ => ?_⟩
  obtain ⟨known', ls, past'⟩ := u.visited (r := r) known proper (calmly x.stage) back
  exact ⟨known', kept.replying among past'⟩

/-- What is known when an event is taken to the next handler. -/
structure Airs (P : Scene → Prop) (base : List Label) (Q : Request → Prop) (e : Event) (n : Nat) (x : Scene) : Prop where
  known : P x
  kept : Kept base n Q x
  born : n < x.stage.started
  placed : Announced x.past e → Placed n x.past x.stage e.kind

variable {e : Event}

/-- An event is taken to a handler, and may then be taken to the next. -/
lemma Upholds.does_notify (u : Upholds False P) (session : e.session = some n) (lasts : e.kind ≠ .dialogEnded)
    {h : HandlerId} (among : Q (.handle h e)) (airs : Airs P base Q e n x) :
    (notify e h).Does brackets x fun y r => (Airs P base Q e n y ∧
      ∃ ls, y.past = x.past ++ ls ∧ ∃ t, .asked t (.handle h e) ∈ ls) ∧ r.isOk = true := by
  have ends (m : Nat) : (Request.handle h e).ends m = false := by simp [Request.ends, lasts]
  have proper : Proper x (.handle h e) := by
    refine ⟨?_, fun m ended => absurd ended (by rw [ends m]; decide), fun line => by cases line⟩
    rintro _ _ m ⟨⟩ session'
    obtain rfl := Option.some.inj (session.symm.trans session')
    exact ⟨airs.born, airs.placed⟩
  have v : Upholds False fun y => P y ∧ n < y.stage.started :=
    ⟨fun known => u.orderly known.1, fun known orderly lasts shrinks lulls =>
      ⟨u.stays known.1 orderly lasts shrinks lulls, Nat.lt_of_lt_of_le known.2 lasts.started⟩⟩
  refine does_bind.mpr (does_attempt.mpr ⟨orderly_asking (u.orderly airs.known) proper, fun y r back gives => ?_⟩)
  obtain ⟨⟨known, born⟩, ls, past⟩ := v.visited (r := r) ⟨airs.known, airs.born⟩ proper False.elim back
  have kept := airs.kept.replying (r := r) among past
  cases r with
  | error f => cases gives
  | ok _ =>
    -- The last that has been seen is the reply of this handler, so the next one is not the first.
    have taken : ¬ Announced (y.replying (.handle h e) (.ok ())).past e :=
      fun announced => announced y.stage h (.ok ()) List.getLast?_concat
    refine ⟨⟨⟨known, kept, born, fun announced => absurd announced taken⟩, ?_⟩, rfl⟩
    refine ⟨.asked x.stage (.handle h e) :: (ls ++ [.replied y.stage (.handle h e) (.ok ())]), ?_, x.stage, ?_⟩
    · change y.past ++ _ = _
      rw [past, Scene.asking, Scene.see]
      simp only [List.append_assoc, List.cons_append, List.nil_append]
    · exact List.mem_cons_self

/-- An event is taken to everybody who is subscribed to it. -/
lemma Upholds.does_publish (u : Upholds False P) (session : e.session = some n) (lasts : e.kind ≠ .dialogEnded)
    (among : ∀ h, Q (.handle h e)) (airs : Airs P base Q e n x) :
    (publish e).Does brackets x fun y r => (Airs P base Q e n y ∧
      ∃ ls, y.past = x.past ++ ls ∧ ∀ h ∈ x.stage.handlers e.kind, ∃ t, .asked t (.handle h e) ∈ ls) ∧ r.isOk = true := by
  have taken (hs : List HandlerId) : (each (notify e) hs).Does brackets x fun y r => (Airs P base Q e n y ∧
      ∃ ls, y.past = x.past ++ ls ∧ ∀ h ∈ hs, ∃ t, .asked t (.handle h e) ∈ ls) ∧ r.isOk = true := by
    induction hs generalizing x with
    | nil => exact ⟨⟨airs, [], (List.append_nil _).symm, fun _ mem => absurd mem List.not_mem_nil⟩, rfl⟩
    | cons h hs ih =>
      refine does_bind.mpr ((u.does_notify session lasts (among h) airs).mono ?_)
      rintro y r ⟨⟨airs, ls, past, told⟩, gives⟩
      cases r with
      | error f => cases gives
      | ok _ =>
        refine (ih airs).mono ?_
        rintro z r ⟨⟨airs, ls', past', heard⟩, gives⟩
        refine ⟨⟨airs, ls ++ ls', by rw [past', past, List.append_assoc], fun g mem => ?_⟩, gives⟩
        rcases List.mem_cons.mp mem with rfl | mem
        · obtain ⟨t, mem⟩ := told
          exact ⟨t, List.mem_append_left _ mem⟩
        · obtain ⟨t, mem⟩ := heard g mem
          exact ⟨t, List.mem_append_right _ mem⟩
  refine does_bind.mpr (does_get.mpr ?_)
  unfold Stage.handlers
  simp only [Then]
  cases found : x.stage.bus with
  | none => exact ⟨⟨airs, [], (List.append_nil _).symm, fun _ mem => absurd mem List.not_mem_nil⟩, rfl⟩
  | some bus => exact taken (bus.handlers e.kind)

end Kept

end brackets

end Parley
