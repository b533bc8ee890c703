import Parley.Proofs.Session.Dispatch
import Parley.Proofs.Session.Rest

/-!
# Subscriptions

Whom an event is taken to.

* `inForce`: the subscriptions of all that has been seen that are still in force.
* `registers`: the contract. The handlers on the bus are those whose subscriptions are in force.

`publish_isolated` closes the file: an event that is published is taken to them, each of them once and in order,
whatever they do.
-/

namespace Parley

/-! ## Subscriptions in force -/

/-- The handler that is subscribed to a kind of event. -/
def Adjustment.enrols? (kind : EventKind) : Adjustment → Option HandlerId
  | .subscribe k h => if k = kind then some h else none
  | _ => none

/-- The subscription of a handler to a kind of event ends. -/
def Adjustment.drops (kind : EventKind) (h : HandlerId) : Adjustment → Bool
  | .unsubscribe k g => k == kind && g == h
  | .clearHandlers k => k.all (· == kind)
  | _ => false

/-- The change that a call makes. -/
def Label.change? : Label → Option Adjustment
  | .called _ _ (.adjust change) => some change
  | _ => none

/-- The handlers whose subscriptions to a kind of event are in force after some changes, in the order of these
subscriptions: nothing that came later has ended them. A handler that is subscribed once more keeps its place. -/
def remaining (kind : EventKind) : List Adjustment → List HandlerId
  | [] => []
  | a :: as =>
    match a.enrols? kind with
    | some h => if as.any (·.drops kind h) then remaining kind as else h :: (remaining kind as).filter (· ≠ h)
    | none => remaining kind as

/-- The handlers whose subscriptions are in force after all that has been seen. -/
def inForce (kind : EventKind) (ls : List Label) : List HandlerId :=
  remaining kind (ls.filterMap Label.change?)

/-- The handlers of a kind of event after one more change. -/
def Adjustment.apply (a : Adjustment) (kind : EventKind) (hs : List HandlerId) : List HandlerId :=
  let kept := hs.filter (!a.drops kind ·)
  match a.enrols? kind with
  | some h => if h ∈ kept then kept else kept ++ [h]
  | none => kept

section InForce

variable {kind : EventKind} {a : Adjustment} {as : List Adjustment} {h : HandlerId} {hs : List HandlerId} {l : Label}
  {ls : List Label} {s : Stage} {b : Bus}

/-- No handler is in force twice. -/
lemma nodup_remaining (kind : EventKind) (as : List Adjustment) : (remaining kind as).Nodup := by
  induction as with
  | nil => exact List.nodup_nil
  | cons a as ih =>
    unfold remaining
    split
    · split
      · exact ih
      · exact List.nodup_cons.mpr ⟨by simp, ih.filter _⟩
    · exact ih

/-- What subscribes a handler ends no subscription. -/
lemma drops_of_enrols (enrols : a.enrols? kind = some h) (g : HandlerId) : a.drops kind g = false := by
  cases a with
  | subscribe k g' => rfl
  | _ => cases enrols

/-- A subscription adds the handler at the end, unless it is there. -/
lemma apply_of_enrols (enrols : a.enrols? kind = some h) : a.apply kind hs = if h ∈ hs then hs else hs ++ [h] := by
  have kept : hs.filter (!a.drops kind ·) = hs :=
    List.filter_eq_self.mpr fun g _ => by rw [drops_of_enrols enrols, Bool.not_false]
  rw [Adjustment.apply, enrols, kept]

/-- A change that subscribes nobody takes away those that it drops. -/
lemma apply_of_other (other : a.enrols? kind = none) : a.apply kind hs = hs.filter (!a.drops kind ·) := by
  rw [Adjustment.apply, other]

/-- A change that subscribes and drops nobody leaves the handlers. -/
lemma apply_of_neither (other : a.enrols? kind = none) (kept : ∀ h, a.drops kind h = false) : a.apply kind hs = hs := by
  rw [apply_of_other other]
  exact List.filter_eq_self.mpr fun h _ => by rw [kept h, Bool.not_false]

/-- A handler keeps its place whatever is changed, unless its own subscription ends. -/
lemma apply_cons (kept : a.drops kind h = false) :
    a.apply kind (h :: hs.filter (· ≠ h)) = h :: (a.apply kind hs).filter (· ≠ h) := by
  cases enrols : a.enrols? kind with
  | none =>
    rw [apply_of_other enrols, apply_of_other enrols, List.filter_cons_of_pos (by simp [kept]), List.filter_filter,
      List.filter_filter]
    exact congrArg (h :: ·) (List.filter_congr fun g _ => Bool.and_comm _ _)
  | some g =>
    rw [apply_of_enrols enrols, apply_of_enrols enrols]
    by_cases same : g = h
    · subst same
      rw [if_pos List.mem_cons_self]
      split
      · rfl
      · simp
    · by_cases there : g ∈ hs
      · rw [if_pos there, if_pos (by simp [there, same])]
      · rw [if_neg there, if_neg (by simp [there, same])]
        simp [same]

/-- One more change does to the subscriptions in force what it does to the handlers. -/
lemma remaining_concat (as : List Adjustment) : remaining kind (as ++ [a]) = a.apply kind (remaining kind as) := by
  induction as with
  | nil =>
    cases enrols : a.enrols? kind with
    | none => simp [remaining, enrols, apply_of_other enrols]
    | some h => simp [remaining, enrols, apply_of_enrols enrols]
  | cons a' as ih =>
    rw [List.cons_append]
    cases enrols : a'.enrols? kind with
    | none => simp only [remaining, enrols, ih]
    | some h =>
      simp only [remaining, enrols, List.any_append, List.any_cons, List.any_nil, Bool.or_false, ih]
      cases dropped : as.any (·.drops kind h) with
      | true => rfl
      | false =>
        rw [Bool.false_or, if_neg Bool.false_ne_true]
        cases drops : a.drops kind h with
        | false => exact (apply_cons drops).symm
        | true =>
          have other : a.enrols? kind = none := by
            refine Option.eq_none_iff_forall_ne_some.mpr fun g enrols => ?_
            rw [drops_of_enrols enrols] at drops
            cases drops
          rw [if_pos rfl, apply_of_other other, apply_of_other other, List.filter_cons_of_neg (by simp [drops]),
            List.filter_filter]
          -- Whom the change keeps is not the one whom it drops.
          refine List.filter_congr fun g _ => ?_
          by_cases same : g = h
          · simp [same, drops]
          · simp [same]

/-- A change is applied to the handlers that were in force. -/
lemma inForce_snoc (change : l.change? = some a) : inForce kind (ls ++ [l]) = a.apply kind (inForce kind ls) := by
  rw [inForce, List.filterMap_append, List.filterMap_cons_some change, List.filterMap_nil, remaining_concat]
  rfl

/-- What is no change leaves the handlers in force. -/
lemma inForce_unchanged (change : l.change? = none) : inForce kind (ls ++ [l]) = inForce kind ls := by
  rw [inForce, List.filterMap_append, List.filterMap_cons_none change, List.filterMap_nil, List.append_nil]
  rfl

/-- The bus subscribes as the change says. -/
lemma handlers_subscribe (b : Bus) (k : EventKind) (h : HandlerId) (kind : EventKind) :
    (b.subscribe k h).handlers kind = (Adjustment.subscribe k h).apply kind (b.handlers kind) := by
  unfold Bus.subscribe
  by_cases same : k = kind
  · subst same
    rw [apply_of_enrols (h := h) (by simp [Adjustment.enrols?])]
    split
    · rfl
    · simp [Bus.replace]
  · rw [apply_of_neither (by simp [Adjustment.enrols?, same]) fun _ => rfl]
    split
    · rfl
    · exact if_neg (Ne.symm same)

/-- The bus unsubscribes as the change says, if no handler is there twice. -/
lemma handlers_unsubscribe (nodup : ∀ kind, (b.handlers kind).Nodup) (k : EventKind) (h : HandlerId) (kind : EventKind) :
    (b.unsubscribe k h).handlers kind = (Adjustment.unsubscribe k h).apply kind (b.handlers kind) := by
  by_cases same : k = kind
  · subst same
    have erased : (b.unsubscribe k h).handlers k = (b.handlers k).erase h := if_pos rfl
    rw [apply_of_other rfl, erased, (nodup k).erase_eq_filter]
    refine List.filter_congr fun g _ => ?_
    simp [Adjustment.drops, bne, Bool.beq_comm]
  · rw [apply_of_neither rfl fun g => by simp [Adjustment.drops, same]]
    exact if_neg (Ne.symm same)

/-- The bus is cleared as the change says. -/
lemma handlers_clear (b : Bus) (k : Option EventKind) (kind : EventKind) :
    (b.clear k).handlers kind = (Adjustment.clearHandlers k).apply kind (b.handlers kind) := by
  cases k with
  | none => exact (List.filter_eq_nil_iff.mpr fun _ _ => by simp [Adjustment.drops]).symm
  | some k =>
    by_cases same : k = kind
    · subst same
      rw [apply_of_other rfl, List.filter_eq_nil_iff.mpr fun _ _ => by simp [Adjustment.drops]]
      exact if_pos rfl
    · rw [apply_of_neither rfl fun g => by simp [Adjustment.drops, same]]
      exact if_neg (Ne.symm same)

/-- The bus does what is asked of it. -/
lemma handlers_adjust (bus : s.bus = some b) (nodup : ∀ kind, (b.handlers kind).Nodup) (a : Adjustment) :
    ∃ b', (s.adjust a).2.bus = some b' ∧ ∀ kind, b'.handlers kind = a.apply kind (b.handlers kind) := by
  have updated (f : Bus → Bus) : (s.updateBus f).bus = some (f b) := by rw [Stage.updateBus, bus, Option.map_some]
  cases a with
  | subscribe k h => exact ⟨_, updated _, handlers_subscribe b k h⟩
  | unsubscribe k h => exact ⟨_, updated _, handlers_unsubscribe nodup k h⟩
  | clearHandlers k => exact ⟨_, updated _, handlers_clear b k⟩
  | addResponder m =>
    refine ⟨b, ?_, fun kind => (apply_of_neither rfl fun _ => rfl).symm⟩
    rw [← bus, Stage.adjust]
    split
    · rfl
    · rfl
  | _ => exact ⟨b, bus, fun kind => (apply_of_neither rfl fun _ => rfl).symm⟩

end InForce

/-! ## The contract -/

/-- The handlers on the bus are those whose subscriptions are in force. -/
def Scene.Registered (x : Scene) : Prop :=
  ∃ b, x.stage.bus = some b ∧ ∀ kind, b.handlers kind = inForce kind x.past

/-- The handlers on the bus are those whose subscriptions are in force whenever the stage is seen. -/
def registers : Contract where
  rule := Anything
  holds := Scene.Registered
  visit _ _ := True
  running _ := Scene.Registered
  visit_refl _ := trivial
  visit_trans _ _ := trivial

section Registered

variable {x y : Scene} {l : Label} {a : Adjustment} {s : Stage}

/-- The handlers stay registered when something else than a change is seen. -/
lemma Scene.Registered.see (known : x.Registered) (change : l.change? = none) : (x.see l).Registered := by
  obtain ⟨b, bus, same⟩ := known
  exact ⟨b, bus, fun kind => (same kind).trans (inForce_unchanged change).symm⟩

/-- The handlers stay registered when the stage changes and keeps its bus. -/
lemma Scene.Registered.on (known : x.Registered) (bus : s.bus = x.stage.bus) : (x.on s).Registered := by
  obtain ⟨b, bus', same⟩ := known
  exact ⟨b, bus.trans bus', same⟩

/-- A change is made on the bus when it has been seen. -/
lemma Scene.Registered.adjusted (known : x.Registered) (change : l.change? = some a) :
    ((x.see l).on (x.stage.adjust a).2).Registered := by
  obtain ⟨b, bus, same⟩ := known
  have nodup (kind : EventKind) : (b.handlers kind).Nodup := by
    rw [same kind]
    exact nodup_remaining kind _
  obtain ⟨b', bus', made⟩ := handlers_adjust bus nodup a
  refine ⟨b', bus', fun kind => ?_⟩
  rw [made, same]
  exact (inForce_snoc change).symm

end Registered

namespace registers

open Play Scene

variable {x y : Scene}

/-- Whatever is registered follows. -/
lemma follows (known : y.Registered) : registers.Follows x y :=
  ⟨known, trivial⟩

/-- Every request and its reply leave the handlers registered. -/
lemma asks (q : Request) : registers.Asks Registered Registered q := by
  intro x known
  have out : (x.asking q).Registered := known.see rfl
  refine ⟨out, fun y r back _ => ?_⟩
  have visited : y.Registered := (back.follows out).holds
  exact visited.see rfl

/-- A report leaves the handlers registered. -/
lemma tells (n : Notice) : Contract.Tells Registered n :=
  fun _ known => known.see rfl

/-- A change that leaves the bus alone. -/
lemma changes {f : Stage → Stage} (bus : ∀ s, (f s).bus = s.bus) : Contract.Changes Registered f :=
  fun x known => known.on (bus x.stage)

/-- Consulting the surroundings leaves the handlers registered. -/
lemma consults : registers.Consults Registered where
  told := tells
  keyword _ _ := asks _
  function _ _ _ := asks _
  called _ _ := carries_announce tells fun _ _ _ _ => asks _
  builtIn name parameter := changes fun s => by
    obtain ⟨vars, agents, e⟩ := s.callBuiltIn_eq name parameter
    rw [e]
  written _ _ := changes fun _ => rfl

/-- Moving from line to line leaves the handlers registered. -/
lemma moves : registers.Moves Registered Registered where
  weak := id
  reported := tells
  entered := carries_announce tells fun _ _ _ _ => asks _
  node := Contract.enters fun _ => changes fun _ => rfl
  index _ := changes fun _ => rfl

/-- The end of a session leaves the handlers registered. -/
lemma carries_endSession : endSession.Carries registers Registered Registered := by
  refine Play.carries_endSession (changes fun _ => rfl) fun _ => ?_
  exact carries_tearDown tells (fun _ => asks _) (fun _ => asks _) (fun _ _ _ _ => asks _) fun _ _ => asks _

/-- Running a line leaves the handlers registered. -/
lemma carries_runLine : runLine.Carries registers Registered Registered := by
  intro x known
  refine does_runLine consults id moves known (fun _ _ => id) carries_endSession ?_ ?_
  · intro y l _ known _
    refine does_askQuery tells moves known (fun _ _ => id) consults.toReads (known.on rfl) (fun _ _ => id) ?_
    intro z p known _ _
    exact carries_deliverQuery id tells (fun _ _ _ _ => asks _) (fun _ => asks _) z known
  · intro y l _ known _
    refine does_showLine consults.toReads (fun _ => changes fun _ => rfl) known (fun _ _ => id) ?_
    intro z shown _ known _
    exact carries_deliver id tells (fun _ _ _ _ => asks _) (fun _ => asks _) (fun _ => asks _) _ (known.on rfl)

/-- A call that is no setting changes no subscription. -/
lemma change?_of_other {owed : Option Request} {s : Stage} {c : Call} (other : ∀ a, c ≠ .adjust a) :
    (Label.called owed s c).change? = none := by
  cases c with
  | adjust a => exact absurd rfl (other a)
  | _ => rfl

/-- Calls that are more than a change leave the bus alone. -/
lemma serves : registers.Serves (fun _ c => ∀ a, c ≠ .adjust a) (fun _ => Registered)
    (fun _ => Registered) fun _ => Registered where
  weak := id
  moves _ := ⟨Registered, moves, id⟩
  told _ := tells
  reads _ := consults.toReads
  function known := consults.builtIn _ _ _ known
  stays known _ other _ := known.see (change?_of_other other)
  goesOn {x owed c} known _ goes := by
    have other (a : Adjustment) : c ≠ .adjust a := by
      rintro rfl
      cases goes.2
    exact (known.see (change?_of_other other)).on rfl
  opens _ known _ _ _ _ := carries_tellStart tells (fun _ _ => asks _) (fun _ _ _ => asks _) (fun _ _ _ => asks _) _ _ _ _
    (known.on rfl)
  ends _ := carries_endSession
  history _ := changes fun _ => rfl
  built _ _ := changes fun _ => rfl
  images _ _ := asks _
  published _ _ _ _ := asks _
  adjusts other := absurd rfl (other _)
  answers known := follows (known.see rfl)
  fails known := follows (known.see rfl)
  defers known _ := follows (known.see rfl)
  runs known _ _ := (known.on rfl).see rfl

/-- Calls and lines keep the contract. -/
lemma honours : registers.Honours where
  call {x owed c} known keeps := by
    cases c with
    | adjust change => exact follows ((known.adjusted rfl).see rfl)
    | _ => exact serves.call known keeps nofun
  line {x y} known _ := by
    refine (carries_runLine _ (known.see rfl)).mono fun z r known => ?_
    cases r with
    | error e => exact follows ((known.on rfl).see rfl)
    | ok u => exact known
  rest known _ _ := follows ((known.on rfl).see rfl)

end registers

/-! ## Publishing -/

section Publishing

variable {s t u : Stage} {ls past later : List Label} {m : Moment} {ps : List Pending} {kind : EventKind} {l : Label}

/-- The handlers of an event are those whose subscriptions are in force. -/
lemma Scene.Registered.handlers {x : Scene} (known : x.Registered) (kind : EventKind) :
    x.stage.handlers kind = inForce kind x.past := by
  obtain ⟨b, bus, same⟩ := known
  rw [← same kind, Stage.handlers, bus]
  rfl

/-- On an empty bus no handler is registered. -/
lemma registered_initial (empty : s.bus = some .empty) : registers.holds ⟨s, []⟩ :=
  ⟨.empty, empty, fun _ => rfl⟩

/-- A call that has been worked on is answered next. -/
lemma Run.answers (run : Run Anything ⟨.stage (.call (.done u (.ok (.answer .nothing)))), ps⟩ ls m) :
    ∀ l ∈ ls.head?, l = .answered u (.ok .nothing) := by
  cases ls with
  | nil => exact fun _ head => by cases head
  | cons l' ls =>
    obtain ⟨n, step, -⟩ := run.first
    have works : some (.answered u (.ok .nothing), ⟨.surroundings u, ps⟩) = some (l', n) := step.work_inv
    intro l head
    rw [← Option.some.inj head, ← (Prod.mk.inj (Option.some.inj works)).1]

/-- From an empty bus on, its handlers are always those whose subscriptions are in force, none of them twice. An event
that is published, by a call or of a session, is taken to the handlers of that moment, each of them in turn, whatever
they do meanwhile, and then all goes on as if none of them had failed. Where an event of a session has no handlers,
nothing is seen of it. -/
theorem publish_isolated (empty : s.bus = some .empty) (run : Run Anything (.initial s) ls m) :
    (∀ t, m.control = .surroundings t → ∀ kind, t.handlers kind = inForce kind ls ∧ (t.handlers kind).Nodup) ∧
    (∀ past owed t kind j later, ls = past ++ .called owed t (.publish kind j) :: later →
      Dispatches ⟨kind, none, .other j⟩ (inForce kind past)
        (fun u rest => ∀ l ∈ rest.head?, l = .answered u (.ok .nothing)) later) ∧
    ∀ (α : Type) (f : Frame α), f.Awaits → ∀ past later e t k ps n,
      Run Anything (.initial s) past ⟨.stage (f.act ((Play.publish e t).bind k)), ps⟩ →
      Run Anything ⟨.stage (f.act ((Play.publish e t).bind k)), ps⟩ later n →
      (t.handlers e.kind ≠ [] → t.handlers e.kind = inForce e.kind past) ∧
        Dispatches e (t.handlers e.kind)
          (fun u rest => Run Anything ⟨.stage (f.act (k () u)), ps⟩ rest n) later := by
  have start := registered_initial empty
  refine ⟨?_, ?_, ?_⟩
  · intro t control kind
    obtain ⟨c, ps⟩ := m
    obtain rfl : c = .surroundings t := control
    have known : Scene.Registered ⟨t, ls⟩ := (Contract.safe registers.honours start run).1
    have same : t.handlers kind = inForce kind ls := known.handlers kind
    rw [same]
    exact ⟨rfl, nodup_remaining kind _⟩
  · rintro past owed t kind j later rfl
    have known : Scene.Registered ⟨t, past⟩ := Contract.holds_called registers.honours start run
    obtain ⟨n, n', -, step, -, rest⟩ := run.split
    obtain ⟨-, -, rfl⟩ := step.fits
    have dispatches := Run.publish (f := .call) (k := fun _ u => .done u (.ok (.answer .nothing)))
      Frame.awaits_call rest
    rw [← known.handlers kind]
    exact dispatches.mono Run.answers
  · intro α f awaits past later e t k ps n reached onward
    refine ⟨fun subscribed => ?_, onward.publish awaits⟩
    obtain ⟨h, hs, handlers⟩ := List.exists_cons_of_ne_nil subscribed
    rw [Play.publish_eq, handlers, Play.each_notify_cons] at reached
    have asked := reached.snoc (.work (f.asks t (.handle h e) _ ps)) trivial
    have known : Scene.Registered (Scene.asking ⟨t, past⟩ (.handle h e)) :=
      Contract.holds_asked registers.honours start asked
    have same : t.handlers e.kind = inForce e.kind (past ++ [.asked t (.handle h e)]) := known.handlers e.kind
    rw [same, inForce_unchanged rfl]

end Publishing

/-! ## A commotion -/

/-- Two handlers have subscribed to lines, one of them twice. -/
def subscribed : List Label × Moment :=
  (Moment.initial { bus := some .empty }).rehearse
    [.call (.adjust (.subscribe .lineStarted 1)), .work, .call (.adjust (.subscribe .lineStarted 2)), .work,
     .call (.adjust (.subscribe .lineStarted 1)), .work]

/-- An event is published. The first of them puts another handler in the place of the second one, and publishes an
event itself. -/
def disturbed : List Label × Moment :=
  (Moment.mk (.stage (.call ((Call.publish .lineStarted .null).play subscribed.2.given))) []).rehearse
    [.work, .call (.adjust (.unsubscribe .lineStarted 2)), .work, .call (.adjust (.subscribe .lineStarted 3)), .work,
     .call (.publish .lineStarted .null), .work, .reply, .work, .reply, .work]

/-- Then it fails. -/
def commotion : List Label × Moment :=
  let failed := disturbed.2.fail (.raised [])
  let rest := failed.2.rehearse [.work, .work, .reply, .work]
  (disturbed.1 ++ failed.1 ++ rest.1, rest.2)

/-- The commotion is a run. -/
lemma run_commotion : Run Anything (.initial { bus := some .empty })
    (subscribed.1 ++ .called none subscribed.2.given (.publish .lineStarted .null) :: commotion.1) commotion.2 := by
  have free (past : List Label) (l : Label) (_ : past.all (fun _ => true) = true) (_ : true = true) : Anything past l :=
    trivial
  have all (ls : List Label) : ls.all (fun _ => true) = true := List.all_eq_true.mpr fun _ _ => rfl
  have ready : subscribed.2 = ⟨.surroundings subscribed.2.given, []⟩ := Moment.eq_of_isOver (by decide +kernel)
  have first : Run Anything (.initial { bus := some .empty }) subscribed.1 ⟨.surroundings subscribed.2.given, []⟩ := by
    rw [← ready]
    exact Moment.run_rehearse_anything
  have called : Run Anything _ (_ ++ [.called none _ _]) _ := first.snoc (.enter (.publish .lineStarted .null) rfl) trivial
  have told : Run Anything _ (_ ++ disturbed.1) disturbed.2 :=
    Moment.run_rehearse_of_run free called (all _) (all _)
  have rest : Run Anything _ _ commotion.2 :=
    Moment.run_rehearse_of_run free (told.fail (.raised [])) (all _) (all _)
  simpa only [commotion, List.append_assoc, List.cons_append, List.nil_append] using rest

/-- In the commotion the second handler is still told, and the third is not. -/
theorem publish_isolated_commotion :
    ({ bus := some .empty } : Stage).bus = some .empty ∧
    Run Anything (.initial { bus := some .empty })
      (subscribed.1 ++ .called none subscribed.2.given (.publish .lineStarted .null) :: commotion.1) commotion.2 ∧
    commotion.2.given.handlers .lineStarted = [1, 3] ∧
    Dispatches ⟨.lineStarted, none, .other .null⟩ [1, 2]
      (fun u rest => ∀ l ∈ rest.head?, l = .answered u (.ok .nothing)) commotion.1 := by
  obtain ⟨states, calls, -⟩ := publish_isolated rfl run_commotion
  have ended : commotion.2.control = .surroundings commotion.2.given :=
    congrArg Moment.control (Moment.eq_of_isOver (by decide +kernel))
  refine ⟨rfl, run_commotion, ?_, calls _ _ _ _ _ _ rfl⟩
  rw [(states _ ended .lineStarted).1]
  decide +kernel

end Parley
