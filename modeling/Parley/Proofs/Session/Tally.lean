import Mathlib.Data.List.Chain
import Parley.Proofs.Number.Numerals
import Parley.Proofs.Session.Links

/-!
# Tally

What is known of the counter of an id while sessions come and go.

* `Untouched`: no script, function or caller changes the counter. What the stage does by itself is not excluded.
* `sessionsOf`: the sessions that calls have opened with agents of an id.
* `Scene.Listed`: these sessions are in order, and the agent of such a session goes by the id.
* `Scene.Tallied` and `Scene.Poised`: the counter stands at their number, or it did so when the stage was last seen and
  may have been written since.

`Scene.Loose.visited` turns the second into the first: if the counter is untouched, it stands at the number of sessions
whenever the stage is seen.
-/

namespace Parley

/-! ## What is seen -/

/-- The call writes variables, or evaluates what may do so. -/
def Call.writes : Call → Bool
  | .function _ _ | .adjust (.setVariable _ _) | .adjust (.removeVariable _) => true
  | _ => false

/-- The request may belong to the calling of a function. -/
def Request.asksAround : Request → Bool
  | .keyword _ _ | .function _ _ _ => true
  | .handle _ e => e.kind == .functionCalled
  | _ => false

/-- A script, a function or the caller may write variables before the stage is seen again. -/
def Label.writes : Label → Bool
  | .began _ => true
  | .replied _ q _ => q.asksAround
  | .called _ _ c => c.writes
  | _ => false

/-- What is seen of a variable, and whether it may be written before it is seen again. -/
def Label.sight? (who : Text) (l : Label) : Option (Bool × Option Text) :=
  l.stage?.map fun s => (l.writes, s.vars.get? who)

/-- All that is seen of a variable. -/
def sights (who : Text) (ls : List Label) : List (Bool × Option Text) :=
  ls.filterMap (Label.sight? who)

/-- Whatever scripts, functions and callers write, a variable is seen to be the same afterwards. -/
def Untouched (who : Text) (ls : List Label) : Prop :=
  (sights who ls).IsChain fun a b => a.1 = true → b.2 = a.2

instance (who : Text) (ls : List Label) : Decidable (Untouched who ls) :=
  inferInstanceAs (Decidable (List.IsChain _ _))

/-- The session that is opened by a call, if that is with an agent of an id. -/
def Label.opens? (who : Text) : Label → Option Nat
  | .called _ s c => ((s.opening? c).filter fun x => ((s.readied c).agents x.agent).id = who).map Session.number
  | _ => none

/-- The sessions that calls have opened with agents of an id. -/
def sessionsOf (who : Text) (ls : List Label) : List Nat :=
  ls.filterMap (Label.opens? who)

/-- No call has changed the dialog of a session that was going on. -/
def Spared (ls : List Label) : Prop :=
  ∀ owed s c, .called owed s c ∈ ls → s.Spares c

section Labels

variable {who : Text} {l : Label} {ls ls' : List Label} {s : Stage}

/-- What is untouched as a whole is untouched in its first part. -/
lemma Untouched.left (h : Untouched who (ls ++ ls')) : Untouched who ls := by
  unfold Untouched sights at h
  rw [List.filterMap_append] at h
  exact List.IsChain.left_of_append h

/-- What may have been written when the stage was last seen has not been changed. -/
lemma Untouched.last {v : Option Text} (h : Untouched who (ls ++ [l])) (seen : l.stage? = some s)
    (last : (sights who ls).getLast? = some (true, v)) : s.vars.get? who = v := by
  unfold Untouched sights at h
  have sight : Label.sight? who l = some (l.writes, s.vars.get? who) := by rw [Label.sight?, seen, Option.map_some]
  rw [List.filterMap_append, List.filterMap_cons_some sight, List.filterMap_nil] at h
  exact (List.isChain_append.mp h).2.2 _ last _ rfl rfl

/-- What is seen of a variable last is what the last stage that is seen has of it. -/
lemma sights_snoc (seen : l.stage? = some s) :
    (sights who (ls ++ [l])).getLast? = some (l.writes, s.vars.get? who) := by
  have sight : Label.sight? who l = some (l.writes, s.vars.get? who) := by rw [Label.sight?, seen, Option.map_some]
  rw [sights, List.filterMap_append, List.filterMap_cons_some sight, List.filterMap_nil, List.getLast?_concat]

/-- Where no stage is seen, nothing is seen of a variable. -/
lemma sights_unseen (unseen : l.stage? = none) : sights who (ls ++ [l]) = sights who ls := by
  have sight : Label.sight? who l = none := by rw [Label.sight?, unseen, Option.map_none]
  rw [sights, List.filterMap_append, List.filterMap_cons_none sight, List.filterMap_nil, List.append_nil]
  rfl

/-- What opens no session of an id adds none. -/
lemma sessionsOf_snoc (other : l.opens? who = none) : sessionsOf who (ls ++ [l]) = sessionsOf who ls := by
  rw [sessionsOf, List.filterMap_append, List.filterMap_cons_none other, List.filterMap_nil, List.append_nil]
  rfl

/-- A call that opens a session adds it to those of its agent's id. -/
lemma sessionsOf_called {owed : Option Request} {c : Call} {x : Session} (opening : s.opening? c = some x) :
    sessionsOf who (ls ++ [.called owed s c]) =
      sessionsOf who ls ++ if ((s.readied c).agents x.agent).id = who then [x.number] else [] := by
  have opens : Label.opens? who (.called owed s c) =
      if ((s.readied c).agents x.agent).id = who then some x.number else none := by
    simp only [Label.opens?, opening, Option.filter_some, decide_eq_true_eq]
    split
    · rfl
    · rfl
  rw [sessionsOf, List.filterMap_append]
  refine congrArg (List.filterMap _ ls ++ ·) ?_
  split
  · rename_i same
    rw [List.filterMap_cons_some (opens.trans (if_pos same)), List.filterMap_nil]
  · rename_i other
    rw [List.filterMap_cons_none (opens.trans (if_neg other)), List.filterMap_nil]

/-- Where no stage is seen, no session is opened. -/
lemma Label.opens?_of_unseen (unseen : l.stage? = none) : l.opens? who = none := by
  cases l with
  | silent | told => rfl
  | _ => cases unseen

/-- What is spared as a whole is spared in its first part. -/
lemma Spared.left (h : Spared (ls ++ ls')) : Spared ls :=
  fun owed s c mem => h owed s c (List.mem_append_left _ mem)

/-- What is no call changes no dialog. -/
lemma Spared.snoc (h : Spared ls) (other : ∀ owed s c, l ≠ .called owed s c) : Spared (ls ++ [l]) := by
  intro owed s c mem
  rcases List.mem_append.mp mem with mem | mem
  · exact h owed s c mem
  · exact absurd (List.mem_singleton.mp mem).symm (other owed s c)

end Labels

/-! ## Agents of sessions -/

namespace Stage

variable {s s' : Stage}

/-- The agent of the session has a dialog, which is not built again. -/
def Staffed (s : Stage) : Prop :=
  ∀ k, s.session = some k → (s.dialogOf k).isEmpty = false

/-- The session that is there was there before. Its agent goes by the same id, and has a dialog. -/
def Attends (s s' : Stage) : Prop :=
  ∀ k', s'.session = some k' → ∃ k, s.session = some k ∧ k.number = k'.number ∧
    (s'.agents k'.agent).id = (s.agents k.agent).id ∧ (s'.dialogOf k').isEmpty = false

/-- A session stays with its agent, if it is the same, and the agent keeps its id and dialog. -/
lemma Staffed.attends (staffed : s.Staffed) (session : s'.session = s.session)
    (kept : ∀ k, s.session = some k →
      (s'.agents k.agent).id = (s.agents k.agent).id ∧ s'.dialogOf k = s.dialogOf k) : s.Attends s' := by
  intro k there
  have there : s.session = some k := session.symm.trans there
  obtain ⟨same, dialog⟩ := kept k there
  refine ⟨k, there, rfl, same, ?_⟩
  rw [dialog]
  exact staffed k there

/-- It does not matter which line a session is at. -/
lemma Staffed.attends_map {f : Session → Session} (staffed : s.Staffed)
    (same : ∀ k, (f k).number = k.number ∧ (f k).agent = k.agent) :
    s.Attends { s with session := s.session.map f } := by
  intro k' there
  obtain ⟨k, there', rfl⟩ := Option.map_eq_some_iff.mp there
  obtain ⟨number, agent⟩ := same k
  refine ⟨k, there', number.symm, ?_, ?_⟩
  · rw [agent]
  · rw [dialogOf, agent]
    exact staffed k there'

/-- A session stays with its agent when a dialog is built. -/
lemma Staffed.attends_built (staffed : s.Staffed) (a : AgentId) (speaker : Text) : s.Attends (s.built a speaker) := by
  refine staffed.attends rfl fun k session => ?_
  unfold dialogOf built updateAgent
  dsimp only
  split
  · rename_i same
    have filled := staffed k session
    rw [dialogOf, same] at filled
    unfold Agent.build
    rw [filled, same]
    exact ⟨rfl, rfl⟩
  · exact ⟨rfl, rfl⟩

/-- A session stays with its agent when a setting spares its dialog. -/
lemma Staffed.attends_adjust {change : Adjustment} (staffed : s.Staffed) (spares : s.Spares (.adjust change)) :
    s.Attends (s.adjust change).2 := by
  refine staffed.attends (s.adjust_eq change).2.1 fun k session => ?_
  cases change with
  | setSource a source | clearDialog a =>
    have other : k.agent ≠ a := spares k session
    simp only [adjust, dialogOf, updateAgent, if_neg other, and_self]
  | setNickname a name =>
    simp only [adjust, dialogOf, updateAgent]
    split
    · exact ⟨rfl, rfl⟩
    · exact ⟨rfl, rfl⟩
  | addResponder m =>
    simp only [adjust, dialogOf]
    split
    · exact ⟨rfl, rfl⟩
    · exact ⟨rfl, rfl⟩
  | _ => exact ⟨rfl, rfl⟩

/-- A built-in function does not change the id of an agent. -/
lemma id_callBuiltIn (s : Stage) (name parameter : Text) (a : AgentId) :
    ((s.callBuiltIn name parameter).2.agents a).id = (s.agents a).id := by
  have disabled (b : AgentId) : ((s.updateAgent b fun x => { x with enabled := false }).agents a).id =
      (s.agents a).id := by
    unfold updateAgent
    dsimp only
    split
    · rfl
    · rfl
  unfold callBuiltIn
  dsimp only
  split
  · split
    · exact disabled _
    · rfl
  · repeat' split
    all_goals rfl

/-- A session stays with its agent when a built-in function is called. -/
lemma Staffed.attends_callBuiltIn (staffed : s.Staffed) (name parameter : Text) :
    s.Attends (s.callBuiltIn name parameter).2 := by
  have keeps := s.keeps_callBuiltIn name parameter
  exact staffed.attends keeps.session fun k _ => ⟨s.id_callBuiltIn name parameter k.agent, keeps.dialogs k.agent⟩

/-- A dialog with a start node is not empty. -/
lemma isEmpty_of_startNode? {d : Dialog} {n : Node} (start : d.startNode? = some n) : d.isEmpty = false := by
  have nodes : d.nodes.isEmpty = false :=
    List.isEmpty_eq_false_iff.mpr (List.ne_nil_of_mem (Dialog.mem_of_startNode? start))
  unfold Dialog.isEmpty
  rw [nodes, Bool.false_and, Bool.false_and, Bool.false_and]

/-- Only the caller writes variables by an adjustment. -/
lemma vars_adjust {change : Adjustment} (reads : (Call.adjust change).writes = false) :
    (s.adjust change).2.vars = s.vars := by
  cases change with
  | setVariable key value | removeVariable key => cases reads
  | addResponder m =>
    simp only [adjust]
    split
    · rfl
    · rfl
  | _ => rfl

end Stage

/-! ## Scenes -/

namespace Scene

/-- The sessions of an id are those of the calls that have been made, the latest one last. -/
structure Listed (who : Text) (x : Scene) : Prop where
  sound : x.stage.Sound
  latest : ∀ k, x.stage.session = some k → k.number + 1 = x.stage.started
  below : ∀ n ∈ sessionsOf who x.past, n < x.stage.started
  ascending : (sessionsOf who x.past).Pairwise (· < ·)
  named : Spared x.past → x.stage.Staffed ∧ ∀ k, x.stage.session = some k →
    k.number ∈ sessionsOf who x.past → (x.stage.agents k.agent).id = who

/-- The counter of an id stands at the number of its sessions. -/
def Tallied (who : Text) (x : Scene) : Prop :=
  Counter (x.stage.vars.get? who) (sessionsOf who x.past).length

/-- It did so when the stage was last seen, and may have been written since. -/
def Poised (who : Text) (x : Scene) : Prop :=
  ∃ v, (sights who x.past).getLast? = some (true, v) ∧ Counter v (sessionsOf who x.past).length

/-- What holds whenever a stage is seen. -/
structure Visited (who : Text) (x : Scene) : Prop where
  listed : x.Listed who
  tallied : Untouched who x.past → x.Tallied who

/-- What holds in between. -/
structure Loose (who : Text) (x : Scene) : Prop where
  listed : x.Listed who
  tallied : Untouched who x.past → x.Tallied who ∨ x.Poised who

/-- What holds as long as variables may be written. -/
structure Writable (who : Text) (x : Scene) : Prop where
  listed : x.Listed who
  poised : Untouched who x.past → x.Poised who

variable {who : Text} {x : Scene} {l : Label} {s : Stage}

/-- What holds whenever a stage is seen holds in between. -/
lemma Visited.loose (h : x.Visited who) : x.Loose who :=
  ⟨h.listed, fun untouched => .inl (h.tallied untouched)⟩

/-- What holds as long as variables may be written holds in between. -/
lemma Writable.loose (h : x.Writable who) : x.Loose who :=
  ⟨h.listed, fun untouched => .inr (h.poised untouched)⟩

/-! ### What is seen of the sessions -/

/-- The sessions stay in order when something is seen that opens none of them. -/
lemma Listed.see (h : x.Listed who) (other : l.opens? who = none) : (x.see l).Listed who := by
  have same : sessionsOf who (x.see l).past = sessionsOf who x.past := sessionsOf_snoc other
  refine ⟨h.sound, h.latest, ?_, ?_, fun spared => ?_⟩
  · rw [same]
    exact h.below
  · rw [same]
    exact h.ascending
  · rw [same]
    exact h.named spared.left

/-- A stage that is seen is the one that nobody has written to. -/
lemma Loose.visited (h : x.Loose who) (seen : l.stage? = some x.stage) (other : l.opens? who = none) :
    (x.see l).Visited who := by
  refine ⟨h.listed.see other, fun untouched => ?_⟩
  have same : sessionsOf who (x.see l).past = sessionsOf who x.past := sessionsOf_snoc other
  unfold Tallied
  rw [same]
  rcases h.tallied (Untouched.left untouched) with tallied | ⟨v, last, counter⟩
  · exact tallied
  · have kept : x.stage.vars.get? who = v := Untouched.last untouched seen last
    rw [← kept] at counter
    exact counter

/-- Variables may be written from the time when it is seen that they may. -/
lemma Loose.writable (h : (x.see l).Loose who) (seen : l.stage? = some x.stage) (writes : l.writes = true) :
    (x.see l).Writable who := by
  refine ⟨h.listed, fun untouched => ?_⟩
  rcases h.tallied untouched with tallied | poised
  · exact ⟨_, by rw [Scene.see, sights_snoc seen, writes], tallied⟩
  · exact poised

/-- The counter is as it was last seen when no stage is seen. -/
lemma Poised.unseen (h : x.Poised who) (unseen : l.stage? = none) : (x.see l).Poised who := by
  obtain ⟨v, last, counter⟩ := h
  refine ⟨v, ?_, ?_⟩
  · rw [Scene.see, sights_unseen unseen]
    exact last
  · rw [Scene.see, sessionsOf_snoc (Label.opens?_of_unseen unseen)]
    exact counter

/-- Variables may still be written when no stage is seen. -/
lemma Writable.unseen (h : x.Writable who) (unseen : l.stage? = none) : (x.see l).Writable who :=
  ⟨h.listed.see (Label.opens?_of_unseen unseen), fun untouched => (h.poised (Untouched.left untouched)).unseen unseen⟩

/-- What holds in between still holds when no stage is seen. -/
lemma Loose.unseen (h : x.Loose who) (unseen : l.stage? = none) : (x.see l).Loose who := by
  refine ⟨h.listed.see (Label.opens?_of_unseen unseen), fun untouched => ?_⟩
  refine (h.tallied (Untouched.left untouched)).imp (fun tallied => ?_) fun poised => poised.unseen unseen
  unfold Tallied
  rw [Scene.see, sessionsOf_snoc (Label.opens?_of_unseen unseen)]
  exact tallied

/-! ### What becomes of the stage -/

/-- The sessions stay in order when the stage changes and keeps its session with its agent. -/
lemma Listed.on (h : x.Listed who) (sound : s.Sound) (started : s.started = x.stage.started)
    (session : ∀ k', s.session = some k' → ∃ k, x.stage.session = some k ∧ k.number = k'.number)
    (attends : Spared x.past → x.stage.Staffed → x.stage.Attends s) : (x.on s).Listed who where
  sound := sound
  latest k' there := by
    obtain ⟨k, there', number⟩ := session k' there
    have latest := h.latest k there'
    rw [number, ← started] at latest
    exact latest
  below n mem := by
    have below := h.below n mem
    rw [← started] at below
    exact below
  ascending := h.ascending
  named spared := by
    obtain ⟨staffed, named⟩ := h.named spared
    have attends := attends spared staffed
    refine ⟨fun k' there => ?_, fun k' there mem => ?_⟩
    · obtain ⟨k, -, -, -, filled⟩ := attends k' there
      exact filled
    · obtain ⟨k, there', number, same, -⟩ := attends k' there
      rw [← number] at mem
      exact same.trans (named k there' mem)

/-- The sessions stay in order on a stage that is alike and keeps its session with its agent. -/
lemma Listed.alike (h : x.Listed who) (alike : x.stage.Alike s)
    (attends : Spared x.past → x.stage.Staffed → x.stage.Attends s) : (x.on s).Listed who := by
  refine h.on (h.sound.alike alike) alike.started (fun k' there => ?_) attends
  have number := alike.number
  rw [there, Option.map_some] at number
  exact Option.map_eq_some_iff.mp number.symm

/-- What changes the counter has to do so while that may be written. -/
lemma Writable.on (h : x.Writable who) (listed : (x.on s).Listed who) : (x.on s).Writable who :=
  ⟨listed, h.poised⟩

/-- What holds in between holds on a changed stage with the same counter. -/
lemma Loose.on (h : x.Loose who) (listed : (x.on s).Listed who) (same : s.vars.get? who = x.stage.vars.get? who) :
    (x.on s).Loose who := by
  refine ⟨listed, fun untouched => (h.tallied untouched).imp (fun tallied => ?_) fun poised => poised⟩
  have tallied : Counter (x.stage.vars.get? who) (sessionsOf who x.past).length := tallied
  rw [← same] at tallied
  exact tallied

end Scene

end Parley
