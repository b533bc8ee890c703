import Parley.Proofs.Number.Numerals
import Parley.Proofs.Session.Recording

/-!
# Repose

A session that is left with surroundings that only record comes to a pause or an end.

* `comesTo_of_meets`: a routine comes to its end, since the surroundings reply after so many calls at the latest.
* `comesTo_of_nears`: the loop comes to rest, since each line leaves fewer lines to be run.
* `concludes_call`: how many lines a call may leave to be run.

`comes_to_rest` closes the file: a call that starts a session or goes on from a pause is answered with no lines left to
be run, if the lines that are not shown link downwards only. `overcounted` shows the one exception: a session does not
start if its counter cannot be moved on.
-/

namespace Parley

/-! ## Waiting for a reply -/

/-- A line is begun. -/
def Label.isBegun : Label → Bool
  | .began _ => true
  | _ => false

/-- The number of the lines that have been begun. -/
def begun (ls : List Label) : Nat :=
  ls.countP Label.isBegun

/-- The lines that are begun in two parts add up. -/
lemma begun_append (ls ls' : List Label) : begun (ls ++ ls') = begun ls + begun ls' :=
  List.countP_append

/-- The surroundings can turn to the stage only if the latest request lets them. -/
lemma Step.opened {s s' : Stage} {ps : List Pending} {owed : Option Request} {c : Call} {n : Moment}
    (step : Step ⟨.surroundings s, ps⟩ (.called owed s' c) n) : Pending.isOpen ps = true := by
  generalize e : Label.called owed s' c = l at step
  cases step with
  | work h => cases h
  | reply r => cases e
  | enter c h =>
    unfold Moment.enter? at h
    dsimp only at h
    split at h
    · assumption
    · cases h

section Waiting

variable {α : Type} {f : Frame α} {goal : List Label → Moment → Prop} {k : Nat} {ps : List Pending}

/-- Surroundings that only record reply in the end. -/
lemma comesTo_of_waiting (awaits : f.Awaits) {q : Request} {resume : Except Fault (Reply q) → Stage → Routine α}
    {x : Scene} {ls : List Label} {s : Stage} (quiet : begun ls = 0)
    (back : (recording k).Back q x ⟨s, x.past ++ ls⟩)
    (h : ∀ ls s r, begun ls = 0 → (recording k).Back q x ⟨s, x.past ++ ls⟩ → (q.isHandled = false → r.isOk = true) →
      ComesTo (Recording k) goal (x.past ++ ls ++ [.replied s q r]) ⟨.stage (f.act (resume r s)), ps⟩) :
    ComesTo (Recording k) goal (x.past ++ ls) ⟨.surroundings s, f.hold q resume :: ps⟩ := by
  -- The induction is on the number of the calls that may still be made.
  induction left : k - (x.past ++ ls).countP Label.isCall using Nat.strongRecOn generalizing ls s with
  | _ j ih =>
    refine .step ⟨_, _, f.replies s q resume ps (.ok q.plainReply), fun _ => rfl⟩ fun {l n} step keeps => ?_
    obtain ⟨c, rfl⟩ | ⟨r, rfl, rfl⟩ := awaits step
    · obtain ⟨-, few, change, rfl, slight⟩ := keeps
      obtain ⟨-, owed, rfl⟩ : Label.Fits _ n (.called (some q) s (.adjust change)) := step.fits
      have opened := step.opened
      rw [Pending.isOpen, ← owed, Option.all_some] at opened
      refine .work (l := .answered (s.adjust change).2 (.ok (s.adjust change).1)) rfl trivial ?_
      rw [List.append_assoc, List.append_assoc]
      refine ih _ ?_ ?_ ?_ rfl
      · rw [← List.append_assoc, List.countP_append]
        show k - ((x.past ++ ls).countP Label.isCall + 1) < j
        omega
      · rw [begun_append, quiet]
        rfl
      · unfold Contract.Back at back ⊢
        rw [if_pos opened] at back ⊢
        exact ⟨trivial, back.visit.trans (Stage.preserves_adjust slight)⟩
    · exact h ls s r quiet back keeps

/-- A routine comes to its end. -/
lemma comesTo_of_meets (awaits : f.Awaits) {r : Routine α} {past : List Label}
    {post : Scene → Except Fault α → Prop} (meets : r.Meets (recording k) post past)
    (h : ∀ ls t a, begun ls = 0 → post ⟨t, past ++ ls⟩ a →
      ComesTo (Recording k) goal (past ++ ls) ⟨.stage (f.act (.done t a)), ps⟩) :
    ComesTo (Recording k) goal past ⟨.stage (f.act r), ps⟩ := by
  induction r generalizing past with
  | done t a =>
    have here := h [] t a rfl
    rw [List.append_nil] at here
    exact here meets
  | tell n rest ih =>
    refine .work (f.tells n rest ps) trivial (ih meets fun ls t a quiet known => ?_)
    rw [List.append_assoc] at known ⊢
    exact h _ t a quiet known
  | ask s q resume ih =>
    refine .work (f.asks s q resume ps) trivial ?_
    have asked : past ++ [.asked s q] = (Scene.asking ⟨s, past⟩ q).past ++ [] := (List.append_nil _).symm
    rw [asked]
    refine comesTo_of_waiting awaits rfl ?_ fun ls t r quiet back gives => ?_
    · rw [List.append_nil]
      unfold Contract.Back
      split
      · exact ⟨trivial, .refl⟩
      · rfl
    · refine ih r t (meets.2 _ r back gives) fun ls' u a quiet' known => ?_
      have all : past ++ ([.asked s q] ++ (ls ++ ([.replied t q r] ++ ls'))) =
          (Scene.asking ⟨s, past⟩ q).past ++ ls ++ [.replied t q r] ++ ls' := by
        simp only [Scene.asking, Scene.see, List.append_assoc]
      rw [← all]
      refine h _ u a ?_ (all ▸ known)
      rw [begun_append, begun_append, begun_append, quiet, quiet']
      rfl

end Waiting

/-! ## Running lines -/

/-- A call is answered when no line is left to be run. Not more than so many have been begun since. -/
def Reposes (past : List Label) (n : Nat) (past' : List Label) (m : Moment) : Prop :=
  ∃ t a ls, m = ⟨.surroundings t, []⟩ ∧ past' = past ++ ls ++ [.answered t (.ok a)] ∧ t.phase ≠ .running ∧ begun ls ≤ n

section Running

variable {k n : Nat} {s : Stage} {past : List Label} {d : Dialog} {a : Answer}

/-- What reposes later reposes with the lines in between counted too. -/
lemma Reposes.later {j : Nat} {ls past' : List Label} {m : Moment} (h : Reposes (past ++ ls) j past' m)
    (le : begun ls + j ≤ n) : Reposes past n past' m := by
  obtain ⟨t, a, ls', rfl, rfl, rests, few⟩ := h
  refine ⟨t, a, ls ++ ls', rfl, by rw [List.append_assoc past], rests, ?_⟩
  rw [begun_append]
  omega

/-- Lines are run until none is left. -/
lemma comesTo_of_nears (near : s.Nears d n) :
    ComesTo (Recording k) (Reposes past n) past ⟨.stage (.run a (.done s (.ok ()))), []⟩ := by
  induction n using Nat.strongRecOn generalizing s past with
  | _ n ih =>
    by_cases running : s.phase = .running
    · obtain ⟨m, less, ls, faces, within⟩ := near running
      refine .work (congrArg some (if_pos running)) trivial ?_
      have meets := recording.leads_runLine (k := k) (x := ⟨s, past ++ [.began s]⟩) faces within
      refine comesTo_of_meets (f := .run a) (Frame.awaits_run a) meets fun ls' t r quiet known => ?_
      obtain ⟨near', gives⟩ := known
      cases r with
      | error e => cases gives
      | ok u =>
        refine (ih m less near').mono fun h => ?_
        rw [List.append_assoc] at h
        refine h.later ?_
        rw [begun_append, quiet]
        exact Nat.add_comm 1 m ▸ less
    · refine .work (congrArg some (if_neg running)) trivial (.here ?_)
      exact ⟨_, a, [], rfl, by rw [List.append_nil], running, Nat.zero_le n⟩

/-- A call is worked on, and then its lines are run. -/
lemma comesTo_of_concludes {c : Call} (sure : (c.play s).Sure)
    (concludes : c.play.Does (recording k) ⟨s, past⟩ (recording.Concludes d n)) :
    ComesTo (Recording k) (Reposes past n) past ⟨.stage (.call (c.play s)), []⟩ := by
  have meets := Routine.Meets.sure (fun keeps => keeps) sure concludes
  refine comesTo_of_meets (f := .call) Frame.awaits_call meets fun ls t r quiet known => ?_
  obtain ⟨concludes, gives⟩ := known
  cases r with
  | error e => cases gives
  | ok o =>
    cases o with
    | answer a =>
      refine .work rfl trivial (.here ⟨t, a, ls, rfl, rfl, concludes.2, ?_⟩)
      rw [quiet]
      exact Nat.zero_le n
    | run a =>
      obtain ⟨still, near⟩ := concludes
      have looping : ({ t with inRun := true } : Stage).Nears d n := by
        intro running
        obtain ⟨m, less, ls', faces, within⟩ := near running
        exact ⟨m, less, ls', ⟨faces.running, faces.standing⟩, within⟩
      refine .work (l := .silent) (congrArg some (if_neg (Bool.not_eq_true _ ▸ still))) trivial ?_
      refine (comesTo_of_nears looping).mono fun h => ?_
      rw [List.append_assoc] at h
      refine h.later ?_
      rw [begun_append, quiet]
      exact Nat.le_of_eq (Nat.zero_add n)

/-- Surroundings that only record can do no more when a call has failed and nobody waits for a reply. -/
lemma not_comesTo_of_error {e : Fault} :
    ¬ ComesTo (Recording k) (Reposes past n) past ⟨.stage (.call (.done s (.error e))), []⟩ := by
  intro comes
  cases comes with
  | here h =>
    obtain ⟨t, b, ls, stage, -⟩ := h
    cases stage
  | step _ leads =>
    have failed := leads (l := .answered s (.error e)) (.work rfl) trivial
    cases failed with
    | here h =>
      obtain ⟨t, b, ls, -, last, -⟩ := h
      cases (List.append_inj' last rfl).2
    | step possible _ =>
      obtain ⟨l, m, step, keeps⟩ := possible
      cases step with
      | work h => cases h
      | enter c h => exact keeps.1 rfl

end Running

/-! ## Calls -/

namespace Stage

/-- The dialog that a call is to go on with. -/
def dialogFor (s : Stage) : Call → Dialog
  | .start a speaker _ => ((s.built a speaker).agents a).dialog
  | .initiate a _ => (a.map fun a => (s.agents a).dialog).getD {}
  | _ => (s.session.map s.dialogOf).getD {}

/-- The lines that are left of the node of the session. -/
def left (s : Stage) : List Line :=
  (s.session.map fun x => x.node.lines.drop x.index).getD []

end Stage

section Calls

variable {ρ : Type*} [Preorder ρ] {rank : Text → ρ} {k n : Nat} {s : Stage} {past : List Label} {c : Call}

/-- A session that goes on from a pause faces what is left of its node. -/
lemma Stage.faces_resumed (sound : s.Sound) (awaiting : s.phase = .awaiting) :
    s.resumed.Faces ((s.session.map s.dialogOf).getD {}) s.left := by
  obtain ⟨x, session⟩ := Option.ne_none_iff_exists'.mp (sound.going awaiting Phase.noConfusion)
  refine ⟨rfl, x, session, ?_, ?_⟩
  · rw [session]
    rfl
  · rw [Stage.left, session]
    rfl

open Play

/-- A call that starts a session leaves no more lines than its nodes have within them. -/
lemma concludes_starting (rested : recording.Rested ⟨s, past⟩) (starts : c.Starts)
    (nodes : ∀ m ∈ (s.dialogFor c).nodes, (s.dialogFor c).Within m.lines n) :
    c.play.Does (recording k) ⟨s, past⟩ (recording.Concludes (s.dialogFor c) (n + 1)) := by
  cases starts with
  | start a speaker onExit =>
    have builds : (build a speaker).Does (recording k) ⟨s, past⟩ _ :=
      does_build (F := recording.Rested) (fun _ _ => id) (fun _ => id) rested
    refine does_bind.mpr (builds.mono ?_)
    rintro y r ⟨rested, built, -⟩
    cases r with
    | error e => trivial
    | ok b =>
      refine recording.concludes_initiate rested ?_ nodes
      rintro _ ⟨⟩
      rw [built]
      rfl
  | initiate a onExit =>
    refine recording.concludes_initiate rested ?_ nodes
    rintro b rfl
    rfl

/-- A call that goes on from a pause leaves no more lines than those behind its line and the nodes have within them. -/
lemma concludes_goingOn (sound : s.Sound) (rested : recording.Rested ⟨s, past⟩) (goes : s.ticketOf? c ≠ none)
    (nodes : ∀ m ∈ (s.dialogFor c).nodes, (s.dialogFor c).Within m.lines n)
    (next : (s.dialogFor c).Within s.left.tail n) :
    c.play.Does (recording k) ⟨s, past⟩ (recording.Concludes (s.dialogFor c) (n + 1)) := by
  have faces := Stage.faces_resumed sound
  cases c with
  | advance link => exact does_bind.mpr (does_get.mpr (recording.concludes_resume rested faces nodes next))
  | resume ticket link => exact recording.concludes_resume rested faces nodes next
  | respond prompt label =>
    refine does_bind.mpr (does_bind.mpr (does_get.mpr ?_))
    simp only [Then]
    split
    · exact rested
    · split
      · exact does_bind.mp (recording.concludes_resume rested faces nodes next)
      · exact does_bind.mpr (does_tell.mpr (does_bind.mp
          (recording.concludes_resume (x := Scene.see _ _) rested faces nodes next)))
  | _ => exact absurd rfl goes

/-- A call leaves at most as many lines to be run as are left of the node and stand in the dialog. -/
lemma concludes_call (sound : s.Sound) (rested : recording.Rested ⟨s, past⟩)
    (steers : c.Starts ∨ s.ticketOf? c ≠ none) (descends : (s.dialogFor c).Descends rank) :
    c.play.Does (recording k) ⟨s, past⟩
      (recording.Concludes (s.dialogFor c) (s.left.length + (s.dialogFor c).size + 1)) := by
  have nodes : ∀ m ∈ (s.dialogFor c).nodes,
      (s.dialogFor c).Within m.lines (s.left.length + (s.dialogFor c).size) := fun m mem =>
    (Dialog.within_node descends mem).mono
      (Nat.le_trans (Dialog.length_add_below_le_size mem) (Nat.le_add_left _ _))
  obtain starts | goes := steers
  · exact concludes_starting rested starts nodes
  · refine concludes_goingOn sound rested goes nodes ?_
    refine (Dialog.within_of_descends descends _).mono (Nat.add_le_add_right ?_ _)
    rw [List.length_tail]
    exact Nat.sub_le _ _

/-- Nobody waits for a reply, no lines are left to be run, and a call is made that may start a session or go on from a
pause, with a dialog in which all lines that are not shown link to nodes of lower rank. The surroundings only record,
and the counter of a session to be started can be moved on. Then the call is answered in the end, whatever the stage
holds and whatever tests come to, and no lines are left to be run. Not more lines are begun than are left of the node at
hand and stand in the dialog, and one more. -/
theorem comes_to_rest {s₀ : Stage} (fresh : s₀.Fresh) (run : Run Anything (.initial s₀) past ⟨.surroundings s, []⟩)
    (rests : s.phase ≠ .running) (steers : c.Starts ∨ s.ticketOf? c ≠ none) (counts : s.Counts c)
    (descends : (s.dialogFor c).Descends rank) (k : Nat) :
    ComesTo (Recording k)
      (Reposes (past ++ [.called none s c]) (s.left.length + (s.dialogFor c).size + 1))
      (past ++ [.called none s c]) ⟨.stage (.call (c.play s)), []⟩ := by
  have safe := Contract.safe Parley.rests.honours fresh.sound run
  have visit : Scene.Rests ⟨s₀, []⟩ ⟨s, past⟩ := safe.2
  exact comesTo_of_concludes (Call.sure counts)
    (concludes_call safe.1 ⟨visit.inRun.trans fresh.still, rests⟩ steers descends)

end Calls

/-! ## A cascade -/

/-- A test that may lead to another node, and a line in each node. -/
def cascade : Dialog where
  nodes := [{ name := ['a'], lines := [{ ifVar := "x=1".toList, link := ['b'] }, { text := ['c'] }] },
    { name := ['b'], lines := [{ text := ['d'] }] }]

/-- A stage whose agents have the cascade for their dialog. -/
def Stage.cascading (vars : Variables) : Stage :=
  { monologue with vars := vars, agents := fun _ => { name := ['a'], dialog := cascade } }

/-- The first node of the cascade ranks above the second. -/
lemma descends_cascade : cascade.Descends fun name => if name = ['a'] then 1 else 0 := by
  unfold Dialog.Descends
  decide +kernel

/-- If everybody only records, a cascade comes to rest after four lines at most. -/
theorem comes_to_rest_cascade : (Stage.cascading Table.empty).Fresh ∧
    cascade.Descends (fun name => if name = ['a'] then 1 else 0) ∧ ∀ k, ComesTo (Recording k)
      (Reposes [.called none (Stage.cascading Table.empty) (.initiate (some 0) none)] 4)
      [.called none (Stage.cascading Table.empty) (.initiate (some 0) none)]
      ⟨.stage (.call ((Call.initiate (some 0) none).play (Stage.cascading Table.empty))), []⟩ := by
  have fresh : (Stage.cascading Table.empty).Fresh := ⟨rfl, rfl, rfl, rfl, rfl, rfl⟩
  have counts : (Stage.cascading Table.empty).Counts (.initiate (some 0) none) := Option.some_ne_none _
  exact ⟨fresh, descends_cascade, fun k =>
    comes_to_rest fresh .nil Phase.noConfusion (.inl (.initiate _ _)) counts descends_cascade k⟩

/-- The counter of the agent stands at the largest number that can be read. -/
def Stage.counted : Stage :=
  Stage.cascading (Table.empty.set ['a'] (List.replicate Numeral.digitLimit '9'))

/-- The counter cannot be moved on, so a call to start a session fails although the dialog descends. -/
theorem overcounted : Stage.counted.Fresh ∧
    (Stage.counted.dialogFor (.initiate (some 0) none)).Descends (fun name => if name = ['a'] then 1 else 0) ∧
    ∀ k n, ¬ ComesTo (Recording k) (Reposes [.called none Stage.counted (.initiate (some 0) none)] n)
      [.called none Stage.counted (.initiate (some 0) none)]
      ⟨.stage (.call ((Call.initiate (some 0) none).play Stage.counted)), []⟩ := by
  have full : Stage.counted.vars.countVisit? (Stage.counted.agents 0).id = none :=
    Variables.countVisit?_eq_none rfl (.plain Numeral.row_nines) (Nat.le_of_eq (Numeral.ofDigits_nines _).symm)
  have idle : Stage.counted.phase = .idle := rfl
  have refused : Stage.counted.opens 0 none = none := by
    rw [Stage.opens, if_pos idle, full]
    rfl
  have play : (Call.initiate (some 0) none).play Stage.counted =
      .done Stage.counted.unopened (.error .integerTooLongToWrite) := by
    obtain ⟨n, -, start⟩ | ⟨fails, -⟩ := Play.initiate_of_refused refused
    · cases start rfl
    · exact fails
  refine ⟨⟨rfl, rfl, rfl, rfl, rfl, rfl⟩, descends_cascade, fun k n comes => ?_⟩
  rw [play] at comes
  exact not_comesTo_of_error comes

end Parley
