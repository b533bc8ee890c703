import Parley.Proofs.Session.Pace

/-!
# Progress

What a stage comes to, whatever its surroundings do within a rule.

* `ComesTo`: there is always a step to be taken, and whichever is taken, something comes about in the end.
* `Rule.Binds`: the surroundings have no choice but to give a certain reply.
* `comesTo_plays`: a routine comes as far as the surroundings are bound to the replies of a company.

`comesTo_of_makes` closes the file: a play comes to its result if all replies to it are bound.
-/

namespace Parley

/-- Something comes about, whatever is done within a rule. -/
inductive ComesTo (rule : Rule) (goal : List Label → Moment → Prop) : List Label → Moment → Prop
  | here {past : List Label} {m : Moment} (h : goal past m) : ComesTo rule goal past m
  | step {past : List Label} {m : Moment} (possible : ∃ l n, Step m l n ∧ rule past l)
    (leads : ∀ {l n}, Step m l n → rule past l → ComesTo rule goal (past ++ [l]) n) :
    ComesTo rule goal past m

namespace ComesTo

variable {rule : Rule} {goal goal' : List Label → Moment → Prop} {past : List Label} {m n : Moment} {l : Label}

/-- What comes about on the way to something else comes about. -/
lemma trans (h : ComesTo rule goal past m) (next : ∀ {past m}, goal past m → ComesTo rule goal' past m) :
    ComesTo rule goal' past m := by
  induction h with
  | here h => exact next h
  | step possible leads ih => exact .step possible fun step keeps => ih step keeps

/-- What comes about implies what comes about. -/
lemma mono (h : ComesTo rule goal past m) (imp : ∀ {past m}, goal past m → goal' past m) :
    ComesTo rule goal' past m :=
  h.trans fun h => .here (imp h)

/-- A stage that has control has one step to take. -/
lemma work (works : m.work? = some (l, n)) (keeps : rule past l) (h : ComesTo rule goal (past ++ [l]) n) :
    ComesTo rule goal past m := by
  refine .step ⟨l, n, .work works, keeps⟩ fun step _ => ?_
  cases step with
  | work works' =>
    obtain ⟨rfl, rfl⟩ := Prod.mk.inj (Option.some.inj (works.symm.trans works'))
    exact h
  | enter c enters => cases works
  | reply r => cases works

end ComesTo

/-- After what has been seen, a request gets the reply of a company and nothing else happens before. -/
structure Rule.Binds (rule : Rule) (K : Company) (past : List Label) (s : Stage) (q : Request) : Prop where
  uncalled : ∀ {c}, ¬ rule past (.called (some q) s c)
  replied : ∀ {r}, rule past (.replied s q r) ↔ r = .ok (K.reply q)

/-- The surroundings have no hold on the steps of the stage itself. -/
structure Rule.Free (rule : Rule) : Prop where
  silent : ∀ {past}, rule past .silent
  told : ∀ {past n}, rule past (.told n)
  began : ∀ {past s}, rule past (.began s)
  asked : ∀ {past s q}, rule past (.asked s q)
  answered : ∀ {past s r}, rule past (.answered s r)

/-- When a request is out, the next step is a call, or the reply to it. -/
def Frame.Awaits {α : Type} (f : Frame α) : Prop :=
  ∀ {s q k ps l n}, Step ⟨.surroundings s, f.hold q k :: ps⟩ l n →
    (∃ c, l = .called (some q) s c) ∨ ∃ r, l = .replied s q r ∧ n = ⟨.stage (f.act (k r s)), ps⟩

/-- While a call is worked on, a request waits for its reply. -/
lemma Frame.awaits_call : Frame.call.Awaits := by
  intro s q k ps l n step
  cases step with
  | work h => cases h
  | enter c h => exact .inl ⟨c, rfl⟩
  | reply r => exact .inr ⟨r, rfl, rfl⟩

/-- While a line is run, a request waits for its reply. -/
lemma Frame.awaits_run (a : Answer) : (Frame.run a).Awaits := by
  intro s q k ps l n step
  cases step with
  | work h => cases h
  | enter c h => exact .inl ⟨c, rfl⟩
  | reply r => exact .inr ⟨r, rfl, rfl⟩

section Plays

variable {α : Type} {rule : Rule} {goal : List Label → Moment → Prop} {K : Company} {f : Frame α}
  {past : List Label} {ps : List Pending}

/-- A routine comes as far as the company replies to what it asks. -/
theorem comesTo_plays (free : rule.Free) (awaits : f.Awaits) {r : Routine α}
    (bound : ∀ {ls s q ls'}, (r.plays K).1 = ls ++ .asked s q :: ls' →
      rule.Binds K (past ++ ls ++ [.asked s q]) s q)
    (h : ComesTo rule goal (past ++ (r.plays K).1) ⟨.stage (f.act (r.plays K).2), ps⟩) :
    ComesTo rule goal past ⟨.stage (f.act r), ps⟩ := by
  induction r generalizing past with
  | done s a =>
    rw [Routine.plays, List.append_nil] at h
    exact h
  | tell n rest ih =>
    rw [Routine.plays_tell] at h bound
    refine .work (f.tells n rest ps) free.told (ih ?_ ?_)
    · intro ls s q ls' e
      have inner := @bound (.told n :: ls) s q ls' (by rw [e]; rfl)
      simpa only [List.append_assoc, List.cons_append, List.nil_append] using inner
    · simpa only [List.append_assoc, List.cons_append, List.nil_append] using h
  | ask s q k ih =>
    cases hands : q.handsOut with
    | true =>
      rw [Routine.plays_handsOut hands, List.append_nil] at h
      exact h
    | false =>
      rw [Routine.plays_ask hands] at h bound
      refine .work (f.asks s q k ps) free.asked ?_
      have binds : rule.Binds K (past ++ [.asked s q]) s q := by
        have out := @bound [] s q _ rfl
        rw [List.append_nil] at out
        exact out
      have replied := binds.replied.mpr rfl
      -- While the reply is waited for, the surroundings may call or reply. The rule leaves them one reply.
      refine .step ⟨_, _, f.replies s q k ps (.ok (K.reply q)), replied⟩ fun step keeps => ?_
      obtain ⟨c, rfl⟩ | ⟨r, rfl, rfl⟩ := awaits step
      · exact (binds.uncalled keeps).elim
      · obtain rfl := binds.replied.mp keeps
        rw [List.append_assoc]
        refine ih (.ok (K.reply q)) s ?_ ?_
        · intro ls s' q' ls' e
          have inner := @bound (.asked s q :: .replied s q (.ok (K.reply q)) :: ls) s' q' ls' (by rw [e]; rfl)
          simpa only [List.append_assoc, List.cons_append, List.nil_append] using inner
        · simpa only [List.append_assoc, List.cons_append, List.nil_append] using h

variable {s t : Stage} {signs : List Sign} {a : α} {p : Play α}

/-- A play comes to its result, if the surroundings are bound to reply to all that it asks. -/
theorem comesTo_of_makes (free : rule.Free) (awaits : f.Awaits)
    (bound : ∀ {ls s q}, .asked q ∈ signs → rule.Binds K (past ++ ls) s q) (makes : p.Makes K s signs t a)
    (h : ∀ {ls}, performance ls = signs →
      ComesTo rule goal (past ++ ls) ⟨.stage (f.act (.done t (.ok a))), ps⟩) :
    ComesTo rule goal past ⟨.stage (f.act (p s)), ps⟩ := by
  obtain ⟨ls, plays, seen⟩ := makes
  refine comesTo_plays (K := K) free awaits ?_ ?_
  · intro ls₁ s q ls₂ e
    rw [plays] at e
    have split : ls = ls₁ ++ .asked s q :: ls₂ := e
    rw [List.append_assoc]
    apply bound
    rw [← seen, split, performance_append]
    exact List.mem_append_right _ List.mem_cons_self
  · rw [plays]
    exact h seen

end Plays

end Parley
