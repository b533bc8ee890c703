import Parley.Proofs.Session.Progress

/-!
# Tables

What a stage makes of keywords and functions if its members answer from the tables of a company.

* `Play.Yields`: a play comes to a result, and asks for nothing but what it may.
* `Stage.expandedIn` and `Stage.resultIn`: a text with its keywords replaced, and what a function gives.

`yields_functionHolds` closes the file: a test of a function passes if the first who has the function gives the
desired result.
-/

namespace Parley

namespace Play

variable {α β : Type} {K : Company} {P : Request → Prop} {s t u : Stage}

/-- A play that is left with a company ends on a stage with a result, and asks for nothing else. -/
def Yields (K : Company) (P : Request → Prop) (p : Play α) (s t : Stage) (a : α) : Prop :=
  ∃ signs, p.Makes K s signs t a ∧ ∀ q, .asked q ∈ signs → P q

/-- A result that is there already is come to at once. -/
lemma yields_pure {a : α} : (pure a : Play α).Yields K P s s a :=
  ⟨[], makes_pure, fun _ mem => absurd mem List.not_mem_nil⟩

/-- Two plays one after another come to the result of the second, and ask for no more than both may. -/
lemma Yields.bind {p : Play α} {f : α → Play β} {a : α} {b : β} (h : p.Yields K P s t a)
    (hf : (f a).Yields K P t u b) : (p >>= f).Yields K P s u b := by
  obtain ⟨signs, first, only⟩ := h
  obtain ⟨signs', second, only'⟩ := hf
  refine ⟨signs ++ signs', first.bind second, fun q mem => ?_⟩
  cases List.mem_append.mp mem with
  | inl mem => exact only q mem
  | inr mem => exact only' q mem

/-- Plays that run alike on a stage come to the same there. -/
lemma Yields.of_eq {p p' : Play α} {a : α} (h : p.Yields K P s t a) (e : p' s = p s) :
    p'.Yields K P s t a := by
  obtain ⟨signs, ⟨ls, plays, seen⟩, only⟩ := h
  rw [← e] at plays
  exact ⟨signs, ⟨ls, plays, seen⟩, only⟩

/-- What depends on the stage is come to on the stage as it stands. -/
lemma yields_of_get {f : Stage → Play α} {a : α} (h : (f s).Yields K P s t a) : (get >>= f).Yields K P s t a := by
  obtain ⟨signs, makes, only⟩ := h
  exact ⟨signs, makes_of_get makes, only⟩

/-- Setting the stage asks for nothing. -/
lemma yields_set : (set t).Yields K P s t () :=
  ⟨[], makes_set, fun _ mem => absurd mem List.not_mem_nil⟩

/-- Changing the stage asks for nothing. -/
lemma yields_modify {f : Stage → Stage} : (modify f).Yields K P s (f s) () :=
  ⟨[], makes_modify, fun _ mem => absurd mem List.not_mem_nil⟩

/-- Reporting asks for nothing. -/
lemma yields_tell {n : Notice} : (tell n).Yields K P s s () := by
  refine ⟨[.told n], makes_tell, fun q mem => ?_⟩
  cases mem with
  | tail _ mem => cases mem

/-- A request that does not hand the stage out comes to what the company replies. -/
lemma yields_ask {q : Request} (hands : q.handsOut = false) (may : P q) :
    (ask q).Yields K P s s (K.reply q) := by
  refine ⟨[.asked q], makes_ask hands, fun q' mem => ?_⟩
  cases mem with
  | head => exact may
  | tail _ mem => cases mem

/-- Plays that leave the stage as it is do so one after another. -/
lemma yields_each {f : β → Play Unit} (h : ∀ b, (f b).Yields K P s s ()) (bs : List β) :
    (each f bs).Yields K P s s () := by
  induction bs with
  | nil => exact yields_pure
  | cons b bs ih => exact (h b).bind ih

end Play

/-! ## Keywords -/

namespace Stage

/-- What a keyword stands for. The stage itself is asked first, then one member after another. -/
def keywordIn (K : Company) (s : Stage) (key : Text) : Option Text :=
  (s.keyword? key).or (s.members.findSome? fun m => K.reply (.keyword m key))

/-- What a text becomes when its keywords are replaced. -/
def expandedIn (K : Company) (s : Stage) (t : Text) : Text :=
  (Keyword.expand (m := Id) (s.keywordIn K) s.keywordLimit t).text

/-- What the first who has a function gives. The stage itself is asked first, then one member after another. -/
def resultIn (K : Company) (s : Stage) (name parameter : Text) : Option (Option Text) :=
  (s.callBuiltIn name parameter).1.or (s.members.findSome? fun m => K.reply (.function m name parameter))

end Stage

namespace Play

variable {K : Company} {P : Request → Prop} {s : Stage}

/-- Of the members, the first who knows a keyword decides what it stands for. -/
lemma yields_askKeyword (may : ∀ m key, P (.keyword m key)) (key : Text) (ms : List Member) :
    (askKeyword key ms).Yields K P s s (ms.findSome? fun m => K.reply (.keyword m key)) := by
  induction ms with
  | nil => exact yields_pure
  | cons m ms ih =>
    refine (yields_ask rfl (may m key)).bind ?_
    rw [List.findSome?_cons]
    cases K.reply (.keyword m key) with
    | none => exact ih
    | some value => exact yields_pure

/-- A keyword is looked up as the tables say. -/
lemma yields_resolveKeyword (may : ∀ m key, P (.keyword m key)) (key : Text) :
    (resolveKeyword key).Yields K P s s (s.keywordIn K key) := by
  refine yields_of_get ?_
  unfold Stage.keywordIn
  cases s.keyword? key with
  | none => exact yields_askKeyword may key s.members
  | some value => exact yields_pure

/-- A text is expanded as the tables say, from any state of the expansion. -/
lemma yields_expandFrom (may : ∀ m key, P (.keyword m key)) (fuel count : Nat) (known : Table Text Text)
    (t : Text) : (Keyword.expandFrom resolveKeyword fuel count known t).Yields K P s s
      (Keyword.expandFrom (m := Id) (s.keywordIn K) fuel count known t) := by
  induction fuel generalizing count known t with
  | zero =>
    unfold Keyword.expandFrom
    split
    · exact yields_pure
    · exact yields_pure
    · contradiction
  | succ fuel ih =>
    unfold Keyword.expandFrom
    split
    · exact yields_pure
    · contradiction
    · rename_i e
      cases e
      split
      · exact ih _ _ _
      · exact (yields_resolveKeyword may _).bind (ih _ _ _)

/-- A text is expanded as the tables say. -/
lemma yields_expandText (may : ∀ m key, P (.keyword m key)) (t : Text) :
    (expandText t).Yields K P s s (s.expandedIn K t) := by
  refine yields_of_get ((yields_expandFrom may _ _ _ _).bind ?_)
  unfold Stage.expandedIn Keyword.expand
  dsimp only
  split
  · exact yields_tell.bind yields_pure
  · exact yields_pure

/-- Nothing expands to nothing. -/
lemma expandedIn_nil : s.expandedIn K [] = [] := by
  unfold Stage.expandedIn Keyword.expand
  cases s.keywordLimit.toNat with
  | zero | succ fuel => rfl

/-- A parameter is expanded as the tables say. -/
lemma yields_expandParameter (may : ∀ m key, P (.keyword m key)) (t : Text) :
    (expandParameter t).Yields K P s s (s.expandedIn K t) := by
  unfold expandParameter
  cases t with
  | nil =>
    rw [expandedIn_nil]
    exact yields_pure
  | cons c t => exact yields_expandText may (c :: t)

/-! ## Functions -/

/-- A built-in function is carried out by the stage alone. -/
lemma yields_callBuiltIn (name parameter : Text) : (callBuiltIn name parameter).Yields K P s
    (s.callBuiltIn name parameter).2 (s.callBuiltIn name parameter).1 :=
  yields_of_get (yields_set.bind yields_pure)

/-- Of the members, the first who has a function gives its result. -/
lemma yields_askFunction {name parameter : Text} (may : ∀ m, P (.function m name parameter)) (ms : List Member) :
    (askFunction name parameter ms).Yields K P s s (ms.findSome? fun m => K.reply (.function m name parameter)) := by
  induction ms with
  | nil => exact yields_pure
  | cons m ms ih =>
    refine (yields_ask rfl (may m)).bind ?_
    rw [List.findSome?_cons]
    cases K.reply (.function m name parameter) with
    | none => exact ih
    | some result => exact yields_pure

/-- A function gives what the tables say, and only a built-in one changes the stage. -/
lemma yields_decide {name parameter : Text} (may : ∀ m, P (.function m name parameter)) :
    (decide name parameter).Yields K P s (s.callBuiltIn name parameter).2 (s.resultIn K name parameter) := by
  refine yields_of_get ((yields_callBuiltIn name parameter).bind ?_)
  unfold Stage.resultIn
  cases (s.callBuiltIn name parameter).1 with
  | none => exact yields_askFunction may s.members
  | some result => exact yields_pure

end Play

namespace Stage

/-- Whether the first who has a function gives the desired result. -/
def passesIn (K : Company) (s : Stage) (test : Play.FunctionTest) : Bool :=
  match s.resultIn K test.name (s.expandedIn K test.parameter) with
  | some result => Text.lower (result.getD []) == Text.lower (s.expandedIn K test.desired)
  | none => false

/-- Whether a test of a function gives the desired result. -/
def functionPasses (K : Company) (s : Stage) (t : Text) : Bool :=
  (Play.functionTest? t).any (s.passesIn K)

/-- The stage when a function has been tested, which may be one of its own. -/
def functionTested (K : Company) (s : Stage) (t : Text) : Stage :=
  match Play.functionTest? t with
  | none => s
  | some test => (s.callBuiltIn test.name (s.expandedIn K test.parameter)).2

end Stage

/-- A test of a function passes as the tables say. -/
lemma Play.yields_functionHolds {K : Company} {P : Request → Prop} {s : Stage}
    (keywords : ∀ m key, P (.keyword m key)) (functions : ∀ m name parameter, P (.function m name parameter))
    (t : Text) : (functionHolds t).Yields K P s (s.functionTested K t) (s.functionPasses K t) := by
  unfold functionHolds Stage.functionTested Stage.functionPasses
  cases functionTest? t with
  | none => exact yields_pure
  | some test =>
    refine (yields_expandParameter keywords test.parameter).bind ?_
    refine (yields_expandParameter keywords test.desired).bind ?_
    refine (yields_decide fun m => functions m test.name _).bind ?_
    simp only [Option.any_some, Stage.passesIn]
    cases s.resultIn K test.name (s.expandedIn K test.parameter) with
    | none => exact yields_pure
    | some result => exact yields_pure

end Parley
