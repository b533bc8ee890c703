import Parley.Proofs.Session.Contract

/-!
# Conduct

How far a play carries what is known of a scene, when visits keep to a contract. `Play.Carries` relates what
is known before a play to what is known after it, and is closed under everything that plays are made of.
`Contract.Reads` and `Contract.Consults` collect what is needed for keywords to be looked up and functions
to be called, and `Contract.Moves` for a session to go from line to line; the plays of
`Parley.Session.Consult` and `Parley.Session.Lines` that need nothing else follow. Looking up keywords leaves
the stage as it is, because nobody can turn to it meanwhile.
-/

namespace Parley

namespace Contract

variable (C : Contract) (F G : Scene → Prop)

/-- What is known is still known when something has been reported. -/
def Tells (n : Notice) : Prop :=
  ∀ x, F x → F (x.see (.told n))

/-- A request keeps to the contract, and its reply leads from what was known to what will be known. -/
def Asks (q : Request) : Prop :=
  ∀ x, F x → C.holds (x.asking q) ∧
    ∀ y r, C.Back q (x.asking q) y → C.rule y.past (.replied y.stage q r) → G (y.replying q r)

/-- What is known is still known when the stage has changed. -/
def Changes (f : Stage → Stage) : Prop :=
  ∀ x, F x → F (x.on (f x.stage))

variable {C}

/-- What is known stays known whatever the surroundings do. -/
structure Upholds (C : Contract) (P : Scene → Prop) : Prop where
  holds : ∀ {x}, P x → C.holds x
  follows : ∀ {x y}, P x → C.Follows x y → P y

/-- To follow on a scene is upheld. -/
lemma upholds_follows (z : Scene) : C.Upholds (C.Follows z) :=
  ⟨Follows.holds, Follows.trans⟩

/-- What is upheld carries over a request if asking and replying follow on the scene. -/
lemma Upholds.asking {P : Scene → Prop} (u : C.Upholds P) {q : Request}
    (asking : ∀ x, P x → C.Follows x (x.asking q))
    (replying : ∀ x r, C.holds x → C.rule x.past (.replied x.stage q r) → C.Follows x (x.replying q r)) :
    C.Asks P P q := by
  intro x known
  have out := u.follows known (asking x known)
  refine ⟨u.holds out, ?_⟩
  intro y r back keeps
  have visited := u.follows out (back.follows (u.holds out))
  exact u.follows visited (replying y r (u.holds visited) keeps)

/-- To follow on a scene carries over a request if asking and replying do. -/
lemma asks_follows {z : Scene} {q : Request} (asking : ∀ x, C.holds x → C.Follows x (x.asking q))
    (replying : ∀ x r, C.holds x → C.rule x.past (.replied x.stage q r) → C.Follows x (x.replying q r)) :
    C.Asks (C.Follows z) (C.Follows z) q :=
  (upholds_follows z).asking (fun x follows => asking x follows.holds) replying

end Contract

namespace Play

variable {α β : Type} {C : Contract} {F G H : Scene → Prop}

/-- The play leads from what is known before it to what is known after it, whatever comes of it. -/
def Carries (p : Play α) (C : Contract) (F G : Scene → Prop) : Prop :=
  ∀ x, F x → p.Does C x fun y _ => G y

/-- The play keeps what is known, and leaves the stage as it is. -/
def Looks (p : Play α) (C : Contract) (F : Scene → Prop) : Prop :=
  ∀ x, F x → p.Does C x fun y _ => F y ∧ y.stage = x.stage

/-- A play that only looks carries what is known through. -/
lemma Looks.carries {p : Play α} (h : p.Looks C F) : p.Carries C F F :=
  fun x start => (h x start).mono fun _ _ known => known.1

section Carries

/-- A result that is there already changes nothing that is known. -/
lemma carries_pure {a : α} : (pure a : Play α).Carries C F F :=
  fun _ start => start

/-- A fault changes nothing that is known. -/
lemma carries_fail {e : Fault} : (fail e : Play α).Carries C F F :=
  fun _ start => start

/-- Looking at the stage changes nothing that is known. -/
lemma carries_get : get.Carries C F F :=
  fun _ start => start

/-- A play leads to less than it leads to. -/
lemma Carries.weaken {p : Play α} (weak : ∀ {x}, G x → H x) (h : p.Carries C F G) : p.Carries C F H :=
  fun x start => (h x start).mono fun _ _ known => weak known

/-- Two plays lead on from each other, if a fault of the first leaves enough known. -/
lemma Carries.andThen {p : Play α} {f : α → Play β} (weak : ∀ {x}, G x → H x) (h : p.Carries C F G)
    (hf : ∀ a, (f a).Carries C G H) : (p >>= f).Carries C F H := by
  intro x start
  rw [does_bind]
  refine (h x start).mono ?_
  intro y a known
  cases a with
  | error e => exact weak known
  | ok a => exact hf a y known

/-- Plays that keep what is known keep it one after another. -/
lemma Carries.bind {p : Play α} {f : α → Play β} (h : p.Carries C F F) (hf : ∀ a, (f a).Carries C F F) :
    (p >>= f).Carries C F F :=
  h.andThen id hf

/-- Changing the stage keeps what the change keeps. -/
lemma carries_modify {f : Stage → Stage} (h : Contract.Changes F f) : (modify f).Carries C F F :=
  h

/-- A report keeps what is known with it. -/
lemma carries_tell {n : Notice} (h : Contract.Tells F n) : (tell n).Carries C F F :=
  h

/-- A request leads where it keeps to the contract. -/
lemma carries_ask {q : Request} (h : C.Asks F G q) : (ask q).Carries C F G :=
  h

/-- Catching faults makes no difference to what is known. -/
lemma Carries.attempt {p : Play α} (h : p.Carries C F G) : p.attempt.Carries C F G :=
  fun x start => does_attempt.mpr (h x start)

/-- Plays that keep what is known keep it in any number. -/
lemma carries_each {f : β → Play Unit} (h : ∀ b, (f b).Carries C F F) (bs : List β) :
    (each f bs).Carries C F F := by
  induction bs with
  | nil => exact carries_pure
  | cons b bs ih => exact (h b).bind fun _ => ih

end Carries

section Looks

/-- A result that is there already only looks. -/
lemma looks_pure {a : α} : (pure a : Play α).Looks C F :=
  fun _ start => ⟨start, rfl⟩

/-- Looking at the stage only looks. -/
lemma looks_get : get.Looks C F :=
  fun _ start => ⟨start, rfl⟩

/-- Plays that only look do so one after another. -/
lemma Looks.bind {p : Play α} {f : α → Play β} (h : p.Looks C F) (hf : ∀ a, (f a).Looks C F) :
    (p >>= f).Looks C F := by
  intro x start
  rw [does_bind]
  refine (h x start).mono ?_
  rintro y a ⟨known, e⟩
  cases a with
  | error f => exact ⟨known, e⟩
  | ok a =>
    refine (hf a y known).mono ?_
    rintro z b ⟨known', e'⟩
    exact ⟨known', e'.trans e⟩

/-- A report leaves the stage as it is. -/
lemma looks_tell {n : Notice} (h : Contract.Tells F n) : (tell n).Looks C F :=
  fun x start => ⟨h x start, rfl⟩

/-- If nobody can turn to the stage before a reply, the stage is the same when it comes. -/
lemma looks_ask {q : Request} (h : C.Asks F F q) (closed : q.isOpen = false) : (ask q).Looks C F := by
  intro x start
  obtain ⟨out, back⟩ := h x start
  refine ⟨out, ?_⟩
  intro y r visit keeps
  refine ⟨back y r visit keeps, ?_⟩
  unfold Contract.Back at visit
  rw [closed] at visit
  have e : y = x.asking q := visit
  subst e
  rfl

end Looks

end Play

/-- What is needed so that keywords can be looked up. -/
structure Contract.Reads (C : Contract) (F : Scene → Prop) : Prop where
  told : ∀ n, Tells F n
  keyword : ∀ m key, C.Asks F F (.keyword m key)

/-- What is needed so that functions can be called and variables written too. -/
structure Contract.Consults (C : Contract) (F : Scene → Prop) : Prop extends C.Reads F where
  function : ∀ m name parameter, C.Asks F F (.function m name parameter)
  called : ∀ name parameter,
    (Play.announce .functionCalled fun agent _ => .function agent name parameter).Carries C F F
  builtIn : ∀ name parameter, Changes F fun s => (s.callBuiltIn name parameter).2
  written : ∀ key value, Changes F fun s => { s with vars := s.vars.set key value }

/-- What is needed so that a session can go from line to line. Less may be known when everybody has heard of
the node that it comes to. -/
structure Contract.Moves (C : Contract) (F G : Scene → Prop) : Prop where
  weak : ∀ {x}, F x → G x
  reported : ∀ n, Tells G n
  entered : (Play.announce .nodeEntered .node).Carries C G G
  node : ∀ {x link n}, F x → Play.targetOf x.stage link = some n →
    F (x.on { x.stage with session := x.stage.session.map fun k => { k with node := n, index := 0 } })
  index : ∀ i, Changes F fun s =>
    { s with session := s.session.map fun x => { x with index := i } }

/-- Often it does not matter which node a session comes to. -/
lemma Contract.enters {F : Scene → Prop} (h : ∀ n, Changes F fun s =>
    { s with session := s.session.map fun x => { x with node := n, index := 0 } }) {x : Scene} {link : Text} {n : Node}
    (known : F x) (_ : Play.targetOf x.stage link = some n) :
    F (x.on { x.stage with session := x.stage.session.map fun k => { k with node := n, index := 0 } }) :=
  h n x known

namespace Play

variable {C : Contract} {F G H : Scene → Prop}

/-! ## Keywords -/

/-- Asking the members for a keyword leaves the stage as it is. -/
lemma looks_askKeyword (c : C.Reads F) (key : Text) (ms : List Member) :
    (askKeyword key ms).Looks C F := by
  induction ms with
  | nil => exact looks_pure
  | cons m ms ih =>
    refine (looks_ask (c.keyword m key) rfl).bind ?_
    intro value
    cases value with
    | none => exact ih
    | some value => exact looks_pure

/-- Looking up a keyword leaves the stage as it is. -/
lemma looks_resolveKeyword (c : C.Reads F) (key : Text) : (resolveKeyword key).Looks C F := by
  refine looks_get.bind fun s => ?_
  cases s.keyword? key with
  | none => exact looks_askKeyword c key s.members
  | some value => exact looks_pure

/-- Expanding a text leaves the stage as it is, from any state of the expansion. -/
lemma looks_expandFrom (c : C.Reads F) (fuel count : Nat) (known : Table Text Text) (t : Text) :
    (Keyword.expandFrom resolveKeyword fuel count known t).Looks C F := by
  induction fuel generalizing count known t with
  | zero =>
    unfold Keyword.expandFrom
    split
    · exact looks_pure
    · exact looks_pure
    · contradiction
  | succ fuel ih =>
    unfold Keyword.expandFrom
    split
    · exact looks_pure
    · contradiction
    · rename_i e
      cases e
      -- A key that is known already is not looked up again.
      split
      · exact ih _ _ _
      · exact (looks_resolveKeyword c _).bind fun _ => ih _ _ _

/-- Expanding a text leaves the stage as it is. -/
lemma looks_expandText (c : C.Reads F) (t : Text) : (expandText t).Looks C F := by
  refine looks_get.bind fun s => ?_
  refine (looks_expandFrom c _ _ _ _).bind fun e => ?_
  dsimp only
  split
  · exact (looks_tell (c.told _)).bind fun _ => looks_pure
  · exact looks_pure

/-- Expanding several texts leaves the stage as it is. -/
lemma looks_expandTexts (c : C.Reads F) (ts : List Text) : (expandTexts ts).Looks C F := by
  induction ts with
  | nil => exact looks_pure
  | cons t ts ih =>
    refine (looks_expandText c t).bind fun t => ?_
    exact ih.bind fun ts => looks_pure

/-- Expanding a parameter leaves the stage as it is. -/
lemma looks_expandParameter (c : C.Reads F) (t : Text) : (expandParameter t).Looks C F := by
  unfold expandParameter
  split
  · exact looks_pure
  · exact looks_expandText c t

/-- Expanding a line leaves the stage as it is. -/
lemma looks_expandLine (c : C.Reads F) (l : Line) : (expandLine l).Looks C F := by
  refine (looks_expandText c l.speaker).bind fun speaker => ?_
  refine (looks_expandText c l.text).bind fun text => ?_
  exact (looks_expandText c l.portrait).bind fun portrait => looks_pure

/-- Expanding a query leaves the stage as it is. -/
lemma looks_expandQuery (c : C.Reads F) (q : Query) (ticket : Ticket) :
    (expandQuery q ticket).Looks C F := by
  refine (looks_expandTexts c _).bind fun labels => ?_
  refine (looks_expandText c q.text).bind fun text => ?_
  exact (looks_expandText c q.description).bind fun description => looks_pure

/-! ## Events and functions -/

/-- Notifying a handler keeps what reports and its visit keep. -/
lemma carries_notify {e : Event} {h : HandlerId} (told : ∀ n, Contract.Tells F n)
    (asks : C.Asks F F (.handle h e)) : (notify e h).Carries C F F := by
  refine (carries_ask asks).attempt.bind fun r => ?_
  cases r with
  | ok u => exact carries_pure
  | error f => exact carries_tell (told _)

/-- Publishing an event keeps what reports and the visits of all handlers keep. -/
lemma carries_publish {e : Event} (told : ∀ n, Contract.Tells F n) (asks : ∀ h, C.Asks F F (.handle h e)) :
    (publish e).Carries C F F := by
  refine carries_get.bind fun s => ?_
  cases s.bus with
  | none => exact carries_pure
  | some bus => exact carries_each (fun h => carries_notify told (asks h)) _

/-- Announcing where the session stands keeps what its publication keeps. -/
lemma carries_announce {kind : EventKind} {payload : (agent node : Text) → Payload}
    (told : ∀ n, Contract.Tells F n)
    (asks : ∀ h k agent node, C.Asks F F (.handle h ⟨kind, some k, payload agent node⟩)) :
    (announce kind payload).Carries C F F := by
  refine carries_get.bind fun s => ?_
  cases s.session with
  | none => exact carries_fail
  | some x => exact carries_publish told fun h => asks h _ _ _

/-- Calling a built-in function keeps what its change keeps. -/
lemma carries_callBuiltIn {name parameter : Text}
    (builtIn : Contract.Changes F fun s => (s.callBuiltIn name parameter).2) :
    (callBuiltIn name parameter).Carries C F F :=
  builtIn

/-- Offering a function to all members keeps what consulting them keeps. -/
lemma carries_offerToAll (c : C.Consults F) (name parameter : Text) :
    (offerToAll name parameter).Carries C F F := by
  refine carries_get.bind fun s => ?_
  refine (carries_callBuiltIn (c.builtIn name parameter)).bind fun _ => carries_each (fun m => ?_) _
  exact (carries_ask (c.function m name parameter)).bind fun _ => carries_pure

/-- Asking one member after another for a function keeps what consulting them keeps. -/
lemma carries_askFunction (c : C.Consults F) (name parameter : Text) (ms : List Member) :
    (askFunction name parameter ms).Carries C F F := by
  induction ms with
  | nil => exact carries_pure
  | cons m ms ih =>
    refine (carries_ask (c.function m name parameter)).bind fun r => ?_
    cases r with
    | none => exact ih
    | some result => exact carries_pure

/-- Asking for the result of a function keeps what consulting keeps. -/
lemma carries_decide (c : C.Consults F) (name parameter : Text) :
    (decide name parameter).Carries C F F := by
  refine carries_get.bind fun s => ?_
  refine (carries_callBuiltIn (c.builtIn name parameter)).bind fun r => ?_
  cases r with
  | none => exact carries_askFunction c name parameter s.members
  | some result => exact carries_pure

/-- Asking for the images keeps what the request keeps. -/
lemma carries_images (asks : ∀ m, C.Asks F F (.images m)) : images.Carries C F F := by
  refine carries_get.bind fun s => ?_
  generalize s.members = ms
  induction ms with
  | nil => exact carries_pure
  | cons m ms ih =>
    refine (carries_ask (asks m)).bind fun here => ?_
    exact ih.bind fun rest => carries_pure

/-- Setting a variable keeps what consulting keeps. -/
lemma carries_assign (c : C.Consults F) (a : Assignment) : (assign a).Carries C F F := by
  unfold assign
  split
  · exact carries_pure
  · exact carries_modify (c.written a.key a.value)

/-- Calling a function keeps what consulting keeps. -/
lemma carries_callFunction (c : C.Consults F) (call : Text) : (callFunction call).Carries C F F := by
  unfold callFunction
  split
  · exact carries_pure
  · refine (looks_expandParameter c.toReads _).carries.bind fun parameter => ?_
    exact (c.called _ parameter).bind fun _ => carries_offerToAll c _ parameter

/-- Testing a function keeps what consulting keeps. -/
lemma carries_functionHolds (c : C.Consults F) (t : Text) : (functionHolds t).Carries C F F := by
  unfold functionHolds
  split
  · exact carries_pure
  · refine (looks_expandParameter c.toReads _).carries.bind fun parameter => ?_
    refine (looks_expandParameter c.toReads _).carries.bind fun desired => ?_
    refine (carries_decide c _ parameter).bind fun r => ?_
    cases r with
    | none => exact carries_pure
    | some result => exact carries_pure

/-! ## From line to line -/

/-- Going to a line keeps what moves keep. -/
lemma carries_goTo (c : C.Moves F G) (i : Nat) : (goTo i).Carries C F F :=
  carries_modify (c.index i)

/-- Moving on leads where moves lead. -/
lemma carries_moveOn (c : C.Moves F G) (link : Text) : (moveOn link).Carries C F G := by
  intro x known
  refine does_bind.mpr (does_get.mpr ?_)
  cases target : targetOf x.stage link with
  | some n =>
    simp only [Then, target]
    exact does_bind.mpr (does_modify.mpr (c.entered _ (c.weak (c.node known target))))
  | none =>
    simp only [Then, target]
    cases x.stage.session with
    | none => exact c.weak known
    | some s => exact ((carries_goTo c _).weaken c.weak) x known

/-- Passing over lines leads where moves lead. -/
lemma carries_passOver (c : C.Moves F G) : passOver.Carries C F G := by
  refine carries_get.andThen c.weak fun s => ?_
  cases s.session with
  | none => exact carries_fail.weaken c.weak
  | some x =>
    dsimp only
    split
    · exact (carries_goTo c _).weaken c.weak
    · refine (carries_goTo c _).andThen c.weak fun _ => ?_
      split
      · split
        · exact carries_pure.weaken c.weak
        · exact carries_moveOn c []
      · exact carries_pure.weaken c.weak

/-- Branching leads where moves lead. -/
lemma carries_branch (c : C.Moves F G) (holds : Bool) : (branch holds).Carries C F G := by
  refine carries_get.andThen c.weak fun s => ?_
  cases s.session with
  | none => exact carries_fail.weaken c.weak
  | some x =>
    dsimp only
    split
    · exact carries_moveOn c []
    · exact carries_passOver c

/-- What a line does fulfils a condition, if it holds wherever a session has moved on, and the end of the
session, a query and a shown line fulfil it. Its function may be called before anything moves on. -/
lemma does_perform (c : C.Consults F) (weak : ∀ {x}, F x → G x) (m : C.Moves G H) {x : Scene} {l : Line}
    {post : Scene → Except Fault Unit → Prop} (start : F x) (moved : ∀ y r, H y → post y r)
    (ends : endSession.Carries C G H) (asks : (askQuery l.query).Does C x post)
    (shows : (showLine l).Does C x post) : (perform l).Does C x post := by
  have carried {p : Play Unit} {y : Scene} (known : G y) (h : p.Carries C G H) : p.Does C y post :=
    (h y known).mono moved
  unfold perform
  split
  · exact carried (weak start) (carries_get.andThen m.weak fun s => carries_branch m _)
  split
  · have called := (carries_functionHolds c l.ifFunction).weaken weak
    exact ((called.andThen m.weak fun r => carries_branch m r) x start).mono moved
  split
  · exact asks
  split
  · exact carried (weak start) (carries_get.andThen m.weak fun s => carries_branch m _)
  split
  · exact carried (weak start) (carries_passOver m)
  split
  · exact carried (weak start) (carries_moveOn m [])
  split
  · exact carried (weak start) ends
  split
  · exact carried (weak start) (carries_moveOn m [])
  · exact shows

/-- A line fulfils a condition, if it holds wherever a session has moved on, and the end of the session, its
query and its being shown fulfil it. They are all that is left when the variable has been written and the
function has been called. -/
lemma does_runLine (c : C.Consults F) (weak : ∀ {x}, F x → G x) (m : C.Moves G H) {x : Scene}
    {post : Scene → Except Fault Unit → Prop} (start : F x) (moved : ∀ y r, H y → post y r)
    (ends : endSession.Carries C G H)
    (asks : ∀ {y l}, x.stage.currentLine? = some l → F y → y.stage.phase = .running →
      (askQuery l.query).Does C y post)
    (shows : ∀ {y l}, x.stage.currentLine? = some l → F y → y.stage.phase = .running →
      (showLine l).Does C y post) :
    runLine.Does C x post := by
  refine does_bind.mpr (does_get.mpr ?_)
  cases line : x.stage.currentLine? with
  | none =>
    simp only [Then, line]
    exact (ends x (weak start)).mono moved
  | some l =>
    simp only [Then, line]
    have first := (carries_assign c l.setVar).bind fun _ => carries_callFunction c l.callFunction
    -- What comes before the test of the phase is taken as one play.
    rw [← bind_assoc]
    refine does_bind.mpr ((first x start).mono ?_)
    intro y r before
    cases r with
    | error e => exact moved y _ (m.weak (weak before))
    | ok u =>
      refine does_bind.mpr (does_get.mpr ?_)
      by_cases running : y.stage.phase = .running
      · simp only [Then, if_pos running]
        exact does_perform c weak m before moved ends (asks line before running) (shows line before running)
      · simp only [Then, if_neg running]
        exact moved y _ (m.weak (weak before))

end Play

end Parley
