import Parley.Session.Call

/-!
# The machine

A stage and its surroundings take turns. When a call comes in, the stage works until it asks for
something, and then the surroundings have control: they may reply, or turn to the stage with another
call before they do. So calls and requests nest, and the requests that have not been replied to form a
stack. Lines are run by a loop around the outermost call that needs it: while it is at work, calls
further in leave the running to it. What can be seen of the steps makes up a run.
-/

namespace Parley

/-- What the stage is doing: working on a call, or running lines before the answer to one is given. -/
inductive Activity where
  | call (r : Routine Outcome)
  | run (a : Answer) (r : Routine Unit)

/-- A request that has not been replied to, and how the stage goes on when it has. -/
inductive Pending where
  | call (q : Request) (resume : Except Fault (Reply q) → Stage → Routine Outcome)
  | run (a : Answer) (q : Request) (resume : Except Fault (Reply q) → Stage → Routine Unit)

namespace Pending

/-- The request that is waiting for an answer. -/
def request : Pending → Request
  | .call q _ => q
  | .run _ q _ => q

/-- What goes on once the answer is there. -/
def resume : (p : Pending) → Except Fault (Reply p.request) → Stage → Activity
  | .call _ k, reply, s => .call (k reply s)
  | .run a _ k, reply, s => .run a (k reply s)

/-- The request that the surroundings owe a reply to. -/
def owed? (ps : List Pending) : Option Request :=
  ps.head?.map request

/-- Whether the latest request lets the surroundings turn to the stage first. -/
def isOpen (ps : List Pending) : Bool :=
  (owed? ps).all Request.isOpen

end Pending

/-- Who has control. -/
inductive Control where
  | stage (a : Activity)
  | surroundings (s : Stage)

/-- A moment: who has control, and the requests that have not been replied to, the latest first. -/
structure Moment where
  control : Control
  pending : List Pending

/-- What the surroundings see of a step of the stage. -/
inductive Sign where
  | silent
  | told (n : Notice)
  | asked (q : Request)
  | answered (r : Except Fault Answer)

/-- What there is to see of a step, with the stage whenever it changes hands. -/
inductive Label where
  /-- The stage turns from a call to the lines that it has to run. -/
  | silent
  | began (s : Stage)
  | told (n : Notice)
  | asked (s : Stage) (q : Request)
  | answered (s : Stage) (r : Except Fault Answer)
  /-- The surroundings make a call; `owed` is the request that they have yet to reply to, if any. -/
  | called (owed : Option Request) (s : Stage) (c : Call)
  | replied (s : Stage) (q : Request) (r : Except Fault (Reply q))

/-- What the surroundings see of a step that they have not taken themselves. -/
def Label.sign : Label → Sign
  | .told n => .told n
  | .asked _ q => .asked q
  | .answered _ r => .answered r
  | _ => .silent

namespace Moment

/-- The moment at which a stage is handed to its surroundings and nothing has happened yet. -/
def initial (s : Stage) : Moment :=
  ⟨.surroundings s, []⟩

/-- The moment after the innermost activity has come to its answer. -/
def answering (s : Stage) (ps : List Pending) (r : Except Fault Answer) : Label × Moment :=
  (.answered s r, ⟨.surroundings s, ps⟩)

/-- The next step of a stage that works on a call. -/
def stepCall (ps : List Pending) : Routine Outcome → Label × Moment
  | .tell n rest => (.told n, ⟨.stage (.call rest), ps⟩)
  | .ask s q k => (.asked s q, ⟨.surroundings s, .call q k :: ps⟩)
  | .done s (.error e) => answering s ps (.error e)
  | .done s (.ok (.answer a)) => answering s ps (.ok a)
  | .done s (.ok (.run a)) =>
    -- The loop further out will come to the lines once this call is over.
    if s.inRun then answering s ps (.ok a)
    else (.silent, ⟨.stage (.run a (.done { s with inRun := true } (.ok ()))), ps⟩)

/-- The next step of a running loop. -/
def stepRun (ps : List Pending) (a : Answer) : Routine Unit → Label × Moment
  | .tell n rest => (.told n, ⟨.stage (.run a rest), ps⟩)
  | .ask s q k => (.asked s q, ⟨.surroundings s, .run a q k :: ps⟩)
  | .done s (.error e) => answering { s with inRun := false } ps (.error e)
  | .done s (.ok ()) =>
    if s.phase = .running then (.began s, ⟨.stage (.run a (Play.runLine s)), ps⟩)
    else answering { s with inRun := false } ps (.ok a)

/-- The next step of the stage, if it has control. -/
def work? (m : Moment) : Option (Label × Moment) :=
  match m.control with
  | .surroundings _ => none
  | .stage (.call r) => some (stepCall m.pending r)
  | .stage (.run a r) => some (stepRun m.pending a r)

/-- The next step of the stage as the surroundings see it. -/
def step? (m : Moment) : Option (Sign × Moment) :=
  m.work?.map fun (l, n) => (l.sign, n)

/-- The moment after the surroundings have made a call. -/
def enter? (m : Moment) (c : Call) : Option Moment :=
  match m.control with
  | .stage _ => none
  | .surroundings s => if Pending.isOpen m.pending then some ⟨.stage (.call (c.play s)), m.pending⟩ else none

end Moment

/-- The steps of a stage and the moves of its surroundings. -/
inductive Step : Moment → Label → Moment → Prop where
  | work {m n : Moment} {l : Label} (h : m.work? = some (l, n)) : Step m l n
  | enter {s : Stage} {ps : List Pending} {n : Moment} (c : Call)
      (h : Moment.enter? ⟨.surroundings s, ps⟩ c = some n) :
      Step ⟨.surroundings s, ps⟩ (.called (Pending.owed? ps) s c) n
  /-- The surroundings reply to the latest request. -/
  | reply {s : Stage} {p : Pending} {ps : List Pending} (r : Except Fault (Reply p.request)) :
      Step ⟨.surroundings s, p :: ps⟩ (.replied s p.request r) ⟨.stage (p.resume r s), ps⟩

/-- What the surroundings are held to: which steps they may take after what has been seen so far. -/
abbrev Rule := List Label → Label → Prop

/-- What can be seen of a stage and its surroundings, from one moment to another, while a rule is kept. -/
inductive Run (rule : Rule) (m : Moment) : List Label → Moment → Prop where
  | nil : Run rule m [] m
  | snoc {ls : List Label} {l : Label} {n k : Moment} (run : Run rule m ls n) (step : Step n l k)
      (keeps : rule ls l) : Run rule m (ls ++ [l]) k

end Parley
