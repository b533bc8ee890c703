import Mathlib.Tactic.Lemma
import Parley.Script.Parse

/-!
# Sequels

What the rest of a script adds to what has been read of it, inside a node.

* `Sequel`: the responses that the line before gets, the lines that the node gets, and the nodes that follow.
* `Sequel.after`: the sequel with one more statement in front.
* `Draft.followedBy`: the nodes of a draft with its sequel.
* `Draft.followedBy_add`: a statement may be read with what comes before it or with what comes after it.

* `parse_sequel`: what is read of the first lines of a script and what is read of the others make up the nodes of its
  dialog.

`parse_emitted` closes the file: the lines that come of a line of a script stand behind those of its node.
-/

namespace Parley.Script

/-- What the rest of a script adds inside a node. -/
structure Sequel where
  /-- Those that belong to the line before. -/
  responses : List Response := []
  lines : List Line := []
  nodes : List Node := []
  deriving DecidableEq, Repr

/-- Lines, last one first, when responses have been offered. They go to the last line. When they are `strict`, it has
to show something. -/
def offer (strict : Bool) (rs : List Response) : List Line → List Line
  | [] => []
  | l :: ls => if strict && l.isSilent then l :: ls else { l with responses := l.responses ++ rs } :: ls

namespace Sequel

/-- The sequel with one more statement in front. Lines take the responses that stand behind them. -/
def after (strict : Bool) (q : Sequel) : Statement → Sequel
  | .nothing | .start _ | .lines [] => q
  | .node name => { nodes := { name := name, lines := q.lines } :: q.nodes }
  | .lines (l :: ls) =>
    { lines := (offer strict q.responses (l :: ls).reverse).reverse ++ q.lines, nodes := q.nodes }
  | .response r => { q with responses := r :: q.responses }

/-- What lines of a script add. -/
def ofLines (strict : Bool) : List Text → Sequel
  | [] => {}
  | line :: rest => (ofLines strict rest).after strict (.ofLine true (Text.trim line))

end Sequel

section Offers

variable {strict : Bool} {rs : List Response} {l : Line} {ls : List Line}

/-- Where there is no line, nobody takes responses. -/
lemma offer_empty : offer strict rs [] = [] :=
  rfl

/-- A silent line takes no responses when they are strict. -/
lemma offer_of_refused (refused : (strict && l.isSilent) = true) : offer strict rs (l :: ls) = l :: ls :=
  if_pos refused

/-- A line takes responses behind its own, unless they are strict and it is silent. -/
lemma offer_of_taken (taken : (strict && l.isSilent) = false) :
    offer strict rs (l :: ls) = { l with responses := l.responses ++ rs } :: ls :=
  if_neg (Bool.eq_false_iff.mp taken)

/-- To offer nothing changes nothing. -/
lemma offer_nil : offer strict [] ls = ls := by
  cases ls with
  | nil => rfl
  | cons l ls =>
    cases refused : strict && l.isSilent with
    | true => exact offer_of_refused refused
    | false => rw [offer_of_taken refused, List.append_nil]

/-- The responses go to the last line, whatever comes before it. -/
lemma offer_append (nonempty : ls ≠ []) (more : List Line) :
    offer strict rs (ls ++ more) = offer strict rs ls ++ more := by
  cases ls with
  | nil => exact absurd rfl nonempty
  | cons l ls =>
    rw [List.cons_append]
    cases refused : strict && l.isSilent with
    | true => rw [offer_of_refused refused, offer_of_refused refused, List.cons_append]
    | false => rw [offer_of_taken refused, offer_of_taken refused, List.cons_append]

/-- Responses are taken one by one. -/
lemma offer_cons (r : Response) : offer strict (r :: rs) (l :: ls) =
    offer strict rs (if strict && l.isSilent then l :: ls else Draft.addResponse l r :: ls) := by
  cases refused : strict && l.isSilent with
  | true => rw [offer_of_refused refused, if_pos rfl, offer_of_refused refused]
  | false =>
    have still : (strict && (Draft.addResponse l r).isSilent) = false := refused
    rw [offer_of_taken refused, if_neg Bool.false_ne_true, offer_of_taken still]
    simp [Draft.addResponse]

end Offers

namespace Draft

variable {strict : Bool} {d : Draft} {name : Text} {ls : List Line}

/-- The nodes of a draft with its sequel. -/
def followedBy (strict : Bool) (d : Draft) (q : Sequel) : List Node :=
  match d.current with
  | none => d.nodes.reverse
  | some (name, ls) =>
    d.done.reverse ++ { name := name, lines := (offer strict q.responses ls).reverse ++ q.lines } :: q.nodes

/-- Inside a node its lines are followed by those of the sequel, the last one with the responses. -/
lemma followedBy_of_inside (inside : d.current = some (name, ls)) (q : Sequel) : d.followedBy strict q =
    d.done.reverse ++ { name := name, lines := (offer strict q.responses ls).reverse ++ q.lines } :: q.nodes := by
  unfold followedBy
  rw [inside]

/-- A draft that nothing follows has its own nodes. -/
lemma followedBy_nothing (inside : d.current = some (name, ls)) : d.followedBy strict {} = d.nodes.reverse := by
  rw [followedBy_of_inside inside, nodes, inside, offer_nil]
  simp [close]

/-- A statement may be read with what comes before it or with what comes after it. -/
lemma followedBy_add (inside : d.current = some (name, ls)) (q : Sequel) (st : Statement) :
    (∃ name' ls', (d.add strict st).current = some (name', ls')) ∧
      (d.add strict st).followedBy strict q = d.followedBy strict (q.after strict st) := by
  -- New lines take the responses that follow, and a response goes to the last line.
  obtain ⟨start, done, current⟩ := d
  obtain rfl : current = some (name, ls) := inside
  cases st with
  | nothing => exact ⟨⟨_, _, rfl⟩, rfl⟩
  | start target =>
    unfold add
    dsimp only
    split
    · exact ⟨⟨_, _, rfl⟩, rfl⟩
    · exact ⟨⟨_, _, rfl⟩, rfl⟩
  | node name' =>
    refine ⟨⟨_, _, rfl⟩, ?_⟩
    have bare : offer strict [] ls = ls := offer_nil
    simp [add, followedBy, Sequel.after, nodes, close, offer_empty, bare]
  | lines new =>
    refine ⟨⟨_, _, rfl⟩, ?_⟩
    cases new with
    | nil => rfl
    | cons l new =>
      have nonempty : (l :: new).reverse ≠ [] := List.reverse_ne_nil_iff.mpr (List.cons_ne_nil l new)
      have bare : offer strict [] ls = ls := offer_nil
      unfold add followedBy Sequel.after
      dsimp only [Option.map_some]
      rw [offer_append nonempty, bare, List.reverse_append, List.append_assoc]
  | response r =>
    cases ls with
    | nil => exact ⟨⟨_, _, rfl⟩, rfl⟩
    | cons l ls =>
      unfold add followedBy Sequel.after
      dsimp only
      rw [offer_cons]
      split
      · exact ⟨⟨_, _, rfl⟩, rfl⟩
      · exact ⟨⟨_, _, rfl⟩, rfl⟩

/-- Lines that have been read stand behind those of the node, the last one with the responses that follow. -/
lemma followedBy_lines (inside : d.current = some (name, ls)) (q : Sequel) (new : List Line) :
    d.followedBy strict (q.after strict (.lines new)) = d.done.reverse ++
      { name := name, lines := (offer strict q.responses (new.reverse ++ ls)).reverse ++ q.lines } :: q.nodes := by
  have grown : (d.add strict (.lines new)).current = some (name, new.reverse ++ ls) := by
    rw [add, inside]
    rfl
  rw [← (followedBy_add inside q (.lines new)).2, followedBy_of_inside grown]
  rfl

/-- Inside a node, reading more lines adds their sequel to the nodes. -/
lemma nodes_foldl (inside : d.current = some (name, ls)) (lines : List Text) :
    (lines.foldl (addLine strict) d).nodes.reverse = d.followedBy strict (.ofLines strict lines) := by
  induction lines generalizing d name ls with
  | nil => exact (followedBy_nothing inside).symm
  | cons line lines ih =>
    obtain ⟨⟨name', ls', still⟩, moved⟩ :=
      @followedBy_add strict _ _ _ inside (.ofLines strict lines) (.ofLine true (Text.trim line))
    have read : d.addLine strict line = d.add strict (.ofLine true (Text.trim line)) := by
      rw [addLine, inside]
      rfl
    rw [List.foldl_cons, read, ih still, moved]
    rfl

end Draft

/-- What is read of the first lines of a script and what is read of the others make up the nodes of its dialog. -/
theorem parse_sequel {strict : Bool} {t name : Text} {pre post : List Text} {before : List Line} (start : Text)
    (whole : Text.lines t = pre ++ post)
    (inside : (pre.foldl (Draft.addLine strict) {}).current = some (name, before)) :
    (parse strict t start).nodes = (pre.foldl (Draft.addLine strict) {}).followedBy strict (.ofLines strict post) := by
  unfold parse
  dsimp only
  rw [whole, List.foldl_append]
  exact Draft.nodes_foldl inside post

/-- The lines that come of a line of a script stand behind those of its node. The last of them has the responses that
follow. -/
lemma parse_emitted {strict : Bool} {t raw name : Text} {pre post : List Text} {before here : List Line} (start : Text)
    (whole : Text.lines t = pre ++ raw :: post)
    (inside : (pre.foldl (Draft.addLine strict) {}).current = some (name, before))
    (means : Statement.ofLine true (Text.trim raw) = .lines here) :
    (parse strict t start).nodes = (pre.foldl (Draft.addLine strict) {}).done.reverse ++
      { name := name, lines := (offer strict (Sequel.ofLines strict post).responses (here.reverse ++ before)).reverse ++
        (Sequel.ofLines strict post).lines } :: (Sequel.ofLines strict post).nodes := by
  rw [parse_sequel start whole inside, Sequel.ofLines, means, Draft.followedBy_lines inside]

end Parley.Script
