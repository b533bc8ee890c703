import Parley.Proofs.Script.Directives

/-!
# Hushed dialogs

A line that shows nothing has nobody to offer its responses to. `Dialog.hushed` takes them away.

* `Statement.Bare`: the lines that a script emits come without responses.
* `Draft.hushed_add`: a strict draft is the hushed form of a lenient one, statement by statement.

`parse_true` closes the file: a strict reading is the hushed form of a lenient reading.
-/

namespace Parley

/-- The line without its responses if it shows nothing. -/
def Line.hushed (l : Line) : Line :=
  if l.isSilent then { l with responses := [] } else l

/-- The node with hushed lines. -/
def Node.hushed (n : Node) : Node :=
  { n with lines := n.lines.map Line.hushed }

/-- The dialog with hushed nodes. -/
def Dialog.hushed (d : Dialog) : Dialog :=
  { d with nodes := d.nodes.map Node.hushed }

namespace Line

variable {l : Line}

/-- A line that shows nothing loses its responses. -/
lemma hushed_of_silent (h : l.isSilent = true) : l.hushed = { l with responses := [] } :=
  if_pos h

/-- A line that shows something stays as it is. -/
lemma hushed_of_shown (h : l.isSilent = false) : l.hushed = l :=
  if_neg (Bool.eq_false_iff.mp h)

/-- A line without responses stays as it is. -/
lemma hushed_of_bare (h : l.responses = []) : l.hushed = l := by
  cases silent : l.isSilent with
  | false => exact hushed_of_shown silent
  | true =>
    rw [hushed_of_silent silent, ← h]

/-- Whether a line shows something does not hang on its responses. -/
lemma isSilent_hushed : l.hushed.isSilent = l.isSilent := by
  cases silent : l.isSilent with
  | false => rw [hushed_of_shown silent, silent]
  | true =>
    rw [hushed_of_silent silent]
    exact silent

end Line

namespace Script

/-- A statement whose lines have no responses yet. -/
def Statement.Bare : Statement → Prop
  | .lines ls => ∀ l ∈ ls, l.responses = []
  | _ => True

/-- No line of a script brings responses of its own. -/
lemma Statement.bare_ofLine (inNodes : Bool) (line : Text) : (ofLine inNodes line).Bare := by
  have comes := comes_ofLine inNodes line
  generalize ofLine inNodes line = st at comes
  cases comes with
  | nothing | start | node | response => trivial
  | @lines _ passage =>
    intro l mem
    cases passage with
    | speech | writing | call | exit =>
      rw [List.mem_singleton.mp mem]
    | branch condition target =>
      simp only [Passage.lines, List.mem_cons, List.not_mem_nil, or_false] at mem
      obtain rfl | rfl | rfl := mem
      · cases condition with
        | equals | gives | visits => rfl
      · rfl
      · rfl

namespace Draft

/-- The draft with hushed nodes, also the one that is being read. -/
def hushed (d : Draft) : Draft :=
  { d with
    done := d.done.map Node.hushed
    current := d.current.map fun (name, lines) => (name, lines.map Line.hushed) }

/-- The nodes of a hushed draft are the hushed nodes. -/
lemma nodes_hushed (d : Draft) : d.hushed.nodes = d.nodes.map Node.hushed := by
  obtain ⟨start, done, current⟩ := d
  cases current with
  | none => rfl
  | some node => simp [nodes, hushed, close, Node.hushed]

/-- A line that shows something keeps a response that it takes. -/
lemma hushed_addResponse_of_shown {l : Line} {r : Response} (shown : l.isSilent = false) :
    (addResponse l r).hushed = addResponse l.hushed r := by
  rw [Line.hushed_of_shown shown]
  exact Line.hushed_of_shown shown

/-- A response makes no difference to a line that shows nothing. -/
lemma hushed_addResponse_of_silent {l : Line} {r : Response} (silent : l.isSilent = true) :
    (addResponse l r).hushed = l.hushed := by
  rw [Line.hushed_of_silent silent]
  exact Line.hushed_of_silent silent

/-- Hushing a draft before or after a statement comes to the same, if responses are strict in between. -/
lemma hushed_add {st : Statement} (bare : st.Bare) (d : Draft) :
    (d.add false st).hushed = d.hushed.add true st := by
  cases st with
  | nothing => rfl
  | start name =>
    cases vacant : d.start.isEmpty with
    | true => simp [add, hushed, vacant]
    | false => simp [add, hushed, vacant]
  | node name =>
    have same := d.nodes_hushed
    simp only [add, hushed] at same ⊢
    rw [same]
    rfl
  | lines ls =>
    have same : ls.map Line.hushed = ls := by
      apply (List.map_congr_left fun l mem => Line.hushed_of_bare (bare l mem)).trans
      exact List.map_id' ls
    obtain ⟨start, done, current⟩ := d
    cases current with
    | none => rfl
    | some node => simp [add, hushed, same]
  | response r =>
    obtain ⟨start, done, current⟩ := d
    cases current with
    | none => rfl
    | some node =>
      obtain ⟨name, lines⟩ := node
      cases lines with
      | nil => rfl
      | cons l lines =>
        cases silent : l.isSilent with
        | false => simp [add, hushed, hushed_addResponse_of_shown silent, Line.isSilent_hushed, silent]
        | true => simp [add, hushed, hushed_addResponse_of_silent silent, Line.isSilent_hushed, silent]

/-- Hushing a draft before or after a line of the script comes to the same. -/
lemma hushed_addLine (d : Draft) (line : Text) :
    (d.addLine false line).hushed = d.hushed.addLine true line := by
  have inNodes : d.hushed.current.isSome = d.current.isSome := Option.isSome_map
  unfold addLine
  rw [inNodes]
  exact hushed_add (Statement.bare_ofLine _ _) d

/-- Hushing a draft before or after reading some lines comes to the same. -/
lemma hushed_foldl (lines : List Text) (d : Draft) :
    (lines.foldl (addLine false) d).hushed = lines.foldl (addLine true) d.hushed := by
  induction lines generalizing d with
  | nil => rfl
  | cons line lines ih =>
    rw [List.foldl_cons, List.foldl_cons, ih, hushed_addLine]

end Draft

/-- A strict reading is the hushed form of a lenient one. -/
theorem parse_true (t start : Text) : parse true t start = (parse false t start).hushed := by
  have same : ((Text.lines t).foldl (Draft.addLine false) {}).hushed =
      (Text.lines t).foldl (Draft.addLine true) {} := Draft.hushed_foldl (Text.lines t) {}
  have nodes := Draft.nodes_hushed ((Text.lines t).foldl (Draft.addLine false) {})
  rw [same] at nodes
  unfold parse Dialog.hushed
  dsimp only
  rw [nodes, List.map_reverse, ← same]
  rfl

end Script

end Parley
