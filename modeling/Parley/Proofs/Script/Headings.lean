import Parley.Proofs.Script.Directives
import Parley.Proofs.Script.Sequels

/-!
# Headings

A heading closes all that stands before it. What stands behind it is read as if the script began there.

* `Heading`: the lines that begin a node, and `titled`, the name of that node.
* `Draft.start_foldl`: the start of a dialog is not named inside a node.
* `parse_heading`: the nodes before a heading, its node, and the nodes behind it.

`parse_append` closes the file: a script may be read in parts that begin with headings.
-/

namespace Parley.Script

/-- A line of a script begins a node. -/
def Heading (line : Text) : Prop :=
  (Text.trim line).head? = some '#'

instance : DecidablePred Heading := fun line =>
  inferInstanceAs (Decidable ((Text.trim line).head? = some '#'))

/-- The name of the node that a heading begins. -/
def titled (line : Text) : Text :=
  Text.trim ((Text.trim line).drop 1)

variable {strict : Bool} {line : Text}

/-- A heading begins the node that it titles, wherever it stands. -/
lemma Heading.means (heading : Heading line) (inNodes : Bool) :
    Statement.ofLine inNodes (Text.trim line) = .node (titled line) := by
  obtain ⟨name, e⟩ := List.head?_eq_some_iff.mp heading
  rw [titled, e, Statement.ofLine_heading]
  rfl

namespace Draft

variable {d : Draft}

/-- With a heading the node before is done, and an empty one is begun. -/
lemma addLine_heading (heading : Heading line) (d : Draft) :
    d.addLine strict line = { d with done := d.nodes, current := some (titled line, []) } := by
  rw [addLine, heading.means]
  rfl

/-- Inside a node, a line neither leaves the nodes nor names the start. -/
lemma addLine_inside (inside : d.current.isSome = true) (line : Text) :
    (d.addLine strict line).current.isSome = true ∧ (d.addLine strict line).start = d.start := by
  obtain ⟨start, done, current⟩ := d
  obtain ⟨node, rfl⟩ := Option.isSome_iff_exists.mp inside
  have comes := Statement.comes_ofLine true (Text.trim line)
  rw [addLine, inside]
  generalize Statement.ofLine true (Text.trim line) = st at comes
  cases comes with
  | nothing | node | lines => exact ⟨rfl, rfl⟩
  | response label target =>
    obtain ⟨name, lines⟩ := node
    cases lines with
    | nil => exact ⟨rfl, rfl⟩
    | cons l lines =>
      unfold add
      dsimp only
      split
      · exact ⟨rfl, rfl⟩
      · exact ⟨rfl, rfl⟩

/-- The start of a dialog is not named inside a node. -/
lemma start_foldl (inside : d.current.isSome = true) (lines : List Text) :
    (lines.foldl (addLine strict) d).start = d.start := by
  induction lines generalizing d with
  | nil => rfl
  | cons line lines ih =>
    obtain ⟨still, same⟩ := @addLine_inside strict d inside line
    rw [List.foldl_cons, ih still, same]

end Draft

/-- The nodes before a heading, its node, and the nodes behind it. -/
lemma parse_heading {t : Text} {pre post : List Text} (start : Text) (whole : Text.lines t = pre ++ line :: post)
    (heading : Heading line) : (parse strict t start).nodes = (pre.foldl (Draft.addLine strict) {}).nodes.reverse ++
      { name := titled line, lines := (Sequel.ofLines strict post).lines } :: (Sequel.ofLines strict post).nodes := by
  have parts : Text.lines t = (pre ++ [line]) ++ post := by
    rw [whole, List.append_assoc, List.singleton_append]
  have read : (pre ++ [line]).foldl (Draft.addLine strict) {} =
      (pre.foldl (Draft.addLine strict) {}).addLine strict line := List.foldl_concat ..
  rw [Draft.addLine_heading heading] at read
  have inside : ((pre ++ [line]).foldl (Draft.addLine strict) {}).current = some (titled line, []) := by
    rw [read]
  rw [parse_sequel start parts inside, Draft.followedBy_of_inside inside, read, offer_empty]
  rfl

/-- A script may be read in two parts, if the second one begins with a heading. The nodes of both follow one another,
first of the second part the node of its heading, and the start is the one that the first part names. -/
theorem parse_append {a b : Text} {post : List Text} (start : Text) (first : Text.lines b = line :: post)
    (heading : Heading line) :
    parse strict (a ++ '\n' :: b) start =
      { start := if start.isEmpty then (parse strict a []).start else start
        nodes := (parse strict a []).nodes ++ (parse strict b []).nodes } ∧
    (parse strict b []).nodes.head?.map Node.name = some (titled line) := by
  have whole : Text.lines (a ++ '\n' :: b) = Text.lines a ++ line :: post := by
    rw [← first]
    exact Text.splitOn_append a b
  have alone : Text.lines b = [] ++ line :: post := first
  have behind : (parse strict b []).nodes = { name := titled line, lines := (Sequel.ofLines strict post).lines } ::
      (Sequel.ofLines strict post).nodes := parse_heading [] alone heading
  have nodes : (parse strict (a ++ '\n' :: b) start).nodes = (parse strict a []).nodes ++ (parse strict b []).nodes := by
    rw [parse_heading start whole heading, behind]
    rfl
  have named : ((Text.lines (a ++ '\n' :: b)).foldl (Draft.addLine strict) {}).start = (parse strict a []).start := by
    rw [whole, List.foldl_append, List.foldl_cons, Draft.addLine_heading heading, Draft.start_foldl rfl]
    rfl
  refine ⟨?_, ?_⟩
  · rw [← nodes, ← named]
    rfl
  · rw [behind]
    rfl

/-- Lines before the first node, responses and a start that come to nothing do not matter to the nodes behind them. -/
theorem parse_append_late :
    let a := "=> # b\nA: lost\n# a\n#\n- no => #c\nA: hi\n- yes => #b".toList
    let b := " # b \n=> a\n- no => #c\nB: ho\n- no => #a".toList
    ∀ strict, parse strict (a ++ '\n' :: b) [] = {
      start := ['b']
      nodes := [
        { name := ['a'] },
        { lines := [{ speaker := ['A'], text := "hi".toList, responses := [⟨"yes".toList, ['b']⟩] }] },
        { name := ['b'],
          lines := [{ speaker := ['B'], text := "ho".toList, responses := [⟨"no".toList, ['a']⟩] }] }] } := by
  intro a b strict
  have first : Text.lines b = " # b ".toList :: ["=> a", "- no => #c", "B: ho", "- no => #a"].map String.toList := by
    decide +kernel
  have heading : Heading " # b ".toList := by decide +kernel
  rw [(parse_append [] first heading).1]
  revert strict
  decide +kernel

end Parley.Script
