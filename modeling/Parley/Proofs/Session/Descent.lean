import Mathlib.Order.Basic
import Parley.Proofs.Session.Links

/-!
# Descent

How many lines of a dialog can be run one after another without a pause, whatever the tests among them come to.

* `Line.isSpoken`: a line that is shown whenever it is run, so that the session pauses at it.
* `Dialog.Within`: a number of lines is enough to come from a row of lines to a pause or an end.
* `Dialog.Descends`: all other lines link to nodes of lower rank.
* `Dialog.within_node`: in such a dialog the lines of a node are within their own number and that of the lines of all
  nodes of lower rank.

`Dialog.within_of_descends` closes the file: any row of lines is within its own length and the size of the dialog.
-/

namespace Parley

/-- The line is shown whenever it is run. -/
def Line.isSpoken (l : Line) : Bool :=
  !l.hasCondition && !l.elseIf && !l.endIf && !l.exit && !l.isSilent

namespace Dialog

/-- So many lines are enough to run from a row of lines of a session. A line that is not shown may be followed by any
later one of the row, or by the node that it links to. -/
inductive Within (d : Dialog) : List Line → Nat → Prop
  | nil {k : Nat} : Within d [] k
  | cons {l : Line} {ls : List Line} {k : Nat}
    (jump : l.isSpoken = false → ∀ n, d.node? l.link = some n → Within d n.lines k) (next : Within d ls k) :
    Within d (l :: ls) (k + 1)

section Within

variable {d : Dialog} {l : Line} {ls ls' : List Line} {n : Node} {j k : Nat}

/-- What is enough is enough with more besides. -/
lemma Within.mono (h : d.Within ls j) (le : j ≤ k) : d.Within ls k := by
  induction h generalizing k with
  | nil => exact .nil
  | cons jump next ihJump ihNext =>
    cases k with
    | zero => exact absurd le (Nat.not_succ_le_zero _)
    | succ k =>
      have le := Nat.le_of_succ_le_succ le
      exact .cons (fun other n found => ihJump other n found le) (ihNext le)

/-- Lines may be passed over. -/
lemma Within.of_suffix (h : d.Within ls k) (suffix : ls' <:+ ls) : d.Within ls' k := by
  induction h with
  | nil =>
    rw [List.suffix_nil.mp suffix]
    exact .nil
  | cons jump next _ ihNext =>
    obtain rfl | later := List.suffix_cons_iff.mp suffix
    · exact .cons jump next
    · exact (ihNext later).mono (Nat.le_succ _)

/-- It is enough to run through the row, and then from a node that one of its lines links to. -/
lemma within_of_jumps (jump : ∀ l ∈ ls, l.isSpoken = false → ∀ n, d.node? l.link = some n → d.Within n.lines k) :
    d.Within ls (ls.length + k) := by
  induction ls with
  | nil => exact .nil
  | cons l ls ih =>
    rw [List.length_cons, Nat.add_right_comm]
    refine .cons (fun other n found => ?_) (ih fun l mem => jump l (List.mem_cons_of_mem _ mem))
    exact (jump l List.mem_cons_self other n found).mono (Nat.le_add_left k _)

end Within

/-! ## Ranks -/

/-- All lines that are not shown link to nodes of lower rank, or to none. -/
def Descends {ρ : Type*} [LT ρ] (d : Dialog) (rank : Text → ρ) : Prop :=
  ∀ n ∈ d.nodes, ∀ l ∈ n.lines, l.isSpoken = false → ∀ t, d.node? l.link = some t → rank t.name < rank n.name

/-- The number of the lines of those nodes that fulfil a condition. -/
def linesOf (p : Node → Bool) : List Node → Nat
  | [] => 0
  | n :: ns => (if p n then n.lines.length else 0) + linesOf p ns

/-- The number of all lines of the dialog. -/
def size (d : Dialog) : Nat :=
  linesOf (fun _ => true) d.nodes

section Ranks

variable {p p' : Node → Bool} {n : Node} {ns : List Node}

/-- A node that a stronger condition counts is counted by a weaker one. -/
lemma counted_mono (imp : p n = true → p' n = true) :
    (if p n then n.lines.length else 0) ≤ if p' n then n.lines.length else 0 := by
  split
  · rename_i here
    exact Nat.le_of_eq (if_pos (imp here)).symm
  · exact Nat.zero_le _

/-- A weaker condition counts no fewer lines. -/
lemma linesOf_mono (imp : ∀ n, p n = true → p' n = true) : linesOf p ns ≤ linesOf p' ns := by
  induction ns with
  | nil => exact Nat.le_refl _
  | cons n ns ih => exact Nat.add_le_add (counted_mono (imp n)) ih

/-- A node that only the weaker condition counts adds its lines. -/
lemma length_add_linesOf_le (mem : n ∈ ns) (imp : ∀ n, p n = true → p' n = true) (out : p n = false)
    (into : p' n = true) : n.lines.length + linesOf p ns ≤ linesOf p' ns := by
  induction ns with
  | nil => cases mem
  | cons m ns ih =>
    rw [linesOf, linesOf]
    obtain rfl | later := List.mem_cons.mp mem
    · rw [out, into, if_pos rfl, if_neg Bool.false_ne_true, Nat.zero_add]
      exact Nat.add_le_add_left (linesOf_mono imp) _
    · rw [Nat.add_left_comm]
      exact Nat.add_le_add (counted_mono (imp m)) (ih later)

variable {ρ : Type*} [Preorder ρ] {d : Dialog} {rank : Text → ρ}

open Classical in
/-- The number of the lines of all nodes below a rank. -/
noncomputable def below (d : Dialog) (rank : Text → ρ) (r : ρ) : Nat :=
  linesOf (fun n => decide (rank n.name < r)) d.nodes

open Classical in
/-- The lines of a node and those below it are among the lines below a higher rank. -/
lemma length_add_below_le {r : ρ} (mem : n ∈ d.nodes) (lower : rank n.name < r) :
    n.lines.length + d.below rank (rank n.name) ≤ d.below rank r := by
  refine length_add_linesOf_le mem (fun m below => ?_) (decide_eq_false (lt_irrefl _)) (decide_eq_true lower)
  exact decide_eq_true ((of_decide_eq_true below).trans lower)

open Classical in
/-- The lines of a node and those below it are among the lines of the dialog. -/
lemma length_add_below_le_size (mem : n ∈ d.nodes) : n.lines.length + d.below rank (rank n.name) ≤ d.size :=
  length_add_linesOf_le mem (fun _ _ => rfl) (decide_eq_false (lt_irrefl _)) rfl

/-- The lines of all nodes of lower rank are enough when the node has been run through. -/
theorem within_node (descends : d.Descends rank) (mem : n ∈ d.nodes) :
    d.Within n.lines (n.lines.length + d.below rank (rank n.name)) := by
  induction small : d.below rank (rank n.name) using Nat.strongRecOn generalizing n with
  | _ b ih =>
    refine within_of_jumps fun l line other t found => ?_
    have there := mem_of_node? found
    have bound : t.lines.length + d.below rank (rank t.name) ≤ b :=
      small ▸ length_add_below_le there (descends n mem l line other t found)
    -- A node without lines need not have fewer lines below it, but then there is nothing to run.
    by_cases empty : t.lines = []
    · rw [empty]
      exact .nil
    · have more : 0 < t.lines.length := List.length_pos_iff.mpr empty
      exact (ih _ (by omega) there rfl).mono bound

/-- Whatever lines a session stands at, they can be run through, and then the dialog. -/
theorem within_of_descends (descends : d.Descends rank) (ls : List Line) : d.Within ls (ls.length + d.size) := by
  refine within_of_jumps fun l _ _ n found => ?_
  have mem := mem_of_node? found
  exact (within_node descends mem).mono (length_add_below_le_size mem)

end Ranks

end Dialog

end Parley
