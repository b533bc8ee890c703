import Mathlib.Data.List.DropRight
import Mathlib.Tactic.Lemma
import Parley.Text.Basic

/-!
# Cuts

Texts that have been put together can be taken apart again.

* `cut_append`: more text at the end does not move the first occurrence of a separator.
* `splitPair?_eq_some`: a text falls into two pieces if it can be cut once and no more.
* `splitOn_append`, `splitOn_join`: what has been put together with a separator is split there.
* `cutLast_of_not_mem`: the last occurrence of a character is the one that it does not occur behind.
* `trim_trim`: a trimmed text has nothing to be trimmed.
* `trim_append_cons`: a text is trimmed on either side of a character that is not blank.
* `exists_of_trim`: a trimmed text has lost nothing but blanks at its ends.
-/

namespace Parley.Text

variable {c : Char} {separator start t left right rest : Text}

/-- What begins a text begins a longer one. -/
lemma after?_append_right (h : after? start t = some rest) (u : Text) :
    after? start (t ++ u) = some (rest ++ u) := by
  rw [eq_append_of_after? h, List.append_assoc, after?_append]

/-- What a text begins with is not made of what is put behind it, if the text is long enough. -/
lemma after?_of_append {u : Text} (long : start.length ≤ t.length) (h : after? start (t ++ u) = some rest) :
    ∃ rest', after? start t = some rest' := by
  obtain ⟨rest', rfl⟩ := List.prefix_of_prefix_length_le
    ⟨rest, (eq_append_of_after? h).symm⟩ (List.prefix_append t u) long
  exact ⟨rest', after?_append start rest'⟩

/-- There is nothing behind a start that does not begin the text. -/
lemma after?_eq_none_iff : after? start t = none ↔ ¬ start <+: t := by
  constructor
  · rintro missing ⟨rest, rfl⟩
    rw [after?_append] at missing
    cases missing
  · intro apart
    refine Option.eq_none_iff_forall_ne_some.mpr fun rest found => apart ⟨rest, ?_⟩
    exact (eq_append_of_after? found).symm

/-- To begin with a start is to have it as a prefix. -/
lemma beginsWith_iff : beginsWith start t = true ↔ start <+: t := by
  rw [beginsWith, Option.isSome_iff_ne_none, ne_eq, after?_eq_none_iff, not_not]

/-- A text that is cut is as long as what cuts it. -/
lemma length_le_of_cut (h : cut separator t = some (left, right)) : separator.length ≤ t.length := by
  have lengths := congrArg List.length (eq_append_of_cut h)
  simp only [List.length_append] at lengths
  omega

/-- More text at the end does not move the first occurrence of a separator. -/
lemma cut_append (h : cut separator t = some (left, right)) (u : Text) :
    cut separator (t ++ u) = some (left, right ++ u) := by
  induction t generalizing left with
  | nil =>
    obtain ⟨rest, begins, e⟩ := Option.map_eq_some_iff.mp h
    cases e
    cases separator with
    | cons a separator => cases begins
    | nil =>
      cases begins
      cases u with
      | nil | cons a u => rfl
  | cons a t ih =>
    cases begins : after? separator (a :: t) with
    | some rest =>
      rw [cut, begins] at h
      cases h
      rw [List.cons_append, cut, ← List.cons_append, after?_append_right begins]
    | none =>
      have later : after? separator (a :: t ++ u) = none := by
        refine Option.eq_none_iff_forall_ne_some.mpr fun rest found => ?_
        obtain ⟨rest', found'⟩ := after?_of_append (length_le_of_cut h) found
        rw [begins] at found'
        cases found'
      rw [cut, begins] at h
      obtain ⟨⟨left', right'⟩, cuts, e⟩ := Option.map_eq_some_iff.mp h
      cases e
      rw [List.cons_append, cut, ← List.cons_append, later]
      dsimp only
      rw [ih cuts]
      rfl

/-! ## Single characters -/

/-- A single character is taken off if it is the first. -/
lemma after?_singleton (a : Char) : after? [c] (a :: t) = if c = a then some t else none := by
  unfold after?
  split
  · rfl
  · rfl

/-- A text is cut at its first character if this is what cuts it, and else behind it. -/
lemma cut_singleton_cons (a : Char) : cut [c] (a :: t) =
    if c = a then some ([], t) else (cut [c] t).map fun (left, right) => (a :: left, right) := by
  rw [cut, after?_singleton]
  by_cases same : c = a
  · rw [if_pos same, if_pos same]
  · rw [if_neg same, if_neg same]

/-- A separator is found where its first character first occurs. -/
lemma cut_of_first_not_mem (h : c ∉ left) : cut (c :: separator) (left ++ (c :: separator) ++ right) =
    some (left, right) := by
  induction left with
  | nil =>
    have begins := after?_append (c :: separator) right
    rw [List.cons_append] at begins
    rw [List.nil_append, List.cons_append, cut, begins]
  | cons a left ih =>
    rw [List.mem_cons, not_or] at h
    have apart : after? (c :: separator) (a :: (left ++ (c :: separator) ++ right)) = none := if_neg h.1
    rw [List.cons_append, List.cons_append, cut, apart, ih h.2]
    rfl

/-- A text is cut at the first place where the character stands. -/
lemma cut_of_not_mem (h : c ∉ left) : cut [c] (left ++ c :: right) = some (left, right) := by
  have cuts : cut [c] (left ++ [c] ++ right) = some (left, right) := cut_of_first_not_mem h
  rwa [List.append_assoc] at cuts

/-- There is no separator in a text that lacks one of its characters. -/
lemma cut_eq_none_of_mem (mem : c ∈ separator) (h : c ∉ t) : cut separator t = none := by
  refine Option.eq_none_iff_forall_ne_some.mpr fun (left, right) cuts => h ?_
  rw [eq_append_of_cut cuts]
  exact List.mem_append_left right (List.mem_append_right left mem)

/-- A text is not cut by a character that it does not have. -/
lemma cut_eq_none_iff : cut [c] t = none ↔ c ∉ t := by
  induction t with
  | nil => simp [cut, after?]
  | cons a t ih =>
    rw [cut_singleton_cons, List.mem_cons, not_or]
    split
    · rename_i same
      simp [same]
    · rename_i other
      rw [Option.map_eq_none_iff, ih]
      simp [other]

/-- What cuts a text does not stand before the cut. -/
lemma not_mem_of_cut (h : cut [c] t = some (left, right)) : c ∉ left := by
  induction t generalizing left with
  | nil => simp [cut, after?] at h
  | cons a t ih =>
    rw [cut_singleton_cons] at h
    split at h
    · cases h
      exact List.not_mem_nil
    · rename_i other
      obtain ⟨⟨left', right'⟩, cuts, e⟩ := Option.map_eq_some_iff.mp h
      cases e
      rw [List.mem_cons, not_or]
      exact ⟨other, ih cuts⟩

/-- The last occurrence of a character is the one that it does not occur behind. -/
lemma cutLast_of_not_mem (h : c ∉ right) : cutLast [c] (left ++ c :: right) = some (left, right) := by
  have turned : (left ++ c :: right).reverse = right.reverse ++ c :: left.reverse := by
    rw [List.reverse_append, List.reverse_cons, List.append_assoc]
    rfl
  have cuts : cut [c] (right.reverse ++ c :: left.reverse) = some (right.reverse, left.reverse) :=
    cut_of_not_mem fun mem => h (List.mem_reverse.mp mem)
  unfold cutLast
  rw [turned, List.reverse_singleton, cuts]
  simp

/-- A text begins a longer one within its first part if the second part begins with a character that it lacks. -/
lemma prefix_of_not_mem {u : Text} (h : c ∉ start) (begins : start <+: t ++ c :: u) : start <+: t := by
  obtain within | ⟨more, e⟩ := List.prefix_or_prefix_of_prefix begins (List.prefix_append t (c :: u))
  · exact within
  · cases more with
    | nil =>
      rw [List.append_nil] at e
      exact e ▸ List.prefix_rfl
    | cons c' more =>
      obtain ⟨rest, whole⟩ := begins
      rw [← e, List.append_assoc, List.append_cancel_left_eq] at whole
      cases whole
      exact absurd (e ▸ List.mem_append_right t List.mem_cons_self) h

/-- A character that a text begins without is where it ends. -/
lemma beginsWith_of_append {start : Text} (h : c ∉ start) (begins : beginsWith start (left ++ c :: right) = true) :
    beginsWith start left = true :=
  beginsWith_iff.mpr (prefix_of_not_mem h (beginsWith_iff.mp begins))

/-- Two starts that end at the first place of a character are one. -/
lemma eq_of_beginsWith {start : Text} (h : c ∉ start) (h' : c ∉ left)
    (begins : beginsWith (start ++ [c]) (left ++ c :: right) = true) : left = start := by
  obtain ⟨rest, whole⟩ := beginsWith_iff.mp begins
  rw [List.append_assoc] at whole
  have cuts : cut [c] (left ++ c :: right) = some (left, right) := cut_of_not_mem h'
  rw [← whole] at cuts
  cases (cut_of_not_mem h).symm.trans cuts
  rfl

/-! ## Pairs -/

/-- A text without the separator is left whole. -/
lemma splitOn_of_cut_none (h : cut separator t = none) : splitOn separator t = [t] := by
  unfold splitOn
  split
  · rfl
  · split
    · rfl
    · rename_i cuts
      rw [h] at cuts
      cases cuts

/-- A text is split at the first separator, and then the rest of it is. -/
lemma splitOn_of_cut (apart : separator ≠ []) (h : cut separator t = some (left, right)) :
    splitOn separator t = left :: splitOn separator right := by
  rw [splitOn, dif_neg apart]
  split
  · rename_i cuts
    rw [h] at cuts
    cases cuts
  · rename_i cuts
    rw [h] at cuts
    cases cuts
    rfl

/-- A text falls into two pieces if it can be cut once and no more. -/
lemma splitPair?_eq_some (apart : separator ≠ []) : splitPair? separator t = some (left, right) ↔
    cut separator t = some (left, right) ∧ cut separator right = none := by
  unfold splitPair?
  cases cuts : cut separator t with
  | none =>
    rw [splitOn_of_cut_none cuts]
    simp
  | some pieces =>
    obtain ⟨left', right'⟩ := pieces
    rw [splitOn_of_cut apart cuts]
    cases again : cut separator right' with
    | none =>
      rw [splitOn_of_cut_none again]
      constructor
      · intro same
        cases same
        exact ⟨rfl, again⟩
      · rintro ⟨same, -⟩
        cases same
        rfl
    | some pieces =>
      obtain ⟨left'', right''⟩ := pieces
      rw [splitOn_of_cut apart again]
      obtain ⟨u, us, e⟩ := List.exists_cons_of_ne_nil (splitOn_ne_nil separator right'')
      rw [e]
      constructor
      · intro same
        cases same
      · rintro ⟨same, uncut⟩
        cases same
        rw [again] at uncut
        cases uncut

/-- Two texts without the separator make a pair that is split again. -/
lemma splitPair?_of_not_mem (first : c ∉ left) (second : c ∉ right) :
    splitPair? [c] (left ++ [c] ++ right) = some (left, right) := by
  rw [splitPair?_eq_some (List.cons_ne_nil c []), List.append_assoc, List.singleton_append]
  exact ⟨cut_of_not_mem first, cut_eq_none_iff.mpr second⟩

/-- There is no separator in either side of a pair. -/
lemma not_mem_of_splitPair? (h : splitPair? [c] t = some (left, right)) : c ∉ left ∧ c ∉ right := by
  obtain ⟨cuts, uncut⟩ := (splitPair?_eq_some (List.cons_ne_nil c [])).mp h
  exact ⟨not_mem_of_cut cuts, cut_eq_none_iff.mp uncut⟩

/-! ## Pieces -/

/-- A text may be split on either side of a separator. -/
lemma splitOn_append (t u : Text) : splitOn [c] (t ++ c :: u) = splitOn [c] t ++ splitOn [c] u := by
  have apart : [c] ≠ [] := List.cons_ne_nil c []
  induction t using splitOn.induct [c] with
  | case1 t empty => exact absurd empty apart
  | case2 t _ uncut =>
    rw [splitOn_of_cut apart (cut_of_not_mem (cut_eq_none_iff.mp uncut)), splitOn_of_cut_none uncut]
    rfl
  | case3 t _ left right cuts ih =>
    rw [splitOn_of_cut apart (cut_append cuts (c :: u)), splitOn_of_cut apart cuts, ih]
    rfl

/-- Texts that lack the separator are the pieces of the text that they are joined to. -/
lemma splitOn_join {ts : List Text} (nonempty : ts ≠ []) (h : ∀ t ∈ ts, c ∉ t) : splitOn [c] (join [c] ts) = ts := by
  induction ts with
  | nil => exact absurd rfl nonempty
  | cons t ts ih =>
    obtain ⟨here, rest⟩ := List.forall_mem_cons.mp h
    have single : splitOn [c] t = [t] := splitOn_of_cut_none (cut_eq_none_iff.mpr here)
    cases ts with
    | nil => exact single
    | cons u ts =>
      rw [join, List.append_assoc, List.singleton_append, splitOn_append, single, ih (List.cons_ne_nil u ts) rest]
      rfl

/-- There is no separator in the parts of a text that is split. -/
lemma not_mem_of_mem_splitOn (mem : start ∈ splitOn [c] t) : c ∉ start := by
  have apart : [c] ≠ [] := List.cons_ne_nil c []
  induction t using splitOn.induct [c] with
  | case1 t empty => exact absurd empty apart
  | case2 t _ uncut =>
    rw [splitOn_of_cut_none uncut, List.mem_singleton] at mem
    exact mem ▸ cut_eq_none_iff.mp uncut
  | case3 t _ left right cuts ih =>
    rw [splitOn_of_cut apart cuts, List.mem_cons] at mem
    obtain rfl | mem := mem
    · exact not_mem_of_cut cuts
    · exact ih mem

/-- Joined texts begin with the first of them. -/
lemma prefix_join (separator t : Text) (ts : List Text) : t <+: join separator (t :: ts) := by
  cases ts with
  | nil => exact List.prefix_rfl
  | cons u ts =>
    rw [join, List.append_assoc]
    exact List.prefix_append t _

/-! ## Trimming -/

/-- What is left of a trimmed text stood in it. -/
lemma mem_of_mem_trim (h : c ∈ trim t) : c ∈ t := by
  unfold trim trimBy at h
  have mem := (List.dropWhile_suffix _).subset (List.mem_reverse.mp h)
  exact (List.dropWhile_suffix _).subset (List.mem_reverse.mp mem)

/-- A trimmed text has nothing to be trimmed. -/
lemma trim_trim (t : Text) : trim (trim t) = trim t := by
  have front : (trim t).dropWhile isBlank = trim t := by
    -- What is left at the end of a text begins as the text does.
    have whole : trim t <+: t.dropWhile isBlank := List.rdropWhile_prefix isBlank (t.dropWhile isBlank)
    refine List.dropWhile_eq_self_iff.mpr fun long => ?_
    rw [List.IsPrefix.getElem whole long]
    exact List.dropWhile_get_zero_not isBlank t (Nat.lt_of_lt_of_le long whole.length_le)
  calc trim (trim t) = ((trim t).dropWhile isBlank).rdropWhile isBlank := rfl
    _ = (trim t).rdropWhile isBlank := by rw [front]
    _ = trim t := List.rdropWhile_idempotent isBlank (t.dropWhile isBlank)

/-- A text is trimmed from both ends. -/
lemma trimmed_ends (h : trim t = t) : t.dropWhile isBlank = t ∧ t.rdropWhile isBlank = t := by
  have front : t.dropWhile isBlank = t := by
    refine (List.dropWhile_suffix _).eq_of_length_le ?_
    have shorter : (trim t).length ≤ (t.dropWhile isBlank).length := (List.rdropWhile_prefix isBlank _).length_le
    rwa [h] at shorter
  refine ⟨front, ?_⟩
  calc t.rdropWhile isBlank = (t.dropWhile isBlank).rdropWhile isBlank := by rw [front]
    _ = t := h

/-- Trimming stops at a character that is not blank. -/
lemma dropWhile_append_cons {p : Char → Bool} (h : p c = false) (left right : Text) :
    (left ++ c :: right).dropWhile p = left.dropWhile p ++ c :: right := by
  rw [List.dropWhile_append, List.dropWhile_cons_of_neg (by simp [h])]
  split
  · rename_i nothing
    rw [List.isEmpty_iff.mp nothing, List.nil_append]
  · rfl

/-- Dropping from the end stops at a character that is not dropped. -/
lemma rdropWhile_append_cons {p : Char → Bool} (h : p c = false) (left right : Text) :
    (left ++ c :: right).rdropWhile p = left ++ c :: right.rdropWhile p := by
  unfold List.rdropWhile
  rw [List.reverse_append, List.reverse_cons, List.append_assoc, List.singleton_append, dropWhile_append_cons h]
  simp

/-- A text is trimmed on either side of a character that is not blank. -/
lemma trim_append_cons (h : isBlank c = false) (left right : Text) :
    trim (left ++ c :: right) = left.dropWhile isBlank ++ c :: right.rdropWhile isBlank := by
  have back := rdropWhile_append_cons h (left.dropWhile isBlank) right
  rw [← dropWhile_append_cons h] at back
  exact back

/-- Dropping blanks in front does not matter to a trimmed text. -/
lemma trim_dropWhile (t : Text) : trim (t.dropWhile isBlank) = trim t := by
  unfold trim trimBy
  rw [List.dropWhile_idempotent]

/-- Dropping blanks at the end does not matter to a trimmed text. -/
lemma trim_rdropWhile (t : Text) : trim (t.rdropWhile isBlank) = trim t := by
  by_cases blank : ∀ c ∈ t, isBlank c
  · rw [List.rdropWhile_eq_nil_iff.mpr blank, trim, trim, trimBy, trimBy, List.dropWhile_eq_nil_iff.mpr blank]
    rfl
  · simp only [not_forall, Bool.not_eq_true] at blank
    obtain ⟨c, mem, solid⟩ := blank
    obtain ⟨left, right, rfl⟩ := List.append_of_mem mem
    rw [rdropWhile_append_cons solid, trim_append_cons solid, trim_append_cons solid, List.rdropWhile_idempotent]

/-- A blank in front does not matter to a trimmed text. -/
lemma trim_cons (h : isBlank c = true) (t : Text) : trim (c :: t) = trim t := by
  unfold trim trimBy
  rw [List.dropWhile_cons_of_pos h]

/-- A blank at the end does not matter to a trimmed text. -/
lemma trim_concat (h : isBlank c = true) (t : Text) : trim (t ++ [c]) = trim t := by
  rw [← trim_rdropWhile, List.rdropWhile_concat_pos isBlank t c h, trim_rdropWhile]

/-- A text of blanks alone. -/
def Blank (t : Text) : Prop :=
  ∀ c ∈ t, isBlank c = true

/-- What is left of a text without the blanks in front is the trimmed text with some blanks behind it. -/
lemma exists_of_dropWhile (t : Text) : ∃ back, Blank back ∧ t.dropWhile isBlank = trim t ++ back := by
  refine ⟨(t.dropWhile isBlank).rtakeWhile isBlank, fun c mem => List.mem_rtakeWhile_imp mem, ?_⟩
  exact List.rdropWhile_append_rtakeWhile.symm

/-- A trimmed text has lost nothing but blanks at its ends. -/
lemma exists_of_trim (t : Text) : ∃ front back, Blank front ∧ Blank back ∧ t = front ++ trim t ++ back := by
  obtain ⟨back, blank, rest⟩ := exists_of_dropWhile t
  refine ⟨t.takeWhile isBlank, back, fun c mem => List.mem_takeWhile_imp mem, blank, ?_⟩
  rw [List.append_assoc, ← rest]
  exact List.takeWhile_append_dropWhile.symm

/-- Blanks in front do not matter to a trimmed text. -/
lemma trim_blank_append (blank : Blank start) (t : Text) : trim (start ++ t) = trim t := by
  induction start with
  | nil => rfl
  | cons c start ih =>
    rw [List.cons_append, trim_cons (blank c List.mem_cons_self)]
    exact ih fun c mem => blank c (List.mem_cons_of_mem _ mem)

/-- Blanks at the end do not matter to a trimmed text. -/
lemma trim_append_blank {u : Text} (blank : Blank u) (t : Text) : trim (t ++ u) = trim t := by
  induction u using List.reverseRecOn with
  | nil => rw [List.append_nil]
  | append_singleton u c ih =>
    rw [← List.append_assoc, trim_concat (blank c (List.mem_append_right u List.mem_cons_self))]
    exact ih fun c mem => blank c (List.mem_append_left _ mem)

/-- Nothing is left of a text that is trimmed just if it is blank. -/
lemma trim_eq_nil_iff : trim t = [] ↔ Blank t := by
  constructor
  · intro nothing
    obtain ⟨front, back, first, last, whole⟩ := exists_of_trim t
    rw [nothing, List.append_nil] at whole
    intro c mem
    rw [whole, List.mem_append] at mem
    exact mem.elim (first c) (last c)
  · intro blank
    rw [← List.append_nil t, trim_blank_append blank]
    rfl

/-- A text begins as it does when it is trimmed, but for the blanks in front. -/
lemma head?_trim (t : Text) : (trim t).head? = (t.dropWhile isBlank).head? := by
  cases front : t.dropWhile isBlank with
  | nil =>
    rw [← trim_dropWhile, front]
    rfl
  | cons c rest =>
    have solid : isBlank c = false := by
      have first := List.head_dropWhile_not isBlank (front ▸ List.cons_ne_nil c rest)
      simpa only [front, List.head_cons] using first
    have kept := trim_append_cons solid [] rest
    rw [← trim_dropWhile, front, show c :: rest = [] ++ c :: rest from rfl, kept]
    rfl

/-- A text that does not end in a blank begins a longer one without the blanks at the end of that. -/
lemma prefix_of_blank {start t u : Text} (solid : start.getLast?.any isBlank = false) (blank : Blank u)
    (begins : start <+: t ++ u) : start <+: t := by
  obtain within | ⟨more, rfl⟩ := List.prefix_or_prefix_of_prefix begins (List.prefix_append t u)
  · exact within
  · have inside : more <+: u := (List.prefix_append_right_inj t).mp begins
    cases last : more.getLast? with
    | none =>
      obtain rfl := List.getLast?_eq_none_iff.mp last
      exact ⟨[], by rw [List.append_nil, List.append_nil]⟩
    | some c =>
      rw [List.getLast?_append, last, Option.some_or, Option.any_some,
        blank c (inside.subset (List.mem_of_getLast? last))] at solid
      cases solid

end Parley.Text
