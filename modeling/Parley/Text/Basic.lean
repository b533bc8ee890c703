import Parley.Text.Blank

/-!
# Texts

A text is the list of its characters. This file holds the ways in which scripts, expressions and
conditions take a text apart: trimming, cutting at a separator (the first or the last occurrence), and
splitting at every occurrence. `eq_append_of_cut` says that cutting loses nothing but the separator.
-/

namespace Parley

/-- A text is a list of characters. -/
abbrev Text := List Char

namespace Text

/-- The text without the characters at either end that `p` holds of. -/
def trimBy (p : Char → Bool) (t : Text) : Text :=
  ((t.dropWhile p).reverse.dropWhile p).reverse

/-- The text without blanks at either end. -/
def trim (t : Text) : Text :=
  trimBy isBlank t

/-- The text without spacing at either end. -/
def trimSpacing (t : Text) : Text :=
  trimBy isSpacing t

/-- What follows `start` in a text that begins with it. -/
def after? : (start t : Text) → Option Text
  | [], t => some t
  | _ :: _, [] => none
  | a :: start, c :: t => if a = c then after? start t else none

/-- Whether the text begins with `start`. -/
def beginsWith (start t : Text) : Bool :=
  (after? start t).isSome

/-- The parts before and after the first occurrence of the separator. -/
def cut (separator : Text) : Text → Option (Text × Text)
  | [] => (after? separator []).map fun rest => ([], rest)
  | c :: t =>
    match after? separator (c :: t) with
    | some rest => some ([], rest)
    | none => (cut separator t).map fun (left, right) => (c :: left, right)

/-- The parts before and after the last occurrence of the separator. -/
def cutLast (separator t : Text) : Option (Text × Text) :=
  (cut separator.reverse t.reverse).map fun (right, left) => (left.reverse, right.reverse)

/-- Whether a separator occurs in a text. -/
def includes (separator t : Text) : Bool :=
  (cut separator t).isSome

/-- A text is what it starts with, followed by the rest. -/
theorem eq_append_of_after? {start t rest : Text} (h : after? start t = some rest) :
    t = start ++ rest := by
  induction start generalizing t with
  | nil => simpa [after?] using h
  | cons a start ih =>
    cases t with
    | nil => simp [after?] at h
    | cons c t =>
      simp only [after?] at h
      split at h
      · next e => simp [e, ih h]
      · simp at h

/-- What stands behind the start of a text is found. -/
@[simp] theorem after?_append (start rest : Text) : after? start (start ++ rest) = some rest := by
  induction start with
  | nil => rfl
  | cons a start ih => simp [after?, ih]

/-- A cut loses nothing but the separator. -/
theorem eq_append_of_cut {separator t left right : Text} (h : cut separator t = some (left, right)) :
    t = left ++ separator ++ right := by
  induction t generalizing left with
  | nil =>
    simp only [cut, Option.map_eq_some_iff, Prod.mk.injEq] at h
    obtain ⟨rest, hr, rfl, rfl⟩ := h
    simpa using eq_append_of_after? hr
  | cons c t ih =>
    simp only [cut] at h
    split at h
    · next rest hr =>
      simp only [Option.some.injEq, Prod.mk.injEq] at h
      obtain ⟨rfl, rfl⟩ := h
      simpa using eq_append_of_after? hr
    · simp only [Option.map_eq_some_iff, Prod.mk.injEq] at h
      obtain ⟨⟨l, r⟩, hc, rfl, rfl⟩ := h
      simp [ih hc]

/-- What stands behind a separator is shorter than the text. -/
theorem length_lt_of_cut {separator t left right : Text} (hs : separator ≠ [])
    (h : cut separator t = some (left, right)) : right.length < t.length := by
  have hp := List.length_pos_iff.2 hs
  have e := congrArg List.length (eq_append_of_cut h)
  simp only [List.length_append] at e
  omega

/-- The pieces between the occurrences of the separator, found from left to right. An empty separator
splits nothing. -/
def splitOn (separator t : Text) : List Text :=
  if _hs : separator = [] then [t]
  else
    match _h : cut separator t with
    | none => [t]
    | some (left, right) => left :: splitOn separator right
termination_by t.length
decreasing_by exact length_lt_of_cut _hs _h

/-- The lines of a text. -/
def lines (t : Text) : List Text :=
  splitOn ['\n'] t

/-- The texts one after another with the separator between them. -/
def join (separator : Text) : List Text → Text
  | [] => []
  | [t] => t
  | t :: u :: rest => t ++ separator ++ join separator (u :: rest)

/-- Splitting gives one piece at least. -/
theorem splitOn_ne_nil (separator t : Text) : splitOn separator t ≠ [] := by
  unfold splitOn
  split
  · simp
  · split <;> simp

/-- The two pieces of a text that holds the separator exactly once. -/
def splitPair? (separator t : Text) : Option (Text × Text) :=
  match splitOn separator t with
  | [left, right] => some (left, right)
  | _ => none

end Text

end Parley
