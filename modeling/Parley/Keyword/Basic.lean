import Parley.Log
import Parley.Table

/-!
# Keywords

A keyword in a text stands between double angle brackets. Expanding a text replaces its keywords, one
after another from the left, by what they stand for, which may bring in new keywords; each key is looked
up once, and a limit bounds the number of replacements.
-/

namespace Parley.Keyword

/-- What stands in front of a keyword. -/
def opening : Text := ['<', '<']

/-- What stands behind a keyword. -/
def closing : Text := ['>', '>']

/-- A text around its first keyword. -/
structure Span where
  before : Text
  key : Text
  after : Text
  deriving DecidableEq, Repr

/-- The first keyword of a text: the first opening, and the first closing behind it. -/
def span? (t : Text) : Option Span := do
  let (before, rest) ← Text.cut opening t
  let (key, after) ← Text.cut closing rest
  some ⟨before, key, after⟩

/-- The place of the first character of a keyword. -/
def Span.start (s : Span) : Nat :=
  s.before.length

/-- The place behind the last character of a keyword. -/
def Span.stop (s : Span) : Nat :=
  s.before.length + opening.length + s.key.length + closing.length

/-- The outcome of expanding a text. -/
structure Expansion where
  text : Text
  /-- The keys that were looked up, in that order, with what they stand for. -/
  known : Table Text Text
  count : Nat
  /-- Whether keywords are left because of the limit. -/
  limitReached : Bool

/-- The log entry of an expansion that has come to its limit. -/
def limitEntry (limit : Int) : LogEntry :=
  .of .warning
    ["Keyword expansion limit (", toString limit, ") reached; leaving remaining keywords in place"]

/-- Expands a text with at most `fuel` further replacements. -/
def expandFrom {m : Type → Type} [Monad m] (resolve : Text → m (Option Text)) :
    (fuel count : Nat) → (known : Table Text Text) → (t : Text) → m Expansion
  | fuel, count, known, t =>
    match span? t, fuel with
    | none, _ => pure ⟨t, known, count, false⟩
    | some _, 0 => pure ⟨t, known, count, true⟩
    | some s, fuel + 1 =>
      match known.get? s.key with
      | some value => expandFrom resolve fuel (count + 1) known (s.before ++ value ++ s.after)
      | none => do
        let value := (← resolve s.key).getD []
        expandFrom resolve fuel (count + 1) (known.set s.key value) (s.before ++ value ++ s.after)

/-- Expands a text. A key that stands for nothing expands to the empty text, and a limit below zero
counts as zero. -/
def expand {m : Type → Type} [Monad m] (resolve : Text → m (Option Text)) (limit : Int) (t : Text) :
    m Expansion :=
  expandFrom resolve limit.toNat 0 Table.empty t

end Parley.Keyword
