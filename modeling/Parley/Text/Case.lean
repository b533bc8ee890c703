import Parley.Text.Basic
import Parley.Text.CaseTable

/-!
# Letter case

The capital and the small form of a text, character by character. One rule looks further than its
character: a capital sigma at the end of a word has a small form of its own.
-/

namespace Parley.Text

/-- Whether the number lies in one of the ranges. -/
def inRanges (ranges : List (Nat × Nat)) (n : Nat) : Bool :=
  ranges.any fun (first, last) => first ≤ n && n ≤ last

namespace CaseRun

/-- Whether a number belongs to a run. -/
def holds (run : CaseRun) (n : Nat) : Bool :=
  run.first ≤ n && n ≤ run.last && (n - run.first) % run.step == 0

end CaseRun

/-- A character in the other case, by the tables of that case. -/
def recase (spellings : List (Nat × List Nat)) (runs : List CaseRun) (c : Char) : Text :=
  match spellings.find? fun spelling => spelling.1 == c.toNat with
  | some (_, spelling) => spelling.map Char.ofNat
  | none =>
    match runs.find? (·.holds c.toNat) with
    | some run => [Char.ofNat (c.toNat + run.shift).toNat]
    | none => [c]

/-- The capital of a character, which may be more than one. -/
def capital (c : Char) : Text :=
  if c.toNat < 0x80 then [c.toUpper] else recase capitalSpellings capitalRuns c

/-- The small form of a character that does not depend on its neighbours. -/
def small (c : Char) : Text :=
  if c.toNat < 0x80 then [c.toLower] else recase smallSpellings smallRuns c

/-- A text in capitals. -/
def upper (t : Text) : Text :=
  t.flatMap capital

/-- Whether the first character that a sigma looks at, going away from it, belongs to a word. -/
def touchesWord (away : Text) : Bool :=
  match away.dropWhile fun c => inRanges caseIgnorableRanges c.toNat with
  | [] => false
  | c :: _ => inRanges casedRanges c.toNat

/-- The small forms of the characters of a text, given the characters before it, nearest first. -/
def lowerAfter (before : Text) : Text → Text
  | [] => []
  | c :: t =>
    let here := if c = 'Σ' then
        if touchesWord before && !touchesWord t then ['ς'] else ['σ']
      else small c
    here ++ lowerAfter (c :: before) t

/-- A text in small letters. -/
def lower (t : Text) : Text :=
  lowerAfter [] t

end Parley.Text
