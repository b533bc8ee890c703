import Parley.Json.Basic
import Parley.Number.Literal

/-!
# Reading JSON

A reader for whole JSON texts. It follows the grammar strictly, except that the names of the infinities
and of the number that is none are numbers. Dialects differ in how deep values may nest and in whether a
half of a surrogate pair may stand alone. The text is read from left to right, and the first thing that
cannot be read decides why the text is not: what stands behind it does not matter.
-/

namespace Parley.Json

/-- Why a text is not read as a value. -/
inductive ReadError where
  /-- The text does not follow the grammar. -/
  | malformed
  /-- An array or object stands inside too many others. -/
  | nestedTooDeep
  /-- An integer has this many digits, which are too many. -/
  | integerTooLong (digits : Nat)
  deriving DecidableEq, Repr

/-- What a reader accepts beyond the grammar, and where it gives up. -/
structure Dialect where
  /-- How many arrays and objects may stand inside one another. -/
  depthLimit : Nat
  /-- Whether half of a surrogate pair is read as the replacement character. -/
  allowsHalves : Bool

namespace Dialect

/-- Dialogs and variables that arrive as texts. -/
def guarded : Dialect := ⟨200, false⟩

end Dialect

/-- How deep values in files may nest. The reader of files calls itself for what stands inside an array or
object, so this is what the machine leaves room for at the time. It is no less than for texts that arrive. -/
structure Room where
  levels : Nat
  ample : Dialect.guarded.depthLimit ≤ levels

/-- The room that is left where a program has hardly begun. -/
def Room.usual : Room := ⟨980, Nat.le_of_ble_eq_true rfl⟩

/-- Files, of a data folder or with settings. -/
def Dialect.trusting (room : Room) : Dialect := ⟨room.levels, true⟩

/-- A value and the text behind it. -/
abbrev Read (α : Type) := Except ReadError (α × Text)

/-- Whether the character may stand between the tokens of a JSON text. -/
def isGap (c : Char) : Bool :=
  c == ' ' || c == '\t' || c == '\n' || c == '\r'

/-- The text behind its leading gaps. -/
def skipGaps (t : Text) : Text :=
  t.dropWhile isGap

/-- The value of a hexadecimal digit. -/
def hexValue? (c : Char) : Option Nat :=
  if '0' ≤ c && c ≤ '9' then some (c.toNat - '0'.toNat)
  else if 'a' ≤ c && c ≤ 'f' then some (c.toNat - 'a'.toNat + 10)
  else if 'A' ≤ c && c ≤ 'F' then some (c.toNat - 'A'.toNat + 10)
  else none

/-- The number that four hexadecimal digits spell. -/
def hexUnit? (a b c d : Char) : Option Nat := do
  some (((← hexValue? a) * 16 + (← hexValue? b)) * 256 + (← hexValue? c) * 16 + (← hexValue? d))

/-- A piece of a string: a character, or half of a surrogate pair. -/
inductive Piece where
  | char (c : Char)
  | half (n : Nat)

/-- Whether the number is a half of a surrogate pair. -/
def isHalf (n : Nat) : Bool :=
  0xd800 ≤ n && n < 0xe000

/-- The character that a backslash and a letter stand for. -/
def escaped? : Char → Option Char
  | '"' => some '"'
  | '\\' => some '\\'
  | '/' => some '/'
  | 'b' => some '\x08'
  | 'f' => some '\x0c'
  | 'n' => some '\n'
  | 'r' => some '\r'
  | 't' => some '\t'
  | _ => none

/-- The pieces of a string up to its closing quote. -/
def pieces : Text → Option (List Piece × Text)
  | [] => none
  | '"' :: rest => some ([], rest)
  | '\\' :: 'u' :: a :: b :: c :: d :: rest => do
    let n ← hexUnit? a b c d
    let (ps, rest) ← pieces rest
    some ((if isHalf n then .half n else .char (Char.ofNat n)) :: ps, rest)
  | '\\' :: c :: rest => do
    let c ← escaped? c
    let (ps, rest) ← pieces rest
    some (.char c :: ps, rest)
  | c :: rest =>
    if c.toNat < 0x20 || c == '\\' then none
    else (pieces rest).map fun (ps, rest) => (.char c :: ps, rest)

/-- The text that pieces spell. Two matching halves in a row spell one character. -/
def spell? (allowsHalves : Bool) : List Piece → Option Text
  | [] => some []
  | .char c :: ps => (spell? allowsHalves ps).map (c :: ·)
  | .half high :: .half low :: ps =>
    if high < 0xdc00 && 0xdc00 ≤ low then
      let n := 0x10000 + (high - 0xd800) * 0x400 + (low - 0xdc00)
      (spell? allowsHalves ps).map (Char.ofNat n :: ·)
    else if allowsHalves then (spell? allowsHalves (.half low :: ps)).map ('\ufffd' :: ·)
    else none
  | .half _ :: ps => if allowsHalves then (spell? allowsHalves ps).map ('\ufffd' :: ·) else none

/-- The string behind an opening quote. -/
def string (d : Dialect) (t : Text) : Read Text :=
  match pieces t with
  | none => .error .malformed
  | some (ps, rest) =>
    match spell? d.allowsHalves ps with
    | none => .error .malformed
    | some s => .ok (s, rest)

/-- The digits at the start of a text, and the rest. -/
def takeDigits (t : Text) : Text × Text :=
  (t.takeWhile Char.isDigit, t.dropWhile Char.isDigit)

/-- The digits in front of the point. A zero stands alone. -/
def takeWhole : Text → Text × Text
  | '0' :: t => (['0'], t)
  | t => takeDigits t

/-- The decimals at the start of a text: those behind a point, if there are any. -/
def takeDecimals (t : Text) : Text × Text :=
  match t with
  | '.' :: behind =>
    match takeDigits behind with
    | ([], _) => ([], t)
    | found => found
  | _ => ([], t)

/-- The exponent at the start of a text: what the digits behind a mark and a sign come to, if there are any. -/
def takeExponent (t : Text) : Option Int × Text :=
  match t with
  | c :: behind =>
    if Literal.isExponentMark c then
      let (negative, body) := Numeral.splitSign behind
      match takeDigits body with
      | ([], _) => (none, t)
      | (ds, rest) => (some (if negative then -(Literal.ofDigits ds : Int) else Literal.ofDigits ds), rest)
    else (none, t)
  | [] => (none, [])

/-- The number at the start of a text, behind its sign. It goes as far as it can: a point or a mark without
digits behind it is left to what comes next, and an integer is made of the digits in front of it. -/
def number (negative : Bool) (t : Text) : Read Json :=
  match takeWhole t with
  | ([], _) => .error .malformed
  | (whole, rest) =>
    let (decimals, rest) := takeDecimals rest
    let (exponent, rest) := takeExponent rest
    if decimals.isEmpty && exponent.isNone then
      if Numeral.digitLimit < whole.length then .error (.integerTooLong whole.length)
      else
        let n : Nat := Literal.ofDigits whole
        .ok (.int (if negative then -(n : Int) else n), rest)
    else
      let l : Literal :=
        ⟨negative, Literal.ofDigits (whole ++ decimals), exponent.getD 0 - decimals.length⟩
      .ok (.float l.toFloat, rest)

/-- The values that are written as words. -/
def words : List (Text × Json) :=
  [("null".toList, .null), ("true".toList, .bool true), ("false".toList, .bool false),
   ("NaN".toList, .float (0 / 0)), ("Infinity".toList, .float (1 / 0)),
   ("-Infinity".toList, .float (-1 / 0))]

/-- The value of the word at the start of a text. -/
def word? (t : Text) : Option (Json × Text) :=
  words.findSome? fun (w, j) => (Text.after? w t).map fun rest => (j, rest)

/-- The word or the number at the start of a text. -/
def scalar (t : Text) : Read Json :=
  match word? t, t with
  | some found, _ => .ok found
  | none, '-' :: rest => number true rest
  | none, _ => number false t

/-- Whether one more array or object may be opened inside `depth` others. -/
def Dialect.allows (d : Dialect) (depth : Nat) : Bool :=
  depth < d.depthLimit

mutual

/-- The value at the start of a text, inside `depth` arrays and objects. -/
def value (d : Dialect) : (fuel depth : Nat) → Text → Read Json
  | 0, _, _ => .error .malformed
  | fuel + 1, depth, t =>
    match skipGaps t with
    | '"' :: rest => (string d rest).map fun (s, rest) => (.text s, rest)
    | '[' :: rest =>
      if d.allows depth then
        match skipGaps rest with
        | ']' :: rest => .ok (.list [], rest)
        | rest => (items d fuel (depth + 1) rest).map fun (js, rest) => (.list js, rest)
      else .error .nestedTooDeep
    | '\x7b' :: rest =>
      if d.allows depth then
        match skipGaps rest with
        | '\x7d' :: rest => .ok (.object [], rest)
        | rest => (members d fuel (depth + 1) rest).map fun (ms, rest) => (ofMembers ms, rest)
      else .error .nestedTooDeep
    | t => scalar t

/-- The items of an array up to its closing bracket, at least one. -/
def items (d : Dialect) : (fuel depth : Nat) → Text → Read (List Json)
  | 0, _, _ => .error .malformed
  | fuel + 1, depth, t =>
    match value d fuel depth t with
    | .error e => .error e
    | .ok (j, rest) =>
      match skipGaps rest with
      | ',' :: rest => (items d fuel depth rest).map fun (js, rest) => (j :: js, rest)
      | ']' :: rest => .ok ([j], rest)
      | _ => .error .malformed

/-- The members of an object up to its closing brace, at least one, as they are written. -/
def members (d : Dialect) : (fuel depth : Nat) → Text → Read (List (Text × Json))
  | 0, _, _ => .error .malformed
  | fuel + 1, depth, t =>
    match skipGaps t with
    | '"' :: rest =>
      match string d rest with
      | .error e => .error e
      | .ok (key, rest) =>
        match skipGaps rest with
        | ':' :: rest =>
          match value d fuel depth rest with
          | .error e => .error e
          | .ok (j, rest) =>
            match skipGaps rest with
            | ',' :: rest => (members d fuel depth rest).map fun (ms, rest) => ((key, j) :: ms, rest)
            | '\x7d' :: rest => .ok ([(key, j)], rest)
            | _ => .error .malformed
        | _ => .error .malformed
    | _ => .error .malformed

end

/-- The value that a whole text is. -/
def read (d : Dialect) (t : Text) : Except ReadError Json :=
  match value d (2 * t.length + 1) 0 t with
  | .error e => .error e
  | .ok (j, rest) => if (skipGaps rest).isEmpty then .ok j else .error .malformed

end Parley.Json
