import Parley.Json.Reader
import Parley.Json.Writer

/-!
# Records in JSON

A codec reads a value of a type from JSON, or says everything that is wrong with it, and writes it back.
A record is read field by field. Each field has a short name for saved files and may also be given by
its long name; a field that is missing keeps the value of the blank record, a member that is no field is
refused, and a field equal to the blank one is left out when the record is written.
-/

namespace Parley.Json

/-- One thing that can be wrong with a value. -/
inductive Flaw where
  | notText
  | notList
  | notObject
  | notBool
  | unreadableBool
  | notNumber
  | unreadableNumber
  | notPositive
  /-- A member of an object is no field of the record. -/
  | unknownMember
  /-- A field to be changed is no field of the record. -/
  | unknownField
  /-- The whole text is no JSON value. -/
  | malformed
  deriving DecidableEq, Repr

/-- A step from a value to a part of it. -/
inductive Step where
  | key (name : Text)
  | index (i : Nat)
  deriving DecidableEq, Repr

/-- A flaw and where it is. -/
structure Issue where
  flaw : Flaw
  path : List Step
  deriving DecidableEq, Repr

/-- What reading gives: a value, or every issue in order. -/
abbrev Checked (α : Type) := Except (List Issue) α

namespace Checked

/-- What is refused for one flaw. -/
def refuse {α : Type} (f : Flaw) : Checked α :=
  .error [⟨f, []⟩]

/-- The result for a part of a value, seen from the value. -/
def within {α : Type} (s : Step) (r : Checked α) : Checked α :=
  r.mapError fun issues => issues.map fun i => ⟨i.flaw, s :: i.path⟩

/-- The results of parts together: all values, or the issues of all. -/
def all {α : Type} : List (Checked α) → Checked (List α)
  | [] => .ok []
  | r :: rest =>
    match r, all rest with
    | .ok x, .ok xs => .ok (x :: xs)
    | .ok _, .error js => .error js
    | .error is, .ok _ => .error is
    | .error is, .error js => .error (is ++ js)

end Checked

/-- How a type is read from JSON and written to it. -/
structure Codec (α : Type) where
  read : Json → Checked α
  write : α → Json

namespace Codec

/-- Texts, which are nothing but texts. -/
def text : Codec Text where
  read
    | .text t => .ok t
    | _ => Checked.refuse .notText
  write := .text

/-- The words that are read as truth values, in any letter case. -/
def boolWords : List (Text × Bool) :=
  ["0", "off", "f", "false", "n", "no"].map (·.toList, false)
    ++ ["1", "on", "t", "true", "y", "yes"].map (·.toList, true)

/-- Truth values may also be given as the numbers 0 and 1 and as words. -/
def bool : Codec Bool where
  read
    | .bool b => .ok b
    | .int n =>
      if n = 0 then .ok false else if n = 1 then .ok true
      else if Int64.minValue.toInt ≤ n && n ≤ Int64.maxValue.toInt then Checked.refuse .unreadableBool
      else Checked.refuse .notBool
    | .float x => if x == 0 then .ok false else if x == 1 then .ok true else Checked.refuse .notBool
    | .text t =>
      match Table.lookup (t.map Char.toLower) boolWords with
      | some b => .ok b
      | none => Checked.refuse .unreadableBool
    | _ => Checked.refuse .notBool
  write := .bool

/-- Whether the digits of a number in a string belong to the plain ones. -/
def isPlain (t : Text) : Bool :=
  t.all fun c => c.toNat < 0x80

/-- The number that a plain word or literal spells. -/
def spelledNumber? (t : Text) : Option Float :=
  let (negative, body) := Numeral.splitSign t
  let name := body.map Char.toLower
  if name == "inf".toList || name == "infinity".toList then some (if negative then -1 / 0 else 1 / 0)
  else if name == "nan".toList then some (0 / 0)
  else if isPlain t then (Literal.parse? t).map Literal.toFloat else none

/-- The number that a string spells. Underscores may stand between other characters, one at a time. -/
def stringNumber? (t : Text) : Option Float :=
  match spelledNumber? (Text.trimSpacing t) with
  | some x => some x
  | none =>
    if t.head? = some '_' || t.getLast? = some '_' || Text.includes ['_', '_'] t then none
    else spelledNumber? (Text.trimSpacing (t.filter (· ≠ '_')))

/-- The number that a value stands for. -/
def numberOf : Json → Checked Float
  | .int n => .ok (floatOfInt n)
  | .float x => .ok x
  | .bool b => .ok (if b then 1 else 0)
  | .text t =>
    match stringNumber? t with
    | some x => .ok x
    | none => Checked.refuse .unreadableNumber
  | _ => Checked.refuse .notNumber

/-- Numbers above zero. -/
def positive : Codec Float where
  read j :=
    match numberOf j with
    | .ok x => if x > 0 then .ok x else Checked.refuse .notPositive
    | .error issues => .error issues
  write := .float

/-- The items of a list, each read with its index as a step. -/
def readItems {α : Type} (c : Codec α) (i : Nat) : List Json → List (Checked α)
  | [] => []
  | j :: js => Checked.within (.index i) (c.read j) :: readItems c (i + 1) js

/-- Lists of values of one kind. -/
def list {α : Type} (c : Codec α) : Codec (List α) where
  read
    | .list js => Checked.all (readItems c 0 js)
    | _ => Checked.refuse .notList
  write xs := .list (xs.map c.write)

end Codec

/-- A field of records of a type: its names, how its value changes a record, and its value in one if it
is not the blank one. -/
structure RecordField (σ : Type) where
  name : Text
  longName : Text
  read : Json → Checked (σ → σ)
  write? : σ → Option Json

namespace RecordField

/-- A field that is left out where it is blank. -/
def of {σ α : Type} (name longName : String) (c : Codec α) (isBlank : α → Bool) (get : σ → α)
    (put : σ → α → σ) : RecordField σ where
  name := name.toList
  longName := longName.toList
  read j := (c.read j).map fun x r => put r x
  write? r := if isBlank (get r) then none else some (c.write (get r))

end RecordField

/-- A type of records: its blank one and its fields in order. -/
structure RecordType (σ : Type) where
  blank : σ
  fields : List (RecordField σ)

namespace RecordType

variable {σ : Type}

/-- What a field finds among the members: by its short name, or else by its long one. -/
def readField (members : List (Text × Json)) (f : RecordField σ) : Checked (σ → σ) :=
  match Table.lookup f.name members with
  | some j => Checked.within (.key f.name) (f.read j)
  | none =>
    match Table.lookup f.longName members with
    | some j => Checked.within (.key f.longName) (f.read j)
    | none => .ok id

/-- Whether one of the members is that of a field, under the short name or the long one. -/
def givenBy (members : List (Text × Json)) (key : Text) (f : RecordField σ) : Bool :=
  f.name == key || (f.longName == key && (Table.lookup f.name members).isNone)

/-- The members that belong to no field, each of which is refused. -/
def strangers (t : RecordType σ) (members : List (Text × Json)) : List (Checked (σ → σ)) :=
  (members.filter fun m => !t.fields.any (givenBy members m.1)).map fun m =>
    Checked.within (.key m.1) (Checked.refuse .unknownMember)

/-- The record that an object holds, or everything that is wrong with it. -/
def read (t : RecordType σ) : Json → Checked σ
  | .object members =>
    (Checked.all (t.fields.map (readField members) ++ t.strangers members)).map fun changes =>
      changes.foldl (fun r change => change r) t.blank
  | _ => Checked.refuse .notObject

/-- The object of a record, without the fields that are blank. -/
def write (t : RecordType σ) (r : σ) : Json :=
  .object (t.fields.filterMap fun f => (f.write? r).map fun j => (f.name, j))

/-- Records as values. -/
def codec (t : RecordType σ) : Codec σ where
  read := t.read
  write := t.write

/-- The record with the field of a long name changed to what a value holds. -/
def assign (t : RecordType σ) (r : σ) (longName : Text) (j : Json) : Checked σ :=
  match t.fields.find? (·.longName == longName) with
  | some f => (Checked.within (.key longName) (f.read j)).map fun change => change r
  | none => Checked.within (.key longName) (Checked.refuse .unknownField)

/-- The record in a JSON text. -/
def parse (t : RecordType σ) (text : Text) : Checked σ :=
  match Json.read .guarded text with
  | .ok j => t.read j
  | .error _ => Checked.refuse .malformed

/-- The JSON text of a record. -/
def render (t : RecordType σ) (layout : Layout) (r : σ) : Text :=
  Json.render layout (t.write r)

end RecordType

end Parley.Json
