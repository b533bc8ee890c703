import Parley.Json.Basic
import Parley.Number.Exact

/-!
# Schemas

A schema says which values a file may hold: their type, and, where they are objects or lists, their
members and items. `Schema.dialog` is the schema of saved dialogs.
-/

namespace Parley

/-- The types that a schema can ask for. -/
inductive SchemaType where
  | object
  | array
  | string
  | boolean
  | integer
  | number
  | null
  deriving DecidableEq, Repr

namespace SchemaType

/-- The types by their names. -/
def names : List (Text × SchemaType) :=
  [("object".toList, .object), ("array".toList, .array), ("string".toList, .string),
   ("boolean".toList, .boolean), ("integer".toList, .integer), ("number".toList, .number),
   ("null".toList, .null)]

/-- Whether a value has the type. A number without decimals is an integer. -/
def fits : SchemaType → Json → Bool
  | .object, .object _ => true
  | .array, .list _ => true
  | .string, .text _ => true
  | .boolean, .bool _ => true
  | .integer, .int _ => true
  | .integer, .float x => ((Exact.ofFloat? x).bind Exact.toInt?).isSome
  | .number, .int _ => true
  | .number, .float _ => true
  | .null, .null => true
  | _, _ => false

end SchemaType

/-- What a value has to be like. -/
inductive Schema where
  | never
  /-- One of the types, if any are given; with the members that are required; with members and items as
  their schemas ask; and, if closed, without other members. -/
  | value (types : List SchemaType) (required : List Text) (members : List (Text × Schema))
      (closed : Bool) (items : Option Schema)

namespace Schema

/-- A schema that only asks for a type. -/
def ofType (t : SchemaType) : Schema :=
  .value [t] [] [] false none

/-- Lists of values of a schema. -/
def listOf (s : Schema) : Schema :=
  .value [.array] [] [] false (some s)

/-- Objects with the members that are given and no others. -/
def record (required : List String) (members : List (String × Schema)) : Schema :=
  .value [.object] (required.map String.toList) (members.map fun (k, s) => (k.toList, s)) true none

/-- Whether an object has every member that is required. -/
def hasRequired (required : List Text) (j : Json) : Bool :=
  match j with
  | .object members => required.all fun key => (Table.lookup key members).isSome
  | _ => true

/-- Whether an object has no member without a schema. -/
def isClosed (known : List (Text × Schema)) (j : Json) : Bool :=
  match j with
  | .object members => members.all fun m => (Table.lookup m.1 known).isSome
  | _ => true

mutual

/-- Whether a schema accepts a value. -/
def accepts : Schema → Json → Bool
  | .never, _ => false
  | .value types required members closed items, j =>
    (types.isEmpty || types.any (·.fits j)) && hasRequired required j
      && (!closed || isClosed members j) && acceptsMembers members j && acceptsItems items j

/-- Whether the members of an object are as their schemas ask. -/
def acceptsMembers : List (Text × Schema) → Json → Bool
  | [], _ => true
  | (key, s) :: rest, j =>
    (match j.get? key with
      | some j => s.accepts j
      | none => true) && acceptsMembers rest j

/-- Whether the items of a list are as their schema asks. -/
def acceptsItems : Option Schema → Json → Bool
  | some s, .list js => js.all s.accepts
  | _, _ => true

end

/-- Texts. -/
def text : Schema := ofType .string

/-- Truth values. -/
def flag : Schema := ofType .boolean

/-- The schema of responses. -/
def response : Schema :=
  record [] [("text", text), ("link", text)]

/-- The schema of assignments. -/
def assignment : Schema :=
  record [] [("key", text), ("value", text)]

/-- The schema of queries. -/
def query : Schema :=
  record [] [("text", text), ("description", text), ("responses", listOf response)]

/-- The schema of lines. -/
def line : Schema :=
  record [] [("speaker", text), ("text", text), ("portrait", text), ("typing", text), ("sound", text),
    ("voice", text), ("link", text), ("exit", flag), ("data", text), ("responses", listOf response),
    ("ifVar", text), ("ifFunction", text), ("ifDialogCount", text), ("elseIf", flag), ("endIf", flag),
    ("setVar", assignment), ("callFunction", text), ("query", query)]

/-- The schema of nodes. -/
def node : Schema :=
  record ["name"] [("name", text), ("data", text), ("lines", listOf line)]

/-- The schema of dialogs. -/
def dialog : Schema :=
  record [] [("start", text), ("windowType", text), ("data", text), ("nodes", listOf node)]

/-- The types that a value names. -/
def typesOf : Json → List SchemaType
  | .text t => (Table.lookup t SchemaType.names).toList
  | .list js =>
    js.filterMap fun j =>
      match j with
      | .text t => Table.lookup t SchemaType.names
      | _ => none
  | _ => []

/-- The texts in a list. -/
def textsOf : Json → List Text
  | .list js =>
    js.filterMap fun j =>
      match j with
      | .text t => some t
      | _ => none
  | _ => []

/-- The schema that a file holds, which may ask for types and required members; a file that holds nothing
is no schema. -/
def ofJson? : Json → Option Schema
  | .null => none
  | .bool false => some .never
  | j =>
    let types := (j.get? "type".toList).elim [] typesOf
    let required := (j.get? "required".toList).elim [] textsOf
    some (.value types required [] false none)

end Schema

end Parley
