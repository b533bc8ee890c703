import Parley.Proofs.Json.Pruned
import Parley.Proofs.Library.Compiled

/-!
# What the schema accepts can be read

The schema of dialogs and the types of records that dialogs are read with say the same of a value, field by field.

* `Schema.Agrees`: a schema accepts only what a codec reads, and the codec loses nothing but blank members.
* `Schema.agrees_record`: the schema of a kind of objects agrees with a type of records if every field finds what it
  holds.
* `Schema.agrees_dialog`: the schema of dialogs agrees with the type of dialogs.
* `Database.Vetted`: the schema of dialogs accepts every stored dialog, and `Database.vetted_load`.
* `Library.get_vetted`: a stored dialog that is listed is found, and nothing but blank members is lost of it.

`Schema.dialog_agrees` closes the file.
-/

namespace Parley

open Json

/-- What is found is listed. -/
lemma Table.mem_of_lookup {κ ν : Type} [DecidableEq κ] {pairs : List (κ × ν)} {k : κ} {v : ν}
    (found : lookup k pairs = some v) : (k, v) ∈ pairs := by
  induction pairs with
  | nil => cases found
  | cons p pairs ih =>
    rw [lookup] at found
    split at found
    · rename_i same
      cases found
      exact same ▸ List.mem_cons_self
    · exact List.mem_cons_of_mem p (ih found)

namespace Schema

/-- What the schema accepts is read, and what is written of it then is the same but for blank members. -/
def Agrees {α : Type} (s : Schema) (c : Codec α) : Prop :=
  ∀ v, s.accepts v = true → ∃ x, c.read v = .ok x ∧ (v.isDistinct = true → (c.write x).Same v.pruned)

/-- A schema that asks for a type accepts only values of it. -/
lemma accepts_ofType {t : SchemaType} {v : Json} (accepts : (ofType t).accepts v = true) : t.fits v = true := by
  simp only [ofType, Schema.accepts, List.isEmpty_cons, List.any_cons, List.any_nil, Bool.false_or, Bool.or_false,
    Bool.and_eq_true] at accepts
  exact accepts.1.1.1.1

/-- A text is accepted as it is read. -/
lemma agrees_text : Agrees text Codec.text := by
  intro v accepts
  have fits := accepts_ofType accepts
  cases v with
  | text t => exact ⟨t, rfl, fun _ => .refl _⟩
  | _ => cases fits

/-- A flag is accepted as it is read. -/
lemma agrees_flag : Agrees flag Codec.bool := by
  intro v accepts
  have fits := accepts_ofType accepts
  cases v with
  | bool b => exact ⟨b, rfl, fun _ => .refl _⟩
  | _ => cases fits

/-- A schema for lists accepts only lists, of which it accepts each item. -/
lemma accepts_listOf {s : Schema} {v : Json} (accepts : (listOf s).accepts v = true) :
    ∃ js, v = .list js ∧ ∀ j ∈ js, s.accepts j = true := by
  cases v with
  | list js =>
    refine ⟨js, rfl, ?_⟩
    simpa [listOf, Schema.accepts, acceptsMembers, acceptsItems, hasRequired, SchemaType.fits] using accepts
  | _ => simp [listOf, Schema.accepts, SchemaType.fits] at accepts

/-- Lists are read as they are accepted, if their items are. -/
lemma agrees_listOf {α : Type} {s : Schema} {c : Codec α} (agrees : Agrees s c) :
    Agrees (listOf s) (Codec.list c) := by
  have items : ∀ (js : List Json) (i : Nat), (∀ j ∈ js, s.accepts j = true) →
      ∃ xs, Checked.all (Codec.readItems c i js) = .ok xs ∧
        ((∀ j ∈ js, j.isDistinct = true) → List.Forall₂ Same (xs.map c.write) (js.map pruned)) := by
    intro js
    induction js with
    | nil => exact fun _ _ => ⟨[], rfl, fun _ => .nil⟩
    | cons j js ih =>
      intro i accepts
      obtain ⟨first, accepts⟩ := List.forall_mem_cons.mp accepts
      obtain ⟨x, read, same⟩ := agrees j first
      obtain ⟨xs, reads, rest⟩ := ih (i + 1) accepts
      refine ⟨x :: xs, ?_, fun distinct => ?_⟩
      · rw [Codec.readItems, read]
        exact Checked.all_cons rfl reads
      · obtain ⟨first, distinct⟩ := List.forall_mem_cons.mp distinct
        exact .cons (same first) (rest distinct)
  intro v accepts
  obtain ⟨js, rfl, each⟩ := accepts_listOf accepts
  obtain ⟨xs, reads, same⟩ := items js 0 each
  refine ⟨xs, reads, fun distinct => ?_⟩
  rw [pruned, prunedItems_eq_map]
  exact .list (same (areDistinct_iff.mp distinct))

section Records

variable {σ : Type} {blank r : σ} {known : List (Text × Schema)} {ms : List (Text × Json)}

/-- What a codec reads under a key, or a value in its place. -/
def valueAt {α : Type} (c : Codec α) (ms : List (Text × Json)) (name : String) (missing : α) : α :=
  ((Table.lookup name.toList ms).bind fun j => (c.read j).toOption).getD missing

/-- A record holds what a field finds among members, and the field is written as it was found. -/
structure Found (ms : List (Text × Json)) (blank r : σ) (f : RecordField σ) (copy : σ → σ → σ) : Prop where
  read : ∀ j, Table.lookup f.name ms = some j → f.read j = .ok (copy r)
  missing : Table.lookup f.name ms = none → copy r = copy blank
  same : (∀ j, Table.lookup f.name ms = some j → j.isDistinct = true) →
    Option.Rel Same (f.write? r) (((Table.lookup f.name ms).map pruned).filter (!·.isBlank))

/-- The members that schemas are known for are accepted. -/
def Vouched (known : List (Text × Schema)) (ms : List (Text × Json)) : Prop :=
  ∀ m ∈ known, ∀ inner, Table.lookup m.1 ms = some inner → m.2.accepts inner = true

/-- The schema for a key accepts what is found under it. -/
lemma Vouched.accepts (vouched : Vouched known ms) {k : Text} {s : Schema} (schema : Table.lookup k known = some s)
    {j : Json} (found : Table.lookup k ms = some j) : s.accepts j = true :=
  vouched (k, s) (Table.mem_of_lookup schema) j found

/-- A field finds its value among accepted members, and writes it as it was found. -/
lemma found_of {α : Type} {c : Codec α} {s : Schema} (agrees : Agrees s c) (vouched : Vouched known ms)
    (name longName : String) {isBlank : α → Bool} {get : σ → α} {put : σ → α → σ}
    (schema : Table.lookup name.toList known = some s) (hidden : ∀ x, isBlank x = (c.write x).isBlank)
    (empty : isBlank (get blank) = true) (held : get r = valueAt c ms name (get blank)) :
    Found ms blank r (RecordField.of name longName c isBlank get put) fun r acc => put acc (get r) := by
  have name' : (RecordField.of name longName c isBlank get put).name = name.toList := rfl
  -- A member that is absent reads as the default, and the default is not written.
  cases found : Table.lookup name.toList ms with
  | none =>
    have blankly : get r = get blank := by
      rw [held, valueAt, found]
      rfl
    refine ⟨fun j there => ?_, fun _ => by rw [blankly], fun _ => ?_⟩
    · cases found.symm.trans there
    · rw [RecordField.write?_of, blankly, if_pos empty, name', found]
      exact .none
  | some j =>
    obtain ⟨x, read, same⟩ := agrees j (vouched.accepts schema found)
    have value : get r = x := by
      rw [held, valueAt, found, Option.bind_some, read]
      rfl
    refine ⟨fun j' there => ?_, fun absent => ?_, fun distinct => ?_⟩
    · cases found.symm.trans there
      rw [value]
      exact congrArg (Except.map fun x acc => put acc x) read
    · cases found.symm.trans absent
    · have same := same (distinct j found)
      rw [RecordField.write?_of, value, name', found, Option.map_some, hidden, same.isBlank_eq]
      cases blank : j.pruned.isBlank with
      | true =>
        rw [if_pos rfl, Option.filter_some_neg (by rw [blank]; rfl)]
        exact .none
      | false =>
        rw [if_neg Bool.false_ne_true, Option.filter_some_pos (by rw [blank]; rfl)]
        exact .some same

variable (vouched : Vouched known ms) (name longName : String)

include vouched

/-- A field for a text finds it among accepted members. -/
lemma found_text {get : σ → Text} {put : σ → Text → σ} (schema : Table.lookup name.toList known = some text)
    (empty : get blank = []) (held : get r = valueAt Codec.text ms name []) :
    Found ms blank r (textField name longName get put) fun r acc => put acc (get r) := by
  refine found_of agrees_text vouched name longName schema (fun _ => rfl) ?_ (empty ▸ held)
  rw [empty]
  rfl

/-- A field for a flag finds it among accepted members. -/
lemma found_flag {get : σ → Bool} {put : σ → Bool → σ} (schema : Table.lookup name.toList known = some flag)
    (off : get blank = false) (held : get r = valueAt Codec.bool ms name false) :
    Found ms blank r (flagField name longName get put) fun r acc => put acc (get r) := by
  refine found_of agrees_flag vouched name longName schema (fun _ => rfl) ?_ (off ▸ held)
  rw [off]
  rfl

/-- A field for a list finds it among accepted members, if its items are read as they are accepted. -/
lemma found_list {α : Type} {c : Codec α} {s : Schema} (agrees : Agrees s c) {get : σ → List α}
    {put : σ → List α → σ} (schema : Table.lookup name.toList known = some (listOf s)) (empty : get blank = [])
    (held : get r = valueAt (Codec.list c) ms name []) :
    Found ms blank r (listField name longName c get put) fun r acc => put acc (get r) := by
  refine found_of (agrees_listOf agrees) vouched name longName schema (fun xs => ?_) ?_ (empty ▸ held)
  · exact List.isEmpty_map.symm
  · rw [empty]
    rfl

/-- A record is blank if nothing is written of it, and only then. -/
lemma found_record {α : Type} [DecidableEq α] {t : RecordType α} {depth : Nat} (faithful : t.Faithful depth)
    (nothing : t.write t.blank = .object []) {s : Schema} (agrees : Agrees s t.codec) {get : σ → α}
    {put : σ → α → σ} (schema : Table.lookup name.toList known = some s) (same : get blank = t.blank)
    (held : get r = valueAt t.codec ms name t.blank) :
    Found ms blank r (recordField name longName t get put) fun r acc => put acc (get r) := by
  have hidden (x : α) : (x == t.blank) = (t.write x).isBlank := by
    rw [Bool.eq_iff_iff, beq_iff_eq]
    constructor
    · rintro rfl
      rw [nothing]
      rfl
    · intro empty
      have blank : t.write x = .object [] := congrArg Json.object (List.isEmpty_iff.mp empty)
      have read := faithful.read_write x
      rw [blank, ← nothing, faithful.read_write] at read
      exact (Except.ok.inj read).symm
  refine found_of agrees vouched name longName schema hidden ?_ (same ▸ held)
  rw [same]
  exact beq_self_eq_true t.blank

omit vouched

/-- A schema for records accepts only objects that have no members but known ones, each accepted by its schema. -/
lemma accepts_members {required : List String} {members : List (String × Schema)}
    (same : (members.map fun (k, s) => (k.toList, s)) = known) {v : Json}
    (accepts : (record required members).accepts v = true) :
    ∃ ms, v = .object ms ∧ (∀ m ∈ ms, m.1 ∈ known.map Prod.fst) ∧ Vouched known ms := by
  rw [record, same] at accepts
  cases v with
  | object ms =>
    simp only [Schema.accepts, Bool.and_eq_true] at accepts
    obtain ⟨⟨⟨-, closed⟩, vouched⟩, -⟩ := accepts
    refine ⟨ms, rfl, fun m mem => ?_, (acceptsMembers_iff _).mp vouched⟩
    exact Table.exists_lookup_iff.mp (Option.isSome_iff_exists.mp (List.all_eq_true.mp closed m mem))
  | _ => simp [Schema.accepts, SchemaType.fits] at accepts

variable {t : RecordType σ} {depth : Nat}

/-- Members of which none is a stranger are copied into a record by the fields that find them. -/
lemma exists_change (faithful : t.Faithful depth) (closed : ∀ m ∈ ms, m.1 ∈ t.fields.map (·.name)) {f : RecordField σ}
    (mem : f ∈ t.fields) {copy : σ → σ → σ} (found : Found ms t.blank r f copy) :
    ∃ change, RecordType.readField ms f = .ok change ∧ ∀ acc, copy t.blank acc = acc → change acc = copy r acc := by
  rw [RecordType.readField]
  cases there : Table.lookup f.name ms with
  | some j =>
    refine ⟨copy r, ?_, fun _ _ => rfl⟩
    dsimp only
    rw [found.read j there]
    rfl
  | none =>
    have absent : Table.lookup f.longName ms = none := by
      rw [Table.lookup_eq_none_iff]
      intro given
      obtain ⟨m, given, key⟩ := List.mem_map.mp given
      obtain ⟨g, mem', name⟩ := List.mem_map.mp (closed m given)
      have same := faithful.apart f mem g mem' (by rw [name, key])
      rw [Table.lookup_eq_none_iff, same, name] at there
      exact there (List.mem_map.mpr ⟨m, given, rfl⟩)
    refine ⟨id, by dsimp only; rw [absent], fun acc fresh => ?_⟩
    rw [found.missing there, fresh]
    rfl

/-- The schema of a kind of objects agrees with a type of records if every field finds what it holds. -/
lemma agrees_record (faithful : t.Faithful depth) {required : List String} {members : List (String × Schema)}
    (same : (members.map fun (k, s) => (k.toList, s)) = known)
    (keys : ∀ k ∈ known.map Prod.fst, k ∈ t.fields.map (·.name))
    (found : ∀ ms, Vouched known ms →
      ∃ r copies, t.fields.Forall₂ (Found ms t.blank r) copies ∧ Builds t.blank r t.blank copies) :
    Agrees (record required members) t.codec := by
  intro v accepts
  obtain ⟨ms, rfl, closed, vouched⟩ := accepts_members same accepts
  have closed (m : Text × Json) (mem : m ∈ ms) : m.1 ∈ t.fields.map (·.name) := keys m.1 (closed m mem)
  obtain ⟨r, copies, found, builds⟩ := found ms vouched
  refine ⟨r, RecordType.read_of_builds ?_ builds ?_, fun distinct => .object fun k => ?_⟩
  · refine List.forall₂_iff_get.mpr ⟨found.length_eq, fun i h h' => ?_⟩
    exact exists_change faithful closed (List.get_mem t.fields ⟨i, h⟩) (found.get h h')
  · rw [RecordType.strangers, List.map_eq_nil_iff, List.filter_eq_nil_iff]
    intro m mem
    obtain ⟨f, mem', name⟩ := List.mem_map.mp (closed m mem)
    have given : t.fields.any (RecordType.givenBy ms m.1) = true :=
      List.any_eq_true.mpr ⟨f, mem', by simp [RecordType.givenBy, name]⟩
    simp [given]
  · obtain ⟨nodup, inner⟩ := isDistinct_object.mp distinct
    have distinct (j : Json) (there : Table.lookup k ms = some j) : j.isDistinct = true :=
      inner (k, j) ((Table.lookup_eq_some_iff nodup).mp there)
    rw [lookup_prunedMembers nodup]
    change Option.Rel Same (Table.lookup k (membersOf t.fields r)) _
    -- A key of a field is written as it was found; there are no others, since the schema is closed.
    by_cases field : k ∈ t.fields.map (·.name)
    · obtain ⟨f, mem, rfl⟩ := List.mem_map.mp field
      obtain ⟨i, h, rfl⟩ := List.mem_iff_getElem.mp mem
      rw [lookup_membersOf faithful.names mem]
      exact (found.get h (found.length_eq ▸ h)).same distinct
    · have unwritten : Table.lookup k (membersOf t.fields r) = none :=
        Table.lookup_eq_none_iff.mpr fun there => field ((keys_membersOf t.fields r).subset there)
      have absent : Table.lookup k ms = none := by
        rw [Table.lookup_eq_none_iff]
        intro there
        obtain ⟨m, mem, rfl⟩ := List.mem_map.mp there
        exact field (closed m mem)
      rw [unwritten, absent]
      exact .none

end Records

/-- Responses are read as they are accepted. -/
lemma agrees_response : Agrees response Response.type.codec := by
  refine agrees_record (@Response.faithful 0) rfl (by decide) fun ms vouched => ?_
  refine ⟨{ text := valueAt .text ms "text" [], link := valueAt .text ms "link" [] }, _,
    .cons (found_text vouched _ _ rfl rfl rfl) <| .cons (found_text vouched _ _ rfl rfl rfl) .nil, ?_⟩
  exact .cons rfl (.cons rfl .nil)

/-- Assignments are read as they are accepted. -/
lemma agrees_assignment : Agrees assignment Assignment.type.codec := by
  refine agrees_record (@Assignment.faithful 0) rfl (by decide) fun ms vouched => ?_
  refine ⟨{ key := valueAt .text ms "key" [], value := valueAt .text ms "value" [] }, _,
    .cons (found_text vouched _ _ rfl rfl rfl) <| .cons (found_text vouched _ _ rfl rfl rfl) .nil, ?_⟩
  exact .cons rfl (.cons rfl .nil)

/-- Queries are read as they are accepted. -/
lemma agrees_query : Agrees query Query.type.codec := by
  refine agrees_record (@Query.faithful 0) rfl (by decide) fun ms vouched => ?_
  refine ⟨{ text := valueAt .text ms "text" [], description := valueAt .text ms "description" [],
            responses := valueAt (.list Response.type.codec) ms "responses" [] }, _,
    .cons (found_text vouched _ _ rfl rfl rfl) <| .cons (found_text vouched _ _ rfl rfl rfl) <|
    .cons (found_list vouched _ _ agrees_response rfl rfl rfl) .nil, ?_⟩
  exact .cons rfl (.cons rfl (.cons rfl .nil))

/-- Lines are read as they are accepted. -/
lemma agrees_line : Agrees line Line.type.codec := by
  refine agrees_record (@Line.faithful 0) rfl (by decide) fun ms vouched => ?_
  let text := valueAt .text ms
  let flag := valueAt .bool ms
  refine ⟨{ speaker := text "speaker" [], text := text "text" [], portrait := text "portrait" [],
            typing := text "typing" [], sound := text "sound" [], voice := text "voice" [], link := text "link" [],
            responses := valueAt (.list Response.type.codec) ms "responses" [], exit := flag "exit" false,
            ifVar := text "ifVar" [], ifFunction := text "ifFunction" [], ifDialogCount := text "ifDialogCount" [],
            elseIf := flag "elseIf" false, endIf := flag "endIf" false,
            setVar := valueAt Assignment.type.codec ms "setVar" {}, callFunction := text "callFunction" [],
            query := valueAt Query.type.codec ms "query" {}, data := text "data" [] }, _,
    .cons (found_text vouched _ _ rfl rfl rfl) <| .cons (found_text vouched _ _ rfl rfl rfl) <|
    .cons (found_text vouched _ _ rfl rfl rfl) <| .cons (found_text vouched _ _ rfl rfl rfl) <|
    .cons (found_text vouched _ _ rfl rfl rfl) <| .cons (found_text vouched _ _ rfl rfl rfl) <|
    .cons (found_text vouched _ _ rfl rfl rfl) <|
    .cons (found_list vouched _ _ agrees_response rfl rfl rfl) <|
    .cons (found_flag vouched _ _ rfl rfl rfl) <| .cons (found_text vouched _ _ rfl rfl rfl) <|
    .cons (found_text vouched _ _ rfl rfl rfl) <| .cons (found_text vouched _ _ rfl rfl rfl) <|
    .cons (found_flag vouched _ _ rfl rfl rfl) <| .cons (found_flag vouched _ _ rfl rfl rfl) <|
    .cons (found_record vouched _ _ (@Assignment.faithful 0) rfl agrees_assignment rfl rfl rfl) <|
    .cons (found_text vouched _ _ rfl rfl rfl) <|
    .cons (found_record vouched _ _ (@Query.faithful 0) rfl agrees_query rfl rfl rfl) <|
    .cons (found_text vouched _ _ rfl rfl rfl) .nil, ?_⟩
  repeat refine .cons rfl ?_
  exact .nil

/-- Nodes are read as they are accepted. -/
lemma agrees_node : Agrees node Node.type.codec := by
  refine agrees_record Node.faithful rfl (by decide) fun ms vouched => ?_
  refine ⟨{ name := valueAt .text ms "name" [], lines := valueAt (.list Line.type.codec) ms "lines" [],
            data := valueAt .text ms "data" [] }, _,
    .cons (found_text vouched _ _ rfl rfl rfl) <| .cons (found_list vouched _ _ agrees_line rfl rfl rfl) <|
    .cons (found_text vouched _ _ rfl rfl rfl) .nil, ?_⟩
  exact .cons rfl (.cons rfl (.cons rfl .nil))

/-- The schema of dialogs agrees with the type of dialogs. -/
lemma agrees_dialog : Agrees dialog Dialog.type.codec := by
  refine agrees_record Dialog.faithful rfl (by decide) fun ms vouched => ?_
  refine ⟨{ start := valueAt .text ms "start" [], nodes := valueAt (.list Node.type.codec) ms "nodes" [],
            windowType := valueAt .text ms "windowType" [], data := valueAt .text ms "data" [] }, _,
    .cons (found_text vouched _ _ rfl rfl rfl) <| .cons (found_list vouched _ _ agrees_node rfl rfl rfl) <|
    .cons (found_text vouched _ _ rfl rfl rfl) <| .cons (found_text vouched _ _ rfl rfl rfl) .nil, ?_⟩
  exact .cons rfl (.cons rfl (.cons rfl (.cons rfl .nil)))

end Schema

/-- What a first loading brings about, and a second one keeps, holds of both together. -/
lemma Loading.value_bind {α : Type} {P : α → Prop} {l : Loading α} {f : α → Loading α} (first : P l.value)
    (next : ∀ x, P x → P (f x).value) : P (l.bind f).value := by
  unfold bind
  split
  · exact first
  · exact next l.value first

namespace Database

/-- A data folder has no schema of dialogs of its own. -/
def Bundled (folder : Option Entry) : Prop :=
  ∀ e, folder.bind (·.find? schemaPath) = some e → dialogSchema ∉ e.entries.map Prod.fst

/-- The schema of dialogs accepts every stored dialog, and the keys of its objects are different. -/
structure Vetted (db : Database) : Prop where
  accepts : ∀ {id j}, db.dialog? id = some j → Schema.dialog.accepts j = true
  distinct : ∀ {id j}, db.dialog? id = some j → j.isDistinct = true

/-- The keys of every object in a file are distinct once it is read. -/
lemma isDistinct_of_readJson {room : Room} {e : Entry} {j : Json} (read : e.readJson room = .ok j) :
    j.isDistinct = true := by
  unfold Entry.readJson at read
  split at read
  · cases read
  · split at read
    · rename_i parsed
      cases read
      exact isDistinct_of_read parsed
    · cases read
    · cases read
    · cases read

/-- Loading the schemas brings the bundled one into force and leaves the dialogs as they are. -/
lemma loadSchemas_bundled {db : Database} (bundled : Bundled db.folder) :
    db.loadSchemas.value.schema? = some .dialog ∧ db.loadSchemas.value.dialogs = db.dialogs := by
  unfold loadSchemas
  split
  · exact ⟨rfl, rfl⟩
  · rename_i e folder
    refine ⟨?_, rfl⟩
    have other : ∀ f ∈ matching ".schema.json".toList e, id f.1 ≠ dialogSchema := fun f mem own =>
      bundled e folder (List.mem_map.mpr ⟨f, (mem_matching.mp mem).1, own⟩)
    rw [Loading.map, schema?, get?_collect_of_ne other]
    rfl

/-- What is loaded of dialogs has been accepted. -/
lemma accepts_loadDialogs {db : Database} (schema : db.schema? = some .dialog) {id : Text} {j : Json}
    (found : db.loadDialogs.value.get? id = some j) : Schema.dialog.accepts j = true ∧ j.isDistinct = true := by
  rw [loadDialogs, schema] at found
  split at found
  · cases found
  · rename_i absent
    cases absent
  · rename_i e s folder same
    cases same
    rcases @get?_collect_cases _ _ _ _ id (matching ".json".toList e) Table.empty with kept | ⟨f, -, -, x, read, given⟩
    · cases kept.symm.trans found
    · cases found.symm.trans given
      rw [Holds.valueOf_readDialog, Option.filter_eq_some_iff] at read
      obtain ⟨value, accepts⟩ := read
      refine ⟨accepts, @isDistinct_of_readJson db.room f.2 _ ?_⟩
      cases json : f.2.readJson db.room with
      | error u =>
        rw [json] at value
        cases value
      | ok j =>
        rw [json] at value
        cases value
        rfl

/-- Loading keeps to dialogs that the bundled schema accepts, whether it is kept short or not. -/
lemma vetted_load {db : Database} (bundled : Bundled db.folder) (vetted : db.Vetted) : db.load.value.Vetted := by
  let InForce (db : Database) : Prop := db.schema? = some .dialog ∧ db.Vetted
  obtain ⟨schema, same⟩ := loadSchemas_bundled bundled
  have first : InForce db.loadSchemas.value := by
    refine ⟨schema, fun {id j} found => ?_, fun {id j} found => ?_⟩
    · rw [dialog?, same] at found
      exact vetted.accepts found
    · rw [dialog?, same] at found
      exact vetted.distinct found
  have dialogs : ∀ db, InForce db → InForce (db.put db.loadDialogs fun db t => { db with dialogs := t }).value := by
    rintro db ⟨schema, vetted⟩
    unfold put
    split
    · exact ⟨schema, vetted⟩
    · have read {id : Text} {j : Json} (found : db.loadDialogs.value.get? id = some j) :=
        accepts_loadDialogs schema found
      exact ⟨schema, fun found => (read found).1, fun found => (read found).2⟩
  have scripts : ∀ db, InForce db → InForce (db.put db.loadScripts fun db t => { db with scripts := t }).value := by
    rintro db ⟨schema, vetted⟩
    unfold put
    split
    · exact ⟨schema, vetted⟩
    · exact ⟨schema, vetted.accepts, vetted.distinct⟩
  have whole : InForce db.load.value :=
    Loading.value_bind (P := InForce) (Loading.value_bind (P := InForce) first dialogs) scripts
  exact whole.2

/-- A database after it has been loaded once for each state that its data folder was found in, and each room that
there was for values to nest. -/
def loads (location : Text) (folders : List (Option Entry × Room)) : Database :=
  folders.foldl (fun db found => ({ db with folder := found.1, room := found.2 } : Database).load.value)
    { location := location, folder := none }

/-- However often a database is loaded, it keeps to dialogs that the bundled schema accepts. -/
lemma vetted_loads (location : Text) {folders : List (Option Entry × Room)}
    (bundled : ∀ found ∈ folders, Bundled found.1) : (loads location folders).Vetted := by
  have each : ∀ {db : Database}, db.Vetted → (folders.foldl (fun db found =>
      ({ db with folder := found.1, room := found.2 } : Database).load.value) db).Vetted := by
    induction folders with
    | nil => exact id
    | cons found folders ih =>
      intro db vetted
      obtain ⟨first, bundled⟩ := List.forall_mem_cons.mp bundled
      have here : Vetted { db with folder := found.1, room := found.2 } := ⟨vetted.accepts, vetted.distinct⟩
      exact ih bundled (vetted_load first here)
  exact each ⟨nofun, nofun⟩

end Database

namespace Library

/-- Each name in a library is that of a saved dialog or of a script. -/
lemma mem_ids {l : Library} {id : Text} (mem : id ∈ l.ids) :
    (∃ j, l.database.dialog? id = some j) ∨ ∃ t, l.database.script? id = some t := by
  rw [ids, Text.sort, List.mem_mergeSort, List.mem_append] at mem
  rcases mem with dialog | script
  · exact .inl (Table.exists_lookup_iff.mpr dialog)
  · exact .inr (Table.exists_lookup_iff.mpr (List.mem_filter.mp script).1)

/-- A library whose dialogs are vetted gives the dialog of a stored value. -/
lemma get_vetted {l : Library} (vetted : l.database.Vetted) {id : Text} {j : Json}
    (stored : l.database.dialog? id = some j) : ∃ d, (Dialog.type.write d).Same j.pruned ∧
      ∀ start, l.get id start = .ok (if start.isEmpty then d else { d with start := start }) := by
  obtain ⟨d, read, same⟩ := Schema.agrees_dialog j (vetted.accepts stored)
  have saved : l.saved? id = some j := by
    cases j with
    | null => cases vetted.accepts stored
    | _ => rw [saved?, stored]
  refine ⟨d, same (vetted.distinct stored), fun start => ?_⟩
  have read : Dialog.type.read j = .ok d := read
  rw [get, saved]
  dsimp only
  rw [read]

end Library

/-- Every value that the schema of dialogs accepts is read as a dialog, and what is written of the dialog is the value
without its blank members. So a library that was loaded with the bundled schema, whatever became of its folder, gives
a dialog for each of its ids, and loses nothing of what is stored under it. -/
theorem Schema.dialog_agrees :
    (∀ v, dialog.accepts v = true → ∃ d, Dialog.type.read v = .ok d ∧
      (v.isDistinct = true → (Dialog.type.write d).Same v.pruned)) ∧
    ∀ (location : Text) (folders : List (Option Entry × Room)) (strict : Bool),
      (∀ found ∈ folders, Database.Bundled found.1) →
      let l : Library := { database := Database.loads location folders, strict := strict }
      (∀ id ∈ l.ids, ∀ start, ∃ d, l.get id start = .ok d) ∧
      ∀ id v, l.database.dialog? id = some v → ∃ d, (Dialog.type.write d).Same v.pruned ∧
        ∀ start, l.get id start = .ok (if start.isEmpty then d else { d with start := start }) := by
  refine ⟨agrees_dialog, ?_⟩
  intro location folders strict bundled l
  have vetted : l.database.Vetted := Database.vetted_loads location bundled
  refine ⟨fun id mem start => ?_, fun id v stored => Library.get_vetted vetted stored⟩
  cases stored : l.database.dialog? id with
  | some j =>
    obtain ⟨d, -, gives⟩ := Library.get_vetted vetted stored
    exact ⟨_, gives start⟩
  | none =>
    obtain ⟨j, there⟩ | ⟨t, script⟩ := Library.mem_ids mem
    · cases stored.symm.trans there
    · have saved : l.saved? id = none := by
        rw [Library.saved?, stored]
      refine ⟨Script.parse strict t start, ?_⟩
      rw [Library.get, saved]
      dsimp only
      rw [script]

/-- A file whose members are out of order and in part blank. -/
theorem Schema.dialog_agrees_greeting :
    let line : Json := .object [("exit".toList, .bool false), ("text".toList, .text "hi".toList),
      ("setVar".toList, .object [("key".toList, .text [])])]
    let node : Json := .object [("lines".toList, .list [line]), ("name".toList, .text "a".toList)]
    let v : Json := .object [("nodes".toList, .list [node]), ("data".toList, .text [])]
    let db : Database := .ofFile "x.json".toList (render none v).str.toUTF8
    let l : Library := { database := Database.loads [] [(db.folder, db.room)] }
    dialog.accepts v = true ∧ v.isDistinct = true ∧ Database.Bundled db.folder ∧ "x".toList ∈ l.ids ∧
      l.database.dialog? "x".toList = some v ∧
      (∃ d, Dialog.type.read v = .ok d ∧ (Dialog.type.write d).Same v.pruned) ∧
      (∃ d, l.get "x".toList "b".toList = .ok d) ∧ ∃ d, (Dialog.type.write d).Same v.pruned ∧
        l.get "x".toList [] = .ok d := by
  intro line node v db l
  obtain ⟨reads, loads⟩ := dialog_agrees
  have accepts : dialog.accepts v = true := by decide
  have distinct : v.isDistinct = true := by decide
  have plain : Plain 6 v := by simp [v, node, line, Plain]
  have shallow : Dialect.guarded.Holds 0 6 := show 0 + 6 ≤ 200 by decide
  have bundled : Database.Bundled db.folder := nofun
  have known : ".json".toList ∈ Database.suffixes := by decide
  have named : "x".toList ≠ [] := by decide
  have file : db.Holds "x".toList ".json".toList (render none v).str.toUTF8 :=
    Database.holds_ofFile known named ⟨_, Entry.readText_file (not_mem_render none plain)⟩
      fun _ => ⟨v, Entry.readJson_render shallow plain none _⟩
  have stored : l.database.dialog? "x".toList = some v := by
    refine file.dialog?_load.trans ?_
    rw [if_pos rfl, Entry.readJson_render shallow plain]
    exact Option.filter_some_pos accepts
  have mem : "x".toList ∈ l.ids := by
    rw [Library.ids, Text.sort, List.mem_mergeSort, List.mem_append]
    exact .inl (Table.exists_lookup_iff.mp ⟨v, stored⟩)
  obtain ⟨d, read, same⟩ := reads v accepts
  obtain ⟨gives, keeps⟩ := loads [] [(db.folder, db.room)] false (List.forall_mem_singleton.mpr bundled)
  obtain ⟨d', same', all⟩ := keeps "x".toList v stored
  exact ⟨accepts, distinct, bundled, mem, stored, ⟨d, read, same distinct⟩, gives "x".toList mem "b".toList,
    d', same', all []⟩

end Parley
