import Mathlib.Data.List.Forall2
import Parley.Json.Record
import Parley.Proofs.Json.ReadBack

/-!
# Records are read back

A record that is written without its blank fields is read back whole, if each of its fields can be.

* `Codec.Faithful`: every value that a codec writes is plain, and is read as itself.
* `RecordField.Keeps`: a field copies its value from one record to another by way of JSON.
* `RecordType.Faithful`: the fields of a type have names of their own and make up the record together.

`RecordType.faithful_codec` closes the file: the codec of a faithful type of records is faithful.
-/

namespace Parley.Json

/-- Every value is read back from what is written of it, which is plain. -/
structure Codec.Faithful {α : Type} (c : Codec α) (depth : Nat) : Prop where
  read_write : ∀ x, c.read (c.write x) = .ok x
  plain : ∀ x, Plain depth (c.write x)

/-- A list passes a check if its head does and its tail does. -/
lemma Checked.all_cons {α : Type} {r : Checked α} {rest : List (Checked α)} {x : α} {xs : List α} (h : r = .ok x)
    (h' : Checked.all rest = .ok xs) : Checked.all (r :: rest) = .ok (x :: xs) := by
  simp only [Checked.all, h, h']

namespace Codec

/-- Every text comes back from JSON as itself. -/
lemma faithful_text {depth : Nat} : text.Faithful depth :=
  ⟨fun _ => rfl, fun _ => by cases depth <;> trivial⟩

/-- Every flag comes back from JSON as itself. -/
lemma faithful_bool {depth : Nat} : bool.Faithful depth :=
  ⟨fun _ => rfl, fun _ => by cases depth <;> trivial⟩

/-- Items are read one by one, whatever they were written of. -/
lemma all_readItems {α β : Type} {c : Codec α} {write : β → Json} {f : β → α} (reads : ∀ x, c.read (write x) = .ok (f x))
    (xs : List β) (i : Nat) : Checked.all (readItems c i (xs.map write)) = .ok (xs.map f) := by
  induction xs generalizing i with
  | nil => rfl
  | cons x xs ih =>
    rw [List.map_cons, readItems, reads]
    exact Checked.all_cons rfl (ih (i + 1))

/-- Lists come back from JSON as they were, one level deeper than their items. -/
lemma Faithful.list {α : Type} {c : Codec α} {depth : Nat} (faithful : c.Faithful depth) :
    (Codec.list c).Faithful (depth + 1) := by
  refine ⟨fun xs => ?_, fun xs j mem => ?_⟩
  · have read := all_readItems faithful.read_write xs 0
    rw [List.map_id'] at read
    exact read
  · obtain ⟨x, -, rfl⟩ := List.mem_map.mp mem
    exact faithful.plain x

end Codec

section Records

variable {σ : Type} {blank r acc : σ} {depth : Nat}

/-- A field copies its value from one record to another by way of JSON; nothing is written of a field that is
as in the blank record. -/
structure RecordField.Keeps (blank : σ) (depth : Nat) (f : RecordField σ) (copy : σ → σ → σ) : Prop where
  read : ∀ {r j}, f.write? r = some j → f.read j = .ok (copy r)
  plain : ∀ {r j}, f.write? r = some j → Plain depth j
  left : ∀ {r}, f.write? r = none → copy r = copy blank

/-- A field is written unless its value is blank. -/
lemma RecordField.write?_of {α : Type} (name longName : String) (c : Codec α) (isBlank : α → Bool) (get : σ → α)
    (put : σ → α → σ) (r : σ) : (RecordField.of name longName c isBlank get put).write? r =
      if isBlank (get r) = true then none else some (c.write (get r)) :=
  rfl

/-- What a field writes is its value as its codec writes it. -/
lemma RecordField.eq_of_write? {α : Type} {name longName : String} {c : Codec α} {isBlank : α → Bool} {get : σ → α}
    {put : σ → α → σ} {j : Json} (h : (RecordField.of name longName c isBlank get put).write? r = some j) :
    j = c.write (get r) := by
  rw [write?_of] at h
  split at h
  · cases h
  · exact (Option.some.inj h).symm

/-- A field keeps its value if its codec does and only the value of the blank record counts as blank. -/
lemma RecordField.keeps_of {α : Type} {c : Codec α} (name longName : String) {isBlank : α → Bool} {get : σ → α}
    {put : σ → α → σ} (faithful : c.Faithful depth) (empty : ∀ x, isBlank x = true → x = get blank) :
    (RecordField.of name longName c isBlank get put).Keeps blank depth fun r acc => put acc (get r) := by
  constructor
  · intro r j h
    rw [eq_of_write? h]
    exact congrArg (Except.map fun x acc => put acc x) (faithful.read_write (get r))
  · intro r j h
    rw [eq_of_write? h]
    exact faithful.plain (get r)
  · intro r h
    rw [write?_of] at h
    split at h
    · rename_i hidden
      rw [empty (get r) hidden]
    · cases h

/-- Copies that make up a record one after another; each finds the record as the blank one is. -/
inductive Builds (blank r : σ) : σ → List (σ → σ → σ) → Prop where
  | nil : Builds blank r r []
  | cons {acc : σ} {copy : σ → σ → σ} {copies : List (σ → σ → σ)} (fresh : copy blank acc = acc)
    (rest : Builds blank r (copy r acc) copies) : Builds blank r acc (copy :: copies)

/-- The fields of a type have names of their own, can be copied, and make up the record together. -/
structure RecordType.Faithful (t : RecordType σ) (depth : Nat) : Prop where
  fields : ∃ copies, t.fields.Forall₂ (RecordField.Keeps t.blank depth) copies ∧
    ∀ r, Builds t.blank r t.blank copies
  names : (t.fields.map (·.name)).Nodup
  apart : ∀ f ∈ t.fields, ∀ g ∈ t.fields, f.longName = g.name → f.name = g.name

/-- The members that are written of the fields of a record. -/
def membersOf (fields : List (RecordField σ)) (r : σ) : List (Text × Json) :=
  fields.filterMap fun f => (f.write? r).map fun j => (f.name, j)

/-- The members of a record are named in the order of its fields. -/
lemma keys_membersOf (fields : List (RecordField σ)) (r : σ) :
    ((membersOf fields r).map Prod.fst).Sublist (fields.map (·.name)) := by
  induction fields with
  | nil => exact List.Sublist.refl _
  | cons f fields ih =>
    unfold membersOf at ih ⊢
    rw [List.filterMap_cons]
    cases f.write? r with
    | none => exact ih.cons f.name
    | some j => exact ih.cons_cons f.name

/-- Each member of a written record comes from a field that wrote it. -/
lemma exists_of_mem_membersOf {fields : List (RecordField σ)} {m : Text × Json} (mem : m ∈ membersOf fields r) :
    ∃ f ∈ fields, f.name = m.1 ∧ f.write? r = some m.2 := by
  obtain ⟨f, known, h⟩ := List.mem_filterMap.mp mem
  obtain ⟨j, written, rfl⟩ := Option.map_eq_some_iff.mp h
  exact ⟨f, known, rfl, written⟩

/-- A field finds what was written of it under its name. -/
lemma lookup_membersOf {fields : List (RecordField σ)} (names : (fields.map (·.name)).Nodup) {f : RecordField σ}
    (mem : f ∈ fields) (r : σ) : Table.lookup f.name (membersOf fields r) = f.write? r := by
  induction fields with
  | nil => cases mem
  | cons g fields ih =>
    obtain ⟨other, names⟩ := List.nodup_cons.mp names
    have absent : Table.lookup g.name (membersOf fields r) = none :=
      Table.lookup_eq_none_iff.mpr fun mem => other ((keys_membersOf fields r).subset mem)
    rw [membersOf, List.filterMap_cons]
    rcases List.mem_cons.mp mem with rfl | mem
    · cases written : f.write? r with
      | none => exact absent
      | some j => exact if_pos rfl
    · have ne : g.name ≠ f.name :=
        fun e => other (List.mem_map.mpr ⟨f, mem, e.symm⟩)
      cases g.write? r with
      | none => exact ih names mem
      | some j => exact (if_neg ne).trans (ih names mem)

variable {t : RecordType σ}

/-- No member is written that is no field. -/
lemma RecordType.strangers_eq_nil (t : RecordType σ) (r : σ) : t.strangers (membersOf t.fields r) = [] := by
  unfold strangers
  rw [List.map_eq_nil_iff, List.filter_eq_nil_iff]
  intro m mem
  obtain ⟨f, mem, name, -⟩ := exists_of_mem_membersOf mem
  have given : t.fields.any (givenBy (membersOf t.fields r) m.1) = true :=
    List.any_eq_true.mpr ⟨f, mem, by simp [givenBy, name]⟩
  simp [given]

/-- A field is copied from the members of a record to one in which it is blank. -/
lemma RecordType.Faithful.readField (faithful : t.Faithful depth) {f : RecordField σ} {copy : σ → σ → σ}
    (mem : f ∈ t.fields) (keeps : f.Keeps t.blank depth copy) (r : σ) :
    ∃ change, readField (membersOf t.fields r) f = .ok change ∧
      ∀ acc, copy t.blank acc = acc → change acc = copy r acc := by
  unfold RecordType.readField
  rw [lookup_membersOf faithful.names mem]
  cases written : f.write? r with
  | some j =>
    refine ⟨copy r, ?_, fun _ _ => rfl⟩
    dsimp only
    rw [keeps.read written]
    rfl
  | none =>
    -- The long name is the short name of no other field, so that nothing is found under it either.
    have absent : Table.lookup f.longName (membersOf t.fields r) = none := by
      rw [Table.lookup_eq_none_iff]
      intro found
      obtain ⟨m, found, key⟩ := List.mem_map.mp found
      obtain ⟨g, mem', name, written'⟩ := exists_of_mem_membersOf found
      have same := faithful.apart f mem g mem' (by rw [name, key])
      have e := lookup_membersOf faithful.names mem r
      rw [same, lookup_membersOf faithful.names mem' r, written', written] at e
      cases e
    refine ⟨id, by dsimp only; rw [absent], fun acc fresh => ?_⟩
    rw [keeps.left written, fresh]
    rfl

/-- Members are read as a record if every field is copied from them to one in which it is blank. -/
lemma RecordType.read_of_builds {ms : List (Text × Json)} {copies : List (σ → σ → σ)}
    (reads : t.fields.Forall₂ (fun f copy => ∃ change, RecordType.readField ms f = .ok change ∧
      ∀ acc, copy t.blank acc = acc → change acc = copy r acc) copies)
    (builds : Builds t.blank r t.blank copies) (known : t.strangers ms = []) : t.read (.object ms) = .ok r := by
  have built : ∀ (fields : List (RecordField σ)) (copies : List (σ → σ → σ)) (acc : σ),
      fields.Forall₂ (fun f copy => ∃ change, RecordType.readField ms f = .ok change ∧
        ∀ acc, copy t.blank acc = acc → change acc = copy r acc) copies → Builds t.blank r acc copies →
      ∃ changes, Checked.all (fields.map (RecordType.readField ms)) = .ok changes ∧
        changes.foldl (fun r change => change r) acc = r := by
    intro fields copies acc reads builds
    induction reads generalizing acc with
    | nil =>
      cases builds
      exact ⟨[], rfl, rfl⟩
    | cons reads _ ih =>
      cases builds with
      | cons fresh rest =>
        obtain ⟨change, read, copies⟩ := reads
        obtain ⟨changes, all, whole⟩ := ih _ rest
        refine ⟨change :: changes, ?_, ?_⟩
        · exact Checked.all_cons read all
        · rw [List.foldl_cons, copies acc fresh, whole]
  obtain ⟨changes, all, whole⟩ := built t.fields copies t.blank reads builds
  rw [RecordType.read, known, List.append_nil, all]
  exact congrArg Except.ok whole

/-- A written record is read back as itself. -/
lemma RecordType.Faithful.read_write (faithful : t.Faithful depth) (r : σ) : t.read (t.write r) = .ok r := by
  obtain ⟨copies, keeps, builds⟩ := faithful.fields
  refine read_of_builds (List.forall₂_iff_get.mpr ⟨keeps.length_eq, fun i h h' => ?_⟩) (builds r)
    (t.strangers_eq_nil r)
  exact faithful.readField (List.get_mem t.fields ⟨i, h⟩) (keeps.get h h') r

/-- A written record is plain, one level deeper than its fields. -/
lemma RecordType.Faithful.plain (faithful : t.Faithful depth) (r : σ) : Plain (depth + 1) (t.write r) := by
  refine ⟨faithful.names.sublist (keys_membersOf t.fields r), fun m mem => ?_⟩
  obtain ⟨f, mem, -, written⟩ := exists_of_mem_membersOf mem
  obtain ⟨copies, keeps, -⟩ := faithful.fields
  obtain ⟨i, h, rfl⟩ := List.mem_iff_getElem.mp mem
  exact (keeps.get h (keeps.length_eq ▸ h)).plain written

/-- The codec of a faithful type of records is faithful. -/
theorem RecordType.faithful_codec (faithful : t.Faithful depth) : t.codec.Faithful (depth + 1) :=
  ⟨faithful.read_write, faithful.plain⟩

end Records

end Parley.Json
