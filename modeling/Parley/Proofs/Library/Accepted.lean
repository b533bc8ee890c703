import Parley.Library.Schema
import Parley.Proofs.Dialog.Saved

/-!
# Saved dialogs and their schema

Whether the schema of dialogs accepts what is written of a dialog.

* `Schema.accepts_record`: the schema of a kind of objects, asked about a record that has been written.
* `Schema.accepts_line`: what is written of a line is accepted.
* `Schema.accepts_node`: what is written of a node is accepted if the node has a name.

`Schema.accepts_dialog` closes the file: a dialog is accepted if all its nodes have names, and only then.
-/

namespace Parley

open Json

/-- With distinct keys, what is found under a key is what is listed with it. -/
lemma Table.lookup_eq_some_iff {κ ν : Type} [DecidableEq κ] {pairs : List (κ × ν)}
    (nodup : (pairs.map Prod.fst).Nodup) {k : κ} {v : ν} : lookup k pairs = some v ↔ (k, v) ∈ pairs := by
  induction pairs with
  | nil => simp [lookup]
  | cons p pairs ih =>
    obtain ⟨a, w⟩ := p
    obtain ⟨other, nodup⟩ := List.nodup_cons.mp nodup
    rw [lookup, List.mem_cons]
    split
    · rename_i same
      have absent : (k, v) ∉ pairs := fun mem => other (List.mem_map.mpr ⟨(k, v), mem, same.symm⟩)
      simp [absent, same, eq_comm]
    · rename_i different
      rw [ih nodup]
      simp [Ne.symm different]

/-- Something is found under the keys that are listed, and no others. -/
lemma Table.exists_lookup_iff {κ ν : Type} [DecidableEq κ] {pairs : List (κ × ν)} {k : κ} :
    (∃ v, lookup k pairs = some v) ↔ k ∈ pairs.map Prod.fst := by
  rw [← Option.isSome_iff_exists, ← Option.ne_none_iff_isSome, Ne, lookup_eq_none_iff, not_not]

namespace Schema

section Records

variable {σ : Type} {known members : List (Text × Schema)} {r : σ}

/-- What is written of a field is accepted by the schema that is known under its name. -/
def Admits (known : List (Text × Schema)) (r : σ) (f : RecordField σ) : Prop :=
  ∃ s, Table.lookup f.name known = some s ∧ ∀ j, f.write? r = some j → s.accepts j = true

/-- Members are accepted if each that is there is accepted by its schema. -/
lemma acceptsMembers_iff (j : Json) : acceptsMembers members j = true ↔
    ∀ m ∈ members, ∀ inner, j.get? m.1 = some inner → m.2.accepts inner = true := by
  induction members with
  | nil => simp [acceptsMembers]
  | cons m members ih =>
    obtain ⟨key, s⟩ := m
    rw [acceptsMembers, Bool.and_eq_true, ih, List.forall_mem_cons]
    refine and_congr_left fun _ => ?_
    cases j.get? key with
    | none => simp
    | some inner => simp

/-- The members of a written record are accepted if every field is admitted. -/
lemma acceptsMembers_write {t : RecordType σ} (names : (t.fields.map (·.name)).Nodup)
    (keys : (known.map Prod.fst).Nodup) (fits : ∀ f ∈ t.fields, f.name ∈ known.map Prod.fst) (r : σ) :
    acceptsMembers known (t.write r) = true ↔ ∀ f ∈ t.fields, Admits known r f := by
  rw [acceptsMembers_iff]
  constructor
  · intro h f mem
    obtain ⟨s, found⟩ := Table.exists_lookup_iff.mpr (fits f mem)
    refine ⟨s, found, fun j written => ?_⟩
    exact h (f.name, s) ((Table.lookup_eq_some_iff keys).mp found) j ((lookup_membersOf names mem r).trans written)
  · intro h m mem inner found
    have key : m.1 ∈ (membersOf t.fields r).map Prod.fst := Table.exists_lookup_iff.mp ⟨inner, found⟩
    obtain ⟨w, written, name⟩ := List.mem_map.mp key
    obtain ⟨f, mem', name', -⟩ := exists_of_mem_membersOf written
    have same : f.name = m.1 := name'.trans name
    obtain ⟨s, found', admits⟩ := h f mem'
    have schema : s = m.2 := by
      rw [same, (Table.lookup_eq_some_iff keys).mpr mem] at found'
      exact (Option.some.inj found').symm
    have written' : f.write? r = some inner := by
      rw [← lookup_membersOf names mem' r, same]
      exact found
    exact schema ▸ admits inner written'

/-- The schema of a kind of objects accepts a written record if no member is missing and every field is
admitted. -/
lemma accepts_record {t : RecordType σ} (names : (t.fields.map (·.name)).Nodup) (required : List String)
    {members : List (String × Schema)} (same : (members.map fun (k, s) => (k.toList, s)) = known)
    (keys : (known.map Prod.fst).Nodup) (fits : ∀ f ∈ t.fields, f.name ∈ known.map Prod.fst) (r : σ) :
    (record required members).accepts (t.write r) = true ↔
      (∀ k ∈ required, (Table.lookup k.toList (membersOf t.fields r)).isSome = true) ∧
        ∀ f ∈ t.fields, Admits known r f := by
  have closed : isClosed known (.object (membersOf t.fields r)) = true := by
    refine List.all_eq_true.mpr fun m mem => ?_
    obtain ⟨f, mem, name, -⟩ := exists_of_mem_membersOf mem
    rw [← name, Option.isSome_iff_exists, Table.exists_lookup_iff]
    exact fits f mem
  rw [← acceptsMembers_write names keys fits, record, same, show t.write r = .object (membersOf t.fields r) from rfl,
    accepts]
  simp [closed, acceptsItems, hasRequired, SchemaType.fits]

variable (name longName : String)

/-- A field for a text is admitted where the schema knows it as a text. -/
lemma admits_text {get : σ → Text} {put : σ → Text → σ} (h : Table.lookup name.toList known = some text) :
    Admits known r (textField name longName get put) := by
  refine ⟨text, h, fun j written => ?_⟩
  rw [RecordField.eq_of_write? written]
  rfl

/-- A field for a flag is admitted where the schema knows it as a flag. -/
lemma admits_flag {get : σ → Bool} {put : σ → Bool → σ} (h : Table.lookup name.toList known = some flag) :
    Admits known r (flagField name longName get put) := by
  refine ⟨flag, h, fun j written => ?_⟩
  rw [RecordField.eq_of_write? written]
  rfl

/-- A field for a list is admitted if the schema of its items accepts each of them. -/
lemma admits_list {α : Type} {c : Codec α} {s : Schema} {get : σ → List α} {put : σ → List α → σ}
    (h : Table.lookup name.toList known = some (listOf s)) :
    Admits known r (listField name longName c get put) ↔ ∀ x ∈ get r, s.accepts (c.write x) = true := by
  have asks (xs : List α) : (listOf s).accepts ((Codec.list c).write xs) = true ↔
      ∀ x ∈ xs, s.accepts (c.write x) = true := by
    simp [Codec.list, listOf, accepts, acceptsMembers, acceptsItems, hasRequired, SchemaType.fits]
  constructor
  · rintro ⟨s', found, admits⟩
    cases found.symm.trans h
    cases e : get r with
    | nil => exact List.forall_mem_nil _
    | cons x xs =>
      refine (asks (x :: xs)).mp (admits _ ?_)
      rw [listField, RecordField.write?_of, e]
      exact if_neg Bool.false_ne_true
  · intro accepts
    refine ⟨listOf s, h, fun j written => ?_⟩
    rw [RecordField.eq_of_write? written]
    exact (asks (get r)).mpr accepts

/-- A field for a record is admitted if its schema accepts every record of the type. -/
lemma admits_record {α : Type} [DecidableEq α] {t : RecordType α} {s : Schema} {get : σ → α} {put : σ → α → σ}
    (h : Table.lookup name.toList known = some s) (accepts : ∀ x, s.accepts (t.write x) = true) :
    Admits known r (recordField name longName t get put) := by
  refine ⟨s, h, fun j written => ?_⟩
  rw [RecordField.eq_of_write? written]
  exact accepts (get r)

end Records

/-- The fields of a record are all admitted. -/
lemma accepts_of_admits {σ : Type} {known : List (Text × Schema)} {t : RecordType σ} {r : σ}
    (names : (t.fields.map (·.name)).Nodup) {members : List (String × Schema)}
    (same : (members.map fun (k, s) => (k.toList, s)) = known) (keys : (known.map Prod.fst).Nodup)
    (admits : ∀ f ∈ t.fields, Admits known r f) : (record [] members).accepts (t.write r) = true := by
  refine (accepts_record names [] same keys (fun f mem => ?_) r).mpr ⟨List.forall_mem_nil _, admits⟩
  obtain ⟨s, found, -⟩ := admits f mem
  exact Table.exists_lookup_iff.mp ⟨s, found⟩

/-- The schema accepts every response. -/
lemma accepts_response (r : Response) : response.accepts (Response.type.write r) = true := by
  refine accepts_of_admits (by decide) rfl (by decide) (List.forall_iff_forall_mem.mp ?_)
  exact ⟨admits_text _ _ rfl, admits_text _ _ rfl⟩

/-- The schema accepts every assignment. -/
lemma accepts_assignment (a : Assignment) : assignment.accepts (Assignment.type.write a) = true := by
  refine accepts_of_admits (by decide) rfl (by decide) (List.forall_iff_forall_mem.mp ?_)
  exact ⟨admits_text _ _ rfl, admits_text _ _ rfl⟩

/-- The schema accepts every query. -/
lemma accepts_query (q : Query) : query.accepts (Query.type.write q) = true := by
  refine accepts_of_admits (by decide) rfl (by decide) (List.forall_iff_forall_mem.mp ?_)
  exact ⟨admits_text _ _ rfl, admits_text _ _ rfl, (admits_list _ _ rfl).mpr fun r _ => accepts_response r⟩

/-- What is written of a line is accepted. -/
lemma accepts_line (l : Line) : line.accepts (Line.type.write l) = true := by
  refine accepts_of_admits (by decide) rfl (by decide) (List.forall_iff_forall_mem.mp ?_)
  exact ⟨admits_text _ _ rfl, admits_text _ _ rfl, admits_text _ _ rfl, admits_text _ _ rfl, admits_text _ _ rfl,
    admits_text _ _ rfl, admits_text _ _ rfl, (admits_list _ _ rfl).mpr fun r _ => accepts_response r,
    admits_flag _ _ rfl, admits_text _ _ rfl, admits_text _ _ rfl, admits_text _ _ rfl, admits_flag _ _ rfl,
    admits_flag _ _ rfl, admits_record _ _ rfl accepts_assignment, admits_text _ _ rfl,
    admits_record _ _ rfl accepts_query, admits_text _ _ rfl⟩

/-- What is written of a node is accepted if the node has a name. -/
lemma accepts_node (n : Node) : node.accepts (Node.type.write n) = true ↔ n.name ≠ [] := by
  have names : (Node.type.fields.map (·.name)).Nodup := by decide
  have admitted : ∀ f ∈ Node.type.fields, Admits [("name".toList, text), ("data".toList, text),
      ("lines".toList, listOf line)] n f := by
    refine List.forall_iff_forall_mem.mp ?_
    exact ⟨admits_text _ _ rfl, (admits_list _ _ rfl).mpr fun l _ => accepts_line l, admits_text _ _ rfl⟩
  have written : Table.lookup "name".toList (membersOf Node.type.fields n) =
      if n.name.isEmpty then none else some (.text n.name) :=
    lookup_membersOf names List.mem_cons_self n
  rw [node, accepts_record names ["name"] rfl (by decide) (by decide), List.forall_mem_singleton, written]
  refine (and_iff_left admitted).trans ?_
  cases n.name with
  | nil => simp
  | cons c t => simp

/-- A dialog is accepted if all its nodes have names, and only then. -/
theorem accepts_dialog (d : Dialog) :
    dialog.accepts (Dialog.type.write d) = true ↔ ∀ n ∈ d.nodes, n.name ≠ [] := by
  have nodes : Admits [("start".toList, text), ("windowType".toList, text), ("data".toList, text),
      ("nodes".toList, listOf node)] d
        (listField "nodes" "nodes" Node.type.codec Dialog.nodes fun r x => { r with nodes := x }) ↔
      ∀ n ∈ d.nodes, n.name ≠ [] := by
    rw [admits_list _ _ rfl]
    exact forall₂_congr fun n _ => accepts_node n
  rw [dialog, accepts_record (by decide) [] rfl (by decide) (by decide), ← nodes]
  constructor
  · rintro ⟨-, admits⟩
    exact (List.forall_iff_forall_mem.mpr admits).2.1
  · intro admits
    refine ⟨List.forall_mem_nil _, List.forall_iff_forall_mem.mp ?_⟩
    exact ⟨admits_text _ _ rfl, admits, admits_text _ _ rfl, admits_text _ _ rfl⟩

end Schema

end Parley
