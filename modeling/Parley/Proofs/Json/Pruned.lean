import Mathlib.Data.List.Forall2
import Mathlib.Tactic.Lemma
import Parley.Json.Reader

/-!
# Values without blank members

What is left of a value when members that hold nothing are taken out of it, from the inside out.

* `Json.isDistinct`: the keys of every object in a value are different.
* `Json.pruned`: a value without its blank members, and `lookup_prunedMembers`, what an object then has.
* `Json.Same`: two values differ in the order of their members only.

`Json.isDistinct_of_read` closes the file: in a value that is read, the keys of every object are different.
-/

namespace Parley.Json

mutual

/-- Whether the keys of every object in a value are different. -/
def isDistinct : Json → Bool
  | .list js => areDistinct js
  | .object ms => decide (ms.map Prod.fst).Nodup && membersDistinct ms
  | _ => true

/-- Whether the keys of each object are distinct in all these values. -/
def areDistinct : List Json → Bool
  | [] => true
  | j :: js => j.isDistinct && areDistinct js

/-- Whether the keys of each object are distinct in the values of all these members. -/
def membersDistinct : List (Text × Json) → Bool
  | [] => true
  | (_, j) :: ms => j.isDistinct && membersDistinct ms

end

/-- Whether a value holds nothing: no character, no truth, no item and no member. -/
def isBlank : Json → Bool
  | .text t => t.isEmpty
  | .bool b => !b
  | .list js => js.isEmpty
  | .object ms => ms.isEmpty
  | _ => false

mutual

/-- A value without the members that are blank once their own blank members are gone. -/
def pruned : Json → Json
  | .list js => .list (prunedItems js)
  | .object ms => .object (prunedMembers ms)
  | j => j

/-- The values without their blank members. -/
def prunedItems : List Json → List Json
  | [] => []
  | j :: js => j.pruned :: prunedItems js

/-- The members that are not blank, without the blank members in them. -/
def prunedMembers : List (Text × Json) → List (Text × Json)
  | [] => []
  | (k, j) :: ms => if j.pruned.isBlank then prunedMembers ms else (k, j.pruned) :: prunedMembers ms

end

/-- Two values are the same up to the order of the members of their objects. -/
inductive Same : Json → Json → Prop where
  | refl (j : Json) : Same j j
  | list {js ks : List Json} (items : List.Forall₂ Same js ks) : Same (.list js) (.list ks)
  | object {ms ns : List (Text × Json)}
    (members : ∀ k, Option.Rel Same (Table.lookup k ms) (Table.lookup k ns)) : Same (.object ms) (.object ns)

/-- The keys are distinct in a list of values if they are in each of them. -/
lemma areDistinct_iff {js : List Json} : areDistinct js = true ↔ ∀ j ∈ js, j.isDistinct = true := by
  induction js with
  | nil => simp [areDistinct]
  | cons j js ih => rw [areDistinct, Bool.and_eq_true, ih, List.forall_mem_cons]

/-- The keys are distinct in members if they are in the value of each of them. -/
lemma membersDistinct_iff {ms : List (Text × Json)} :
    membersDistinct ms = true ↔ ∀ m ∈ ms, m.2.isDistinct = true := by
  induction ms with
  | nil => simp [membersDistinct]
  | cons m ms ih => rw [membersDistinct, Bool.and_eq_true, ih, List.forall_mem_cons]

/-- The keys of an object are distinct if its own are, and those of the values in it. -/
lemma isDistinct_object {ms : List (Text × Json)} : (Json.object ms).isDistinct = true ↔
    (ms.map Prod.fst).Nodup ∧ ∀ m ∈ ms, m.2.isDistinct = true := by
  rw [isDistinct, Bool.and_eq_true, decide_eq_true_eq, membersDistinct_iff]

/-- The items of a list are pruned one by one. -/
lemma prunedItems_eq_map (js : List Json) : prunedItems js = js.map pruned := by
  induction js with
  | nil => rfl
  | cons j js ih => rw [prunedItems, ih, List.map_cons]

/-- A pruned object has the members that are not blank when they are pruned. -/
lemma lookup_prunedMembers {ms : List (Text × Json)} (nodup : (ms.map Prod.fst).Nodup) (k : Text) :
    Table.lookup k (prunedMembers ms) = ((Table.lookup k ms).map pruned).filter (!·.isBlank) := by
  induction ms with
  | nil => rfl
  | cons m ms ih =>
    obtain ⟨key, j⟩ := m
    obtain ⟨other, nodup⟩ := List.nodup_cons.mp nodup
    have ih := ih nodup
    rw [prunedMembers, Table.lookup]
    by_cases same : key = k
    · subst same
      have absent : Table.lookup key (prunedMembers ms) = none := by
        rw [ih, Table.lookup_eq_none_iff.mpr other]
        rfl
      rw [if_pos rfl]
      split
      · rename_i blank
        rw [absent, Option.map_some, Option.filter_some_neg]
        rw [blank, Bool.not_true]
      · rename_i kept
        rw [Table.lookup, if_pos rfl, Option.map_some, Option.filter_some_pos]
        rw [eq_false_of_ne_true kept, Bool.not_false]
    · rw [if_neg same]
      split
      · exact ih
      · rw [Table.lookup, if_neg same, ih]

/-- Values that are the same are blank alike. -/
lemma Same.isBlank_eq {j j' : Json} (same : j.Same j') : j.isBlank = j'.isBlank := by
  cases same with
  | refl => rfl
  | list items =>
    cases items with
    | nil => rfl
    | cons => rfl
  | @object ms ns members =>
    cases ms with
    | nil =>
      cases ns with
      | nil => rfl
      | cons n ns =>
        have there := members n.1
        rw [Table.lookup, Table.lookup, if_pos rfl] at there
        cases there
    | cons m ms =>
      cases ns with
      | nil =>
        have there := members m.1
        rw [Table.lookup, Table.lookup, if_pos rfl] at there
        cases there
      | cons n ns => rfl

/-! ## Reading -/

/-- Writing a value with distinct keys among such members leaves only such members. -/
lemma isDistinct_of_mem_write {k : Text} {j : Json} (inner : j.isDistinct = true) {ms : List (Text × Json)}
    (known : ∀ m ∈ ms, m.2.isDistinct = true) : ∀ m ∈ Table.write k j ms, m.2.isDistinct = true := by
  induction ms with
  | nil => exact List.forall_mem_singleton.mpr inner
  | cons m ms ih =>
    obtain ⟨first, known⟩ := List.forall_mem_cons.mp known
    rw [Table.write]
    split
    · exact List.forall_mem_cons.mpr ⟨inner, known⟩
    · exact List.forall_mem_cons.mpr ⟨first, ih known⟩

/-- Writing a value with distinct keys into an object with distinct keys keeps them distinct. -/
lemma isDistinct_object_write {k : Text} {j : Json} (inner : j.isDistinct = true) {ms : List (Text × Json)}
    (known : (Json.object ms).isDistinct = true) : (Json.object (Table.write k j ms)).isDistinct = true := by
  obtain ⟨nodup, known⟩ := isDistinct_object.mp known
  exact isDistinct_object.mpr ⟨Table.nodup_map_fst_write nodup k j, isDistinct_of_mem_write inner known⟩

/-- Members that are set one after another have different keys, and the values that were set. -/
lemma isDistinct_ofMembers {ms : List (Text × Json)} (distinct : ∀ m ∈ ms, m.2.isDistinct = true) :
    (ofMembers ms).isDistinct = true := by
  have set : ∀ {acc : List (Text × Json)}, (Json.object acc).isDistinct = true →
      (Json.object (ms.foldl (fun ms m => Table.write m.1 m.2 ms) acc)).isDistinct = true := by
    induction ms with
    | nil => exact id
    | cons m ms ih =>
      intro acc known
      obtain ⟨first, distinct⟩ := List.forall_mem_cons.mp distinct
      exact ih distinct (isDistinct_object_write first known)
  exact set rfl

/-- The keys of a number that is read are distinct, as it has none. -/
lemma isDistinct_number {negative : Bool} {t rest : Text} {j : Json} (h : number negative t = .ok (j, rest)) :
    j.isDistinct = true := by
  unfold number at h
  repeat' split at h
  all_goals first | cases h; rfl | cases h

/-- The keys of a word or number that is read are distinct, as it has none. -/
lemma isDistinct_scalar {t rest : Text} {j : Json} (h : scalar t = .ok (j, rest)) : j.isDistinct = true := by
  have plain : ∀ w ∈ words, w.2.isDistinct = true := by
    refine List.forall_iff_forall_mem.mp ?_
    exact ⟨rfl, rfl, rfl, rfl, rfl, rfl⟩
  unfold scalar at h
  split at h
  · rename_i found
    cases h
    rw [word?, List.findSome?_eq_some_iff] at found
    obtain ⟨before, w, after, whole, took, -⟩ := found
    obtain ⟨_, -, e⟩ := Option.map_eq_some_iff.mp took
    cases e
    exact plain w (whole ▸ List.mem_append_right _ List.mem_cons_self)
  · exact isDistinct_number h
  · exact isDistinct_number h

/-- What a mapped reading gives comes from what the reading gave. -/
lemma ok_map {α β : Type} {r : Read α} {f : α × Text → β × Text} {p : β × Text} (h : r.map f = .ok p) :
    ∃ q, r = .ok q ∧ f q = p := by
  cases r with
  | error e => cases h
  | ok q => exact ⟨q, rfl, Except.ok.inj h⟩

/-- The keys of every object are different in what is read with so much fuel. -/
structure ReadsDistinct (d : Dialect) (fuel : Nat) : Prop where
  value : ∀ {depth t j rest}, Json.value d fuel depth t = .ok (j, rest) → j.isDistinct = true
  items : ∀ {depth t js rest}, Json.items d fuel depth t = .ok (js, rest) → ∀ j ∈ js, j.isDistinct = true
  members : ∀ {depth t ms rest}, Json.members d fuel depth t = .ok (ms, rest) → ∀ m ∈ ms, m.2.isDistinct = true

namespace ReadsDistinct

variable {d : Dialect} {fuel depth : Nat} {t rest : Text}

/-- A value has distinct keys if everything read inside it has. -/
lemma value_succ (inner : ReadsDistinct d fuel) {j : Json} (h : Json.value d (fuel + 1) depth t = .ok (j, rest)) :
    j.isDistinct = true := by
  unfold Json.value at h
  split at h
  · obtain ⟨q, -, e⟩ := ok_map h
    cases e
    rfl
  · split at h
    · split at h
      · cases h
        rfl
      · obtain ⟨q, read, e⟩ := ok_map h
        cases e
        exact areDistinct_iff.mpr (inner.items read)
    · cases h
  · split at h
    · split at h
      · cases h
        rfl
      · obtain ⟨q, read, e⟩ := ok_map h
        cases e
        exact isDistinct_ofMembers (inner.members read)
    · cases h
  · exact isDistinct_scalar h

/-- Items have distinct keys if everything read inside them has. -/
lemma items_succ (inner : ReadsDistinct d fuel) {js : List Json}
    (h : Json.items d (fuel + 1) depth t = .ok (js, rest)) : ∀ j ∈ js, j.isDistinct = true := by
  unfold Json.items at h
  split at h
  · cases h
  · rename_i first
    split at h
    · obtain ⟨q, read, e⟩ := ok_map h
      cases e
      exact List.forall_mem_cons.mpr ⟨inner.value first, inner.items read⟩
    · cases h
      exact List.forall_mem_singleton.mpr (inner.value first)
    · cases h

/-- Members have distinct keys if everything read inside them has. -/
lemma members_succ (inner : ReadsDistinct d fuel) {ms : List (Text × Json)}
    (h : Json.members d (fuel + 1) depth t = .ok (ms, rest)) : ∀ m ∈ ms, m.2.isDistinct = true := by
  unfold Json.members at h
  -- A key, a colon and a value have been read when what follows them matters.
  split at h
  · split at h
    · cases h
    · split at h
      · split at h
        · cases h
        · rename_i first
          split at h
          · obtain ⟨q, read, e⟩ := ok_map h
            cases e
            exact List.forall_mem_cons.mpr ⟨inner.value first, inner.members read⟩
          · cases h
            exact List.forall_mem_singleton.mpr (inner.value first)
          · cases h
      · cases h
  · cases h

end ReadsDistinct

/-- Whatever is read has distinct keys in every object. -/
lemma readsDistinct (d : Dialect) (fuel : Nat) : ReadsDistinct d fuel := by
  induction fuel with
  | zero => exact ⟨nofun, nofun, nofun⟩
  | succ fuel ih => exact ⟨ih.value_succ, ih.items_succ, ih.members_succ⟩

/-- In a value that is read, the keys of every object are different. -/
theorem isDistinct_of_read {d : Dialect} {t : Text} {j : Json} (h : read d t = .ok j) : j.isDistinct = true := by
  unfold read at h
  split at h
  · cases h
  · rename_i taken
    split at h
    · cases h
      exact (readsDistinct d _).value taken
    · cases h

end Parley.Json
