import Parley.Proofs.Json.Records
import Parley.Variables.Exchange

/-!
# Merging saved variables

Variables that have been saved as JSON are merged into those that are there.

* `Table.get?_setAll`, `Table.keys_setAll`: what a table holds after pairs with different keys have been set.
* `parseSaved_exportJson`: what was saved is read back pair by pair.
* `importJson_exportJson`: every pair with a key is merged, whatever the variables and the layout.

`unnamed_is_lost` closes the file: the pair of the empty key is saved, but not loaded.
-/

namespace Parley

namespace Table

variable {κ ν : Type} [DecidableEq κ] {k : κ} {v : ν} {pairs pairs' : List (κ × ν)}

/-- A table contains its keys. -/
lemma contains_iff {t : Table κ ν} : t.contains k = true ↔ k ∈ t.keys := by
  rw [contains, Option.isSome_iff_ne_none, Ne, get?, lookup_eq_none_iff, not_not]
  rfl

/-- Pairs are determined by their keys in order and what is found under them. -/
lemma eq_of_lookup (nodup : (pairs.map Prod.fst).Nodup) (keys : pairs.map Prod.fst = pairs'.map Prod.fst)
    (found : ∀ k, lookup k pairs = lookup k pairs') : pairs = pairs' := by
  induction pairs generalizing pairs' with
  | nil => exact (List.map_eq_nil_iff.mp keys.symm).symm
  | cons p pairs ih =>
    match pairs', keys with
    | p' :: pairs', keys =>
      obtain ⟨a, v⟩ := p
      obtain ⟨a', v'⟩ := p'
      rw [List.map_cons, List.map_cons, List.cons.injEq] at keys
      obtain ⟨rfl, keys⟩ : a = a' ∧ _ := keys
      obtain ⟨other, nodup⟩ := List.nodup_cons.mp nodup
      have first := found a
      rw [lookup, lookup, if_pos rfl, if_pos rfl] at first
      rw [Option.some.inj first]
      congr 1
      refine ih nodup keys fun k => ?_
      by_cases same : a = k
      · rw [← same, lookup_eq_none_iff.mpr other, lookup_eq_none_iff.mpr (keys ▸ other)]
      · have rest := found k
        rw [lookup, lookup, if_neg same, if_neg same] at rest
        exact rest

/-- Leaving out pairs by their keys leaves the others as they are. -/
lemma lookup_filter (p : κ → Bool) : lookup k (pairs.filter fun e => p e.1) = if p k then lookup k pairs else none := by
  induction pairs with
  | nil => simp [lookup]
  | cons e pairs ih =>
    obtain ⟨a, v⟩ := e
    by_cases same : a = k
    · subst same
      cases kept : p a with
      | true => simp [kept, lookup]
      | false => simpa [kept] using ih
    · cases kept : p a with
      | true => simpa [kept, lookup, same] using ih
      | false => simpa [kept, lookup, same] using ih

/-- Entries are set one after another, the first of them first. -/
lemma setAll_cons (t : Table κ ν) (e : κ × ν) : t.setAll (e :: pairs) = (t.set e.1 e.2).setAll pairs :=
  rfl

/-- Pairs that are set go before those that are there. -/
lemma get?_setAll (t : Table κ ν) (nodup : (pairs.map Prod.fst).Nodup) (k : κ) :
    (t.setAll pairs).get? k = (lookup k pairs).or (t.get? k) := by
  induction pairs generalizing t with
  | nil => rfl
  | cons e pairs ih =>
    obtain ⟨a, v⟩ := e
    obtain ⟨other, nodup⟩ := List.nodup_cons.mp nodup
    rw [setAll_cons, ih (t.set a v) nodup, get?_set]
    by_cases same : a = k
    · subst same
      rw [lookup_eq_none_iff.mpr other, if_pos rfl, lookup, if_pos rfl]
      rfl
    · rw [if_neg same, lookup, if_neg same]

/-- Keys that are there keep their places, and new ones follow in the order in which they are set. -/
lemma keys_setAll (t : Table κ ν) (nodup : (pairs.map Prod.fst).Nodup) :
    (t.setAll pairs).keys = t.keys ++ (pairs.map Prod.fst).filter (!t.contains ·) := by
  induction pairs generalizing t with
  | nil => exact (List.append_nil _).symm
  | cons e pairs ih =>
    obtain ⟨a, v⟩ := e
    obtain ⟨other, nodup⟩ := List.nodup_cons.mp nodup
    rw [setAll_cons, ih (t.set a v) nodup, keys_set, List.map_cons]
    -- The key does not come again, so that the others are new exactly if they were before.
    have same : (pairs.map Prod.fst).filter (!(t.set a v).contains ·) = (pairs.map Prod.fst).filter (!t.contains ·) := by
      refine List.filter_congr fun k mem => ?_
      have apart : a ≠ k := fun e => other (e ▸ mem)
      rw [contains, get?_set, if_neg apart, contains]
    rw [same]
    by_cases there : a ∈ t.keys
    · rw [if_pos there, List.filter_cons_of_neg (by simp [contains_iff.mpr there])]
    · rw [if_neg there, List.filter_cons_of_pos (by simp [Bool.eq_false_iff.mpr (mt contains_iff.mp there)]),
        List.append_assoc, List.singleton_append]

/-- Pairs with different keys make up a table as they are. -/
lemma entries_ofList (nodup : (pairs.map Prod.fst).Nodup) : (ofList pairs).entries = pairs := by
  refine (eq_of_lookup nodup ?_ fun k => ?_).symm
  · have keys : (ofList pairs).entries.map Prod.fst = _ := keys_setAll empty nodup
    rw [keys]
    exact (List.filter_eq_self.mpr fun _ _ => rfl).symm
  · have found : lookup k (ofList pairs).entries = _ := get?_setAll empty nodup k
    rw [found]
    exact Option.or_none.symm

/-- A table is made up of its entries. -/
lemma ofList_entries (t : Table κ ν) : ofList t.entries = t :=
  ext (entries_ofList t.nodup)

/-- What is listed after writing was written or listed before. -/
lemma mem_write {e : κ × ν} (mem : e ∈ write k v pairs) : e = (k, v) ∨ e ∈ pairs := by
  induction pairs with
  | nil => exact .inl (List.mem_singleton.mp mem)
  | cons p pairs ih =>
    obtain ⟨a, w⟩ := p
    by_cases same : a = k
    · rw [write, if_pos same, List.mem_cons] at mem
      exact mem.imp (fun first => by rw [first, same]) (List.mem_cons_of_mem _)
    · rw [write, if_neg same, List.mem_cons] at mem
      obtain rfl | later := mem
      · exact .inr List.mem_cons_self
      · exact (ih later).imp_right (List.mem_cons_of_mem _)

/-- There is nothing in a table but what it held and what has been set. -/
lemma mem_setAll {e : κ × ν} {t : Table κ ν} (mem : e ∈ (t.setAll pairs).entries) : e ∈ pairs ∨ e ∈ t.entries := by
  induction pairs generalizing t with
  | nil => exact .inr mem
  | cons p pairs ih =>
    rw [setAll_cons] at mem
    obtain later | here := ih mem
    · exact .inl (List.mem_cons_of_mem _ later)
    · obtain rfl | here := mem_write here
      · exact .inl List.mem_cons_self
      · exact .inr here

end Table

namespace Variables

open Json

/-- An entry is saved with its key and its value, also where they are empty. -/
lemma read_saveEntry (e : Text × Text) : Assignment.type.read (saveEntry e) = .ok ⟨e.1, e.2⟩ :=
  rfl

/-- Saved variables are plain JSON. -/
lemma plain_saved (entries : List (Text × Text)) :
    Plain 3 (.object [("vars".toList, .list (entries.map saveEntry))]) := by
  refine ⟨List.pairwise_singleton _ _, fun m mem => ?_⟩
  rw [List.mem_singleton.mp mem]
  intro j mem
  obtain ⟨e, -, rfl⟩ := List.mem_map.mp mem
  have keys : ((["key".toList, "value".toList] : List Text)).Nodup := by decide
  refine ⟨keys, fun m mem => ?_⟩
  simp only [List.mem_cons, List.not_mem_nil, or_false] at mem
  obtain rfl | rfl := mem
  · trivial
  · trivial

/-- What was saved is read back pair by pair. -/
lemma parseSaved_exportJson (layout : Layout) (vs : Variables) :
    parseSaved (exportJson vs layout) = .ok (vs.entries.map fun e => ⟨e.1, e.2⟩) := by
  have shallow : Dialect.guarded.Holds 0 3 := show 0 + 3 ≤ 200 by decide
  have items : Checked.all (Codec.readItems Assignment.type.codec 0 (vs.entries.map saveEntry)) =
      .ok (vs.entries.map fun e => ⟨e.1, e.2⟩) := Codec.all_readItems read_saveEntry vs.entries 0
  rw [parseSaved, exportJson, read_render shallow layout (plain_saved vs.entries)]
  exact congrArg (Checked.within (.key "vars".toList)) items

/-- The pairs that have a key. -/
def named (vs : Variables) : List (Text × Text) :=
  vs.entries.filter fun e => !e.1.isEmpty

/-- Named variables have distinct names. -/
lemma nodup_named (vs : Variables) : (vs.named.map Prod.fst).Nodup :=
  vs.nodup.sublist (List.filter_sublist.map Prod.fst)

/-- A named variable is found under its name, and nothing under an empty one. -/
lemma lookup_named (vs : Variables) (k : Text) : Table.lookup k vs.named = if k = [] then none else vs.get? k := by
  have found : Table.lookup k vs.named = if !k.isEmpty then vs.get? k else none :=
    Table.lookup_filter fun k : Text => !k.isEmpty
  rw [found]
  cases k with
  | nil => rfl
  | cons c k => rfl

/-- The named variables are those with a name, in their order. -/
lemma keys_named (vs : Variables) : vs.named.map Prod.fst = vs.keys.filter (!·.isEmpty) := by
  rw [named, Table.keys, List.filter_map]
  rfl

/-- Loading sets the pairs that have a key, one after another. -/
lemma importJson_eq_setAll (layout : Layout) (s t : Variables) :
    importJson t (exportJson s layout) = .ok (t.setAll s.named) := by
  have pairs : ((s.entries.map fun e => Assignment.mk e.1 e.2).filter (!·.key.isEmpty)).map (fun a => (a.key, a.value)) =
      s.named := by
    rw [List.filter_map, List.map_map]
    exact List.map_id _
  rw [importJson, parseSaved_exportJson]
  dsimp only
  rw [assignAll, pairs]

/-- Saved variables are merged into others, in every layout: a pair with a key is there afterwards, all other pairs are
as they were, keys keep their places, and new ones follow in the order in which they were saved. So an empty table
becomes the one that was saved, but for the pair of the empty key. -/
theorem importJson_exportJson (layout : Layout) (s t : Variables) :
    (∃ u, importJson t (exportJson s layout) = .ok u ∧
      (∀ k, u.get? k = if k = [] then t.get? k else (s.get? k).or (t.get? k)) ∧
      u.keys = t.keys ++ s.keys.filter fun k => !k.isEmpty && !t.contains k) ∧
    (importJson Table.empty (exportJson s layout)).map Table.entries = .ok (s.entries.filter (!·.1.isEmpty)) := by
  refine ⟨⟨t.setAll s.named, importJson_eq_setAll layout s t, fun k => ?_, ?_⟩, ?_⟩
  · rw [Table.get?_setAll t s.nodup_named, lookup_named]
    split
    · rfl
    · rfl
  · rw [Table.keys_setAll t s.nodup_named, keys_named, List.filter_filter]
    congr 1
    exact List.filter_congr fun k _ => Bool.and_comm _ _
  · rw [importJson_eq_setAll, Except.map, show Table.empty.setAll s.named = Table.ofList s.named from rfl,
      Table.entries_ofList s.nodup_named]
    rfl

/-- The pair of the empty key is saved, but not loaded. -/
theorem unnamed_is_lost :
    let s : Variables := Table.ofList [([], ['x'])]
    (importJson Table.empty (exportJson s none)).map Table.entries ≠ .ok s.entries := by
  decide +kernel

end Variables

end Parley
