/-!
# Ordered tables

A table maps keys to values and remembers the order in which its keys first came. Replacing a value
leaves its key in place; a new key goes last. `get?_set` and `keys_set` describe writing by what reading
and listing show afterwards.
-/

namespace Parley

/-- Pairs with different keys, in the order in which the keys came. -/
structure Table (κ ν : Type) where
  entries : List (κ × ν)
  nodup : (entries.map Prod.fst).Nodup

namespace Table

variable {κ ν : Type}

instance [DecidableEq κ] [DecidableEq ν] : DecidableEq (Table κ ν) := fun s t =>
  if h : s.entries = t.entries then
    .isTrue (by cases s; cases t; simp only at h; subst h; rfl)
  else .isFalse fun e => h (congrArg entries e)

/-- Tables with the same entries are the same. -/
@[ext] theorem ext {s t : Table κ ν} (h : s.entries = t.entries) : s = t := by
  cases s; cases t; simp only at h; subst h; rfl

/-- The table without keys. -/
def empty : Table κ ν :=
  ⟨[], List.nodup_nil⟩

instance : Inhabited (Table κ ν) := ⟨empty⟩

/-- The keys in order. -/
def keys (t : Table κ ν) : List κ :=
  t.entries.map Prod.fst

/-- The number of keys. -/
def size (t : Table κ ν) : Nat :=
  t.entries.length

variable [DecidableEq κ]

/-- The value of a key in a list of pairs; of two pairs with the key, that of the first. -/
def lookup (k : κ) : List (κ × ν) → Option ν
  | [] => none
  | (a, v) :: rest => if a = k then some v else lookup k rest

/-- The value of a key. -/
def get? (t : Table κ ν) (k : κ) : Option ν :=
  lookup k t.entries

/-- Whether a key has a value. -/
def contains (t : Table κ ν) (k : κ) : Bool :=
  (t.get? k).isSome

/-- The pairs with the value of a key replaced, or the pair added at the end. -/
def write (k : κ) (v : ν) : List (κ × ν) → List (κ × ν)
  | [] => [(k, v)]
  | (a, w) :: rest => if a = k then (a, v) :: rest else (a, w) :: write k v rest

/-- The pairs without the one of a key. -/
def drop (k : κ) : List (κ × ν) → List (κ × ν)
  | [] => []
  | (a, w) :: rest => if a = k then rest else (a, w) :: drop k rest

/-- A key has no value if it is not among the keys. -/
theorem lookup_eq_none_iff {k : κ} {l : List (κ × ν)} : lookup k l = none ↔ k ∉ l.map Prod.fst := by
  induction l with
  | nil => simp [lookup]
  | cons p rest ih =>
    obtain ⟨a, v⟩ := p
    by_cases h : a = k
    · simp [lookup, h]
    · simp [lookup, h, ih, Ne.symm h]

/-- The keys after a write: unchanged if the key is there, else with the key at the end. -/
theorem map_fst_write (k : κ) (v : ν) (l : List (κ × ν)) :
    (write k v l).map Prod.fst =
      if k ∈ l.map Prod.fst then l.map Prod.fst else l.map Prod.fst ++ [k] := by
  induction l with
  | nil => simp [write]
  | cons p rest ih =>
    obtain ⟨a, w⟩ := p
    by_cases h : a = k
    · simp [write, h]
    · simp only [write, h, if_false, List.map_cons, ih, List.mem_cons, Ne.symm h, false_or]
      split <;> simp

/-- The keys stay different when a value is written. -/
theorem nodup_map_fst_write {l : List (κ × ν)} (h : (l.map Prod.fst).Nodup) (k : κ) (v : ν) :
    ((write k v l).map Prod.fst).Nodup := by
  rw [map_fst_write]
  split
  · exact h
  · next hk =>
    refine List.nodup_append.2 ⟨h, by simp, fun a ha b hb e => hk ?_⟩
    rw [List.mem_singleton] at hb
    exact hb ▸ e ▸ ha

/-- Dropping a key leaves the other pairs in their order. -/
theorem drop_sublist (k : κ) (l : List (κ × ν)) : (drop k l).Sublist l := by
  induction l with
  | nil => exact List.Sublist.refl _
  | cons p rest ih =>
    obtain ⟨a, w⟩ := p
    by_cases h : a = k
    · simp [drop, h]
    · simp [drop, h, ih]

/-- The table with a value written under a key. -/
def set (t : Table κ ν) (k : κ) (v : ν) : Table κ ν :=
  ⟨write k v t.entries, nodup_map_fst_write t.nodup k v⟩

/-- The table without a key. -/
def erase (t : Table κ ν) (k : κ) : Table κ ν :=
  ⟨drop k t.entries, t.nodup.sublist ((drop_sublist k t.entries).map Prod.fst)⟩

/-- The table with pairs set one after another. -/
def setAll (t : Table κ ν) (pairs : List (κ × ν)) : Table κ ν :=
  pairs.foldl (fun t p => t.set p.1 p.2) t

/-- The table of pairs set one after another. -/
def ofList (pairs : List (κ × ν)) : Table κ ν :=
  empty.setAll pairs

/-- A value that has been written is found under its key, and what is under other keys stays. -/
theorem lookup_write (k a : κ) (v : ν) (l : List (κ × ν)) :
    lookup a (write k v l) = if k = a then some v else lookup a l := by
  induction l with
  | nil => simp [write, lookup]
  | cons p rest ih =>
    obtain ⟨b, w⟩ := p
    by_cases h : b = k
    · subst h
      by_cases e : b = a <;> simp [write, lookup, e]
    · simp only [write, h, if_false, lookup, ih]
      by_cases e : b = a
      · subst e; simp [Ne.symm h]
      · simp [e]

/-- A value that has been set is found under its key, and what is under other keys stays. -/
theorem get?_set (t : Table κ ν) (k a : κ) (v : ν) :
    (t.set k v).get? a = if k = a then some v else t.get? a :=
  lookup_write k a v t.entries

/-- A new key goes last, and one that is there stays in its place. -/
theorem keys_set (t : Table κ ν) (k : κ) (v : ν) :
    (t.set k v).keys = if k ∈ t.keys then t.keys else t.keys ++ [k] :=
  map_fst_write k v t.entries

end Table

end Parley
