import Parley.Proofs.Text.Cuts
import Parley.Proofs.Variables.Merging

/-!
# Delimited variables

Variables that have been saved as plain text are pairs of texts with delimiters around them, and nothing marks a
delimiter that belongs to a text.

* `Safe`: the pairs that are read back as they were written.
* `readEntries_written`: what is safe is read back, pair by pair.
* `safe_of_readEntries`: whatever is read is safe.

`importText_exportText_iff` closes the file: the variables that can be saved and loaded as plain text are the safe ones.
-/

namespace Parley.Variables

open Text

variable {e p : Char} {t : Text} {entry : Text × Text} {entries : List (Text × Text)}

/-- A text that can be told from the delimiters and blanks around it. -/
structure Clean (e p : Char) (t : Text) : Prop where
  trimmed : trim t = t
  entry : e ∉ t
  pair : p ∉ t

instance (e p : Char) (t : Text) : Decidable (Clean e p t) :=
  decidable_of_iff (trim t = t ∧ e ∉ t ∧ p ∉ t) ⟨fun ⟨trimmed, entry, pair⟩ => ⟨trimmed, entry, pair⟩,
    fun h => ⟨h.trimmed, h.entry, h.pair⟩⟩

/-- A key and a value that are read back as they were written. -/
structure Safe (e p : Char) (entry : Text × Text) : Prop where
  named : entry.1 ≠ []
  key : Clean e p entry.1
  value : Clean e p entry.2

instance (e p : Char) (entry : Text × Text) : Decidable (Safe e p entry) :=
  decidable_of_iff (entry.1 ≠ [] ∧ Clean e p entry.1 ∧ Clean e p entry.2) ⟨fun ⟨named, key, value⟩ => ⟨named, key, value⟩,
    fun h => ⟨h.named, h.key, h.value⟩⟩

/-! ## Reading back -/

/-- A safe entry is read back from how it is written. -/
lemma entry_written (h : Safe e p entry) : readEntry? [p] (entry.1 ++ [p] ++ entry.2) = some entry := by
  have named : (trim entry.1).isEmpty = false := by
    rw [h.key.trimmed]
    exact List.isEmpty_eq_false_iff.mpr h.named
  unfold readEntry?
  rw [splitPair?_of_not_mem h.key.pair h.value.pair]
  simp only [Option.bind_eq_bind, Option.bind_some, named]
  rw [if_neg Bool.false_ne_true, h.key.trimmed, h.value.trimmed]

/-- Safe entries are read back from how they are written. -/
lemma readEntries_written (h : ∀ entry ∈ entries, Safe e p entry) :
    readEntries [p] (entries.map fun entry => entry.1 ++ [p] ++ entry.2) = .ok entries := by
  induction entries with
  | nil => rfl
  | cons entry entries ih =>
    obtain ⟨here, rest⟩ := List.forall_mem_cons.mp h
    rw [List.map_cons, readEntries, entry_written here]
    dsimp only
    rw [ih rest]
    rfl

/-- An entry that is read holds no delimiters, and nothing that could be trimmed. -/
lemma safe_of_entry (apart : e ∉ t) (h : readEntry? [p] t = some entry) : Safe e p entry := by
  obtain ⟨⟨left, right⟩, parts, h⟩ := Option.bind_eq_some_iff.mp h
  have whole := eq_append_of_cut ((splitPair?_eq_some (List.cons_ne_nil p [])).mp parts).1
  obtain ⟨first, second⟩ := not_mem_of_splitPair? parts
  rw [whole, List.mem_append, List.mem_append, not_or, not_or] at apart
  dsimp only at h
  split at h
  · cases h
  · rename_i named
    cases h
    exact ⟨fun empty => named (List.isEmpty_iff.mpr empty),
      ⟨trim_trim left, fun mem => apart.1.1 (mem_of_mem_trim mem), fun mem => first (mem_of_mem_trim mem)⟩,
      ⟨trim_trim right, fun mem => apart.2 (mem_of_mem_trim mem), fun mem => second (mem_of_mem_trim mem)⟩⟩

/-- Entries that are read have no delimiter in them. -/
lemma safe_of_readEntries {ts : List Text} (apart : ∀ t ∈ ts, e ∉ t) (h : readEntries [p] ts = .ok entries) :
    ∀ entry ∈ entries, Safe e p entry := by
  induction ts generalizing entries with
  | nil =>
    cases h
    exact nofun
  | cons t ts ih =>
    obtain ⟨here, rest⟩ := List.forall_mem_cons.mp apart
    unfold readEntries at h
    cases read : readEntry? [p] t with
    | none =>
      rw [read] at h
      cases h
    | some entry =>
      rw [read] at h
      cases more : readEntries [p] ts with
      | error failure =>
        rw [more] at h
        cases h
      | ok others =>
        rw [more] at h
        cases h
        exact List.forall_mem_cons.mpr ⟨safe_of_entry here read, ih rest more⟩

/-! ## Loading -/

/-- Pairs with keys that are not blank do not make up a blank text. -/
lemma trim_exportText_ne_nil {vs : Variables} (safe : ∀ entry ∈ vs.entries, Safe e p entry) (nonempty : vs.entries ≠ []) :
    trim (exportText vs [e] [p]) ≠ [] := by
  obtain ⟨entry, entries, whole⟩ := List.exists_cons_of_ne_nil nonempty
  have first := safe entry (whole ▸ List.mem_cons_self)
  intro nothing
  rw [exportText, whole, List.map_cons, trim_eq_nil_iff] at nothing
  have begins : entry.1 <+: join [e] ((entry.1 ++ [p] ++ entry.2) :: entries.map fun entry =>
      entry.1 ++ [p] ++ entry.2) := by
    refine List.IsPrefix.trans ?_ (prefix_join _ _ _)
    rw [List.append_assoc]
    exact List.prefix_append _ _
  have blank : Blank entry.1 := fun c mem => nothing c (begins.subset mem)
  exact first.named (first.key.trimmed.symm.trans (trim_eq_nil_iff.mpr blank))

/-- Variables are loaded as they were saved in plain text if and only if each of them has a key, nothing of it can be
trimmed, and it holds neither delimiter. -/
theorem importText_exportText_iff (s : Variables) (distinct : e ≠ p) :
    importText Table.empty (exportText s [e] [p]) [e] [p] = .ok s ↔ ∀ entry ∈ s.entries, Safe e p entry := by
  have reads : importText Table.empty (exportText s [e] [p]) [e] [p] =
      if (trim (exportText s [e] [p])).isEmpty then .ok Table.empty
      else (readEntries [p] (splitOn [e] (exportText s [e] [p]))).map Table.empty.setAll := rfl
  rw [reads]
  constructor
  · intro loaded entry mem
    split at loaded
    · cases loaded
      cases mem
    · cases read : readEntries [p] (splitOn [e] (exportText s [e] [p])) with
      | error failure =>
        rw [read] at loaded
        cases loaded
      | ok pairs =>
        rw [read] at loaded
        cases loaded
        obtain mem | before := Table.mem_setAll mem
        · exact safe_of_readEntries (fun t mem => not_mem_of_mem_splitOn mem) read entry mem
        · cases before
  · intro safe
    cases whole : s.entries with
    | nil =>
      have empty : s = Table.empty := Table.ext whole
      rw [empty]
      rfl
    | cons entry entries =>
      have nonempty : s.entries ≠ [] := whole ▸ List.cons_ne_nil entry entries
      -- Each entry is free of the delimiter between entries, so the text falls into the entries again.
      have apart : ∀ t ∈ s.entries.map fun entry => entry.1 ++ [p] ++ entry.2, e ∉ t := by
        intro t mem
        obtain ⟨entry, here, rfl⟩ := List.mem_map.mp mem
        simp [(safe entry here).key.entry, (safe entry here).value.entry, distinct]
      rw [if_neg (by simpa using trim_exportText_ne_nil safe nonempty), exportText,
        splitOn_join (by simpa using nonempty) apart,
        readEntries_written safe]
      exact congrArg Except.ok (Table.ofList_entries s)

/-- Blanks may be delimiters, and a value may be empty or hold delimiters that are not in use. -/
theorem importText_exportText_blank :
    let s : Variables := Table.ofList [("gold".toList, "1,0".toList), ("=".toList, [])]
    importText Table.empty (exportText s [' '] ['\t']) [' '] ['\t'] = .ok s ∧
      importText Table.empty (exportText s [' '] ['=']) [' '] ['='] ≠ .ok s := by
  intro s
  refine ⟨(importText_exportText_iff s (by decide)).mpr (by decide +kernel), fun loaded => ?_⟩
  exact absurd ((importText_exportText_iff s (by decide)).mp loaded) (by decide +kernel)

end Parley.Variables
