import Parley.Library.Basic
import Parley.Proofs.Text.Cuts

/-!
# What loading finds

The one file that goes by an id is what a loaded database holds under it.

* `Database.stem_append`: a file goes by the part of its name before the last dot.
* `Database.get?_collect`: files that are read into a table, and the one that goes by a key.
* `Database.load_parts`: a loading that succeeds reads dialogs and scripts from one folder.
* `Database.Holds`: a database in which one file alone goes by an id.

`Database.Holds.dialog?_load` and `Database.Holds.script?_load` close the file.
-/

namespace Parley

/-- If loading is not given up, neither of its parts is. -/
lemma Loading.bind_parts {α : Type} {l : Loading α} {f : α → Loading α} (whole : (l.bind f).fault = none) :
    l.fault = none ∧ (f l.value).fault = none ∧ (l.bind f).value = (f l.value).value := by
  unfold bind at whole ⊢
  cases fault : l.fault with
  | some g =>
    rw [fault] at whole
    exact absurd (whole.symm.trans fault) nofun
  | none =>
    rw [fault] at whole
    exact ⟨rfl, whole, rfl⟩

/-- If neither of its parts is given up, loading is not. -/
lemma Loading.fault_bind {α : Type} {l : Loading α} {f : α → Loading α} (first : l.fault = none)
    (second : (f l.value).fault = none) : (l.bind f).fault = none := by
  rw [bind, first]
  exact second

namespace Database

/-- If loading is not given up, what was loaded is put in its place. -/
lemma value_put {α : Type} {db : Database} {l : Loading α} {f : Database → α → Database}
    (whole : (db.put l f).fault = none) : l.fault = none ∧ (db.put l f).value = f db l.value := by
  have fault : l.fault = none := whole
  refine ⟨fault, ?_⟩
  rw [put, fault]
  rfl

/-- What the names of dialogs and scripts end in. -/
def suffixes : List Text :=
  [".json".toList, ".dlg".toList, ".txt".toList]

/-- A file goes by what stands in front of its suffix. -/
lemma stem_append {id suffix : Text} (known : suffix ∈ suffixes) (named : id ≠ []) : Path.stem (id ++ suffix) = id := by
  have dotted : ∀ suffix ∈ suffixes, '.' ∉ suffix.tail ∧ suffix.tail.isEmpty = false ∧ suffix = '.' :: suffix.tail := by
    decide
  obtain ⟨dotless, last, e⟩ := dotted suffix known
  have whole : (id.isEmpty || suffix.tail.isEmpty) = false := by
    rw [last, List.isEmpty_eq_false_iff.mpr named]
    rfl
  rw [e, Path.stem, Path.splitSuffix, Text.cutLast_of_not_mem dotless]
  simp only [whole]
  rfl

/-- A name has the one suffix that was given to it. -/
lemma endsIn_append (id : Text) {kind suffix : Text} (mem : kind ∈ suffixes) (mem' : suffix ∈ suffixes) :
    endsIn kind (id ++ suffix) = decide (kind = suffix) := by
  have ends : ∀ kind ∈ suffixes, ∀ suffix ∈ suffixes, ∀ front,
      Text.beginsWith kind.reverse (suffix.reverse ++ front) = decide (kind = suffix) := by
    refine List.forall_iff_forall_mem.mp ⟨?_, ?_, ?_⟩
    all_goals exact List.forall_iff_forall_mem.mp ⟨fun _ => rfl, fun _ => rfl, fun _ => rfl⟩
  rw [endsIn, List.reverse_append]
  exact ends kind mem suffix mem' id.reverse

/-- The files of a kind are the entries with its suffix. -/
lemma mem_matching {suffix : Text} {e : Entry} {f : Text × Entry} :
    f ∈ matching suffix e ↔ f ∈ e.entries ∧ endsIn suffix f.1 = true := by
  rw [matching, List.mem_mergeSort, List.mem_filter]

section Collect

variable {α : Type} {again : Bool} {key : Text → Text} {read : Text → Entry → FileResult α} {id : Text}

/-- What a file gives a table. -/
def valueOf : FileResult α → Option α
  | .ok (.ok x) => some x
  | _ => none

/-- A file that is read, or passed over, leaves a table behind with which the other files are read. -/
lemma collect_cons {f : Text × Entry} {files : List (Text × Entry)} {t : Table Text α}
    (whole : (collect again key read (f :: files) t).fault = none) :
    ∃ t', (collect again key read files t').fault = none ∧
      (collect again key read (f :: files) t).value = (collect again key read files t').value ∧
      ((t' = t ∧ (again = false ∧ t.contains (key f.1) = true ∨ valueOf (read f.1 f.2) = none)) ∨
        ∃ x, valueOf (read f.1 f.2) = some x ∧ t' = t.set (key f.1) x ∧
          (again = true ∨ t.contains (key f.1) = false)) := by
  obtain ⟨name, e⟩ := f
  rw [collect] at whole ⊢
  split at whole
  · rename_i skipped
    rw [if_pos skipped]
    exact ⟨t, whole, rfl, .inl ⟨rfl, .inl (by simpa using skipped)⟩⟩
  · rename_i taken
    rw [if_neg taken]
    have free : again = true ∨ t.contains (key name) = false := by
      cases again with
      | true => exact .inl rfl
      | false => exact .inr (by simpa using taken)
    cases result : read name e with
    | error f =>
      rw [result] at whole
      cases whole
    | ok reported =>
      rw [result] at whole
      cases reported with
      | error n => exact ⟨t, whole, rfl, .inl ⟨rfl, .inr rfl⟩⟩
      | ok x => exact ⟨t.set (key name) x, whole, rfl, .inr ⟨x, rfl, rfl, free⟩⟩

/-- Reading succeeds if every file can be read. -/
lemma fault_collect {files : List (Text × Entry)} (readable : ∀ f ∈ files, ∃ x, read f.1 f.2 = .ok x)
    (t : Table Text α) : (collect again key read files t).fault = none := by
  induction files generalizing t with
  | nil => rfl
  | cons f files ih =>
    obtain ⟨name, e⟩ := f
    obtain ⟨⟨x, result⟩, readable⟩ := List.forall_mem_cons.mp readable
    rw [collect, result]
    split
    · exact ih readable t
    · cases x with
      | error n => exact ih readable t
      | ok x => exact ih readable _

/-- A value in a table was there before, or one of the files gave it. -/
lemma get?_collect_cases (files : List (Text × Entry)) (t : Table Text α) :
    (collect again key read files t).value.get? id = t.get? id ∨ ∃ f ∈ files, key f.1 = id ∧
      ∃ x, valueOf (read f.1 f.2) = some x ∧ (collect again key read files t).value.get? id = some x := by
  induction files generalizing t with
  | nil => exact .inl rfl
  | cons f files ih =>
    obtain ⟨name, e⟩ := f
    have later (t' : Table Text α) : (collect again key read files t').value.get? id = t'.get? id ∨
        ∃ f ∈ (name, e) :: files, key f.1 = id ∧ ∃ x, valueOf (read f.1 f.2) = some x ∧
          (collect again key read files t').value.get? id = some x :=
      (ih t').imp_right fun ⟨f, mem, found⟩ => ⟨f, List.mem_cons_of_mem _ mem, found⟩
    rw [collect]
    split
    · exact later t
    · split
      · exact .inl rfl
      · exact later t
      · rename_i x result
        rcases later (t.set (key name) x) with kept | given
        · rw [kept, Table.get?_set]
          split
          · rename_i own
            exact .inr ⟨(name, e), List.mem_cons_self, own, x, by rw [result]; rfl, rfl⟩
          · exact .inl rfl
        · exact .inr given

/-- Files that go by other keys leave the value of a key as it is. -/
lemma get?_collect_of_ne {files : List (Text × Entry)} (other : ∀ f ∈ files, key f.1 ≠ id) (t : Table Text α) :
    (collect again key read files t).value.get? id = t.get? id :=
  (get?_collect_cases files t).resolve_right fun ⟨f, mem, own, _⟩ => other f mem own

/-- The one file that goes by a key gives the value of the key. -/
lemma get?_collect {files : List (Text × Entry)} (f : Text × Entry) (own : key f.1 = id)
    (only : ∀ g ∈ files, key g.1 = id → g = f) {t : Table Text α}
    (whole : (collect again key read files t).fault = none)
    (start : t.get? id = none ∧ f ∈ files ∨ t.get? id = valueOf (read f.1 f.2)) :
    (collect again key read files t).value.get? id = valueOf (read f.1 f.2) := by
  induction files generalizing t with
  | nil =>
    rcases start with ⟨-, mem⟩ | found
    · cases mem
    · exact found
  | cons g files ih =>
    obtain ⟨same, only⟩ := List.forall_mem_cons.mp only
    obtain ⟨t', whole, value, step⟩ := collect_cons whole
    rw [value]
    -- The file is still to come, or its value is there already: this holds of what is left as well.
    refine ih only whole ?_
    by_cases named : key g.1 = id
    · obtain rfl := same named
      refine .inr ?_
      rcases step with ⟨rfl, ⟨-, there⟩ | nothing⟩ | ⟨x, read, rfl, -⟩
      · rw [Table.contains, named, Option.isSome_iff_ne_none] at there
        exact start.resolve_left fun fresh => there fresh.1
      · rcases start with ⟨fresh, -⟩ | found
        · rw [fresh, nothing]
        · exact found
      · rw [Table.get?_set, if_pos named, read]
    · have kept : t'.get? id = t.get? id := by
        rcases step with ⟨rfl, -⟩ | ⟨x, -, rfl, -⟩
        · rfl
        · rw [Table.get?_set, if_neg named]
      rw [kept]
      exact start.imp_left fun ⟨fresh, mem⟩ => ⟨fresh, (List.mem_cons.mp mem).resolve_left fun e => named (e ▸ own)⟩

end Collect

variable {db : Database} {id suffix : Text} {bytes : ByteArray}

/-- A loading that succeeds, without schemas of its own, reads dialogs and scripts from one folder. -/
lemma load_parts (bundled : db.find? schemaPath = none) (whole : db.load.fault = none) :
    ∃ db₁ db₂ : Database, db₁.folder = db.folder ∧ db₂.folder = db.folder ∧ db₁.room = db.room ∧
      db₁.schema? = some .dialog ∧ db₁.loadDialogs.fault = none ∧ db.load.value.dialogs = db₁.loadDialogs.value ∧
      db₂.loadScripts.fault = none ∧ db.load.value.scripts = db₂.loadScripts.value := by
  have own : db.loadSchemas = ⟨{ db with schemas := Table.ofList [(dialogSchema, some .dialog)] }, [], none⟩ := by
    rw [loadSchemas, bundled]
  obtain ⟨first, second, scripts⟩ := Loading.bind_parts whole
  obtain ⟨-, third, dialogs⟩ := Loading.bind_parts first
  obtain ⟨readScripts, scripts'⟩ := value_put second
  obtain ⟨readDialogs, dialogs'⟩ := value_put third
  rw [← load, scripts'] at scripts
  rw [dialogs'] at dialogs
  refine ⟨_, _, ?_, ?_, ?_, ?_, readDialogs, ?_, readScripts, ?_⟩
  · rw [own]
  · rw [dialogs, own]
  · rw [own]
  · rw [own]
    rfl
  · rw [scripts, dialogs]
  · rw [scripts]

/-- Loading succeeds if every file in the folder is a text, and the text a JSON value if the name says so. -/
lemma fault_load (bundled : db.find? schemaPath = none) {e : Entry} (folder : db.find? dialogPath = some e)
    (texts : ∀ f ∈ e.entries, ∃ t, f.2.readText = .ok t)
    (values : ∀ f ∈ e.entries, endsIn ".json".toList f.1 = true → ∃ j, f.2.readJson db.room = .ok j) :
    db.load.fault = none := by
  let db₁ : Database := { db with schemas := Table.ofList [(dialogSchema, some .dialog)] }
  have own : db.loadSchemas = ⟨db₁, [], none⟩ := by
    rw [loadSchemas, bundled]
  have dialogs : db₁.loadDialogs.fault = none := by
    have folder₁ : db₁.find? dialogPath = some e := folder
    rw [loadDialogs, folder₁, show db₁.schema? = some .dialog from rfl]
    refine fault_collect (fun f mem => ?_) Table.empty
    obtain ⟨mem, ends⟩ := mem_matching.mp mem
    obtain ⟨j, read⟩ := values f mem ends
    have read : f.2.readJson db₁.room = .ok j := read
    rw [readDialog, read]
    dsimp only [resultOf]
    split
    · exact ⟨_, rfl⟩
    · exact ⟨_, rfl⟩
  have scripts {db₂ : Database} (same : db₂.folder = db.folder) : db₂.loadScripts.fault = none := by
    have folder₂ : db₂.find? dialogPath = some e := by rw [find?, same]; exact folder
    have readable {kind : Text} : ∀ f ∈ matching kind e, ∃ x, db₂.readScript f.1 f.2 = .ok x := by
      intro f mem
      obtain ⟨t, read⟩ := texts f (mem_matching.mp mem).1
      rw [readScript, read]
      exact ⟨_, rfl⟩
    rw [loadScripts, folder₂]
    exact Loading.fault_bind (fault_collect readable _) (fault_collect readable _)
  have first : (db.loadSchemas.bind fun db => db.put db.loadDialogs fun db t =>
      { db with dialogs := t }).fault = none := by
    refine Loading.fault_bind ?_ ?_
    · rw [own]
    · rw [own]
      exact dialogs
  obtain ⟨-, put, value⟩ := Loading.bind_parts first
  refine Loading.fault_bind first (scripts ?_)
  rw [value, (value_put put).2, own]

/-- A database without schemas of its own that can be loaded, in which one file alone goes by an id. -/
structure Holds (db : Database) (id suffix : Text) (bytes : ByteArray) : Prop where
  bundled : db.find? schemaPath = none
  whole : db.load.fault = none
  file : ∃ e, db.find? dialogPath = some e ∧ (id ++ suffix, .file bytes) ∈ e.entries ∧
    ∀ f ∈ e.entries, Path.stem f.1 = id → f = (id ++ suffix, .file bytes)
  named : id ≠ []
  known : suffix ∈ suffixes

namespace Holds

/-- The files of the other kinds have other names. -/
lemma ne_of_mem_matching (h : db.Holds id suffix bytes) {e : Entry} (folder : db.find? dialogPath = some e)
    {kind : Text} (mem : kind ∈ suffixes) (other : kind ≠ suffix) : ∀ f ∈ matching kind e, Path.stem f.1 ≠ id := by
  intro f mem' own
  obtain ⟨e', folder', -, only⟩ := h.file
  cases folder.symm.trans folder'
  obtain ⟨mem', ends⟩ := mem_matching.mp mem'
  rw [only f mem' own, endsIn_append id mem h.known, decide_eq_true_eq] at ends
  exact other ends

/-- What is read of the files of a kind, one of which goes by the id. -/
lemma get?_collect_matching {α : Type} (h : db.Holds id suffix bytes) {e : Entry}
    (folder : db.find? dialogPath = some e) {kind : Text} (mem : kind ∈ suffixes) {again : Bool}
    {read : Text → Entry → FileResult α} {t : Table Text α}
    (whole : (collect again Path.stem read (matching kind e) t).fault = none) (start : t.get? id = none) :
    (collect again Path.stem read (matching kind e) t).value.get? id =
      if kind = suffix then valueOf (read (id ++ suffix) (.file bytes)) else none := by
  obtain ⟨e', folder', mem', only⟩ := h.file
  cases folder.symm.trans folder'
  split
  · rename_i same
    refine get?_collect (id ++ suffix, .file bytes) (stem_append h.known h.named)
      (fun g mem own => only g (mem_matching.mp mem).1 own) whole (.inl ⟨start, mem_matching.mpr ⟨mem', ?_⟩⟩)
    rw [endsIn_append id mem h.known, same, decide_eq_true_eq]
  · rename_i other
    rw [get?_collect_of_ne (h.ne_of_mem_matching folder mem other), start]

/-- The folder in a database that is being loaded. -/
lemma folder (h : db.Holds id suffix bytes) {db' : Database} (same : db'.folder = db.folder) :
    ∃ e, db'.find? dialogPath = some e ∧ db.find? dialogPath = some e := by
  obtain ⟨e, folder, -⟩ := h.file
  refine ⟨e, ?_, folder⟩
  rw [find?, same]
  exact folder

/-- The value of a file is what was read from it. -/
lemma valueOf_resultOf {α : Type} (unreadable : LibraryNotice) (r : Except Unreadable α) :
    valueOf (resultOf unreadable r) = r.toOption := by
  cases r with
  | ok x => rfl
  | error u =>
    cases u with
    | notFile => rfl
    | fault f => cases f <;> rfl

/-- The value of a saved dialog is what was read from its file, if the schema accepts it. -/
lemma valueOf_readDialog (db : Database) (s : Schema) (name : Text) (e : Entry) :
    valueOf (db.readDialog s name e) = (e.readJson db.room).toOption.filter s.accepts := by
  rw [← valueOf_resultOf (.unreadableFile (db.fullPath (dialogPath ++ [name]))), readDialog]
  split
  · rename_i j read
    rw [read]
    split
    · rename_i accepts
      exact (Option.filter_some_pos accepts).symm
    · rename_i refused
      exact (Option.filter_some_neg (eq_false_of_ne_true refused)).symm
  · rename_i other
    cases read : resultOf (.unreadableFile (db.fullPath (dialogPath ++ [name]))) (e.readJson db.room) with
    | error f => rfl
    | ok reported =>
      cases reported with
      | error n => rfl
      | ok j => exact absurd read (other j)

/-- The dialog under the id: the value in the file, if it is a JSON file and the schema accepts it. -/
theorem dialog?_load (h : db.Holds id suffix bytes) : db.load.value.dialog? id =
    if ".json".toList = suffix then ((Entry.file bytes).readJson db.room).toOption.filter Schema.dialog.accepts
    else none := by
  obtain ⟨db₁, -, same, -, room, schema, whole, dialogs, -, -⟩ := load_parts h.bundled h.whole
  obtain ⟨e, folder₁, folder⟩ := h.folder same
  rw [loadDialogs, folder₁, schema] at whole dialogs
  rw [dialog?, dialogs, h.get?_collect_matching folder (by decide) whole rfl, valueOf_readDialog, room]

/-- The script under the id: the text of the file, unless it is a JSON file. -/
theorem script?_load (h : db.Holds id suffix bytes) : db.load.value.script? id =
    if ".json".toList = suffix then none else (Entry.file bytes).readText.toOption := by
  obtain ⟨-, db₂, -, same, -, -, -, -, whole, scripts⟩ := load_parts h.bundled h.whole
  obtain ⟨e, folder₂, folder⟩ := h.folder same
  rw [loadScripts, folder₂] at whole scripts
  obtain ⟨whole, whole', value⟩ := Loading.bind_parts whole
  rw [script?, scripts, value, ← valueOf_resultOf (.unreadableFile (db₂.fullPath (dialogPath ++ [id ++ suffix])))]
  have first := h.get?_collect_matching folder (show ".dlg".toList ∈ suffixes by decide) whole rfl
  by_cases dlg : ".dlg".toList = suffix
  · subst dlg
    rw [get?_collect_of_ne (h.ne_of_mem_matching folder (by decide) (by decide)), first]
    rfl
  · rw [if_neg dlg] at first
    rw [h.get?_collect_matching folder (by decide) whole' first]
    by_cases txt : ".txt".toList = suffix
    · subst txt
      rfl
    · have json : ".json".toList = suffix := by
        have known := h.known
        simp only [suffixes, List.mem_cons, List.not_mem_nil, or_false] at known
        exact (known.resolve_right fun other => other.elim (dlg ·.symm) (txt ·.symm)).symm
      rw [if_neg txt, if_pos json]

end Holds

/-- The database of one file in its folder of dialogs. -/
def ofFile (name : Text) (bytes : ByteArray) : Database where
  location := []
  folder := some (.folder [("database".toList, .folder [("dialog".toList, .folder [(name, .file bytes)])])])

/-- The one file in a folder goes by its id alone. -/
lemma holds_ofFile (known : suffix ∈ suffixes) (named : id ≠ []) (text : ∃ t, (Entry.file bytes).readText = .ok t)
    (value : suffix = ".json".toList → ∃ j, (Entry.file bytes).readJson .usual = .ok j) :
    (ofFile (id ++ suffix) bytes).Holds id suffix bytes := by
  have folder : (ofFile (id ++ suffix) bytes).find? dialogPath = some (.folder [(id ++ suffix, .file bytes)]) := rfl
  refine ⟨rfl, fault_load rfl folder ?_ ?_, ⟨_, folder, List.mem_singleton_self _, ?_⟩, named, known⟩
  · exact fun f mem => List.mem_singleton.mp mem ▸ text
  · intro f mem ends
    obtain rfl := List.mem_singleton.mp mem
    rw [endsIn_append id (by decide) known, decide_eq_true_eq] at ends
    exact value ends.symm
  · exact fun f mem _ => List.mem_singleton.mp mem

end Database

end Parley
