import Parley.Proofs.Library.Agreement

/-!
# What a data folder comes to

Loading from any folder: which files are used, what is reported of the others, and when it is given up.

* `Unreadable.fault?`: a file gives loading up if its bytes are no text, or if an integer in it is too long or a value
  nests too deep.
* `Database.collect_untaken`: files that are passed over may as well not be there.
* `Database.load_of_dialogs`, `load_of_dialogFault`: what is loaded in terms of the dialogs and the scripts.

`Database.load_folder` closes the file.
-/

namespace Parley

/-- The fault that gives loading up when an entry cannot be read. A folder and a text that is no JSON value are
reported and passed over. -/
def Unreadable.fault? : Unreadable → Option Fault
  | .notFile | .fault .malformedJson => none
  | .fault f => some f

/-- The fault that reading an entry gives loading up with. -/
def Entry.fault? {α : Type} : Except Unreadable α → Option Fault
  | .ok _ => none
  | .error u => u.fault?

/-- A notice in front of a loading stays in front of what is loaded next. -/
lemma Loading.after_bind {α : Type} (l : Loading α) (n : LibraryNotice) (f : α → Loading α) :
    (l.after n).bind f = (l.bind f).after n := by
  obtain ⟨x, log, fault⟩ := l
  cases fault with
  | none => rfl
  | some g => rfl

/-- A name on its own is looked for among the entries of a folder. -/
lemma Entry.find?_name (e : Entry) (name : Text) : e.find? [name] = Table.lookup name e.entries := by
  rw [find?]
  cases Table.lookup name e.entries with
  | none => rfl
  | some inner => rfl

/-- A text file is broken only by not being UTF-8. -/
lemma Entry.fault?_readText {e : Entry} {f : Fault} (broken : fault? e.readText = some f) : f = .undecodable := by
  cases e with
  | folder es => cases broken
  | file bytes =>
    rw [readText] at broken
    cases decoded : Text.ofBytes? bytes with
    | none =>
      rw [decoded] at broken
      exact (Option.some.inj broken).symm
    | some t =>
      rw [decoded] at broken
      cases broken

/-- A file that is read as a value gives loading up for one of three reasons. -/
lemma Entry.fault?_readJson {room : Json.Room} {e : Entry} {f : Fault} (broken : fault? (e.readJson room) = some f) :
    f = .undecodable ∨ f = .nestedTooDeep ∨ ∃ digits, f = .integerTooLong digits := by
  rw [readJson] at broken
  cases read : e.readText with
  | error u =>
    rw [read] at broken
    have text : fault? e.readText = some f := by rw [read]; exact broken
    exact .inl (fault?_readText text)
  | ok t =>
    rw [read] at broken
    dsimp only at broken
    split at broken
    · cases broken
    · cases broken
    · exact .inr (.inl (Option.some.inj broken).symm)
    · exact .inr (.inr ⟨_, (Option.some.inj broken).symm⟩)

-- What has not been closed yet is nested too deep all the same: the reader does not get to the end of the text.
example : Entry.fault? ((Entry.file (String.ofList (List.replicate 201 '[')).toUTF8).readJson ⟨200, le_rfl⟩) =
    some .nestedTooDeep := by
  decide +kernel

namespace Database

/-- The fault that a file gives up loading with. -/
def faultOf {α : Type} : FileResult α → Option Fault
  | .error f => some f
  | .ok _ => none

/-- What is reported of a file. -/
def noticeOf {α : Type} : FileResult α → Option LibraryNotice
  | .ok (.error n) => some n
  | _ => none

section Collect

variable {α : Type} {key : Text → Text} {read : Text → Entry → FileResult α} {id : Text}

/-- The files that go by other keys than the usable files in front of them. -/
def untaken (key : Text → Text) (usable : Text × Entry → Bool) : List (Text × Entry) → List (Text × Entry)
  | [] => []
  | f :: files => f :: (untaken key usable files).filter fun g => !(usable f && key f.1 == key g.1)

/-- A file that is passed over may as well not be there. -/
lemma collect_untaken (files : List (Text × Entry)) (t : Table Text α) :
    collect false key read files t = collect true key read
      ((untaken key (fun f => (valueOf (read f.1 f.2)).isSome) files).filter fun g => !t.contains (key g.1)) t := by
  induction files generalizing t with
  | nil => rfl
  | cons f files ih =>
    obtain ⟨name, e⟩ := f
    rw [collect, untaken]
    cases taken : t.contains (key name) with
    | true =>
      rw [if_pos (by simp), List.filter_cons_of_neg (by simp [taken]), List.filter_filter, ih]
      congr 1
      refine List.filter_congr fun g _ => ?_
      -- What goes by the key of the file is left out already, since the key is taken.
      by_cases same : key name = key g.1
      · simp [← same, taken]
      · simp [same]
    | false =>
      rw [if_neg (by simp), List.filter_cons_of_pos (by simp [taken]), List.filter_filter, collect, if_neg (by simp)]
      cases result : read name e with
      | error f => rfl
      | ok reported =>
        cases reported with
        | error n =>
          dsimp only
          rw [ih]
          simp [valueOf]
        | ok x =>
          dsimp only
          rw [ih]
          congr 1
          refine List.filter_congr fun g _ => ?_
          rw [Table.contains, Table.contains, Table.get?_set]
          by_cases same : key name = key g.1
          · simp [same, valueOf]
          · simp [same]

/-- Loading is given up at the first file that gives it up. -/
lemma fault_collect_eq (files : List (Text × Entry)) (t : Table Text α) :
    (collect true key read files t).fault = files.findSome? fun f => faultOf (read f.1 f.2) := by
  induction files generalizing t with
  | nil => rfl
  | cons f files ih =>
    obtain ⟨name, e⟩ := f
    rw [collect, if_neg (by simp), List.findSome?_cons]
    cases read name e with
    | error f => rfl
    | ok reported =>
      cases reported with
      | error n => exact ih t
      | ok x => exact ih _

/-- As long as no file gives up loading, the log has a notice for each that cannot be used, in their order. -/
lemma log_collect {files : List (Text × Entry)} {t : Table Text α}
    (whole : (collect true key read files t).fault = none) :
    (collect true key read files t).log = files.filterMap fun f => noticeOf (read f.1 f.2) := by
  induction files generalizing t with
  | nil => rfl
  | cons f files ih =>
    obtain ⟨name, e⟩ := f
    rw [collect, if_neg (by simp)] at whole ⊢
    rw [List.filterMap_cons]
    cases result : read name e with
    | error f =>
      rw [result] at whole
      cases whole
    | ok reported =>
      rw [result] at whole
      cases reported with
      | error n => exact congrArg (List.cons n) (ih whole)
      | ok x => exact ih whole

/-- Of the usable files that go by a key, the last one gives its value. -/
lemma get?_collect_true {files : List (Text × Entry)} {t : Table Text α}
    (whole : (collect true key read files t).fault = none) : (collect true key read files t).value.get? id =
      ((files.filter (key ·.1 = id)).filterMap fun f => valueOf (read f.1 f.2)).getLast?.or (t.get? id) := by
  induction files generalizing t with
  | nil => rfl
  | cons f files ih =>
    obtain ⟨t', whole, value, step⟩ := collect_cons whole
    rw [value, ih whole]
    rcases step with ⟨rfl, ⟨never, -⟩ | unusable⟩ | ⟨x, usable, rfl, -⟩
    · cases never
    · by_cases own : key f.1 = id
      · simp [own, unusable]
      · simp [own]
    · rw [Table.get?_set]
      by_cases own : key f.1 = id
      · simp [own, usable, List.getLast?_cons, Option.or_some]
      · simp [own]

/-- Of the usable files that go by a key, the first one gives its value. -/
lemma get?_collect_false {files : List (Text × Entry)} {t : Table Text α}
    (whole : (collect false key read files t).fault = none) : (collect false key read files t).value.get? id =
      (t.get? id).or ((files.filter (key ·.1 = id)).filterMap fun f => valueOf (read f.1 f.2)).head? := by
  induction files generalizing t with
  | nil => simp [collect]
  | cons f files ih =>
    obtain ⟨t', whole, value, step⟩ := collect_cons whole
    rw [value, ih whole]
    by_cases own : key f.1 = id
    · rw [Table.contains, own] at step
      rcases step with ⟨rfl, ⟨-, there⟩ | unusable⟩ | ⟨x, usable, rfl, free⟩
      · obtain ⟨x, found⟩ := Option.isSome_iff_exists.mp there
        rw [found, Option.some_or, Option.some_or]
      · simp [own, unusable]
      · have fresh : t.get? id = none := by simpa using free
        simp [Table.get?_set, own, fresh, usable]
    · have kept : t'.get? id = t.get? id := by
        rcases step with ⟨rfl, -⟩ | ⟨x, -, rfl, -⟩
        · rfl
        · rw [Table.get?_set, if_neg own]
      rw [kept]
      simp [own]

/-- Two rows of files are read as one. -/
lemma collect_append {again : Bool} (files files' : List (Text × Entry)) (t : Table Text α) :
    (collect again key read files t).bind (collect again key read files') =
      collect again key read (files ++ files') t := by
  induction files generalizing t with
  | nil => rfl
  | cons f files ih =>
    obtain ⟨name, e⟩ := f
    rw [List.cons_append, collect, collect]
    split
    · exact ih t
    · cases read name e with
      | error f => rfl
      | ok reported =>
        cases reported with
        | error n => exact (Loading.after_bind _ n _).trans (congrArg (Loading.after · n) (ih t))
        | ok x => exact ih _

end Collect

section Kinds

variable {α : Type} (db : Database) (name : Text) (e : Entry)

/-- A file gives up loading if reading it is a fault. -/
lemma faultOf_resultOf (unreadable : LibraryNotice) (r : Except Unreadable α) :
    faultOf (resultOf unreadable r) = Entry.fault? r := by
  cases r with
  | ok x => rfl
  | error u =>
    cases u with
    | notFile => rfl
    | fault f => cases f <;> rfl

/-- The notice about a file that cannot be read is the one it was given. -/
lemma eq_of_noticeOf_error {unreadable n : LibraryNotice} {u : Unreadable}
    (reported : noticeOf (resultOf unreadable (.error u : Except Unreadable α)) = some n) : n = unreadable := by
  cases u with
  | notFile => exact (Option.some.inj reported).symm
  | fault f =>
    cases f with
    | malformedJson => exact (Option.some.inj reported).symm
    | _ => cases reported

/-- A saved dialog gives up loading if its file cannot be read as JSON for a fault. -/
lemma faultOf_readDialog (s : Schema) : faultOf (db.readDialog s name e) = Entry.fault? (e.readJson db.room) := by
  rw [← faultOf_resultOf (.unreadableFile (db.fullPath (dialogPath ++ [name]))), readDialog]
  split
  · rename_i j read
    rw [read]
    split
    · rfl
    · rfl
  · rfl

/-- What is reported of a file names the file, as one that cannot be read or that the schema refuses. -/
lemma noticeOf_readDialog {s : Schema} {n : LibraryNotice} (reported : noticeOf (db.readDialog s name e) = some n) :
    n = .unreadableFile (db.fullPath (dialogPath ++ [name])) ∨ n = .invalidFile (db.fullPath (dialogPath ++ [name])) := by
  rw [readDialog] at reported
  split at reported
  · split at reported
    · cases reported
    · cases reported
      exact .inr rfl
  · rename_i other
    cases read : e.readJson db.room with
    | ok j =>
      rw [read] at reported
      cases reported
    | error u =>
      rw [read] at reported
      exact .inl (eq_of_noticeOf_error reported)

/-- The notice about a script is that its file is unreadable or invalid. -/
lemma noticeOf_readScript {n : LibraryNotice} (reported : noticeOf (db.readScript name e) = some n) :
    n = .unreadableFile (db.fullPath (dialogPath ++ [name])) ∨ n = .invalidFile (db.fullPath (dialogPath ++ [name])) := by
  rw [readScript] at reported
  cases read : e.readText with
  | ok t =>
    rw [read] at reported
    cases reported
  | error u =>
    rw [read] at reported
    exact .inl (eq_of_noticeOf_error reported)

end Kinds

variable {db : Database}

/-! ## The folder of dialogs -/

/-- The data folder has no schemas of its own. -/
def Unextended (db : Database) : Prop :=
  ∀ e, db.find? schemaPath = some e → matching ".schema.json".toList e = []

/-- The entries of the folder of dialogs. -/
def entries (db : Database) : List (Text × Entry) :=
  (db.find? dialogPath).elim [] Entry.entries

/-- The entries of the folder of dialogs whose names end in a suffix, by name. -/
def files (db : Database) (suffix : String) : List (Text × Entry) :=
  (db.find? dialogPath).elim [] (matching suffix.toList)

/-- The files that are read as scripts: one that goes by the same id as a readable one in front of it is not. -/
def scriptFiles (db : Database) : List (Text × Entry) :=
  untaken Path.stem (fun f => f.2.readText.toOption.isSome) (db.files ".dlg" ++ db.files ".txt")

/-- What is reported if the folder of dialogs is missing. -/
def missing (db : Database) : List LibraryNotice :=
  match db.find? dialogPath with
  | none => [.missingFolder (db.fullPath dialogPath)]
  | some _ => []

/-- The first fault that a saved dialog gives loading up with. -/
def dialogFault? (db : Database) : Option Fault :=
  (db.files ".json").findSome? fun f => Entry.fault? (f.2.readJson db.room)

/-- The first fault that a script gives loading up with. -/
def scriptFault? (db : Database) : Option Fault :=
  db.scriptFiles.findSome? fun f => Entry.fault? f.2.readText

/-- The value of a file of a saved dialog, if it can be read and the schema accepts it. -/
def savedIn? (db : Database) (e : Entry) : Option Json :=
  (e.readJson db.room).toOption.filter Schema.dialog.accepts

/-- The database with the bundled schema in force. -/
def bundle (db : Database) : Database :=
  { db with schemas := Table.ofList [(dialogSchema, some .dialog)] }

/-- Without schemas of its own a database has those of the bundle. -/
lemma loadSchemas_eq (own : db.Unextended) : db.loadSchemas = ⟨db.bundle, [], none⟩ := by
  unfold loadSchemas
  split
  · rfl
  · rename_i e folder
    rw [own e folder]
    rfl

/-- The dialogs as they are read from their files. -/
def readDialogs (db : Database) : Loading (Table Text Json) :=
  collect true Path.stem (db.readDialog .dialog) (db.files ".json") Table.empty

/-- The saved dialogs are loaded with a notice for each schema that is missing. -/
lemma loadDialogs_bundle :
    db.bundle.loadDialogs = ⟨db.readDialogs.value, db.missing ++ db.readDialogs.log, db.readDialogs.fault⟩ := by
  rw [loadDialogs, show db.bundle.schema? = some .dialog from rfl, show db.bundle.find? = db.find? from rfl,
    readDialogs, files, missing]
  cases db.find? dialogPath with
  | none => rfl
  | some e => rfl

/-- The scripts are collected from files of both kinds, where a later one does not replace an earlier. -/
lemma loadScripts_eq :
    db.loadScripts = collect false Path.stem db.readScript (db.files ".dlg" ++ db.files ".txt") Table.empty := by
  rw [loadScripts, files, files]
  cases db.find? dialogPath with
  | none => rfl
  | some e => exact collect_append _ _ _

/-- A script is the text of its file, if this can be read. -/
lemma valueOf_readScript (db : Database) (name : Text) (e : Entry) :
    valueOf (db.readScript name e) = e.readText.toOption :=
  Holds.valueOf_resultOf _ _

/-- Scripts are read as if the files that are passed over were not there. -/
lemma loadScripts_tried :
    db.loadScripts = collect true Path.stem db.readScript db.scriptFiles Table.empty := by
  rw [loadScripts_eq, collect_untaken]
  congr 1
  refine (List.filter_eq_self.mpr fun f _ => rfl).trans ?_
  simp only [scriptFiles, valueOf_readScript]

/-- Loading saved dialogs is given up at the first file with a fault. -/
lemma fault_readDialogs : db.readDialogs.fault = db.dialogFault? := by
  rw [readDialogs, fault_collect_eq, dialogFault?]
  simp only [faultOf_readDialog]

/-- Loading scripts is given up at the first file with a fault. -/
lemma fault_loadScripts : db.loadScripts.fault = db.scriptFault? := by
  rw [loadScripts_tried, fault_collect_eq, scriptFault?]
  simp only [readScript, faultOf_resultOf]

/-- A fault in a saved dialog leaves the database as it was, but for the schemas. -/
lemma load_of_dialogFault (own : db.Unextended) {f : Fault} (broken : db.dialogFault? = some f) :
    db.load = ⟨db.bundle, db.missing ++ db.readDialogs.log, some f⟩ := by
  have dialogs : (db.loadSchemas.bind fun db => db.put db.loadDialogs fun db t => { db with dialogs := t }) =
      ⟨db.bundle, db.missing ++ db.readDialogs.log, some f⟩ := by
    rw [loadSchemas_eq own, Loading.bind]
    dsimp only
    rw [put, loadDialogs_bundle, fault_readDialogs, broken]
    rfl
  rw [load, dialogs]
  rfl

/-- If all saved dialogs are read, the scripts are loaded after them. -/
lemma load_of_dialogs (own : db.Unextended) (read : db.dialogFault? = none) :
    db.load = ⟨if db.loadScripts.fault.isSome then { db.bundle with dialogs := db.readDialogs.value }
        else { db.bundle with dialogs := db.readDialogs.value, scripts := db.loadScripts.value },
      db.missing ++ db.readDialogs.log ++ db.loadScripts.log, db.loadScripts.fault⟩ := by
  have dialogs : (db.loadSchemas.bind fun db => db.put db.loadDialogs fun db t => { db with dialogs := t }) =
      ⟨{ db.bundle with dialogs := db.readDialogs.value }, db.missing ++ db.readDialogs.log, none⟩ := by
    rw [loadSchemas_eq own, Loading.bind]
    dsimp only
    rw [put, loadDialogs_bundle, fault_readDialogs, read]
    rfl
  rw [load, dialogs]
  rfl

/-! ## Files by name -/

/-- A longer path is followed from where the shorter one leads. -/
lemma find?_append (db : Database) (p : Path) (name : Text) :
    db.find? (p ++ [name]) = (db.find? p).bind (·.find? [name]) := by
  have inside (e : Entry) : e.find? (p ++ [name]) = (e.find? p).bind (·.find? [name]) := by
    induction p generalizing e with
    | nil => rfl
    | cons first p ih =>
      rw [List.cons_append, Entry.find?, Entry.find?]
      cases Table.lookup first e.entries with
      | none => rfl
      | some inner => exact ih inner
  rw [find?, find?]
  cases db.folder with
  | none => rfl
  | some e => exact inside e

/-- A file goes by the part of its name in front of the suffix, unless its name is the suffix. -/
lemma eq_append_of_stem {id suffix : Text} (known : suffix ∈ suffixes) (other : id ∉ suffixes) {name : Text}
    (ends : endsIn suffix name = true) (own : Path.stem name = id) : name = id ++ suffix := by
  obtain ⟨front, rfl⟩ : ∃ front, name = front ++ suffix := by
    obtain ⟨rest, found⟩ := Option.isSome_iff_exists.mp ends
    refine ⟨rest.reverse, ?_⟩
    rw [← List.reverse_reverse name, Text.eq_append_of_after? found, List.reverse_append, List.reverse_reverse]
  cases front with
  | nil =>
    have whole : ∀ suffix ∈ suffixes, Path.stem suffix = suffix := by decide
    exact absurd (own ▸ (whole suffix known).symm ▸ known) other
  | cons c t =>
    rw [stem_append known (List.cons_ne_nil c t)] at own
    rw [own]

/-- With distinct keys there is one pair with a key at most, and it is the one found. -/
lemma filter_eq_lookup {ν : Type} {pairs : List (Text × ν)} (distinct : (pairs.map Prod.fst).Nodup) (k : Text) :
    pairs.filter (·.1 = k) = ((Table.lookup k pairs).map fun v => (k, v)).toList := by
  induction pairs with
  | nil => rfl
  | cons p pairs ih =>
    obtain ⟨a, v⟩ := p
    obtain ⟨other, distinct⟩ := List.nodup_cons.mp distinct
    rw [Table.lookup]
    by_cases own : a = k
    · subst own
      rw [List.filter_cons_of_pos (by simp), ih distinct, Table.lookup_eq_none_iff.mpr other, if_pos rfl]
      rfl
    · rw [List.filter_cons_of_neg (by simpa using own), ih distinct, if_neg own]

/-- One file of a kind at most goes by an id, and it has the name that the id and the suffix make. -/
lemma filter_files (distinct : (db.entries.map Prod.fst).Nodup) {id : Text} (named : id ≠ []) (other : id ∉ suffixes)
    {suffix : String} (known : suffix.toList ∈ suffixes) : (db.files suffix).filter (Path.stem ·.1 = id) =
      ((db.find? (dialogPath ++ [id ++ suffix.toList])).map fun e => (id ++ suffix.toList, e)).toList := by
  rw [find?_append]
  unfold files
  unfold entries at distinct
  cases folder : db.find? dialogPath with
  | none => rfl
  | some e =>
    have distinct : (e.entries.map Prod.fst).Nodup := by
      rw [folder] at distinct
      exact distinct
    have sorted : ((matching suffix.toList e).map Prod.fst).Nodup :=
      ((List.mergeSort_perm _ _).map Prod.fst).nodup_iff.mpr (distinct.sublist ((List.filter_sublist).map Prod.fst))
    have ends : endsIn suffix.toList (id ++ suffix.toList) = true := by
      rw [endsIn_append id known known, decide_eq_true_eq]
    have same : Table.lookup (id ++ suffix.toList) (matching suffix.toList e) =
        Table.lookup (id ++ suffix.toList) e.entries := by
      refine Option.ext fun inner => ?_
      rw [Table.lookup_eq_some_iff sorted, Table.lookup_eq_some_iff distinct, mem_matching]
      exact and_iff_left ends
    refine Eq.trans ?_ ((filter_eq_lookup sorted (id ++ suffix.toList)).trans ?_)
    · refine List.filter_congr fun f mem => decide_eq_decide.mpr ⟨fun own => ?_, fun name => ?_⟩
      · exact eq_append_of_stem known other (mem_matching.mp mem).2 own
      · rw [name, stem_append known named]
    · rw [same]
      exact congrArg (fun x => (Option.map _ x).toList) (Entry.find?_name e _).symm

/-- What loading a database comes to. -/
structure Outcome (db : Database) : Prop where
  /-- Loading is given up at the first file that gives it up; the dialogs come before the scripts. -/
  fault : db.load.fault = db.dialogFault?.or db.scriptFault?
  faults : ∀ f, db.load.fault = some f →
    f = .undecodable ∨ f = .nestedTooDeep ∨ ∃ digits, f = .integerTooLong digits
  /-- Of the usable files that go by an id, the last one is taken. -/
  dialogs : db.dialogFault? = none → ∀ id, db.load.value.dialog? id =
    (((db.files ".json").filter (Path.stem ·.1 = id)).filterMap (db.savedIn? ·.2)).getLast?
  keptDialogs : db.dialogFault? ≠ none → db.load.value.dialogs = db.dialogs
  /-- Of the readable files that go by an id, the first one is taken. -/
  scripts : db.load.fault = none → ∀ id, db.load.value.script? id =
    (((db.files ".dlg" ++ db.files ".txt").filter (Path.stem ·.1 = id)).filterMap (·.2.readText.toOption)).head?
  keptScripts : db.load.fault ≠ none → db.load.value.scripts = db.scripts
  /-- The files of an id that is no suffix are told by their names. -/
  named : ∀ id, id ≠ [] → id ∉ suffixes →
    (db.dialogFault? = none → db.load.value.dialog? id =
      (db.find? (dialogPath ++ [id ++ ".json".toList])).bind db.savedIn?) ∧
    (db.load.fault = none → db.load.value.script? id =
      ((db.find? (dialogPath ++ [id ++ ".dlg".toList])).bind (·.readText.toOption)).or
        ((db.find? (dialogPath ++ [id ++ ".txt".toList])).bind (·.readText.toOption)))
  /-- Each file that is read and cannot be used is reported once, and nothing else is. -/
  log : db.load.fault = none → db.load.log = db.missing
    ++ (db.files ".json").filterMap (fun f => noticeOf (db.readDialog .dialog f.1 f.2))
    ++ db.scriptFiles.filterMap fun f => noticeOf (db.readScript f.1 f.2)
  /-- A report names its file, as an error. -/
  reports : ∀ (f : Text × Entry) n,
    (noticeOf (db.readDialog .dialog f.1 f.2) = some n ∨ noticeOf (db.readScript f.1 f.2) = some n) →
    n.entry.severity = .error ∧ (n = .unreadableFile (db.fullPath (dialogPath ++ [f.1])) ∨
      n = .invalidFile (db.fullPath (dialogPath ++ [f.1])))

/-- Looking at the one file that may be there, as a list and as an option. -/
lemma filterMap_toList {α : Type} (o : Option Entry) (name : Text) (h : Text × Entry → Option α) :
    (o.map fun e => (name, e)).toList.filterMap h = (o.bind fun e => h (name, e)).toList := by
  cases o with
  | none => rfl
  | some e => cases found : h (name, e) <;> simp [found]

/-- Loading is given up at a saved dialog if one has a fault, and else at a script. -/
lemma fault_load_eq (own : db.Unextended) : db.load.fault = db.dialogFault?.or db.scriptFault? := by
  cases broken : db.dialogFault? with
  | some f => rw [load_of_dialogFault own broken, Option.some_or]
  | none => rw [load_of_dialogs own broken, fault_loadScripts, Option.none_or]

/-- The saved dialogs are replaced by those loaded, unless loading them is given up. -/
lemma dialogs_load (own : db.Unextended) :
    db.load.value.dialogs = if db.dialogFault?.isSome then db.dialogs else db.readDialogs.value := by
  cases broken : db.dialogFault? with
  | some f =>
    rw [load_of_dialogFault own broken]
    rfl
  | none =>
    rw [load_of_dialogs own broken]
    cases db.loadScripts.fault with
    | some f => rfl
    | none => rfl

/-- The scripts are replaced by those loaded, unless loading is given up. -/
lemma scripts_load (own : db.Unextended) :
    db.load.value.scripts = if db.load.fault.isSome then db.scripts else db.loadScripts.value := by
  cases broken : db.dialogFault? with
  | some f =>
    rw [load_of_dialogFault own broken]
    rfl
  | none =>
    rw [load_of_dialogs own broken]
    cases db.loadScripts.fault with
    | some f => rfl
    | none => rfl

/-- Of the saved dialogs with a name, the last that is accepted is kept. -/
lemma dialog?_load (own : db.Unextended) (read : db.dialogFault? = none) (id : Text) : db.load.value.dialog? id =
    (((db.files ".json").filter (Path.stem ·.1 = id)).filterMap (db.savedIn? ·.2)).getLast? := by
  have whole : db.readDialogs.fault = none := fault_readDialogs.trans read
  rw [dialog?, dialogs_load own, read, if_neg (by simp), readDialogs, get?_collect_true whole]
  simp only [Holds.valueOf_readDialog]
  exact Option.or_none

/-- Of the scripts with a name, the first that can be read is kept. -/
lemma script?_load (own : db.Unextended) (whole : db.load.fault = none) (id : Text) : db.load.value.script? id =
    (((db.files ".dlg" ++ db.files ".txt").filter (Path.stem ·.1 = id)).filterMap (·.2.readText.toOption)).head? := by
  have read : db.loadScripts.fault = none := by
    rw [fault_load_eq own, Option.or_eq_none_iff] at whole
    rw [fault_loadScripts, whole.2]
  rw [script?, scripts_load own, whole, if_neg (by simp), loadScripts_eq]
  rw [loadScripts_eq] at read
  rw [get?_collect_false read]
  simp only [valueOf_readScript]
  exact Option.none_or

/-- What loading comes to for every content of the data folder: it is given up where a file's bytes are no text, an
integer in it is too long or a value in it nests too deep, and nowhere else. -/
theorem load_folder (own : db.Unextended) (distinct : (db.entries.map Prod.fst).Nodup) : db.Outcome where
  fault := fault_load_eq own
  faults f given := by
    rw [fault_load_eq own, Option.or_eq_some_iff] at given
    rcases given with dialog | ⟨-, script⟩
    · obtain ⟨x, -, broken⟩ := List.exists_of_findSome?_eq_some dialog
      exact Entry.fault?_readJson broken
    · obtain ⟨x, -, broken⟩ := List.exists_of_findSome?_eq_some script
      exact .inl (Entry.fault?_readText broken)
  dialogs := dialog?_load own
  keptDialogs broken := by
    rw [dialogs_load own, if_pos (Option.isSome_iff_ne_none.mpr broken)]
  scripts := script?_load own
  keptScripts broken := by
    rw [scripts_load own, if_pos (Option.isSome_iff_ne_none.mpr broken)]
  named id named other := by
    refine ⟨fun read => ?_, fun whole => ?_⟩
    · rw [dialog?_load own read, filter_files distinct named other (by decide), filterMap_toList]
      cases (db.find? (dialogPath ++ [id ++ ".json".toList])).bind db.savedIn? with
      | none => rfl
      | some j => rfl
    · rw [script?_load own whole, List.filter_append, filter_files distinct named other (by decide),
        filter_files distinct named other (by decide), List.filterMap_append, List.head?_append, filterMap_toList,
        filterMap_toList, Option.head?_toList, Option.head?_toList]
  log whole := by
    have parts := whole
    rw [fault_load_eq own, Option.or_eq_none_iff] at parts
    have first : db.readDialogs.fault = none := fault_readDialogs.trans parts.1
    have second : db.loadScripts.fault = none := fault_loadScripts.trans parts.2
    rw [loadScripts_tried] at second
    rw [load_of_dialogs own parts.1, loadScripts_tried, log_collect second]
    dsimp only
    rw [readDialogs, log_collect first]
  reports f n reported := by
    have named := reported.elim (noticeOf_readDialog db f.1 f.2) (noticeOf_readScript db f.1 f.2)
    refine ⟨?_, named⟩
    rcases named with rfl | rfl
    · rfl
    · rfl

/-- Files that are sorted already are taken in the order in which they stand. -/
lemma matching_of_sorted {suffix : Text} {e : Entry}
    (sorted : (e.entries.filter fun x => endsIn suffix x.1).Pairwise fun a b => Text.isBefore a.1 b.1 = true) :
    matching suffix e = e.entries.filter fun x => endsIn suffix x.1 :=
  List.mergeSort_of_pairwise sorted

/-- The database of a folder of dialogs. -/
def ofEntries (entries : List (Text × Entry)) : Database where
  location := "data".toList
  folder := some (.folder [("database".toList, .folder [("dialog".toList, .folder entries)])])

/-- A folder with two files of one id, a file that is no JSON text and a folder that is named like a script. -/
theorem load_folder_passedOver :
    let text : Entry := .file "#a".toUTF8
    let db := ofEntries [("a.txt".toList, .file "#b".toUTF8), ("a.dlg".toList, text),
      ("c.json".toList, .file "[".toUTF8), ("d.txt".toList, .folder [])]
    db.Unextended ∧ (db.entries.map Prod.fst).Nodup ∧ db.Outcome ∧ db.load.fault = none ∧
      db.load.value.script? "a".toList = text.readText.toOption ∧
      db.load.log = [.unreadableFile "data/database/dialog/c.json".toList,
        .unreadableFile "data/database/dialog/d.txt".toList] := by
  intro text db
  have own : db.Unextended := nofun
  have distinct : (db.entries.map Prod.fst).Nodup := by decide
  have outcome := load_folder own distinct
  have json : db.files ".json" = [("c.json".toList, .file "[".toUTF8)] := matching_of_sorted (by decide)
  have dlg : db.files ".dlg" = [("a.dlg".toList, text)] := matching_of_sorted (by decide)
  have txt : db.files ".txt" = [("a.txt".toList, .file "#b".toUTF8), ("d.txt".toList, .folder [])] :=
    matching_of_sorted (by decide)
  have whole : db.load.fault = none := by
    rw [outcome.fault, dialogFault?, scriptFault?, scriptFiles, json, dlg, txt]
    decide +kernel
  refine ⟨own, distinct, outcome, whole, ?_, ?_⟩
  · rw [(outcome.named "a".toList (by decide) (by decide)).2 whole]
    decide +kernel
  · rw [outcome.log whole, scriptFiles, json, dlg, txt]
    decide +kernel

/-- One script that is no text keeps every script out of the database, and nothing is reported of it. -/
theorem load_undecodable :
    let text : Entry := .file "#a\nA: hi".toUTF8
    let db := ofEntries [("a.dlg".toList, text), ("b.dlg".toList, .file (ByteArray.mk #[0xff]))]
    text.readText = .ok "#a\nA: hi".toList ∧ db.load.fault = some .undecodable ∧
      db.load.value.script? "a".toList = none ∧ db.load.log = [] := by
  intro text db
  have own : db.Unextended := nofun
  have json : db.files ".json" = [] := matching_of_sorted (by decide)
  have dlg : db.files ".dlg" = [("a.dlg".toList, text), ("b.dlg".toList, .file (ByteArray.mk #[0xff]))] :=
    matching_of_sorted (by decide)
  have txt : db.files ".txt" = [] := matching_of_sorted (by decide)
  have read : db.dialogFault? = none := by
    rw [dialogFault?, json]
    rfl
  have broken : db.scriptFault? = some .undecodable := by
    rw [scriptFault?, scriptFiles, dlg, txt]
    decide +kernel
  have fault : db.load.fault = some .undecodable := by
    rw [fault_load_eq own, read, Option.none_or, broken]
  refine ⟨by decide +kernel, fault, ?_, ?_⟩
  · rw [script?, scripts_load own, fault]
    rfl
  · rw [load_of_dialogs own read, loadScripts_eq, readDialogs, json, dlg, txt]
    decide +kernel

end Database

end Parley
