import Parley.Proofs.Library.Accepted
import Parley.Proofs.Library.Loaded
import Parley.Script.File

/-!
# Compiled scripts in a library

A library finds the same dialog under an id, whether it holds a script or what the script is compiled to.

* `Entry.readText_file`: a text without carriage returns is read back from the file that holds it.
* `Entry.readJson_render`: a value that is written to a file is read back from it.
* `Script.exists_of_compileFile`: what is compiled is the text of the file.

`Library.get_compiled` closes the file: a compiled script is refused if one of its nodes has no name; otherwise
it gives the dialog of the script.
-/

namespace Parley

open Json

/-- There are no line ends to unify in a text without carriage returns. -/
lemma Text.unifyNewlines_of_not_mem {t : Text} (clean : '\r' ∉ t) : unifyNewlines t = t := by
  fun_induction unifyNewlines t with
  | case1 t ih => exact absurd List.mem_cons_self clean
  | case2 t _ ih => exact absurd List.mem_cons_self clean
  | case3 c t _ _ ih => rw [ih fun mem => clean (List.mem_cons_of_mem c mem)]
  | case4 => rfl

/-- A text without carriage returns is read back from the file that holds it. -/
lemma Entry.readText_file {t : Text} (clean : '\r' ∉ t) : (Entry.file t.str.toUTF8).readText = .ok t := by
  have decoded : String.fromUTF8? t.str.toUTF8 = some t.str := dif_pos t.str.isValidUTF8
  rw [readText, Text.ofBytes?, decoded, Option.map_some, Text.str, String.toList_ofList,
    Text.unifyNewlines_of_not_mem clean]

/-- A value that is written to a file is read back from it, if it nests no deeper than in texts that arrive. -/
lemma Entry.readJson_render {depth : Nat} (shallow : Dialect.guarded.Holds 0 depth) {j : Json} (plain : Plain depth j)
    (layout : Layout) (room : Room) : (Entry.file (render layout j).str.toUTF8).readJson room = .ok j := by
  have holds : (Dialect.trusting room).Holds 0 depth := Nat.le_trans shallow room.ample
  have read : Json.read (.trusting room) (render layout j) = .ok j := read_render holds layout plain
  have text : (Entry.file (render layout j).str.toUTF8).readText = .ok (render layout j) :=
    readText_file (not_mem_render layout plain)
  rw [readJson, text]
  dsimp only
  rw [read]

/-- What a script is compiled to is read back from a file. -/
lemma Entry.readJson_compile (strict : Bool) (t : Text) (room : Room) :
    (Entry.file (Script.compile strict t).str.toUTF8).readJson room =
      .ok (Dialog.type.write (Script.parse strict t [])) := by
  have shallow : Dialect.guarded.Holds 0 8 := show 0 + 8 ≤ 200 by decide
  exact readJson_render shallow (Dialog.faithful.plain (Script.parse strict t [])) (some 2) room

namespace Script

/-- A source that is read is the text of a file in its place. -/
lemma exists_of_sourceAt {root : Entry} {p : Path} {t : Text} (read : sourceAt root p = .ok t) :
    ∃ bytes, root.find? p = some (.file bytes) ∧ (Entry.file bytes).readText = .ok t := by
  rw [sourceAt] at read
  split at read
  · cases read
  · rename_i e found
    cases e with
    | folder es => cases read
    | file bytes =>
      refine ⟨bytes, found, ?_⟩
      split at read
      · rename_i text
        cases read
        exact text
      · cases read
      · cases read

/-- What is compiled is the text of the file. -/
lemma exists_of_compileFile {strict : Bool} {root : Entry} {p path : Path} {target : Option Path} {out : Text}
    (compiled : compileFile strict root p target = .ok (path, out)) :
    ∃ bytes t, root.find? p = some (.file bytes) ∧ (Entry.file bytes).readText = .ok t ∧ out = compile strict t := by
  rw [compileFile] at compiled
  split at compiled
  · cases compiled
  · rename_i t read
    obtain ⟨bytes, found, text⟩ := exists_of_sourceAt read
    refine ⟨bytes, t, found, text, ?_⟩
    split at compiled
    · cases compiled
      rfl
    · cases compiled

/-- A script file is compiled beside itself. -/
lemma compileFile_folder (strict : Bool) {id t : Text} (named : id ≠ []) (clean : '\r' ∉ t) :
    compileFile strict (.folder [(id ++ ".dlg".toList, .file t.str.toUTF8)]) [id ++ ".dlg".toList] none =
      .ok ([id ++ ".json".toList], compile strict t) := by
  have found : (Entry.folder [(id ++ ".dlg".toList, .file t.str.toUTF8)]).find? [id ++ ".dlg".toList] =
      some (.file t.str.toUTF8) := by
    simp [Entry.find?, Entry.entries, Table.lookup]
  rw [compileFile, sourceAt, found]
  dsimp only
  rw [Entry.readText_file clean, Option.getD_none, Path.withSuffix, List.getLast?_singleton]
  dsimp only
  rw [Database.stem_append (by decide) named]
  rfl

/-- A start name replaces the one that the script gives, unless it is empty. -/
lemma parse_start (strict : Bool) (t start : Text) : parse strict t start =
    if start.isEmpty then parse strict t [] else { parse strict t [] with start := start } := by
  cases start with
  | nil => rfl
  | cons c start => rfl

end Script

namespace Library

/-- The library of a database that has been loaded. -/
def ofDatabase (db : Database) (strict : Bool) : Library :=
  { database := db.load.value, strict := strict }

/-- A library that holds a script gives the dialog of the script. -/
lemma get_script {db : Database} {id suffix : Text} {bytes : ByteArray} (holds : db.Holds id suffix bytes)
    (other : ".json".toList ≠ suffix) {t : Text} (text : (Entry.file bytes).readText = .ok t) (strict : Bool)
    (start : Text) : (ofDatabase db strict).get id start = .ok (Script.parse strict t start) := by
  have saved : (ofDatabase db strict).saved? id = none := by
    rw [saved?, ofDatabase, holds.dialog?_load, if_neg other]
  have script : (ofDatabase db strict).database.script? id = some t := by
    rw [ofDatabase, holds.script?_load, if_neg other, text]
    rfl
  rw [get, saved, script]
  rfl

/-- A library that holds what a script is compiled to gives the dialog of the script, or nothing if one of its
nodes has no name. -/
lemma get_compile {db : Database} {id t : Text} {strict : Bool}
    (holds : db.Holds id ".json".toList (Script.compile strict t).str.toUTF8) (start : Text) :
    (ofDatabase db strict).get id start =
      if (Script.parse strict t start).nodes.all (!·.name.isEmpty) then .ok (Script.parse strict t start)
      else .error (.unknownScript id) := by
  have nodes : (Script.parse strict t start).nodes = (Script.parse strict t []).nodes := rfl
  have accepted : Schema.dialog.accepts (Dialog.type.write (Script.parse strict t [])) =
      (Script.parse strict t []).nodes.all (!·.name.isEmpty) := by
    rw [Bool.eq_iff_iff, Schema.accepts_dialog, List.all_eq_true]
    simp
  have dialog : (ofDatabase db strict).database.dialog? id =
      (some (Dialog.type.write (Script.parse strict t []))).filter Schema.dialog.accepts := by
    rw [ofDatabase, holds.dialog?_load, if_pos rfl, Entry.readJson_compile]
    rfl
  rw [Option.filter_some, accepted] at dialog
  rw [nodes]
  split
  · rename_i named
    have saved : (ofDatabase db strict).saved? id = some (Dialog.type.write (Script.parse strict t [])) := by
      rw [saved?, dialog, if_pos named]
      rfl
    rw [get, saved, Script.parse_start strict t start]
    dsimp only
    rw [Dialog.faithful.read_write]
  · rename_i unnamed
    have saved : (ofDatabase db strict).saved? id = none := by
      rw [saved?, dialog, if_neg unnamed]
    have script : (ofDatabase db strict).database.script? id = none := by
      rw [ofDatabase, holds.script?_load, if_pos rfl]
    rw [get, saved, script]

/-- The dialog of a script is the same whether a library holds the script or what it is compiled to, unless one of
its nodes has no name: then, and only then, the schema refuses what it is compiled to. -/
theorem get_compiled {strict : Bool} {root : Entry} {p path : Path} {target : Option Path} {out : Text}
    (compiled : Script.compileFile strict root p target = .ok (path, out)) {bytes : ByteArray}
    (source : root.find? p = some (.file bytes)) {id suffix : Text} (kind : suffix ≠ ".json".toList)
    {db db' : Database} (script : db.Holds id suffix bytes) (saved : db'.Holds id ".json".toList out.str.toUTF8)
    (start : Text) :
    ∃ d j, (ofDatabase db strict).get id start = .ok d ∧ (Entry.file out.str.toUTF8).readJson db'.room = .ok j ∧
      (Schema.dialog.accepts j = true ↔ ∀ n ∈ d.nodes, n.name ≠ []) ∧
      ((∀ n ∈ d.nodes, n.name ≠ []) → (ofDatabase db' strict).get id start = .ok d) ∧
      ((∃ n ∈ d.nodes, n.name = []) → (ofDatabase db' strict).get id start = .error (.unknownScript id)) := by
  obtain ⟨bytes', t, found, text, rfl⟩ := Script.exists_of_compileFile compiled
  cases source.symm.trans found
  refine ⟨Script.parse strict t start, _, get_script script kind.symm text strict start,
    Entry.readJson_compile strict t _, Schema.accepts_dialog _, fun named => ?_, fun ⟨n, mem, blank⟩ => ?_⟩
  · rw [get_compile saved start, if_pos]
    simpa using named
  · rw [get_compile saved start, if_neg]
    simp only [List.all_eq_true, not_forall]
    exact ⟨n, mem, by simp [blank]⟩

/-- The databases of a script and of what it is compiled to. -/
lemma holds_of_script (strict : Bool) {id t : Text} (named : id ≠ []) (clean : '\r' ∉ t) :
    (Database.ofFile (id ++ ".dlg".toList) t.str.toUTF8).Holds id ".dlg".toList t.str.toUTF8 ∧
      (Database.ofFile (id ++ ".json".toList) (Script.compile strict t).str.toUTF8).Holds id ".json".toList
        (Script.compile strict t).str.toUTF8 := by
  have read := Entry.readJson_compile strict t .usual
  have compiled := not_mem_render (some 2) (Dialog.faithful.plain (Script.parse strict t []))
  exact ⟨Database.holds_ofFile (by decide) named ⟨t, Entry.readText_file clean⟩ (fun e => absurd e (by decide)),
    Database.holds_ofFile (by decide) named ⟨_, Entry.readText_file compiled⟩ (fun _ => ⟨_, read⟩)⟩

/-- A script of one named node, started elsewhere. -/
theorem get_compiled_greeting :
    let t : Text := "#a\nA: hi".toList
    let out : Text := Script.compile false t
    ∃ d, (ofDatabase (.ofFile "x.dlg".toList t.str.toUTF8) false).get "x".toList "b".toList = .ok d ∧
      (ofDatabase (.ofFile "x.json".toList out.str.toUTF8) false).get "x".toList "b".toList = .ok d ∧
      d.start = "b".toList := by
  have clean : '\r' ∉ "#a\nA: hi".toList := by decide
  have named : "x".toList ≠ [] := by decide
  obtain ⟨script, saved⟩ := holds_of_script false named clean
  obtain ⟨d, -, gives, -, -, same, -⟩ := get_compiled (Script.compileFile_folder false named clean) rfl (by decide)
    script saved "b".toList
  have dialog := get_script script (by decide) (Entry.readText_file clean) false "b".toList
  cases gives.symm.trans dialog
  exact ⟨_, gives, same (by decide +kernel), rfl⟩

/-- What is compiled of a node without a name is refused, while the script itself gives a dialog. -/
theorem get_nameless :
    let t : Text := "#\nA: hi".toList
    let out : Text := Script.compile false t
    Script.compileFile false (.folder [("x.dlg".toList, .file t.str.toUTF8)]) ["x.dlg".toList] none =
        .ok (["x.json".toList], out) ∧
      (ofDatabase (.ofFile "x.dlg".toList t.str.toUTF8) false).get "x".toList [] =
        .ok { nodes := [{ lines := [{ speaker := "A".toList, text := "hi".toList }] }] } ∧
      (ofDatabase (.ofFile "x.json".toList out.str.toUTF8) false).get "x".toList [] =
        .error (.unknownScript "x".toList) ∧
      ∃ j, (Entry.file out.str.toUTF8).readJson .usual = .ok j ∧ Schema.dialog.accepts j = false := by
  have clean : '\r' ∉ "#\nA: hi".toList := by decide
  have named : "x".toList ≠ [] := by decide
  obtain ⟨script, saved⟩ := holds_of_script false named clean
  have dialog : Script.parse false "#\nA: hi".toList [] =
      { nodes := [{ lines := [{ speaker := "A".toList, text := "hi".toList }] }] } := by
    decide +kernel
  refine ⟨Script.compileFile_folder false named clean, ?_, ?_, _, Entry.readJson_compile false _ _, ?_⟩
  · rw [← dialog]
    exact get_script script (by decide) (Entry.readText_file clean) false []
  · refine (get_compile saved []).trans ?_
    rw [dialog]
    rfl
  · rw [← Bool.not_eq_true, Schema.accepts_dialog, dialog]
    decide

end Library

end Parley
