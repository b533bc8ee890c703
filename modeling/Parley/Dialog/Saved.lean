import Parley.Dialog.Basic
import Parley.Json.Record

/-!
# Saved dialogs

The fields of the parts of a dialog in JSON, in the order in which they are written.
-/

namespace Parley

open Json

/-- A field that holds a text and is blank when it is empty. -/
def textField {σ : Type} (name longName : String) (get : σ → Text) (put : σ → Text → σ) :
    RecordField σ :=
  .of name longName .text List.isEmpty get put

/-- A field that holds a truth value and is blank when it is false. -/
def flagField {σ : Type} (name longName : String) (get : σ → Bool) (put : σ → Bool → σ) :
    RecordField σ :=
  .of name longName .bool (!·) get put

/-- A field that holds a list and is blank when it is empty. -/
def listField {σ α : Type} (name longName : String) (c : Codec α) (get : σ → List α)
    (put : σ → List α → σ) : RecordField σ :=
  .of name longName (.list c) List.isEmpty get put

/-- A field that holds a record and is blank when the record is. -/
def recordField {σ α : Type} [DecidableEq α] (name longName : String) (t : RecordType α) (get : σ → α)
    (put : σ → α → σ) : RecordField σ :=
  .of name longName t.codec (· == t.blank) get put

/-- Responses as JSON objects. -/
def Response.type : RecordType Response where
  blank := {}
  fields := [
    textField "text" "text" text fun r x => { r with text := x },
    textField "link" "link" link fun r x => { r with link := x }]

/-- Assignments as JSON objects. -/
def Assignment.type : RecordType Assignment where
  blank := {}
  fields := [
    textField "key" "key" key fun r x => { r with key := x },
    textField "value" "value" value fun r x => { r with value := x }]

/-- Queries as JSON objects. -/
def Query.type : RecordType Query where
  blank := {}
  fields := [
    textField "text" "text" text fun r x => { r with text := x },
    textField "description" "description" description fun r x => { r with description := x },
    listField "responses" "responses" Response.type.codec responses fun r x =>
      { r with responses := x }]

/-- Images as JSON objects. -/
def InlineImage.type : RecordType InlineImage where
  blank := {}
  fields := [
    textField "textToReplace" "text_to_replace" textToReplace fun r x => { r with textToReplace := x },
    textField "image" "image" image fun r x => { r with image := x },
    .of "scale" "scale" .positive (· == 1) scale fun r x => { r with scale := x }]

/-- Lines as JSON objects. -/
def Line.type : RecordType Line where
  blank := {}
  fields := [
    textField "speaker" "speaker" speaker fun r x => { r with speaker := x },
    textField "text" "text" text fun r x => { r with text := x },
    textField "portrait" "portrait" portrait fun r x => { r with portrait := x },
    textField "typing" "typing" typing fun r x => { r with typing := x },
    textField "sound" "sound" sound fun r x => { r with sound := x },
    textField "voice" "voice" voice fun r x => { r with voice := x },
    textField "link" "link" link fun r x => { r with link := x },
    listField "responses" "responses" Response.type.codec responses fun r x =>
      { r with responses := x },
    flagField "exit" "exit" exit fun r x => { r with exit := x },
    textField "ifVar" "if_var" ifVar fun r x => { r with ifVar := x },
    textField "ifFunction" "if_function" ifFunction fun r x => { r with ifFunction := x },
    textField "ifDialogCount" "if_dialog_count" ifDialogCount fun r x => { r with ifDialogCount := x },
    flagField "elseIf" "else_if" elseIf fun r x => { r with elseIf := x },
    flagField "endIf" "end_if" endIf fun r x => { r with endIf := x },
    recordField "setVar" "set_var" Assignment.type setVar fun r x => { r with setVar := x },
    textField "callFunction" "call_function" callFunction fun r x => { r with callFunction := x },
    recordField "query" "query" Query.type query fun r x => { r with query := x },
    textField "data" "data" data fun r x => { r with data := x }]

/-- Nodes as JSON objects. -/
def Node.type : RecordType Node where
  blank := {}
  fields := [
    textField "name" "name" name fun r x => { r with name := x },
    listField "lines" "lines" Line.type.codec lines fun r x => { r with lines := x },
    textField "data" "data" data fun r x => { r with data := x }]

/-- Dialogs as JSON objects. -/
def Dialog.type : RecordType Dialog where
  blank := {}
  fields := [
    textField "start" "start" start fun r x => { r with start := x },
    listField "nodes" "nodes" Node.type.codec nodes fun r x => { r with nodes := x },
    textField "windowType" "window_type" windowType fun r x => { r with windowType := x },
    textField "data" "data" data fun r x => { r with data := x }]

end Parley
