import Parley.Dialog.Saved
import Parley.Proofs.Json.Records

/-!
# Saved dialogs are read back

The types of records that dialogs are saved in are faithful, each by way of the types of its parts.

* `Dialog.faithful`: every dialog is read back from its JSON value, which nests eight deep.

`Dialog.parse_render` closes the file: every dialog is also read back from its text, in every layout.
-/

namespace Parley

open Json

section Fields

variable {σ : Type} {blank : σ} {depth : Nat} (name longName : String)

/-- A field for a text copies it, if the blank record has none there. -/
lemma keeps_textField {get : σ → Text} {put : σ → Text → σ} (empty : get blank = []) :
    (textField name longName get put).Keeps blank depth fun r acc => put acc (get r) :=
  RecordField.keeps_of name longName Codec.faithful_text fun _ h => by rw [empty, List.isEmpty_iff.mp h]

/-- A field for a flag copies it, if the blank record has it off. -/
lemma keeps_flagField {get : σ → Bool} {put : σ → Bool → σ} (off : get blank = false) :
    (flagField name longName get put).Keeps blank depth fun r acc => put acc (get r) :=
  RecordField.keeps_of name longName Codec.faithful_bool fun x h => by
    cases x with
    | false => exact off.symm
    | true => cases h

/-- A field for a list copies it, if its items come back and the blank record has none. -/
lemma keeps_listField {α : Type} {c : Codec α} (faithful : c.Faithful depth) {get : σ → List α}
    {put : σ → List α → σ} (empty : get blank = []) :
    (listField name longName c get put).Keeps blank (depth + 1) fun r acc => put acc (get r) :=
  RecordField.keeps_of name longName faithful.list fun _ h => by rw [empty, List.isEmpty_iff.mp h]

/-- A field for a record copies it, if that type comes back and the blank record holds a blank one. -/
lemma keeps_recordField {α : Type} [DecidableEq α] {t : RecordType α} (faithful : t.Faithful depth) {get : σ → α}
    {put : σ → α → σ} (same : get blank = t.blank) :
    (recordField name longName t get put).Keeps blank (depth + 1) fun r acc => put acc (get r) :=
  RecordField.keeps_of name longName (RecordType.faithful_codec faithful) fun _ h => by rw [same, eq_of_beq h]

end Fields

variable {depth : Nat}

/-- Responses come back from JSON as they were. -/
lemma Response.faithful : Response.type.Faithful depth where
  fields := by
    refine ⟨_, .cons (keeps_textField _ _ rfl) <| .cons (keeps_textField _ _ rfl) .nil, fun r => ?_⟩
    exact .cons rfl (.cons rfl .nil)
  names := by decide
  apart := by decide

/-- Assignments come back from JSON as they were. -/
lemma Assignment.faithful : Assignment.type.Faithful depth where
  fields := by
    refine ⟨_, .cons (keeps_textField _ _ rfl) <| .cons (keeps_textField _ _ rfl) .nil, fun r => ?_⟩
    exact .cons rfl (.cons rfl .nil)
  names := by decide
  apart := by decide

/-- Queries come back from JSON as they were. -/
lemma Query.faithful : Query.type.Faithful (depth + 2) where
  fields := by
    have responses : Response.type.codec.Faithful (depth + 1) := RecordType.faithful_codec Response.faithful
    refine ⟨_, .cons (keeps_textField _ _ rfl) <| .cons (keeps_textField _ _ rfl) <|
      .cons (keeps_listField _ _ responses rfl) .nil, fun r => ?_⟩
    exact .cons rfl (.cons rfl (.cons rfl .nil))
  names := by decide
  apart := by decide

/-- Lines come back from JSON as they were. -/
lemma Line.faithful : Line.type.Faithful (depth + 3) where
  fields := by
    have responses : Response.type.codec.Faithful (depth + 2) := RecordType.faithful_codec Response.faithful
    refine ⟨_, .cons (keeps_textField _ _ rfl) <| .cons (keeps_textField _ _ rfl) <|
      .cons (keeps_textField _ _ rfl) <| .cons (keeps_textField _ _ rfl) <|
      .cons (keeps_textField _ _ rfl) <| .cons (keeps_textField _ _ rfl) <|
      .cons (keeps_textField _ _ rfl) <| .cons (keeps_listField _ _ responses rfl) <|
      .cons (keeps_flagField _ _ rfl) <| .cons (keeps_textField _ _ rfl) <|
      .cons (keeps_textField _ _ rfl) <| .cons (keeps_textField _ _ rfl) <|
      .cons (keeps_flagField _ _ rfl) <| .cons (keeps_flagField _ _ rfl) <|
      .cons (keeps_recordField _ _ Assignment.faithful rfl) <| .cons (keeps_textField _ _ rfl) <|
      .cons (keeps_recordField _ _ Query.faithful rfl) <| .cons (keeps_textField _ _ rfl) .nil, fun r => ?_⟩
    repeat refine .cons rfl ?_
    exact .nil
  names := by decide
  apart := by decide

/-- Nodes come back from JSON as they were. -/
lemma Node.faithful : Node.type.Faithful 5 where
  fields := by
    have lines : Line.type.codec.Faithful 4 := RecordType.faithful_codec Line.faithful
    refine ⟨_, .cons (keeps_textField _ _ rfl) <| .cons (keeps_listField _ _ lines rfl) <|
      .cons (keeps_textField _ _ rfl) .nil, fun r => ?_⟩
    exact .cons rfl (.cons rfl (.cons rfl .nil))
  names := by decide
  apart := by decide

/-- Every dialog is read back from its JSON value. -/
theorem Dialog.faithful : Dialog.type.Faithful 7 where
  fields := by
    have nodes := RecordType.faithful_codec Node.faithful
    refine ⟨_, .cons (keeps_textField _ _ rfl) <| .cons (keeps_listField _ _ nodes rfl) <|
      .cons (keeps_textField _ _ rfl) <| .cons (keeps_textField _ _ rfl) .nil, fun r => ?_⟩
    exact .cons rfl (.cons rfl (.cons rfl (.cons rfl .nil)))
  names := by decide
  apart := by decide

/-- Every dialog is read back from its JSON value and, in every layout, from its text; no other dialog is written as
the same text, in whatever layout. -/
theorem Dialog.parse_render (layout : Layout) (d : Dialog) :
    Dialog.type.parse (Dialog.type.render layout d) = .ok d ∧ Dialog.type.read (Dialog.type.write d) = .ok d ∧
      ∀ (layout' : Layout) (d' : Dialog), d' ≠ d → Dialog.type.render layout' d' ≠ Dialog.type.render layout d := by
  have shallow : Dialect.guarded.Holds 0 8 := show 0 + 8 ≤ 200 by decide
  have parsed (layout : Layout) (d : Dialog) : Dialog.type.parse (Dialog.type.render layout d) = .ok d := by
    rw [RecordType.parse, RecordType.render, read_render shallow layout (Dialog.faithful.plain d)]
    exact Dialog.faithful.read_write d
  refine ⟨parsed layout d, Dialog.faithful.read_write d, fun layout' d' different same => different ?_⟩
  apply Except.ok.inj (ε := List Issue)
  rw [← parsed layout' d', same, parsed layout d]

/-- A quotation mark and an escaped one are told apart, also between a text on one line and a text on many. -/
theorem Dialog.render_quotation :
    let d : Dialog := { nodes := [{ lines := [{ text := "\"".toList, setVar := { key := "\u0000".toList } }] }] }
    let d' : Dialog := { nodes := [{ lines := [{ text := "\\\"".toList, setVar := { key := "\u0000".toList } }] }] }
    d' ≠ d ∧ Dialog.type.parse (Dialog.type.render none d) = .ok d ∧
      Dialog.type.render (some 2) d' ≠ Dialog.type.render none d := by
  intro d d'
  have different : d' ≠ d := by decide
  obtain ⟨parsed, -, apart⟩ := parse_render none d
  exact ⟨different, parsed, apart (some 2) d' different⟩

end Parley
