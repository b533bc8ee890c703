import Parley.Proofs.Script.Sequels
import Parley.Proofs.Script.Written

/-!
# Offers

A line of a script that offers a response adds it to the line before, and does nothing else.

* `Statement.ofLine_dashed_speech`: a line that begins with a dash says something if it holds a colon.

`response_joins` closes the file, with `colon_speaks` on why colons matter: a label that holds one is taken for a
speaker.
-/

namespace Parley.Script

/-- A line that begins with a dash says something if it holds a colon. -/
lemma Statement.ofLine_dashed_speech {line : Text} (dash : line.head? = some '-') (colon : ':' ∈ line) :
    ∃ speaker said, Text.cut [':'] line = some (speaker, said) ∧
      ofLine true line = .lines [{ speaker := Text.trim speaker, text := Text.trim said }] := by
  rw [ofLine_dash dash]
  cases cuts : Text.cut [':'] line with
  | none => exact absurd colon (Text.cut_eq_none_iff.mp cuts)
  | some sides => exact ⟨sides.1, sides.2, rfl, rfl⟩

/-- A line of a lenient script that begins with a dash, holds an arrow and no colon adds one response to the line that
was emitted last, behind those that this line has already. The label is what stands before the first arrow. Without it
the dialog has the same nodes and lines, with all of their other responses. A colon makes it a line of its own. -/
theorem response_joins {t raw label target name : Text} {pre post : List Text} {l : Line} {before : List Line}
    (start : Text) (whole : Text.lines t = pre ++ raw :: post)
    (inside : (pre.foldl (Draft.addLine false) {}).current = some (name, l :: before))
    (dash : (Text.trim raw).head? = some '-') (arrows : Text.cut arrow (Text.trim raw) = some (label, target)) :
    let d := pre.foldl (Draft.addLine false) {}
    ∃ later more follow,
      (∀ t', Text.lines t' = pre ++ post → (parse false t' start).nodes = d.done.reverse ++ { name := name, lines :=
        before.reverse ++ { l with responses := l.responses ++ later } :: more } :: follow) ∧
      (':' ∉ Text.trim raw → (parse false t start).nodes = d.done.reverse ++ { name := name, lines :=
        before.reverse ++ { l with
          responses := l.responses ++ ⟨Text.trim (label.drop 1), formatLink target⟩ :: later } :: more } :: follow) ∧
      (':' ∈ Text.trim raw → ∃ speaker said, Text.cut [':'] (Text.trim raw) = some (speaker, said) ∧
        (parse false t start).nodes = d.done.reverse ++ { name := name, lines :=
          before.reverse ++ l :: { speaker := Text.trim speaker, text := Text.trim said, responses := later } ::
            more } :: follow) := by
  intro d
  refine ⟨(Sequel.ofLines false post).responses, (Sequel.ofLines false post).lines,
    (Sequel.ofLines false post).nodes, fun t' less => ?_, fun colon => ?_, fun colon => ?_⟩
  · rw [parse_sequel start less inside, Draft.followedBy_of_inside inside, offer_of_taken rfl]
    simp [d]
  · have means := Statement.ofLine_offer dash colon arrows
    rw [parse_sequel start whole inside, Draft.followedBy_of_inside inside, offer_of_taken rfl, Sequel.ofLines, means]
    simp [d, Sequel.after]
  · obtain ⟨speaker, said, cuts, means⟩ := Statement.ofLine_dashed_speech dash colon
    refine ⟨speaker, said, cuts, ?_⟩
    rw [parse_emitted start whole inside means]
    simp [d, offer_of_taken]

/-- The second of three responses. -/
theorem response_joins_second :
    let t := "#a\nA: hi\n- x => #y\n -  yes => => # b \n- z => #c".toList
    let first : Line := { speaker := ['A'], text := "hi".toList, responses := [⟨['x'], ['y']⟩] }
    ∃ later more follow,
      (parse false "#a\nA: hi\n- x => #y\n- z => #c".toList []).nodes =
        { name := ['a'], lines := { first with responses := first.responses ++ later } :: more } :: follow ∧
      (parse false t []).nodes = { name := ['a'], lines :=
        { first with responses := first.responses ++ ⟨"yes".toList, "=> # b".toList⟩ :: later } :: more } :: follow := by
  intro t first
  have whole : Text.lines t = ["#a".toList, "A: hi".toList, "- x => #y".toList] ++ " -  yes => => # b ".toList ::
      ["- z => #c".toList] := by decide +kernel
  have inside : (["#a".toList, "A: hi".toList, "- x => #y".toList].foldl (Draft.addLine false) {}).current =
      some (['a'], first :: []) := by decide +kernel
  have arrows : Text.cut arrow (Text.trim " -  yes => => # b ".toList) = some ("-  yes ".toList, " => # b".toList) := by
    decide +kernel
  obtain ⟨later, more, follow, without, joined, -⟩ := response_joins [] whole inside (by decide +kernel) arrows
  exact ⟨later, more, follow, without _ (by decide +kernel), joined (by decide +kernel)⟩

/-- A label that holds a colon is taken for a speaker. -/
theorem colon_speaks :
    let raw := "- Sure: why not => #b".toList
    let first : Line := { speaker := ['A'], text := "hi".toList }
    (["#a".toList, "A: hi".toList].foldl (Draft.addLine false) {}).current = some (['a'], [first]) ∧
      raw.head? = some '-' ∧ Text.cut arrow raw = some ("- Sure: why not ".toList, " #b".toList) ∧
      (parse false ("#a\nA: hi\n".toList ++ raw) []).nodes = [{ name := ['a'], lines :=
        [first, { speaker := "- Sure".toList, text := "why not => #b".toList }] }] := by
  decide +kernel

end Parley.Script
