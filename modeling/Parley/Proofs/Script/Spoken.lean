import Parley.Proofs.Script.Sequels
import Parley.Proofs.Script.Written

/-!
# Spoken lines

A line of a script with a speaker and a colon says something, unless its speaker is taken for a directive.

* `Text.upper_of_blank`: blanks have no capital form of their own.
* `speaker_of_trim`: blanks behind a speaker do not make it a directive.
* `Statement.ofLine_count`: a line that begins with the word for counting asks for a count.

`spoken_line` closes the file, with `uncounted` on a speaker that is taken for a count of visits.
-/

namespace Parley

namespace Text

/-- A blank is its own capital form. -/
lemma capital_of_blank {c : Char} (h : isBlank c = true) : capital c = [c] := by
  have all : ∀ n ∈ List.range 0x100 ++ [0x1680] ++ List.range' 0x2000 0x60 ++ [0x3000],
      isBlank (Char.ofNat n) = true → capital (Char.ofNat n) = [Char.ofNat n] := by decide +kernel
  have mem : c.toNat ∈ List.range 0x100 ++ [0x1680] ++ List.range' 0x2000 0x60 ++ [0x3000] := by
    simp only [isBlank, Bool.or_eq_true, Bool.and_eq_true, beq_iff_eq, decide_eq_true_eq] at h
    simp only [List.mem_append, List.mem_range, List.mem_range'_1, List.mem_singleton]
    omega
  have here := all c.toNat mem
  rw [Char.ofNat_toNat] at here
  exact here h

/-- Blanks have no capital form of their own. -/
lemma upper_of_blank {t : Text} (h : Blank t) : upper t = t := by
  induction t with
  | nil => rfl
  | cons c t ih =>
    have first : upper (c :: t) = capital c ++ upper t := rfl
    rw [first, capital_of_blank (h c List.mem_cons_self), ih fun c mem => h c (List.mem_cons_of_mem _ mem)]
    rfl

end Text

namespace Script

section Speakers

variable {speaker : Text}

/-- Blanks behind a speaker do not make it a directive. -/
lemma speaker_of_trim (colon : ':' ∉ speaker) (comment : (Text.trim speaker).head? ≠ some '/')
    (heading : (Text.trim speaker).head? ≠ some '#')
    (count : Text.beginsWith "COUNT".toList (Text.upper (Text.trim speaker)) = false)
    (directive : Text.upper (Text.trim speaker) ∉ ["SET", "IF", "IF FUNCTION", "DO"].map String.toList) :
    Speaker (speaker.dropWhile Text.isBlank) := by
  obtain ⟨back, blank, whole⟩ := Text.exists_of_dropWhile speaker
  have capitals : Text.upper (speaker.dropWhile Text.isBlank) = Text.upper (Text.trim speaker) ++ back := by
    rw [whole, Text.upper_append, Text.upper_of_blank blank]
  refine ⟨fun mem => colon ((List.dropWhile_suffix _).subset mem), ?_, ?_, ?_, ?_⟩
  · rwa [← Text.head?_trim]
  · rwa [← Text.head?_trim]
  · refine Bool.eq_false_iff.mpr fun begins => ?_
    rw [capitals, Text.beginsWith_iff] at begins
    rw [Text.beginsWith_iff.mpr (Text.prefix_of_blank rfl blank begins)] at count
    cases count
  · intro listed
    have solid : ∀ name ∈ ["SET", "IF", "IF FUNCTION", "DO"].map String.toList,
        name.getLast?.any Text.isBlank = false := by decide
    have whole : Text.upper (speaker.dropWhile Text.isBlank) <+: Text.upper (Text.trim speaker) ++ back :=
      ⟨[], by rw [List.append_nil, capitals]⟩
    have shorter := Text.prefix_of_blank (solid _ listed) blank whole
    have same : Text.upper (Text.trim speaker) = Text.upper (speaker.dropWhile Text.isBlank) := by
      refine List.IsPrefix.eq_of_length_le ?_ shorter.length_le
      rw [capitals]
      exact List.prefix_append _ back
    exact directive (same ▸ listed)

end Speakers

/-- A line that begins with the word for counting tests a count of visits, or means nothing. -/
lemma Statement.ofLine_count {line : Text} (begins : Text.beginsWith "COUNT".toList (Text.upper line) = true) :
    ofLine true line = .nothing ∨
      ∃ condition target, Directs line condition target ∧ ofLine true line = .lines (condition.lines target) := by
  have means : ofLine true line = count (line.drop 5) := ofLine_of_begins List.mem_cons_self begins
  rw [means]
  unfold count
  cases parts : Text.splitPair? arrow (line.drop 5) with
  | none => exact .inl rfl
  | some sides => exact .inr ⟨_, _, .visits begins parts, rfl⟩

/-- A line of a script with a speaker and a colon says something, if its speaker is not taken for a directive, a heading
or a comment. Its line, and no other, stands behind those that were emitted before it. Without it the dialog has the
same nodes and lines, but for responses that follow it. When the speaker begins with the word for counting, it is lost:
nothing comes of it, or the test, the jump and the end of the branch that a count has. -/
theorem spoken_line {strict : Bool} {t speaker said name : Text} {pre post : List Text} {before : List Line}
    (start : Text) (whole : Text.lines t = pre ++ (speaker ++ ':' :: said) :: post)
    (inside : (pre.foldl (Draft.addLine strict) {}).current = some (name, before))
    (colon : ':' ∉ speaker) (comment : (Text.trim speaker).head? ≠ some '/')
    (heading : (Text.trim speaker).head? ≠ some '#')
    (directive : Text.upper (Text.trim speaker) ∉ ["SET", "IF", "IF FUNCTION", "DO"].map String.toList) :
    let d := pre.foldl (Draft.addLine strict) {}
    ∃ here responses more follow,
      (parse strict t start).nodes = d.done.reverse ++
        { name := name, lines := (offer strict responses (here.reverse ++ before)).reverse ++ more } :: follow ∧
      (∀ t', Text.lines t' = pre ++ post → (parse strict t' start).nodes = d.done.reverse ++
        { name := name, lines := (offer strict responses before).reverse ++ more } :: follow) ∧
      (Text.beginsWith "COUNT".toList (Text.upper (Text.trim speaker)) = false →
        here = [{ speaker := Text.trim speaker, text := Text.trim said }]) ∧
      (Text.beginsWith "COUNT".toList (Text.upper (Text.trim speaker)) = true →
        here = [] ∨ ∃ condition target, Directs (Text.trim (speaker ++ ':' :: said)) condition target ∧
          here = condition.lines target) := by
  intro d
  have trimmed : Text.trim (speaker ++ ':' :: said) =
      speaker.dropWhile Text.isBlank ++ ':' :: said.rdropWhile Text.isBlank := Text.trim_append_cons rfl speaker said
  -- Both scripts end in the same sequel, whose responses go to whatever stands in front of it.
  have without : ∀ t', Text.lines t' = pre ++ post → (parse strict t' start).nodes = d.done.reverse ++
      { name := name, lines := (offer strict (Sequel.ofLines strict post).responses before).reverse ++
        (Sequel.ofLines strict post).lines } :: (Sequel.ofLines strict post).nodes := by
    intro t' less
    rw [parse_sequel start less inside, Draft.followedBy_of_inside inside]
  cases count : Text.beginsWith "COUNT".toList (Text.upper (Text.trim speaker)) with
  | false =>
    have means := Statement.ofLine_spoken (speaker_of_trim colon comment heading count directive)
      (said.rdropWhile Text.isBlank)
    rw [Text.trim_dropWhile, Text.trim_rdropWhile, ← trimmed] at means
    exact ⟨[_], _, _, _, parse_emitted start whole inside means, without, fun _ => rfl, nofun⟩
  | true =>
    obtain ⟨back, -, front⟩ := Text.exists_of_dropWhile speaker
    have begins : Text.beginsWith "COUNT".toList (Text.upper (Text.trim (speaker ++ ':' :: said))) = true := by
      rw [trimmed, front, Text.upper_append, Text.upper_append, List.append_assoc]
      exact Text.beginsWith_iff.mpr ((Text.beginsWith_iff.mp count).trans (List.prefix_append _ _))
    obtain means | ⟨condition, target, directs, means⟩ := Statement.ofLine_count begins
    · refine ⟨[], _, _, _, ?_, without, nofun, fun _ => .inl rfl⟩
      rw [parse_sequel start whole inside, Sequel.ofLines, means]
      exact Draft.followedBy_of_inside inside _
    · exact ⟨_, _, _, _, parse_emitted start whole inside means, without, nofun, fun _ => .inr ⟨_, _, directs, rfl⟩⟩

/-- A line with blanks around its speaker, and a response behind it. -/
theorem spoken_line_answered :
    let t := "#a\nA: hi\n\t- Ann : count:in \n- yes => #b".toList
    ∃ responses more follow, (parse false t []).nodes = { name := ['a'], lines :=
      (offer false responses [{ speaker := "- Ann".toList, text := "count:in".toList },
        { speaker := ['A'], text := "hi".toList }]).reverse ++ more } :: follow := by
  intro t
  have whole : Text.lines t = ["#a".toList, "A: hi".toList] ++ ("\t- Ann ".toList ++ ':' :: " count:in ".toList) ::
      ["- yes => #b".toList] := by decide +kernel
  have inside : (["#a".toList, "A: hi".toList].foldl (Draft.addLine false) {}).current =
      some (['a'], [{ speaker := ['A'], text := "hi".toList }]) := by decide +kernel
  obtain ⟨here, responses, more, follow, nodes, -, spoken, -⟩ := spoken_line [] whole inside (by decide +kernel)
    (by decide +kernel) (by decide +kernel) (by decide +kernel)
  rw [spoken (by decide +kernel)] at nodes
  exact ⟨responses, more, follow, nodes⟩

/-- A speaker whose name begins like a count of visits is lost, with no count to be seen. -/
theorem uncounted :
    let speaker := "Count Dracula".toList
    ':' ∉ speaker ∧ speaker.head? = some 'C' ∧
      Text.upper speaker ∉ ["SET", "IF", "IF FUNCTION", "DO"].map String.toList ∧
      ((speaker.drop 5).dropWhile (· = ' ')).head? = some 'D' ∧
      ∀ strict, (parse strict ("#a\n".toList ++ speaker ++ ": Good evening".toList) []).nodes = [{ name := ['a'] }] := by
  decide +kernel

end Script

end Parley
