import Parley.Proofs.Script.Headings

/-!
# Passages

A node of a script is made of passages, one for each line of the script that adds to it.

* `Sound`: what passages and their responses are like, in lenient and in strict readings.
* `added`: the lines that a line of a script adds.
* `Sequel.Shaped`: what the sequel of some lines is made of. `Sequel.Shaped.after` puts one more line in front.
* `endIf_of_laid`: a branch ends only behind its test and its jump.
* `Draft.foldl_preamble`: nothing is kept of lines in front of which there is no heading.

`parse_passages` closes the file.
-/

namespace Parley.Script

variable {strict : Bool} {line : Text} {lines : List Text} {l : Line} {passages : List (Passage × List Response)}

/-! ## Single passages -/

namespace Passage

variable {passage : Passage}

/-- Whether there is nothing to show for a passage. -/
def silent : Passage → Bool
  | .speech speaker text => speaker.isEmpty && text.isEmpty
  | _ => true

/-- A passage takes all responses that are offered to it, or none. -/
lemma offer_lines (strict : Bool) (passage : Passage) (rs : List Response) :
    (offer strict rs (passage.lines []).reverse).reverse =
      passage.lines (if strict && passage.silent then [] else rs) := by
  cases refused : strict && passage.silent with
  | true =>
    cases passage with
    | speech | writing | call | exit | branch => exact congrArg List.reverse (offer_of_refused refused)
  | false =>
    cases passage with
    | speech | writing | call | exit | branch => exact congrArg List.reverse (offer_of_taken refused)

/-- Without their responses the lines of a passage do not depend on them. -/
lemma map_bare_lines (passage : Passage) (rs : List Response) :
    (passage.lines rs).map Line.bare = passage.lines [] := by
  cases passage with
  | speech | writing | call | exit => rfl
  | branch condition target =>
    cases condition with
    | equals | gives | visits => rfl

/-- The end of a branch stands behind its test and its jump. -/
lemma endIf_of_lines {rs : List Response} {front back : List Line} (h : passage.lines rs = front ++ l :: back)
    (ends : l.endIf = true) : ∃ condition target, passage = .branch condition target ∧
      front = [condition.line, { link := target }] ∧ l = { endIf := true, responses := rs } := by
  match passage, front, h with
  | .speech _ _, [], h | .writing _, [], h | .call _, [], h | .exit, [], h =>
    cases h
    cases ends
  | .speech _ _, _ :: front, h | .writing _, _ :: front, h | .call _, _ :: front, h | .exit, _ :: front, h =>
    cases front with
    | nil | cons => cases h
  | .branch condition target, [], h =>
    obtain ⟨rfl, -⟩ := List.cons.inj h
    cases condition with
    | equals | gives | visits => cases ends
  | .branch condition target, [_], h =>
    cases h
    cases ends
  | .branch condition target, [_, _], h =>
    cases h
    exact ⟨condition, target, rfl, rfl, rfl⟩
  | .branch condition target, _ :: _ :: _ :: front, h =>
    cases front with
    | nil | cons => cases h

end Passage

/-! ## Passages in a row -/

/-- The lines of passages with their responses. -/
def laid (passages : List (Passage × List Response)) : List Line :=
  passages.flatMap fun p => p.1.lines p.2

/-- A passage leads to a trimmed name, if anywhere, and so do its responses. When responses are strict, it shows
something to have any. -/
structure Sound (strict : Bool) (p : Passage × List Response) : Prop where
  target : ∀ condition target, p.1 = .branch condition target → Text.trim target = target
  links : ∀ r ∈ p.2, Text.trim r.link = r.link
  shown : strict = true → p.2 ≠ [] → ∃ speaker text, p.1 = .speech speaker text ∧ (speaker ≠ [] ∨ text ≠ [])

/-- A branch ends only behind its test and its jump. -/
lemma endIf_of_laid {front back : List Line} (h : laid passages = front ++ l :: back) (ends : l.endIf = true) :
    ∃ before, ∃ condition : Condition, ∃ target, front = before ++ [condition.line, { link := target }] ∧
      l = { endIf := true, responses := l.responses } := by
  induction passages generalizing front with
  | nil => exact absurd h.symm (List.append_ne_nil_of_right_ne_nil _ (List.cons_ne_nil l back))
  | cons p passages ih =>
    obtain ⟨more, rfl, rest⟩ | ⟨more, here, rest⟩ := List.append_eq_append_iff.mp h
    · obtain ⟨before, condition, target, rfl, whole⟩ := ih rest
      exact ⟨p.1.lines p.2 ++ before, condition, target, (List.append_assoc ..).symm, whole⟩
    · cases more with
      | nil =>
        obtain ⟨before, condition, target, impossible, -⟩ := @ih [] rest.symm
        simp at impossible
      | cons l' more =>
        obtain ⟨rfl, -⟩ := List.cons.inj rest
        obtain ⟨condition, target, -, rfl, rfl⟩ := Passage.endIf_of_lines here ends
        exact ⟨[], condition, target, rfl, rfl⟩

/-- A line that a script can write: it asks no query, begins no other branch and has no picture or sound, and its links
are trimmed. -/
structure Scripted (l : Line) : Prop where
  portrait : l.portrait = []
  typing : l.typing = []
  sound : l.sound = []
  voice : l.voice = []
  query : l.query = {}
  elseIf : l.elseIf = false
  data : l.data = []
  link : Text.trim l.link = l.link
  responses : ∀ r ∈ l.responses, Text.trim r.link = r.link

/-- The lines of sound passages can be written by a script. -/
lemma scripted_of_laid (sound : ∀ p ∈ passages, Sound strict p) (mem : l ∈ laid passages) : Scripted l := by
  obtain ⟨⟨passage, rs⟩, here, mem⟩ := List.mem_flatMap.mp mem
  have links := (sound _ here).links
  cases passage with
  | speech | writing | call | exit =>
    rw [List.mem_singleton.mp mem]
    exact ⟨rfl, rfl, rfl, rfl, rfl, rfl, rfl, rfl, links⟩
  | branch condition target =>
    have trimmed := (sound _ here).target condition target rfl
    simp only [Passage.lines, List.mem_cons, List.not_mem_nil, or_false] at mem
    obtain rfl | rfl | rfl := mem
    · cases condition with
      | equals | gives | visits => exact ⟨rfl, rfl, rfl, rfl, rfl, rfl, rfl, rfl, List.forall_mem_nil _⟩
    · exact ⟨rfl, rfl, rfl, rfl, rfl, rfl, rfl, trimmed, List.forall_mem_nil _⟩
    · exact ⟨rfl, rfl, rfl, rfl, rfl, rfl, rfl, rfl, links⟩

/-! ## Sequels -/

/-- A link that is read is trimmed. -/
lemma trim_formatLink (t : Text) : Text.trim (formatLink t) = formatLink t := by
  unfold formatLink
  split
  · exact Text.trim_trim _
  · exact Text.trim_trim t

/-- A branch that is emitted leads to a trimmed name. -/
lemma Emits.trimmed {condition : Condition} {target : Text} (emits : Emits line (.branch condition target)) :
    Text.trim target = target := by
  cases emits with
  | branch directs =>
    cases directs with
    | equals | gives | visits => exact trim_formatLink _

/-- A passage that is emitted can have any responses with trimmed links that it takes. -/
lemma Emits.sound {passage : Passage} (emits : Emits line passage) {rs : List Response}
    (links : ∀ r ∈ rs, Text.trim r.link = r.link) :
    Sound strict (passage, if strict && passage.silent then [] else rs) where
  target condition target e := by
    obtain rfl : passage = .branch condition target := e
    exact emits.trimmed
  links := by
    split
    · exact List.forall_mem_nil _
    · exact links
  shown isStrict answered := by
    cases passage with
    | speech speaker text =>
      refine ⟨speaker, text, rfl, ?_⟩
      by_contra! nothing
      obtain ⟨rfl, rfl⟩ := nothing
      rw [isStrict] at answered
      exact answered rfl
    | writing | call | exit | branch =>
      rw [isStrict] at answered
      exact absurd rfl answered

/-- The lines that a statement adds. -/
def Statement.added : Statement → List Line
  | .lines ls => ls
  | _ => []

/-- The lines that a line of a script adds to its node. -/
def added (line : Text) : List Line :=
  (Statement.ofLine true (Text.trim line)).added

/-- What means anything other than a node is no heading. -/
lemma not_heading {st : Statement} (means : Statement.ofLine true (Text.trim line) = st)
    (other : ∀ name, st ≠ .node name) : ¬ Heading line :=
  fun heading => other _ (means.symm.trans (heading.means true))

namespace Sequel

/-- What a sequel is made of, and that nothing of the lines is missing in it. -/
structure Shaped (strict : Bool) (lines : List Text) (q : Sequel) : Prop where
  passages : ∃ passages, (∀ p ∈ passages, Sound strict p) ∧ q.lines = laid passages
  links : ∀ r ∈ q.responses, Text.trim r.link = r.link
  nodes : ∀ n ∈ q.nodes, ∃ passages, (∀ p ∈ passages, Sound strict p) ∧ n = { name := n.name, lines := laid passages }
  names : q.nodes.map Node.name = (lines.filter (Heading ·)).map titled
  added : (q.lines ++ q.nodes.flatMap Node.lines).map Line.bare = lines.flatMap added

variable {q : Sequel}

/-- A passage in front of a sequel takes its responses if it shows something, or if responses are not strict. -/
lemma after_passage (q : Sequel) (passage : Passage) : q.after strict (.lines (passage.lines [])) = {
    lines := passage.lines (if strict && passage.silent then [] else q.responses) ++ q.lines
    nodes := q.nodes } := by
  rw [← Passage.offer_lines]
  cases passage with
  | speech | writing | call | exit | branch => rfl

/-- A sequel keeps its shape when a line is put in front. -/
lemma Shaped.after (h : Shaped strict lines q) (line : Text) :
    Shaped strict (line :: lines) (q.after strict (.ofLine true (Text.trim line))) := by
  have comes := Statement.comes_ofLine true (Text.trim line)
  generalize means : Statement.ofLine true (Text.trim line) = st at comes
  have adds : Script.added line = st.added := congrArg Statement.added means
  have names (other : ∀ name, st ≠ .node name) :
      q.nodes.map Node.name = ((line :: lines).filter (Heading ·)).map titled := by
    rw [List.filter_cons_of_neg (by simpa using not_heading means other), h.names]
  -- A heading makes a node of the passages behind it; other lines add a passage, a link, or nothing.
  cases comes with
  | nothing =>
    refine ⟨h.passages, h.links, h.nodes, names fun _ => Statement.noConfusion, ?_⟩
    rw [List.flatMap_cons, adds]
    exact h.added
  | @node _ name heading =>
    have begins : Heading line := List.head?_eq_some_iff.mpr ⟨name, heading⟩
    have title : titled line = Text.trim name := by rw [titled, heading]; rfl
    obtain ⟨passages, sound, laid⟩ := h.passages
    refine ⟨⟨[], List.forall_mem_nil _, rfl⟩, List.forall_mem_nil _,
      List.forall_mem_cons.mpr ⟨⟨passages, sound, ?_⟩, h.nodes⟩, ?_, ?_⟩
    · rw [laid]
    · rw [List.filter_cons_of_pos (by simpa using begins), List.map_cons, ← h.names, title]
      rfl
    · rw [List.flatMap_cons, adds]
      exact h.added
  | @lines _ passage emits =>
    obtain ⟨passages, sound, laid⟩ := h.passages
    rw [after_passage]
    refine ⟨⟨_ :: passages, List.forall_mem_cons.mpr ⟨emits.sound h.links, sound⟩, ?_⟩, List.forall_mem_nil _, h.nodes,
      names fun _ => Statement.noConfusion, ?_⟩
    · rw [laid]
      rfl
    · rw [List.flatMap_cons, adds, List.append_assoc, List.map_append, Passage.map_bare_lines, h.added]
      rfl
  | response label target =>
    refine ⟨h.passages, List.forall_mem_cons.mpr ⟨trim_formatLink target, h.links⟩, h.nodes,
      names fun _ => Statement.noConfusion, ?_⟩
    rw [List.flatMap_cons, adds]
    exact h.added

/-- The sequel of any lines is made of passages. -/
lemma shaped_ofLines (strict : Bool) (lines : List Text) : Shaped strict lines (ofLines strict lines) := by
  induction lines with
  | nil => exact ⟨⟨[], List.forall_mem_nil _, rfl⟩, List.forall_mem_nil _, List.forall_mem_nil _, rfl, rfl⟩
  | cons line lines ih => exact ih.after line

end Sequel

/-! ## Scripts -/

/-- Nothing is kept of lines in front of which there is no heading. -/
lemma Draft.foldl_preamble {d : Draft} (outside : d.current = none) (apart : ∀ line ∈ lines, ¬ Heading line) :
    (lines.foldl (addLine strict) d).nodes = d.nodes := by
  have step : ∀ line, ¬ Heading line → ∀ d : Draft, d.current = none →
      (d.addLine strict line).current = none ∧ (d.addLine strict line).done = d.done := by
    intro line apart d outside
    have comes := Statement.comes_ofLine false (Text.trim line)
    rw [addLine, outside, Option.isSome_none]
    generalize Statement.ofLine false (Text.trim line) = st at comes
    cases comes with
    | nothing => exact ⟨outside, rfl⟩
    | start target =>
      unfold add
      dsimp only
      split
      · exact ⟨outside, rfl⟩
      · exact ⟨outside, rfl⟩
    | @node _ name heading => exact absurd (List.head?_eq_some_iff.mpr ⟨name, heading⟩) apart
    | lines => exact ⟨by rw [add, outside]; rfl, rfl⟩
    | response => exact ⟨by rw [add, outside]; exact outside, by rw [add, outside]⟩
  induction lines generalizing d with
  | nil => rfl
  | cons line lines ih =>
    obtain ⟨here, rest⟩ := List.forall_mem_cons.mp apart
    obtain ⟨still, same⟩ := step line here d outside
    rw [List.foldl_cons, ih still rest, nodes, still, nodes, outside, same]

/-- There is no heading among the lines in front of the first one. -/
lemma not_heading_of_takeWhile (mem : line ∈ lines.takeWhile (¬ Heading ·)) : ¬ Heading line := by
  simpa using List.mem_takeWhile_imp mem

/-- The nodes of a script are the sequel of its lines from the first heading on. -/
lemma ofLines_eq_parse (strict : Bool) (t start : Text) :
    Sequel.ofLines strict ((Text.lines t).dropWhile (¬ Heading ·)) = { nodes := (parse strict t start).nodes } := by
  have whole : Text.lines t = (Text.lines t).takeWhile (¬ Heading ·) ++ (Text.lines t).dropWhile (¬ Heading ·) :=
    List.takeWhile_append_dropWhile.symm
  have preamble : (((Text.lines t).takeWhile (¬ Heading ·)).foldl (Draft.addLine strict) {}).nodes = [] :=
    Draft.foldl_preamble rfl fun _ mem => not_heading_of_takeWhile mem
  cases rest : (Text.lines t).dropWhile (¬ Heading ·) with
  | nil =>
    rw [rest, List.append_nil] at whole
    rw [← whole] at preamble
    rw [parse, preamble]
    rfl
  | cons line post =>
    have heading : Heading line := by
      have first := List.head_dropWhile_not (fun line => decide (¬ Heading line)) (rest ▸ List.cons_ne_nil line post)
      simp only [rest, List.head_cons] at first
      simpa using first
    rw [rest] at whole
    rw [parse_heading start whole heading, preamble, Sequel.ofLines, heading.means]
    rfl

/-- Every node of a script is made of passages, the responses of which stand on their last lines: speeches, writings of
variables, calls, exits and branches. A line with anything else in it is not written, and all links are trimmed. The
nodes are named by the headings in their order, and hold every line that comes of the lines of the script from the first
heading on. -/
theorem parse_passages (strict : Bool) (t start : Text) :
    (∀ n ∈ (parse strict t start).nodes, ∃ passages : List (Passage × List Response),
      n = { name := n.name, lines := passages.flatMap fun p => p.1.lines p.2 } ∧ (∀ p ∈ passages, Sound strict p) ∧
      (∀ l ∈ n.lines, Scripted l) ∧
      ∀ front l back, n.lines = front ++ l :: back → l.endIf = true →
        ∃ before, ∃ condition : Condition, ∃ target, front = before ++ [condition.line, { link := target }] ∧
          l = { endIf := true, responses := l.responses }) ∧
    (parse strict t start).nodes.map Node.name = ((Text.lines t).filter (Heading ·)).map titled ∧
    ((parse strict t start).nodes.flatMap Node.lines).map Line.bare =
      ((Text.lines t).dropWhile (¬ Heading ·)).flatMap added := by
  have shaped := Sequel.shaped_ofLines strict ((Text.lines t).dropWhile (¬ Heading ·))
  rw [ofLines_eq_parse strict t start] at shaped
  refine ⟨fun n mem => ?_, ?_, shaped.added⟩
  · obtain ⟨passages, sound, whole⟩ := shaped.nodes n mem
    have lines : n.lines = laid passages := congrArg Node.lines whole
    refine ⟨passages, whole, sound, fun l mem => scripted_of_laid sound (lines ▸ mem), fun front l back h ends => ?_⟩
    exact endIf_of_laid (lines ▸ h) ends
  · have apart : ((Text.lines t).takeWhile (¬ Heading ·)).filter (Heading ·) = [] :=
      List.filter_eq_nil_iff.mpr fun line mem => by simpa using not_heading_of_takeWhile mem
    have same : (Text.lines t).filter (Heading ·) = ((Text.lines t).dropWhile (¬ Heading ·)).filter (Heading ·) := by
      conv_lhs => rw [← @List.takeWhile_append_dropWhile _ (¬ Heading ·) (Text.lines t), List.filter_append, apart]
      exact List.nil_append _
    rw [same]
    exact shaped.names

/-- A response belongs to the end of the branch that it stands behind. -/
example : (parse false "# a\nCOUNT => # b\n- c => d".toList []).nodes = [{ name := ['a'], lines := [
    {}, { link := ['b'] }, { endIf := true, responses := [⟨['c'], ['d']⟩] }] }] := by
  decide +kernel

end Parley.Script
