import Parley.Proofs.Script.Directives
import Parley.Proofs.Script.Hushed
import Parley.Proofs.Text.Cuts

/-!
# Written scripts

A dialog that only says things and offers responses can be written as a script, which is read as that dialog
again.

* `Dialog.written`: the script of a dialog, and `Dialog.Writable`, the dialogs that it can be written for.
* `directive?_spoken`: a spoken line is no directive.
* `ofLine_spoken`, `ofLine_response`: what each written line means.
* `foldl_nodes`: what has been read after the lines of some nodes.

`parse_written` closes the file: what was written is read back.
-/

namespace Parley

/-! ## Scripts -/

/-- The line of a script that offers a response. -/
def Response.written (r : Response) : Text :=
  "- ".toList ++ r.text ++ " => #".toList ++ r.link

/-- The lines of a script that say something and offer the responses to it. -/
def Line.written (l : Line) : List Text :=
  (l.speaker ++ ": ".toList ++ l.text) :: l.responses.map Response.written

/-- The lines of a script for a node: its heading, and what its lines are written as. -/
def Node.written (n : Node) : List Text :=
  ('#' :: n.name) :: n.lines.flatMap Line.written

/-- The line of a script that names its start. -/
def Script.startWritten (start : Text) : List Text :=
  if start.isEmpty then [] else ["=> #".toList ++ start]

/-- The script of a dialog. -/
def Dialog.written (d : Dialog) : Text :=
  Text.join ['\n'] (Script.startWritten d.start ++ d.nodes.flatMap Node.written)

namespace Script

/-- A text that fits into a line and has no blanks around it. -/
structure Neat (t : Text) : Prop where
  trimmed : Text.trim t = t
  single : '\n' ∉ t

instance (t : Text) : Decidable (Neat t) :=
  decidable_of_iff (Text.trim t = t ∧ '\n' ∉ t) ⟨fun h => ⟨h.1, h.2⟩, fun h => ⟨h.1, h.2⟩⟩

end Script

open Script

/-- A response that fits into a line: neither colons nor a second arrow stand in it. -/
structure Response.Writable (r : Response) : Prop where
  text : Neat r.text
  link : Neat r.link
  text_colon : ':' ∉ r.text
  link_colon : ':' ∉ r.link
  /-- The label ends at the first arrow. -/
  arrow : Text.includes arrow r.text = false

instance (r : Response) : Decidable r.Writable :=
  decidable_of_iff (Neat r.text ∧ Neat r.link ∧ ':' ∉ r.text ∧ ':' ∉ r.link ∧ Text.includes arrow r.text = false)
    ⟨fun ⟨text, link, text', link', arrow⟩ => ⟨text, link, text', link', arrow⟩,
      fun h => ⟨h.text, h.link, h.text_colon, h.link_colon, h.arrow⟩⟩

/-- Who speaks a line is not taken for a directive, a heading or a comment. -/
structure Script.Speaker (t : Text) : Prop where
  colon : ':' ∉ t
  comment : t.head? ≠ some '/'
  heading : t.head? ≠ some '#'
  count : Text.beginsWith "COUNT".toList (Text.upper t) = false
  directive : Text.upper t ∉ ["SET", "IF", "IF FUNCTION", "DO"].map String.toList

instance (t : Text) : Decidable (Speaker t) :=
  decidable_of_iff (':' ∉ t ∧ t.head? ≠ some '/' ∧ t.head? ≠ some '#' ∧
      Text.beginsWith "COUNT".toList (Text.upper t) = false ∧
      Text.upper t ∉ ["SET", "IF", "IF FUNCTION", "DO"].map String.toList)
    ⟨fun ⟨colon, comment, heading, count, directive⟩ => ⟨colon, comment, heading, count, directive⟩,
      fun h => ⟨h.colon, h.comment, h.heading, h.count, h.directive⟩⟩

/-- A line that says something, has responses, and does nothing else. -/
structure Line.Writable (l : Line) : Prop where
  plain : l = { speaker := l.speaker, text := l.text, responses := l.responses }
  speaker : Neat l.speaker
  name : Speaker l.speaker
  text : Neat l.text
  responses : ∀ r ∈ l.responses, r.Writable

instance (l : Line) : Decidable l.Writable :=
  decidable_of_iff (l = { speaker := l.speaker, text := l.text, responses := l.responses } ∧ Neat l.speaker ∧
      Speaker l.speaker ∧ Neat l.text ∧ ∀ r ∈ l.responses, r.Writable)
    ⟨fun ⟨plain, speaker, name, text, responses⟩ => ⟨plain, speaker, name, text, responses⟩,
      fun h => ⟨h.plain, h.speaker, h.name, h.text, h.responses⟩⟩

/-- A node that can be written: its name is neat, and its lines are writable. -/
structure Node.Writable (n : Node) : Prop where
  plain : n = { name := n.name, lines := n.lines }
  name : Neat n.name
  lines : ∀ l ∈ n.lines, l.Writable

instance (n : Node) : Decidable n.Writable :=
  decidable_of_iff (n = { name := n.name, lines := n.lines } ∧ Neat n.name ∧ ∀ l ∈ n.lines, l.Writable)
    ⟨fun ⟨plain, name, lines⟩ => ⟨plain, name, lines⟩, fun h => ⟨h.plain, h.name, h.lines⟩⟩

/-- A dialog that can be written: its start is neat, and its nodes are writable. -/
structure Dialog.Writable (d : Dialog) : Prop where
  plain : d = { start := d.start, nodes := d.nodes }
  start : Neat d.start
  nodes : ∀ n ∈ d.nodes, n.Writable

instance (d : Dialog) : Decidable d.Writable :=
  decidable_of_iff (d = { start := d.start, nodes := d.nodes } ∧ Neat d.start ∧ ∀ n ∈ d.nodes, n.Writable)
    ⟨fun ⟨plain, start, nodes⟩ => ⟨plain, start, nodes⟩, fun h => ⟨h.plain, h.start, h.nodes⟩⟩

namespace Text

/-! ## Capitals -/

/-- The colon is the character with the number 58. -/
lemma eq_of_ofNat_colon {k : Nat} (h : Char.ofNat k = ':') : k = 58 := by
  by_cases valid : k.isValidChar
  · rw [Char.ofNat, dif_pos valid] at h
    exact congrArg Char.toNat h
  · rw [Char.ofNat, dif_neg valid] at h
    cases h

/-- No other character has a colon for its capital form. -/
lemma eq_colon_of_mem_capital {c : Char} (h : ':' ∈ capital c) : c = ':' := by
  unfold capital at h
  split at h
  · rename_i ascii
    have all : ∀ n < 0x80, ':' = (Char.ofNat n).toUpper → Char.ofNat n = ':' := by decide
    have here := all c.toNat ascii
    rw [Char.ofNat_toNat] at here
    exact here (List.mem_singleton.mp h)
  · unfold recase at h
    split at h
    · rename_i spelling found
      have all : ∀ s ∈ capitalSpellings, ∀ n ∈ s.2, Char.ofNat n ≠ ':' := by decide +kernel
      obtain ⟨n, mem, e⟩ := List.mem_map.mp h
      exact absurd e (all _ (List.mem_of_find?_eq_some found) n mem)
    · split at h
      · rename_i run found
        -- A run takes its first character beyond the colon, and the others further still.
        have all : ∀ r ∈ capitalRuns, 58 < r.first + r.shift := by decide +kernel
        have beyond := all run (List.mem_of_find?_eq_some found)
        have within := List.find?_some found
        simp only [CaseRun.holds, Bool.and_eq_true, decide_eq_true_eq] at within
        have reached := eq_of_ofNat_colon (List.mem_singleton.mp h).symm
        omega
      · exact (List.mem_singleton.mp h).symm

/-- Two texts are put into capitals one after the other. -/
lemma upper_append (t u : Text) : upper (t ++ u) = upper t ++ upper u :=
  List.flatMap_append

/-- Capitals bring in no colon. -/
lemma not_mem_upper {t : Text} (h : ':' ∉ t) : ':' ∉ upper t := by
  intro mem
  obtain ⟨c, there, colon⟩ := List.mem_flatMap.mp mem
  exact h (eq_colon_of_mem_capital colon ▸ there)

end Text

/-! ## Statements -/

namespace Script

/-- A neat text has no blanks in front. -/
lemma Neat.front {t : Text} (h : Neat t) : t.dropWhile Text.isBlank = t :=
  (Text.trimmed_ends h.trimmed).1

/-- A neat text has no blanks at its end. -/
lemma Neat.back {t : Text} (h : Neat t) : t.rdropWhile Text.isBlank = t :=
  (Text.trimmed_ends h.trimmed).2

namespace Statement

/-- A line whose speaker is taken for no directive is none. -/
lemma directive?_spoken {speaker : Text} (h : Speaker speaker) (said : Text) :
    directive? (speaker ++ ':' :: said) = none := by
  have capitals : Text.upper (speaker ++ ':' :: said) = Text.upper speaker ++ ':' :: Text.upper said :=
    Text.upper_append speaker (':' :: said)
  have colon := Text.not_mem_upper h.colon
  have unlisted : directives.find? (fun d => Text.beginsWith d.1 (Text.upper (speaker ++ ':' :: said))) = none := by
    rw [capitals]
    refine List.find?_eq_none.mpr fun (name, read) mem begins => ?_
    simp only [directives, List.mem_cons, Prod.mk.injEq, List.not_mem_nil, or_false] at mem
    -- All names but the first end with a colon, and the first colon of the line stands behind the speaker.
    have taken (start : Text) (apart : ':' ∉ start) (listed : start ∈ ["SET", "IF", "IF FUNCTION", "DO"].map String.toList)
        (begins : Text.beginsWith (start ++ [':']) (Text.upper speaker ++ ':' :: Text.upper said) = true) : False :=
      h.directive (Text.eq_of_beginsWith apart colon begins ▸ listed)
    obtain ⟨rfl, -⟩ | ⟨rfl, -⟩ | ⟨rfl, -⟩ | ⟨rfl, -⟩ | ⟨rfl, -⟩ := mem
    · exact Bool.false_ne_true (h.count.symm.trans (Text.beginsWith_of_append (by decide) begins))
    · exact taken "SET".toList (by decide) (by decide) begins
    · exact taken "IF FUNCTION".toList (by decide) (by decide) begins
    · exact taken "IF".toList (by decide) (by decide) begins
    · exact taken "DO".toList (by decide) (by decide) begins
  have last : Text.upper (speaker ++ ':' :: said) ≠ "EXIT".toList := by
    intro e
    have mem : ':' ∈ Text.upper speaker ++ ':' :: Text.upper said := List.mem_append_right _ List.mem_cons_self
    rw [← capitals, e] at mem
    exact absurd mem (by decide)
  rw [directive?]
  simp only [unlisted, if_neg last]

/-- An arrow before the first node names the start. -/
lemma ofLine_start (name : Text) : ofLine false (arrow ++ name) = .start (formatLink name) := by
  rfl

/-- A plain line with a colon is speech. -/
lemma plain_spoken {speaker : Text} (h : Speaker speaker) (said : Text) :
    plain (speaker ++ ':' :: said) = .lines [{ speaker := Text.trim speaker, text := Text.trim said }] := by
  have cuts : Text.cut [':'] (speaker ++ ':' :: said) = some (speaker, said) := Text.cut_of_not_mem h.colon
  have heading : (speaker ++ ':' :: said).head? ≠ some '#' := by
    cases speaker with
    | nil => exact fun e => absurd (Option.some.inj e) (by decide)
    | cons c speaker => exact h.heading
  unfold plain
  split
  · rename_i begins
    rw [begins] at heading
    exact absurd rfl heading
  · rw [cuts]

/-- A line with a speaker and a colon is speech. -/
lemma ofLine_spoken {speaker : Text} (h : Speaker speaker) (said : Text) :
    ofLine true (speaker ++ ':' :: said) = .lines [{ speaker := Text.trim speaker, text := Text.trim said }] := by
  have shown : ((speaker ++ ':' :: said).isEmpty || (speaker ++ ':' :: said).head? = some '/') = false := by
    cases speaker with
    | nil => rfl
    | cons c speaker => exact Bool.or_eq_false_iff.mpr ⟨rfl, decide_eq_false h.comment⟩
  rw [ofLine_true shown, directive?_spoken h, Option.getD_none, plain_spoken h]

/-- The first arrow of a written response is the one behind its label. -/
lemma cut_label {label : Text} (h : Text.includes arrow label = false) (t : Text) :
    Text.cut arrow (label ++ ' ' :: arrow ++ t) = some (label ++ [' '], t) := by
  rw [Text.includes, Option.isSome_eq_false_iff, Option.isNone_iff_eq_none] at h
  induction label with
  | nil => rfl
  | cons c label ih =>
    obtain ⟨here, later⟩ : Text.after? arrow (c :: label) = none ∧ Text.cut arrow label = none := by
      rw [Text.cut] at h
      split at h
      · cases h
      · rename_i none
        exact ⟨none, Option.map_eq_none_iff.mp h⟩
    have apart : Text.after? arrow (c :: label ++ ' ' :: arrow ++ t) = none := by
      refine Option.eq_none_iff_forall_ne_some.mpr fun rest found => ?_
      cases label with
      | nil => cases Text.eq_append_of_after? found
      | cons c' label =>
        have long : arrow.length ≤ (c :: c' :: label).length := Nat.le_add_left 2 label.length
        rw [List.append_assoc] at found
        obtain ⟨rest', begins⟩ := Text.after?_of_append long found
        rw [here] at begins
        cases begins
    rw [List.cons_append, List.cons_append, Text.cut, ← List.cons_append, ← List.cons_append, apart]
    dsimp only
    rw [ih later]
    rfl

/-- A written link is read back as its name. -/
lemma formatLink_written {name : Text} (h : Neat name) : formatLink (" #".toList ++ name) = name := by
  have trimmed : Text.trim (" #".toList ++ name) = '#' :: name := by
    have heading := Text.trim_append_cons (c := '#') rfl [' '] name
    rwa [h.back] at heading
  rw [formatLink, trimmed]
  exact h.trimmed

/-- A line that begins with a dash says something if it holds a colon. If not, it offers a response, if anything. -/
lemma ofLine_dash {line : Text} (dash : line.head? = some '-') : ofLine true line =
    match Text.cut [':'] line with
    | some (speaker, said) => .lines [{ speaker := Text.trim speaker, text := Text.trim said }]
    | none => answer line := by
  obtain ⟨rest, rfl⟩ : ∃ rest, line = '-' :: rest := by
    cases line with
    | nil => cases dash
    | cons c rest =>
      obtain rfl := Option.some.inj dash
      exact ⟨rest, rfl⟩
  have directive : directive? ('-' :: rest) = none := rfl
  have heading : ∀ name, '-' :: rest ≠ '#' :: name := nofun
  rw [ofLine_true rfl, directive, Option.getD_none, plain]
  · rfl
  · exact heading

/-- A dash, a label and an arrow without a colon before it make a response. -/
lemma ofLine_offer {line label target : Text} (dash : line.head? = some '-') (colon : ':' ∉ line)
    (arrows : Text.cut arrow line = some (label, target)) :
    ofLine true line = .response ⟨Text.trim (label.drop 1), formatLink target⟩ := by
  rw [ofLine_dash dash, Text.cut_eq_none_iff.mpr colon]
  dsimp only
  rw [answer, arrows]

/-- A written response is read back. -/
lemma ofLine_response {r : Response} (h : r.Writable) : ofLine true r.written = .response r := by
  have whole : r.written = '-' :: ' ' :: (r.text ++ ' ' :: arrow ++ (" #".toList ++ r.link)) := by
    simp [Response.written, arrow]
  have dash : r.written.head? = some '-' := by
    rw [whole]
    rfl
  have colon : ':' ∉ r.written := by
    simp [Response.written, h.text_colon, h.link_colon]
  have cuts : Text.cut arrow r.written = some ('-' :: ' ' :: (r.text ++ [' ']), " #".toList ++ r.link) := by
    rw [whole, Text.cut, Text.cut, cut_label h.arrow]
    rfl
  have label : Text.trim (' ' :: (r.text ++ [' '])) = r.text := by
    rw [Text.trim_cons rfl, Text.trim_concat rfl, h.text.trimmed]
  rw [ofLine_offer dash colon cuts, formatLink_written h.link]
  exact congrArg (fun t => Statement.response ⟨t, r.link⟩) label

end Statement

/-! ## Lines -/

/-- A text between two characters that are not blank is trimmed. -/
lemma trim_between {a c : Char} (ha : Text.isBlank a = false) (hc : Text.isBlank c = false) {t : Text} (h : Neat t)
    (u : Text) : Text.trim (a :: (u ++ c :: t)) = a :: (u ++ c :: t) := by
  have front := Text.trim_append_cons ha [] (u ++ c :: t)
  rw [Text.rdropWhile_append_cons hc, h.back] at front
  exact front

/-- A written heading begins its node. -/
lemma heading_means {name : Text} (h : Neat name) (inNodes : Bool) :
    Statement.ofLine inNodes (Text.trim ('#' :: name)) = .node name := by
  have front := Text.trim_append_cons (c := '#') rfl [] name
  rw [h.back] at front
  rw [show Text.trim ('#' :: name) = '#' :: name from front, Statement.ofLine_heading, h.trimmed]

/-- A written start is read back. -/
lemma start_means {start : Text} (h : Neat start) :
    Statement.ofLine false (Text.trim ("=> #".toList ++ start)) = .start start := by
  have trimmed : Text.trim ("=> #".toList ++ start) = arrow ++ (" #".toList ++ start) :=
    trim_between (a := '=') (c := '#') rfl rfl h ['>', ' ']
  rw [trimmed, Statement.ofLine_start, Statement.formatLink_written h]

/-- A written response is read back, as it stands in the script. -/
lemma response_means {r : Response} (h : r.Writable) :
    Statement.ofLine true (Text.trim r.written) = .response r := by
  have whole : r.written = '-' :: (' ' :: r.text ++ " => ".toList ++ '#' :: r.link) := by
    simp [Response.written]
  have trimmed : Text.trim r.written = r.written := by
    rw [whole]
    exact trim_between rfl rfl h.link _
  rw [trimmed, Statement.ofLine_response h]

/-- A written line is read back without its responses. -/
lemma line_means {l : Line} (h : l.Writable) :
    Statement.ofLine true (Text.trim (l.speaker ++ ": ".toList ++ l.text)) = .lines [l.bare] := by
  have whole : l.speaker ++ ": ".toList ++ l.text = l.speaker ++ ':' :: (' ' :: l.text) := by
    simp
  have said : Text.trim ((' ' :: l.text).rdropWhile Text.isBlank) = l.text := by
    rw [Text.trim_rdropWhile, Text.trim_cons rfl, h.text.trimmed]
  rw [whole, Text.trim_append_cons rfl, h.speaker.front, Statement.ofLine_spoken h.name, h.speaker.trimmed, said,
    h.plain]
  rfl

/-! ## Drafts -/

namespace Draft

variable {start name : Text} {done : List Node} {ls : List Line}

/-- Reading written responses gives them to the line before. -/
lemma foldl_responses {rs : List Response} (h : ∀ r ∈ rs, r.Writable) (l : Line) :
    (rs.map Response.written).foldl (addLine false) ⟨start, done, some (name, l :: ls)⟩ =
      ⟨start, done, some (name, { l with responses := l.responses ++ rs } :: ls)⟩ := by
  induction rs generalizing l with
  | nil => simp
  | cons r rs ih =>
    obtain ⟨here, rest⟩ := List.forall_mem_cons.mp h
    have first : addLine false ⟨start, done, some (name, l :: ls)⟩ r.written =
        ⟨start, done, some (name, addResponse l r :: ls)⟩ := by
      rw [addLine, Option.isSome_some, response_means here]
      rfl
    rw [List.map_cons, List.foldl_cons, first, ih rest, addResponse, List.append_assoc]
    rfl

/-- Reading a written line adds it to the node, with its responses. -/
lemma foldl_line {l : Line} (h : l.Writable) :
    l.written.foldl (addLine false) ⟨start, done, some (name, ls)⟩ = ⟨start, done, some (name, l :: ls)⟩ := by
  have first : addLine false ⟨start, done, some (name, ls)⟩ (l.speaker ++ ": ".toList ++ l.text) =
      ⟨start, done, some (name, l.bare :: ls)⟩ := by
    rw [addLine, Option.isSome_some, line_means h]
    rfl
  rw [Line.written, List.foldl_cons, first, foldl_responses h.responses]
  rfl

/-- Reading written lines adds them to the node. -/
lemma foldl_lines {more : List Line} (h : ∀ l ∈ more, l.Writable) :
    (more.flatMap Line.written).foldl (addLine false) ⟨start, done, some (name, ls)⟩ =
      ⟨start, done, some (name, more.reverse ++ ls)⟩ := by
  induction more generalizing ls with
  | nil => rfl
  | cons l more ih =>
    obtain ⟨here, rest⟩ := List.forall_mem_cons.mp h
    rw [List.flatMap_cons, List.foldl_append, foldl_line here, ih rest, List.reverse_cons, List.append_assoc]
    rfl

/-- The lines of a node make up the next node, whatever has been read before. -/
lemma foldl_node {n : Node} (h : n.Writable) (d : Draft) :
    n.written.foldl (addLine false) d = ⟨d.start, d.nodes, some (n.name, n.lines.reverse)⟩ := by
  have first : addLine false d ('#' :: n.name) = ⟨d.start, d.nodes, some (n.name, [])⟩ := by
    rw [addLine, heading_means h.name]
    rfl
  rw [Node.written, List.foldl_cons, first, foldl_lines h.lines, List.append_nil]

/-- Reading written nodes adds them to the draft and leaves its start. -/
lemma foldl_nodes {ns : List Node} (h : ∀ n ∈ ns, n.Writable) (d : Draft) :
    ((ns.flatMap Node.written).foldl (addLine false) d).start = d.start ∧
      ((ns.flatMap Node.written).foldl (addLine false) d).nodes = ns.reverse ++ d.nodes := by
  induction ns generalizing d with
  | nil => exact ⟨rfl, rfl⟩
  | cons n ns ih =>
    obtain ⟨here, rest⟩ := List.forall_mem_cons.mp h
    have closed : (⟨d.start, d.nodes, some (n.name, n.lines.reverse)⟩ : Draft).nodes = n :: d.nodes := by
      rw [here.plain]
      simp [nodes, close]
    rw [List.flatMap_cons, List.foldl_append, foldl_node here]
    obtain ⟨start, nodes⟩ := ih rest ⟨d.start, d.nodes, some (n.name, n.lines.reverse)⟩
    refine ⟨start, nodes.trans ?_⟩
    rw [closed, List.reverse_cons, List.append_assoc]
    rfl

end Draft

/-! ## Dialogs -/

/-- A written line holds no line break. -/
lemma single_written {l : Line} (h : l.Writable) : ∀ t ∈ l.written, '\n' ∉ t := by
  refine List.forall_mem_cons.mpr ⟨by simp [h.speaker.single, h.text.single], fun t mem => ?_⟩
  obtain ⟨r, here, rfl⟩ := List.mem_map.mp mem
  have writable := h.responses r here
  simp [Response.written, writable.text.single, writable.link.single]

/-- The written script has the lines that it was joined of. -/
lemma lines_written {d : Dialog} (h : d.Writable)
    (nonempty : startWritten d.start ++ d.nodes.flatMap Node.written ≠ []) :
    Text.lines d.written = startWritten d.start ++ d.nodes.flatMap Node.written := by
  refine Text.splitOn_join nonempty fun t mem => ?_
  cases List.mem_append.mp mem with
  | inl mem =>
    rw [startWritten] at mem
    split at mem
    · cases mem
    · rw [List.mem_singleton.mp mem]
      simp [h.start.single]
  | inr mem =>
    obtain ⟨n, here, mem⟩ := List.mem_flatMap.mp mem
    have writable := h.nodes n here
    rw [Node.written] at mem
    cases mem with
    | head => simp [writable.name.single]
    | tail _ mem =>
      obtain ⟨l, there, mem⟩ := List.mem_flatMap.mp mem
      exact single_written (writable.lines l there) t mem

/-- An empty script has one line, which is blank. -/
lemma foldl_written {d : Dialog} (h : d.Writable) : (Text.lines d.written).foldl (Draft.addLine false) {} =
    (startWritten d.start ++ d.nodes.flatMap Node.written).foldl (Draft.addLine false) {} := by
  cases empty : startWritten d.start ++ d.nodes.flatMap Node.written with
  | nil =>
    have blank : Text.lines (Text.join ['\n'] []) = [[]] := Text.splitOn_of_cut_none rfl
    rw [Dialog.written, empty, blank]
    rfl
  | cons t ts =>
    rw [lines_written h (empty ▸ List.cons_ne_nil t ts), empty]

/-- Reading the written start sets it. -/
lemma foldl_start {start : Text} (h : Neat start) :
    (startWritten start).foldl (Draft.addLine false) {} = { start := start } := by
  cases start with
  | nil => rfl
  | cons c start =>
    have first : Draft.addLine false {} ("=> #".toList ++ c :: start) = { start := c :: start } := by
      rw [Draft.addLine, Option.isSome_none, start_means h]
      rfl
    rw [startWritten, List.isEmpty_cons, if_neg Bool.false_ne_true, List.foldl_cons, first]
    rfl

/-- A dialog whose silent lines have no responses is hushed already. -/
lemma hushed_of_shown {d : Dialog} (h : ∀ n ∈ d.nodes, ∀ l ∈ n.lines, l.responses ≠ [] → l.isSilent = false) :
    d.hushed = d := by
  have lines : ∀ n ∈ d.nodes, n.hushed = n := by
    intro n here
    have same : n.lines.map Line.hushed = n.lines.map id := by
      refine List.map_congr_left fun l there => ?_
      by_cases bare : l.responses = []
      · exact Line.hushed_of_bare bare
      · exact Line.hushed_of_shown (h n here l there bare)
    rw [Node.hushed, same, List.map_id]
  have nodes : d.nodes.map Node.hushed = d.nodes.map id := List.map_congr_left lines
  rw [Dialog.hushed, nodes, List.map_id]

/-- What was written is read back. A strict reading needs lines with responses to show something. -/
theorem parse_written (d : Dialog) (h : d.Writable) : parse false d.written [] = d ∧
    ((∀ n ∈ d.nodes, ∀ l ∈ n.lines, l.responses ≠ [] → l.isSilent = false) → parse true d.written [] = d) := by
  have lenient : parse false d.written [] = d := by
    obtain ⟨start, nodes⟩ := Draft.foldl_nodes h.nodes { start := d.start }
    have order : (d.nodes.reverse ++ ({ start := d.start } : Draft).nodes).reverse = d.nodes := by
      rw [show ({ start := d.start } : Draft).nodes = [] from rfl, List.append_nil, List.reverse_reverse]
    rw [parse, foldl_written h, List.foldl_append, foldl_start h.start, start, nodes, order]
    exact h.plain.symm
  refine ⟨lenient, fun shown => ?_⟩
  rw [parse_true, lenient, hushed_of_shown shown]

/-- Names that look like headings and directives, and lines that say nothing, are read back as well. -/
theorem parse_written_meeting :
    let d : Dialog := {
      start := "#gate".toList
      nodes := [
        { name := "#gate".toList,
          lines := [
            { speaker := "Éxit".toList, text := "Who: are you?".toList,
              responses := [⟨"-".toList, "hall".toList⟩, ⟨[], "#".toList⟩] },
            {}] },
        { name := [], lines := [{ speaker := "=> If".toList }] },
        {}] }
    d.Writable ∧ (∀ n ∈ d.nodes, ∀ l ∈ n.lines, l.responses ≠ [] → l.isSilent = false) ∧
      parse false d.written [] = d ∧ parse true d.written [] = d := by
  intro d
  have writable : d.Writable := by decide +kernel
  have shown : ∀ n ∈ d.nodes, ∀ l ∈ n.lines, l.responses ≠ [] → l.isSilent = false := by decide
  obtain ⟨lenient, strict⟩ := parse_written d writable
  exact ⟨writable, shown, lenient, strict shown⟩

end Script

end Parley
