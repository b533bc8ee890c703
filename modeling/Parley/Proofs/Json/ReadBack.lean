import Mathlib.Tactic.Lemma
import Parley.Json.Reader
import Parley.Json.Writer

/-!
# What is written is read back

Values without numbers are read back from the text that is written of them, in every layout and with
whatever stands behind them.

* `pieces_writeString`, `string_writeString`: a string is read back character by character.
* `Plain`: the values that this file is about, and how deep they nest.
* `value_write`: the reader takes a written value off the front of a text.

* `read_render`: a whole text is read back in every dialect that allows its depth.

`not_mem_render` closes the file: no carriage return is written, so a file with the text keeps its line ends.
-/

namespace Parley.Json

/-! ## Strings -/

/-- Pieces with one more character in front. -/
def spelled (c : Char) (found : Option (List Piece × Text)) : Option (List Piece × Text) :=
  found.map fun (ps, rest) => (.char c :: ps, rest)

/-- A short escape is read as the character that it stands for. -/
lemma pieces_backslash {c x : Char} (h : escaped? c = some x) (t : Text) :
    pieces ('\\' :: c :: t) = spelled x (pieces t) := by
  rw [pieces, h]
  · cases pieces t with
    | none => rfl
    | some found => rfl
  · rintro _ _ _ _ _ rfl
    rw [show escaped? 'u' = none from rfl] at h
    cases h

/-- An escaped code unit that is no half of a pair is read as its character. -/
lemma pieces_unit {a b c d : Char} {n : Nat} (h : hexUnit? a b c d = some n) (whole : isHalf n = false)
    (t : Text) : pieces ('\\' :: 'u' :: a :: b :: c :: d :: t) = spelled (Char.ofNat n) (pieces t) := by
  rw [pieces, h]
  simp only [Option.bind_eq_bind, Option.bind_some, whole]
  cases pieces t with
  | none => rfl
  | some found => rfl

/-- A printed character other than a quote or a backslash is read as itself. -/
lemma pieces_plain {c : Char} (quote : c ≠ '"') (backslash : c ≠ '\\') (printed : ¬ c.toNat < 0x20) (t : Text) :
    pieces (c :: t) = spelled c (pieces t) := by
  rw [pieces]
  · simp [printed, backslash, spelled]
  all_goals simp_all

/-- The number of a control character is spelled by four digits. -/
lemma hexDigits_control {n : Nat} (control : n < 0x20) : ∃ a b c d, Text.hexDigits 4 n = [a, b, c, d] ∧
    hexUnit? a b c d = some n ∧ isHalf n = false := by
  have all : ∀ n < 0x20, (Text.hexDigits 4 n).length = 4 ∧ isHalf n = false ∧
      ((Text.hexDigits 4 n)[0]?.bind fun a => (Text.hexDigits 4 n)[1]?.bind fun b =>
        (Text.hexDigits 4 n)[2]?.bind fun c => (Text.hexDigits 4 n)[3]?.bind fun d => hexUnit? a b c d) = some n := by
    decide
  obtain ⟨length, whole, unit⟩ := all n control
  match Text.hexDigits 4 n, length, unit with
  | [a, b, c, d], _, unit => exact ⟨a, b, c, d, rfl, unit, whole⟩

/-- What is written of a character is read as that character. -/
lemma pieces_escape (c : Char) (t : Text) : pieces (escape c ++ t) = spelled c (pieces t) := by
  unfold escape
  split
  case h_8 quote backslash _ _ _ _ _ =>
    split
    · rename_i control
      obtain ⟨w, x, y, z, digits, unit, whole⟩ := hexDigits_control control
      rw [digits]
      have read := pieces_unit unit whole t
      rw [Char.ofNat_toNat] at read
      exact read
    · rename_i printed
      exact pieces_plain quote backslash printed t
  all_goals exact pieces_backslash rfl t

/-- A written string is read back up to its closing quote. -/
lemma pieces_writeString (t rest : Text) :
    pieces (t.flatMap escape ++ '"' :: rest) = some (t.map .char, rest) := by
  induction t with
  | nil => rfl
  | cons c t ih =>
    rw [List.flatMap_cons, List.append_assoc, pieces_escape, ih]
    rfl

/-- Whole characters are spelled as they are. -/
lemma spell?_map_char (halves : Bool) (t : Text) : spell? halves (t.map .char) = some t := by
  induction t with
  | nil => rfl
  | cons c t ih => rw [List.map_cons, spell?, ih, Option.map_some]

/-- The string behind its opening quote. -/
lemma string_writeString (d : Dialect) (t rest : Text) :
    string d (t.flatMap escape ++ '"' :: rest) = .ok (t, rest) := by
  rw [string, pieces_writeString]
  dsimp only
  rw [spell?_map_char]

/-! ## Gaps -/

/-- Gaps are skipped. -/
lemma skipGaps_of_gaps {g : Text} (gaps : ∀ c ∈ g, isGap c = true) (t : Text) : skipGaps (g ++ t) = skipGaps t := by
  unfold skipGaps
  rw [List.dropWhile_append_of_pos gaps]

/-- The start of a line is skipped, with what indents it. -/
lemma skipGaps_lineAt (layout : Layout) (level : Nat) (t : Text) :
    skipGaps (layout.lineAt level ++ t) = skipGaps t := by
  refine skipGaps_of_gaps (fun c mem => ?_) t
  cases layout with
  | none => cases mem
  | some indent =>
    rcases List.mem_cons.mp mem with rfl | mem
    · rfl
    · rw [(List.mem_replicate.mp mem).2]
      rfl

/-- Nothing is skipped in front of what is no gap. -/
lemma skipGaps_of_not_gap {c : Char} (h : isGap c = false) (t : Text) : skipGaps (c :: t) = c :: t :=
  List.dropWhile_cons_of_neg (by rw [h]; exact Bool.false_ne_true)

/-! ## Values -/

/-- A value without numbers, with at most so many arrays and objects inside one another, whose objects have
different keys. -/
def Plain : (depth : Nat) → Json → Prop
  | depth + 1, .list js => ∀ j ∈ js, Plain depth j
  | depth + 1, .object ms => (ms.map Prod.fst).Nodup ∧ ∀ m ∈ ms, Plain depth m.2
  | 0, .list _ | 0, .object _ | _, .int _ | _, .float _ => False
  | _, .null | _, .bool _ | _, .text _ => True

/-- The members of an object are put together as they are, if their keys are different. -/
lemma ofMembers_of_nodup {ms : List (Text × Json)} (nodup : (ms.map Prod.fst).Nodup) : ofMembers ms = .object ms := by
  have written : ∀ (before ms : List (Text × Json)), ((before ++ ms).map Prod.fst).Nodup →
      ms.foldl (fun ms m => Table.write m.1 m.2 ms) before = before ++ ms := by
    intro before ms
    induction ms generalizing before with
    | nil => simp
    | cons m ms ih =>
      intro nodup
      have fresh : m.1 ∉ before.map Prod.fst := by
        rw [List.map_append, List.map_cons] at nodup
        have apart := (List.nodup_append.mp nodup).2.2
        exact fun mem => apart _ mem _ List.mem_cons_self rfl
      have last : Table.write m.1 m.2 before = before ++ [m] := by
        clear nodup ih
        induction before with
        | nil => rfl
        | cons b before ih =>
          rw [List.map_cons, List.mem_cons, not_or] at fresh
          rw [Table.write, if_neg (Ne.symm fresh.1), ih fresh.2, List.cons_append]
      rw [List.foldl_cons, last, ih, List.append_assoc, List.singleton_append]
      rw [List.append_assoc, List.singleton_append]
      exact nodup
  exact congrArg Json.object (written [] ms nodup)

/-- A written value does not begin with a gap, nor with a bracket that closes. -/
lemma write_eq_cons {depth : Nat} {j : Json} (plain : Plain depth j) (layout : Layout) (level : Nat) :
    ∃ c t, write layout level j = c :: t ∧ isGap c = false ∧ c ≠ ']' ∧ c ≠ '\x7d' := by
  cases j with
  | null => exact ⟨'n', _, rfl, rfl, by decide, by decide⟩
  | bool b =>
    cases b with
    | true => exact ⟨'t', _, rfl, rfl, by decide, by decide⟩
    | false => exact ⟨'f', _, rfl, rfl, by decide, by decide⟩
  | int n => cases depth <;> cases plain
  | float x => cases depth <;> cases plain
  | text t => exact ⟨'"', _, rfl, rfl, by decide, by decide⟩
  | list js =>
    cases js with
    | nil => exact ⟨'[', _, rfl, rfl, by decide, by decide⟩
    | cons j js => exact ⟨'[', _, by rw [write]; rfl, rfl, by decide, by decide⟩
  | object ms =>
    cases ms with
    | nil => exact ⟨'\x7b', _, rfl, rfl, by decide, by decide⟩
    | cons m ms => exact ⟨'\x7b', _, by rw [write]; rfl, rfl, by decide, by decide⟩

/-- Reading a value takes a step at least. -/
lemma succ_of_enough {depth : Nat} {j : Json} (plain : Plain depth j) {layout : Layout} {level fuel : Nat}
    (enough : 2 * (write layout level j).length ≤ fuel) : ∃ n, fuel = n + 1 := by
  obtain ⟨c, t, e, -⟩ := write_eq_cons plain layout level
  rw [e, List.length_cons] at enough
  exact ⟨fuel - 1, by omega⟩

/-- As many arrays and objects as are still to come may be opened inside those that are open. -/
def Dialect.Holds (d : Dialect) (depth more : Nat) : Prop :=
  depth + more ≤ d.depthLimit

/-- If there are more to come, one may be opened. -/
lemma Dialect.Holds.allows {d : Dialect} {depth more : Nat} (h : d.Holds depth (more + 1)) : d.allows depth = true := by
  have room : depth + (more + 1) ≤ d.depthLimit := h
  exact decide_eq_true (by omega)

/-- Inside one more there are fewer to come. -/
lemma Dialect.Holds.inside {d : Dialect} {depth more : Nat} (h : d.Holds depth (more + 1)) :
    d.Holds (depth + 1) more := by
  have room : depth + (more + 1) ≤ d.depthLimit := h
  exact Nat.le_trans (Nat.le_of_eq (by omega)) room

section Reads

variable {d : Dialect} {depth more : Nat} {layout : Layout} {level : Nat} {rest : Text}

/-- The reader takes written values of a kind off the front of a text. -/
def Takes (d : Dialect) (depth : Nat) (layout : Layout) (P : Json → Prop) : Prop :=
  ∀ {j}, P j → ∀ {level fuel t rest}, skipGaps t = write layout level j ++ rest →
    2 * (write layout level j).length ≤ fuel → value d fuel depth t = .ok (j, rest)

/-- Nothing is skipped in front of a written value. -/
lemma skipGaps_write {P : Json → Prop} (kind : ∀ {j}, P j → ∃ depth, Plain depth j) {j : Json} (h : P j) (t : Text) :
    skipGaps (write layout level j ++ t) = write layout level j ++ t := by
  obtain ⟨depth, plain⟩ := kind h
  obtain ⟨c, t', e, gap, -⟩ := write_eq_cons plain layout level
  rw [e, List.cons_append]
  exact skipGaps_of_not_gap gap _

/-- The items of a list are read back one after another, up to the bracket that closes it. -/
lemma items_write (takes : Takes d depth layout (Plain more)) {js : List Json} :
    ∀ {j fuel t close}, Plain more j → (∀ i ∈ js, Plain more i) →
      skipGaps t = write layout level j ++ (writeItems layout level js ++ close) → skipGaps close = ']' :: rest →
      2 * (write layout level j ++ writeItems layout level js).length + 1 ≤ fuel →
      items d fuel depth t = .ok (j :: js, rest) := by
  induction js with
  | nil =>
    intro j fuel t close plain _ front closes enough
    obtain ⟨fuel, rfl⟩ : ∃ n, fuel = n + 1 := ⟨fuel - 1, by omega⟩
    rw [items, takes plain front (by simp only [List.length_append] at enough; omega)]
    simp only [writeItems, List.nil_append, closes]
  | cons k js ih =>
    intro j fuel t close plain plains front closes enough
    obtain ⟨fuel, rfl⟩ : ∃ n, fuel = n + 1 := ⟨fuel - 1, by omega⟩
    simp only [writeItems, List.length_append, List.length_cons] at enough
    rw [items, takes plain front (by omega)]
    have comma : skipGaps (writeItems layout level (k :: js) ++ close) =
        ',' :: (layout.lineAt level ++ (write layout level k ++ (writeItems layout level js ++ close))) := by
      simp only [writeItems, List.cons_append, List.append_assoc]
      exact skipGaps_of_not_gap rfl _
    simp only [comma]
    rw [ih (plains k List.mem_cons_self) (fun i mem => plains i (List.mem_cons_of_mem _ mem)) ?_ closes ?_]
    · rfl
    · rw [skipGaps_lineAt]
      exact skipGaps_write (fun h => ⟨more, h⟩) (plains k List.mem_cons_self) _
    · simp only [List.length_append]
      omega

/-- A member is read back up to what stands behind it: the brace that closes, or a comma and other members. -/
lemma members_member (takes : Takes d depth layout (Plain more)) {k : Text} {j : Json} (plain : Plain more j)
    {fuel : Nat} {t behind : Text}
    (front : skipGaps t = writeString k ++ (layout.colon ++ (write layout level j ++ behind)))
    (enough : 2 * (write layout level j).length ≤ fuel) :
    (skipGaps behind = '\x7d' :: rest → members d (fuel + 1) depth t = .ok ([(k, j)], rest)) ∧
      (skipGaps behind = ',' :: rest → members d (fuel + 1) depth t =
        (members d fuel depth rest).map fun (ms, rest) => ((k, j) :: ms, rest)) := by
  obtain ⟨space, gaps, colon⟩ : ∃ space : Text, skipGaps (space ++ (write layout level j ++ behind)) =
      write layout level j ++ behind ∧ layout.colon = ':' :: space := by
    cases layout with
    | none => exact ⟨[], skipGaps_write (fun h => ⟨more, h⟩) plain _, rfl⟩
    | some indent => exact ⟨[' '], skipGaps_write (fun h => ⟨more, h⟩) plain _, rfl⟩
  have key : writeString k ++ (layout.colon ++ (write layout level j ++ behind)) =
      '"' :: (k.flatMap escape ++ '"' :: ':' :: (space ++ (write layout level j ++ behind))) := by
    rw [colon, writeString]
    simp only [List.cons_append, List.append_assoc, List.nil_append]
  rw [members, front, key]
  simp only [string_writeString, skipGaps_of_not_gap (show isGap ':' = false from rfl), takes plain gaps enough]
  constructor
  · intro closes
    simp only [closes]
  · intro comma
    simp only [comma]

/-- The members of an object are read back one after another, up to the brace that closes it. -/
lemma members_write (takes : Takes d depth layout (Plain more)) {ms : List (Text × Json)} :
    ∀ {k j fuel t close}, Plain more j → (∀ m ∈ ms, Plain more m.2) →
      skipGaps t = writeString k ++ (layout.colon ++ (write layout level j ++
        (writeMembers layout level ms ++ close))) → skipGaps close = '\x7d' :: rest →
      2 * (write layout level j ++ writeMembers layout level ms).length + 1 ≤ fuel →
      members d fuel depth t = .ok ((k, j) :: ms, rest) := by
  induction ms with
  | nil =>
    intro k j fuel t close plain _ front closes enough
    obtain ⟨fuel, rfl⟩ : ∃ n, fuel = n + 1 := ⟨fuel - 1, by omega⟩
    simp only [List.length_append] at enough
    exact (members_member takes plain front (by omega)).1 closes
  | cons m ms ih =>
    intro k j fuel t close plain plains front closes enough
    obtain ⟨fuel, rfl⟩ : ∃ n, fuel = n + 1 := ⟨fuel - 1, by omega⟩
    obtain ⟨k', j'⟩ := m
    simp only [writeMembers, List.length_append, List.length_cons] at enough
    have comma : skipGaps (writeMembers layout level ((k', j') :: ms) ++ close) =
        ',' :: (layout.lineAt level ++ (writeString k' ++ (layout.colon ++ (write layout level j' ++
          (writeMembers layout level ms ++ close))))) := by
      simp only [writeMembers, List.cons_append, List.append_assoc]
      exact skipGaps_of_not_gap rfl _
    rw [(members_member takes plain front (by omega)).2 comma]
    rw [ih (plains _ List.mem_cons_self) (fun m mem => plains m (List.mem_cons_of_mem _ mem)) ?_ closes ?_]
    · rfl
    · rw [skipGaps_lineAt]
      exact skipGaps_of_not_gap rfl _
    · simp only [List.length_append]
      omega

end Reads

/-- What nests nothing is read by its first letter. -/
lemma value_leaf {d : Dialect} {depth : Nat} {layout : Layout} : Takes d depth layout (Plain 0) := by
  intro j plain level fuel t rest front enough
  obtain ⟨fuel, rfl⟩ := succ_of_enough plain enough
  rw [value, front]
  cases j with
  | null => rfl
  | bool b => cases b <;> rfl
  | int n => cases plain
  | float x => cases plain
  | text s =>
    simp only [write, writeString, List.cons_append, List.append_assoc, List.nil_append, string_writeString]
    rfl
  | list js => cases plain
  | object ms => cases plain

/-- A written list is read back if its items are. -/
lemma value_list {d : Dialect} {depth more : Nat} {layout : Layout} (takes : Takes d (depth + 1) layout (Plain more))
    (allows : d.allows depth = true) {js : List Json} (plain : ∀ j ∈ js, Plain more j) {level fuel : Nat}
    {t rest : Text} (front : skipGaps t = write layout level (.list js) ++ rest)
    (enough : 2 * (write layout level (.list js)).length ≤ fuel + 1) :
    value d (fuel + 1) depth t = .ok (.list js, rest) := by
  rw [value, front]
  cases js with
  | nil =>
    simp only [write, List.cons_append, List.nil_append, allows, if_true,
      skipGaps_of_not_gap (show isGap ']' = false from rfl)]
  | cons j js =>
    have first := plain j List.mem_cons_self
    have others : ∀ i ∈ js, Plain more i := fun i mem => plain i (List.mem_cons_of_mem _ mem)
    have inside (u : Text) : skipGaps (write layout (level + 1) j ++ u) = write layout (level + 1) j ++ u :=
      skipGaps_write (fun h => ⟨more, h⟩) first u
    have closes : skipGaps (layout.lineAt level ++ ']' :: rest) = ']' :: rest := by
      rw [skipGaps_lineAt]
      exact skipGaps_of_not_gap rfl _
    simp only [write, List.length_cons, List.length_append] at enough
    have read : items d fuel (depth + 1) (write layout (level + 1) j ++ (writeItems layout (level + 1) js ++
        (layout.lineAt level ++ ']' :: rest))) = .ok (j :: js, rest) := by
      refine items_write takes first others (inside _) closes ?_
      simp only [List.length_append]
      omega
    obtain ⟨c, w, e, -, bracket, -⟩ := write_eq_cons first layout (level + 1)
    simp only [write, List.cons_append, List.nil_append, List.append_assoc, allows, if_true, skipGaps_lineAt, inside]
    rw [e, List.cons_append] at read ⊢
    split
    · rename_i front
      exact absurd (List.cons.inj front).1 bracket
    · rw [read]
      rfl

/-- A written object is read back if the values in it are, and its keys are distinct. -/
lemma value_object {d : Dialect} {depth more : Nat} {layout : Layout}
    (takes : Takes d (depth + 1) layout (Plain more)) (allows : d.allows depth = true) {ms : List (Text × Json)}
    (nodup : (ms.map Prod.fst).Nodup) (plain : ∀ m ∈ ms, Plain more m.2) {level fuel : Nat} {t rest : Text}
    (front : skipGaps t = write layout level (.object ms) ++ rest)
    (enough : 2 * (write layout level (.object ms)).length ≤ fuel + 1) :
    value d (fuel + 1) depth t = .ok (.object ms, rest) := by
  rw [value, front]
  cases ms with
  | nil =>
    simp only [write, List.cons_append, List.nil_append, allows, if_true,
      skipGaps_of_not_gap (show isGap '\x7d' = false from rfl)]
  | cons m ms =>
    obtain ⟨k, j⟩ := m
    have first : Plain more j := plain _ List.mem_cons_self
    have others : ∀ m ∈ ms, Plain more m.2 := fun m mem => plain m (List.mem_cons_of_mem _ mem)
    have inside (u : Text) : skipGaps (writeString k ++ u) = writeString k ++ u := skipGaps_of_not_gap rfl _
    have closes : skipGaps (layout.lineAt level ++ '\x7d' :: rest) = '\x7d' :: rest := by
      rw [skipGaps_lineAt]
      exact skipGaps_of_not_gap rfl _
    simp only [write, List.length_cons, List.length_append] at enough
    have read : members d fuel (depth + 1) (writeString k ++ (layout.colon ++ (write layout (level + 1) j ++
        (writeMembers layout (level + 1) ms ++ (layout.lineAt level ++ '\x7d' :: rest))))) =
        .ok ((k, j) :: ms, rest) := by
      refine members_write takes first others (inside _) closes ?_
      simp only [List.length_append]
      omega
    simp only [write, List.cons_append, List.nil_append, List.append_assoc, allows, if_true, skipGaps_lineAt, inside]
    rw [show writeString k = '"' :: (k.flatMap escape ++ ['"']) from rfl, List.cons_append] at read ⊢
    split
    · rename_i front
      exact absurd (List.cons.inj front).1 (by decide)
    · rw [read]
      exact congrArg (fun j => Except.ok (j, rest)) (ofMembers_of_nodup nodup)

/-- The reader takes a written value off the front of a text. -/
theorem value_write (d : Dialect) (layout : Layout) {more : Nat} :
    ∀ {depth}, d.Holds depth more → Takes d depth layout (Plain more) := by
  -- On how deep the value nests; what stands inside it is read by the items or members one level further in.
  induction more with
  | zero => exact fun _ => value_leaf
  | succ more ih =>
    intro depth holds j plain level fuel t rest front enough
    cases j with
    | null =>
      have leaf : Plain 0 .null := trivial
      exact value_leaf leaf front enough
    | bool b =>
      have leaf : Plain 0 (.bool b) := trivial
      exact value_leaf leaf front enough
    | text s =>
      have leaf : Plain 0 (.text s) := trivial
      exact value_leaf leaf front enough
    | int n => cases plain
    | float x => cases plain
    | list js =>
      obtain ⟨fuel, rfl⟩ := succ_of_enough plain enough
      exact value_list (ih holds.inside) holds.allows plain front enough
    | object ms =>
      obtain ⟨fuel, rfl⟩ := succ_of_enough plain enough
      exact value_object (ih holds.inside) holds.allows plain.1 plain.2 front enough

/-- A whole text is read back in every dialect that allows its depth. -/
theorem read_render {d : Dialect} {more : Nat} (holds : d.Holds 0 more) (layout : Layout) {j : Json}
    (plain : Plain more j) : read d (render layout j) = .ok j := by
  have front : skipGaps (render layout j) = write layout 0 j ++ [] := by
    rw [List.append_nil]
    obtain ⟨c, t, e, gap, -⟩ := write_eq_cons plain layout 0
    rw [render, e]
    exact skipGaps_of_not_gap gap t
  have taken : value d (2 * (render layout j).length + 1) 0 (render layout j) = .ok (j, []) :=
    value_write d layout holds plain front (Nat.le_succ _)
  rw [read, taken]
  rfl

/-! ## Line ends -/

/-- A carriage return is escaped. -/
lemma not_mem_escape (c : Char) : '\r' ∉ escape c := by
  unfold escape
  split
  case h_8 other _ =>
    split
    · rename_i control
      have digits : ∀ n < 0x20, '\r' ∉ Text.hexDigits 4 n := by decide
      simp [digits c.toNat control]
    · rw [List.mem_singleton]
      exact fun e => other e.symm
  all_goals decide

/-- There is no carriage return in a written string. -/
lemma not_mem_writeString (t : Text) : '\r' ∉ writeString t := by
  simp [writeString, not_mem_escape]

/-- There is no carriage return at the start of a line. -/
lemma not_mem_lineAt (layout : Layout) (level : Nat) : '\r' ∉ layout.lineAt level := by
  cases layout with
  | none => exact List.not_mem_nil
  | some indent => simp [Layout.lineAt, List.mem_replicate]

/-- There is no carriage return between a key and its value. -/
lemma not_mem_colon (layout : Layout) : '\r' ∉ layout.colon := by
  cases layout with
  | _ => simp [Layout.colon]

/-- There is no carriage return in a written value that nests nothing. -/
lemma not_mem_leaf (layout : Layout) {j : Json} (leaf : Plain 0 j) (level : Nat) : '\r' ∉ write layout level j := by
  cases j with
  | null => simp [write]
  | bool b => cases b <;> simp [write]
  | text t => exact not_mem_writeString t
  | _ => cases leaf

/-- There is no carriage return in a written value. -/
lemma not_mem_write (layout : Layout) {more : Nat} :
    ∀ {j}, Plain more j → ∀ level, '\r' ∉ write layout level j := by
  -- By the depth: items and members are less deep than what holds them, and their rows are a second induction.
  induction more with
  | zero => exact not_mem_leaf layout
  | succ more ih =>
    intro j plain level
    cases j with
    | null =>
      have leaf : Plain 0 .null := trivial
      exact not_mem_leaf layout leaf level
    | bool b =>
      have leaf : Plain 0 (.bool b) := trivial
      exact not_mem_leaf layout leaf level
    | text t => exact not_mem_writeString t
    | int n => cases plain
    | float x => cases plain
    | list js =>
      have items : ∀ js : List Json, (∀ j ∈ js, Plain more j) → '\r' ∉ writeItems layout (level + 1) js := by
        intro js
        induction js with
        | nil => exact fun _ => List.not_mem_nil
        | cons j js inner =>
          intro plain
          have first := ih (plain j List.mem_cons_self) (level + 1)
          have rest := inner fun i mem => plain i (List.mem_cons_of_mem _ mem)
          simp [writeItems, not_mem_lineAt, first, rest]
      cases js with
      | nil => simp [write]
      | cons j js =>
        have first := ih (plain j List.mem_cons_self) (level + 1)
        have rest := items js fun i mem => plain i (List.mem_cons_of_mem _ mem)
        simp [write, not_mem_lineAt, first, rest]
    | object ms =>
      have members : ∀ ms : List (Text × Json), (∀ m ∈ ms, Plain more m.2) →
          '\r' ∉ writeMembers layout (level + 1) ms := by
        intro ms
        induction ms with
        | nil => exact fun _ => List.not_mem_nil
        | cons m ms inner =>
          intro plain
          have first := ih (plain m List.mem_cons_self) (level + 1)
          have rest := inner fun i mem => plain i (List.mem_cons_of_mem _ mem)
          simp [writeMembers, not_mem_lineAt, not_mem_writeString, not_mem_colon, first, rest]
      cases ms with
      | nil => simp [write]
      | cons m ms =>
        have first := ih (plain.2 m List.mem_cons_self) (level + 1)
        have rest := members ms fun i mem => plain.2 i (List.mem_cons_of_mem _ mem)
        simp [write, not_mem_lineAt, not_mem_writeString, not_mem_colon, first, rest]

/-- No carriage return is written, so a file with the text keeps its line ends. -/
theorem not_mem_render (layout : Layout) {more : Nat} {j : Json} (plain : Plain more j) : '\r' ∉ render layout j :=
  not_mem_write layout plain 0

end Parley.Json
