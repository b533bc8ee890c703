import Parley.Proofs.Console.Answers

/-!
# Choices

How a choice on the console comes out, whatever is typed.

* `Talks`: what there is to see while the console is given input, and how the choice comes out.
* `Names`: an answer is the number of an option.
* `Misleads`: an answer counts as digits and yet cannot be read as a number.
* `judge_of_names`, `judge_of_misleads`, `judge_of_idle`: what the console makes of each.
* `talks_iff`: one thing is to be seen, and the answers decide what it is.

`choice_comes_out` closes the file: the first answer that is not idle decides. `superscript_fails` shows an answer that
is no number of an option, and ends the choice all the same.
-/

namespace Parley

namespace Text

variable {c : Char}

/-- What counts as a digit is no blank. -/
lemma isBlank_of_isDigitLike (like : isDigitLike c = true) : isBlank c = false := by
  have clear : looseDigitRanges.all (fun range =>
      (List.range (range.2 + 1 - range.1)).all fun i => !isBlank (Char.ofNat (range.1 + i))) = true := by
    decide +kernel
  rw [isDigitLike, Bool.or_eq_true] at like
  obtain digit | loose := like
  · exact isBlank_of_isDecimal digit
  · obtain ⟨⟨first, last⟩, mem, within⟩ := List.any_eq_true.mp loose
    rw [Bool.and_eq_true, decide_eq_true_eq, decide_eq_true_eq] at within
    have near : c.toNat - first ∈ List.range (last + 1 - first) := List.mem_range.mpr (by omega)
    have here := List.all_eq_true.mp (List.all_eq_true.mp clear _ mem) _ near
    rw [Nat.add_sub_cancel' within.1, Char.ofNat_toNat] at here
    simpa using here

end Text

namespace Numeral

variable {t : Text}

/-- A text of characters that count as digits is read digit by digit. -/
lemma read_of_like (like : ∀ c ∈ t, Text.isDigitLike c = true) : read t =
    match magnitudeFrom 0 0 false t with
    | none => .error .malformed
    | some (value, count) => if digitLimit < count then .error (.tooLong count) else .ok value := by
  have untrimmed : Text.trimSpacing t = t := by
    refine Text.trimBy_eq fun c mem => ?_
    exact Text.isSpacing_of_isBlank (Text.isBlank_of_isDigitLike (like c mem))
  have unsigned : splitSign t = (false, t) := by
    unfold splitSign
    split
    · exact absurd (like '-' List.mem_cons_self) (by decide +kernel)
    · exact absurd (like '+' List.mem_cons_self) (by decide +kernel)
    · rfl
  rw [read, untrimmed, unsigned]
  rfl

/-- A digit in looks only has no place in a number. -/
lemma magnitudeFrom_of_loose {c : Char} (like : ∀ c ∈ t, Text.isDigitLike c = true) (mem : c ∈ t)
    (loose : Text.isDecimal c = false) (value count : Nat) (afterDigit : Bool) :
    magnitudeFrom value count afterDigit t = none := by
  induction t generalizing value count afterDigit with
  | nil => cases mem
  | cons c' t ih =>
    have plain : c' ≠ '_' := by
      rintro rfl
      exact absurd (like '_' List.mem_cons_self) (by decide +kernel)
    rw [magnitudeFrom, if_neg plain]
    cases digit : Text.digitValue? c' with
    | none => rfl
    | some d =>
      have other : c ≠ c' := by
        rintro rfl
        rw [Text.isDecimal, digit] at loose
        cases loose
      exact ih (fun c mem => like c (List.mem_cons_of_mem _ mem)) ((List.mem_cons.mp mem).resolve_left other) _ _ _

/-- The digits of any script count as digits. -/
lemma like_of_digits (digits : ∀ c ∈ t, Text.isDecimal c = true) : ∀ c ∈ t, Text.isDigitLike c = true := by
  intro c mem
  rw [Text.isDigitLike, digits c mem, Bool.true_or]

/-- Decimal digits are read as the number that they spell, unless they are too many. -/
lemma read_of_digits (nonempty : t ≠ []) (digits : ∀ c ∈ t, Text.isDecimal c = true) : read t =
    if digitLimit < t.length then .error (.tooLong t.length) else .ok (Literal.ofDigits t : Int) := by
  rw [read_of_like (like_of_digits digits), magnitudeFrom_digits digits 0 0 false (.inl nonempty), Nat.zero_add]
  rfl

/-- A text with a digit in looks only cannot be read as a number. -/
lemma read_of_loose {c : Char} (like : ∀ c ∈ t, Text.isDigitLike c = true) (mem : c ∈ t)
    (loose : Text.isDecimal c = false) : read t = .error .malformed := by
  rw [read_of_like like, magnitudeFrom_of_loose like mem loose]

end Numeral

namespace Console

/-! ## Answers -/

/-- An answer is the number of an option: trimmed, it is a row of decimal digits of any script that spell it. Options
are counted from zero, and their numbers go from one. -/
structure Names (count : Nat) (answer : Text) (k : Nat) : Prop where
  nonempty : Text.trim answer ≠ []
  digits : ∀ c ∈ Text.trim answer, Text.isDecimal c = true
  value : Literal.ofDigits (Text.trim answer) = k + 1
  lt : k < count

/-- An answer counts as digits and cannot be read as a number: one of them is a digit in looks only, or they are too
many. -/
inductive Misleads (answer : Text) : Fault → Prop
  | loose {c : Char} (like : ∀ c ∈ Text.trim answer, Text.isDigitLike c = true) (mem : c ∈ Text.trim answer)
    (loose : Text.isDecimal c = false) : Misleads answer (.noNumeral (Text.trim answer))
  | long (digits : ∀ c ∈ Text.trim answer, Text.isDecimal c = true)
    (long : Numeral.digitLimit < (Text.trim answer).length) :
    Misleads answer (.integerTooLong (Text.trim answer).length)

/-- An answer decides nothing. -/
structure Idle (count : Nat) (answer : Text) : Prop where
  nameless : ∀ k, ¬ Names count answer k
  honest : ∀ f, ¬ Misleads answer f

section Answers

variable {count k : Nat} {answer : Text} {f : Fault}

/-- An answer that counts as digits is judged by how it can be read. -/
lemma judge_of_like (nonempty : Text.trim answer ≠ []) (like : ∀ c ∈ Text.trim answer, Text.isDigitLike c = true) :
    judge count answer = match Numeral.read (Text.trim answer) with
      | .ok n => .ok (if 1 ≤ n && n ≤ count then .some (n.toNat - 1) else none)
      | .error .malformed => .error (.noNumeral (Text.trim answer))
      | .error (.tooLong digits) => .error (.integerTooLong digits) := by
  have counts : (!(Text.trim answer).isEmpty && (Text.trim answer).all Text.isDigitLike) = true := by
    rw [Bool.and_eq_true, List.all_eq_true]
    exact ⟨by simpa using nonempty, like⟩
  exact if_pos counts

/-- The number of an option chooses it, unless it cannot be read. -/
lemma judge_of_names (names : Names count answer k) (honest : ∀ f, ¬ Misleads answer f) :
    judge count answer = .ok (some k) := by
  have few : ¬ Numeral.digitLimit < (Text.trim answer).length := fun long => honest _ (.long names.digits long)
  have lt := names.lt
  have within : (decide (1 ≤ ((k + 1 : Nat) : Int)) && decide (((k + 1 : Nat) : Int) ≤ count)) = true := by
    rw [Bool.and_eq_true, decide_eq_true_eq, decide_eq_true_eq]
    omega
  rw [judge_of_like names.nonempty (Numeral.like_of_digits names.digits),
    Numeral.read_of_digits names.nonempty names.digits,
    if_neg few, names.value]
  dsimp only
  rw [within, if_pos rfl]
  rfl

/-- An answer that misleads ends the choice with its fault. -/
lemma judge_of_misleads (misleads : Misleads answer f) : judge count answer = .error f := by
  cases misleads with
  | loose like mem loose =>
    rw [judge_of_like (List.ne_nil_of_mem mem) like, Numeral.read_of_loose like mem loose]
  | long digits long =>
    have nonempty : Text.trim answer ≠ [] := List.ne_nil_of_length_pos (Nat.zero_lt_of_lt long)
    rw [judge_of_like nonempty (Numeral.like_of_digits digits), Numeral.read_of_digits nonempty digits, if_pos long]

/-- An idle answer chooses nothing. -/
lemma judge_of_idle (idle : Idle count answer) : judge count answer = .ok none := by
  cases counts : !(Text.trim answer).isEmpty && (Text.trim answer).all Text.isDigitLike with
  | false =>
    unfold judge
    dsimp only
    rw [counts, if_neg Bool.false_ne_true]
  | true =>
    rw [Bool.and_eq_true, List.all_eq_true] at counts
    obtain ⟨answered, like⟩ := counts
    have nonempty : Text.trim answer ≠ [] := by simpa using answered
    have digits : ∀ c ∈ Text.trim answer, Text.isDecimal c = true := by
      intro c mem
      by_contra loose
      exact idle.honest _ (.loose like mem (Bool.eq_false_iff.mpr loose))
    have few : ¬ Numeral.digitLimit < (Text.trim answer).length := fun long => idle.honest _ (.long digits long)
    -- What is left is a number, and it is none of an option.
    rw [judge_of_like nonempty like, Numeral.read_of_digits nonempty digits, if_neg few]
    dsimp only
    rw [if_neg]
    rw [Bool.and_eq_true, decide_eq_true_eq, decide_eq_true_eq]
    rintro ⟨first, last⟩
    exact idle.nameless (Literal.ofDigits (Text.trim answer) - 1) ⟨nonempty, digits, by omega, by omega⟩

end Answers

/-! ## Talks -/

/-- What there is to see of the console: a line that is written, or a prompt. -/
inductive Turn where
  | wrote (t : Text)
  | asked (prompt : Text)

/-- How a choice comes out, with the input that has not been read. -/
inductive Ending where
  | chose (index : Nat) (unread : List Text)
  | failed (f : Fault) (unread : List Text)
  /-- There was nothing left to read. -/
  | starved

/-- What there is to see while the console is given lines of input, and how the choice comes out. -/
inductive Talks : Position → List Text → List Turn → Ending → Prop
  | write {p next : Position} {t : Text} {input : List Text} {turns : List Turn} {e : Ending}
    (moves : move p = .write t next) (rest : Talks next input turns e) : Talks p input (.wrote t :: turns) e
  | read {p q : Position} {prompt answer : Text} {next : Text → Except Fault Position} {input : List Text}
    {turns : List Turn} {e : Ending} (moves : move p = .read prompt next) (heard : next answer = .ok q)
    (rest : Talks q input turns e) : Talks p (answer :: input) (.asked prompt :: turns) e
  | fail {p : Position} {prompt answer : Text} {next : Text → Except Fault Position} {input : List Text} {f : Fault}
    (moves : move p = .read prompt next) (fails : next answer = .error f) :
    Talks p (answer :: input) [.asked prompt] (.failed f input)
  | starve {p : Position} {prompt : Text} {next : Text → Except Fault Position} (moves : move p = .read prompt next) :
    Talks p [] [.asked prompt] .starved
  | choose {purpose : Purpose} {options input : List Text} {k : Nat} :
    Talks (.chosen purpose options k) input [] (.chose k input)

/-- The options with their numbers. -/
def listing (number : Nat) : List Text → List Turn
  | [] => []
  | o :: rest => .wrote (optionText number o) :: listing (number + 1) rest

/-- The console asks, and reminds the player and asks again so many times. -/
def asking (count : Nat) : Nat → List Turn
  | 0 => [.asked "> ".toList]
  | n + 1 => .asked "> ".toList :: .wrote (reminder count) :: asking count n

/-- How lines of input decide a choice: so many of them are idle, and the next one is not, if there is one. -/
inductive Decides (count : Nat) : List Text → Nat → Ending → Prop
  | names {answer : Text} {input : List Text} {k : Nat} (names : Names count answer k)
    (honest : ∀ f, ¬ Misleads answer f) : Decides count (answer :: input) 0 (.chose k input)
  | misleads {answer : Text} {input : List Text} {f : Fault} (misleads : Misleads answer f) :
    Decides count (answer :: input) 0 (.failed f input)
  | starves : Decides count [] 0 .starved
  | idles {answer : Text} {input : List Text} {n : Nat} {e : Ending} (idle : Idle count answer)
    (later : Decides count input n e) : Decides count (answer :: input) (n + 1) e

section Talks

variable {purpose : Purpose} {options input : List Text} {n : Nat} {e e' : Ending} {turns turns' : List Turn}

/-- Nothing is written or read when an option has been chosen. -/
lemma move_chosen_ne {k : Nat} : (∀ t next, move (.chosen purpose options k) ≠ .write t next) ∧
    ∀ prompt next, move (.chosen purpose options k) ≠ .read prompt next := by
  cases purpose with
  | line responses ticket | query p => exact ⟨nofun, nofun⟩

/-- The input decides what is to be seen, and how the choice comes out. -/
lemma Talks.unique {p : Position} (talks : Talks p input turns e) (talks' : Talks p input turns' e') :
    turns' = turns ∧ e' = e := by
  -- A position makes one move, so the rules for other moves do not apply; hearing and failing share theirs.
  induction talks generalizing turns' with
  | write moves rest ih =>
    cases talks' with
    | write moves' rest' =>
      cases moves.symm.trans moves'
      obtain ⟨rfl, rfl⟩ := ih rest'
      exact ⟨rfl, rfl⟩
    | read moves' | fail moves' | starve moves' => cases moves.symm.trans moves'
    | choose => exact absurd moves (move_chosen_ne.1 _ _)
  | read moves heard rest ih =>
    cases talks' with
    | read moves' heard' rest' =>
      cases moves.symm.trans moves'
      cases heard.symm.trans heard'
      obtain ⟨rfl, rfl⟩ := ih rest'
      exact ⟨rfl, rfl⟩
    | fail moves' fails' =>
      cases moves.symm.trans moves'
      cases heard.symm.trans fails'
    | write moves' => cases moves.symm.trans moves'
    | choose => exact absurd moves (move_chosen_ne.2 _ _)
  | fail moves fails =>
    cases talks' with
    | fail moves' fails' =>
      cases moves.symm.trans moves'
      cases fails.symm.trans fails'
      exact ⟨rfl, rfl⟩
    | read moves' heard' =>
      cases moves.symm.trans moves'
      cases fails.symm.trans heard'
    | write moves' => cases moves.symm.trans moves'
    | choose => exact absurd moves (move_chosen_ne.2 _ _)
  | starve moves =>
    cases talks' with
    | starve moves' =>
      cases moves.symm.trans moves'
      exact ⟨rfl, rfl⟩
    | write moves' => cases moves.symm.trans moves'
    | choose => exact absurd moves (move_chosen_ne.2 _ _)
  | choose =>
    cases talks' with
    | choose => exact ⟨rfl, rfl⟩
    | write moves' => exact absurd moves' (move_chosen_ne.1 _ _)
    | read moves' | fail moves' | starve moves' => exact absurd moves' (move_chosen_ne.2 _ _)

/-- The console asks until the choice is decided, at the choice or wherever it does the same. -/
lemma talks_choice {p : Position} (asks : move p = move (.choice purpose options))
    (decides : Decides options.length input n e) : Talks p input (asking options.length n) e := by
  induction decides generalizing p with
  | @names _ _ k names honest =>
    refine .read (q := .chosen purpose options k) asks ?_ .choose
    rw [judge_of_names names honest]
  | misleads misleads =>
    refine .fail asks ?_
    rw [judge_of_misleads misleads]
  | starves => exact .starve asks
  | idles idle later ih =>
    refine .read (q := .again purpose options) asks ?_ (.write rfl (ih rfl))
    rw [judge_of_idle idle]

/-- The options are written one after another, and then the console asks. -/
lemma talks_menu {number : Nat} {rest : List Text} (decides : Decides options.length input n e) :
    Talks (.menu purpose options number rest) input (listing number rest ++ asking options.length n) e := by
  induction rest generalizing number with
  | nil => exact talks_choice rfl decides
  | cons o rest ih => exact .write rfl ih

/-- One thing is to be seen, and the answers decide what it is. -/
lemma talks_iff (decides : Decides options.length input n e) :
    Talks (.menu purpose options 1 options) input turns e' ↔
      turns = listing 1 options ++ asking options.length n ∧ e' = e := by
  constructor
  · exact (talks_menu decides).unique
  · rintro ⟨rfl, rfl⟩
    exact talks_menu decides

/-- Whatever is typed decides a choice. -/
lemma exists_decides (count : Nat) (input : List Text) : ∃ n e, Decides count input n e := by
  induction input with
  | nil => exact ⟨0, _, .starves⟩
  | cons answer input ih =>
    by_cases honest : ∀ f, ¬ Misleads answer f
    · by_cases nameless : ∀ k, ¬ Names count answer k
      · obtain ⟨n, e, later⟩ := ih
        exact ⟨n + 1, e, .idles ⟨nameless, honest⟩ later⟩
      · simp only [not_forall, not_not] at nameless
        obtain ⟨k, names⟩ := nameless
        exact ⟨0, _, .names names honest⟩
    · simp only [not_forall, not_not] at honest
      obtain ⟨f, misleads⟩ := honest
      exact ⟨0, _, .misleads misleads⟩

/-- The answers before the one that decides. -/
lemma Decides.split {count : Nat} (decides : Decides count input n e) :
    ∃ idle rest, input = idle ++ rest ∧ idle.length = n ∧ (∀ answer ∈ idle, Idle count answer) ∧
      Decides count rest 0 e := by
  induction decides with
  | names names honest => exact ⟨[], _, rfl, rfl, nofun, .names names honest⟩
  | misleads misleads => exact ⟨[], _, rfl, rfl, nofun, .misleads misleads⟩
  | starves => exact ⟨[], _, rfl, rfl, nofun, .starves⟩
  | idles here later ih =>
    obtain ⟨idle, rest, rfl, rfl, all, decides⟩ := ih
    exact ⟨_ :: idle, rest, rfl, rfl, List.forall_mem_cons.mpr ⟨here, all⟩, decides⟩

end Talks

/-- Whatever a choice is for, and whatever is typed: the options are written, and the console asks, and asks again with
a reminder after each idle answer. If the first other answer is the number of an option, this option is chosen and no
more is read. If it only counts as digits, the choice fails. If there is no other answer, the input comes to its end. -/
theorem choice_comes_out (purpose : Purpose) (options input : List Text) :
    ∃ idle rest, input = idle ++ rest ∧ (∀ answer ∈ idle, Idle options.length answer) ∧
      ((∃ answer unread k, rest = answer :: unread ∧ Names options.length answer k ∧ (∀ f, ¬ Misleads answer f) ∧
        ∀ turns e, Talks (.menu purpose options 1 options) input turns e ↔
          turns = listing 1 options ++ asking options.length idle.length ∧ e = .chose k unread) ∨
      (∃ answer unread f, rest = answer :: unread ∧ Misleads answer f ∧
        ∀ turns e, Talks (.menu purpose options 1 options) input turns e ↔
          turns = listing 1 options ++ asking options.length idle.length ∧ e = .failed f unread) ∨
      (rest = [] ∧
        ∀ turns e, Talks (.menu purpose options 1 options) input turns e ↔
          turns = listing 1 options ++ asking options.length idle.length ∧ e = .starved)) := by
  obtain ⟨n, e, decides⟩ := exists_decides options.length input
  obtain ⟨idle, rest, whole, rfl, all, last⟩ := decides.split
  refine ⟨idle, rest, whole, all, ?_⟩
  cases last with
  | names names honest => exact .inl ⟨_, _, _, rfl, names, honest, fun _ _ => talks_iff decides⟩
  | misleads misleads => exact .inr (.inl ⟨_, _, _, rfl, misleads, fun _ _ => talks_iff decides⟩)
  | starves => exact .inr (.inr ⟨rfl, fun _ _ => talks_iff decides⟩)

/-- A superscript counts as a digit and is no number of an option. The choice fails at it, although the number of an
option comes next. -/
theorem superscript_fails :
    let options : List Text := [['y'], ['n']]
    (∀ k, ¬ Names options.length ['²'] k) ∧ Names options.length ['1'] 0 ∧
      Talks (.menu (.line [] 0) options 1 options) [['²'], ['1']] (listing 1 options ++ asking options.length 0)
        (.failed (.noNumeral ['²']) [['1']]) ∧
      ∀ turns k unread, ¬ Talks (.menu (.line [] 0) options 1 options) [['²'], ['1']] turns (.chose k unread) := by
  intro options
  have trimmed : Text.trim ['²'] = ['²'] := by decide +kernel
  have loose : Text.isDecimal '²' = false := by decide +kernel
  have mem : '²' ∈ Text.trim ['²'] := trimmed ▸ List.mem_cons_self
  have misleads : Misleads ['²'] (.noNumeral ['²']) := by
    have like : ∀ c ∈ Text.trim ['²'], Text.isDigitLike c = true := by
      rw [trimmed]
      exact List.forall_mem_singleton.mpr (by decide +kernel)
    have found : Misleads ['²'] (.noNumeral (Text.trim ['²'])) := .loose like mem loose
    rwa [trimmed] at found
  have names : Names options.length ['1'] 0 := by
    have trimmed : Text.trim ['1'] = ['1'] := by decide +kernel
    refine ⟨?_, ?_, ?_, Nat.zero_lt_two⟩
    · rw [trimmed]
      exact List.cons_ne_nil _ _
    · rw [trimmed]
      exact List.forall_mem_singleton.mpr (by decide +kernel)
    · rw [trimmed]
      decide +kernel
  have decides : Decides options.length [['²'], ['1']] 0 (.failed (.noNumeral ['²']) [['1']]) := .misleads misleads
  refine ⟨fun k names => ?_, names, talks_menu decides, ?_⟩
  · have digit := names.digits '²' mem
    rw [loose] at digit
    cases digit
  · intro turns k unread talks
    cases (talks.unique (talks_menu decides)).2

end Console

end Parley
