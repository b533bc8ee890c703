import Parley.Console
import Parley.Proofs.Number.Numerals
import Parley.Session.Call

/-!
# Answers on the console

What the console makes of the answers that it is given.

* `Picks`: the first of some answers to choose an option is the last one, and this is the option.
* `Leads`: the console comes from a position to a call.
* `leads_menu`: whatever a choice is for, the options are written, and the first answer that chooses one decides.

A query is answered with the label of the option (`leads_query`), so it is left to the stage to find the response again.
-/

namespace Parley.Console

/-! ## Choosing -/

section Picks

variable {count k : Nat} {answer : Text} {answers : List Text}

/-- Answers to a choice among so many options: those that choose nothing, and one that does. -/
inductive Picks (count : Nat) : List Text → Nat → Prop
  | taken {answer : Text} {k : Nat} (chosen : judge count answer = .ok (some k)) : Picks count [answer] k
  | missed {answer : Text} {answers : List Text} {k : Nat} (missed : judge count answer = .ok none)
    (later : Picks count answers k) : Picks count (answer :: answers) k

/-- An answer chooses none but the options that there are. -/
lemma lt_of_judge (chosen : judge count answer = .ok (some k)) : k < count := by
  unfold judge at chosen
  dsimp only at chosen
  split at chosen
  · split at chosen
    · split at chosen
      · rename_i n _ within
        rw [Bool.and_eq_true, decide_eq_true_eq, decide_eq_true_eq] at within
        cases chosen
        omega
      · cases chosen
    · cases chosen
    · cases chosen
  · cases chosen

/-- What answers choose in the end is one of the options. -/
lemma Picks.lt (picks : Picks count answers k) : k < count := by
  induction picks with
  | taken chosen => exact lt_of_judge chosen
  | missed missed later ih => exact ih

/-- An option is chosen by its number. -/
lemma judge_ofNat (few : (Numeral.ofNat (k + 1)).length ≤ Numeral.digitLimit) (lt : k < count) :
    judge count (Numeral.ofNat (k + 1)) = .ok (some k) := by
  have row := Numeral.row_ofNat few
  have spells := Numeral.spells_ofNat few
  have whole : Text.trim (Numeral.ofNat (k + 1)) = Numeral.ofNat (k + 1) :=
    Text.trimBy_eq fun c mem => spells.isBlank mem
  have digits : (!(Numeral.ofNat (k + 1)).isEmpty && (Numeral.ofNat (k + 1)).all Text.isDigitLike) = true := by
    rw [Bool.and_eq_true, List.all_eq_true]
    refine ⟨by simpa using row.nonempty, fun c mem => ?_⟩
    rw [Text.isDigitLike, row.digits c mem, Bool.true_or]
  have within : (decide (1 ≤ ((k + 1 : Nat) : Int)) && decide (((k + 1 : Nat) : Int) ≤ count)) = true := by
    rw [Bool.and_eq_true, decide_eq_true_eq, decide_eq_true_eq]
    omega
  unfold judge
  dsimp only
  rw [whole, digits, if_pos rfl, Numeral.read_of_spells spells]
  dsimp only
  rw [within, if_pos rfl]
  rfl

end Picks

/-! ## Talking -/

/-- The console comes from a position to a call while it is given answers. Keywords are replaced for it. -/
inductive Leads (expand : Text → Text) : Position → List Text → Call → Prop
  | write {p next : Position} {t : Text} {answers : List Text} {c : Call} (moves : move p = .write t next)
    (rest : Leads expand next answers c) : Leads expand p answers c
  | read {p q : Position} {prompt answer : Text} {next : Text → Except Fault Position} {answers : List Text}
    {c : Call} (moves : move p = .read prompt next) (heard : next answer = .ok q)
    (rest : Leads expand q answers c) : Leads expand p (answer :: answers) c
  | expand {p : Position} {t : Text} {next : Text → Position} {answers : List Text} {c : Call}
    (moves : move p = .expand t next) (rest : Leads expand (next (expand t)) answers c) : Leads expand p answers c
  | pass {p next : Position} {answers : List Text} {c : Call} (moves : move p = .pass next)
    (rest : Leads expand next answers c) : Leads expand p answers c
  | advance {p next : Position} {ticket : Ticket} {link : Text} (moves : move p = .advance ticket link next) :
    Leads expand p [] (.resume ticket link)
  | respond {p next : Position} {prompt : Prompt} {label : Text} (moves : move p = .respond prompt label next) :
    Leads expand p [] (.respond prompt label)

/-- The call that an option stands for. -/
def Purpose.call (purpose : Purpose) (options : List Text) (index : Nat) : Call :=
  match purpose with
  | .line responses ticket => .resume ticket ((responses[index]?.map (·.link)).getD [])
  | .query p => .respond p (options[index]?.getD [])

section Leads

variable {expand : Text → Text} {purpose : Purpose} {options answers : List Text} {k : Nat}

/-- The console has one thing to do at most. -/
theorem Leads.unique {p : Position} {c c' : Call} (leads : Leads expand p answers c)
    (leads' : Leads expand p answers c') : c = c' := by
  -- A position makes one move, and each rule is about another one.
  induction leads with
  | write moves rest ih =>
    cases leads' with
    | write moves' rest' =>
      cases moves.symm.trans moves'
      exact ih rest'
    | _ moves' => cases moves.symm.trans moves'
  | read moves heard rest ih =>
    cases leads' with
    | read moves' heard' rest' =>
      cases moves.symm.trans moves'
      cases heard.symm.trans heard'
      exact ih rest'
    | _ moves' => cases moves.symm.trans moves'
  | expand moves rest ih =>
    cases leads' with
    | expand moves' rest' =>
      cases moves.symm.trans moves'
      exact ih rest'
    | _ moves' => cases moves.symm.trans moves'
  | pass moves rest ih =>
    cases leads' with
    | pass moves' rest' =>
      cases moves.symm.trans moves'
      exact ih rest'
    | _ moves' => cases moves.symm.trans moves'
  | advance moves =>
    cases leads' with
    | advance moves' =>
      cases moves.symm.trans moves'
      rfl
    | _ moves' => cases moves.symm.trans moves'
  | respond moves =>
    cases leads' with
    | respond moves' =>
      cases moves.symm.trans moves'
      rfl
    | _ moves' => cases moves.symm.trans moves'

/-- A choice that is made leads to its call without another answer. -/
lemma leads_chosen : Leads expand (.chosen purpose options k) [] (purpose.call options k) := by
  cases purpose with
  | line responses ticket => exact .advance rfl
  | query p => exact .respond rfl

/-- The console asks until an option is chosen, at the choice or wherever it does the same. -/
lemma leads_choice {p : Position} (asks : move p = move (.choice purpose options))
    (picks : Picks options.length answers k) : Leads expand p answers (purpose.call options k) := by
  induction picks generalizing p with
  | taken chosen =>
    refine .read asks ?_ leads_chosen
    rw [chosen]
  | missed missed later ih =>
    refine .read (q := .again purpose options) asks ?_ (.write rfl (ih rfl))
    rw [missed]

/-- The options are written one after another, and then the console asks. -/
lemma leads_menu {number : Nat} {rest : List Text} (picks : Picks options.length answers k) :
    Leads expand (.menu purpose options number rest) answers (purpose.call options k) := by
  induction rest generalizing number with
  | nil => exact leads_choice rfl picks
  | cons o rest ih => exact .write rfl ih

/-- A query is answered with the label of the option that is chosen. -/
theorem leads_query {p : Prompt} (picks : Picks p.labels.length answers k) :
    Leads expand (.query p) answers (.respond p (p.labels[k]?.getD [])) := by
  have menu : Leads expand (.menu (.query p) p.labels 1 p.labels) answers ((Purpose.query p).call p.labels k) :=
    leads_menu picks
  refine .write rfl ?_
  split
  · exact menu
  · exact .write rfl menu

end Leads

end Parley.Console
