import Mathlib.Tactic.Lemma
import Parley.Keyword.Basic

/-!
# Replacements

Expanding a text replaces its first keyword, and then the first keyword of what has come of it, and so on. However the
texts grow, and whatever the keys are found to stand for, the limit bounds the number of replacements.

* `Replaces`: a text after so many replacements of its first keyword.
* `Runs`: how an expansion may go on, whatever it learns about the keys.
* `Runs.replaces`, `Runs.ends`: what it has done in the end, and why it has ended.
* `noting`: who is asked for keys also notes them down, whatever else he does, and if he fails.
* `comes_expandFrom`: an expansion takes one of these courses and asks for no key twice, or it is given up.

`expand_bounded` closes the file.
-/

namespace Parley.Keyword

variable {fuel count n : Nat} {known : Table Text Text} {t u key value : Text} {s : Span} {x : Expansion}

/-- A text after so many replacements of its first keyword by what the key means. -/
inductive Replaces (meaning : Text → Option Text) : Nat → Text → Text → Prop
  | none {t : Text} : Replaces meaning 0 t t
  | first {n : Nat} {s : Span} {value t u : Text} (found : span? t = some s) (means : meaning s.key = some value)
    (later : Replaces meaning n (s.before ++ value ++ s.after) u) : Replaces meaning (n + 1) t u

/-- How an expansion may go on that knows some keys already: it ends, or it replaces the first keyword by what the key
is known to stand for, or by something that it learns and keeps. -/
inductive Runs : (fuel count : Nat) → (known : Table Text Text) → (t : Text) → Expansion → Prop
  | finished {fuel count : Nat} {known : Table Text Text} {t : Text} (spanless : span? t = none) :
    Runs fuel count known t ⟨t, known, count, false⟩
  | stopped {count : Nat} {known : Table Text Text} {t : Text} {s : Span} (found : span? t = some s) :
    Runs 0 count known t ⟨t, known, count, true⟩
  | recalled {fuel count : Nat} {known : Table Text Text} {t value : Text} {s : Span} {x : Expansion}
    (found : span? t = some s) (there : known.get? s.key = some value)
    (later : Runs fuel (count + 1) known (s.before ++ value ++ s.after) x) : Runs (fuel + 1) count known t x
  | learned {fuel count : Nat} {known : Table Text Text} {t : Text} {s : Span} {x : Expansion}
    (found : span? t = some s) (missing : known.get? s.key = none) (value : Text)
    (later : Runs fuel (count + 1) (known.set s.key value) (s.before ++ value ++ s.after) x) :
    Runs (fuel + 1) count known t x

/-- What is known stays known. -/
lemma Runs.keeps (runs : Runs fuel count known t x) (there : known.get? key = some value) :
    x.known.get? key = some value := by
  induction runs with
  | finished | stopped => exact there
  | recalled _ _ _ ih => exact ih there
  | @learned fuel count known t s x _ missing value' _ ih =>
    refine ih ?_
    have other : s.key ≠ key := by
      rintro rfl
      rw [missing] at there
      cases there
    rw [Table.get?_set, if_neg other, there]

/-- What has been replaced stands for what is known in the end. -/
lemma Runs.replaces (runs : Runs fuel count known t x) :
    ∃ n ≤ fuel, x.count = count + n ∧ Replaces x.known.get? n t x.text := by
  induction runs with
  | finished | stopped => exact ⟨0, Nat.zero_le _, rfl, .none⟩
  | recalled found there later ih =>
    obtain ⟨n, few, counted, replaces⟩ := ih
    exact ⟨n + 1, Nat.succ_le_succ few, by omega, .first found (later.keeps there) replaces⟩
  | @learned fuel count known t s x found missing value later ih =>
    obtain ⟨n, few, counted, replaces⟩ := ih
    have there : (known.set s.key value).get? s.key = some value := by
      rw [Table.get?_set, if_pos rfl]
    exact ⟨n + 1, Nat.succ_le_succ few, by omega, .first found (later.keeps there) replaces⟩

/-- An expansion ends when there is no keyword left, or else at the limit. -/
lemma Runs.ends (runs : Runs fuel count known t x) :
    if x.limitReached then x.count = count + fuel ∧ (span? x.text).isSome else span? x.text = none := by
  induction runs with
  | finished spanless => exact spanless
  | stopped found => exact ⟨rfl, Option.isSome_iff_exists.mpr ⟨_, found⟩⟩
  | recalled _ _ _ ih | learned _ _ _ _ ih =>
    split
    · rename_i reached
      rw [if_pos reached] at ih
      exact ⟨by omega, ih.2⟩
    · rename_i unreached
      rwa [if_neg unreached] at ih

/-! ## Asking -/

section Asking

variable {ε σ α : Type} {asked : List Text} {result : EStateM.Result ε σ Expansion}

/-- A result with a list of what has been asked for. -/
def noted (asked : List Text) : EStateM.Result ε σ α → EStateM.Result ε (σ × List Text) α
  | .ok x s => .ok x (s, asked)
  | .error e s => .error e (s, asked)

/-- Notes down each key that is asked for. -/
def noting (resolve : Text → EStateM ε σ (Option Text)) (key : Text) : EStateM ε (σ × List Text) (Option Text) :=
  fun (s, asked) => noted (asked ++ [key]) (resolve key s)

/-- What has become of an expansion, and what it has asked for: it has taken one of its courses and asked for the keys
that it has learned, or somebody has failed whom it asked for one more. -/
def Comes (fuel count : Nat) (known : Table Text Text) (t : Text) (asked : List Text) :
    EStateM.Result ε σ Expansion → Prop
  | .ok x _ => asked = x.known.keys ∧ Runs fuel count known t x
  | .error _ _ => asked.Nodup ∧ asked.length ≤ known.keys.length + fuel

/-- No key is asked for twice. -/
lemma Comes.nodup (comes : Comes fuel count known t asked result) : asked.Nodup := by
  cases result with
  | ok x => exact comes.1 ▸ x.known.nodup
  | error e => exact comes.1

/-- A key that is known is replaced without being asked for. -/
lemma Comes.recalled (found : span? t = some s) (there : known.get? s.key = some value)
    (comes : Comes fuel (count + 1) known (s.before ++ value ++ s.after) asked result) :
    Comes (fuel + 1) count known t asked result := by
  cases result with
  | ok x =>
    obtain ⟨same, runs⟩ := comes
    exact ⟨same, .recalled found there runs⟩
  | error e =>
    obtain ⟨distinct, few⟩ := comes
    exact ⟨distinct, by omega⟩

/-- A key that is learned comes behind those known already. -/
lemma keys_learned (missing : known.get? key = none) (value : Text) :
    (known.set key value).keys = known.keys ++ [key] :=
  (Table.keys_set known key value).trans (if_neg (Table.lookup_eq_none_iff.mp missing))

/-- A key that is missing is asked for, and then known. -/
lemma Comes.learned (found : span? t = some s) (missing : known.get? s.key = none)
    (comes : Comes fuel (count + 1) (known.set s.key value) (s.before ++ value ++ s.after) asked result) :
    Comes (fuel + 1) count known t asked result := by
  cases result with
  | ok x =>
    obtain ⟨same, runs⟩ := comes
    exact ⟨same, .learned found missing value runs⟩
  | error e =>
    obtain ⟨distinct, few⟩ := comes
    rw [keys_learned missing, List.length_append, List.length_singleton] at few
    exact ⟨distinct, by omega⟩

/-- Noting down what is asked for changes nothing, and no key is noted twice. -/
lemma comes_expandFrom (resolve : Text → EStateM ε σ (Option Text)) (s : σ) :
    ∃ asked, expandFrom (noting resolve) fuel count known t (s, known.keys) =
        noted asked (expandFrom resolve fuel count known t s) ∧
      Comes fuel count known t asked (expandFrom resolve fuel count known t s) := by
  induction fuel generalizing count known t s with
  | zero =>
    unfold expandFrom
    cases found : span? t with
    | none => exact ⟨known.keys, rfl, rfl, .finished found⟩
    | some sp => exact ⟨known.keys, rfl, rfl, .stopped found⟩
  | succ fuel ih =>
    unfold expandFrom
    cases found : span? t with
    | none => exact ⟨known.keys, rfl, rfl, .finished found⟩
    | some sp =>
      dsimp only
      cases there : known.get? sp.key with
      | some value =>
        obtain ⟨asked, same, comes⟩ := ih s
        exact ⟨asked, same, comes.recalled found there⟩
      | none =>
        have new : (known.keys ++ [sp.key]).Nodup := keys_learned there [] ▸ (known.set sp.key []).nodup
        dsimp only [bind, EStateM.bind, noting]
        cases resolve sp.key s with
        | ok answer s' =>
          obtain ⟨asked, same, comes⟩ := @ih (count + 1) (known.set sp.key (answer.getD [])) _ s'
          rw [keys_learned there] at same
          exact ⟨asked, same, comes.learned found there⟩
        | error e s' => exact ⟨known.keys ++ [sp.key], rfl, new, by simp⟩

/-- A text without keywords is left as it is, and nobody is asked for anything. -/
lemma expand_of_none {m : Type → Type} [Monad m] (resolve : Text → m (Option Text)) (limit : Int)
    (spanless : span? t = none) : expand resolve limit t = pure ⟨t, Table.empty, 0, false⟩ := by
  unfold expand expandFrom
  rw [spanless]

/-- However an expansion goes, it makes no more replacements than the limit allows, and asks for no key twice. Each
replaces the first keyword by what is known of it in the end. Unless the limit is reached, no keyword is left, and to
expand the outcome again asks for nothing and changes nothing; if it is, as much as it allows has been replaced, and a
keyword is left. -/
theorem expand_bounded (resolve : Text → EStateM ε σ (Option Text)) (limit : Int) (t : Text) (s : σ) :
    ∃ asked : List Text, asked.Nodup ∧
      expand (noting resolve) limit t (s, []) = noted asked (expand resolve limit t s) ∧
      match expand resolve limit t s with
      | .ok x _ =>
        asked = x.known.keys ∧ x.count ≤ max limit 0 ∧ Replaces x.known.get? x.count t x.text ∧
        (x.limitReached = false → span? x.text = none ∧
          ∀ s', expand (noting resolve) limit x.text (s', []) = .ok ⟨x.text, Table.empty, 0, false⟩ (s', [])) ∧
        (x.limitReached = true → x.count = max limit 0 ∧ span? x.text ≠ none)
      | .error _ _ => asked.length ≤ max limit 0 := by
  obtain ⟨asked, same, comes⟩ := @comes_expandFrom limit.toNat 0 Table.empty t ε σ resolve s
  refine ⟨asked, comes.nodup, same, ?_⟩
  unfold expand
  generalize expandFrom resolve limit.toNat 0 Table.empty t s = outcome at comes
  cases outcome with
  | ok x s' =>
    obtain ⟨keys, runs⟩ := comes
    obtain ⟨n, few, counted, replaces⟩ := runs.replaces
    have ends := runs.ends
    rw [Nat.zero_add] at counted ends
    refine ⟨keys, by omega, counted ▸ replaces, fun unreached => ?_, fun reached => ?_⟩
    · rw [unreached, if_neg Bool.false_ne_true] at ends
      exact ⟨ends, fun s' => congrFun (expand_of_none (noting resolve) limit ends) (s', [])⟩
    · rw [reached, if_pos rfl] at ends
      exact ⟨by omega, Option.isSome_iff_ne_none.mp ends.2⟩
  | error e s' =>
    obtain ⟨-, few⟩ := comes
    have few' : asked.length ≤ 0 + limit.toNat := few
    dsimp only
    omega

end Asking

end Parley.Keyword
