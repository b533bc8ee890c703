import Parley.Proofs.Keyword.Replacements
import Parley.Proofs.Text.Cuts

/-!
# Templates

A template is made of plain pieces and of keywords that hold no angle bracket. Where keys stand for templates, a text
can be expanded piece by piece, each keyword giving way to the expansion of what it stands for. Replacing the first
keyword of the whole text again and again comes to the same, with as many replacements.

* `IsTemplate`: plain pieces and keywords.
* `Expands`: the expansion of a template, and the number of keywords that are expanded on the way.
* `Unfolds`: a text after so many of its keywords have been replaced, the leftmost first.
* `turns_within_of_expands`: replacing first keywords expands a template, behind whatever plain text it stands.
* `exists_of_turns`: what replacing first keywords comes to in the end is that expansion.
* `turns_expanded`: where the keys have a fixed meaning, to expand a text is to replace first keywords.

`expand_template` closes the file.
-/

namespace Parley.Keyword

open Text

variable {value : Text → Text} {n m : Nat} {t u v w p before key rest : Text}

/-- A text without angle brackets. -/
def Bare (t : Text) : Prop :=
  '<' ∉ t ∧ '>' ∉ t

instance (t : Text) : Decidable (Bare t) :=
  inferInstanceAs (Decidable (_ ∧ _))

/-- Plain pieces and keywords, one after another. -/
inductive IsTemplate : Text → Prop
  | nil : IsTemplate []
  | plain {piece rest : Text} (bare : Bare piece) (template : IsTemplate rest) : IsTemplate (piece ++ rest)
  | keyword {key rest : Text} (bare : Bare key) (template : IsTemplate rest) :
    IsTemplate (opening ++ key ++ closing ++ rest)

/-- The expansion of a template, and the number of keywords that are expanded: plain pieces stay, and a keyword gives
way to the expansion of what it stands for. -/
inductive Expands (value : Text → Text) : Text → Text → Nat → Prop
  | nil : Expands value [] [] 0
  | plain {n : Nat} {piece rest u : Text} (bare : Bare piece) (expands : Expands value rest u n) :
    Expands value (piece ++ rest) (piece ++ u) n
  | keyword {m n : Nat} {key rest v u : Text} (bare : Bare key) (inner : Expands value (value key) v m)
    (expands : Expands value rest u n) : Expands value (opening ++ key ++ closing ++ rest) (v ++ u) (m + n + 1)

/-- A text after so many of its keywords have been replaced, the leftmost first. -/
inductive Unfolds (value : Text → Text) : Nat → Text → Text → Prop
  | none {t : Text} : Unfolds value 0 t t
  | leftmost {n : Nat} {before key rest u : Text} (plain : Bare before) (bare : Bare key)
    (later : Unfolds value n (before ++ value key ++ rest) u) :
    Unfolds value (n + 1) (before ++ (opening ++ key ++ closing ++ rest)) u

/-! ## Keywords -/

/-- There are no brackets in nothing. -/
lemma bare_nil : Bare [] :=
  ⟨List.not_mem_nil, List.not_mem_nil⟩

/-- Two texts without brackets make one without brackets. -/
lemma Bare.append (bare : Bare t) (bare' : Bare u) : Bare (t ++ u) := by
  unfold Bare at *
  simp only [List.mem_append, not_or]
  exact ⟨⟨bare.1, bare'.1⟩, bare.2, bare'.2⟩

/-- The first keyword of a text that begins plainly. -/
lemma span?_keyword (plain : Bare before) (bare : Bare key) (rest : Text) :
    span? (before ++ (opening ++ key ++ closing ++ rest)) = some ⟨before, key, rest⟩ := by
  have front : cut opening (before ++ (opening ++ key ++ closing ++ rest)) = some (before, key ++ closing ++ rest) := by
    have cuts : cut opening (before ++ opening ++ (key ++ closing ++ rest)) = some (before, key ++ closing ++ rest) :=
      cut_of_first_not_mem plain.1
    rw [List.append_assoc] at cuts
    rwa [List.append_assoc, List.append_assoc, ← List.append_assoc key]
  have back : cut closing (key ++ closing ++ rest) = some (key, rest) := cut_of_first_not_mem bare.2
  rw [span?, front, Option.bind_eq_bind, Option.bind_some]
  dsimp only
  rw [back]
  rfl

/-- There is no keyword in a text without brackets. -/
lemma span?_bare (bare : Bare t) : span? t = none := by
  have front : cut opening t = none := cut_eq_none_of_mem List.mem_cons_self bare.1
  rw [span?, front]
  rfl

/-- A template is plain, or it has a first keyword. -/
lemma IsTemplate.first (template : IsTemplate t) : Bare t ∨ ∃ before key rest, Bare before ∧ Bare key ∧ IsTemplate rest ∧
    t = before ++ (opening ++ key ++ closing ++ rest) := by
  induction template with
  | nil => exact .inl bare_nil
  | @plain piece rest bare template ih =>
    obtain bare' | ⟨before, key, rest, plain, bare', template', rfl⟩ := ih
    · exact .inl (bare.append bare')
    · exact .inr ⟨piece ++ before, key, rest, bare.append plain, bare', template', (List.append_assoc _ _ _).symm⟩
  | @keyword key rest bare template ih => exact .inr ⟨[], key, rest, bare_nil, bare, template, rfl⟩

/-- Two templates make one. -/
lemma IsTemplate.append (template : IsTemplate t) (template' : IsTemplate u) : IsTemplate (t ++ u) := by
  induction template with
  | nil => exact template'
  | plain bare _ ih =>
    rw [List.append_assoc]
    exact .plain bare ih
  | keyword bare _ ih =>
    rw [List.append_assoc]
    exact .keyword bare ih

/-- A text without brackets is a template. -/
lemma isTemplate_of_bare (bare : Bare t) : IsTemplate t :=
  List.append_nil t ▸ .plain bare .nil

/-- A text without brackets expands to itself, without a replacement. -/
lemma expands_of_bare (bare : Bare t) : Expands value t t 0 := by
  have expands : Expands value (t ++ []) (t ++ []) 0 := .plain bare .nil
  rwa [List.append_nil] at expands

/-! ## Replacements -/

/-- The texts that come of replacing the first keyword, where each key has a value. -/
abbrev Turns (value : Text → Text) : Nat → Text → Text → Prop :=
  Replaces fun key => some (value key)

/-- A keyword is replaced first if only plain text stands before it. -/
lemma turns_keyword (plain : Bare before) (bare : Bare key) (later : Turns value n (before ++ value key ++ rest) u) :
    Turns value (n + 1) (before ++ (opening ++ key ++ closing ++ rest)) u :=
  .first (span?_keyword plain bare rest) rfl later

/-- What becomes of a keyword behind plain text becomes of its value in its place. -/
lemma turns_of_keyword (plain : Bare before) (bare : Bare key)
    (turns : Turns value (n + 1) (before ++ (opening ++ key ++ closing ++ rest)) u) :
    Turns value n (before ++ value key ++ rest) u := by
  cases turns with
  | first found means later =>
    rw [span?_keyword plain bare] at found
    cases found
    cases means
    exact later

/-- Replacements one after another add up. -/
lemma Turns.trans (first : Turns value m t u) (later : Turns value n u v) : Turns value (m + n) t v := by
  induction first with
  | none => rwa [Nat.zero_add]
  | @first m s value t u found means _ ih =>
    rw [Nat.succ_add]
    exact .first found means (ih later)

/-- In whatever plain text it stands, a template is expanded by replacing first keywords. -/
lemma turns_within_of_expands (expands : Expands value t u n) : Bare u ∧ ∀ p rest, Bare p →
    Turns value n (p ++ t ++ rest) (p ++ u ++ rest) := by
  induction expands with
  | nil => exact ⟨bare_nil, fun p rest _ => .none⟩
  | @plain n piece t u bare _ ih =>
    obtain ⟨bare', ih⟩ := ih
    refine ⟨bare.append bare', fun p rest plain => ?_⟩
    have later := ih (p ++ piece) rest (plain.append bare)
    simpa only [List.append_assoc] using later
  | @keyword m n key t v u bare _ _ ihv ihu =>
    obtain ⟨bareV, ihv⟩ := ihv
    obtain ⟨bareU, ihu⟩ := ihu
    refine ⟨bareV.append bareU, fun p rest plain => ?_⟩
    -- First all that comes of the keyword is expanded, and then what stands behind it.
    have inner := ihv p (t ++ rest) plain
    have later := ihu (p ++ v) rest (plain.append bareV)
    rw [List.append_assoc (p ++ v) t] at later
    have turns := turns_keyword plain bare (inner.trans later)
    simpa only [List.append_assoc] using turns

/-- An expansion has no brackets left, and is reached by as many replacements. -/
lemma turns_of_expands (expands : Expands value t u n) : Bare u ∧ Turns value n t u := by
  obtain ⟨bare, turns⟩ := turns_within_of_expands expands
  have alone := turns [] [] bare_nil
  rw [List.append_nil, List.append_nil] at alone
  exact ⟨bare, alone⟩

/-- What replacing first keywords comes to when none is left is the expansion of the template, which stands in plain
text or in front of anything. -/
lemma exists_of_turns (templates : ∀ key, IsTemplate (value key)) (template : IsTemplate t) (plain : Bare p)
    (turns : Turns value n (p ++ t ++ rest) u) (spanless : span? u = none) :
    ∃ v m k, m + k = n ∧ Expands value t v m ∧ Bare v ∧ Turns value k (p ++ v ++ rest) u := by
  induction n using Nat.strong_induction_on generalizing t p rest with
  | _ n ih =>
    obtain bare | ⟨before, key, rest', plain', bare, template', rfl⟩ := template.first
    · exact ⟨t, 0, n, Nat.zero_add n, expands_of_bare bare, bare, turns⟩
    · have place : p ++ (before ++ (opening ++ key ++ closing ++ rest')) ++ rest =
          (p ++ before) ++ (opening ++ key ++ closing ++ (rest' ++ rest)) := by
        simp only [List.append_assoc]
      rw [place] at turns
      cases n with
      | zero =>
        cases turns
        rw [span?_keyword (plain.append plain') bare] at spanless
        cases spanless
      | succ n =>
        -- What the keyword stands for is expanded first, in fewer replacements, and then what stands behind it.
        have turns := turns_of_keyword (plain.append plain') bare turns
        obtain ⟨v, m, k, rfl, inner, bareV, turns⟩ := ih n (Nat.lt_succ_self n) (templates key) (plain.append plain') turns
        rw [← List.append_assoc _ rest'] at turns
        have plainV := (plain.append plain').append bareV
        obtain ⟨w, m', k', rfl, later, bareW, turns⟩ := ih k (by omega) template' plainV turns
        refine ⟨before ++ (v ++ w), m + m' + 1, k', by omega, .plain plain' (.keyword bare inner later),
          plain'.append (bareV.append bareW), ?_⟩
        simpa only [List.append_assoc] using turns

/-- What is reached without a keyword left is an expansion, if all values are templates. -/
lemma expands_of_turns (templates : ∀ key, IsTemplate (value key)) (template : IsTemplate t)
    (turns : Turns value n t u) (spanless : span? u = none) : Expands value t u n := by
  rw [← List.append_nil t] at turns
  obtain ⟨v, m, k, rfl, expands, bare, later⟩ := exists_of_turns templates template bare_nil turns spanless
  rw [List.nil_append, List.append_nil] at later
  cases later with
  | none => exact expands
  | first found =>
    rw [span?_bare bare] at found
    cases found

/-- A text is replaced in one way only. -/
lemma Turns.eq_of_le (first : Turns value n t u) (spanless : span? u = none) (le : n ≤ m) (longer : Turns value m t v) :
    n = m ∧ u = v := by
  induction first generalizing m with
  | none =>
    cases longer with
    | none => exact ⟨rfl, rfl⟩
    | first found =>
      rw [spanless] at found
      cases found
  | @first n s value' t u found means _ ih =>
    cases longer with
    | none => omega
    | first found' means' later =>
      rw [found] at found'
      cases found'
      rw [means] at means'
      cases means'
      obtain ⟨same, same'⟩ := ih spanless (Nat.le_of_succ_le_succ le) later
      exact ⟨congrArg Nat.succ same, same'⟩

/-- The keywords of a template are replaced with the leftmost first. -/
lemma unfolds_of_turns (templates : ∀ key, IsTemplate (value key)) (template : IsTemplate t)
    (turns : Turns value n t u) : Unfolds value n t u := by
  induction turns with
  | none => exact .none
  | first found means later ih =>
    obtain bare | ⟨before, key, rest, plain, bare, template', rfl⟩ := template.first
    · rw [span?_bare bare] at found
      cases found
    · rw [span?_keyword plain bare] at found
      cases found
      cases means
      have template := ((isTemplate_of_bare plain).append (templates key)).append template'
      exact .leftmost plain bare (ih template)

/-- A template has one expansion at most. -/
lemma Expands.unique (expands : Expands value t u n) (expands' : Expands value t v m) : u = v ∧ n = m := by
  obtain ⟨bare, turns⟩ := turns_of_expands expands
  obtain ⟨bare', turns'⟩ := turns_of_expands expands'
  obtain le | le := Nat.le_total n m
  · obtain ⟨same, same'⟩ := turns.eq_of_le (span?_bare bare) le turns'
    exact ⟨same', same⟩
  · obtain ⟨same, same'⟩ := turns'.eq_of_le (span?_bare bare') le turns
    exact ⟨same'.symm, same.symm⟩

/-! ## Outcomes -/

/-- What is logged about an expansion. -/
def Expansion.entries (limit : Int) (x : Expansion) : List LogEntry :=
  if x.limitReached then [limitEntry limit] else []

/-- What a key stands for. Unknown keys stand for the empty text. -/
def standsFor (meaning : Text → Option Text) (key : Text) : Text :=
  (meaning key).getD []

/-- The expansion of a text where the keys have a fixed meaning. -/
def expanded (meaning : Text → Option Text) (limit : Int) (t : Text) : Expansion :=
  Id.run (expand (fun key => pure (meaning key)) limit t)

/-- The loop runs as `Runs` describes, if what it knows already is what the keys stand for. -/
lemma runs_expandFrom {meaning : Text → Option Text} {fuel count : Nat} {known : Table Text Text}
    (faithful : ∀ key v, known.get? key = some v → standsFor meaning key = v) :
    let x : Expansion := Id.run (expandFrom (fun key => pure (meaning key)) fuel count known t)
    Runs fuel count known t x ∧ ∀ key v, x.known.get? key = some v → standsFor meaning key = v := by
  induction fuel generalizing count known t with
  | zero =>
    unfold expandFrom
    cases found : span? t with
    | none => exact ⟨.finished found, faithful⟩
    | some s => exact ⟨.stopped found, faithful⟩
  | succ fuel ih =>
    unfold expandFrom
    cases found : span? t with
    | none => exact ⟨.finished found, faithful⟩
    | some s =>
      dsimp only
      cases there : known.get? s.key with
      | some v =>
        obtain ⟨runs, faithful⟩ := @ih (s.before ++ v ++ s.after) (count + 1) known faithful
        exact ⟨.recalled found there runs, faithful⟩
      | none =>
        have faithful' : ∀ key v, (known.set s.key (standsFor meaning s.key)).get? key = some v →
            standsFor meaning key = v := by
          intro key v learned
          rw [Table.get?_set] at learned
          split at learned
          · rename_i same
            cases learned
            rw [same]
          · exact faithful key v learned
        obtain ⟨runs, faithful'⟩ := @ih (s.before ++ standsFor meaning s.key ++ s.after) (count + 1) _ faithful'
        exact ⟨.learned found there _ runs, faithful'⟩

/-- What some keys mean is replaced alike where more keys mean something. -/
lemma Replaces.mono {meaning meaning' : Text → Option Text}
    (h : ∀ key v, meaning key = some v → meaning' key = some v) (replaces : Replaces meaning n t u) :
    Replaces meaning' n t u := by
  induction replaces with
  | none => exact .none
  | first found means _ ih => exact .first found (h _ _ means) ih

/-- Where the keys have a fixed meaning, an expansion replaces first keywords until none is left or the limit is
reached. -/
lemma turns_expanded (meaning : Text → Option Text) (limit : Nat) (t : Text) :
    let x := expanded meaning limit t
    x.count ≤ limit ∧ Turns (standsFor meaning) x.count t x.text ∧
      if x.limitReached then x.count = limit ∧ (span? x.text).isSome else span? x.text = none := by
  intro x
  have nothing : ∀ key v, (Table.empty : Table Text Text).get? key = some v → standsFor meaning key = v := by nofun
  obtain ⟨runs, faithful⟩ : Runs limit 0 Table.empty t x ∧ ∀ key v, x.known.get? key = some v → standsFor meaning key = v :=
    runs_expandFrom nothing
  obtain ⟨n, few, counted, replaces⟩ := runs.replaces
  have ends := runs.ends
  rw [Nat.zero_add] at counted ends
  subst counted
  exact ⟨few, replaces.mono fun key v there => congrArg some (faithful key v there), ends⟩

/-- Where keys stand for templates, a template is expanded piece by piece, each keyword into the expansion of what it
stands for, if the limit allows that many keywords. If it does not, and also if there is no end to them, as many as it
allows are replaced, the leftmost first, and this is logged once. -/
theorem expand_template (meaning : Text → Option Text) (templates : ∀ key v, meaning key = some v → IsTemplate v)
    {t : Text} (template : IsTemplate t) (limit : Nat) :
    let x := expanded meaning limit t
    (∀ u n, Expands (standsFor meaning) t u n → n ≤ limit → x.text = u ∧ x.count = n ∧ x.entries limit = []) ∧
    ((∀ u n, Expands (standsFor meaning) t u n → limit < n) →
      Unfolds (standsFor meaning) limit t x.text ∧ x.count = limit ∧ x.entries limit = [limitEntry limit]) := by
  intro x
  have templates' : ∀ key, IsTemplate (standsFor meaning key) := by
    intro key
    unfold standsFor
    cases known : meaning key with
    | none => exact .nil
    | some v => exact templates key v known
  obtain ⟨few, turns, ends⟩ := turns_expanded meaning limit t
  change x.count ≤ limit at few
  change Turns _ x.count t x.text at turns
  change if x.limitReached = true then x.count = limit ∧ (span? x.text).isSome = true else span? x.text = none at ends
  unfold Expansion.entries
  constructor
  · intro u n expands le
    obtain ⟨bare, turns'⟩ := turns_of_expands expands
    cases reached : x.limitReached with
    | true =>
      -- As many replacements as the limit allows are no fewer than those of the expansion, which leaves no keyword.
      rw [reached, if_pos rfl] at ends
      obtain ⟨same, stopped⟩ := ends
      obtain ⟨-, rfl⟩ := turns'.eq_of_le (span?_bare bare) (same ▸ le) turns
      rw [span?_bare bare] at stopped
      cases stopped
    | false =>
      rw [reached, if_neg Bool.false_ne_true] at ends
      obtain ⟨same, same'⟩ := (expands_of_turns templates' template turns ends).unique expands
      exact ⟨same, same', rfl⟩
  · intro beyond
    cases reached : x.limitReached with
    | true =>
      rw [reached, if_pos rfl] at ends
      obtain ⟨same, -⟩ := ends
      exact ⟨same ▸ unfolds_of_turns templates' template turns, same, rfl⟩
    | false =>
      rw [reached, if_neg Bool.false_ne_true] at ends
      have fewer := beyond _ _ (expands_of_turns templates' template turns ends)
      exact absurd few (Nat.not_le.mpr fewer)

/-- A keyword that brings in two others, one of which stands for nothing: three are expanded, if the limit is three. -/
theorem expand_template_hail :
    let meaning : Text → Option Text := fun key =>
      if key = "who".toList then some "<<name>> of <<town>>".toList
      else if key = "name".toList then some "Ada".toList
      else none
    (∀ key v, meaning key = some v → IsTemplate v) ∧ IsTemplate "Hail <<who>>!".toList ∧
      Expands (standsFor meaning) "Hail <<who>>!".toList "Hail Ada of !".toList 3 ∧
      (expanded meaning 3 "Hail <<who>>!".toList).text = "Hail Ada of !".toList ∧
      (expanded meaning 2 "Hail <<who>>!".toList).entries 2 = [limitEntry 2] := by
  intro meaning
  have name : IsTemplate "<<name>>".toList := @IsTemplate.keyword "name".toList [] (by decide) .nil
  have town : IsTemplate "<<town>>".toList := @IsTemplate.keyword "town".toList [] (by decide) .nil
  have piece : IsTemplate " of ".toList := isTemplate_of_bare (by decide)
  have templates : ∀ key v, meaning key = some v → IsTemplate v := by
    intro key v means
    dsimp only [meaning] at means
    split at means
    · cases means
      exact name.append (piece.append town)
    · split at means
      · cases means
        exact isTemplate_of_bare (by decide)
      · cases means
  have call : IsTemplate "<<who>>!".toList :=
    @IsTemplate.keyword "who".toList ['!'] (by decide) (isTemplate_of_bare (by decide))
  have template : IsTemplate "Hail <<who>>!".toList := @IsTemplate.plain "Hail ".toList _ (by decide) call
  have spanless : Expands (standsFor meaning) (standsFor meaning "town".toList) [] 0 := .nil
  have nowhere : Expands (standsFor meaning) " of <<town>>".toList " of ".toList 1 :=
    @Expands.plain _ 1 " of ".toList _ [] (by decide)
      (@Expands.keyword _ 0 0 "town".toList [] [] [] (by decide) spanless .nil)
  have ada : Expands (standsFor meaning) (standsFor meaning "name".toList) "Ada".toList 0 := expands_of_bare (by decide)
  have who : Expands (standsFor meaning) (standsFor meaning "who".toList) "Ada of ".toList 2 :=
    @Expands.keyword _ 0 1 "name".toList _ "Ada".toList " of ".toList (by decide) ada nowhere
  have called : Expands (standsFor meaning) "<<who>>!".toList "Ada of !".toList 3 :=
    @Expands.keyword _ 2 0 "who".toList ['!'] "Ada of ".toList ['!'] (by decide) who (expands_of_bare (by decide))
  have expands : Expands (standsFor meaning) "Hail <<who>>!".toList "Hail Ada of !".toList 3 :=
    @Expands.plain _ 3 "Hail ".toList _ "Ada of !".toList (by decide) called
  have done := (expand_template meaning templates template 3).1 _ 3 expands (by decide)
  have cut := (expand_template meaning templates template 2).2 fun u n other => by
    obtain ⟨-, same⟩ := other.unique expands
    omega
  exact ⟨templates, template, expands, done.1, cut.2.2⟩

end Parley.Keyword
