import Parley.Proofs.Console.Answers
import Parley.Proofs.Session.Stroll

/-!
# Queries

Where the answer to a query leads, if the player gives it on the console.

* `Stage.promptIn`: a query as it is put to the player.
* `Query.Answered`: the response that an answer is taken for, which is the first one with the same label.
* `Session.ledBy`: where a link leads from a line.
* `yields_respond`: an answer to the prompt at hand goes on by the link of that response.

`led_by_answer` closes the file: from the line of a query the session goes on by the link of the first response that has
the label of the chosen option. `misled` shows the difference: a second option with the label of the first leads where
the first one does.
-/

namespace Parley

/-! ## Prompts -/

/-- A query with its keywords replaced, to be answered with the ticket of the pause. -/
def Stage.promptIn (K : Company) (s : Stage) (q : Query) : Prompt where
  text := s.expandedIn K q.text
  description := s.expandedIn K q.description
  labels := q.responses.map fun r => s.expandedIn K r.text
  ticket := s.ticket
  query := q

/-- The response that option `k` of a query is taken for when labels are looked up: the first one with its label. -/
structure Query.Answered (q : Query) (label : Response → Text) (k j : Nat) (r : Response) : Prop where
  response : q.responses[j]? = some r
  le : j ≤ k
  same : q.responses[k]?.map label = some (label r)
  first : ∀ i < j, q.responses[i]?.map label ≠ some (label r)

/-- An option whose label is its own is taken for what it is. -/
lemma Query.Answered.eq_of_own {q : Query} {label : Response → Text} {k j : Nat} {r : Response}
    (answered : q.Answered label k j r)
    (own : ∀ i < k, q.responses[i]?.map label ≠ q.responses[k]?.map label) : j = k := by
  by_contra other
  apply own j (Nat.lt_of_le_of_ne answered.le other)
  rw [answered.response, answered.same]
  rfl

section Prompts

variable {K : Company} {s : Stage} {q : Query} {k : Nat}

/-- An answer to a prompt is looked up among the labels with their keywords replaced. -/
lemma link?_promptIn (label : Text) : (s.promptIn K q).link? label =
    (q.responses.find? fun r => s.expandedIn K r.text == label).map (·.link) := by
  unfold Prompt.link? Stage.promptIn
  dsimp only
  rw [← List.map_prod_left_eq_zip, List.find?_map, Option.map_map]
  rfl

/-- The label of an option is found, if not at the option itself then before. -/
lemma answered_promptIn (lt : k < q.responses.length) : ∃ j r,
    q.Answered (fun r => s.expandedIn K r.text) k j r ∧
      (s.promptIn K q).link? ((s.promptIn K q).labels[k]?.getD []) = some r.link := by
  have option : (s.promptIn K q).labels[k]?.getD [] = s.expandedIn K q.responses[k].text := by
    rw [Stage.promptIn, List.getElem?_map, List.getElem?_eq_getElem lt]
    rfl
  have there : (q.responses.find? fun r => s.expandedIn K r.text == s.expandedIn K q.responses[k].text).isSome := by
    rw [List.find?_isSome]
    exact ⟨_, List.getElem_mem lt, beq_self_eq_true _⟩
  obtain ⟨r, found⟩ := Option.isSome_iff_exists.mp there
  rw [option, link?_promptIn, found]
  obtain ⟨same, j, within, rfl, first⟩ := List.find?_eq_some_iff_getElem.mp found
  rw [beq_iff_eq] at same
  refine ⟨j, _, ⟨List.getElem?_eq_getElem within, ?_, ?_, ?_⟩, rfl⟩
  · by_contra later
    simpa using first k (Nat.lt_of_not_le later)
  · rw [List.getElem?_eq_getElem lt, Option.map_some, same]
  · intro i before
    rw [List.getElem?_eq_getElem (Nat.lt_trans before within), Option.map_some]
    intro e
    have other := first i before
    rw [Option.some.inj e, same, beq_self_eq_true] at other
    cases other

end Prompts

/-! ## Going on by a link -/

/-- Where a link leads from a line: to the first line of its node, or of the node that the line itself links to, or
else to the next line. -/
def Session.ledBy (x : Session) (s : Stage) (l : Line) (link : Text) : Session :=
  match (s.node? link).or (s.node? l.link) with
  | some n => { x with node := n, index := 0 }
  | none => { x with index := x.index + 1 }

/-- The stage with its session led to another place. -/
def Stage.ledTo (s : Stage) (x : Session) : Stage :=
  { s with session := some x }

/-- A link leads to the same place on stages with the same nodes. -/
lemma Session.ledBy_congr {x : Session} {s t : Stage} {l : Line} {link : Text}
    (same : ∀ name, t.node? name = s.node? name) : x.ledBy t l link = x.ledBy s l link := by
  unfold ledBy
  rw [same, same]

namespace Play

variable {K : Company} {P : Request → Prop} {s : Stage} {x : Session} {l : Line} {link : Text}
  (keywords : ∀ m key, P (.keyword m key)) (handlers : ∀ h e, P (.handle h e))

include handlers in
/-- Moving on by a link leads a session to the place of the link. -/
lemma yields_ledBy (stands : s.StandsAt x l) :
    (moveOn link).Yields K P s (s.ledTo (x.ledBy s l link)) () := by
  apply yields_of_get
  have target : targetOf s link = (s.node? link).or (s.node? l.link) := by
    unfold targetOf
    rw [stands.here]
    rfl
  unfold Session.ledBy
  rw [target]
  cases (s.node? link).or (s.node? l.link) with
  | some n =>
    have entered : (modify fun s => { s with session := s.session.map fun x => { x with node := n, index := 0 } }).Yields
        K P s (s.ledTo { x with node := n, index := 0 }) () := by
      have modified := yields_modify (K := K) (P := P) (s := s)
        (f := fun s => { s with session := s.session.map fun x => { x with node := n, index := 0 } })
      rw [stands.session] at modified
      exact modified
    exact entered.bind (yields_announce handlers rfl)
  | none =>
    have stepped : (goTo (x.index + 1)).Yields K P s (s.atLine (x.index + 1)) () := yields_goTo (x.index + 1)
    rw [Stage.atLine, stands.session] at stepped
    dsimp only
    rw [stands.session]
    exact stepped

include handlers in
/-- An answer to the prompt at hand goes on by the link of the response that is found for it. -/
lemma yields_respond {p : Prompt} {label : Text} (current : p.ticket = s.ticket) (awaiting : s.phase = .awaiting)
    (stands : s.resumed.StandsAt x l) (found : p.link? label = some link) :
    (Call.respond p label).play.Yields K P s (s.resumed.ledTo (x.ledBy s.resumed l link))
      (.run .nothing) := by
  have responds : (respond p label).Yields K P s (s.resumed.ledTo (x.ledBy s.resumed l link)) true := by
    apply yields_of_get
    rw [if_neg (not_not.mpr current), found]
    dsimp only
    rw [current]
    exact yields_resume awaiting (yields_ledBy handlers stands)
  exact responds.bind yields_pure

/-! ## Asking -/

include keywords in
/-- Several texts are expanded as the tables say. -/
lemma yields_expandTexts (ts : List Text) :
    (expandTexts ts).Yields K P s s (ts.map (s.expandedIn K)) := by
  induction ts with
  | nil => exact yields_pure
  | cons t ts ih => exact (yields_expandText keywords t).bind (ih.bind yields_pure)

include keywords in
/-- A query is expanded as the tables say. -/
lemma yields_expandQuery (q : Query) : (expandQuery q s.ticket).Yields K P s s (s.promptIn K q) := by
  unfold expandQuery Stage.promptIn
  have labels : (expandTexts (q.responses.map (·.text))).Yields K P s s
      (q.responses.map fun r => s.expandedIn K r.text) := by
    have texts := yields_expandTexts (K := K) (s := s) keywords (q.responses.map (·.text))
    rw [List.map_map] at texts
    exact texts
  refine labels.bind ((yields_expandText keywords q.text).bind ?_)
  exact (yields_expandText keywords q.description).bind yields_pure

include keywords handlers in
/-- A query is put to the query presenter in a pause. -/
lemma offers_askQuery {p : Nat} {q : Query} (session : s.session = some x) (asker : s.queryPresenter = some p) :
    (askQuery q).Offers K P s s.suspended (.query p (s.suspended.promptIn K q)) (pure ()) := by
  have handed : (handQuery (s.suspended.promptIn K q)).Offers K P s.suspended s.suspended
      (.query p (s.suspended.promptIn K q)) (pure ()) := by
    apply offers_of_get
    have there : s.suspended.queryPresenter = some p := asker
    rw [there]
    have offered := offers_ask (K := K) (P := P) (s := s.suspended) (q := .query p (s.suspended.promptIn K q))
      (f := fun _ => pure ()) rfl
    rw [bind_pure_unit] at offered
    exact offered
  have waits : s.suspended.session = some x := session
  apply offers_of_get
  rw [asker]
  refine yields_suspend.offers ((yields_expandQuery keywords q).offers ?_)
  exact (yields_announce handlers waits).offers handed

/-- A line that asks its query. -/
lemma perform_query (untested : l.ifVar = [] ∧ l.ifFunction = []) (valid : l.query.isValid = true) :
    perform l = askQuery l.query := by
  unfold perform
  rw [untested.1, untested.2, valid]
  rfl

end Play

/-- What a line does before it is tested leaves the window for queries. -/
lemma Stage.queryPresenter_acted (K : Company) (s : Stage) (l : Line) :
    (s.acted K l).queryPresenter = s.queryPresenter := by
  have assigned : (s.assigned l.setVar).queryPresenter = s.queryPresenter := by
    unfold Stage.assigned
    split
    · rfl
    · rfl
  unfold acted called
  split
  · exact assigned
  · exact (queryPresenter_callBuiltIn _ _ _).trans assigned

section Answers

variable {K : Company} {c c' : Call} {s : Stage} {x : Session} {l : Line} {p k : Nat} {answers : List Text}
  {expand : Text → Text}

/-- A session stands at a line that asks its query, and the company answers as the console does when the player picks
an option, whatever it says about keywords and functions. Then the line is the only one that is begun until the session
has gone on by the link of a response: the first one with the label of the option, as the labels are put to the player.
-/
theorem led_by_answer (stands : s.StandsAt x l) (inRun : s.inRun = true) (asker : s.queryPresenter = some p)
    (untested : l.ifVar = [] ∧ l.ifFunction = []) (valid : l.query.isValid = true)
    (picks : Console.Picks l.query.responses.length answers k)
    (console : Console.Leads expand (.query ((s.acted K l).suspended.promptIn K l.query)) answers c')
    (consults : ∀ shown, K.choose shown (.query p ((s.acted K l).suspended.promptIn K l.query)) = some c') :
    ∃ j r, l.query.Answered (fun r => (s.acted K l).expandedIn K r.text) k j r ∧
      K.Walks .atOnce c s [.line x.node x.index] ((s.acted K l).suspended.resumed.ledTo (x.ledBy s l r.link)) := by
  have kept : s.Keeps (s.acted K l) := Stage.keeps_acted l
  have acts := kept.standsAt stands
  obtain ⟨j, r, answered, found⟩ := answered_promptIn (K := K) (s := (s.acted K l).suspended) picks.lt
  refine ⟨j, r, answered, fun past a free => ?_⟩
  have labels : ((s.acted K l).suspended.promptIn K l.query).labels.length = l.query.responses.length := by
    rw [Stage.promptIn, List.length_map]
  rw [← labels] at picks
  obtain rfl := console.unique (Console.leads_query picks)
  -- The query is handed out behind the work of the line, and the call of the console goes on inside the request.
  have offers : Play.runLine.Offers K (·.handsOut = false) s (s.acted K l).suspended
      (.query p ((s.acted K l).suspended.promptIn K l.query)) (pure ()) := by
    apply Play.offers_runLine (fun _ _ => rfl) (fun _ _ _ => rfl) (fun _ _ => rfl) stands
    rw [Play.perform_query untested valid]
    exact Play.offers_askQuery (fun _ _ => rfl) (fun _ _ => rfl) acts.session
      ((Stage.queryPresenter_acted K s l).trans asker)
  refine Company.comesTo_handed free stands offers rfl fun past₁ shown k' due left final => ?_
  have resumes : (s.acted K l).suspended.resumed.StandsAt x l := ⟨acts.session, rfl, acts.line⟩
  have responds := Play.yields_respond (K := K) (P := (·.handsOut = false)) (fun _ _ => rfl) rfl rfl resumes found
  have nodes : ∀ name, (s.acted K l).suspended.resumed.node? name = s.node? name := kept.node?
  rw [Session.ledBy_congr nodes] at responds
  have going : ((s.acted K l).suspended.resumed.ledTo (x.ledBy s l r.link)).inRun = true := kept.inRun.trans inRun
  refine Company.comesTo_atOnce (due.trans (consults shown)) final (fun u => Play.yields_pure) rfl going responds ?_
  intro past₂ free₂ left₂
  exact .here ⟨free₂, left.trans left₂, a, rfl⟩

end Answers

/-! ## An inquiry -/

/-- A query with two responses. -/
def inquiry (first second : Text) : Node where
  lines := [{ query := { text := ['q'], responses := [⟨first, ['b']⟩, ⟨second, ['c']⟩] } }]

/-- Each response leads to a node of its own. -/
def Stage.inquiring (first second : Text) : Stage :=
  { monologue with
    queryPresenter := some 0
    agents := fun _ => { name := ['a'], dialog := { nodes := [inquiry first second,
      { name := ['b'], lines := [{ text := ['b'] }] }, { name := ['c'], lines := [{ text := ['c'] }] }] } } }

/-- A session has come to the query. -/
def Stage.inquired (first second : Text) : Stage :=
  { Stage.inquiring first second with
    phase := .running, inRun := true, session := some ⟨0, 0, inquiry first second, 0, none⟩ }

/-- A company that takes the second option of each query. -/
def Company.second : Company where
  reply := Request.plainReply
  choose _ q :=
    match q with
    | .query _ prompt => some (.respond prompt (prompt.labels[1]?.getD []))
    | _ => none
  answers {shown q c} h := by
    cases q with
    | query presenter prompt =>
      cases h
      exact .respond _
    | _ => cases h

/-- The answers 9 and 2 choose the second of two options. -/
lemma picks_second : Console.Picks 2 ["9".toList, "2".toList] 1 :=
  .missed (by decide +kernel) (.taken (Console.judge_ofNat (k := 1) (by decide) (by decide)))

/-- That is what the console does if the player picks the second of two options, after an answer that is none. -/
lemma leads_second {expand : Text → Text} {p : Prompt} (two : p.labels.length = 2) :
    Console.Leads expand (.query p) ["9".toList, "2".toList] (.respond p (p.labels[1]?.getD [])) := by
  apply Console.leads_query
  rw [two]
  exact picks_second

/-- The second option leads to the node of the second response. -/
theorem led_by_second :
    (Stage.inquired ['y'] ['n']).StandsAt ⟨0, 0, inquiry ['y'] ['n'], 0, none⟩ (inquiry ['y'] ['n']).lines[0] ∧
      ∃ t : Stage, t.session.map (fun x => (x.node.name, x.index)) = some (['c'], 0) ∧
        Company.second.Walks .atOnce .kill (Stage.inquired ['y'] ['n']) [.line (inquiry ['y'] ['n']) 0] t := by
  have stands : (Stage.inquired ['y'] ['n']).StandsAt ⟨0, 0, inquiry ['y'] ['n'], 0, none⟩
      (inquiry ['y'] ['n']).lines[0] := ⟨rfl, rfl, rfl⟩
  have console {p : Prompt} (two : p.labels.length = 2) :
      Console.Leads id (.query p) ["9".toList, "2".toList] (.respond p (p.labels[1]?.getD [])) := leads_second two
  obtain ⟨j, r, answered, walks⟩ := led_by_answer (K := .second) (c := .kill) (p := 0) stands rfl rfl ⟨rfl, rfl⟩
    (by decide +kernel) picks_second (console rfl) fun _ => rfl
  obtain rfl : j = 1 := answered.eq_of_own (by decide +kernel)
  obtain rfl := Option.some.inj answered.response
  exact ⟨stands, _, by decide +kernel, walks⟩

/-- Two responses have the same label. The player picks the second one, and the session goes to the node of the first
one. -/
theorem misled : (∀ (expand : Text → Text) (shown : List Request) (p : Nat) (prompt : Prompt),
      prompt.labels.length = 2 → ∃ c, Console.Leads expand (.query prompt) ["9".toList, "2".toList] c ∧
        Company.second.choose shown (.query p prompt) = some c) ∧
    ∃ past m, Run (Company.second.rule .atOnce (.initiate (some 0) none)) (.initial (Stage.inquiring ['y'] ['y']))
        past m ∧
      marks past = [.line (inquiry ['y'] ['y']) 0, .line { name := ['b'], lines := [{ text := ['b'] }] } 0,
        .shown { text := ['b'] }] := by
  refine ⟨fun expand shown p prompt two => ⟨_, leads_second two, rfl⟩, ?_⟩
  have start : Run (Company.second.rule .atOnce (.initiate (some 0) none))
      (.initial (Stage.inquiring ['y'] ['y'])) [] (.initial (Stage.inquiring ['y'] ['y'])) := .nil
  exact ⟨_, _, (Company.run_follow 60 start).1, by decide +kernel⟩

end Parley
