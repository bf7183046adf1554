import FeatureFlags.Populate
import FeatureFlags.Proofs.Backend
import FeatureFlags.Proofs.Json
import Mathlib.Data.List.Forall2

/-!
# Populating over any answers

A sample is asked for once and counted when the answer has status 201; any other answer is logged
with the reason that it gives. An answer that gives none breaks the run off: its body is JSON but no
object, or fails to be read for another reason than that it is no JSON (`reason_eq_error_iff`).
`populate_ends` says what is asked, logged and returned for every sequence of answers, up to the
first of these if there is one.

What a body comes to as JSON is part of what is heard (`Heard.json`), so nothing here depends on how
a client reads bodies.
-/

namespace FeatureFlags.Populate

/-! ## Errands -/

/-- Something that is asked for once, with what is logged of it. -/
structure Errand where
  path : String
  payload : Json
  done : String
  failed : String

namespace Errand

/-- What the client is asked. -/
def asked (e : Errand) : String × Json := (e.path, e.payload)

def run {σ : Type} (post : Post σ) (e : Errand) : Service σ Bool :=
  create post e.path e.payload e.done e.failed

end Errand

def SampleFeature.errand (f : SampleFeature) : Errand where
  path := "/features"
  payload := f.toJson
  done := "Created feature: " ++ f.key
  failed := "Failed to create feature " ++ f.key

def SampleState.errand (s : SampleState) : Errand where
  path := "/feature-states"
  payload := s.toJson
  done := "Created feature state: " ++ s.featureKey ++ " for " ++
    (s.contextType.name ++ " " ++ s.contextId) ++ " = " ++ (Json.bool s.state).display
  failed := "Failed to create feature state for " ++ s.featureKey ++ " in " ++
    (s.contextType.name ++ " " ++ s.contextId)

/-- All samples, in the order in which they are asked for. -/
def errands : List Errand := features.map SampleFeature.errand ++ states.map SampleState.errand

section

variable {σ α : Type}

theorem count_map {β : Type} (create : β → Service σ Bool) (g : α → β) (items : List α) :
    count create (items.map g) = count (fun a => create (g a)) items := by
  induction items with
  | nil => rfl
  | cons a rest ih => simp only [List.map_cons, count, ih]

/-- What is counted when the first of a list was asked for. -/
theorem count_cons_run {create : α → Service σ Bool} {a : α} {made : Bool} {w w' : Served σ}
    (h : (create a).run.run w = (.ok made, w')) (rest : List α) :
    (count create (a :: rest)).run.run w =
      (((count create rest).run.run w').1.map ((if made then 1 else 0) + ·),
        ((count create rest).run.run w').2) := by
  rw [count, Service.run_bind, h]
  exact Service.run_map ((if made then 1 else 0) + ·) (count create rest) w'

theorem populate_eq (post : Post σ) :
    populate post = do
      let madeFeatures ← count (Errand.run post) (features.map SampleFeature.errand)
      let madeStates ← count (Errand.run post) (states.map SampleState.errand)
      return (madeFeatures, madeStates) := by
  rw [count_map, count_map]
  rfl

end

/-! ## Answers -/

namespace Heard

/-- The run breaks off at what is heard, with this failure: no reason can be looked for. -/
inductive Breaks (a : Heard) : Failure → Prop where
  /-- The body is JSON but no object. -/
  | noObject {v : Json} : a.status ≠ created → a.json = .value v →
      (∀ members, v ≠ .object members) → Breaks a (.noPart v.kindName "get")
  /-- The body fails to be read, and not because it is no JSON. -/
  | failed {f : Failure} : a.status ≠ created → a.json = .failed f → Breaks a f

/-- What is logged of an answer that the run goes on after. -/
inductive Reports (a : Heard) (e : Errand) : Log.Entry → Prop where
  | done : a.status = created → Reports a e ⟨.info, logger, e.done, []⟩
  | failed {why : String} : a.status ≠ created → reason a = .ok why →
      Reports a e ⟨.warning, logger, e.failed ++ ": " ++ why, []⟩

theorem Breaks.status_ne {a : Heard} {f : Failure} (h : a.Breaks f) : a.status ≠ created := by
  cases h <;> assumption

theorem reason_eq_error_iff {a : Heard} {f : Failure} (h : a.status ≠ created) :
    reason a = .error f ↔ a.Breaks f := by
  unfold reason
  constructor
  · intro hreason
    split at hreason
    · split at hreason <;> cases hreason
    · rename_i v hobject hjson
      cases hreason
      exact .noObject h hjson hobject
    · cases hreason
    · rename_i f' hjson
      cases hreason
      exact .failed h hjson
  · rintro (@⟨v, -, hjson, hobject⟩ | ⟨-, hjson⟩)
    · cases v with
      | object members => exact absurd rfl (hobject members)
      | _ => simp only [hjson]
    · simp only [hjson]

/-- An answer that gives a reason does not break the run off. -/
theorem not_breaks_of_reason {a : Heard} {why : String} (h : reason a = .ok why) (f : Failure) :
    ¬ a.Breaks f := by
  intro hbreaks
  rw [(reason_eq_error_iff hbreaks.status_ne).2 hbreaks] at h
  cases h

theorem reports_or_breaks (a : Heard) (e : Errand) :
    (∃ entry, a.Reports e entry) ∨ ∃ f, a.Breaks f := by
  by_cases h : a.status = created
  · exact .inl ⟨_, .done h⟩
  · cases hreason : reason a with
    | ok why => exact .inl ⟨_, .failed h hreason⟩
    | error f => exact .inr ⟨f, (reason_eq_error_iff h).1 hreason⟩

theorem Reports.not_breaks {a : Heard} {e : Errand} {entry : Log.Entry}
    (h : a.Reports e entry) (f : Failure) : ¬ a.Breaks f := by
  cases h with
  | done h => exact fun hbreaks => hbreaks.status_ne h
  | failed _ hreason => exact not_breaks_of_reason hreason f

end Heard

/-- A client that reads deeper is told the same, unless something was nested too deep before. -/
theorem Reading.ofText_of_le {depth depth' : Nat} (h : depth ≤ depth') (s : String) :
    ofText depth' s = ofText depth s ∨ ∃ kind, ofText depth s = .failed (.nesting kind) := by
  unfold ofText
  cases Json.sent? s with
  | none => exact .inl rfl
  | some cs =>
    rw [Option.map_some, Option.map_some]
    rcases Json.read_of_le h cs with heq | ⟨kind, hdeep⟩
    · rw [heq]
      exact .inl rfl
    · rw [hdeep]
      exact .inr ⟨kind, rfl⟩

/-- A reason that an answer gives is the one that it gives to a client that reads deeper. -/
theorem Answer.reason_heard_of_le {depth depth' : Nat} (h : depth ≤ depth') {a : Answer}
    {why : String} (hreason : reason (a.heard depth) = .ok why) :
    reason (a.heard depth') = .ok why := by
  rcases Reading.ofText_of_le h a.text with heq | ⟨kind, hfailed⟩
  · unfold heard
    rw [heq]
    exact hreason
  · rw [heard, hfailed] at hreason
    cases hreason

namespace Errand

variable {σ : Type} {post : Post σ} {e : Errand} {a : Heard} {w w' : Served σ}

/-- The run of an errand, given what the client hears. -/
theorem run_of_post (hpost : (post e.path e.payload).run.run w = (.ok a, w')) :
    (e.run post).run.run w =
      if a.status == created then
        (.ok true, { w' with entries := w'.entries ++ [⟨.info, logger, e.done, []⟩] })
      else
        match reason a with
        | .ok why => (.ok false,
            { w' with entries := w'.entries ++ [⟨.warning, logger, e.failed ++ ": " ++ why, []⟩] })
        | .error f => (.error f, w') := by
  unfold run create
  rw [Service.run_bind, hpost]
  show (ite _ _ _ : Service σ Bool).run.run w' = _
  split
  · rfl
  · cases hreason : reason a <;> rfl

theorem run_of_reports (hpost : (post e.path e.payload).run.run w = (.ok a, w'))
    {entry : Log.Entry} (h : a.Reports e entry) :
    (e.run post).run.run w =
      (.ok (a.status == created), { w' with entries := w'.entries ++ [entry] }) := by
  rw [run_of_post hpost]
  cases h with
  | done h => simp [h]
  | failed h hreason =>
    rw [hreason, beq_false_of_ne h]
    rfl

theorem run_of_breaks (hpost : (post e.path e.payload).run.run w = (.ok a, w')) {f : Failure}
    (h : a.Breaks f) : (e.run post).run.run w = (.error f, w') := by
  rw [run_of_post hpost, (Heard.reason_eq_error_iff h.status_ne).2 h]
  simp [h.status_ne]

end Errand

/-! ## A client that hears replies -/

/-- A client that gets the replies one after the other, and keeps what it asks. -/
def hearing (replies : Nat → Heard) : Post (List (String × Json)) := fun path payload =>
  ExceptT.mk fun w =>
    (.ok (replies w.contents.length), { w with contents := w.contents ++ [(path, payload)] })

/-- What is logged of errands that are answered from reply number `start` on. -/
def Reported (replies : Nat → Heard) (start : Nat) (es : List Errand)
    (entries : List Log.Entry) : Prop :=
  List.Forall₂ (fun x entry => (replies x.2).Reports x.1 entry) (es.zipIdx start) entries

/-- How many of `n` replies from number `start` on tell of something created. -/
def made (replies : Nat → Heard) (start n : Nat) : Nat :=
  (List.range' start n).countP fun i => (replies i).status == created

/-- How a run of errands ends, which gives `whole` when it comes to the end: what it gives, which
errands were asked for, and what was logged. -/
inductive Ends (replies : Nat → Heard) (start : Nat) (es : List Errand) {α : Type} (whole : α) :
    Except Failure α → List Errand → List Log.Entry → Prop where
  | finished {entries : List Log.Entry} : Reported replies start es entries →
      Ends replies start es whole (.ok whole) es entries
  | broken {before after : List Errand} {e : Errand} {f : Failure} {entries : List Log.Entry} :
      es = before ++ e :: after → Reported replies start before entries →
      (replies (start + before.length)).Breaks f →
      Ends replies start es whole (.error f) (before ++ [e]) entries

section

variable {replies : Nat → Heard} {start : Nat} {es es' : List Errand}
  {entries entries' : List Log.Entry}

namespace Reported

theorem cons {e : Errand} {entry : Log.Entry} (h : (replies start).Reports e entry)
    (htail : Reported replies (start + 1) es entries) :
    Reported replies start (e :: es) (entry :: entries) :=
  List.Forall₂.cons h htail

theorem append (h : Reported replies start es entries)
    (h' : Reported replies (start + es.length) es' entries') :
    Reported replies start (es ++ es') (entries ++ entries') := by
  unfold Reported at h h' ⊢
  rw [List.zipIdx_append]
  exact List.rel_append h h'

theorem not_breaks (h : Reported replies start es entries) {i : Nat} (hi : i < es.length)
    (f : Failure) : ¬ (replies (start + i)).Breaks f := by
  obtain ⟨hlength, hreports⟩ := List.forall₂_iff_get.1 h
  have hi' : i < (es.zipIdx start).length := by rwa [List.length_zipIdx]
  have hreport := hreports i hi' (hlength ▸ hi')
  simp only [List.get_eq_getElem, List.getElem_zipIdx] at hreport
  exact hreport.not_breaks f

end Reported

theorem made_succ (replies : Nat → Heard) (start n : Nat) :
    made replies start (n + 1) =
      (if (replies start).status == created then 1 else 0) + made replies (start + 1) n := by
  rw [made, List.range'_succ, List.countP_cons, Nat.add_comm]
  rfl

namespace Ends

variable {α β γ : Type} {whole : α} {result : Except Failure α} {asked : List Errand}

theorem ok_iff (h : Ends replies start es whole result asked entries) :
    (∃ x, result = .ok x) ↔ ∀ i < es.length, ∀ f, ¬ (replies (start + i)).Breaks f := by
  cases h with
  | finished h => exact ⟨fun _ i hi f => h.not_breaks hi f, fun _ => ⟨whole, rfl⟩⟩
  | broken hes _ hbreaks =>
    refine ⟨nofun, fun h => absurd hbreaks (h _ ?_ _)⟩
    rw [hes]
    simp

/-- A run that does not break off comes to the end. -/
theorem reported_of_ok {x : α} (h : Ends replies start es whole (.ok x) asked entries) :
    x = whole ∧ asked = es ∧ Reported replies start es entries := by
  cases h with
  | finished h => exact ⟨rfl, rfl, h⟩

/-- The first of two runs breaks off. -/
theorem append_of_error {f : Failure} (es' : List Errand) (whole' : β)
    (h : Ends replies start es whole (.error f) asked entries) :
    Ends replies start (es ++ es') whole' (.error f) asked entries := by
  cases h with
  | @broken before after e _ _ hes h hbreaks =>
    have hsplit : es ++ es' = before ++ e :: (after ++ es') := by
      rw [hes, List.append_assoc, List.cons_append]
    exact .broken hsplit h hbreaks

/-- The first of two runs comes to the end. -/
theorem append {whole' : β} {result' : Except Failure β} {asked' : List Errand} (g : β → γ)
    (h : Reported replies start es entries)
    (h' : Ends replies (start + es.length) es' whole' result' asked' entries') :
    Ends replies start (es ++ es') (g whole') (result'.map g) (es ++ asked')
      (entries ++ entries') := by
  cases h' with
  | finished h' => exact .finished (h.append h')
  | @broken before after e _ _ hes h' hbreaks =>
    rw [Nat.add_assoc, ← List.length_append] at hbreaks
    have hsplit : es ++ es' = es ++ before ++ e :: after := by
      rw [hes, List.append_assoc]
    rw [← List.append_assoc]
    exact .broken hsplit (h.append h') hbreaks

end Ends

theorem hearing_run (replies : Nat → Heard) (path : String) (payload : Json)
    (w : Served (List (String × Json))) :
    (hearing replies path payload).run.run w =
      (.ok (replies w.contents.length),
        { w with contents := w.contents ++ [(path, payload)] }) := rfl

/-- A list of errands, answered from the reply on whose turn it is. -/
theorem count_ends (replies : Nat → Heard) (es : List Errand)
    (w : Served (List (String × Json))) :
    ∃ result asked entries,
      (count (Errand.run (hearing replies)) es).run.run w =
        (result, ⟨w.contents ++ asked.map Errand.asked, w.entries ++ entries⟩) ∧
      Ends replies w.contents.length es (made replies w.contents.length es.length) result asked
        entries := by
  induction es generalizing w with
  | nil =>
    refine ⟨.ok 0, [], [], ?_, .finished .nil⟩
    rw [List.map_nil, List.append_nil, List.append_nil]
    rfl
  | cons e es ih =>
    have hpost := hearing_run replies e.path e.payload w
    rcases (replies w.contents.length).reports_or_breaks e with ⟨entry, hentry⟩ | ⟨f, hbreaks⟩
    · obtain ⟨result, asked, entries, hrest, hends⟩ :=
        ih ⟨w.contents ++ [e.asked], w.entries ++ [entry]⟩
      have hfirst : Reported replies w.contents.length [e] [entry] := .cons hentry .nil
      let first := if (replies w.contents.length).status == created then 1 else 0
      refine ⟨result.map (first + ·), [e] ++ asked, [entry] ++ entries, ?_, ?_⟩
      · rw [count_cons_run (Errand.run_of_reports hpost hentry)]
        simp only [List.append_assoc] at hrest
        exact congrArg (fun r => (r.1.map (first + ·), r.2)) hrest
      · rw [List.length_append] at hends
        rw [List.length_cons, made_succ]
        exact hends.append (first + ·) hfirst
    · refine ⟨.error f, [e], [], ?_, .broken (List.nil_append _).symm .nil hbreaks⟩
      rw [count, Service.run_bind, Errand.run_of_breaks hpost hbreaks, List.append_nil]
      rfl

/-- Two lists of errands, one after the other. -/
theorem count_both_ends (replies : Nat → Heard) (es es' : List Errand) (log : List Log.Entry) :
    ∃ result asked entries,
      (do
        let n ← count (Errand.run (hearing replies)) es
        let n' ← count (Errand.run (hearing replies)) es'
        return (n, n')).run.run ⟨[], log⟩ =
          (result, ⟨asked.map Errand.asked, log ++ entries⟩) ∧
      Ends replies 0 (es ++ es') (made replies 0 es.length, made replies es.length es'.length)
        result asked entries := by
  obtain ⟨result, asked, entries, hrun, hends⟩ := count_ends replies es ⟨[], log⟩
  simp only [List.nil_append] at hrun
  cases result with
  | error f =>
    refine ⟨.error f, asked, entries, ?_, hends.append_of_error es' _⟩
    rw [Service.run_bind, hrun]
  | ok n =>
    obtain ⟨rfl, rfl, hreported⟩ := hends.reported_of_ok
    obtain ⟨result', asked', entries', hrun', hends'⟩ :=
      count_ends replies es' ⟨asked.map Errand.asked, log ++ entries⟩
    simp only [List.length_map] at hends'
    refine ⟨result'.map fun n' => (made replies 0 asked.length, n'), asked ++ asked',
      entries ++ entries', ?_, ?_⟩
    · rw [Service.run_bind, hrun]
      refine (Service.run_map (made replies 0 asked.length, ·) (count _ es') _).trans ?_
      rw [hrun', List.map_append, ← List.append_assoc]
    · have hsecond : Ends replies (0 + asked.length) es'
          (made replies asked.length es'.length) result' asked' entries' := by
        rwa [Nat.zero_add]
      exact hsecond.append _ hreported

/-- **Every sample is asked for once, unless an answer breaks the run off.** Whatever is answered,
the samples are asked for in order. For every answer with status 201 it is logged that the sample
was created, for any other the reason; what is returned is how many answers of the features, and how
many of the states, have status 201. The run breaks off at the first answer with another status
whose body is JSON but no object, or fails to be read for another reason than that it is no JSON,
and only there. -/
theorem populate_ends (replies : Nat → Heard) (log : List Log.Entry) :
    ∃ result asked entries,
      (populate (hearing replies)).run.run ⟨[], log⟩ =
        (result, ⟨asked.map Errand.asked, log ++ entries⟩) ∧
      Ends replies 0 errands
        (made replies 0 features.length, made replies features.length states.length) result asked
        entries ∧
      ((∃ counts, result = .ok counts) ↔
        ∀ i < errands.length, ∀ f, ¬ (replies i).Breaks f) := by
  obtain ⟨result, asked, entries, hrun, hends⟩ := count_both_ends replies
    (features.map SampleFeature.errand) (states.map SampleState.errand) log
  have hok := hends.ok_iff
  simp only [Nat.zero_add] at hok
  rw [List.length_map, List.length_map] at hends
  exact ⟨result, asked, entries, by rw [populate_eq]; exact hrun, hends, hok⟩

/-- **Not every answer is survived.** Status 409 with an empty list as the body breaks the run
off. -/
theorem not_populate_survives :
    ¬ ∀ (replies : Nat → Heard) (log : List Log.Entry),
      ∃ counts, ((populate (hearing replies)).run.run ⟨[], log⟩).1 = .ok counts := by
  intro h
  let refused : Heard := Answer.heard Json.usualDepth ⟨409, "[]"⟩
  obtain ⟨counts, hok⟩ := h (fun _ => refused) []
  have herror : ((populate (hearing fun _ => refused)).run.run ⟨[], []⟩).1 =
      .error (.noPart "list" "get") := by
    rfl
  rw [herror] at hok
  cases hok

end

end FeatureFlags.Populate
