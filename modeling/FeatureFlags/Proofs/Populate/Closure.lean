import FeatureFlags.Proofs.Http.Surface
import FeatureFlags.Proofs.Populate
import FeatureFlags.Proofs.Store.Growth
import FeatureFlags.Proofs.Store.Invariant

/-!
# Populating a service at hand

Posting a sample to a service that runs on the store in memory is one creation there: it is taken
when the store takes it, and a refusal is told in a way that the run goes on after
(`Errand.Asks.post`). So populating is a run of creations, first of features and then of states
(`populate_at_hand`). It only adds records, and afterwards the store refuses every sample; this is
why populating again changes nothing (`populate_idempotent`).
-/

namespace FeatureFlags.Populate

open Http (Endpoint)

/-- The draft that the payload of a sample is read as. -/
def SampleFeature.draft (f : SampleFeature) : Feature.Draft := ⟨f.key, f.name, some f.description⟩

@[inherit_doc SampleFeature.draft]
def SampleState.draft (s : SampleState) : FeatureState.Draft :=
  ⟨none, some s.featureKey, s.contextType, some s.contextId, s.state⟩

/-- What the client is told of an error. -/
def told (err : ServiceError) : Answer :=
  ⟨err.status, (Http.Content.json (.object [("error", .string err.message)])).toText⟩

theorem status_ne_created (err : ServiceError) : err.status ≠ created := by
  cases err <;> simp [ServiceError.status, created]

section

variable [limit : Json.DepthLimit]

/-- An errand asks a service for an operation, and goes on whatever error it is told. -/
structure Errand.Asks (root : String) (e : Errand) (op : Operation) : Prop where
  sent : ∃ endpoint : Endpoint, Http.Asks root endpoint (request e.path e.payload) ∧
    endpoint.operation? (request e.path e.payload) = some op ∧
    ∀ reply, (endpoint.success reply).status = created
  told : ∀ (s : Store) (err : ServiceError), s.run op = .error err →
    ∃ why, reason ((told err).heard limit.depth) = .ok why

variable {settings : Settings}

theorem postTo_run {σ : Type} {b : Backend σ} {path : String} {payload : Json}
    {answer : Http.Response} {w w' : Served σ}
    (h : (Http.respond settings b (request path payload)).run w = (answer, w')) :
    (postTo settings b path payload).run.run w =
      (.ok (Answer.heard limit.depth ⟨answer.status, answer.content.toText⟩), w') := by
  have hlift : ((Http.respond settings b (request path payload) :
      StateM (Served σ) Http.Response) : Service σ Http.Response).run.run w =
      (.ok answer, w') := by
    show (Except.ok <$> Http.respond settings b (request path payload)).run w = _
    rw [StateT.run_map, h]
    rfl
  rw [postTo, Service.run_bind, hlift]
  rfl

/-- What the client of the store in memory hears. -/
theorem Errand.Asks.post {e : Errand} {op : Operation} (h : e.Asks settings.apiRoot op) (s : Store)
    (log : List Log.Entry) :
    ∃ a log', (postTo settings (Backend.memory Outages.none) e.path e.payload).run.run ⟨s, log⟩ =
        (.ok a, ⟨s.after op, log'⟩) ∧
      (a.status == created) = (s.run op).isOk ∧ ∀ f, ¬ a.Breaks f := by
  obtain ⟨endpoint, hasks, hop, hcreates⟩ := h.sent
  let c : Http.Sent settings.apiRoot := ⟨endpoint, request e.path e.payload, hasks⟩
  obtain ⟨answer, log', htells, hrun, -⟩ := c.respond Outages.none s [] log
  have hcall : c.operation? = some op := hop
  have hafter : c.after Outages.none s = s.after op := by
    rw [Http.Sent.after, hcall]
    exact s.afterWith_none op
  rw [hafter] at hrun
  rw [Http.Sent.Tells, hcall] at htells
  simp only [Store.replyWith_none, Store.reply] at htells
  refine ⟨_, log', postTo_run hrun, ?_⟩
  cases hop : s.run op with
  | ok x =>
    rw [hop] at htells
    have hstatus : answer.status = created := (congrArg Http.Told.status htells).trans (hcreates _)
    refine ⟨?_, fun f hbreaks => hbreaks.status_ne hstatus⟩
    show (answer.status == created) = true
    rw [hstatus]
    rfl
  | error err =>
    rw [hop] at htells
    have hanswer : (⟨answer.status, answer.content.toText⟩ : Answer) = Populate.told err :=
      congrArg (fun x : Http.Told => (⟨x.status, x.content.toText⟩ : Answer)) htells
    rw [hanswer]
    obtain ⟨why, hwhy⟩ := h.told s err hop
    exact ⟨beq_false_of_ne (status_ne_created err), Heard.not_breaks_of_reason hwhy⟩

/-- A service with the store in memory takes the operations that it is asked. -/
theorem count_asks {es : List Errand} {ops : List Operation}
    (h : List.Forall₂ (Errand.Asks settings.apiRoot) es ops) (s : Store) (log : List Log.Entry) :
    ∃ log', (count (Errand.run (postTo settings (Backend.memory Outages.none))) es).run.run
        ⟨s, log⟩ = (.ok (s.accepted ops), ⟨s.afterAll ops, log'⟩) := by
  induction h generalizing s log with
  | nil => exact ⟨log, rfl⟩
  | @cons e op es ops hasks _ ih =>
    obtain ⟨a, log₁, hpost, hcreated, hgoes⟩ := hasks.post s log
    obtain ⟨entry, hreports⟩ : ∃ entry, a.Reports e entry := by
      rcases a.reports_or_breaks e with h | ⟨f, hbreaks⟩
      · exact h
      · exact absurd hbreaks (hgoes f)
    obtain ⟨log', hrest⟩ := ih (s.after op) (log₁ ++ [entry])
    refine ⟨log', ?_⟩
    rw [count_cons_run (Errand.run_of_reports hpost hreports), hrest, hcreated]
    rfl

end

/-! ## What is sent -/

theorem write_object (style : Json.Style) (members : List (String × Json)) :
    Json.write style (.object members) =
      '\x7b' :: (Json.writeMembers style members ++ ['\x7d']) := by
  rfl

/-- An object is sent as it is written. -/
theorem sent?_object (members : List (String × Json)) :
    Json.sent? (Json.object members).toCompactText =
      some (Json.write ⟨false, []⟩ (.object members)) := by
  obtain ⟨c, cs, hcs, hc⟩ : ∃ c cs,
      Json.writeMembers ⟨false, []⟩ members ++ ['\x7d'] = c :: cs ∧ c ≠ '\x00' := by
    match members with
    | [] => exact ⟨'\x7d', [], rfl, by decide⟩
    | [(name, v)] => exact ⟨'"', _, rfl, by decide⟩
    | (name, v) :: m :: rest => exact ⟨'"', _, rfl, by decide⟩
  have htext : (Json.object members).toCompactText.toList =
      Json.write ⟨false, []⟩ (.object members) :=
    String.toList_ofList
  rw [Json.sent?_eq_some (by rw [htext, write_object, hcs]) (by decide) (by decide) hc, htext]

theorem isJsonType_request : Http.isJsonType "application/json" = true := by
  decide +kernel

/-! ## The samples -/

/-- The operations that the sample features ask for. -/
def featureOps : List Operation := features.map fun f => .createFeature f.draft

/-- The operations that the sample states ask for. -/
def stateOps : List Operation := states.map fun x => .createState x.draft

theorem SampleFeature.read : ∀ f ∈ features,
    ((Json.read 1 (Json.write ⟨false, []⟩ f.toJson)).toOption.bind fun v =>
      (Feature.Draft.ofJson v).accepted?.map .createFeature) =
        some (Operation.createFeature f.draft) := by
  decide +kernel

theorem SampleState.read : ∀ x ∈ states,
    ((Json.read 1 (Json.write ⟨false, []⟩ x.toJson)).toOption.bind fun v =>
      (FeatureState.Draft.ofJson v).accepted?.map .createState) =
        some (Operation.createState x.draft) := by
  decide +kernel

/-- Where a sample is posted to does not depend on the sample. -/
theorem path_request (path : String) (payload : Json) :
    (request path payload).path = (request path .null).path := rfl

section

variable [limit : Json.DepthLimit]

/-- The data of a request that posts an object. -/
theorem data?_request (path : String) (members : List (String × Json)) :
    (request path (.object members)).data? =
      (Json.read limit.depth (Json.write ⟨false, []⟩ (.object members))).toOption := by
  have hheader : (request path (.object members)).header? "content-type" =
      some "application/json" := by
    have hnull : (request "" .null).header? "content-type" = some "application/json" := by
      decide +kernel
    exact hnull
  have hbody : (Json.object members).toCompactText.isEmpty = false := by
    rw [← Bool.not_eq_true, String.isEmpty_iff, Json.toCompactText, write_object]
    intro hempty
    have hchars := congrArg String.toList hempty
    rw [String.toList_ofList] at hchars
    cases hchars
  have hpayload : (request path (.object members)).payload =
      (Http.readJson limit.depth (Json.object members).toCompactText).map .value := by
    rw [Http.Request.payload, hheader]
    simp only [request, hbody, isJsonType_request, Option.map_some, Option.getD_some]
    rfl
  rw [Http.Request.data?, hpayload, Http.readJson, sent?_object]
  dsimp only
  cases Json.read limit.depth (Json.write ⟨false, []⟩ (.object members)) with
  | ok v => rfl
  | error r => cases r <;> rfl

/-- What is made of an object that is read one deep is made of the data of a request with it. -/
theorem bind_data?_request {members : List (String × Json)} {make : Json → Option Operation}
    {op : Operation}
    (h : (Json.read 1 (Json.write ⟨false, []⟩ (.object members))).toOption.bind make = some op)
    (path : String) : (request path (.object members)).data?.bind make = some op := by
  rw [data?_request]
  exact Json.bind_read_of_le limit.pos h

theorem SampleFeature.operation {f : SampleFeature} (hf : f ∈ features) (path : String) :
    Endpoint.createFeature.operation? (request path f.toJson) = some (.createFeature f.draft) := by
  rw [Endpoint.operation?]
  exact bind_data?_request (SampleFeature.read f hf) path

theorem SampleState.operation {x : SampleState} (hx : x ∈ states) (path : String) :
    Endpoint.createState.operation? (request path x.toJson) = some (.createState x.draft) := by
  rw [Endpoint.operation?]
  exact bind_data?_request (SampleState.read x hx) path

theorem reason_of_sample_errors {err : ServiceError}
    (h : err ∈ ServiceError.noFeature :: .duplicate :: features.map fun f => .keyConflict f.key) :
    ∃ why, reason ((told err).heard limit.depth) = .ok why := by
  have hflat : ∀ err ∈ ServiceError.noFeature :: .duplicate ::
      features.map fun f => .keyConflict f.key, (reason ((told err).heard 1)).isOk = true := by
    decide +kernel
  have hok := hflat err h
  cases hreason : reason ((told err).heard 1) with
  | error f =>
    rw [hreason] at hok
    cases hok
  | ok why => exact ⟨why, Answer.reason_heard_of_le limit.pos hreason⟩

theorem SampleFeature.asks {f : SampleFeature} (hf : f ∈ features) :
    f.errand.Asks "" (.createFeature f.draft) where
  sent := by
    have hpath : (request "/features" f.toJson).path = "" ++ "/features" :=
      (path_request _ _).trans (by decide)
    have hasks : Http.Asks "" .createFeature (request "/features" f.toJson) :=
      ⟨⟨"/features", rfl, hpath⟩, fun _ h => by cases h⟩
    exact ⟨.createFeature, hasks, operation hf _, fun _ => rfl⟩
  told := by
    intro s err herror
    obtain ⟨-, rfl⟩ :=
      Store.refuses_createFeature_iff.1 ((Store.run_eq_error_of_makes rfl).1 herror)
    have hmem : ServiceError.keyConflict f.key ∈ features.map fun f => .keyConflict f.key :=
      List.mem_map_of_mem hf
    exact reason_of_sample_errors (.tail _ (.tail _ hmem))

theorem SampleState.asks {x : SampleState} (hx : x ∈ states) :
    x.errand.Asks "" (.createState x.draft) where
  sent := by
    have hpath : (request "/feature-states" x.toJson).path = "" ++ "/feature-states" :=
      (path_request _ _).trans (by decide)
    have hasks : Http.Asks "" .createState (request "/feature-states" x.toJson) :=
      ⟨⟨"/feature-states", rfl, hpath⟩, fun _ h => by cases h⟩
    exact ⟨.createState, hasks, operation hx _, fun _ => rfl⟩
  told := by
    intro s err herror
    rcases Store.refuses_createState_iff.1 ((Store.run_eq_error_of_makes rfl).1 herror) with
      ⟨-, rfl⟩ | ⟨_, -, -, rfl⟩
    · exact reason_of_sample_errors (.head _)
    · exact reason_of_sample_errors (.tail _ (.head _))

/-- Populating a service at hand is asking its store for all samples. -/
theorem populate_at_hand (settings : Settings) (hroot : settings.apiRoot = "") (s : Store)
    (log : List Log.Entry) :
    ∃ log', (populate (postTo settings (Backend.memory Outages.none))).run.run ⟨s, log⟩ =
      (.ok (s.accepted featureOps, (s.afterAll featureOps).accepted stateOps),
        ⟨(s.afterAll featureOps).afterAll stateOps, log'⟩) := by
  have hfeatures : List.Forall₂ (Errand.Asks settings.apiRoot)
      (features.map SampleFeature.errand) featureOps := by
    rw [hroot, featureOps, List.forall₂_map_left_iff, List.forall₂_map_right_iff]
    exact List.forall₂_same.2 fun f hf => SampleFeature.asks hf
  have hstates : List.Forall₂ (Errand.Asks settings.apiRoot)
      (states.map SampleState.errand) stateOps := by
    rw [hroot, stateOps, List.forall₂_map_left_iff, List.forall₂_map_right_iff]
    exact List.forall₂_same.2 fun x hx => SampleState.asks hx
  obtain ⟨log₁, hrun₁⟩ := count_asks hfeatures s log
  obtain ⟨log₂, hrun₂⟩ := count_asks hstates (s.afterAll featureOps) log₁
  refine ⟨log₂, ?_⟩
  rw [populate_eq, Service.run_bind, hrun₁]
  refine (Service.run_map (s.accepted featureOps, ·) (count _ _) _).trans ?_
  rw [hrun₂]
  rfl

end

/-! ## What is there afterwards -/

/-- The state under the identifier is one of the feature with the key of the sample, for the context
of the sample. -/
def SampleState.IsAt (x : SampleState) (s : Store) (id : String) : Prop :=
  ∃ st owner f, s.states.get? id = some st ∧ st.featureId = some owner ∧
    s.features.get? owner = some f ∧ f.key = x.featureKey ∧ st.contextType = x.contextType ∧
    st.contextId = some x.contextId

theorem SampleState.owned :
    ∀ x ∈ states, x.featureKey ≠ "" ∧ ∃ f ∈ features, x.featureKey = f.key := by
  decide

/-- A store has at most one state for a sample. -/
theorem SampleState.IsAt.unique {x : SampleState} {s : Store} (h : s.Sound) {id id' : String}
    (hid : x.IsAt s id) (hid' : x.IsAt s id') : id = id' := by
  obtain ⟨st, owner, f, hst, howner, hf, hkey, htype, hcontext⟩ := hid
  obtain ⟨st', owner', f', hst', howner', hf', hkey', htype', hcontext'⟩ := hid'
  obtain rfl : owner = owner' := h.key_distinct owner owner' f f' hf hf' (hkey.trans hkey'.symm)
  exact h.context_distinct id id' st st' hst hst' (howner.trans howner'.symm)
    (htype.trans htype'.symm) (hcontext.trans hcontext'.symm)

/-- A store that has the feature of a sample state refuses the state when it has one like it. -/
theorem SampleState.exists_isAt {x : SampleState} (hx : x ∈ states) {s : Store} (h : s.Sound)
    (hkeys : ∀ f ∈ features, s.KeyTaken f.key) {err : ServiceError}
    (hrefuses : s.Refuses (.createState x.draft) err) : ∃ id, x.IsAt s id := by
  obtain ⟨hgiven, g, hg, hkey⟩ := SampleState.owned x hx
  rcases Store.refuses_createState_iff.1 hrefuses with ⟨hnone, -⟩ | ⟨f, howner, htaken, -⟩
  · rcases Store.ownerOf?_eq_none_iff.1 hnone with ⟨_, hid, -⟩ | ⟨-, hfree⟩
    · cases hid
    · exact absurd (hkey ▸ hkeys g hg) (hfree x.featureKey rfl hgiven)
  · obtain ⟨sid, st, hst, -, hstate, htype, hcontext⟩ := htaken
    have hstored := Store.ownerOf?_stored h.feature_id howner
    cases Store.ownerOf?_eq_some_iff.1 howner with
    | byId hid => cases hid
    | byKey _ hsome _ _ hfkey _ =>
      cases hsome
      exact ⟨sid, st, f.id, f, hst, hstate, hstored, hfkey, htype, hcontext⟩

/-! ## Before and after -/

theorem makes_featureOps : ∀ op ∈ featureOps, op.makes = some .feature :=
  List.forall_mem_map.2 fun _ _ => rfl

theorem makes_stateOps : ∀ op ∈ stateOps, op.makes = some .featureState :=
  List.forall_mem_map.2 fun _ _ => rfl

theorem validated_featureOps : ∀ op ∈ featureOps, op.Validated :=
  List.forall_mem_map.2 fun _ hf =>
    Endpoint.validated_of_operation (SampleFeature.operation hf "/features")

theorem validated_stateOps : ∀ op ∈ stateOps, op.Validated :=
  List.forall_mem_map.2 fun _ hx =>
    Endpoint.validated_of_operation (SampleState.operation hx "/feature-states")

/-- The store after it was asked for all samples. -/
def populated (s : Store) : Store := (s.afterAll featureOps).afterAll stateOps

/-- What a store is that was asked for all samples. -/
structure Populated (s s' : Store) (newFeatures newStates : Nat) : Prop where
  features : ∃ new, s'.features.entries = s.features.entries ++ new ∧ new.length = newFeatures
  states : ∃ new, s'.states.entries = s.states.entries ++ new ∧ new.length = newStates
  refused : ∀ op ∈ featureOps ++ stateOps, ∃ err, s'.Refuses op err

theorem populated_of_unused {s : Store} (h : s.Unused (features.length + states.length)) :
    Populated s (populated s) (s.accepted featureOps)
      ((s.afterAll featureOps).accepted stateOps) := by
  have hfeatures : s.Makes .feature featureOps states.length :=
    Store.afterAll_makes makes_featureOps (by rwa [featureOps, List.length_map]) (by decide)
  have hstates : (s.afterAll featureOps).Makes .featureState stateOps 0 :=
    Store.afterAll_makes makes_stateOps
      (by rw [stateOps, List.length_map]; exact hfeatures.unused) (by decide)
  obtain ⟨new, hnew, hlength, hsame⟩ := hfeatures.adds.features_eq
  obtain ⟨new', hnew', hlength', hsame'⟩ := hstates.adds.states_eq
  constructor
  · exact ⟨new, by rw [populated, hsame', hnew], hlength⟩
  · exact ⟨new', by rw [populated, hnew', hsame], hlength'⟩
  · refine List.forall_mem_append.2 ⟨fun op hop => ?_, hstates.refused⟩
    obtain ⟨err, hrefuses⟩ := hfeatures.refused op hop
    obtain ⟨f, -, rfl⟩ := List.mem_map.1 hop
    obtain ⟨htaken, -⟩ := Store.refuses_createFeature_iff.1 hrefuses
    exact ⟨_, .keyTaken (hstates.adds.keyTaken htaken)⟩

/-- A store that refuses all samples stays as it is when it is asked for them. -/
theorem populated_of_refused {s : Store}
    (h : ∀ op ∈ featureOps ++ stateOps, ∃ err, s.Refuses op err) :
    populated s = s ∧ s.accepted featureOps = 0 ∧
      (s.afterAll featureOps).accepted stateOps = 0 := by
  obtain ⟨hfeatures, hstates⟩ := List.forall_mem_append.1 h
  obtain ⟨hsame, hnone⟩ := Store.afterAll_of_refused makes_featureOps hfeatures
  obtain ⟨hsame', hnone'⟩ := Store.afterAll_of_refused makes_stateOps hstates
  rw [populated, hsame]
  exact ⟨hsame', hnone, hnone'⟩

theorem sound_populated {s : Store} (h : s.Sound) : (populated s).Sound :=
  (h.afterAll validated_featureOps).afterAll validated_stateOps

/-- **Populating twice is populating once, and takes nothing away.** Whatever was asked of the store
in memory before, as long as the identifiers that come next are not in use, populating a service on
it gives back how many features and how many states have come after the records that were there, all
of which are still there as they were. Then every sample feature is there by its key, and for every
sample state there is exactly one of its feature for its context. Populating once more creates
nothing and leaves the store as it is. -/
theorem populate_idempotent [Json.DepthLimit] (settings : Settings) (hroot : settings.apiRoot = "")
    (ops : List Operation) (hv : ∀ op ∈ ops, op.Validated)
    (hunused : (Store.empty.afterAll ops).Unused (features.length + states.length))
    (log : List Log.Entry) :
    ∃ newFeatures newStates s' log',
      (populate (postTo settings (Backend.memory Outages.none))).run.run
          ⟨Store.empty.afterAll ops, log⟩ =
        (.ok (newFeatures.length, newStates.length), ⟨s', log'⟩) ∧
      s'.features.entries = (Store.empty.afterAll ops).features.entries ++ newFeatures ∧
      s'.states.entries = (Store.empty.afterAll ops).states.entries ++ newStates ∧
      (∀ f ∈ features, s'.KeyTaken f.key) ∧ (∀ x ∈ states, ∃! id, x.IsAt s' id) ∧
      ∀ log, ∃ log', (populate (postTo settings (Backend.memory Outages.none))).run.run ⟨s', log⟩ =
        (.ok (0, 0), ⟨s', log'⟩) := by
  generalize hs : Store.empty.afterAll ops = s at hunused ⊢
  have hsound : (populated s).Sound := sound_populated (hs ▸ Store.sound_empty.afterAll hv)
  obtain ⟨⟨newFeatures, hfeatures, hcount⟩, ⟨newStates, hstates, hcount'⟩, hrefused⟩ :=
    populated_of_unused hunused
  obtain ⟨hsame, hnone, hnone'⟩ := populated_of_refused hrefused
  have hkeys : ∀ f ∈ features, (populated s).KeyTaken f.key := by
    intro f hf
    obtain ⟨err, hrefuses⟩ := hrefused _ (List.mem_append_left _ (List.mem_map_of_mem hf))
    exact (Store.refuses_createFeature_iff.1 hrefuses).1
  have hstate : ∀ x ∈ states, ∃! id, x.IsAt (populated s) id := by
    intro x hx
    obtain ⟨err, hrefuses⟩ := hrefused _ (List.mem_append_right _ (List.mem_map_of_mem hx))
    obtain ⟨id, hid⟩ := SampleState.exists_isAt hx hsound hkeys hrefuses
    exact ⟨id, hid, fun id' hid' => hid'.unique hsound hid⟩
  obtain ⟨log', hrun⟩ := populate_at_hand settings hroot s log
  refine ⟨newFeatures, newStates, populated s, log', ?_, hfeatures, hstates, hkeys, hstate, ?_⟩
  · rw [hrun, hcount, hcount']
    rfl
  · intro log
    obtain ⟨log', hrun⟩ := populate_at_hand settings hroot (populated s) log
    refine ⟨log', ?_⟩
    rw [hrun, hnone, hnone']
    exact congrArg (fun s' => (Except.ok (0, 0), Served.mk s' log')) hsame

/-- One of the sample features under another name, and one of its states, the other way. -/
def startedRun : List Operation :=
  [.createFeature ⟨"checkout", "Checkout", none⟩, .createFeature ⟨"feature2", "Mine", none⟩,
    .createState ⟨none, some "feature2", .organization, some "org1", false⟩]

/-- What was there before is kept, and the rest is added. -/
theorem populate_idempotent_startedRun :
    Settings.plain.apiRoot = "" ∧ (∀ op ∈ startedRun, op.Validated) ∧
      (Store.empty.afterAll startedRun).Unused (features.length + states.length) ∧
      ∃ newFeatures newStates s' log',
        (populate (postTo .plain (Backend.memory Outages.none))).run.run
            ⟨Store.empty.afterAll startedRun, []⟩ =
          (.ok (newFeatures.length, newStates.length), ⟨s', log'⟩) ∧
        newFeatures.length = 2 ∧ newStates.length = 11 ∧
        s'.features.entries = (Store.empty.afterAll startedRun).features.entries ++ newFeatures ∧
        s'.states.entries = (Store.empty.afterAll startedRun).states.entries ++ newStates := by
  have hv : ∀ op ∈ startedRun, op.Validated := by
    refine List.forall_mem_cons.2 ⟨?_, List.forall_mem_cons.2 ⟨?_, List.forall_mem_singleton.2 ?_⟩⟩
    · exact ⟨.object [("key", .string "checkout"), ("name", .string "Checkout")], rfl⟩
    · exact ⟨.object [("key", .string "feature2"), ("name", .string "Mine")], rfl⟩
    · exact ⟨.object [("featureKey", .string "feature2"), ("contextType", .string "organization"),
        ("contextId", .string "org1"), ("state", .bool false)], rfl⟩
  have hunused : (Store.empty.afterAll startedRun).Unused (features.length + states.length) :=
    (Store.numbered_empty.afterAll startedRun).unused (by decide +kernel)
  obtain ⟨newFeatures, newStates, s', log', hrun, hfeatures, hstates, -⟩ :=
    populate_idempotent .plain rfl startedRun hv hunused []
  obtain ⟨log'', hrun'⟩ := populate_at_hand .plain rfl
    (Store.empty.afterAll startedRun) []
  have hcounts : (Store.empty.afterAll startedRun).accepted featureOps = 2 ∧
      ((Store.empty.afterAll startedRun).afterAll featureOps).accepted stateOps = 11 := by
    decide +kernel
  rw [hcounts.1, hcounts.2, hrun] at hrun'
  injection hrun' with hresult
  injection hresult with hpair
  injection hpair with hlength hlength'
  exact ⟨rfl, hv, hunused, newFeatures, newStates, s', log', hrun, hlength, hlength', hfeatures,
    hstates⟩

end FeatureFlags.Populate
