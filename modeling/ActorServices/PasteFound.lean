import ActorServices.PasteRequests
import ActorServices.RequestFound

set_option autoImplicit false

namespace ActorServices.Pastebin

open Api Interleave Environment

/-- What a call for the paste comes to. -/
def Finds (made : Paste) (waiting failing : Prop) (reply : Reply) : Prop :=
  (∃ views, reply = .fetched (.ok (made.addViews views))) ∨
    (reply = .fetched (.error .notFound) ∧ ¬ waiting) ∨
      ∃ cause, reply = .fetched (.error (.backend cause)) ∧ failing

/-- What a fetch of the paste meets before it expires. -/
abbrev pasteContract (codec : JsonCodec) (made : Paste) (waiting failing : Prop) :
    Contract (Op PasteId Paste) Op.Reply (Memory Paste) :=
  findContract pasteEntity (Cacheable codec) made (fun now => made.isExpired now = false) waiting
    failing

section Finds

variable (codec : JsonCodec) {made : Paste} {waiting failing : Prop} (memory : Memory Paste)

theorem fetchCached_finds :
    (fetchCached codec made.id).Safe (pasteContract codec made waiting failing)
      (fun _ found => ∀ paste, found = some paste → ∃ views, paste = made.addViews views)
      memory := by
  simp only [fetchCached, Proc.call_bind, Proc.ret_bind, Proc.pure_eq]
  refine ⟨Or.inr rfl, ?_⟩
  intro reply after promised
  cases reply with
  | none =>
      intro paste impossible
      cases impossible
  | some json =>
      obtain ⟨views, encoded, -⟩ := promised
      simp only [codec.roundTrip _ _ encoded, intoPaste_fromPaste]
      refine ⟨Or.inl rfl, ?_⟩
      intro now _ live
      have live : (pasteEntity.bump views made).isExpired now = false := live
      simp only [live, Bool.false_eq_true, ↓reduceIte]
      refine ⟨Or.inr rfl, ?_⟩
      intro _ _ _ paste served
      cases served
      exact ⟨views, rfl⟩

theorem fillCache_finds (paste : Paste) :
    (fillCache codec made.id paste).Safe (pasteContract codec made waiting failing)
      (fun _ _ => True) memory := by
  unfold fillCache
  refine Proc.safe_bind _ (fun _ _ => True) _ _ _ _ ?_ ?_
  · exact UseCase.cacheTtlSecs_safe (fun _ => True) _ trivial (Or.inl rfl) fun _ _ _ => trivial
  · intro after ttl _
    split
    · split
      · exact ⟨Or.inr rfl, fun _ _ _ => trivial⟩
      · trivial
    · trivial

theorem fetchStored_finds (many : made.oneShot = false) :
    (fetchStored codec made.id).Safe (pasteContract codec made waiting failing)
      (fun _ result => Finds made waiting failing (.fetched result)) memory := by
  simp only [fetchStored, Proc.call_bind, Proc.ret_bind, Proc.pure_eq]
  refine ⟨Or.inr rfl, ?_⟩
  intro reply after promised
  rcases reply with err | found | paste
  · obtain ⟨fails, cause, rfl⟩ := promised
    exact .inr (.inr ⟨cause, rfl, fails⟩)
  · exact .inr (.inl ⟨rfl, promised⟩)
  · obtain ⟨views, rfl⟩ := promised
    refine ⟨Or.inl rfl, ?_⟩
    intro now after live
    have live : (pasteEntity.bump views made).isExpired now = false := live
    have many : (pasteEntity.bump views made).oneShot = false := many
    simp only [live, many, Bool.false_eq_true, ↓reduceIte]
    refine Proc.safe_bind _ (fun _ _ => True) _ _ _ _ (fillCache_finds codec after _) ?_
    intro _ _ _
    exact ⟨Or.inr rfl, fun _ _ _ => .inl ⟨views, rfl⟩⟩

theorem fetch_finds (many : made.oneShot = false) {raw : String}
    (parsed : PasteId.parse raw = .ok made.id) :
    (fetch codec raw).Safe (pasteContract codec made waiting failing)
      (fun _ result => Finds made waiting failing (.fetched result)) memory := by
  simp only [fetch, parsed]
  refine Proc.safe_bind _ _ _ _ _ _ (fetchCached_finds codec memory) ?_
  intro after found known
  cases found with
  | none => exact fetchStored_finds codec after many
  | some paste =>
      obtain ⟨views, rfl⟩ := known paste rfl
      exact .inl ⟨views, rfl⟩

end Finds

/-- Nobody asks for the paste to be deleted. -/
theorem calls_seeking {codec : JsonCodec} {calls : Nat → Call} {made : Paste}
    (many : made.oneShot = false)
    (spared : ∀ caller raw, calls caller = .delete raw → PasteId.parse raw ≠ .ok made.id) :
    Seeking pasteEntity (Cacheable codec) (fun caller => (calls caller).program codec)
      (fun caller => callContract codec (calls caller).Asks) (fun caller => Knows (calls caller))
      made (fun now => made.isExpired now = false) (Fetches calls made.id) (Finds made) where
  rule := paste_rule
  safe caller := program_safe codec (calls caller)
  removes caller memory op allowed removal := by
    rcases removal with rfl | rfl
    · exact asks_take allowed.2
    · rcases asks_delete allowed.2 with fetches | ⟨raw, call, parsed⟩
      · exact fetches
      · exact absurd parsed (spared caller raw call)
  finding caller waiting failing fetches := by
    obtain ⟨raw, call, parsed⟩ := fetches
    rw [call]
    exact Proc.safe_bind _ _ _ _ _ _ (fetch_finds codec .none many parsed) fun _ _ finds => finds

section Routes

variable {app : App} {requests : Nat → Request} {caller : Nat}

/-- A call that deletes is that of a request to delete. -/
theorem calls_delete {raw : String} (call : app.calls requests caller = .delete raw) :
    dispatch (requests caller).method (requests caller).path = .deletePaste raw := by
  unfold App.calls App.callOf at call
  split at call
  · split at call
    · cases call
    · cases call
  · cases call
  · cases call
  · rename_i routed
    cases call
    exact routed
  · cases call

theorem CreatePasteResponse.fields_injective {left right : CreatePasteResponse}
    (same : left.fields = right.fields) : left = right := by
  simp only [CreatePasteResponse.fields, List.cons.injEq, Prod.mk.injEq, Scalar.text.injEq,
    Scalar.number.injEq, Scalar.bool.injEq, true_and, and_true] at same
  obtain ⟨id, url, created, expires, flag⟩ := same
  cases left
  cases right
  cases nullable_number expires
  simp_all

/-- The paste that a request to create was told of, as its call has made it. -/
theorem answered_made {config : ApiConfig PasteId Paste} {whole : PasteCalls}
    {labels : List PasteLabel} {req : CreatePasteRequest} {created : CreatePasteResponse}
    (mirrors : app.Mirrors requests config whole)
    (followed : runCalls app.codec (app.calls requests) labels = some whole)
    (posts : app.Posts (requests caller) req)
    (answered : Responded config caller (json 201 created.fields)) :
    ∃ (stamp : Nat) (made : Paste), config.shared.stores.made[stamp]? = some made ∧
      (∃ baseUrl, CreatePasteResponse.fromPaste made baseUrl = created) ∧
      PasteId.parse created.id = .ok made.id ∧ made.content.value = req.content ∧
      made.syntaxHint = req.syntaxHint ∧ made.oneShot = req.oneShot := by
  obtain ⟨paste, memory, returned, shown⟩ := posted_created mirrors
    (fun _ read => nomatch read.symm.trans posts.2) posts.1 answered (Nat.le_of_ble_eq_true rfl)
  rw [creates_post posts.1] at shown
  have same : created = CreatePasteResponse.fromPaste paste app.publicBaseUrl :=
    CreatePasteResponse.fields_injective (Body.json.inj (congrArg Response.body shown))
  obtain ⟨⟨content, ttlSeconds, call, valid⟩, draw, generated⟩ := created_gives followed returned
  obtain ⟨row, made, views, -, here, rfl⟩ := created_made (runCalls_held followed) returned
  rw [mirrors.stores] at here
  cases posts.2.symm.trans (calls_create call).2
  refine ⟨row.stamp, made, here, ⟨app.publicBaseUrl, same.symm⟩, ?_, parse_content valid, rfl, rfl⟩
  have identified : created.id = generateIdentifier generatedIdLen draw := by
    rw [same]
    exact generated
  rw [identified, PasteId.parse,
    UrlShortener.parseIdentifier_generated (by decide) (by decide) draw, ← generated]
  rfl

end Routes

/-- What the handler of a request for a paste returns that was created, if nobody deletes it and it
does not expire. -/
theorem paste_found {app : App} {rps burst : UInt32} {requests : Nat → Request}
    {front rest : List (ApiLabel PasteId)} {middle config : ApiConfig PasteId Paste}
    (reached : serve pasteEntity app.answer requests (.start rps burst) front = some middle)
    (ran : run (environment pasteEntity) (fun caller => app.answer (requests caller)) middle rest =
      some config)
    {creator reader : Nat} {req : CreatePasteRequest} {created : CreatePasteResponse}
    {response : Response} (posts : app.Posts (requests creator) req) (many : req.oneShot = false)
    (answered : Responded middle creator (json 201 created.fields))
    (once : Unrepeated pasteEntity config.shared.stores ⟨created.id⟩)
    (spared : ∀ caller,
      dispatch (requests caller).method (requests caller).path ≠ .deletePaste created.id)
    (lives : Throughout (environment pasteEntity) (fun caller => app.answer (requests caller))
      (fun config _ => isExpired created.expiresAt config.shared.stores.clock = false)
      (.initial (.start rps burst)) (front ++ rest))
    (idle : middle.threads reader = none)
    (routed : dispatch (requests reader).method (requests reader).path = .getPaste created.id ∨
      dispatch (requests reader).method (requests reader).path = .rawPaste created.id)
    (responded : Responded config reader response) :
    response.status = 429 ∨ (response.status = 500 ∧ Fails reader rest) ∨
      ∃ paste, paste.content.value = req.content ∧ paste.syntaxHint = req.syntaxHint ∧
        paste.oneShot = false ∧ paste.createdAt = created.createdAt ∧
        paste.expiresAt = created.expiresAt ∧ paste.id.value = created.id ∧
        Shows (requests reader) paste response := by
  obtain ⟨labels, whole, followed, mirrors⟩ := app.mirrors reached
  obtain ⟨stamp, made, here, ⟨baseUrl, rfl⟩, parsed, content, syntaxHint, flag⟩ :=
    answered_made mirrors followed posts answered
  have undeleted : ∀ caller raw, app.calls requests caller = .delete raw →
      PasteId.parse raw ≠ .ok made.id := by
    intro caller raw call same
    apply spared caller
    rw [calls_delete call, CreatePasteResponse.fromPaste, parse_id same]
  have fetches : Fetches (app.calls requests) made.id reader :=
    ⟨made.id.value, calls_serves routed, parsed⟩
  obtain ⟨inner, carries, looks⟩ := requests_find
    (calls_seeking (flag.trans many) undeleted) (fun caller => app.answer_carries (requests caller))
    reached ran here once lives idle fetches
  obtain ⟨memory, returned⟩ := responded
  rcases carries.returned returned with ⟨-, -, unasked, -⟩ | ⟨reply, ended, answers⟩
  · cases unasked with
    | limited _ status => exact .inl status
    | rejected _ other _ => rcases routed with got | raw <;> cases other.symm.trans ‹_›
    | other _ unasking => rcases routed with got | raw <;> simp [*, Dispatched.asks] at unasking
  · rcases looks _ ended with ⟨views, rfl⟩ | ⟨rfl, unwaiting⟩ | ⟨cause, rfl, fails⟩
    · refine .inr (.inr ⟨made.addViews views, content, syntaxHint, flag.trans many, rfl, rfl, rfl,
        ?_⟩)
      cases answers with
      | got id _ other =>
          rcases routed with got | raw
          · exact .got got
          · cases other.symm.trans raw
      | raw id _ other =>
          rcases routed with got | raw
          · cases other.symm.trans got
          · exact .raw raw
      | failed err _ failed => rcases failed with other | other | other <;> cases other
    · exact absurd trivial unwaiting
    · cases answers with
      | failed err _ failed =>
          rcases failed with other | other | other <;> cases other
          refine .inr (.inl ⟨?_, fails⟩)
          rw [answering_status]
          rfl

/-- A paste that is not one-shot is found over HTTP. Its request was answered with the id; then a
request for the paste or its text begins. If the id was used once, if nobody asks to delete it
and the clock does not reach its expiry, the answer shows what was posted, unless the client is
over its rate, an await of that request itself fails at the backend, or the middleware answers in
place of the handler. -/
theorem pastes_found {app : App} {middleware : Middleware} {rps burst : UInt32}
    {requests : Nat → Request} {front rest : List (ServingLabel PasteId)}
    {middle serving : Serving PasteId Paste}
    (reached : serveAll pasteEntity app.answer middleware requests (.start rps burst) front =
      some middle)
    (ran : Trace.run (servingStep pasteEntity app.answer middleware requests) middle rest =
      some serving)
    {creator reader : Nat} {req : CreatePasteRequest} {created : CreatePasteResponse}
    {response : Response} (posts : app.Posts (requests creator) req) (many : req.oneShot = false)
    (told : middle.Answered creator (json 201 created.fields))
    (once : Unrepeated pasteEntity serving.config.shared.stores ⟨created.id⟩)
    (spared : ∀ caller,
      dispatch (requests caller).method (requests caller).path ≠ .deletePaste created.id)
    (lives : Trace.Throughout (servingStep pasteEntity app.answer middleware requests)
      (fun serving _ => isExpired created.expiresAt serving.config.shared.stores.clock = false)
      ⟨.initial (.start rps burst), fun _ => none⟩ (front ++ rest))
    (idle : middle.config.threads reader = none)
    (routed : dispatch (requests reader).method (requests reader).path = .getPaste created.id ∨
      dispatch (requests reader).method (requests reader).path = .rawPaste created.id)
    (answered : serving.Answered reader response) :
    middleware.CutOff (requests reader) response ∨ response.status = 429 ∨
      (response.status = 500 ∧ Fails reader (rest.filterMap ServingLabel.inside?)) ∨
      ∃ paste, paste.content.value = req.content ∧ paste.syntaxHint = req.syntaxHint ∧
        paste.oneShot = false ∧ paste.createdAt = created.createdAt ∧
        paste.expiresAt = created.expiresAt ∧ paste.id.value = created.id ∧
        Shows (requests reader) paste response := by
  rcases answered_responded (serveAll_append reached ran) answered with cut | responded
  · exact .inl cut
  · have told := answered_handled reached told (show 201 ≠ 408 by decide)
      (show 201 ≠ 500 by decide)
    have lives := serving_lives (fun now => isExpired created.expiresAt now = false) reached ran
      lives
    exact .inr (paste_found (serveAll_serve reached) (serving_projects.run ran) posts many told once
      spared lives idle routed responded)

/-- Every body is a request for this paste. -/
def keepApp : App :=
  { burnApp with extract := fun _ _ => .ok ⟨"notes", some "text", none, false⟩ }

/-- Caller 0 creates the paste, and everyone else asks for its text. -/
def keepRequests : Nat → Request
  | 0 => ⟨.post, "/api/pastes", [], none, []⟩
  | _ => ⟨.get, "/raw/AAAAAAAA", [], none, []⟩

def keepFront : List (ServingLabel PasteId) :=
  ServingLabel.insides [.start 0, .step 0 (.sampled 0), .step 0 (.stores .done),
    .step 0 (.stores (.drew fun _ => 0)), .step 0 (.stores .done)] ++ [.sends 0]

/-- The cache misses, and is not filled. -/
def keepRest : List (ServingLabel PasteId) :=
  ServingLabel.insides [.start 1, .step 1 (.sampled 0), .step 1 (.stores .lost),
    .step 1 (.stores .done), .step 1 (.stores .done), .step 1 (.stores .done),
    .step 1 (.stores .done)] ++ [.sends 1]

def keptPaste : Paste := ⟨⟨"AAAAAAAA"⟩, ⟨"notes"⟩, some "text", 0, none, false, 0⟩

def keptCreated : CreatePasteResponse := .fromPaste keptPaste "http://localhost:8080"

def keptText : Response := ⟨200, contentType "text/plain; charset=utf-8", .text "notes"⟩

def keepMiddle : Option (Serving PasteId Paste) :=
  serveAll pasteEntity keepApp.answer plainMiddleware keepRequests (.start 0 0) keepFront

theorem keepMiddle_end : (keepMiddle.bind fun middle =>
    (Trace.run (servingStep pasteEntity keepApp.answer plainMiddleware keepRequests) middle
      keepRest).map fun serving =>
        (middle.sent 0, (middle.config.threads 1).isNone, serving.config.shared.stores.made,
          serving.sent 1)) =
      some (some ⟨json 201 keptCreated.fields, false⟩, true, [keptPaste],
        some ⟨keptText, false⟩) := by
  decide +kernel

theorem keep_spared (caller : Nat) :
    dispatch (keepRequests caller).method (keepRequests caller).path ≠
      .deletePaste keptCreated.id := by
  have reads : dispatch .get "/raw/AAAAAAAA" ≠ .deletePaste keptCreated.id := by
    decide
  cases caller with
  | zero => decide
  | succ caller => exact reads

theorem pastes_found_kept : ∃ middle serving, keepMiddle = some middle ∧
    Trace.run (servingStep pasteEntity keepApp.answer plainMiddleware keepRequests) middle
      keepRest = some serving ∧
    ∃ paste, paste.content.value = "notes" ∧ paste.syntaxHint = some "text" ∧
      paste.oneShot = false ∧ paste.createdAt = 0 ∧ paste.expiresAt = none ∧
      paste.id.value = "AAAAAAAA" ∧ Shows (keepRequests 1) paste keptText := by
  obtain ⟨middle, reached, later⟩ := Option.bind_eq_some_iff.mp keepMiddle_end
  obtain ⟨serving, ran, ended⟩ := Option.map_eq_some_iff.mp later
  simp only [Prod.mk.injEq] at ended
  obtain ⟨created, idle, only, read⟩ := ended
  have once : Unrepeated pasteEntity serving.config.shared.stores ⟨keptCreated.id⟩ := by
    intro stamp stamp' value value' here here' _ _
    rw [only] at here here'
    have bound := (List.getElem?_eq_some_iff.mp here).1
    have bound' := (List.getElem?_eq_some_iff.mp here').1
    rw [List.length_singleton] at bound bound'
    omega
  have posts : keepApp.Posts (keepRequests 0) ⟨"notes", some "text", none, false⟩ :=
    ⟨by decide, rfl⟩
  rcases pastes_found reached ran posts rfl ⟨false, created⟩ once keep_spared
    (fun _ _ _ _ _ _ => rfl) (Option.isNone_iff_eq_none.mp idle) (.inr (by decide))
    ⟨false, read⟩ with cut | status | ⟨status, -⟩ | found
  · rcases cut.status with status | status <;> cases status
  · cases status
  · cases status
  · exact ⟨middle, serving, reached, ran, found⟩

end ActorServices.Pastebin
