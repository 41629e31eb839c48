import ActorServices.PastePage
import ActorServices.PasteRequests

set_option autoImplicit false

namespace ActorServices.Pastebin.Page

open Api Interleave Environment Js
open App (Browser Bytes Fields Value shareLink encryptPayload isIdUnit toText)

def byteOrderMark : UInt16 := 0xFEFF

/-- What the page and the service read of each other: the `id` in the answer to a created paste,
the text of a paste, and the content and the flag in a body that the service accepts. A byte order
mark at its front is taken from the text; what `JSON.stringify` writes does not begin with one. -/
structure Reader.Faithful (reader : Reader) (browser : Browser) (app : Pastebin.App) : Prop where
  json_id : ∀ response : CreatePasteResponse, ∃ created,
    reader.json (.json response.fields) = some created ∧
      created.get "id" = some (.string (ofString response.id))
  text_text : ∀ value, (ofString value).head? ≠ some byteOrderMark →
    reader.text (.text value) = ofString value
  unmarked : ∀ fields text, browser.stringify fields = some text →
    text.head? ≠ some byteOrderMark
  accepted : ∀ content ttlSeconds oneShot body headers req,
    browser.stringify (createFields content ttlSeconds oneShot) = some body →
    app.extract headers (browser.encodeText body) = .ok req →
    ofString req.content = content ∧ req.oneShot = oneShot
  rejected : ∀ headers body rejection, app.extract headers body = .error rejection →
    400 ≤ rejection.status

/-- The caller's request is what the page posts, and its response what the page gets. -/
def Posts (browser : Browser) (requests : Nat → Request) (serving : Serving PasteId Paste)
    (caller : Nat) (post : JsString → Option Fetched) : Prop :=
  ∀ body fetched, post body = some fetched →
    (requests caller).method = .post ∧ (requests caller).path = "/api/pastes" ∧
      (requests caller).body = browser.encodeText body ∧
      ∃ response, serving.Answered caller response ∧ fetched = ⟨response.status, response.body⟩

/-- The caller's request is what the page gets, and so is its response. -/
def Gets (requests : Nat → Request) (serving : Serving PasteId Paste) (caller : Nat)
    (get : String → Option Fetched) : Prop :=
  ∀ path fetched, get path = some fetched →
    (requests caller).method = .get ∧ (requests caller).path = path ∧
      ∃ response, serving.Answered caller response ∧ fetched = ⟨response.status, response.body⟩

/-- No second paste was ever stored under the id. -/
def Once (serving : Serving PasteId Paste) (id : JsString) : Prop :=
  ∀ (stamp stamp' : Nat) (made made' : Paste),
    serving.config.shared.stores.made[stamp]? = some made →
    serving.config.shared.stores.made[stamp']? = some made' → ofString made.id.value = id →
    ofString made'.id.value = id → stamp = stamp'

section Ids

theorem alphabet_unit : ∀ index : Fin 62,
    utf16 (alphabet.getD index.val 'A') = [unit (alphabet.getD index.val 'A')] ∧
      isIdUnit (unit (alphabet.getD index.val 'A')) = true := by
  decide +kernel

/-- A generated id as the link has it. -/
theorem generated_units (draw : Nat → Fin 62) :
    ofString (generateIdentifier generatedIdLen draw) ≠ [] ∧
      ∀ u ∈ ofString (generateIdentifier generatedIdLen draw), isIdUnit u = true := by
  have units : ofString (generateIdentifier generatedIdLen draw) =
      (List.range generatedIdLen).map fun i => unit (alphabet.getD (draw i).val 'A') := by
    rw [ofString, generateIdentifier, String.toList_ofList, List.flatMap_map, List.map_eq_flatMap]
    exact List.flatMap_congr fun i _ => (alphabet_unit (draw i)).1
  rw [units]
  constructor
  · exact List.cons_ne_nil _ _
  · intro u among
    obtain ⟨i, -, rfl⟩ := List.mem_map.mp among
    exact (alphabet_unit (draw i)).2

end Ids

section Author

variable {app : Pastebin.App} {middleware : Middleware} {browser : Browser} {reader : Reader}
  {requests : Nat → Request} {rps burst : UInt32} {labels : List (ServingLabel PasteId)}
  {serving : Serving PasteId Paste} {whole : PasteCalls} {author : Nat}
  {post : JsString → Option Fetched} {ttlSeconds : Option Nat} {oneShot : Bool}
  {content id : JsString}

/-- The page that creates a paste learns its id, and the paste is what the page posted. -/
theorem createPaste_created (faithful : reader.Faithful browser app)
    (ran : serveAll pasteEntity app.answer middleware requests (.start rps burst) labels =
      some serving)
    (mirrors : app.Mirrors requests serving.config whole) {labels' : List PasteLabel}
    (followed : runCalls app.codec (app.calls requests) labels' = some whole)
    (posts : Posts browser requests serving author post)
    (made : createPaste browser reader post ttlSeconds oneShot content = some id) :
    ∃ paste memory, whole.Returned author (.created (.ok paste)) memory ∧
      id = ofString paste.id.value ∧ ofString paste.content.value = content ∧
      paste.oneShot = oneShot ∧
      ∃ draw, paste.id.value = generateIdentifier generatedIdLen draw := by
  simp only [createPaste, Option.bind_eq_bind, Option.bind_eq_some_iff] at made
  obtain ⟨body, written, res, came, made⟩ := made
  split at made
  · rename_i success
    simp only [Option.bind_eq_some_iff] at made
    obtain ⟨created, read, value, found, same⟩ := made
    obtain ⟨method, path, sent, response, answered, rfl⟩ := posts body res came
    have routed : dispatch (requests author).method (requests author).path = .createPaste := by
      rw [method, path]
      decide
    simp only [Fetched.ok, Bool.and_eq_true, decide_eq_true_eq] at success
    have responded := answered_handled ran answered (by omega) (by omega)
    obtain ⟨paste, memory, returned, rfl⟩ :=
      posted_created mirrors (faithful.rejected _ _) routed responded success.2
    have gives := created_gives followed returned
    obtain ⟨text, secs, call, valid⟩ := gives.call
    have posted := (calls_create call).2
    rw [sent] at posted
    obtain ⟨content_, flag⟩ := faithful.accepted _ _ _ _ _ _ written posted
    refine ⟨paste, memory, returned, ?_, ?_, flag, gives.generated⟩
    · obtain ⟨created', read', found'⟩ :=
        faithful.json_id (CreatePasteResponse.fromPaste paste app.publicBaseUrl)
      rw [method] at read
      cases read.symm.trans read'
      cases found.symm.trans found'
      cases same
      rfl
    · rw [parse_content valid]
      exact content_
  · cases made

end Author

section Viewer

variable {app : Pastebin.App} {middleware : Middleware} {requests : Nat → Request}
  {rps burst : UInt32} {labels : List (ServingLabel PasteId)}
  {serving : Serving PasteId Paste} {config : ApiConfig PasteId Paste} {whole : PasteCalls}
  {viewer : Nat} {get : String → Option Fetched} {value : String}

/-- A success in answer to a request for a raw paste is the text of a paste. -/
theorem raw_served (mirrors : app.Mirrors requests config whole)
    (held : Held app.codec (app.calls requests) whole)
    (method : (requests viewer).method = .get)
    (routed : dispatch (requests viewer).method (requests viewer).path = .rawPaste value)
    {response : Response} (responded : Responded config viewer response)
    (ok : response.status ≤ 299) :
    ∃ paste memory, whole.Returned viewer (.fetched (.ok paste)) memory ∧ paste.id.value = value ∧
      response.body = .text paste.content.value := by
  rcases mirrors.responded viewer response responded with
    ⟨unasked, -⟩ | ⟨reply, memory, returned, answers⟩
  · cases unasked with
    | limited _ refused => omega
    | rejected _ other _ => cases routed.symm.trans other
    | other _ unasking =>
        rw [routed] at unasking
        cases unasking
  · cases answers with
    | raw id paste other =>
        cases routed.symm.trans other
        refine ⟨paste, memory, returned, ?_, by rw [method]; rfl⟩
        obtain ⟨-, ⟨raw, fetches, parsed⟩, -⟩ := held.fetched returned
        cases (calls_serves (.inr routed)).symm.trans fetches
        rw [parse_id parsed]
    | created _ other => cases routed.symm.trans other
    | got _ _ other => cases routed.symm.trans other
    | deleted _ other => cases routed.symm.trans other
    | failed err _ _ =>
        rw [answering_status] at ok
        have refused := failure_refused err
        omega

/-- The page that fetches an id throws, finds nothing, or reads the text of a paste under it. -/
theorem fetchRaw_cases (reader : Reader)
    (ran : serveAll pasteEntity app.answer middleware requests (.start rps burst) labels =
      some serving)
    (mirrors : app.Mirrors requests serving.config whole)
    (held : Held app.codec (app.calls requests) whole) (gets : Gets requests serving viewer get)
    (nonempty : ofString value ≠ []) :
    fetchRaw reader get (ofString value) = none ∨
      fetchRaw reader get (ofString value) = some none ∨
      ∃ paste memory, whole.Returned viewer (.fetched (.ok paste)) memory ∧
        paste.id.value = value ∧ fetchRaw reader get (ofString value) =
          some (some (reader.text (.text paste.content.value))) := by
  unfold fetchRaw
  cases encoded : encodeURIComponent (ofString value) with
  | none => exact .inl rfl
  | some part =>
      simp only [Option.bind_eq_bind, Option.bind_some]
      cases came : get ("/raw/" ++ part) with
      | none => exact .inl rfl
      | some res =>
          obtain ⟨method, path, response, answered, rfl⟩ := gets _ _ came
          obtain ⟨text, read, routed⟩ := raw_path nonempty encoded
          rw [characters_ofString] at read
          cases read
          rw [String.ofList_toList, ← method, ← path] at routed
          simp only [Option.bind_some]
          split
          · exact .inr (.inl rfl)
          · split
            · rename_i success
              simp only [Fetched.ok, Bool.and_eq_true, decide_eq_true_eq] at success
              obtain ⟨paste, memory, returned, same, body⟩ :=
                raw_served mirrors held method routed
                  (answered_handled ran answered (by omega) (by omega)) success.2
              exact .inr (.inr ⟨paste, memory, returned, same, by rw [body]; rfl⟩)
            · exact .inl rfl

/-- Under an id that did not come twice, what is fetched is what was created. -/
theorem fetched_created {codec : JsonCodec} {calls : Nat → Call} (held : Held codec calls whole)
    (stores : whole.shared = serving.config.shared.stores) {author : Nat} {paste paste' : Paste}
    {memory memory' : Memory Paste} (once : Once serving (ofString paste.id.value))
    (created : whole.Returned author (.created (.ok paste)) memory)
    (fetched : whole.Returned viewer (.fetched (.ok paste')) memory')
    (same : paste'.id = paste.id) :
    ∃ row made, memory.held = some row ∧ whole.shared.made[row.stamp]? = some made ∧
      made.oneShot = paste.oneShot ∧ paste'.content = paste.content ∧
      Serves whole viewer row.stamp := by
  obtain ⟨row, made, views, holds, here, rfl⟩ := created_made held created
  obtain ⟨stamp, made', views', serves, here', rfl⟩ := held.fetched_made fetched
  have ids : ofString made'.id.value = ofString made.id.value :=
    congrArg (fun id : PasteId => ofString id.value) same
  have stamps : row.stamp = stamp := by
    rw [stores] at here here'
    exact once row.stamp stamp made made' here here' rfl ids
  subst stamps
  cases here.symm.trans here'
  exact ⟨row, made, holds, here, rfl, rfl, serves⟩

end Viewer

/-- A share link in any run of the service, with whatever requests beside: a page that made the
link from a text, and pages that open it. If its id did not come twice, a page that opens it
throws, finds nothing, or has the text, which it shows at once if there is no password, and
shows as soon as it is given the password while it prompts. If the text was to burn after
reading, one page at most has it. -/
theorem share_opens {app : Pastebin.App} {browser : Browser} {reader : Reader}
    {parser : Html.Parser} (standard : browser.Standard) (authentic : browser.Authentic)
    (reads : parser.Standard) (faithful : reader.Faithful browser app) {middleware : Middleware}
    {rps burst : UInt32} {requests : Nat → Request} {labels : List (ServingLabel PasteId)}
    {serving : Serving PasteId Paste}
    (ran : serveAll pasteEntity app.answer middleware requests (.start rps burst) labels =
      some serving)
    {author : Nat} {post : JsString → Option Fetched}
    (posts : Posts browser requests serving author post)
    {text syntaxHint password link : JsString} {urlKey salt iv : Bytes} {ttlSeconds : Option Nat}
    {oneShot : Bool}
    (linked : App.onCreate browser (createPaste browser reader post ttlSeconds oneShot) text
      syntaxHint password urlKey salt iv = some link) :
    ∃ id keyStr, App.init browser link = some (id, keyStr) ∧ (Once serving id →
      (∀ viewer get, Gets requests serving viewer get →
        let view := showView browser reader get id keyStr
        view = .threw ∨ view = .errNotFound ∨ Opens browser parser password text view) ∧
      (oneShot = true → ∀ viewer viewer' get get', Gets requests serving viewer get →
        Gets requests serving viewer' get' →
        Opens browser parser password text (showView browser reader get id keyStr) →
        Opens browser parser password text (showView browser reader get' id keyStr) →
        viewer = viewer')) := by
  obtain ⟨labels', whole, followed, mirrors⟩ := app.mirrors (serveAll_serve ran)
  have held : Held app.codec (app.calls requests) whole := runCalls_held followed
  unfold App.onCreate at linked
  split at linked
  · cases linked
  simp only [Option.bind_eq_bind, Option.bind_eq_some_iff] at linked
  obtain ⟨made, encrypted, id, posted, same⟩ := linked
  cases same
  obtain ⟨paste, memory, created, rfl, content, flag, draw, generated⟩ :=
    createPaste_created faithful ran mirrors followed posts posted
  obtain ⟨nonempty, plain⟩ := generated_units draw
  rw [← generated] at nonempty plain
  obtain ⟨key, env, parsed, decrypts, only⟩ := App.decryptPayload_made standard encrypted
  have keyPlain : ∀ u ∈ made.keyStr, App.isKeyUnit u = true := key ▸ App.urlSymbols_key _
  obtain ⟨_, written⟩ := App.encryptPayload_written encrypted
  -- what is posted is JSON, so that no byte order mark is taken from its front
  have readText : reader.text (.text paste.content.value) = made.envelope := by
    rw [faithful.text_text _ (content ▸ faithful.unmarked _ _ written), content]
  refine ⟨ofString paste.id.value, made.keyStr,
    App.init_link standard.origin_clean nonempty plain keyPlain, fun once => ⟨?_, ?_⟩⟩
  · intro viewer get gets
    rcases fetchRaw_cases reader ran mirrors held gets nonempty with
      threw | missing | ⟨paste', memory', fetched, id, came⟩
    · exact .inl (by simp only [showView, threw])
    · exact .inr (.inl (by simp only [showView, missing]))
    · obtain ⟨row, made', -, -, -, contents, -⟩ :=
        fetched_created held mirrors.stores once created fetched (congrArg PasteId.mk id)
      rw [contents, readText] at came
      exact .inr (.inr (showView_opens reads came parsed decrypts (only authentic)))
  · intro burns viewer viewer' get get' gets gets' opens opens'
    have served : ∀ {viewer get}, Gets requests serving viewer get →
        Opens browser parser password text (showView browser reader get (ofString paste.id.value)
          made.keyStr) →
        ∃ row made, memory.held = some row ∧ whole.shared.made[row.stamp]? = some made ∧
          made.oneShot = paste.oneShot ∧ Serves whole viewer row.stamp := by
      intro viewer get gets opens
      rcases fetchRaw_cases reader ran mirrors held gets nonempty with
        threw | missing | ⟨paste', memory', fetched, id, came⟩
      · rcases opens.opened with ⟨output, shown, -⟩ | ⟨env, keyStr, prompts⟩
        · simp [showView, threw] at shown
        · simp [showView, threw] at prompts
      · rcases opens.opened with ⟨output, shown, -⟩ | ⟨env, keyStr, prompts⟩
        · simp [showView, missing] at shown
        · simp [showView, missing] at prompts
      · obtain ⟨row, made', holds, here, flags, -, serves⟩ :=
          fetched_created held mirrors.stores once created fetched (congrArg PasteId.mk id)
        exact ⟨row, made', holds, here, flags, serves⟩
    obtain ⟨row, made', holds, here, flags, serves⟩ := served gets opens
    obtain ⟨row', made'', holds', -, -, serves'⟩ := served gets' opens'
    cases holds.symm.trans holds'
    exact served_once held here ((flags.trans flag).trans burns) serves serves'

/-- The envelope of the example, and the JSON that posts it. -/
def shareEnvelope : String :=
  "\x7b\"v\":2,\"iter\":100000,\"salt\":\"AQI=\",\"iv\":\"AAECAwQFBgcICQoL\"," ++
    "\"ct\":\"pGFhGwHqAr+3WUpaJoBI0I/x+lItPfCtOSXEfIUlyjrNYvc=\"\x7d"

def sharePost : Fields × JsString :=
  (createFields (ascii shareEnvelope) none true,
    ascii ("\x7b\"content\":\"\x7b\\\"v\\\":2,\\\"iter\\\":100000,\\\"salt\\\":\\\"AQI=\\\"," ++
      "\\\"iv\\\":\\\"AAECAwQFBgcICQoL\\\"," ++
      "\\\"ct\\\":\\\"pGFhGwHqAr+3WUpaJoBI0I/x+lItPfCtOSXEfIUlyjrNYvc=\\\"\x7d\"," ++
      "\"one_shot\":true\x7d"))

/-- The browser of the other example, which writes this post, too. -/
def shareBrowser : Browser :=
  { App.exampleBrowser with
    stringify := fun fields =>
      if fields = sharePost.1 then some sharePost.2 else App.exampleBrowser.stringify fields }

theorem sharePost_unportable : ¬ App.Portable sharePost.1 := by
  intro portable
  exact portable.values (ascii "one_shot", .bool true)
    (List.mem_cons_of_mem _ List.mem_cons_self)

theorem shareBrowser_written {fields : Fields} {text : JsString} (portable : App.Portable fields)
    (written : shareBrowser.stringify fields = some text) :
    App.exampleBrowser.stringify fields = some text := by
  have other : fields ≠ sharePost.1 := by
    rintro rfl
    exact sharePost_unportable portable
  simpa only [shareBrowser, if_neg other] using written

theorem shareBrowser_standard : shareBrowser.Standard where
  parse_stringify fields text portable written :=
    App.exampleBrowser_standard.parse_stringify fields text portable
      (shareBrowser_written portable written)
  decode_encode fields text portable written :=
    App.exampleBrowser_standard.decode_encode fields text portable
      (shareBrowser_written portable written)
  decrypt_encrypt := App.exampleBrowser_standard.decrypt_encrypt
  origin_clean := App.exampleBrowser_standard.origin_clean

theorem shareBrowser_authentic : shareBrowser.Authentic := by
  intro key key' iv plain cipher locked other
  simp only [shareBrowser, App.exampleBrowser] at locked ⊢
  split at locked
  · rename_i same
    rw [if_neg]
    rintro ⟨wrong, -⟩
    exact other (wrong.trans same.1.symm)
  · cases locked

def scalarValue : Scalar → Value
  | .null => .null
  | .bool value => .bool value
  | .number value => .number value
  | .text value => .string (ofString value)

def shareReader : Reader where
  json body :=
    match body with
    | .json fields => some (.object (fields.map fun field => (ascii field.1, scalarValue field.2)))
    | _ => none
  text body :=
    match body with
    | .text value => ofString value
    | _ => []

/-- Every body is read as that post. -/
def shareApp : Pastebin.App :=
  { burnApp with
    publicBaseUrl := "https://paste.example"
    extract := fun _ _ => .ok ⟨shareEnvelope, none, none, true⟩ }

theorem shareEnvelope_units : ofString shareEnvelope = ascii shareEnvelope := by
  decide +kernel

theorem ascii_begins {front back : String} {u : UInt16} (first : (ascii front).head? = some u) :
    (ascii (front ++ back)).head? = some u := by
  rw [ascii, String.toList_append, List.map_append, List.head?_append]
  exact congrArg (Option.or · _) first

theorem sharePost_begins : sharePost.2.head? = some (unit '\x7b') ∧
    App.examplePayload.2.head? = some (unit '\x7b') ∧
      App.exampleEnvelope.2.head? = some (unit '\x7b') := by
  refine ⟨?_, rfl, ?_⟩
  · apply ascii_begins
    apply ascii_begins
    apply ascii_begins
    rfl
  · apply ascii_begins
    rfl

theorem share_faithful : shareReader.Faithful shareBrowser shareApp where
  json_id response := by
    refine ⟨_, rfl, ?_⟩
    simp only [App.Parsed.get, App.property, CreatePasteResponse.fields, List.map_cons,
      List.lookup_cons_self, Option.getD_some, scalarValue]
  text_text value _ := rfl
  unmarked fields text written := by
    have other : unit '\x7b' ≠ byteOrderMark := by decide
    have begins : text.head? = some (unit '\x7b') := by
      simp only [shareBrowser] at written
      split at written
      · rw [← Option.some.inj written]
        exact sharePost_begins.1
      · rcases App.exampleBrowser_written written with payload | envelope
        · rw [show text = App.examplePayload.2 from congrArg Prod.snd payload]
          exact sharePost_begins.2.1
        · rw [show text = App.exampleEnvelope.2 from congrArg Prod.snd envelope]
          exact sharePost_begins.2.2
    rw [begins]
    exact fun same => other (Option.some.inj same)
  accepted content ttlSeconds oneShot body headers req written read := by
    have fields : createFields content ttlSeconds oneShot = sharePost.1 := by
      by_contra other
      simp only [shareBrowser, if_neg other] at written
      rcases App.exampleBrowser_written written with payload | envelope
      · have first := congrArg (fun pair : Fields × JsString => pair.1.head?.map Prod.fst) payload
        have names : some (ascii "content") ≠ some (ascii "t") := by decide
        exact names first
      · have first := congrArg (fun pair : Fields × JsString => pair.1.head?.map Prod.fst) envelope
        have names : some (ascii "content") ≠ some (ascii "v") := by decide
        exact names first
    cases read
    simp only [createFields, sharePost, List.cons_append, List.cons.injEq, Prod.mk.injEq,
      true_and, Value.string.injEq, Value.bool.injEq] at fields
    exact ⟨shareEnvelope_units.trans fields.1.symm, fields.2.1.symm⟩
  rejected headers body rejection read := by
    cases read

def sharedPaste : Paste := ⟨⟨"AAAAAAAA"⟩, ⟨shareEnvelope⟩, none, 0, none, true, 0⟩

/-- Caller 0 posts the envelope, and everyone else opens the link. -/
def shareRequests : Nat → Request
  | 0 => ⟨.post, "/api/pastes", contentType "application/json", none,
      shareBrowser.encodeText sharePost.2⟩
  | _ => ⟨.get, "/raw/AAAAAAAA", [], none, []⟩

def shareRun : Option (Serving PasteId Paste) :=
  serveAll pasteEntity shareApp.answer plainMiddleware shareRequests (.start 0 0) Api.burnLabels

def shareCreated : Response :=
  json 201 (CreatePasteResponse.fromPaste sharedPaste "https://paste.example").fields

def shareRead : Response :=
  ⟨200, contentType "text/plain; charset=utf-8", .text shareEnvelope⟩

theorem shareRun_end : shareRun.map (fun serving => (serving.config.shared.stores.made,
    serving.sent 0, serving.sent 1)) =
      some ([sharedPaste], some ⟨shareCreated, false⟩, some ⟨shareRead, false⟩) := by
  decide +kernel

def sharePosted (body : JsString) : Option Fetched :=
  if body = sharePost.2 then some ⟨shareCreated.status, shareCreated.body⟩ else none

def shareGot (path : String) : Option Fetched :=
  if path = "/raw/AAAAAAAA" then some ⟨shareRead.status, shareRead.body⟩ else none

theorem onCreate_made {browser : Browser} {createPaste : JsString → Option JsString}
    {content syntaxHint password envelope keyStr id : JsString} {urlKey salt iv : Bytes}
    (written : content ≠ [])
    (encrypted : encryptPayload browser content syntaxHint password urlKey salt iv =
      some ⟨envelope, keyStr⟩) (created : createPaste envelope = some id) :
    App.onCreate browser createPaste content syntaxHint password urlKey salt iv =
      some (shareLink browser id keyStr) := by
  simp only [App.onCreate, written, ↓reduceIte, encrypted, created, Option.bind_eq_bind,
    Option.bind_some, Option.pure_def]

theorem share_linked :
    App.onCreate shareBrowser (createPaste shareBrowser shareReader sharePosted none true)
      (ascii "a<b") (ascii "c") (ascii "pw") [251, 255, 254, 7] [1, 2] App.exampleIv =
        some (shareLink shareBrowser (ascii "AAAAAAAA") (ascii "-__-Bw")) := by
  have written : ascii "a<b" ≠ [] := by decide
  have encrypted : encryptPayload shareBrowser (ascii "a<b") (ascii "c") (ascii "pw")
      [251, 255, 254, 7] [1, 2] App.exampleIv = some ⟨ascii shareEnvelope, ascii "-__-Bw"⟩ := by
    simp only [encryptPayload, App.bytesToB64_eq]
    decide +kernel
  have created : createPaste shareBrowser shareReader sharePosted none true
      (ascii shareEnvelope) = some (ascii "AAAAAAAA") := by
    have posted : shareBrowser.stringify sharePost.1 = some sharePost.2 := by
      simp only [shareBrowser, ↓reduceIte]
    have came : sharePosted sharePost.2 = some ⟨shareCreated.status, shareCreated.body⟩ := by
      simp only [sharePosted, ↓reduceIte]
    have fields : createFields (ascii shareEnvelope) none true = sharePost.1 := rfl
    simp only [createPaste, fields, posted, came, Option.bind_eq_bind, Option.bind_some]
    decide
  exact onCreate_made written encrypted created

theorem share_posts {serving : Serving PasteId Paste}
    (created : serving.sent 0 = some ⟨shareCreated, false⟩) :
    Posts shareBrowser shareRequests serving 0 sharePosted := by
  intro body fetched came
  obtain ⟨same, answered⟩ := Option.ite_none_right_eq_some.mp came
  rw [← Option.some.inj answered, same]
  refine ⟨rfl, rfl, ?_, shareCreated, ⟨false, created⟩, rfl⟩
  simp only [shareRequests]

theorem share_gets {serving : Serving PasteId Paste}
    (read : serving.sent 1 = some ⟨shareRead, false⟩) :
    Gets shareRequests serving 1 shareGot := by
  intro path fetched came
  obtain ⟨same, answered⟩ := Option.ite_none_right_eq_some.mp came
  rw [← Option.some.inj answered, same]
  exact ⟨rfl, rfl, shareRead, ⟨false, read⟩, rfl⟩

theorem share_once {serving : Serving PasteId Paste}
    (only : serving.config.shared.stores.made = [sharedPaste]) (id : JsString) :
    Once serving id := by
  intro stamp stamp' made made' here here' _ _
  rw [only] at here here'
  have bound := (List.getElem?_eq_some_iff.mp here).1
  have bound' := (List.getElem?_eq_some_iff.mp here').1
  rw [List.length_singleton] at bound bound'
  omega

theorem share_opens_burnt : ∃ serving, shareRun = some serving ∧
    Opens shareBrowser Html.spanParser (ascii "pw") (ascii "a<b")
      (showView shareBrowser shareReader shareGot (ascii "AAAAAAAA") (ascii "-__-Bw")) := by
  obtain ⟨serving, ran, ended⟩ := Option.map_eq_some_iff.mp shareRun_end
  simp only [Prod.mk.injEq] at ended
  obtain ⟨only, created, read⟩ := ended
  obtain ⟨id, keyStr, shown, opens⟩ :=
    share_opens shareBrowser_standard shareBrowser_authentic Html.spanParser_standard
      share_faithful ran (share_posts created) share_linked
  have link : App.init shareBrowser (shareLink shareBrowser (ascii "AAAAAAAA") (ascii "-__-Bw")) =
      some (ascii "AAAAAAAA", ascii "-__-Bw") := by
    decide
  obtain ⟨named, keyed⟩ := Prod.mk.inj (Option.some.inj (shown.symm.trans link))
  rw [named, keyed] at opens
  have came : fetchRaw shareReader shareGot (ascii "AAAAAAAA") =
      some (some (ascii shareEnvelope)) := by
    have part : encodeURIComponent (ascii "AAAAAAAA") = some "AAAAAAAA" := by decide +kernel
    have got : shareGot ("/raw/" ++ "AAAAAAAA") = some ⟨shareRead.status, shareRead.body⟩ :=
      if_pos rfl
    rw [← shareEnvelope_units]
    simp only [fetchRaw, part, got, Option.bind_eq_bind, Option.bind_some, shareRead, shareReader,
      Fetched.ok]
    simp only [Nat.reduceEqDiff, ↓reduceIte, Nat.reduceLeDiff, decide_true,
      Bool.and_self, Option.pure_def]
  refine ⟨serving, ran, ((opens (share_once only _)).1 1 shareGot
    (share_gets read)).resolve_left ?_ |>.resolve_left ?_⟩
  · intro threw
    simp only [showView, came] at threw
    split at threw
    · cases threw
    · split at threw <;> cases threw
  · intro missing
    simp only [showView, came] at missing
    split at missing
    · cases missing
    · split at missing <;> cases missing

end ActorServices.Pastebin.Page
