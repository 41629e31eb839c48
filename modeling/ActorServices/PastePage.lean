import ActorServices.HighlightShown
import ActorServices.PasteRouting

set_option autoImplicit false

/- The requests that the page makes, and what it shows of a paste: `createPaste`, `fetchRaw`,
`showView` and the unlock button of `app.js`. The labels of the page are left out. -/
namespace ActorServices.Pastebin.Page

open Js
open App (Browser Bytes Fields Parsed Value Payload Output renderPayload decryptPayload toText)

/-- How the browser reads the body of a response: `res.json()` and `res.text()`. -/
structure Reader where
  json : Api.Body → Option Parsed
  text : Api.Body → JsString

structure Fetched where
  status : Nat
  body : Api.Body

def Fetched.ok (res : Fetched) : Bool := 200 ≤ res.status && res.status ≤ 299

section Requests

variable (browser : Browser) (reader : Reader)

def createFields (content : JsString) (ttlSeconds : Option Nat) (oneShot : Bool) : Fields :=
  [(ascii "content", .string content), (ascii "one_shot", .bool oneShot)] ++
    match ttlSeconds with
    | some secs => if secs = 0 then [] else [(ascii "ttl_seconds", .number secs)]
    | none => []

/-- `createPaste`, up to the `id` of what it returns as the link has it. `post` is the fetch of
`/api/pastes` with a body; `none` is an exception. -/
def createPaste (post : JsString → Option Fetched) (ttlSeconds : Option Nat) (oneShot : Bool)
    (content : JsString) : Option JsString := do
  let res ← post (← browser.stringify (createFields content ttlSeconds oneShot))
  if res.ok then
    let created ← reader.json res.body
    return toText browser (← created.get "id")
  else none

/-- `fetchRaw`, of which `get` is the fetch of a path: the text, or `null`. -/
def fetchRaw (get : String → Option Fetched) (id : JsString) : Option (Option JsString) := do
  let part ← encodeURIComponent id
  let res ← get ("/raw/" ++ part)
  if res.status = 404 then return none
  else if res.ok then return some (reader.text res.body)
  else none

/-- What the page shows: the rendered payload, one of its errors, or the prompt for a password,
after a wrong one or not. In `threw` it shows nothing. -/
inductive View
  | threw
  | errNotFound
  | errCorrupt
  | shown (output : Output)
  | pwPrompt (env : Parsed) (keyStr : JsString) (errDecrypt : Bool)
  deriving DecidableEq

def showView (get : String → Option Fetched) (id keyStr : JsString) : View :=
  match fetchRaw reader get id with
  | none => .threw
  | some none => .errNotFound
  | some (some blob) =>
      match browser.parse blob with
      | none => .errCorrupt
      | some env =>
          match decryptPayload browser env keyStr [] with
          | some payload => .shown (renderPayload payload)
          | none => .pwPrompt env keyStr false

/-- A click on the unlock button with this password; it is there with the prompt only. -/
def unlock (view : View) (password : JsString) : View :=
  match view with
  | .pwPrompt env keyStr _ =>
      match decryptPayload browser env keyStr password with
      | some payload => .shown (renderPayload payload)
      | none => .pwPrompt env keyStr true
  | view => view

end Requests

/-- The page shows the text, at once if it has no password, or prompts. Whatever passwords are
tried then, it shows nothing but the text, and while it prompts the password makes it show it. -/
structure Opens (browser : Browser) (parser : Html.Parser) (password text : JsString)
    (view : View) : Prop where
  opened : (∃ output, view = .shown output ∧ output.Shows parser text) ∨
    ∃ env keyStr, view = .pwPrompt env keyStr false
  plain : password = [] → ∃ output, view = .shown output ∧ output.Shows parser text
  tried : ∀ (attempts : List JsString) output,
    attempts.foldl (unlock browser) view = .shown output → output.Shows parser text
  unlocked : ∀ (attempts : List JsString) env keyStr errDecrypt,
    attempts.foldl (unlock browser) view = .pwPrompt env keyStr errDecrypt →
    ∃ output, unlock browser (.pwPrompt env keyStr errDecrypt) password = .shown output ∧
      output.Shows parser text

section View

variable {browser : Browser} {reader : Reader} {env : Parsed} {keyStr : JsString}
  {payload : Payload}

def Tried (env : Parsed) (keyStr : JsString) (payload : Payload) (view : View) : Prop :=
  view = .shown (renderPayload payload) ∨ ∃ errDecrypt, view = .pwPrompt env keyStr errDecrypt

theorem unlock_tried
    (only : ∀ attempt other, decryptPayload browser env keyStr attempt = some other →
      other = payload)
    (attempts : List JsString) {view : View} (tried : Tried env keyStr payload view) :
    Tried env keyStr payload (attempts.foldl (unlock browser) view) := by
  induction attempts generalizing view with
  | nil => exact tried
  | cons attempt attempts ih =>
      apply ih
      rcases tried with rfl | ⟨errDecrypt, rfl⟩
      · exact .inl rfl
      · rw [unlock]
        cases opened : decryptPayload browser env keyStr attempt with
        | some other => exact .inl (by rw [only attempt other opened])
        | none => exact .inr ⟨true, rfl⟩

theorem showView_opens {parser : Html.Parser} (standard : parser.Standard)
    {get : String → Option Fetched} {id blob password : JsString}
    (fetched : fetchRaw reader get id = some (some blob)) (parsed : browser.parse blob = some env)
    (decrypts : decryptPayload browser env keyStr password = some payload)
    (only : ∀ attempt other, decryptPayload browser env keyStr attempt = some other →
      other = payload) :
    Opens browser parser password payload.t (showView browser reader get id keyStr) := by
  have rendered := App.renderPayload_shows standard payload
  have view : showView browser reader get id keyStr =
      match decryptPayload browser env keyStr [] with
      | some payload => .shown (renderPayload payload)
      | none => .pwPrompt env keyStr false := by
    simp only [showView, fetched, parsed]
  have first : showView browser reader get id keyStr = .shown (renderPayload payload) ∨
      showView browser reader get id keyStr = .pwPrompt env keyStr false := by
    rw [view]
    cases opened : decryptPayload browser env keyStr [] with
    | some other => exact .inl (by rw [only [] other opened])
    | none => exact .inr rfl
  have tried : Tried env keyStr payload (showView browser reader get id keyStr) :=
    first.imp_right fun prompts => ⟨false, prompts⟩
  constructor
  case opened =>
    rcases first with shown | prompts
    · exact .inl ⟨_, shown, rendered⟩
    · exact .inr ⟨env, keyStr, prompts⟩
  case plain =>
    rintro rfl
    exact ⟨_, by rw [view, decrypts], rendered⟩
  case tried =>
    intro attempts output shown
    rcases unlock_tried only attempts tried with same | ⟨errDecrypt, prompts⟩
    · cases shown.symm.trans same
      exact rendered
    · cases shown.symm.trans prompts
  case unlocked =>
    intro attempts env' keyStr' errDecrypt prompts
    rcases unlock_tried only attempts tried with same | ⟨before, same⟩
    · cases prompts.symm.trans same
    · cases prompts.symm.trans same
      exact ⟨_, by rw [unlock, decrypts], rendered⟩

end View

end ActorServices.Pastebin.Page
