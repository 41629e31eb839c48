import ActorServices.LinkApi
import ActorServices.LinkRedis

set_option autoImplicit false

namespace ActorServices.UrlShortener

open ActorServices.Sequential

/-- The answer is a `302` to the target, and no redirect is counted but for a `302`. -/
structure RedirectsTo (target : String) (redirect : Redirect) : Prop where
  found : redirect.answer = .ok (Utf8.encode target.toList)
  status : redirect.status = 302
  counted : 0 < redirect.counted → redirect.status = 302

/-- The text can be sent as a header value. -/
def HeaderSafe (text : String) : Prop :=
  ∀ byte ∈ Utf8.encode text.toList, byte = 9 ∨ (32 ≤ byte ∧ byte ≠ 127)

section Redirect

theorem headerValue_iff (text : String) :
    headerValue text = some (Utf8.encode text.toList) ↔ HeaderSafe text := by
  have bytes (byte : UInt8) :
      headerByte byte = true ↔ byte = 9 ∨ (32 ≤ byte ∧ byte ≠ 127) := by
    simp [headerByte]
  have all : (Utf8.encode text.toList).all headerByte = true ↔ HeaderSafe text := by
    simp only [List.all_eq_true, bytes, HeaderSafe]
  by_cases safe : (Utf8.encode text.toList).all headerByte = true
  · rw [headerValue, if_pos safe]
    exact ⟨fun _ => all.mp safe, fun _ => rfl⟩
  · rw [headerValue, if_neg safe]
    exact ⟨nofun, fun fine => absurd (all.mpr fine) safe⟩

theorem headerValue_some {text : String} {location : List UInt8}
    (encoded : headerValue text = some location) : location = Utf8.encode text.toList := by
  unfold headerValue at encoded
  split at encoded
  · exact (Option.some.inj encoded).symm
  · cases encoded

variable {recorder : Recorder} {draws : Nat → Nat → Fin 62} {cache : Cache ShortCode}
  {instant : Instant} {world : World ShortCode Link cache.State} {raw : String} {code : ShortCode}
  {link : Link}

theorem resolveStored_live (stored : world.repo code = some link)
    (live : link.isExpired instant.reading = false) :
    (Proc.run (handle linkEntity recorder draws cache instant) (resolveStored code) world).1 =
      .ok link.target := by
  have positive := ttlAt_pos live
  simp only [resolveStored, fillCache, Proc.call_bind, Proc.ret_bind, Proc.pure_eq, Proc.run_call,
    handle, stored, live, Bool.false_eq_true, ↓reduceIte, Proc.run_bind, run_cacheTtlSecs,
    positive, Proc.run_ret]

/-- A live link resolves to its target, also by way of a cache entry made of it. -/
theorem resolve_live (parsed : ShortCode.parse raw = .ok code)
    (stored : world.repo code = some link) (live : link.isExpired instant.reading = false)
    (cached : ∀ text, (cache.get world.cache instant.time code).1 = some text →
      text = link.target.value) :
    (Proc.run (handle linkEntity recorder draws cache instant) (resolve raw) world).1 =
      .ok link.target := by
  simp only [resolve, parsed, Proc.call_bind, Proc.ret_bind, Proc.run_call, handle]
  cases found : (cache.get world.cache instant.time code).1 with
  | none => exact resolveStored_live stored live
  | some text =>
      have same : link.target = ⟨text⟩ := by rw [cached text found]
      rw [same]
      rfl

/-- Every accepted target that a live link stores is redirected to, exactly when its bytes
may all stand in a header. -/
theorem redirect_found_iff {urls : UrlParser} {text : String}
    (accepted : TargetUrl.parse urls text = .ok link.target)
    (parsed : ShortCode.parse raw = .ok code) (stored : world.repo code = some link)
    (live : link.isExpired instant.reading = false)
    (cached : ∀ entry, (cache.get world.cache instant.time code).1 = some entry →
      entry = link.target.value) :
    RedirectsTo text
        (Proc.run (handle linkEntity recorder draws cache instant) (redirect raw) world).1 ↔
      HeaderSafe text := by
  have target : link.target.value = text := by rw [parse_target accepted]
  have resolved :
      (Proc.run (handle linkEntity recorder draws cache instant) (resolve raw) world).1 =
        .ok link.target := resolve_live parsed stored live cached
  rw [redirect, Proc.run_bind, resolved]
  dsimp only
  rw [target]
  cases encoded : headerValue text with
  | none =>
      constructor
      · intro redirects
        cases redirects.found
      · intro safe
        rw [(headerValue_iff text).mpr safe] at encoded
        cases encoded
  | some location =>
      have bytes := headerValue_some encoded
      rw [bytes] at encoded ⊢
      exact ⟨fun _ => (headerValue_iff text).mp encoded, fun _ => ⟨rfl, rfl, fun _ => rfl⟩⟩

end Redirect

/-- What the URL standard strips and removes before it parses. -/
def cleanUrl (raw : String) : String :=
  let control (c : Char) : Bool := c.toNat ≤ 32
  .ofList (((raw.toList.dropWhile control).rdropWhile control).filter fun c =>
    c != '\t' && c != '\n' && c != '\r')

/-- A parser that knows one URL, in all the spellings that are cleaned to it. -/
def cleaningParser : UrlParser := fun raw =>
  if cleanUrl raw = "https://example.com/" then some ⟨"https", true, some "example.com"⟩ else none

def targetLink (text : String) : Link := ⟨⟨"go"⟩, ⟨text⟩, 0, 0, none⟩

/-- A store with this one link. -/
def linkStore (text : String) : World ShortCode Link Unit :=
  (World.start (noOpCache ShortCode)).setRepo ⟨"go"⟩ (some (targetLink text))

def follow (text : String) : Redirect :=
  (Proc.run (handle linkEntity .batching (fun _ _ => 0) (noOpCache ShortCode) ⟨0, 0⟩)
    (redirect "go") (linkStore text)).1

theorem redirect_found_example :
    RedirectsTo " https://example.com/" (follow " https://example.com/") ↔
      HeaderSafe " https://example.com/" := by
  have accepted : TargetUrl.parse cleaningParser " https://example.com/" =
      .ok (targetLink " https://example.com/").target := by decide +kernel
  have parsed : ShortCode.parse "go" = .ok ⟨"go"⟩ := by decide +kernel
  exact redirect_found_iff accepted parsed rfl rfl nofun

/-- A line feed behind the URL is accepted with it, and cannot be sent. -/
theorem redirect_lineFeed_fails :
    TargetUrl.parse cleaningParser "https://example.com/\n" = .ok ⟨"https://example.com/\n"⟩ ∧
      (follow "https://example.com/\n").status = 500 ∧
      (follow "https://example.com/\n").counted = 1 ∧
      ¬ RedirectsTo "https://example.com/\n" (follow "https://example.com/\n") := by
  have status : (follow "https://example.com/\n").status = 500 := by decide +kernel
  refine ⟨by decide +kernel, status, by decide +kernel, ?_⟩
  intro redirects
  rw [redirects.status] at status
  cases status

end ActorServices.UrlShortener
