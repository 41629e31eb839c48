import ActorServices.LinkApi
import ActorServices.LinkConcurrent
import ActorServices.LinkDenylist

set_option autoImplicit false

namespace ActorServices.UrlShortener

open Routing

/-- The names that the service keeps for itself among the paths of one segment. -/
def reservedNames : List String := ["health", "metrics"]

theorem lookup_single {part : String} (whole : '/' ∉ part.toList) (nonempty : part ≠ "") :
    lookup routes ("/" ++ part) = some (
      if part = "health" then (.health, [])
      else if part = "metrics" then (.metrics, [])
      else (.redirect, [part])) := by
  rw [lookup, segments_single whole, Option.bind_some]
  by_cases health : part = "health"
  · subst health
    decide
  · by_cases metrics : part = "metrics"
    · subst metrics
      decide
    · by_cases api : part = "api"
      · subst api
        decide
      · simp [routes, capture, Route.static, health, metrics, api, nonempty]

/-- The path that the response advertises behind the base URL. -/
theorem advertised_path {link : Link} {baseUrl path : String}
    (advertised : (CreateLinkResponse.fromLink link baseUrl).shortUrl =
      trimEndSlashes baseUrl ++ path) : path = "/" ++ link.code.value := by
  have texts := congrArg String.toList advertised
  rw [CreateLinkResponse.fromLink, String.toList_append, String.toList_append,
    String.toList_append, List.append_assoc] at texts
  have same := List.append_cancel_left texts
  rw [← String.toList_append] at same
  exact (String.toList_inj.mp same).symm

theorem dispatch_code {code : ShortCode} (valid : ValidCode code.value) :
    dispatch .get ("/" ++ code.value) = .redirect code.value ↔ code.value ∉ reservedNames := by
  have whole : '/' ∉ code.value.toList := (valid.without (by decide) (by decide)).2
  have plain : 37 ∉ Utf8.encode code.value.toList :=
    (valid.without (c := '%') (by decide) (by decide)).1
  have names : code.value ∉ reservedNames ↔ code.value ≠ "health" ∧ code.value ≠ "metrics" := by
    simp [reservedNames]
  rw [names, dispatch, lookup_single whole valid.nonempty]
  by_cases health : code.value = "health"
  · simp [health]
  · by_cases metrics : code.value = "metrics"
    · simp [metrics]
    · simp [health, metrics, withParam, paramText_plain plain]

/-- The path advertised for a link that was created leads to its redirect, exactly when its
code is none of the names that the service keeps for itself. -/
theorem shortUrl_routed_iff {σ : Type} {handle : σ → (op : Op ShortCode Link) → op.Reply × σ}
    {settings : Settings} {url : String} {requested : Option String} {ttlSeconds : Option Nat}
    {state : σ} {link : Link} {baseUrl path : String}
    (created : (Proc.run handle (create settings url requested ttlSeconds) state).1 = .ok link)
    (advertised : (CreateLinkResponse.fromLink link baseUrl).shortUrl =
      trimEndSlashes baseUrl ++ path) :
    dispatch .get path = .redirect link.code.value ↔ link.code.value ∉ reservedNames := by
  rw [advertised_path advertised]
  exact dispatch_code (validCode_issued (create_made handle created).1)

def aliasLink (code : String) : Link := ⟨⟨code⟩, ⟨"https://example.com"⟩, 0, 0, none⟩

theorem shortUrl_routed_docs :
    dispatch .get "/docs" = .redirect "docs" ↔ "docs" ∉ reservedNames := by
  have created :
      (Proc.run acceptAll (create exampleSettings "https://example.com" (some "docs") none) ()).1 =
        .ok (aliasLink "docs") := by decide +kernel
  have advertised : (CreateLinkResponse.fromLink (aliasLink "docs") "http://host/").shortUrl =
      trimEndSlashes "http://host/" ++ "/docs" := by decide
  exact shortUrl_routed_iff created advertised

/-- A link under a reserved name is created and advertised, and leads to the probe. -/
theorem shortUrl_health_unrouted :
    (Proc.run acceptAll (create exampleSettings "https://example.com" (some "health") none) ()).1 =
        .ok (aliasLink "health") ∧
      (CreateLinkResponse.fromLink (aliasLink "health") "http://host").shortUrl =
        "http://host/health" ∧
      dispatch .get "/health" = .health ∧ dispatch .get "/health" ≠ .redirect "health" := by
  decide +kernel

end ActorServices.UrlShortener
