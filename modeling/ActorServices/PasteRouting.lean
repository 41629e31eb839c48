import ActorServices.ClientCrypto
import ActorServices.JsUri
import ActorServices.PasteApi
import ActorServices.PasteCreators

set_option autoImplicit false

namespace ActorServices.Pastebin

open Routing Api Js Environment
open UrlShortener (ValidCode Method trimEndSlashes)

section Dispatch

variable {part : String}

theorem dispatch_raw (whole : '/' ∉ part.toList) (nonempty : part ≠ "") :
    dispatch .get ("/raw/" ++ part) = withParam [part] .rawPaste := by
  have path : "/raw/" ++ part = "/" ++ "raw" ++ ("/" ++ part) := by
    rw [← String.append_assoc]
    rfl
  rw [dispatch, lookup, path, segments_cons (by decide) (segments_single whole)]
  simp [routes, capture, Route.static, nonempty]

theorem dispatch_paste (whole : '/' ∉ part.toList) (nonempty : part ≠ "") :
    dispatch .get ("/api/pastes/" ++ part) = withParam [part] .getPaste ∧
      dispatch .delete ("/api/pastes/" ++ part) = withParam [part] .deletePaste := by
  have path : "/api/pastes/" ++ part = "/" ++ "api" ++ ("/" ++ "pastes" ++ ("/" ++ part)) := by
    rw [← String.append_assoc, ← String.append_assoc]
    rfl
  have found : lookup routes ("/api/pastes/" ++ part) = some (.paste, [part]) := by
    rw [lookup, path,
      segments_cons (by decide) (segments_cons (by decide) (segments_single whole))]
    simp [routes, capture, Route.static, nonempty]
  rw [dispatch, dispatch, found]
  exact ⟨rfl, rfl⟩

end Dispatch

/-- An id that is created is generated. -/
theorem create_generated {σ : Type} (handle : σ → (op : Op PasteId Paste) → op.Reply × σ)
    {content : String} {syntaxHint : Option String} {ttlSeconds : Option Nat} {oneShot : Bool}
    {state : σ} {paste : Paste}
    (created : (Proc.run handle (create content syntaxHint ttlSeconds oneShot) state).1 =
      .ok paste) : ∃ draw, paste.id.value = generateIdentifier generatedIdLen draw := by
  rcases creating_run (create_of content syntaxHint ttlSeconds oneShot) handle state with
    ⟨err, failed⟩ | ⟨made, ⟨-, -, -, generated⟩, same⟩
  · cases created.symm.trans failed
  · cases created.symm.trans same
    exact generated

section Shared

variable {browser : App.Browser} {href id keyStr : JsString} {part : String}

/-- A segment that the URL parser takes out of a path. -/
def isDotSegment (part : String) : Bool :=
  [".", "%2e", "%2E", "..", ".%2e", ".%2E", "%2e.", "%2E.", "%2e%2e", "%2e%2E", "%2E%2e",
    "%2E%2E"].contains part

theorem paramText_dots (dots : isDotSegment part = true) :
    paramText part = some "." ∨ paramText part = some ".." := by
  have table : ∀ part ∈ [".", "%2e", "%2E", "..", ".%2e", ".%2E", "%2e.", "%2E.", "%2e%2e",
      "%2e%2E", "%2E%2e", "%2E%2E"], paramText part = some "." ∨ paramText part = some ".." := by
    decide
  exact table part (List.contains_iff_mem.mp dots)

theorem init_id (shown : App.init browser href = some (id, keyStr)) :
    id ≠ [] ∧ unit '.' ∉ id := by
  unfold App.init at shown
  dsimp only at shown
  split at shown
  · rename_i later
    cases shown
    exact take_indexOf later
  · cases shown

/-- An id without a dot is never taken for one. -/
theorem encoded_segment (clean : unit '.' ∉ id) (encoded : encodeURIComponent id = some part) :
    isDotSegment part = false := by
  apply Bool.eq_false_iff.mpr
  intro dots
  have text := paramText_encodeURIComponent encoded
  obtain ⟨cs, read, -⟩ := Option.map_eq_some_iff.mp encoded
  rw [read, Option.map_some] at text
  have dotted : '.' ∈ cs := by
    rcases paramText_dots dots with one | two
    · rw [← String.toList_ofList (l := cs), Option.some.inj (text.symm.trans one)]
      decide
    · rw [← String.toList_ofList (l := cs), Option.some.inj (text.symm.trans two)]
      decide
  exact clean (unit_of_characters read dotted (by decide))

/-- The path with the encoded id in it is the raw paste of the id. -/
theorem raw_path (nonempty : id ≠ []) (encoded : encodeURIComponent id = some part) :
    ∃ text, characters id = some text ∧
      dispatch .get ("/raw/" ++ part) = .rawPaste (String.ofList text) := by
  have text := paramText_encodeURIComponent encoded
  obtain ⟨cs, read, -⟩ := Option.map_eq_some_iff.mp encoded
  rw [read, Option.map_some] at text
  refine ⟨cs, read, ?_⟩
  rw [dispatch_raw (encodeURIComponent_segment encoded)
    (encodeURIComponent_nonempty nonempty encoded)]
  simp only [withParam, text]

end Shared

/-- The `url` of a paste that was created leads to it, to get and to delete. The path that the
page of a share link fetches leads to the raw paste of the id in its fragment, whatever stands
there: the parser of URLs leaves that path as it is, and the server decodes it to the id. -/
theorem addresses_routed :
    (∀ {σ : Type} (handle : σ → (op : Op PasteId Paste) → op.Reply × σ) content syntaxHint
      ttlSeconds oneShot state paste baseUrl path,
      (Proc.run handle (create content syntaxHint ttlSeconds oneShot) state).1 = .ok paste →
      (CreatePasteResponse.fromPaste paste baseUrl).url = trimEndSlashes baseUrl ++ path →
      dispatch .get path = .getPaste paste.id.value ∧
        dispatch .delete path = .deletePaste paste.id.value) ∧
    ∀ browser href id keyStr part, App.init browser href = some (id, keyStr) →
      encodeURIComponent id = some part → ∃ text, characters id = some text ∧
        dispatch .get ("/raw/" ++ part) = .rawPaste (String.ofList text) ∧
        isDotSegment part = false ∧ ∀ c ∈ part.toList, isUnreserved c = true ∨ c = '%' := by
  constructor
  · intro σ handle content syntaxHint ttlSeconds oneShot state paste baseUrl path created url
    obtain ⟨draw, generated⟩ := create_generated handle created
    have valid : ValidCode paste.id.value :=
      generated ▸ UrlShortener.validCode_identifier (by decide) draw
    have whole : '/' ∉ paste.id.value.toList := (valid.without (by decide) (by decide)).2
    have plain : 37 ∉ Utf8.encode paste.id.value.toList :=
      (valid.without (c := '%') (by decide) (by decide)).1
    have behind : path = "/api/pastes/" ++ paste.id.value := by
      rw [CreatePasteResponse.fromPaste, String.append_assoc] at url
      exact (String.append_right_inj _).mp url.symm
    obtain ⟨get, delete⟩ := dispatch_paste whole valid.nonempty
    rw [behind, get, delete]
    simp only [withParam, paramText_plain plain, and_self]
  · intro browser href id keyStr part shown encoded
    obtain ⟨nonempty, clean⟩ := init_id shown
    obtain ⟨text, read, routed⟩ := raw_path nonempty encoded
    exact ⟨text, read, routed, encoded_segment clean encoded, encodeURIComponent_plain encoded⟩

/-- Stores that accept every paste and keep none. -/
def acceptAll (state : Unit) : (op : Op PasteId Paste) → op.Reply × Unit
  | .cacheGet _ => (none, state)
  | .cacheSet _ _ _ => ((), state)
  | .cacheDelete _ => ((), state)
  | .repoInsert _ => (.ok (), state)
  | .repoGet _ => (.ok none, state)
  | .repoTake _ => (.ok none, state)
  | .repoDelete _ => (.ok false, state)
  | .record _ => ((), state)
  | .nowUnix => (0, state)
  | .random => (fun _ => 0, state)

def addressedPaste : Paste := ⟨⟨"AAAAAAAA"⟩, ⟨"text"⟩, none, 0, none, false, 0⟩

theorem addresses_routed_odd :
    dispatch .get "/api/pastes/AAAAAAAA" = .getPaste "AAAAAAAA" ∧
      ∃ text, characters (ascii "a/b?c") = some text ∧
        dispatch .get ("/raw/" ++ "a%2Fb%3Fc") = .rawPaste (String.ofList text) := by
  have created : (Proc.run acceptAll (create "text" none none false) ()).1 =
      .ok addressedPaste := by decide
  have shown : App.init App.exampleBrowser (ascii "https://paste.example/#a/b?c.key") =
      some (ascii "a/b?c", ascii "key") := by decide
  have encoded : encodeURIComponent (ascii "a/b?c") = some "a%2Fb%3Fc" := by decide
  have made := addresses_routed.1 acceptAll "text" none none false () addressedPaste
    "https://paste.example/" "/api/pastes/AAAAAAAA" created (by decide)
  obtain ⟨text, read, routed, -⟩ := addresses_routed.2 App.exampleBrowser _ _ _ _ shown encoded
  exact ⟨made.1, text, read, routed⟩

end ActorServices.Pastebin
