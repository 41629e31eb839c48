import ActorServices.CreateCalls
import ActorServices.LinkTtl
import ActorServices.PasteLossy

set_option autoImplicit false

namespace ActorServices.Pastebin

open ActorServices.Sequential Environment

abbrev PlainWorld : Type := PasteWorld (noOpCache PasteId)

/-- The call deletes the id. -/
def Call.Deletes : Call → PasteId → Prop
  | .delete raw, id => PasteId.parse raw = .ok id
  | _, _ => False

/-- The reply is to a call that created a paste under the id. -/
def Reply.Creates : Reply → PasteId → Prop
  | .created (.ok paste), id => paste.id = id
  | _, _ => False

/-- A fetch leaves the paste where it is. -/
def Paste.Lasting (paste : Paste) : Prop := paste.oneShot = false

abbrev PasteEffect (instant : Instant) (call : Call) (reply : Reply)
    (before after : PasteId → Option Paste) : Prop :=
  Effect pasteEntity Paste.expiresAt Paste.Lasting instant.reading call.Deletes reply.Creates
    before after

section Effect

variable {codec : JsonCodec} {recorder : Recorder} {draws : Nat → Nat → Fin 62}
  {instant : Instant} {world : PlainWorld} {id : PasteId}

/-- Without a cache, every fetch asks the repository. -/
theorem run_fetch_plain (world : PlainWorld) {raw : String} (parsed : PasteId.parse raw = .ok id) :
    Proc.run (pasteHandle recorder draws (noOpCache PasteId) instant) (fetch codec raw) world =
      Proc.run (pasteHandle recorder draws (noOpCache PasteId) instant) (fetchStored codec id)
        world :=
  run_fetch_miss world id parsed rfl

theorem fillWith_repo (paste : Paste) :
    (fillWith codec instant world id paste).repo = world.repo := by
  unfold fillWith
  split <;> rfl

theorem create_effect (content : String) (syntaxHint : Option String) (ttlSeconds : Option Nat)
    (oneShot : Bool) :
    let call := Call.create content syntaxHint ttlSeconds oneShot
    let ended := runCall codec recorder draws (noOpCache PasteId) instant call world
    PasteEffect instant call ended.1 world.repo ended.2.repo := by
  simp only [runCall, Call.program, Proc.run_map]
  cases run_creating (create_creating content syntaxHint ttlSeconds oneShot) world with
  | inl failure => exact .nothing failure.2
  | inr made =>
      obtain ⟨paste, _, returned, free, changed⟩ := made
      rw [returned]
      exact .created paste free rfl changed

theorem fetch_effect (raw : String) :
    let call := Call.fetch raw
    let ended := runCall codec recorder draws (noOpCache PasteId) instant call world
    PasteEffect instant call ended.1 world.repo ended.2.repo := by
  simp only [runCall, Call.program, Proc.run_map]
  cases parsed : PasteId.parse raw with
  | error err =>
      simp only [fetch, parsed]
      exact .nothing rfl
  | ok id =>
      rw [run_fetch_plain world parsed]
      cases stored : world.repo id with
      | none =>
          rw [run_fetchStored_none world id stored]
          exact .nothing rfl
      | some paste =>
          cases expired : paste.isExpired instant.reading with
          | true =>
              rw [run_fetchStored_expired world id stored expired]
              exact .purged id paste stored expired rfl
          | false =>
              cases single : paste.oneShot with
              | true =>
                  rw [run_fetchStored_burn world id stored expired single]
                  have passing : ¬ paste.Lasting := by
                    intro lasting
                    rw [Paste.Lasting, single] at lasting
                    cases lasting
                  exact .taken id paste stored passing rfl
              | false =>
                  rw [run_fetchStored_many world id stored expired single]
                  cases recorder with
                  | immediate =>
                      apply Effect.counted id paste 1 stored
                      simp only [World.record, World.incrementBy, World.setRepo, fillWith_repo,
                        stored]
                      rfl
                  | batching =>
                      apply Effect.nothing
                      simp only [World.record, fillWith_repo]

theorem delete_effect (raw : String) :
    let call := Call.delete raw
    let ended := runCall codec recorder draws (noOpCache PasteId) instant call world
    PasteEffect instant call ended.1 world.repo ended.2.repo := by
  simp only [runCall, Call.program, Proc.run_map]
  cases parsed : PasteId.parse raw with
  | error err =>
      simp only [delete, parsed]
      exact .nothing rfl
  | ok id =>
      rw [run_delete world id parsed]
      exact .deleted id parsed rfl

end Effect

def pasteKeeper (codec : JsonCodec) (recorder : Recorder) (draws : Nat → Nat → Fin 62) :
    Keeper PasteId Paste Instant Call Reply (noOpCache PasteId).State where
  entity := pasteEntity
  reading := Instant.reading
  runCall := runCall codec recorder draws (noOpCache PasteId)
  expiresAt := Paste.expiresAt
  lasting := Paste.Lasting
  deletes := Call.Deletes
  creates := Reply.Creates
  bump_expiresAt _ _ := rfl
  bump_lasting _ _ := Iff.rfl
  effect instant call world := by
    cases call with
    | create content syntaxHint ttlSeconds oneShot =>
        exact create_effect content syntaxHint ttlSeconds oneShot
    | fetch raw => exact fetch_effect raw
    | delete raw => exact delete_effect raw

/-- The paste, just created with this TTL, is served and goes as the TTL says. -/
structure PasteHonoured (codec : JsonCodec) (recorder : Recorder) (draws : Nat → Nat → Fin 62)
    (instant : Instant) (secs : Nat) (paste : Paste) (world : PlainWorld) : Prop where
  ordered : ∃ exp, paste.expiresAt = some exp ∧ paste.createdAt ≤ exp
  monotone : ∀ less ≤ secs, ∀ content syntaxHint oneShot other elsewhere,
    (runCall codec recorder draws (noOpCache PasteId) instant
      (.create content syntaxHint (some less) oneShot) elsewhere).1 = .created (.ok other) →
    ∃ earlier exp, other.expiresAt = some earlier ∧ paste.expiresAt = some exp ∧ earlier ≤ exp
  served : ∀ between now raw, now.reading < paste.createdAt + secs → now.reading < 2 ^ 63 - 1 →
    (pasteKeeper codec recorder draws).Undeleted paste.id now.reading between →
    PasteId.parse raw = .ok paste.id →
    ∃ n, (runCall codec recorder draws (noOpCache PasteId) now (.fetch raw)
      ((pasteKeeper codec recorder draws).after world between)).1 =
        .fetched (.ok (paste.addViews n))
  gone : ∀ between now raw, paste.createdAt + secs ≤ now.reading → now.reading ≤ 2 ^ 63 - 1 →
    (pasteKeeper codec recorder draws).Uncreated paste.id world between →
    PasteId.parse raw = .ok paste.id →
    let fetched := runCall codec recorder draws (noOpCache PasteId) now (.fetch raw)
      ((pasteKeeper codec recorder draws).after world between)
    fetched.1 = .fetched (.error .notFound) ∧ fetched.2.repo paste.id = none

section Honoured

variable {codec : JsonCodec} {recorder : Recorder} {draws : Nat → Nat → Fin 62}
  {instant : Instant} {secs : Nat} {paste : Paste} {world : PlainWorld} {content : String}
  {syntaxHint : Option String} {oneShot : Bool}

theorem run_create_made
    (created : (runCall codec recorder draws (noOpCache PasteId) instant
      (.create content syntaxHint (some secs) oneShot) world).1 = .created (.ok paste)) :
    paste.createdAt = instant.reading ∧ paste.oneShot = oneShot ∧
      paste.expiresAt = some (saturatingAdd instant.reading (asI64 secs)) ∧
      (runCall codec recorder draws (noOpCache PasteId) instant
        (.create content syntaxHint (some secs) oneShot) world).2.repo paste.id = some paste := by
  simp only [runCall, Call.program, Proc.run_map] at created ⊢
  injection created with created
  unfold create at created ⊢
  split at created
  · cases created
  · rename_i text parsed
    simp only [Proc.call_bind, Proc.ret_bind, Proc.run_call, handle] at created ⊢
    have creating := createLoop_creating text syntaxHint instant.reading
      (expiryOf instant.reading (some secs)) oneShot maxGenerationAttempts
    cases run_creating creating world with
    | inl failure =>
        obtain ⟨err, failed⟩ := failure.1
        cases created.symm.trans failed
    | inr success =>
        obtain ⟨new, made, same, _, changed⟩ := success
        cases created.symm.trans same
        have stored : pasteEntity.key paste = paste.id := rfl
        unfold Paste.Made at made
        refine ⟨by rw [made]; rfl, by rw [made]; rfl, by rw [made]; rfl, ?_⟩
        rw [changed, stored, Function.update_self]

theorem served_live {id : PasteId} {raw : String} (parsed : PasteId.parse raw = .ok id)
    (stored : world.repo id = some paste) (live : paste.isExpired instant.reading = false)
    (lasting : paste.Lasting) :
    (runCall codec recorder draws (noOpCache PasteId) instant (.fetch raw) world).1 =
      .fetched (.ok paste) := by
  simp only [runCall, Call.program, Proc.run_map]
  rw [run_fetch_plain world parsed, run_fetchStored_many world id stored live lasting]

theorem gone_expired {id : PasteId} {raw : String} (parsed : PasteId.parse raw = .ok id)
    (lapsed : ∀ paste, world.repo id = some paste → paste.isExpired instant.reading = true) :
    let fetched := runCall codec recorder draws (noOpCache PasteId) instant (.fetch raw) world
    fetched.1 = .fetched (.error .notFound) ∧ fetched.2.repo id = none := by
  simp only [runCall, Call.program, Proc.run_map]
  rw [run_fetch_plain world parsed]
  cases stored : world.repo id with
  | none =>
      rw [run_fetchStored_none world id stored]
      exact ⟨rfl, stored⟩
  | some paste =>
      rw [run_fetchStored_expired world id stored (lapsed paste stored)]
      exact ⟨rfl, Function.update_self ..⟩

theorem paste_honoured (epoch : 0 ≤ instant.reading) (start : IsI64 instant.reading)
    (small : secs < 2 ^ 63)
    (created : (runCall codec recorder draws (noOpCache PasteId) instant
      (.create content syntaxHint (some secs) false) world).1 = .created (.ok paste)) :
    PasteHonoured codec recorder draws instant secs paste
      (runCall codec recorder draws (noOpCache PasteId) instant
        (.create content syntaxHint (some secs) false) world).2 := by
  obtain ⟨madeAt, many, expiry, stored⟩ := run_create_made created
  rw [saturatingAdd_small epoch small] at expiry
  have kept : (pasteKeeper codec recorder draws).Keeps paste
      (runCall codec recorder draws (noOpCache PasteId) instant
        (.create content syntaxHint (some secs) false) world).2 :=
    ⟨0, stored.trans (congrArg some (pasteEntity.bump_zero paste).symm)⟩
  constructor
  case ordered =>
    refine ⟨_, expiry, ?_⟩
    unfold IsI64 at start
    omega
  case monotone =>
    intro less fewer text hint single other elsewhere made
    obtain ⟨_, _, earlier, _⟩ := run_create_made made
    rw [saturatingAdd_small epoch (by omega)] at earlier
    refine ⟨_, _, earlier, expiry, ?_⟩
    omega
  case served =>
    intro between now raw before room undeleted parsed
    have live : paste.isExpired now.reading = false := by
      simp only [Paste.isExpired, expiry, isExpired_some, decide_eq_false_iff_not]
      omega
    have still := kept.after many live undeleted
    obtain ⟨n, present⟩ := still
    exact ⟨n, served_live parsed present live many⟩
  case gone =>
    intro between now raw past room uncreated parsed
    apply gone_expired parsed
    intro found present
    cases Keeper.keeps_or_gone (.inl kept) uncreated with
    | inl still =>
        obtain ⟨n, here⟩ := still
        cases present.symm.trans here
        simp only [pasteKeeper, pasteEntity, Paste.addViews, Paste.isExpired, expiry,
          isExpired_some, decide_eq_true_eq]
        omega
    | inr absent => cases present.symm.trans absent

theorem paste_honoured_iff (epoch : 0 ≤ instant.reading) (start : IsI64 instant.reading)
    (fits : secs < 2 ^ 64)
    (created : (runCall codec recorder draws (noOpCache PasteId) instant
      (.create content syntaxHint (some secs) false) world).1 = .created (.ok paste)) :
    PasteHonoured codec recorder draws instant secs paste
      (runCall codec recorder draws (noOpCache PasteId) instant
        (.create content syntaxHint (some secs) false) world).2 ↔ secs < 2 ^ 63 := by
  constructor
  · intro honoured
    by_contra large
    obtain ⟨madeAt, _, expiry, _⟩ := run_create_made created
    obtain ⟨exp, same, order⟩ := honoured.ordered
    have wrapped := saturatingAdd_large epoch (Nat.not_lt.mp large) fits
    rw [expiry] at same
    injection same with same
    omega
  · exact fun small => paste_honoured epoch start small created

end Honoured

/-- `fetchStored`, the path to `cache_ttl_secs`, where an overflow in it panics: `none`. -/
def fetchStoredChecked (codec : JsonCodec) (id : PasteId) :
    Service (Option (Except ServiceError Paste)) := do
  match ← UseCase.repoGet id with
  | .error err => return some (.error (.fromRepo err))
  | .ok none => return some (.error .notFound)
  | .ok (some paste) =>
      if paste.isExpired (← UseCase.nowUnix) then
        let _ ← UseCase.repoDelete id
        UseCase.cacheDelete id
        return some (.error .notFound)
      else if paste.oneShot then
        match ← UseCase.repoTake id with
        | .error err => return some (.error (.fromRepo err))
        | .ok none => return some (.error .notFound)
        | .ok (some paste) => return some (.ok paste)
      else
        let filled ← UseCase.fillChecked paste.expiresAt fun ttl =>
          if 0 < ttl then
            match codec.toString (.fromPaste paste) with
            | some json => UseCase.cacheSet id json ttl
            | none => return ()
          else return ()
        match filled with
        | none => return none
        | some () =>
            UseCase.record id
            return some (.ok paste)

theorem fetchStoredChecked_upto (codec : JsonCodec) (id : PasteId) :
    (fetchStoredChecked codec id).Upto (fetchStored codec id) := by
  refine ⟨_, rfl, fun reply => ?_⟩
  rcases reply with err | found | paste
  · rfl
  · rfl
  · refine ⟨_, rfl, fun (now : Int) => ?_⟩
    show Proc.Upto (if paste.isExpired now then _ else _) (if paste.isExpired now then _ else _)
    split
    · exact ⟨_, rfl, fun _ => ⟨_, rfl, fun _ => rfl⟩⟩
    · split
      · refine ⟨_, rfl, fun reply => ?_⟩
        rcases reply with err | found | taken <;> rfl
      · refine Proc.upto_bind (UseCase.fillChecked_upto paste.expiresAt _) ?_ ?_
        · rfl
        · exact fun _ => ⟨_, rfl, fun _ => rfl⟩

theorem fetchStoredChecked_safe (codec : JsonCodec) (id : PasteId) :
    (fetchStoredChecked codec id).Safe (UseCase.timely Paste.expiresAt)
      (fun _ result => result.isSome) () := by
  refine ⟨trivial, fun reply _ promised => ?_⟩
  rcases reply with err | found | paste
  · rfl
  · rfl
  · refine ⟨trivial, fun (now : Int) _ reading => ?_⟩
    show Proc.Safe _ _ _ (if paste.isExpired now then _ else _)
    split
    · exact ⟨trivial, fun _ _ _ => ⟨trivial, fun _ _ _ => rfl⟩⟩
    · rename_i live
      split
      · refine ⟨trivial, fun reply _ _ => ?_⟩
        rcases reply with err | found | taken <;> rfl
      · have alive : isExpired paste.expiresAt now = false := Bool.eq_false_iff.mpr live
        have start : 0 ≤ now := reading.1
        apply Proc.safe_bind _ (fun _ filled => filled.isSome) _ _ _ _
          (UseCase.fillChecked_safe _ promised start alive)
        intro _ filled given
        cases filled with
        | none => cases given
        | some done => exact ⟨trivial, fun _ _ _ => rfl⟩

end ActorServices.Pastebin

namespace ActorServices

open ActorServices.Sequential

/-- A TTL of 2^63 seconds ends before it starts. -/
theorem huge_ttl_expires_at_once :
    let created := UrlShortener.runCall UrlShortener.exampleSettings (fun _ _ => 0)
      (noOpCache UrlShortener.ShortCode) 0
      (.create "https://example.com" (some "a") (some (2 ^ 63))) (.start _)
    ∃ link, created.1 = .created (.ok link) ∧ link.expiresAt = some (-2 ^ 63) ∧
      (UrlShortener.runCall UrlShortener.exampleSettings (fun _ _ => 0)
        (noOpCache UrlShortener.ShortCode) 0 (.resolve "a") created.2).1 =
          .resolved (.error .notFound) ∧
      ¬ UrlShortener.LinkHonoured UrlShortener.exampleSettings (fun _ _ => 0) 0 (2 ^ 63) link
        created.2 := by
  have gone : (UrlShortener.runCall UrlShortener.exampleSettings (fun _ _ => 0)
      (noOpCache UrlShortener.ShortCode) 0 (.resolve "a")
      (UrlShortener.runCall UrlShortener.exampleSettings (fun _ _ => 0)
        (noOpCache UrlShortener.ShortCode) 0
        (.create "https://example.com" (some "a") (some (2 ^ 63))) (.start _)).2).1 =
      .resolved (.error .notFound) := by
    decide +kernel
  refine ⟨⟨⟨"a"⟩, ⟨"https://example.com"⟩, 0, 0, some (-2 ^ 63)⟩, by decide +kernel, rfl, gone, ?_⟩
  intro honoured
  have served := (honoured.served [] 0 "a" (by decide) (by decide) trivial (by decide +kernel)).1
  cases gone.symm.trans served

/-- A link, or a paste that is not one-shot, is served and goes as its TTL says exactly when the
TTL is below 2^63 seconds. No subtraction in `cache_ttl_secs` overflows, whatever the clock reads
and the repository holds. -/
theorem ttl_honoured_iff (secs : Nat) (fits : secs < 2 ^ 64) :
    (∀ settings draws time url requested world link,
      IsI64 (UrlShortener.instantAt time).reading →
      (UrlShortener.runCall settings draws (noOpCache _) time (.create url requested (some secs))
        world).1 = .created (.ok link) →
      (UrlShortener.LinkHonoured settings draws time secs link
        (UrlShortener.runCall settings draws (noOpCache _) time (.create url requested (some secs))
          world).2 ↔ secs < 2 ^ 63)) ∧
    (∀ codec recorder draws instant content syntaxHint world paste,
      0 ≤ instant.reading → IsI64 instant.reading →
      (Pastebin.runCall codec recorder draws (noOpCache _) instant
        (.create content syntaxHint (some secs) false) world).1 = .created (.ok paste) →
      (Pastebin.PasteHonoured codec recorder draws instant secs paste
        (Pastebin.runCall codec recorder draws (noOpCache _) instant
          (.create content syntaxHint (some secs) false) world).2 ↔ secs < 2 ^ 63)) ∧
    (∀ code, (UrlShortener.resolveStoredChecked code).Upto (UrlShortener.resolveStored code) ∧
      (UrlShortener.resolveStoredChecked code).Safe (UseCase.timely UrlShortener.Link.expiresAt)
        (fun _ result => result.isSome) ()) ∧
    ∀ codec id, (Pastebin.fetchStoredChecked codec id).Upto (Pastebin.fetchStored codec id) ∧
      (Pastebin.fetchStoredChecked codec id).Safe (UseCase.timely Pastebin.Paste.expiresAt)
        (fun _ result => result.isSome) () := by
  refine ⟨?_, ?_, ?_, ?_⟩
  · intro settings draws time url requested world link start created
    exact UrlShortener.link_honoured_iff start fits created
  · intro codec recorder draws instant content syntaxHint world paste epoch start created
    exact Pastebin.paste_honoured_iff epoch start fits created
  · intro code
    exact ⟨UrlShortener.resolveStoredChecked_upto code, UrlShortener.resolveStoredChecked_safe code⟩
  · intro codec id
    exact ⟨Pastebin.fetchStoredChecked_upto codec id, Pastebin.fetchStoredChecked_safe codec id⟩

theorem hour_honoured :
    let created := UrlShortener.runCall UrlShortener.exampleSettings (fun _ _ => 0)
      (noOpCache UrlShortener.ShortCode) 5000
      (.create "https://example.com" (some "a") (some 3600)) (.start _)
    let pasted := Pastebin.runCall repeatCodec .immediate (fun _ _ => 0)
      (noOpCache Pastebin.PasteId) ⟨5000, 5⟩ (.create "text" none (some 3600) false) (.start _)
    UrlShortener.LinkHonoured UrlShortener.exampleSettings (fun _ _ => 0) 5000 3600
        ⟨⟨"a"⟩, ⟨"https://example.com"⟩, 5, 0, some 3605⟩ created.2 ∧
      Pastebin.PasteHonoured repeatCodec .immediate (fun _ _ => 0) ⟨5000, 5⟩ 3600
        ⟨⟨"AAAAAAAA"⟩, ⟨"text"⟩, none, 5, some 3605, false, 0⟩ pasted.2 := by
  have main := ttl_honoured_iff 3600 (by decide)
  constructor
  · exact (main.1 _ _ 5000 _ _ _ _ (by decide) (by decide +kernel)).mpr (by decide)
  · exact (main.2.1 _ _ _ ⟨5000, 5⟩ _ _ _ _ (by decide) (by decide) (by decide +kernel)).mpr
      (by decide)

end ActorServices
