import ActorServices.LinkExpiry
import ActorServices.ServiceTtl

set_option autoImplicit false

namespace ActorServices.UrlShortener

open ActorServices.Sequential Environment

/-- The call deletes the code. -/
def Call.Deletes : Call → ShortCode → Prop
  | .delete raw, code => ShortCode.parse raw = .ok code
  | _, _ => False

/-- The reply is to a call that created a link under the code. -/
def Reply.Creates : Reply → ShortCode → Prop
  | .created (.ok link), code => link.code = code
  | _, _ => False

abbrev LinkEffect (time : Nat) (call : Call) (reply : Reply)
    (before after : ShortCode → Option Link) : Prop :=
  Effect linkEntity Link.expiresAt (fun _ => True) (instantAt time).reading call.Deletes
    reply.Creates before after

section Effect

variable {settings : Settings} {draws : Nat → Nat → Fin 62} {time : Nat} {world : PlainWorld}

theorem create_effect (url : String) (requested : Option String) (ttlSeconds : Option Nat) :
    let call := Call.create url requested ttlSeconds
    let ended := runCall settings draws (noOpCache ShortCode) time call world
    LinkEffect time call ended.1 world.repo ended.2.repo := by
  simp only [runCall, Call.program, Proc.run_map]
  cases run_creating (create_creating settings url requested ttlSeconds) world with
  | inl failure => exact .nothing failure.2
  | inr made =>
      obtain ⟨link, _, returned, free, changed⟩ := made
      rw [returned]
      exact .created link free rfl changed

theorem resolve_effect (raw : String) :
    let call := Call.resolve raw
    let ended := runCall settings draws (noOpCache ShortCode) time call world
    LinkEffect time call ended.1 world.repo ended.2.repo := by
  simp only [runCall, Call.program, Proc.run_map]
  cases parsed : ShortCode.parse raw with
  | error err =>
      simp only [resolve, parsed]
      exact .nothing rfl
  | ok code =>
      rw [run_resolve_plain world parsed]
      cases stored : world.repo code with
      | none =>
          rw [run_resolveStored_none world code stored]
          exact .nothing rfl
      | some link =>
          cases expired : link.isExpired (instantAt time).reading with
          | true =>
              rw [run_resolveStored_expired world code stored expired]
              exact .purged code link stored expired rfl
          | false =>
              rw [run_resolveStored_live world code stored expired]
              apply Effect.counted code link 1 stored
              show Function.update world.repo code ((world.repo code).map _) = _
              rw [stored]
              rfl

theorem get_effect (raw : String) :
    let call := Call.get raw
    let ended := runCall settings draws (noOpCache ShortCode) time call world
    LinkEffect time call ended.1 world.repo ended.2.repo := by
  simp only [runCall, Call.program, Proc.run_map]
  cases parsed : ShortCode.parse raw with
  | error err =>
      simp only [get, parsed]
      exact .nothing rfl
  | ok code =>
      cases stored : world.repo code with
      | none =>
          rw [run_get_none world code parsed stored]
          exact .nothing rfl
      | some link =>
          cases expired : link.isExpired (instantAt time).reading with
          | true =>
              rw [run_get_expired world code parsed stored expired]
              exact .purged code link stored expired rfl
          | false =>
              rw [run_get_live world code parsed stored expired]
              exact .nothing rfl

theorem delete_effect (raw : String) :
    let call := Call.delete raw
    let ended := runCall settings draws (noOpCache ShortCode) time call world
    LinkEffect time call ended.1 world.repo ended.2.repo := by
  simp only [runCall, Call.program, Proc.run_map]
  cases parsed : ShortCode.parse raw with
  | error err =>
      simp only [delete, parsed]
      exact .nothing rfl
  | ok code =>
      rw [run_delete world code parsed]
      exact .deleted code parsed rfl

end Effect

def linkKeeper (settings : Settings) (draws : Nat → Nat → Fin 62) :
    Keeper ShortCode Link Nat Call Reply (noOpCache ShortCode).State where
  entity := linkEntity
  reading time := (instantAt time).reading
  runCall := runCall settings draws (noOpCache ShortCode)
  expiresAt := Link.expiresAt
  lasting _ := True
  deletes := Call.Deletes
  creates := Reply.Creates
  bump_expiresAt _ _ := rfl
  bump_lasting _ _ := Iff.rfl
  effect time call world := by
    cases call with
    | create url requested ttlSeconds => exact create_effect url requested ttlSeconds
    | resolve raw => exact resolve_effect raw
    | get raw => exact get_effect raw
    | delete raw => exact delete_effect raw

/-- The link, just created with this TTL, is served and goes as the TTL says. -/
structure LinkHonoured (settings : Settings) (draws : Nat → Nat → Fin 62) (time secs : Nat)
    (link : Link) (world : PlainWorld) : Prop where
  ordered : ∃ exp, link.expiresAt = some exp ∧ link.createdAt ≤ exp
  monotone : ∀ less ≤ secs, ∀ url requested other elsewhere,
    (runCall settings draws (noOpCache ShortCode) time (.create url requested (some less))
      elsewhere).1 = .created (.ok other) →
    ∃ earlier exp, other.expiresAt = some earlier ∧ link.expiresAt = some exp ∧ earlier ≤ exp
  served : ∀ between now raw, (instantAt now).reading < link.createdAt + secs →
    (instantAt now).reading < 2 ^ 63 - 1 →
    (linkKeeper settings draws).Undeleted link.code (instantAt now).reading between →
    ShortCode.parse raw = .ok link.code →
    let reached := (linkKeeper settings draws).after world between
    (runCall settings draws (noOpCache ShortCode) now (.resolve raw) reached).1 =
        .resolved (.ok link.target) ∧
      ∃ n, (runCall settings draws (noOpCache ShortCode) now (.get raw) reached).1 =
        .got (.ok (link.addHits n))
  gone : ∀ between now raw, link.createdAt + secs ≤ (instantAt now).reading →
    (instantAt now).reading ≤ 2 ^ 63 - 1 →
    (linkKeeper settings draws).Uncreated link.code world between →
    ShortCode.parse raw = .ok link.code →
    let reached := (linkKeeper settings draws).after world between
    let resolved := runCall settings draws (noOpCache ShortCode) now (.resolve raw) reached
    let got := runCall settings draws (noOpCache ShortCode) now (.get raw) reached
    resolved.1 = .resolved (.error .notFound) ∧ resolved.2.repo link.code = none ∧
      got.1 = .got (.error .notFound) ∧ got.2.repo link.code = none

section Honoured

variable {settings : Settings} {draws : Nat → Nat → Fin 62} {time secs : Nat} {link : Link}
  {world : PlainWorld} {url : String} {requested : Option String}

theorem run_create_made
    (created : (runCall settings draws (noOpCache ShortCode) time
      (.create url requested (some secs)) world).1 = .created (.ok link)) :
    link.createdAt = (instantAt time).reading ∧
      link.expiresAt = some (saturatingAdd (instantAt time).reading (asI64 secs)) ∧
      (runCall settings draws (noOpCache ShortCode) time (.create url requested (some secs))
        world).2.repo link.code = some link := by
  simp only [runCall, Call.program, Proc.run_map] at created ⊢
  injection created with created
  have within : ∀ {program : Service (Except ServiceError Link)} {target : TargetUrl},
      Creating (Link.Made target (instantAt time).reading
        (expiryOf (instantAt time).reading (some secs))) .ok CreateFailed program →
      (Proc.run (linkHandle draws (noOpCache ShortCode) time) program world).1 = .ok link →
      link.createdAt = (instantAt time).reading ∧
        link.expiresAt = some (saturatingAdd (instantAt time).reading (asI64 secs)) ∧
        (Proc.run (linkHandle draws (noOpCache ShortCode) time) program world).2.repo link.code =
          some link := by
    intro program target creating returned
    cases run_creating creating world with
    | inl failure =>
        obtain ⟨err, failed⟩ := failure.1
        cases returned.symm.trans failed
    | inr success =>
        obtain ⟨new, made, same, _, changed⟩ := success
        cases returned.symm.trans same
        have stored : linkEntity.key link = link.code := rfl
        unfold Link.Made at made
        refine ⟨by rw [made]; rfl, by rw [made]; rfl, ?_⟩
        rw [changed, stored, Function.update_self]
  unfold create at created ⊢
  split at created
  · cases created
  · split at created
    · cases created
    · rename_i target parsed allowed
      simp only [allowed, Bool.false_eq_true, ↓reduceIte, Proc.call_bind, Proc.ret_bind,
        Proc.run_call, handle] at created ⊢
      cases requested with
      | none => exact within (createLoop_creating target _ _ _) created
      | some requested => exact within (createAlias_creating requested target _ _) created

theorem served_live {code : ShortCode} {raw : String} (parsed : ShortCode.parse raw = .ok code)
    (stored : world.repo code = some link)
    (live : link.isExpired (instantAt time).reading = false) :
    (runCall settings draws (noOpCache ShortCode) time (.resolve raw) world).1 =
        .resolved (.ok link.target) ∧
      (runCall settings draws (noOpCache ShortCode) time (.get raw) world).1 =
        .got (.ok link) := by
  simp only [runCall, Call.program, Proc.run_map]
  rw [run_resolve_plain world parsed, run_resolveStored_live world code stored live,
    run_get_live world code parsed stored live]
  exact ⟨rfl, rfl⟩

theorem gone_expired {code : ShortCode} {raw : String} (parsed : ShortCode.parse raw = .ok code)
    (lapsed : ∀ link, world.repo code = some link →
      link.isExpired (instantAt time).reading = true) :
    let resolved := runCall settings draws (noOpCache ShortCode) time (.resolve raw) world
    let got := runCall settings draws (noOpCache ShortCode) time (.get raw) world
    resolved.1 = .resolved (.error .notFound) ∧ resolved.2.repo code = none ∧
      got.1 = .got (.error .notFound) ∧ got.2.repo code = none := by
  simp only [runCall, Call.program, Proc.run_map]
  rw [run_resolve_plain world parsed]
  cases stored : world.repo code with
  | none =>
      rw [run_resolveStored_none world code stored, run_get_none world code parsed stored]
      exact ⟨rfl, stored, rfl, stored⟩
  | some link =>
      have expired := lapsed link stored
      rw [run_resolveStored_expired world code stored expired,
        run_get_expired world code parsed stored expired]
      exact ⟨rfl, Function.update_self .., rfl, Function.update_self ..⟩

theorem link_honoured (start : IsI64 (instantAt time).reading) (small : secs < 2 ^ 63)
    (created : (runCall settings draws (noOpCache ShortCode) time
      (.create url requested (some secs)) world).1 = .created (.ok link)) :
    LinkHonoured settings draws time secs link (runCall settings draws (noOpCache ShortCode) time
      (.create url requested (some secs)) world).2 := by
  obtain ⟨madeAt, expiry, stored⟩ := run_create_made created
  have epoch : 0 ≤ (instantAt time).reading := Int.natCast_nonneg _
  rw [saturatingAdd_small epoch small] at expiry
  have kept : (linkKeeper settings draws).Keeps link (runCall settings draws (noOpCache ShortCode)
      time (.create url requested (some secs)) world).2 :=
    ⟨0, stored.trans (congrArg some (linkEntity.bump_zero link).symm)⟩
  constructor
  case ordered =>
    refine ⟨_, expiry, ?_⟩
    unfold IsI64 at start
    omega
  case monotone =>
    intro less fewer otherUrl otherAlias other elsewhere made
    obtain ⟨_, earlier, _⟩ := run_create_made made
    rw [saturatingAdd_small epoch (by omega)] at earlier
    refine ⟨_, _, earlier, expiry, ?_⟩
    omega
  case served =>
    intro between now raw before room undeleted parsed
    have live : link.isExpired (instantAt now).reading = false := by
      simp only [Link.isExpired, expiry, isExpired_some, decide_eq_false_iff_not]
      omega
    have still := kept.after trivial live undeleted
    obtain ⟨n, present⟩ := still
    refine ⟨?_, n, ?_⟩
    · exact (served_live parsed present live).1
    · exact (served_live parsed present live).2
  case gone =>
    intro between now raw past room uncreated parsed
    apply gone_expired parsed
    intro found present
    cases Keeper.keeps_or_gone (.inl kept) uncreated with
    | inl still =>
        obtain ⟨n, here⟩ := still
        cases present.symm.trans here
        simp only [linkKeeper, linkEntity, Link.addHits, Link.isExpired, expiry, isExpired_some,
          decide_eq_true_eq]
        omega
    | inr absent => cases present.symm.trans absent

theorem link_honoured_iff (start : IsI64 (instantAt time).reading) (fits : secs < 2 ^ 64)
    (created : (runCall settings draws (noOpCache ShortCode) time
      (.create url requested (some secs)) world).1 = .created (.ok link)) :
    LinkHonoured settings draws time secs link (runCall settings draws (noOpCache ShortCode) time
      (.create url requested (some secs)) world).2 ↔ secs < 2 ^ 63 := by
  constructor
  · intro honoured
    by_contra large
    obtain ⟨madeAt, expiry, _⟩ := run_create_made created
    obtain ⟨exp, same, order⟩ := honoured.ordered
    have epoch : 0 ≤ (instantAt time).reading := Int.natCast_nonneg _
    have wrapped := saturatingAdd_large epoch (Nat.not_lt.mp large) fits
    rw [expiry] at same
    injection same with same
    omega
  · exact fun small => link_honoured start small created

end Honoured

/-- `resolveStored`, the path to `cache_ttl_secs`, where an overflow in it panics: `none`. -/
def resolveStoredChecked (code : ShortCode) :
    Service (Option (Except ServiceError TargetUrl)) := do
  match ← UseCase.repoGet code with
  | .error err => return some (.error (.fromRepo err))
  | .ok none => return some (.error .notFound)
  | .ok (some link) =>
      if link.isExpired (← UseCase.nowUnix) then
        let _ ← UseCase.repoDelete code
        UseCase.cacheDelete code
        return some (.error .notFound)
      else
        let filled ← UseCase.fillChecked link.expiresAt fun ttl =>
          if 0 < ttl then UseCase.cacheSet code link.target.value ttl else return ()
        match filled with
        | none => return none
        | some () =>
            UseCase.record code
            return some (.ok link.target)

theorem resolveStoredChecked_upto (code : ShortCode) :
    (resolveStoredChecked code).Upto (resolveStored code) := by
  refine ⟨_, rfl, fun reply => ?_⟩
  rcases reply with err | found | link
  · rfl
  · rfl
  · refine ⟨_, rfl, fun (now : Int) => ?_⟩
    show Proc.Upto (if link.isExpired now then _ else _) (if link.isExpired now then _ else _)
    split
    · exact ⟨_, rfl, fun _ => ⟨_, rfl, fun _ => rfl⟩⟩
    · refine Proc.upto_bind (UseCase.fillChecked_upto link.expiresAt _) ?_ ?_
      · rfl
      · exact fun _ => ⟨_, rfl, fun _ => rfl⟩

theorem resolveStoredChecked_safe (code : ShortCode) :
    (resolveStoredChecked code).Safe (UseCase.timely Link.expiresAt)
      (fun _ result => result.isSome) () := by
  refine ⟨trivial, fun reply _ promised => ?_⟩
  rcases reply with err | found | link
  · rfl
  · rfl
  · refine ⟨trivial, fun (now : Int) _ reading => ?_⟩
    show Proc.Safe _ _ _ (if link.isExpired now then _ else _)
    split
    · exact ⟨trivial, fun _ _ _ => ⟨trivial, fun _ _ _ => rfl⟩⟩
    · rename_i live
      have alive : isExpired link.expiresAt now = false := Bool.eq_false_iff.mpr live
      have start : 0 ≤ now := reading.1
      apply Proc.safe_bind _ (fun _ filled => filled.isSome) _ _ _ _
        (UseCase.fillChecked_safe _ promised start alive)
      intro _ filled given
      cases filled with
      | none => cases given
      | some done => exact ⟨trivial, fun _ _ _ => rfl⟩

end ActorServices.UrlShortener
