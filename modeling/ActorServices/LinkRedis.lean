import ActorServices.LinkConcurrent
import ActorServices.ServiceCache

set_option autoImplicit false

namespace ActorServices.UrlShortener

open ActorServices.Sequential

/-- `now_unix` at a time in milliseconds. -/
def instantAt (time : Nat) : Instant := ⟨time, (time / 1000 : Nat)⟩

@[simp] theorem instantAt_time (time : Nat) : (instantAt time).time = time := rfl

abbrev LinkWorld (cache : Cache ShortCode) : Type := World ShortCode Link cache.State

abbrev linkHandle (draws : Nat → Nat → Fin 62) (cache : Cache ShortCode) (time : Nat) :
    LinkWorld cache → (op : Op ShortCode Link) → op.Reply × LinkWorld cache :=
  handle linkEntity .immediate draws cache (instantAt time)

def runCall (settings : Settings) (draws : Nat → Nat → Fin 62) (cache : Cache ShortCode)
    (time : Nat) (call : Call) (world : LinkWorld cache) : Reply × LinkWorld cache :=
  Proc.run (linkHandle draws cache time) (call.program settings) world

/-- The replies to calls made one after another, each at its time. -/
def replies (settings : Settings) (draws : Nat → Nat → Fin 62) (cache : Cache ShortCode) :
    LinkWorld cache → List (Nat × Call) → List Reply
  | _, [] => []
  | world, (time, call) :: calls =>
      (runCall settings draws cache time call world).1 ::
        replies settings draws cache (runCall settings draws cache time call world).2 calls

section Run

variable {draws : Nat → Nat → Fin 62} {cache : Cache ShortCode} {time : Nat}
  (world : LinkWorld cache) (code : ShortCode)

theorem run_resolveStored_none (absent : world.repo code = none) :
    Proc.run (linkHandle draws cache time) (resolveStored code) world =
      (.error .notFound, { world with handed := none }) := by
  simp only [resolveStored, Proc.call_bind, Proc.ret_bind, Proc.pure_eq, Proc.run_call, handle,
    absent, Proc.run_ret]

theorem run_resolveStored_expired {link : Link} (stored : world.repo code = some link)
    (expired : link.isExpired (instantAt time).reading = true) :
    Proc.run (linkHandle draws cache time) (resolveStored code) world =
      (.error .notFound, { world.setRepo code none with
        handed := some link
        cache := cache.delete world.cache time code }) := by
  simp only [resolveStored, Proc.call_bind, Proc.ret_bind, Proc.pure_eq, Proc.run_call, handle,
    stored, expired, ↓reduceIte, Proc.run_ret]
  rfl

theorem run_resolveStored_live {link : Link} (stored : world.repo code = some link)
    (live : link.isExpired (instantAt time).reading = false) :
    Proc.run (linkHandle draws cache time) (resolveStored code) world =
      (.ok link.target, (World.fill cache (instantAt time) { world with handed := some link } code
        link.target.value (ttlAt (instantAt time).reading link.expiresAt)).record linkEntity
          .immediate code) := by
  have positive := ttlAt_pos live
  simp only [resolveStored, fillCache, Proc.call_bind, Proc.ret_bind, Proc.pure_eq, Proc.run_call,
    handle, stored, live, Bool.false_eq_true, ↓reduceIte, Proc.run_bind, run_cacheTtlSecs,
    positive, Proc.run_ret]
  rfl

theorem run_resolve_hit {raw target : String} {state : cache.State}
    (parsed : ShortCode.parse raw = .ok code)
    (found : cache.get world.cache time code = (some target, state)) :
    Proc.run (linkHandle draws cache time) (resolve raw) world =
      (.ok ⟨target⟩, World.record linkEntity .immediate { world with cache := state } code) := by
  simp only [resolve, parsed, Proc.call_bind, Proc.ret_bind, Proc.pure_eq, Proc.run_call, handle,
    instantAt_time, found, Proc.run_ret]
  rfl

theorem run_resolve_miss {raw : String} {state : cache.State}
    (parsed : ShortCode.parse raw = .ok code)
    (missed : cache.get world.cache time code = (none, state)) :
    Proc.run (linkHandle draws cache time) (resolve raw) world =
      Proc.run (linkHandle draws cache time) (resolveStored code)
        { world with cache := state } := by
  simp only [resolve, parsed, Proc.call_bind, Proc.ret_bind, Proc.run_call, handle,
    instantAt_time, missed]

theorem run_get_none {raw : String} (parsed : ShortCode.parse raw = .ok code)
    (absent : world.repo code = none) :
    Proc.run (linkHandle draws cache time) (get raw) world =
      (.error .notFound, { world with handed := none }) := by
  simp only [get, parsed, Proc.call_bind, Proc.ret_bind, Proc.pure_eq, Proc.run_call, handle,
    absent, Proc.run_ret]

theorem run_get_expired {raw : String} {link : Link} (parsed : ShortCode.parse raw = .ok code)
    (stored : world.repo code = some link)
    (expired : link.isExpired (instantAt time).reading = true) :
    Proc.run (linkHandle draws cache time) (get raw) world =
      (.error .notFound, { world.setRepo code none with handed := some link }) := by
  simp only [get, parsed, Proc.call_bind, Proc.ret_bind, Proc.pure_eq, Proc.run_call, handle,
    stored, expired, ↓reduceIte, Proc.run_ret]
  rfl

theorem run_get_live {raw : String} {link : Link} (parsed : ShortCode.parse raw = .ok code)
    (stored : world.repo code = some link)
    (live : link.isExpired (instantAt time).reading = false) :
    Proc.run (linkHandle draws cache time) (get raw) world =
      (.ok link, { world with handed := some link }) := by
  simp only [get, parsed, Proc.call_bind, Proc.ret_bind, Proc.pure_eq, Proc.run_call, handle,
    stored, live, Bool.false_eq_true, ↓reduceIte, Proc.run_ret]

theorem run_delete {raw : String} (parsed : ShortCode.parse raw = .ok code) :
    Proc.run (linkHandle draws cache time) (delete raw) world =
      (if (world.repo code).isSome then .ok () else .error .notFound,
        { world.setRepo code none with cache := cache.delete world.cache time code }) := by
  simp only [delete, parsed, Proc.call_bind, Proc.ret_bind, Proc.pure_eq, Proc.run_call, handle]
  cases world.repo code <;> rfl

end Run

/-- `create` only adds to the repository and uses up draws. -/
theorem create_adds (settings : Settings) (url : String) (requested : Option String)
    (ttlSeconds : Option Nat) : (create settings url requested ttlSeconds).Only
      (createAsks .none) := by
  have loop : ∀ target createdAt expiresAt attempts,
      (createLoop target createdAt expiresAt attempts).Only (createAsks .none) := by
    intro target createdAt expiresAt attempts
    induction attempts with
    | zero => trivial
    | succ attempts ih =>
        refine ⟨trivial, fun draw => ⟨trivial, ?_⟩⟩
        rintro (⟨_ | cause⟩ | ⟨⟩)
        · exact ih
        · trivial
        · trivial
  unfold create
  split
  · trivial
  · split
    · trivial
    · refine ⟨trivial, fun now => ?_⟩
      cases requested with
      | none => exact loop _ _ _ _
      | some requested =>
          dsimp only
          unfold createAlias
          split
          · trivial
          · refine ⟨trivial, ?_⟩
            rintro (err | ⟨⟩) <;> trivial

/-- The Redis entry of a code is live and was filled from a link that has
expired, and the code does not stand for that target any more. -/
def StaleEntry (world : LinkWorld (redisCache ShortCode)) (time : Nat) (code : ShortCode) : Prop :=
  ∃ stored origin, world.cache code = some stored ∧ stored.live time = true ∧
    world.filled code = some origin ∧ origin.isExpired (instantAt time).reading = true ∧
    ∀ link, world.repo code = some link → link.isExpired (instantAt time).reading = false →
      link.target.value ≠ stored.value

/-- The call is a resolve that hits such an entry. -/
def HitsStale (world : LinkWorld (redisCache ShortCode)) (time : Nat) (call : Call) : Prop :=
  ∃ raw code, call = .resolve raw ∧ ShortCode.parse raw = .ok code ∧ StaleEntry world time code

/-- No call of the sequence hits an entry that has outlived its link. -/
def NoStaleHits (settings : Settings) (draws : Nat → Nat → Fin 62) :
    LinkWorld (redisCache ShortCode) → List (Nat × Call) → Prop
  | _, [] => True
  | world, (time, call) :: calls => ¬ HitsStale world time call ∧
      NoStaleHits settings draws (runCall settings draws (redisCache ShortCode) time call world).2
        calls

/-- The two services agree, and every cache entry was filled from a link that
is stored or has expired. -/
structure Sync (time : Nat) (cached : LinkWorld (redisCache ShortCode))
    (plain : LinkWorld (noOpCache ShortCode)) : Prop where
  repo : cached.repo = plain.repo
  drawn : cached.drawn = plain.drawn
  filled : ∀ code stored, cached.cache code = some stored →
    ∃ origin, cached.filled code = some origin ∧ stored.value = origin.target.value ∧
      (origin.isExpired (instantAt time).reading = true ∨ ∃ link, cached.repo code = some link ∧
        link.target = origin.target ∧ link.expiresAt = origin.expiresAt)

section Sync

variable {settings : Settings} {draws : Nat → Nat → Fin 62} {time : Nat}
  {cached : LinkWorld (redisCache ShortCode)} {plain : LinkWorld (noOpCache ShortCode)}
  {code : ShortCode}

theorem Sync.later {later : Nat} (sync : Sync time cached plain) (order : time ≤ later) :
    Sync later cached plain where
  repo := sync.repo
  drawn := sync.drawn
  filled := by
    intro code stored present
    obtain ⟨origin, source, same, expired | kept⟩ := sync.filled code stored present
    · have readings : (instantAt time).reading ≤ (instantAt later).reading := by
        have floors : time / 1000 ≤ later / 1000 := Nat.div_le_div_right order
        exact Int.ofNat_le.mpr floors
      exact ⟨origin, source, same, Or.inl (isExpired_mono readings expired)⟩
    · exact ⟨origin, source, same, Or.inr kept⟩

/-- An entry that is not stale stands for a live stored link. -/
theorem Sync.fresh (sync : Sync time cached plain) {stored : Stored}
    (present : cached.cache code = some stored) (live : stored.live time = true)
    (notStale : ¬ StaleEntry cached time code) :
    ∃ link, cached.repo code = some link ∧ link.isExpired (instantAt time).reading = false ∧
      link.target.value = stored.value := by
  obtain ⟨origin, source, same, kept⟩ := sync.filled code stored present
  by_cases expired : origin.isExpired (instantAt time).reading = true
  · by_contra absent
    apply notStale
    refine ⟨stored, origin, present, live, source, expired, ?_⟩
    intro link here alive target
    exact absent ⟨link, here, alive, target⟩
  · rcases kept with expired' | ⟨link, here, target, expiry⟩
    · exact absurd expired' expired
    · refine ⟨link, here, ?_, by rw [target, same]⟩
      rw [Link.isExpired, expiry]
      exact Bool.eq_false_iff.mpr expired

/-- A link is written or removed. What it was filled from is still there, or has expired. -/
theorem Sync.setRepo (sync : Sync time cached plain) (code : ShortCode) (row : Option Link)
    (covered : ∀ old, cached.repo code = some old → old.isExpired (instantAt time).reading = true ∨
      ∃ link, row = some link ∧ link.target = old.target ∧ link.expiresAt = old.expiresAt) :
    Sync time (cached.setRepo code row) (plain.setRepo code row) where
  repo := by simp only [World.setRepo, sync.repo]
  drawn := sync.drawn
  filled := by
    intro other entry present
    obtain ⟨origin, source, same, lapsed | ⟨old, here, target, expiry⟩⟩ :=
      sync.filled other entry present
    · exact ⟨origin, source, same, Or.inl lapsed⟩
    · refine ⟨origin, source, same, ?_⟩
      by_cases self : other = code
      · subst self
        rcases covered old here with expired | ⟨link, rfl, target', expiry'⟩
        · apply Or.inl
          rw [Link.isExpired, ← expiry]
          exact expired
        · refine Or.inr ⟨link, ?_, target'.trans target, expiry'.trans expiry⟩
          simp only [World.setRepo, Function.update_self]
      · refine Or.inr ⟨old, ?_, target, expiry⟩
        simp only [World.setRepo, Function.update_of_ne self, here]

theorem Sync.record (sync : Sync time cached plain) (code : ShortCode) :
    Sync time (cached.record linkEntity .immediate code)
      (plain.record linkEntity .immediate code) := by
  have counted := sync.setRepo code ((cached.repo code).map (linkEntity.bump 1)) (by
    intro old here
    rw [here]
    exact Or.inr ⟨old.addHits 1, rfl, rfl, rfl⟩)
  refine ⟨?_, counted.drawn, counted.filled⟩
  simp only [World.record, World.incrementBy, World.setRepo, sync.repo]

/-- A purge without invalidation, as in `get`: the link has expired. -/
theorem Sync.purge (sync : Sync time cached plain) {link : Link}
    (stored : cached.repo code = some link)
    (expired : link.isExpired (instantAt time).reading = true) :
    Sync time (cached.setRepo code none) (plain.setRepo code none) := by
  apply sync.setRepo
  intro old here
  obtain rfl : link = old := Option.some.inj (stored.symm.trans here)
  exact Or.inl expired

/-- A removal with invalidation, as in `delete` and `resolve`. -/
theorem Sync.remove (sync : Sync time cached plain) (code : ShortCode) :
    Sync time { cached.setRepo code none with
        cache := (redisCache ShortCode).delete cached.cache time code }
      { plain.setRepo code none with
        cache := (noOpCache ShortCode).delete plain.cache time code } where
  repo := by simp only [World.setRepo, sync.repo]
  drawn := sync.drawn
  filled := by
    intro other entry present
    by_cases self : other = code
    · subst self
      simp only [redisCache, Function.update_self] at present
      cases present
    · simp only [redisCache, Function.update_of_ne self] at present
      obtain ⟨origin, source, same, lapsed | ⟨found, here, target, expiry⟩⟩ :=
        sync.filled other entry present
      · exact ⟨origin, source, same, Or.inl lapsed⟩
      · refine ⟨origin, source, same, Or.inr ⟨found, ?_, target, expiry⟩⟩
        simp only [World.setRepo, Function.update_of_ne self, here]

theorem Sync.fill (sync : Sync time cached plain) {link : Link} {ttlSecs : Nat}
    (stored : cached.repo code = some link) :
    Sync time (World.fill (redisCache ShortCode) (instantAt time)
        { cached with handed := some link } code link.target.value ttlSecs)
      (World.fill (noOpCache ShortCode) (instantAt time)
        { plain with handed := some link } code link.target.value ttlSecs) where
  repo := sync.repo
  drawn := sync.drawn
  filled := by
    intro other entry present
    by_cases self : other = code
    · subst self
      simp only [World.fill, redisCache, Function.update_self, Option.some.injEq] at present
      subst present
      refine ⟨link, ?_, rfl, Or.inr ⟨link, stored, rfl, rfl⟩⟩
      simp only [World.fill, Function.update_self]
    · simp only [World.fill, redisCache, Function.update_of_ne self] at present
      obtain ⟨origin, source, same, kept⟩ := sync.filled other entry present
      refine ⟨origin, ?_, same, kept⟩
      simp only [World.fill, Function.update_of_ne self, source]

theorem Sync.handed (sync : Sync time cached plain) (left right : Option Link) :
    Sync time { cached with handed := left } { plain with handed := right } :=
  ⟨sync.repo, sync.drawn, sync.filled⟩

/-- After a miss, both services answer from the repository. -/
theorem Sync.resolveStored (sync : Sync time cached plain) (code : ShortCode) :
    (Proc.run (linkHandle draws (redisCache ShortCode) time) (resolveStored code) cached).1 =
        (Proc.run (linkHandle draws (noOpCache ShortCode) time) (resolveStored code) plain).1 ∧
      Sync time
        (Proc.run (linkHandle draws (redisCache ShortCode) time) (resolveStored code) cached).2
        (Proc.run (linkHandle draws (noOpCache ShortCode) time) (resolveStored code) plain).2 := by
  have same : ∀ found, cached.repo code = found → plain.repo code = found := by
    intro found here
    rw [← sync.repo, here]
  cases stored : cached.repo code with
  | none =>
      rw [run_resolveStored_none cached code stored,
        run_resolveStored_none plain code (same none stored)]
      exact ⟨rfl, sync.handed none none⟩
  | some link =>
      by_cases expired : link.isExpired (instantAt time).reading = true
      · rw [run_resolveStored_expired cached code stored expired,
          run_resolveStored_expired plain code (same _ stored) expired]
        exact ⟨rfl, (sync.remove code).handed (some link) (some link)⟩
      · have live : link.isExpired (instantAt time).reading = false := by simpa using expired
        rw [run_resolveStored_live cached code stored live,
          run_resolveStored_live plain code (same _ stored) live]
        exact ⟨rfl, (sync.fill stored).record code⟩

theorem Sync.insert (sync : Sync time cached plain) (link : Link)
    (free : cached.repo link.code = none) :
    Sync time (cached.setRepo link.code (some link)) (plain.setRepo link.code (some link)) := by
  apply sync.setRepo
  intro old here
  cases free.symm.trans here

theorem Sync.adds (sync : Sync time cached plain) (op : Op ShortCode Link)
    (only : createAsks .none op) :
    (linkHandle draws (redisCache ShortCode) time cached op).1 =
        (linkHandle draws (noOpCache ShortCode) time plain op).1 ∧
      Sync time (linkHandle draws (redisCache ShortCode) time cached op).2
        (linkHandle draws (noOpCache ShortCode) time plain op).2 := by
  cases op with
  | repoInsert link =>
      have same := congrFun sync.repo link.code
      cases taken : cached.repo link.code with
      | none =>
          have free : plain.repo link.code = none := by rw [← same, taken]
          simp only [linkHandle, handle, linkEntity, taken, free]
          exact ⟨trivial, sync.insert link taken⟩
      | some other =>
          have full : plain.repo link.code = some other := by rw [← same, taken]
          simp only [linkHandle, handle, linkEntity, taken, full]
          exact ⟨trivial, sync⟩
  | nowUnix => exact ⟨rfl, sync⟩
  | random =>
      refine ⟨congrArg draws sync.drawn, sync.repo, ?_, sync.filled⟩
      exact congrArg (· + 1) sync.drawn
  | _ => exact only.elim

theorem redis_get (code : ShortCode) : (redisCache ShortCode).get cached.cache time code =
    (((cached.cache code).filter fun stored => stored.live time).map Stored.value,
      cached.cache) := rfl

/-- The entry that a resolve hits, if it hits one. -/
theorem redis_cases (cached : LinkWorld (redisCache ShortCode)) (time : Nat) (code : ShortCode) :
    (redisCache ShortCode).get cached.cache time code = (none, cached.cache) ∨
      ∃ stored, cached.cache code = some stored ∧ stored.live time = true ∧
        (redisCache ShortCode).get cached.cache time code = (some stored.value, cached.cache) := by
  rw [redis_get]
  cases present : cached.cache code with
  | none => exact Or.inl rfl
  | some stored =>
      by_cases live : stored.live time = true
      · exact Or.inr ⟨stored, rfl, live, by simp [Option.filter, live]⟩
      · exact Or.inl (by simp [Option.filter, live])

theorem Sync.resolve (sync : Sync time cached plain) (draws : Nat → Nat → Fin 62) (raw : String)
    (fresh : ∀ code, ShortCode.parse raw = .ok code → ¬ StaleEntry cached time code) :
    (Proc.run (linkHandle draws (redisCache ShortCode) time) (resolve raw) cached).1 =
        (Proc.run (linkHandle draws (noOpCache ShortCode) time) (resolve raw) plain).1 ∧
      Sync time (Proc.run (linkHandle draws (redisCache ShortCode) time) (resolve raw) cached).2
        (Proc.run (linkHandle draws (noOpCache ShortCode) time) (resolve raw) plain).2 := by
  cases parsed : ShortCode.parse raw with
  | error err =>
      simp only [UrlShortener.resolve, parsed]
      exact ⟨rfl, sync⟩
  | ok code =>
      have missed : (noOpCache ShortCode).get plain.cache time code = (none, plain.cache) := rfl
      rw [run_resolve_miss plain code parsed missed]
      rcases redis_cases cached time code with absent | ⟨stored, present, live, found⟩
      · rw [run_resolve_miss cached code parsed absent]
        exact sync.resolveStored code
      · obtain ⟨link, here, alive, target⟩ := sync.fresh present live (fresh code parsed)
        have there : plain.repo code = some link := by rw [← sync.repo, here]
        rw [run_resolve_hit cached code parsed found,
          run_resolveStored_live plain code there alive, ← target]
        -- without a cache, the fill leaves no trace that the two must agree on
        have filled : Sync time cached (World.fill (noOpCache ShortCode) (instantAt time)
            { plain with handed := some link } code link.target.value
            (ttlAt (instantAt time).reading link.expiresAt)) :=
          ⟨sync.repo, sync.drawn, sync.filled⟩
        exact ⟨rfl, filled.record code⟩

theorem Sync.get (sync : Sync time cached plain) (draws : Nat → Nat → Fin 62) (raw : String) :
    (Proc.run (linkHandle draws (redisCache ShortCode) time) (get raw) cached).1 =
        (Proc.run (linkHandle draws (noOpCache ShortCode) time) (get raw) plain).1 ∧
      Sync time (Proc.run (linkHandle draws (redisCache ShortCode) time) (get raw) cached).2
        (Proc.run (linkHandle draws (noOpCache ShortCode) time) (get raw) plain).2 := by
  cases parsed : ShortCode.parse raw with
  | error err =>
      simp only [UrlShortener.get, parsed]
      exact ⟨rfl, sync⟩
  | ok code =>
      have same : ∀ found, cached.repo code = found → plain.repo code = found := by
        intro found here
        rw [← sync.repo, here]
      cases stored : cached.repo code with
      | none =>
          rw [run_get_none cached code parsed stored,
            run_get_none plain code parsed (same none stored)]
          exact ⟨rfl, sync.handed none none⟩
      | some link =>
          by_cases expired : link.isExpired (instantAt time).reading = true
          · rw [run_get_expired cached code parsed stored expired,
              run_get_expired plain code parsed (same _ stored) expired]
            exact ⟨rfl, (sync.purge stored expired).handed (some link) (some link)⟩
          · have live : link.isExpired (instantAt time).reading = false := by simpa using expired
            rw [run_get_live cached code parsed stored live,
              run_get_live plain code parsed (same _ stored) live]
            exact ⟨rfl, sync.handed (some link) (some link)⟩

theorem Sync.delete (sync : Sync time cached plain) (draws : Nat → Nat → Fin 62) (raw : String) :
    (Proc.run (linkHandle draws (redisCache ShortCode) time) (delete raw) cached).1 =
        (Proc.run (linkHandle draws (noOpCache ShortCode) time) (delete raw) plain).1 ∧
      Sync time (Proc.run (linkHandle draws (redisCache ShortCode) time) (delete raw) cached).2
        (Proc.run (linkHandle draws (noOpCache ShortCode) time) (delete raw) plain).2 := by
  cases parsed : ShortCode.parse raw with
  | error err =>
      simp only [UrlShortener.delete, parsed]
      exact ⟨rfl, sync⟩
  | ok code =>
      rw [run_delete cached code parsed, run_delete plain code parsed]
      have same := congrFun sync.repo code
      exact ⟨by rw [same], sync.remove code⟩

/-- A stale hit shows: without a cache the call would not return that target. -/
theorem Sync.stale (sync : Sync time cached plain) (draws : Nat → Nat → Fin 62) {raw : String}
    (parsed : ShortCode.parse raw = .ok code) (stale : StaleEntry cached time code) :
    (Proc.run (linkHandle draws (redisCache ShortCode) time)
        (UrlShortener.resolve raw) cached).1 ≠
      (Proc.run (linkHandle draws (noOpCache ShortCode) time)
        (UrlShortener.resolve raw) plain).1 := by
  obtain ⟨stored, origin, present, live, -, -, other⟩ := stale
  have found : (redisCache ShortCode).get cached.cache time code =
      (some stored.value, cached.cache) := by
    rw [redis_get, present]
    simp [Option.filter, live]
  have missed : (noOpCache ShortCode).get plain.cache time code = (none, plain.cache) := rfl
  rw [run_resolve_hit cached code parsed found, run_resolve_miss plain code parsed missed]
  cases here : cached.repo code with
  | none =>
      rw [run_resolveStored_none plain code (by rw [← sync.repo, here])]
      nofun
  | some link =>
      have there : plain.repo code = some link := by rw [← sync.repo, here]
      by_cases expired : link.isExpired (instantAt time).reading = true
      · rw [run_resolveStored_expired plain code there expired]
        nofun
      · have alive : link.isExpired (instantAt time).reading = false := by simpa using expired
        rw [run_resolveStored_live plain code there alive]
        intro same
        have targets : (⟨stored.value⟩ : TargetUrl) = link.target := Except.ok.inj same
        exact other link here alive (by rw [← targets])

theorem Sync.step (sync : Sync time cached plain) (settings : Settings)
    (draws : Nat → Nat → Fin 62) {call : Call}
    (fresh : ¬ HitsStale cached time call) :
    (runCall settings draws (redisCache ShortCode) time call cached).1 =
        (runCall settings draws (noOpCache ShortCode) time call plain).1 ∧
      Sync time (runCall settings draws (redisCache ShortCode) time call cached).2
        (runCall settings draws (noOpCache ShortCode) time call plain).2 := by
  cases call with
  | create url requested ttlSeconds =>
      simp only [runCall, Call.program, Proc.run_map]
      have answers : ∀ left right op, Sync time left right → createAsks .none op →
          (linkHandle draws (redisCache ShortCode) time left op).1 =
              (linkHandle draws (noOpCache ShortCode) time right op).1 ∧
            Sync time (linkHandle draws (redisCache ShortCode) time left op).2
              (linkHandle draws (noOpCache ShortCode) time right op).2 :=
        fun _ _ op sync only => sync.adds op only
      have both := Proc.run_simulates (Sync time) answers
        (create_adds settings url requested ttlSeconds) sync
      exact ⟨congrArg Reply.created both.1, both.2⟩
  | resolve raw =>
      simp only [runCall, Call.program, Proc.run_map]
      have both := sync.resolve draws raw fun code parsed stale =>
        fresh ⟨raw, code, rfl, parsed, stale⟩
      exact ⟨congrArg Reply.resolved both.1, both.2⟩
  | get raw =>
      simp only [runCall, Call.program, Proc.run_map]
      have both := sync.get draws raw
      exact ⟨congrArg Reply.got both.1, both.2⟩
  | delete raw =>
      simp only [runCall, Call.program, Proc.run_map]
      have both := sync.delete draws raw
      exact ⟨congrArg Reply.deleted both.1, both.2⟩

theorem Sync.hitsStale (sync : Sync time cached plain) (settings : Settings)
    (draws : Nat → Nat → Fin 62) {call : Call}
    (stale : HitsStale cached time call) :
    (runCall settings draws (redisCache ShortCode) time call cached).1 ≠
      (runCall settings draws (noOpCache ShortCode) time call plain).1 := by
  obtain ⟨raw, code, rfl, parsed, entry⟩ := stale
  simp only [runCall, Call.program, Proc.run_map]
  intro same
  exact sync.stale draws parsed entry (Reply.resolved.inj same)

/-- From agreeing services on, the replies agree as long as no hit is stale. -/
theorem Sync.replies (sync : Sync time cached plain) (calls : List (Nat × Call))
    (later : ∀ call ∈ calls, time ≤ call.1)
    (ordered : calls.Pairwise fun earlier later => earlier.1 ≤ later.1) :
    UrlShortener.replies settings draws (redisCache ShortCode) cached calls =
        UrlShortener.replies settings draws (noOpCache ShortCode) plain calls ↔
      NoStaleHits settings draws cached calls := by
  induction calls generalizing time cached plain with
  | nil => exact ⟨fun _ => trivial, fun _ => rfl⟩
  | cons first calls ih =>
      obtain ⟨next, call⟩ := first
      obtain ⟨bound, rest⟩ := List.pairwise_cons.mp ordered
      have now := sync.later (later (next, call) (by simp))
      simp only [UrlShortener.replies, NoStaleHits, List.cons.injEq]
      by_cases stale : HitsStale cached next call
      · have differ := now.hitsStale settings draws stale
        exact ⟨fun same => absurd same.1 differ, fun fresh => absurd stale fresh.1⟩
      · obtain ⟨same, synced⟩ := now.step settings draws stale
        have tail := ih synced bound rest
        exact ⟨fun equal => ⟨stale, tail.mp equal.2⟩, fun fresh => ⟨same, tail.mpr fresh.2⟩⟩

end Sync

/-- The Redis read-cache is transparent for a sequence of calls exactly when
none of them hits an entry that has outlived its link. -/
theorem redis_transparent_iff (settings : Settings) (draws : Nat → Nat → Fin 62)
    (calls : List (Nat × Call))
    (ordered : calls.Pairwise fun earlier later => earlier.1 ≤ later.1) :
    replies settings draws (redisCache ShortCode) (.start (redisCache ShortCode)) calls =
        replies settings draws (noOpCache ShortCode) (.start (noOpCache ShortCode)) calls ↔
      NoStaleHits settings draws (.start (redisCache ShortCode)) calls := by
  have start : Sync 0 (.start (redisCache ShortCode)) (.start (noOpCache ShortCode)) :=
    ⟨rfl, rfl, fun _ _ present => nomatch present⟩
  exact start.replies calls (fun call _ => Nat.zero_le call.1) ordered

/-- A link of one second, made at 1.000 s and resolved at 1.999 s: it is cached
for one second more, so still at 2.500 s. -/
def lateCalls : List (Nat × Call) :=
  [(1000, .create "https://example.com" (some "a") (some 1)), (1999, .resolve "a"),
    (2500, .resolve "a")]

theorem redis_outlives_link :
    lateCalls.Pairwise (fun earlier later => earlier.1 ≤ later.1) ∧
    replies exampleSettings (fun _ _ => 0) (redisCache ShortCode) (.start (redisCache ShortCode))
        lateCalls ≠
      replies exampleSettings (fun _ _ => 0) (noOpCache ShortCode) (.start (noOpCache ShortCode))
        lateCalls := by
  decide +kernel

/-- The same link, hit in its second and then looked up after it. -/
def promptCalls : List (Nat × Call) :=
  [(1000, .create "https://example.com" (some "a") (some 1)), (1500, .resolve "a"),
    (1999, .resolve "a"), (2500, .get "a")]

theorem redis_transparent_in_time :
    NoStaleHits exampleSettings (fun _ _ => 0) (.start (redisCache ShortCode)) promptCalls := by
  have ordered : promptCalls.Pairwise (fun earlier later => earlier.1 ≤ later.1) := by
    decide
  exact (redis_transparent_iff exampleSettings (fun _ _ => 0) promptCalls ordered).mp
    (by decide +kernel)

end ActorServices.UrlShortener
