import ActorServices.CreateCalls
import ActorServices.LinkRedis

set_option autoImplicit false

namespace ActorServices.UrlShortener

open ActorServices.Sequential

abbrev PlainWorld : Type := LinkWorld (noOpCache ShortCode)

/-- A link of this code has expired and is still stored. -/
def Unpurged (reading : Int) (world : PlainWorld) (code : ShortCode) : Prop :=
  ∃ link, world.repo code = some link ∧ link.isExpired reading = true

/-- The await inserts under a code that an expired link still has. -/
def insertMeets (reading : Int) (world : PlainWorld) : Op ShortCode Link → Prop
  | .repoInsert link => Unpurged reading world link.code
  | _ => False

/-- The call tries to insert under, or deletes, the code of an expired link that is still
stored: the two operations that do not look at the expiry. -/
def MeetsExpired (settings : Settings) (draws : Nat → Nat → Fin 62) (time : Nat)
    (world : PlainWorld) : Call → Prop
  | .create url requested ttlSeconds =>
      (create settings url requested ttlSeconds).Meets
        (linkHandle draws (noOpCache ShortCode) time) (insertMeets (instantAt time).reading) world
  | .delete raw => ∃ code, ShortCode.parse raw = .ok code ∧
      Unpurged (instantAt time).reading world code
  | .resolve _ => False
  | .get _ => False

/-- No call of the sequence meets an expired link. -/
def Spared (settings : Settings) (draws : Nat → Nat → Fin 62) :
    PlainWorld → List (Nat × Call) → Prop
  | _, [] => True
  | world, (time, call) :: calls => ¬ MeetsExpired settings draws time world call ∧
      Spared settings draws (runCall settings draws (noOpCache ShortCode) time call world).2 calls

/-- The store without the links that have expired. -/
def vanish (reading : Int) (world : PlainWorld) : PlainWorld :=
  { world with repo := fun code => (world.repo code).filter fun link => !link.isExpired reading }

/-- The replies of the service over a store in which each link disappears when it expires. -/
def referenceReplies (settings : Settings) (draws : Nat → Nat → Fin 62) :
    PlainWorld → List (Nat × Call) → List Reply
  | _, [] => []
  | world, (time, call) :: calls =>
      let ended := runCall settings draws (noOpCache ShortCode) time call
        (vanish (instantAt time).reading world)
      ended.1 :: referenceReplies settings draws ended.2 calls

/-- The call reads a code that has no live link. -/
def ReadsExpired (time : Nat) (world : PlainWorld) (call : Call) : Prop :=
  ∃ raw code, (call = .resolve raw ∨ call = .get raw) ∧ ShortCode.parse raw = .ok code ∧
    ∀ link, world.repo code = some link → link.isExpired (instantAt time).reading = true

/-- A call in its place in a sequence: one of the calls themselves, or an extra one. -/
structure Placed where
  extra : Bool
  time : Nat
  call : Call

def withoutExtras (placed : List Placed) : List (Nat × Call) :=
  placed.filterMap fun entry => if entry.extra then none else some (entry.time, entry.call)

/-- The replies to the calls that are not extra. -/
def othersReplies (settings : Settings) (draws : Nat → Nat → Fin 62) :
    PlainWorld → List Placed → List Reply
  | _, [] => []
  | world, entry :: placed =>
      let ended := runCall settings draws (noOpCache ShortCode) entry.time entry.call world
      if entry.extra then othersReplies settings draws ended.2 placed
      else ended.1 :: othersReplies settings draws ended.2 placed

def ExtrasExpired (settings : Settings) (draws : Nat → Nat → Fin 62) :
    PlainWorld → List Placed → Prop
  | _, [] => True
  | world, entry :: placed => (entry.extra = true → ReadsExpired entry.time world entry.call) ∧
      ExtrasExpired settings draws
        (runCall settings draws (noOpCache ShortCode) entry.time entry.call world).2 placed

/-- The right store is the left one without some of its expired links. -/
structure Purged (reading : Int) (left right : PlainWorld) : Prop where
  repo : ∀ code, right.repo code = left.repo code ∨
    right.repo code = none ∧ Unpurged reading left code
  drawn : right.drawn = left.drawn

section Purged

variable {settings : Settings} {draws : Nat → Nat → Fin 62} {time : Nat} {reading : Int}
  {left right left' right' : PlainWorld} {code : ShortCode}

theorem Purged.refl (world : PlainWorld) : Purged reading world world :=
  ⟨fun _ => .inl rfl, rfl⟩

theorem Purged.later {later : Int} (purged : Purged reading left right)
    (order : reading ≤ later) : Purged later left right where
  repo := by
    intro code
    cases purged.repo code with
    | inl same => exact .inl same
    | inr gone =>
        obtain ⟨absent, link, stored, expired⟩ := gone
        exact .inr ⟨absent, link, stored, isExpired_mono order expired⟩
  drawn := purged.drawn

theorem not_unpurged_none {world : PlainWorld} (absent : world.repo code = none) :
    ¬ Unpurged reading world code := by
  intro unpurged
  obtain ⟨link, stored, _⟩ := unpurged
  cases absent.symm.trans stored

theorem not_unpurged_live {world : PlainWorld} {link : Link} (stored : world.repo code = some link)
    (live : link.isExpired reading = false) : ¬ Unpurged reading world code := by
  intro unpurged
  obtain ⟨found, present, lapsed⟩ := unpurged
  cases stored.symm.trans present
  rw [live] at lapsed
  cases lapsed

theorem vanish_live {world : PlainWorld} (live : ¬ Unpurged reading world code) :
    (vanish reading world).repo code = world.repo code := by
  cases stored : world.repo code with
  | none => simp [vanish, stored]
  | some link =>
      have alive : ¬ link.isExpired reading = true := fun expired => live ⟨link, stored, expired⟩
      simp [vanish, stored, alive]

theorem vanish_expired {world : PlainWorld} (expired : Unpurged reading world code) :
    (vanish reading world).repo code = none := by
  obtain ⟨link, stored, expired⟩ := expired
  simp [vanish, stored, expired]

theorem vanish_purged (world : PlainWorld) (code : ShortCode) :
    ¬ Unpurged reading (vanish reading world) code := by
  by_cases expired : Unpurged reading world code
  · exact not_unpurged_none (vanish_expired expired)
  · intro still
    obtain ⟨link, stored, lapsed⟩ := still
    rw [vanish_live expired] at stored
    exact expired ⟨link, stored, lapsed⟩

theorem Purged.vanish (purged : Purged reading left right) :
    Purged reading left (vanish reading right) where
  repo := by
    intro code
    by_cases expired : Unpurged reading right code
    · have gone := vanish_expired expired
      obtain ⟨link, stored, lapsed⟩ := expired
      cases purged.repo code with
      | inl same => exact .inr ⟨gone, link, same ▸ stored, lapsed⟩
      | inr absent => exact .inr ⟨gone, absent.2⟩
    · rw [vanish_live expired]
      exact purged.repo code
  drawn := purged.drawn

theorem Purged.same (purged : Purged reading left right) (live : ¬ Unpurged reading left code) :
    right.repo code = left.repo code := by
  cases purged.repo code with
  | inl same => exact same
  | inr gone => exact absurd gone.2 live

theorem Purged.absent (purged : Purged reading left right)
    (clean : ∀ code, ¬ Unpurged reading right code) (expired : Unpurged reading left code) :
    right.repo code = none := by
  cases purged.repo code with
  | inl same =>
      obtain ⟨link, stored, lapsed⟩ := expired
      exact absurd ⟨link, same.trans stored, lapsed⟩ (clean code)
  | inr gone => exact gone.1

theorem Purged.put {link : Option Link} (purged : Purged reading left right)
    (changed : left'.repo = Function.update left.repo code link)
    (changed' : right'.repo = Function.update right.repo code link)
    (drawn : right'.drawn = left'.drawn) : Purged reading left' right' where
  repo := by
    intro other
    rw [changed, changed']
    by_cases self : other = code
    · subst self
      rw [Function.update_self, Function.update_self]
      exact .inl rfl
    · rw [Function.update_of_ne self, Function.update_of_ne self]
      cases purged.repo other with
      | inl same => exact .inl same
      | inr gone =>
          obtain ⟨absent, link, stored, expired⟩ := gone
          refine .inr ⟨absent, link, ?_, expired⟩
          rw [changed, Function.update_of_ne self, stored]
  drawn := drawn

theorem Purged.remove (purged : Purged reading left right)
    (changed : left'.repo = Function.update left.repo code none)
    (absent : right.repo code = none) (same : right'.repo = right.repo)
    (drawn : right'.drawn = left'.drawn) : Purged reading left' right' := by
  have emptied : right'.repo = Function.update right.repo code none := by
    rw [same, ← absent, Function.update_eq_self]
  exact purged.put changed emptied drawn

/-- Without a cache, every resolve asks the repository. -/
theorem run_resolve_plain (world : PlainWorld) {raw : String}
    (parsed : ShortCode.parse raw = .ok code) :
    Proc.run (linkHandle draws (noOpCache ShortCode) time) (resolve raw) world =
      Proc.run (linkHandle draws (noOpCache ShortCode) time) (resolveStored code) world :=
  run_resolve_miss world code parsed rfl

theorem Purged.purge (purged : Purged reading left right) (expired : Unpurged reading right code)
    (changed : right'.repo = Function.update right.repo code none)
    (drawn : right'.drawn = right.drawn) : Purged reading left right' where
  repo := by
    intro other
    rw [changed]
    by_cases self : other = code
    · subst self
      rw [Function.update_self]
      obtain ⟨link, stored, lapsed⟩ := expired
      cases purged.repo other with
      | inl same => exact .inr ⟨rfl, link, same ▸ stored, lapsed⟩
      | inr gone => exact .inr ⟨rfl, gone.2⟩
    · rw [Function.update_of_ne self]
      exact purged.repo other
  drawn := drawn.trans purged.drawn

/-- Reading a code leaves the two stores as they are, up to its expired link. -/
theorem Purged.resolveStored (purged : Purged (instantAt time).reading left right)
    (draws : Nat → Nat → Fin 62) (code : ShortCode) :
    let ended := Proc.run (linkHandle draws (noOpCache ShortCode) time) (resolveStored code) left
    let ended' := Proc.run (linkHandle draws (noOpCache ShortCode) time) (resolveStored code) right
    ended.1 = ended'.1 ∧ Purged (instantAt time).reading ended.2 ended'.2 := by
  cases stored : left.repo code with
  | none =>
      have absent : right.repo code = none := by
        rw [purged.same (not_unpurged_none stored), stored]
      rw [run_resolveStored_none left code stored, run_resolveStored_none right code absent]
      exact ⟨rfl, purged.repo, purged.drawn⟩
  | some link =>
      cases expired : link.isExpired (instantAt time).reading with
      | true =>
          rw [run_resolveStored_expired left code stored expired]
          cases purged.repo code with
          | inl same =>
              rw [run_resolveStored_expired right code (same.trans stored) expired]
              exact ⟨rfl, purged.put rfl rfl purged.drawn⟩
          | inr gone =>
              rw [run_resolveStored_none right code gone.1]
              exact ⟨rfl, purged.remove rfl gone.1 rfl purged.drawn⟩
      | false =>
          have same := purged.same (not_unpurged_live stored expired)
          rw [run_resolveStored_live left code stored expired,
            run_resolveStored_live right code (same.trans stored) expired]
          have changed : (right.repo code).map (linkEntity.bump (1 : Nat)) =
              (left.repo code).map (linkEntity.bump (1 : Nat)) := by rw [same]
          refine ⟨rfl, purged.put rfl ?_ purged.drawn⟩
          exact congrArg (Function.update right.repo code) changed

theorem Purged.get {raw : String} (purged : Purged (instantAt time).reading left right)
    (draws : Nat → Nat → Fin 62) (parsed : ShortCode.parse raw = .ok code) :
    let ended := Proc.run (linkHandle draws (noOpCache ShortCode) time) (get raw) left
    let ended' := Proc.run (linkHandle draws (noOpCache ShortCode) time) (get raw) right
    ended.1 = ended'.1 ∧ Purged (instantAt time).reading ended.2 ended'.2 := by
  cases stored : left.repo code with
  | none =>
      have absent : right.repo code = none := by
        rw [purged.same (not_unpurged_none stored), stored]
      rw [run_get_none left code parsed stored, run_get_none right code parsed absent]
      exact ⟨rfl, purged.repo, purged.drawn⟩
  | some link =>
      cases expired : link.isExpired (instantAt time).reading with
      | true =>
          rw [run_get_expired left code parsed stored expired]
          cases purged.repo code with
          | inl same =>
              rw [run_get_expired right code parsed (same.trans stored) expired]
              exact ⟨rfl, purged.put rfl rfl purged.drawn⟩
          | inr gone =>
              rw [run_get_none right code parsed gone.1]
              exact ⟨rfl, purged.remove rfl gone.1 rfl purged.drawn⟩
      | false =>
          have same := purged.same (not_unpurged_live stored expired)
          rw [run_get_live left code parsed stored expired,
            run_get_live right code parsed (same.trans stored) expired]
          exact ⟨rfl, purged.repo, purged.drawn⟩

theorem Purged.createAwait (op : Op ShortCode Link)
    (purged : Purged (instantAt time).reading left right) (asks : createAsks .none op)
    (spared : ¬ insertMeets (instantAt time).reading left op) :
    (linkHandle draws (noOpCache ShortCode) time left op).1 =
        (linkHandle draws (noOpCache ShortCode) time right op).1 ∧
      Purged (instantAt time).reading (linkHandle draws (noOpCache ShortCode) time left op).2
        (linkHandle draws (noOpCache ShortCode) time right op).2 := by
  cases op with
  | repoInsert link =>
      have same : right.repo link.code = left.repo link.code := purged.same spared
      simp only [handle, linkEntity, same]
      cases left.repo link.code with
      | none => exact ⟨rfl, purged.put rfl rfl purged.drawn⟩
      | some row => exact ⟨rfl, purged⟩
  | nowUnix => exact ⟨rfl, purged⟩
  | random =>
      simp only [handle, purged.drawn]
      exact ⟨trivial, purged.repo, rfl⟩
  | _ => exact asks.elim

/-- A call that meets no expired link answers alike over both stores. -/
theorem Purged.runCall {call : Call} (purged : Purged (instantAt time).reading left right)
    (spared : ¬ MeetsExpired settings draws time left call) :
    (runCall settings draws (noOpCache ShortCode) time call left).1 =
        (runCall settings draws (noOpCache ShortCode) time call right).1 ∧
      Purged (instantAt time).reading
        (runCall settings draws (noOpCache ShortCode) time call left).2
        (runCall settings draws (noOpCache ShortCode) time call right).2 := by
  cases call with
  | create url requested ttlSeconds =>
      have alike := Proc.run_simulates_unless (Purged (instantAt time).reading)
        (fun left right op holds asks meets => Purged.createAwait op holds asks meets)
        (create_adds settings url requested ttlSeconds) purged spared
      simp only [UrlShortener.runCall, Call.program, Proc.run_map]
      exact ⟨congrArg Reply.created alike.1, alike.2⟩
  | resolve raw =>
      simp only [UrlShortener.runCall, Call.program, Proc.run_map]
      cases parsed : ShortCode.parse raw with
      | error err =>
          simp only [resolve, parsed]
          exact ⟨rfl, purged⟩
      | ok code =>
          have alike := purged.resolveStored draws code
          rw [run_resolve_plain left parsed, run_resolve_plain right parsed]
          exact ⟨congrArg Reply.resolved alike.1, alike.2⟩
  | get raw =>
      simp only [UrlShortener.runCall, Call.program, Proc.run_map]
      cases parsed : ShortCode.parse raw with
      | error err =>
          simp only [UrlShortener.get, parsed]
          exact ⟨rfl, purged⟩
      | ok code =>
          have alike := purged.get draws parsed
          exact ⟨congrArg Reply.got alike.1, alike.2⟩
  | delete raw =>
      simp only [UrlShortener.runCall, Call.program, Proc.run_map]
      cases parsed : ShortCode.parse raw with
      | error err =>
          simp only [delete, parsed]
          exact ⟨rfl, purged⟩
      | ok code =>
          have same := purged.same fun unpurged => spared ⟨code, parsed, unpurged⟩
          rw [run_delete left code parsed, run_delete right code parsed, same]
          exact ⟨rfl, purged.put rfl rfl purged.drawn⟩

/-- An insert attempt that meets an expired link makes a difference: the reference returns a
link under the code that the service passes over. -/
theorem createLoop_differs {target : TargetUrl} {createdAt : Int} {expiresAt : Option Int}
    {attempts : Nat} (purged : Purged (instantAt time).reading left right)
    (clean : ∀ code, ¬ Unpurged (instantAt time).reading right code)
    (meets : (createLoop target createdAt expiresAt attempts).Meets
      (linkHandle draws (noOpCache ShortCode) time) (insertMeets (instantAt time).reading) left) :
    (Proc.run (linkHandle draws (noOpCache ShortCode) time)
        (createLoop target createdAt expiresAt attempts) left).1 ≠
      (Proc.run (linkHandle draws (noOpCache ShortCode) time)
        (createLoop target createdAt expiresAt attempts) right).1 := by
  induction attempts generalizing left right with
  | zero => exact absurd meets (Proc.meets_ret _ _ _ _)
  | succ attempts ih =>
      simp only [createLoop, Proc.call_bind, Proc.ret_bind, Proc.meets_call, Proc.run_call, handle,
        insertMeets, false_or, purged.drawn] at meets ⊢
      generalize ShortCode.fromTrusted (generateIdentifier generatedCodeLen (draws left.drawn)) =
        code at meets ⊢
      have drawn : Purged (instantAt time).reading { left with drawn := left.drawn + 1 }
          { right with drawn := left.drawn + 1 } := ⟨purged.repo, rfl⟩
      have key : linkEntity.key (Link.withExpiry code target createdAt expiresAt) = code := rfl
      simp only [key] at meets ⊢
      cases met : left.repo code with
      | none =>
          simp only [met] at meets
          cases meets with
          | inl unpurged => exact absurd unpurged (not_unpurged_none met)
          | inr later => exact absurd later (Proc.meets_ret _ _ _ _)
      | some link =>
          simp only [met] at meets
          cases present : right.repo code with
          | some row =>
              have later : ¬ Unpurged (instantAt time).reading left code := by
                intro unpurged
                have gone := present.symm.trans (purged.absent clean unpurged)
                cases gone
              exact ih drawn clean (meets.resolve_left later)
          | none =>
              -- whatever the service draws later, this code stays taken
              have creating := createLoop_creating target createdAt expiresAt attempts
              intro same
              cases run_creating creating { left with drawn := left.drawn + 1 } with
              | inl failure =>
                  obtain ⟨err, failed⟩ := failure.1
                  cases same.symm.trans failed
              | inr made =>
                  obtain ⟨other, _, returned, free, _⟩ := made
                  cases same.symm.trans returned
                  cases met.symm.trans free

theorem createAlias_differs {requested : String} {target : TargetUrl} {createdAt : Int}
    {expiresAt : Option Int} (purged : Purged (instantAt time).reading left right)
    (clean : ∀ code, ¬ Unpurged (instantAt time).reading right code)
    (meets : (createAlias requested target createdAt expiresAt).Meets
      (linkHandle draws (noOpCache ShortCode) time) (insertMeets (instantAt time).reading) left) :
    (Proc.run (linkHandle draws (noOpCache ShortCode) time)
        (createAlias requested target createdAt expiresAt) left).1 ≠
      (Proc.run (linkHandle draws (noOpCache ShortCode) time)
        (createAlias requested target createdAt expiresAt) right).1 := by
  unfold createAlias at meets ⊢
  split at meets
  · exact absurd meets (Proc.meets_ret _ _ _ _)
  · rename_i code _
    have key : linkEntity.key (Link.withExpiry code target createdAt expiresAt) = code := rfl
    simp only [Proc.call_bind, Proc.ret_bind, Proc.meets_call, Proc.run_call, handle,
      insertMeets, key] at meets ⊢
    cases meets with
    | inl unpurged =>
        have gone : right.repo code = none := purged.absent clean unpurged
        obtain ⟨link, stored, _⟩ := unpurged
        have here : left.repo code = some link := stored
        simp only [here, gone]
        intro same
        cases same
    | inr later =>
        cases present : left.repo code with
        | none =>
            simp only [present] at later
            exact absurd later (Proc.meets_ret _ _ _ _)
        | some link =>
            simp only [present] at later
            exact absurd later (Proc.meets_ret _ _ _ _)

theorem meetsExpired_differs {call : Call} (purged : Purged (instantAt time).reading left right)
    (clean : ∀ code, ¬ Unpurged (instantAt time).reading right code)
    (meets : MeetsExpired settings draws time left call) :
    (UrlShortener.runCall settings draws (noOpCache ShortCode) time call left).1 ≠
      (UrlShortener.runCall settings draws (noOpCache ShortCode) time call right).1 := by
  cases call with
  | create url requested ttlSeconds =>
      intro same
      simp only [UrlShortener.runCall, Call.program, Proc.run_map] at same
      injection same with same
      simp only [MeetsExpired, create] at meets same
      split at meets
      · exact absurd meets (Proc.meets_ret _ _ _ _)
      · rename_i target parsed
        split at meets
        · exact absurd meets (Proc.meets_ret _ _ _ _)
        · rename_i allowed
          simp only [parsed, allowed, Proc.call_bind, Proc.ret_bind, Proc.meets_call, handle,
            insertMeets, false_or] at meets same
          cases requested with
          | none => exact createLoop_differs purged clean meets same
          | some requested => exact createAlias_differs purged clean meets same
  | resolve raw => exact meets.elim
  | get raw => exact meets.elim
  | delete raw =>
      obtain ⟨code, parsed, unpurged⟩ := meets
      simp only [UrlShortener.runCall, Call.program, Proc.run_map]
      rw [run_delete left code parsed, run_delete right code parsed, purged.absent clean unpurged]
      obtain ⟨link, stored, _⟩ := unpurged
      rw [stored]
      simp

/-- An extra read of an expired code purges it at most. -/
theorem Purged.extra {call : Call} (purged : Purged (instantAt time).reading left right)
    (reads : ReadsExpired time right call) :
    Purged (instantAt time).reading left
      (UrlShortener.runCall settings draws (noOpCache ShortCode) time call right).2 := by
  obtain ⟨raw, code, kind, parsed, expired⟩ := reads
  cases stored : right.repo code with
  | none =>
      cases kind with
      | inl resolves =>
          subst resolves
          simp only [UrlShortener.runCall, Call.program, Proc.run_map]
          rw [run_resolve_plain right parsed, run_resolveStored_none right code stored]
          exact ⟨purged.repo, purged.drawn⟩
      | inr gets =>
          subst gets
          simp only [UrlShortener.runCall, Call.program, Proc.run_map]
          rw [run_get_none right code parsed stored]
          exact ⟨purged.repo, purged.drawn⟩
  | some link =>
      have lapsed := expired link stored
      have unpurged : Unpurged (instantAt time).reading right code := ⟨link, stored, lapsed⟩
      cases kind with
      | inl resolves =>
          subst resolves
          simp only [UrlShortener.runCall, Call.program, Proc.run_map]
          rw [run_resolve_plain right parsed, run_resolveStored_expired right code stored lapsed]
          exact purged.purge unpurged rfl rfl
      | inr gets =>
          subst gets
          simp only [UrlShortener.runCall, Call.program, Proc.run_map]
          rw [run_get_expired right code parsed stored lapsed]
          exact purged.purge unpurged rfl rfl

theorem reading_mono {earlier later : Nat} (order : earlier ≤ later) :
    (instantAt earlier).reading ≤ (instantAt later).reading :=
  Int.ofNat_le.mpr (Nat.div_le_div_right order)

theorem Purged.replies {calls : List (Nat × Call)}
    (purged : Purged (instantAt time).reading left right)
    (onwards : ∀ entry ∈ calls, time ≤ entry.1)
    (ordered : calls.Pairwise fun earlier later => earlier.1 ≤ later.1) :
    UrlShortener.replies settings draws (noOpCache ShortCode) left calls =
        referenceReplies settings draws right calls ↔ Spared settings draws left calls := by
  induction calls generalizing time left right with
  | nil => exact iff_of_true rfl trivial
  | cons entry calls ih =>
      obtain ⟨now, call⟩ := entry
      rw [List.pairwise_cons] at ordered
      have order : time ≤ now := onwards (now, call) List.mem_cons_self
      have current := (purged.later (reading_mono order)).vanish
      simp only [UrlShortener.replies, referenceReplies, Spared, List.cons.injEq]
      by_cases meets : MeetsExpired settings draws now left call
      · apply iff_of_false
        · intro same
          exact meetsExpired_differs current (vanish_purged right) meets same.1
        · exact fun spared => spared.1 meets
      · obtain ⟨alike, after⟩ := current.runCall meets
        rw [ih after ordered.1 ordered.2]
        exact and_congr (iff_of_true alike meets) Iff.rfl

theorem Purged.others {placed : List Placed}
    (purged : Purged (instantAt time).reading left right)
    (onwards : ∀ entry ∈ placed, time ≤ entry.time)
    (ordered : placed.Pairwise fun earlier later => earlier.time ≤ later.time)
    (spared : Spared settings draws left (withoutExtras placed))
    (extras : ExtrasExpired settings draws right placed) :
    othersReplies settings draws right placed =
      UrlShortener.replies settings draws (noOpCache ShortCode) left (withoutExtras placed) := by
  induction placed generalizing time left right with
  | nil => rfl
  | cons entry placed ih =>
      obtain ⟨extra, now, call⟩ := entry
      rw [List.pairwise_cons] at ordered
      have order : time ≤ now := onwards ⟨extra, now, call⟩ List.mem_cons_self
      have current := purged.later (reading_mono order)
      cases extra with
      | true =>
          simp only [withoutExtras, List.filterMap_cons, ↓reduceIte] at spared
          simp only [othersReplies, ↓reduceIte, withoutExtras, List.filterMap_cons]
          exact ih (current.extra (extras.1 rfl)) ordered.1 ordered.2 spared extras.2
      | false =>
          simp only [withoutExtras, List.filterMap_cons, Bool.false_eq_true, ↓reduceIte,
            Spared] at spared
          obtain ⟨alike, after⟩ := current.runCall spared.1
          simp only [othersReplies, withoutExtras, List.filterMap_cons, Bool.false_eq_true,
            ↓reduceIte, UrlShortener.replies, List.cons.injEq]
          exact ⟨alike.symm, ih after ordered.1 ordered.2 spared.2 extras.2⟩

end Purged

/-- The alias is deleted, or taken again, after its link has expired. -/
def lapsedCalls : List (Nat × Call) :=
  [(0, .create "https://example.com" (some "a") (some 1)), (1000, .delete "a"),
    (1000, .create "https://example.com" (some "b") (some 1)),
    (2000, .create "https://example.org" (some "b") none)]

/-- An extra read of the expired alias comes before it is taken again. -/
def lapsedPlaced : List Placed :=
  [⟨false, 0, .create "https://example.com" (some "a") (some 1)⟩, ⟨true, 1000, .get "a"⟩,
    ⟨false, 1000, .create "https://example.org" (some "a") none⟩]

theorem expired_get : ReadsExpired 1000
    (runCall exampleSettings (fun _ _ => 0) (noOpCache ShortCode) 0
      (.create "https://example.com" (some "a") (some 1)) (.start _)).2 (.get "a") := by
  refine ⟨"a", ⟨"a"⟩, .inr rfl, by decide +kernel, fun link stored => ?_⟩
  have made : (runCall exampleSettings (fun _ _ => 0) (noOpCache ShortCode) 0
      (.create "https://example.com" (some "a") (some 1)) (.start _)).2.repo ⟨"a"⟩ =
        some (.withExpiry ⟨"a"⟩ ⟨"https://example.com"⟩ 0 (some 1)) := by
    decide +kernel
  cases made.symm.trans stored
  decide

/-- An expired link is not absent: it still conflicts, it can still be deleted, and reading it
makes a difference to other calls. -/
theorem expired_not_absent :
    (¬ ∀ settings draws, ∀ calls : List (Nat × Call),
      calls.Pairwise (fun earlier later => earlier.1 ≤ later.1) →
      replies settings draws (noOpCache ShortCode) (.start _) calls =
        referenceReplies settings draws (.start _) calls) ∧
    ¬ ∀ settings draws, ∀ placed : List Placed,
      placed.Pairwise (fun earlier later => earlier.time ≤ later.time) →
      ExtrasExpired settings draws (.start _) placed →
      othersReplies settings draws (.start _) placed =
        replies settings draws (noOpCache ShortCode) (.start _) (withoutExtras placed) := by
  constructor
  · intro absent
    have alike := absent exampleSettings (fun _ _ => 0) lapsedCalls (by decide)
    revert alike
    decide +kernel
  · intro unchanged
    have alike := unchanged exampleSettings (fun _ _ => 0) lapsedPlaced (by decide)
      ⟨nofun, fun _ => expired_get, nofun, trivial⟩
    revert alike
    decide +kernel

/-- A resolve or get answers as if the expired links were not there, in every state. The whole
sequence of replies is the one over links that disappear when they expire exactly when no insert
and no deletion meets an expired link that is still stored; and then extra reads of expired
codes change no other reply. -/
theorem expired_absent_iff (settings : Settings) (draws : Nat → Nat → Fin 62) :
    (∀ time raw world, ∀ call, call = .resolve raw ∨ call = .get raw →
      (runCall settings draws (noOpCache ShortCode) time call world).1 =
        (runCall settings draws (noOpCache ShortCode) time call
          (vanish (instantAt time).reading world)).1) ∧
    (∀ calls : List (Nat × Call), calls.Pairwise (fun earlier later => earlier.1 ≤ later.1) →
      (replies settings draws (noOpCache ShortCode) (.start _) calls =
          referenceReplies settings draws (.start _) calls ↔
        Spared settings draws (.start _) calls)) ∧
    ∀ placed : List Placed, placed.Pairwise (fun earlier later => earlier.time ≤ later.time) →
      Spared settings draws (.start _) (withoutExtras placed) →
      ExtrasExpired settings draws (.start _) placed →
      othersReplies settings draws (.start _) placed =
        replies settings draws (noOpCache ShortCode) (.start _) (withoutExtras placed) := by
  refine ⟨?_, ?_, ?_⟩
  · intro time raw world call reads
    have spared : ¬ MeetsExpired settings draws time world call := by
      cases reads with
      | inl resolves => exact resolves ▸ id
      | inr gets => exact gets ▸ id
    exact ((Purged.refl world).vanish.runCall spared).1
  · intro calls ordered
    have start : Purged (instantAt 0).reading (.start _) (.start _) := .refl _
    exact start.replies (fun _ _ => Nat.zero_le _) ordered
  · intro placed ordered spared extras
    have start : Purged (instantAt 0).reading (.start _) (.start _) := .refl _
    exact start.others (fun _ _ => Nat.zero_le _) ordered spared extras

/-- The extra read comes before a resolve that purges the link anyhow. -/
def purgedPlaced : List Placed :=
  [⟨false, 0, .create "https://example.com" (some "a") (some 1)⟩, ⟨true, 1000, .get "a"⟩,
    ⟨false, 1500, .resolve "a"⟩, ⟨false, 1500, .create "https://example.org" (some "a") none⟩,
    ⟨false, 2000, .delete "a"⟩]

theorem purgedPlaced_unchanged :
    othersReplies exampleSettings (fun _ _ => 0) (.start _) purgedPlaced =
      replies exampleSettings (fun _ _ => 0) (noOpCache ShortCode) (.start _)
        (withoutExtras purgedPlaced) := by
  have main := expired_absent_iff exampleSettings fun _ _ => 0
  have spared : Spared exampleSettings (fun _ _ => 0) (.start _) (withoutExtras purgedPlaced) :=
    (main.2.1 _ (by decide)).mp (by decide +kernel)
  exact main.2.2 purgedPlaced (by decide) spared
    ⟨nofun, fun _ => expired_get, nofun, nofun, nofun, trivial⟩

end ActorServices.UrlShortener
