import ActorServices.MachineInt
import ActorServices.ServiceCache

set_option autoImplicit false

namespace ActorServices

theorem asI64_small {secs : Nat} (small : secs < 2 ^ 63) : asI64 secs = secs := by
  unfold asI64
  rw [Int.bmod_def]
  omega

theorem asI64_large {secs : Nat} (large : 2 ^ 63 ≤ secs) (fits : secs < 2 ^ 64) :
    asI64 secs = secs - 2 ^ 64 := by
  unfold asI64
  rw [Int.bmod_def]
  omega

theorem saturatingAdd_small {createdAt : Int} {secs : Nat} (start : 0 ≤ createdAt)
    (small : secs < 2 ^ 63) :
    saturatingAdd createdAt (asI64 secs) = min (2 ^ 63 - 1) (createdAt + secs) := by
  rw [asI64_small small]
  unfold saturatingAdd
  omega

/-- A larger TTL wraps around to one that ends before it starts. -/
theorem saturatingAdd_large {createdAt : Int} {secs : Nat} (start : 0 ≤ createdAt)
    (large : 2 ^ 63 ≤ secs) (fits : secs < 2 ^ 64) :
    saturatingAdd createdAt (asI64 secs) < createdAt := by
  rw [asI64_large large fits]
  unfold saturatingAdd
  omega

namespace UseCase

variable {K V : Type}

/-- `cache_ttl_secs` where an overflow panics: `none`. -/
def cacheTtlSecsChecked (expiresAt : Option Int) : UseCase K V (Option Nat) :=
  match expiresAt with
  | some exp => do
      let now ← nowUnix
      if IsI64 (exp - now) then return some (remainingTtl exp now) else return none
  | none => return some maxCacheTtlSecs

/-- The clock reads no earlier than the epoch and, like every stored expiry, fits its type. -/
def timely (expiresAt : V → Option Int) : Contract (Op K V) Op.Reply Unit where
  allows _ _ := True
  replies _ op reply _ :=
    match op, reply with
    | .nowUnix, now => 0 ≤ now ∧ IsI64 now
    | .repoGet _, .ok (some value) => ∀ exp, expiresAt value = some exp → IsI64 exp
    | _, _ => True

theorem cacheTtlSecsChecked_safe {stored : V → Option Int} {expiresAt : Option Int} {now : Int}
    (fits : ∀ exp, expiresAt = some exp → IsI64 exp) (start : 0 ≤ now)
    (live : isExpired expiresAt now = false) :
    (cacheTtlSecsChecked expiresAt : UseCase K V (Option Nat)).Safe (timely stored)
      (fun _ ttl => ttl.isSome) () := by
  cases expiresAt with
  | none => rfl
  | some exp =>
      refine ⟨trivial, fun (later : Int) _ promised => ?_⟩
      have range := fits exp rfl
      have reading : 0 ≤ later ∧ IsI64 later := promised
      have within : IsI64 (exp - later) := by
        simp only [isExpired_some, decide_eq_false_iff_not] at live
        unfold IsI64 at range reading ⊢
        omega
      show Proc.Safe _ _ _ (if IsI64 (exp - later) then _ else _)
      rw [if_pos within]
      rfl

theorem cacheTtlSecsChecked_upto (expiresAt : Option Int) :
    (cacheTtlSecsChecked expiresAt : UseCase K V (Option Nat)).Upto (cacheTtlSecs expiresAt) := by
  cases expiresAt with
  | none => rfl
  | some exp =>
      refine ⟨_, rfl, fun (now : Int) => ?_⟩
      show Proc.Upto (if IsI64 (exp - now) then .ret (some (remainingTtl exp now)) else .ret none)
        (.ret (remainingTtl exp now))
      split
      · rfl
      · trivial

/-- A cache fill where an overflow in `cache_ttl_secs` panics: `none`. -/
def fillChecked (expiresAt : Option Int) (fill : Nat → UseCase K V Unit) :
    UseCase K V (Option Unit) := do
  match ← cacheTtlSecsChecked expiresAt with
  | none => return none
  | some ttl => some <$> fill ttl

theorem fillChecked_upto (expiresAt : Option Int) (fill : Nat → UseCase K V Unit) :
    (fillChecked expiresAt fill).Upto (cacheTtlSecs expiresAt >>= fill) := by
  refine Proc.upto_bind (cacheTtlSecsChecked_upto expiresAt) ?_ ?_
  · rfl
  · exact fun ttl => Proc.upto_some (fill ttl)

/-- What is filled in is an entity that was live at one reading, and then nothing panics. -/
theorem fillChecked_safe {stored : V → Option Int} {expiresAt : Option Int} {now : Int}
    (fill : Nat → UseCase K V Unit) (fits : ∀ exp, expiresAt = some exp → IsI64 exp)
    (start : 0 ≤ now) (live : isExpired expiresAt now = false) :
    (fillChecked expiresAt fill).Safe (timely stored) (fun _ filled => filled.isSome) () := by
  have done : ∀ program : UseCase K V Unit,
      (some <$> program).Safe (timely stored) (fun _ filled => filled.isSome) () := by
    intro program
    induction program with
    | ret value => rfl
    | call op next ih => exact ⟨trivial, fun reply _ _ => ih reply⟩
  apply Proc.safe_bind _ (fun _ ttl => ttl.isSome) _ _ _ _
    (cacheTtlSecsChecked_safe fits start live)
  intro _ ttl given
  cases ttl with
  | none => cases given
  | some ttl => exact done (fill ttl)

end UseCase

namespace Sequential

open Environment (Entity)

/-- What may come between two calls: other calls, and what a recorder adds to a counter. -/
inductive Between (K T C : Type)
  | call (time : T) (call : C)
  | counted (key : K) (n : Nat)

/-- What one call, by its reading of the clock, may do to the repository. -/
inductive Effect {K V : Type} [DecidableEq K] (entity : Entity K V) (expiresAt : V → Option Int)
    (lasting : V → Prop) (now : Int) (deletes creates : K → Prop) (before after : K → Option V) :
    Prop
  | nothing (same : after = before)
  | created (value : V) (free : before (entity.key value) = none)
      (creates : creates (entity.key value))
      (changed : after = Function.update before (entity.key value) (some value))
  | counted (key : K) (value : V) (n : Nat) (stored : before key = some value)
      (changed : after = Function.update before key (some (entity.bump n value)))
  | purged (key : K) (value : V) (stored : before key = some value)
      (expired : isExpired (expiresAt value) now = true)
      (changed : after = Function.update before key none)
  | taken (key : K) (value : V) (stored : before key = some value) (single : ¬ lasting value)
      (changed : after = Function.update before key none)
  | deleted (key : K) (deletes : deletes key) (changed : after = Function.update before key none)

/-- A service as it is for its stored entities. -/
structure Keeper (K V T C α σ : Type) [DecidableEq K] where
  entity : Entity K V
  reading : T → Int
  runCall : T → C → World K V σ → α × World K V σ
  expiresAt : V → Option Int
  lasting : V → Prop
  deletes : C → K → Prop
  creates : α → K → Prop
  bump_expiresAt : ∀ n value, expiresAt (entity.bump n value) = expiresAt value
  bump_lasting : ∀ n value, lasting (entity.bump n value) ↔ lasting value
  effect : ∀ time call world, Effect entity expiresAt lasting (reading time) (deletes call)
    (creates (runCall time call world).1) world.repo (runCall time call world).2.repo

namespace Keeper

variable {K V T C α σ : Type} [DecidableEq K] (keeper : Keeper K V T C α σ)

def turn (world : World K V σ) : Between K T C → World K V σ
  | .call time call => (keeper.runCall time call world).2
  | .counted key n => world.incrementBy keeper.entity key n

def after (world : World K V σ) (between : List (Between K T C)) : World K V σ :=
  between.foldl keeper.turn world

/-- Every call of the sequence takes place by this reading of the clock, and is not a deletion
of the key. -/
def Undeleted (key : K) (now : Int) : List (Between K T C) → Prop
  | [] => True
  | .call time call :: between =>
      keeper.reading time ≤ now ∧ ¬ keeper.deletes call key ∧ Undeleted key now between
  | .counted _ _ :: between => Undeleted key now between

def Uncreated (key : K) : World K V σ → List (Between K T C) → Prop
  | _, [] => True
  | world, .call time call :: between =>
      ¬ keeper.creates (keeper.runCall time call world).1 key ∧
        Uncreated key (keeper.runCall time call world).2 between
  | world, .counted other n :: between =>
      Uncreated key (world.incrementBy keeper.entity other n) between

def Keeps (value : V) (world : World K V σ) : Prop :=
  ∃ n, world.repo (keeper.entity.key value) = some (keeper.entity.bump n value)

section Keeps

variable {keeper} {value : V} {world : World K V σ}

/-- A call leaves the entity or removes it, and it removes a live entity only to delete it. -/
theorem Keeps.runCall (keeps : keeper.Keeps value world) (time : T) (call : C) :
    keeper.Keeps value (keeper.runCall time call world).2 ∨
      (keeper.runCall time call world).2.repo (keeper.entity.key value) = none ∧
        (keeper.lasting value → isExpired (keeper.expiresAt value) (keeper.reading time) = false →
          keeper.deletes call (keeper.entity.key value)) := by
  obtain ⟨m, present⟩ := keeps
  cases keeper.effect time call world with
  | nothing same => exact .inl ⟨m, by rw [same, present]⟩
  | created other free creates changed =>
      have distinct : keeper.entity.key value ≠ keeper.entity.key other := by
        intro same
        rw [same, free] at present
        cases present
      exact .inl ⟨m, by rw [changed, Function.update_of_ne distinct, present]⟩
  | counted key other n stored changed =>
      by_cases same : keeper.entity.key value = key
      · rw [same, stored] at present
        cases present
        refine .inl ⟨m + n, ?_⟩
        rw [changed, same, Function.update_self, keeper.entity.bump_bump]
      · exact .inl ⟨m, by rw [changed, Function.update_of_ne same, present]⟩
  | purged key other stored expired changed =>
      by_cases same : keeper.entity.key value = key
      · rw [same, stored] at present
        cases present
        refine .inr ⟨by rw [changed, same, Function.update_self], fun _ live => ?_⟩
        rw [keeper.bump_expiresAt, live] at expired
        cases expired
      · exact .inl ⟨m, by rw [changed, Function.update_of_ne same, present]⟩
  | taken key other stored single changed =>
      by_cases same : keeper.entity.key value = key
      · rw [same, stored] at present
        cases present
        refine .inr ⟨by rw [changed, same, Function.update_self], fun lasting _ => ?_⟩
        exact absurd ((keeper.bump_lasting m value).mpr lasting) single
      · exact .inl ⟨m, by rw [changed, Function.update_of_ne same, present]⟩
  | deleted key deletes changed =>
      by_cases same : keeper.entity.key value = key
      · refine .inr ⟨by rw [changed, same, Function.update_self], fun _ _ => ?_⟩
        exact same ▸ deletes
      · exact .inl ⟨m, by rw [changed, Function.update_of_ne same, present]⟩

theorem gone_call {key : K} {time : T} {call : C} (gone : world.repo key = none)
    (fresh : ¬ keeper.creates (keeper.runCall time call world).1 key) :
    (keeper.runCall time call world).2.repo key = none := by
  have stays : ∀ {other : K} {value : V} {left : Option V}, world.repo other = some value →
      Function.update world.repo other left key = none := by
    intro other value left stored
    have distinct : key ≠ other := by
      intro same
      rw [← same, gone] at stored
      cases stored
    rw [Function.update_of_ne distinct, gone]
  cases keeper.effect time call world with
  | nothing same => rw [same, gone]
  | created value free creates changed =>
      have distinct : key ≠ keeper.entity.key value := fun same => fresh (same ▸ creates)
      rw [changed, Function.update_of_ne distinct, gone]
  | counted other value n stored changed => rw [changed, stays stored]
  | purged other value stored expired changed => rw [changed, stays stored]
  | taken other value stored single changed => rw [changed, stays stored]
  | deleted other deletes changed =>
      rw [changed]
      by_cases same : key = other
      · rw [same, Function.update_self]
      · rw [Function.update_of_ne same, gone]

theorem Keeps.counted (keeps : keeper.Keeps value world) (key : K) (n : Nat) :
    keeper.Keeps value (world.incrementBy keeper.entity key n) := by
  obtain ⟨m, stored⟩ := keeps
  by_cases same : keeper.entity.key value = key
  · subst same
    refine ⟨m + n, ?_⟩
    simp only [World.incrementBy, World.setRepo, Function.update_self, stored, Option.map_some,
      keeper.entity.bump_bump]
  · refine ⟨m, ?_⟩
    simp only [World.incrementBy, World.setRepo, Function.update_of_ne same, stored]

/-- The calls of a run before the expiry leave an entity that none of them deletes. -/
theorem Keeps.after {now : Int} {between : List (Between K T C)}
    (keeps : keeper.Keeps value world) (lasting : keeper.lasting value)
    (live : isExpired (keeper.expiresAt value) now = false)
    (undeleted : keeper.Undeleted (keeper.entity.key value) now between) :
    keeper.Keeps value (keeper.after world between) := by
  induction between generalizing world with
  | nil => exact keeps
  | cons turn between ih =>
      cases turn with
      | counted key n => exact ih (keeps.counted key n) undeleted
      | call time call =>
          obtain ⟨before, spared, undeleted⟩ := undeleted
          apply ih _ undeleted
          have alive : isExpired (keeper.expiresAt value) (keeper.reading time) = false := by
            apply Bool.eq_false_iff.mpr
            intro expired
            rw [isExpired_mono before expired] at live
            cases live
          cases keeps.runCall time call with
          | inl kept => exact kept
          | inr removed => exact absurd (removed.2 lasting alive) spared

theorem keeps_or_gone {between : List (Between K T C)}
    (stored : keeper.Keeps value world ∨ world.repo (keeper.entity.key value) = none)
    (uncreated : keeper.Uncreated (keeper.entity.key value) world between) :
    keeper.Keeps value (keeper.after world between) ∨
      (keeper.after world between).repo (keeper.entity.key value) = none := by
  induction between generalizing world with
  | nil => exact stored
  | cons turn between ih =>
      cases turn with
      | counted key n =>
          refine ih ?_ uncreated
          cases stored with
          | inl keeps => exact .inl (keeps.counted key n)
          | inr gone =>
              apply Or.inr
              by_cases same : keeper.entity.key value = key
              · subst same
                simp only [turn, World.incrementBy, World.setRepo, Function.update_self, gone,
                  Option.map_none]
              · simp only [turn, World.incrementBy, World.setRepo, Function.update_of_ne same,
                  gone]
      | call time call =>
          obtain ⟨fresh, uncreated⟩ := uncreated
          refine ih ?_ uncreated
          cases stored with
          | inl keeps =>
              cases keeps.runCall time call with
              | inl kept => exact .inl kept
              | inr removed => exact .inr removed.1
          | inr gone => exact .inr (gone_call gone fresh)

end Keeps

end Keeper

end Sequential

end ActorServices
