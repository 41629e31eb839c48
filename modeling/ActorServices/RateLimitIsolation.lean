import Mathlib.Data.Finset.Card
import ActorServices.RateLimitSweep

set_option autoImplicit false

namespace ActorServices.RateLimit

/-- What concerns an address: its own checks, and every round of the sweeper. -/
def concerns (ip : IpAddr) : Action → Bool
  | .check call => call.ip == ip
  | .sweep _ => true

def answersTo (ip : IpAddr) (limiter : RateLimiter) (actions : List Action) :
    List (TokenBucket.Use ℚ) :=
  uses ip (actions.filterMap Action.call) (answers limiter actions)

def ended (limiter : RateLimiter) : List Action → RateLimiter
  | [] => limiter
  | .check call :: rest => ended (limiter.check call.ip call.now).2 rest
  | .sweep now :: rest => ended (limiter.sweep now) rest

/-- Two limiters that an address cannot tell apart. -/
structure Alike (ip : IpAddr) (first second : RateLimiter) : Prop where
  capacity : first.capacity = second.capacity
  rate : first.refillPerSec = second.refillPerSec
  bucket : first.buckets ip = second.buckets ip

section Isolation

variable {ip other : IpAddr} {first second limiter : RateLimiter} {now : ℚ}

/-- Both answer the address the same, and it still cannot tell them apart. -/
theorem Alike.check (alike : Alike ip first second) (now : ℚ) :
    (first.check ip now).1 = (second.check ip now).1 ∧
      Alike ip (first.check ip now).2 (second.check ip now).2 := by
  obtain ⟨capacity, rate, bucket⟩ := alike
  have used : first.bucket ip now = second.bucket ip now := by
    rw [RateLimiter.bucket, RateLimiter.bucket, bucket, capacity]
  unfold RateLimiter.check
  rw [rate]
  split
  · exact ⟨rfl, capacity, rate, bucket⟩
  · rw [used, capacity]
    refine ⟨rfl, rfl, rfl, ?_⟩
    dsimp only
    rw [Function.update_self, Function.update_self]

theorem Alike.apart (alike : Alike ip first second) (different : other ≠ ip) (now : ℚ) :
    Alike ip (first.check other now).2 second where
  capacity := check_capacity.trans alike.capacity
  rate := check_refillPerSec.trans alike.rate
  bucket := (check_other different.symm).trans alike.bucket

theorem Alike.sweep (alike : Alike ip first second) (now : ℚ) :
    Alike ip (first.sweep now) (second.sweep now) where
  capacity := alike.capacity
  rate := alike.rate
  bucket := by
    simp only [RateLimiter.sweep, alike.bucket]

theorem uses_cons (ip : IpAddr) (call : Call) (calls : List Call) (answer : Bool)
    (rest : List Bool) : uses ip (call :: calls) (answer :: rest) =
      if call.ip = ip then ⟨call.now, answer⟩ :: uses ip calls rest else uses ip calls rest := by
  unfold uses
  rw [List.zip_cons_cons, List.filter_cons]
  by_cases own : call.ip = ip
  · simp only [own, decide_true, if_true, List.map_cons]
  · simp only [own, decide_false, Bool.false_eq_true, if_false]

theorem answersTo_alike (alike : Alike ip first second) (actions : List Action) :
    answersTo ip first actions = answersTo ip second (actions.filter (concerns ip)) := by
  induction actions generalizing first second with
  | nil => rfl
  | cons action rest ih =>
      cases action with
      | sweep now =>
          have seen : concerns ip (.sweep now) = true := rfl
          rw [List.filter_cons_of_pos seen]
          exact ih (alike.sweep now)
      | check call =>
          by_cases own : call.ip = ip
          · have seen : concerns ip (.check call) = true := beq_iff_eq.mpr own
            rw [List.filter_cons_of_pos seen]
            obtain ⟨same, after⟩ := alike.check call.now
            have later := ih after
            unfold answersTo at later ⊢
            simp only [List.filterMap_cons, Action.call, answers, uses_cons, own, if_true]
            rw [same, later]
          · have unseen : ¬concerns ip (.check call) = true := fun seen => own (beq_iff_eq.mp seen)
            rw [List.filter_cons_of_neg unseen]
            have later := ih (alike.apart own call.now)
            unfold answersTo at later ⊢
            simp only [List.filterMap_cons, Action.call, answers, uses_cons, own, if_false]
            exact later

/-- However the calls of all addresses and the rounds of the sweeper are interleaved, and
whatever times they come at: each address is answered as if it were alone. -/
theorem isolated (ip : IpAddr) (limiter : RateLimiter) (actions : List Action) :
    answersTo ip limiter actions = answersTo ip limiter (actions.filter (concerns ip)) :=
  answersTo_alike ⟨rfl, rfl, rfl⟩ actions

end Isolation

section Memory

variable {ip : IpAddr} {limiter : RateLimiter} {now : ℚ}

/-- A bucket is there for a call of its address, made at the time that the bucket holds. -/
def Called (calls : List Call) (limiter : RateLimiter) : Prop :=
  ∀ ip bucket, limiter.buckets ip = some bucket → ⟨ip, bucket.last⟩ ∈ calls

theorem Called.check {calls : List Call} (called : Called calls limiter) (call : Call) :
    Called (calls ++ [call]) (limiter.check call.ip call.now).2 := by
  intro ip bucket present
  by_cases disabled : limiter.refillPerSec ≤ 0
  · rw [RateLimiter.check, if_pos disabled] at present
    exact List.mem_append_left _ (called ip bucket present)
  · by_cases own : ip = call.ip
    · subst own
      rw [check_own (not_le.mp disabled)] at present
      cases present
      have last := (Bucket.check_eq limiter.capacity limiter.refillPerSec
        (limiter.bucket call.ip call.now) call.now).2.1
      rw [last]
      exact List.mem_append_right _ (List.mem_singleton.mpr rfl)
    · rw [check_other own] at present
      exact List.mem_append_left _ (called ip bucket present)

theorem Called.ended {calls : List Call} (called : Called calls limiter) (actions : List Action) :
    Called (calls ++ actions.filterMap Action.call) (ended limiter actions) := by
  induction actions generalizing calls limiter with
  | nil => exact (List.append_nil calls).symm ▸ called
  | cons action rest ih =>
      cases action with
      | check call =>
          have later := ih (called.check call)
          rw [List.append_assoc] at later
          exact later
      | sweep now =>
          apply ih
          intro ip bucket present
          exact called ip bucket (Option.filter_eq_some_iff.mp present).1

theorem ended_append (limiter : RateLimiter) (front back : List Action) :
    ended limiter (front ++ back) = ended (ended limiter front) back := by
  induction front generalizing limiter with
  | nil => rfl
  | cons action front ih =>
      cases action with
      | check call => exact ih _
      | sweep now => exact ih _

/-- The calls that a round of the sweeper leaves a bucket for, and those after it. -/
def recent (now : ℚ) (front back : List Action) : List Call :=
  ((front.filterMap Action.call).filter fun call => now - call.now < idleEvict) ++
    back.filterMap Action.call

/-- After a round of the sweeper the map has no more buckets than there were calls since the
idle time before that round. -/
theorem buckets_bounded (rps burst : UInt32) (front back : List Action) (now : ℚ) :
    ∃ held : Finset IpAddr, (∀ ip, ip ∈ held ↔
        ((ended (new rps burst) (front ++ .sweep now :: back)).buckets ip).isSome) ∧
      held.card ≤ (recent now front back).length := by
  have none : Called [] (new rps burst) := by
    intro ip bucket present
    cases present
  have called : Called (front.filterMap Action.call) (ended (new rps burst) front) :=
    none.ended front
  have swept : Called ((front.filterMap Action.call).filter fun call => now - call.now < idleEvict)
      ((ended (new rps burst) front).sweep now) := by
    intro ip bucket present
    obtain ⟨before, idle⟩ := Option.filter_eq_some_iff.mp present
    refine List.mem_filter.mpr ⟨called ip bucket before, ?_⟩
    rw [decide_eq_true_eq] at idle ⊢
    exact lt_of_le_of_lt (le_max_left _ _) idle
  have kept : Called (recent now front back)
      (ended (new rps burst) (front ++ .sweep now :: back)) := by
    rw [ended_append]
    exact swept.ended back
  let callers := ((recent now front back).map Call.ip).toFinset
  refine ⟨callers.filter fun ip =>
    ((ended (new rps burst) (front ++ .sweep now :: back)).buckets ip).isSome, ?_, ?_⟩
  · intro ip
    rw [Finset.mem_filter]
    refine ⟨And.right, fun present => ⟨?_, present⟩⟩
    obtain ⟨bucket, found⟩ := Option.isSome_iff_exists.mp present
    exact List.mem_toFinset.mpr (List.mem_map.mpr ⟨_, kept ip bucket found, rfl⟩)
  · have few : callers.card ≤ (recent now front back).length := by
      have distinct := List.toFinset_card_le ((recent now front back).map Call.ip)
      rwa [List.length_map] at distinct
    exact (Finset.card_filter_le callers _).trans few

end Memory

end ActorServices.RateLimit
