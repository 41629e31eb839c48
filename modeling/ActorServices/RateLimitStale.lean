import ActorServices.RateLimit
import ActorServices.Trace

set_option autoImplicit false

namespace ActorServices.RateLimit

open TokenBucket

/-- The calls of one address. `waiting` has what a call read from the clock until it gets
the lock; `samples` and `admitted` are of the calls that had the lock. -/
structure Calls where
  limiter : RateLimiter
  clock : ℚ
  waiting : Nat → Option ℚ
  samples : List ℚ
  admitted : Nat

inductive Event
  | sample (call : Nat) (now : ℚ)
  | lock (call : Nat)
  deriving DecidableEq, Repr

def Calls.start (rps burst : UInt32) (clock : ℚ) : Calls where
  limiter := new rps burst
  clock := clock
  waiting := fun _ => none
  samples := []
  admitted := 0

/-- The clock does not go back; the lock is given in any order. -/
def Calls.step (ip : IpAddr) (calls : Calls) : Event → Option Calls
  | .sample call now =>
      if calls.clock ≤ now ∧ calls.waiting call = none then
        some { calls with
          clock := now, waiting := Function.update calls.waiting call (some now) }
      else none
  | .lock call =>
      (calls.waiting call).map fun now =>
        let checked := calls.limiter.check ip now
        { calls with
          limiter := checked.2
          waiting := Function.update calls.waiting call none
          samples := calls.samples ++ [now]
          admitted := calls.admitted + if checked.1 then 1 else 0 }

/-- No more calls were admitted than the capacity and the time of the samples allow. -/
def WithinRate (rps burst : UInt32) (calls : Calls) : Prop :=
  ∀ earliest ∈ calls.samples, ∀ latest ∈ calls.samples,
    (∀ sample ∈ calls.samples, earliest ≤ sample ∧ sample ≤ latest) →
    (calls.admitted : ℚ) ≤ capacityOf rps burst + rps.toNat * (latest - earliest)

/-- A call that is about to refill the bucket finds it as the newest of the earlier calls
left it: no older sample came between. -/
def refillsOnce (ip : IpAddr) (calls : Calls) : Event → Bool
  | .sample _ _ => true
  | .lock call =>
      match calls.waiting call, calls.limiter.buckets ip with
      | some now, some bucket =>
          now ≤ bucket.last || calls.samples.all fun sample => sample ≤ bucket.last
      | _, _ => true

/-- The tokens left and those taken come from the capacity and from the time between two
samples. -/
def Spread (capacity rate : ℚ) (bucket : Bucket) (samples : List ℚ) (admitted : Nat) : Prop :=
  0 ≤ bucket.tokens ∧ bucket.last ∈ samples ∧
    ∃ first ∈ samples, ∃ top ∈ samples, (∀ sample ∈ samples, sample ≤ top) ∧
      bucket.tokens + admitted ≤ capacity + rate * (top - first)

/-- The same of the calls of the address. -/
def Accounted (ip : IpAddr) (rps burst : UInt32) (calls : Calls) : Prop :=
  calls.limiter.capacity = capacityOf rps burst ∧ calls.limiter.refillPerSec = rps.toNat ∧
    match calls.limiter.buckets ip with
    | none => calls.samples = [] ∧ calls.admitted = 0
    | some bucket =>
        Spread (capacityOf rps burst) rps.toNat bucket calls.samples calls.admitted

section Bucket

variable {capacity rate now : ℚ} {bucket : Bucket}

/-- What a check leaves and takes is what the bucket was refilled to. -/
theorem check_left (capacity rate : ℚ) (bucket : Bucket) (now : ℚ) :
    (bucket.check capacity rate now).2.tokens +
        ((if (bucket.check capacity rate now).1 then 1 else 0 : Nat) : ℚ) =
      min (bucket.tokens + durationSince now bucket.last * rate) capacity := by
  dsimp only [Bucket.check]
  split
  · simp
  · simp

theorem check_last (capacity rate : ℚ) (bucket : Bucket) (now : ℚ) :
    (bucket.check capacity rate now).2.last = now := by
  dsimp only [Bucket.check]
  split <;> rfl

theorem spread_new (full : 0 ≤ capacity) (forward : 0 ≤ rate) (now : ℚ) :
    Spread capacity rate ((⟨capacity, now⟩ : Bucket).check capacity rate now).2 [now]
      (if ((⟨capacity, now⟩ : Bucket).check capacity rate now).1 then 1 else 0) := by
  refine ⟨check_nonneg full forward full, ?_, now, by simp, now, by simp, by simp, ?_⟩
  · rw [check_last]
    exact List.mem_singleton_self now
  · rw [check_left, sub_self, mul_zero, add_zero]
    exact min_le_right _ _

/-- A check keeps the account when it refills no time that was refilled before. -/
theorem spread_check {samples : List ℚ} {admitted : Nat} (full : 0 ≤ capacity)
    (forward : 0 ≤ rate) (spread : Spread capacity rate bucket samples admitted)
    (once : bucket.last < now → ∀ sample ∈ samples, sample ≤ bucket.last) :
    Spread capacity rate (bucket.check capacity rate now).2 (samples ++ [now])
      (admitted + if (bucket.check capacity rate now).1 then 1 else 0) := by
  obtain ⟨tokens, last, first, firstIn, top, topIn, newest, account⟩ := spread
  have most : (bucket.check capacity rate now).2.tokens +
      ((if (bucket.check capacity rate now).1 then 1 else 0 : Nat) : ℚ) ≤
        bucket.tokens + durationSince now bucket.last * rate := by
    rw [check_left]
    exact min_le_left _ _
  have nowIn : now ∈ samples ++ [now] := List.mem_append_right _ (List.mem_singleton_self now)
  refine ⟨check_nonneg full forward tokens, by rw [check_last]; exact nowIn, first,
    List.mem_append_left _ firstIn, ?_⟩
  rw [Nat.cast_add]
  by_cases newer : bucket.last < now
  · -- the bucket stands at the newest sample, so this refill is of new time
    have same : bucket.last = top :=
      le_antisymm (newest bucket.last last) (once newer top topIn)
    rw [durationSince_forward newer.le, same] at most
    rw [same] at newer
    refine ⟨now, nowIn, ?_, by linarith⟩
    intro sample among
    cases List.mem_append.mp among with
    | inl earlier => exact (newest sample earlier).trans newer.le
    | inr own => exact (List.mem_singleton.mp own).le
  · have older : now ≤ bucket.last := not_lt.mp newer
    rw [durationSince_backward older, zero_mul, add_zero] at most
    refine ⟨top, List.mem_append_left _ topIn, ?_, by linarith⟩
    intro sample among
    cases List.mem_append.mp among with
    | inl earlier => exact newest sample earlier
    | inr own =>
        rw [List.mem_singleton.mp own]
        exact older.trans (newest bucket.last last)

end Bucket

section Steps

variable {ip : IpAddr} {rps burst : UInt32} {calls next : Calls} {event : Event}

theorem accounted_lock (enabled : 0 < rps) (accounted : Accounted ip rps burst calls) {call : Nat}
    {now : ℚ} (waits : calls.waiting call = some now)
    (once : refillsOnce ip calls (.lock call) = true)
    (taken : calls.step ip (.lock call) = some next) : Accounted ip rps burst next := by
  obtain ⟨capacity, rate, kept⟩ := accounted
  have full := capacityOf_nonneg rps burst
  have positive : (0 : ℚ) < rps.toNat := Nat.cast_pos.mpr (toNat_pos enabled)
  have active : 0 < calls.limiter.refillPerSec := by
    rw [rate]
    exact positive
  simp only [Calls.step, waits, Option.map_some, Option.some.injEq] at taken
  subst taken
  refine ⟨by rw [check_capacity, capacity], by rw [check_refillPerSec, rate], ?_⟩
  simp only [check_own active]
  rw [check_enabled active, capacity, rate]
  cases present : calls.limiter.buckets ip with
  | none =>
      rw [present] at kept
      have fresh : calls.limiter.bucket ip now = ⟨capacityOf rps burst, now⟩ := by
        simp only [RateLimiter.bucket, present, Option.getD_none, capacity]
      rw [fresh, kept.1, kept.2, Nat.zero_add]
      exact spread_new full positive.le now
  | some bucket =>
      rw [present] at kept
      have found : calls.limiter.bucket ip now = bucket := by
        simp only [RateLimiter.bucket, present, Option.getD_some]
      rw [found]
      apply spread_check full positive.le kept
      intro newer sample among
      simp only [refillsOnce, waits, present, Bool.or_eq_true, decide_eq_true_eq,
        List.all_eq_true] at once
      cases once with
      | inl older => exact absurd newer (not_lt.mpr older)
      | inr all => exact all sample among

theorem accounted_step (enabled : 0 < rps) (accounted : Accounted ip rps burst calls)
    (once : refillsOnce ip calls event = true) (taken : calls.step ip event = some next) :
    Accounted ip rps burst next := by
  cases event with
  | sample call now =>
      by_cases fine : calls.clock ≤ now ∧ calls.waiting call = none
      · simp only [Calls.step, fine, and_self, ↓reduceIte, Option.some.injEq] at taken
        subst taken
        exact accounted
      · simp only [Calls.step, fine, ↓reduceIte, reduceCtorEq] at taken
  | lock call =>
      cases waits : calls.waiting call with
      | none =>
          simp only [Calls.step, waits, Option.map_none, reduceCtorEq] at taken
      | some now => exact accounted_lock enabled accounted waits once taken

theorem Accounted.withinRate (accounted : Accounted ip rps burst calls) :
    WithinRate rps burst calls := by
  intro earliest earliestIn latest latestIn bounds
  obtain ⟨_, _, kept⟩ := accounted
  cases present : calls.limiter.buckets ip with
  | none =>
      rw [present] at kept
      rw [kept.1] at earliestIn
      exact absurd earliestIn List.not_mem_nil
  | some bucket =>
      rw [present] at kept
      obtain ⟨tokens, _, first, firstIn, top, topIn, _, account⟩ := kept
      have rate : (0 : ℚ) ≤ rps.toNat := Nat.cast_nonneg _
      have apart : top - first ≤ latest - earliest :=
        sub_le_sub (bounds top topIn).2 (bounds first firstIn).1
      have refill := mul_le_mul_of_nonneg_left apart rate
      linarith

end Steps

section Runs

variable {ip : IpAddr} {rps burst : UInt32} {clock : ℚ} {events : List Event} {calls : Calls}

/-- In every run in which no time is refilled twice, the calls admitted stay within the
rate. -/
theorem run_withinRate (enabled : 0 < rps)
    (once : Trace.Throughout (Calls.step ip) (fun calls event => refillsOnce ip calls event = true)
      (Calls.start rps burst clock) events)
    (ran : Trace.run (Calls.step ip) (Calls.start rps burst clock) events = some calls) :
    WithinRate rps burst calls := by
  have initial : Accounted ip rps burst (Calls.start rps burst clock) := ⟨rfl, rfl, rfl, rfl⟩
  have accounted : Accounted ip rps burst calls := by
    apply Trace.run_invariant (Accounted ip rps burst) _ initial once ran
    intro middle event next held fine taken
    exact accounted_step enabled held fine taken
  exact accounted.withinRate

/-- Two calls read the clock one second before three others; the lock alternates. -/
def alternating : List Event :=
  [.sample 0 0, .sample 1 0, .sample 2 1, .sample 3 1, .sample 4 1,
    .lock 2, .lock 0, .lock 3, .lock 1, .lock 4]

/-- One second is refilled twice: three calls are admitted where two may be. -/
theorem alternating_exceeds :
    ∃ calls, Trace.run (Calls.step (.v4 1)) (Calls.start 1 1 0) alternating = some calls ∧
      ¬ WithinRate 1 1 calls := by
  have ran : (Trace.run (Calls.step (.v4 1)) (Calls.start 1 1 0) alternating).map
      (fun calls => (calls.samples, calls.admitted)) = some ([1, 0, 1, 0, 1], 3) := by
    decide +kernel
  obtain ⟨calls, reached, same⟩ := Option.map_eq_some_iff.mp ran
  refine ⟨calls, reached, ?_⟩
  intro within
  have samples : calls.samples = [1, 0, 1, 0, 1] := congrArg Prod.fst same
  have admitted : calls.admitted = 3 := congrArg Prod.snd same
  have bound := within 0 (by simp [samples]) 1 (by simp [samples]) (by simp [samples])
  rw [admitted] at bound
  exact absurd bound (by decide +kernel)

/-- Two of the calls are overtaken and come last. -/
def overtaken : List Event :=
  [.sample 0 0, .sample 1 0, .sample 2 1, .sample 3 1, .sample 4 1,
    .lock 2, .lock 3, .lock 4, .lock 0, .lock 1]

theorem overtaken_within :
    ∃ calls, Trace.run (Calls.step (.v4 1)) (Calls.start 1 1 0) overtaken = some calls ∧
      WithinRate 1 1 calls := by
  have ran : (Trace.run (Calls.step (.v4 1)) (Calls.start 1 1 0) overtaken).isSome := by
    decide +kernel
  obtain ⟨calls, reached⟩ := Option.isSome_iff_exists.mp ran
  have once : Trace.Throughout (Calls.step (.v4 1))
      (fun calls event => refillsOnce (.v4 1) calls event = true) (Calls.start 1 1 0) overtaken :=
    Trace.throughout_of_check (by decide +kernel)
  exact ⟨calls, reached, run_withinRate (by decide) once reached⟩

end Runs

end ActorServices.RateLimit
