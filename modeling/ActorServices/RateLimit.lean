import Mathlib.Logic.Function.Basic
import ActorServices.TokenBucket

set_option autoImplicit false

/- `rate_limit.rs`, the same in both services: a token bucket for each address. Times,
in seconds, and tokens are exact. -/
namespace ActorServices.RateLimit

open TokenBucket

inductive IpAddr
  | v4 (bits : BitVec 32)
  | v6 (bits : BitVec 128)
  deriving DecidableEq, Repr

/-- Buckets untouched for at least this long are evicted. -/
def idleEvict : ℚ := 600

structure Bucket where
  tokens : ℚ
  last : ℚ
  deriving DecidableEq, Repr

structure RateLimiter where
  capacity : ℚ
  refillPerSec : ℚ
  buckets : IpAddr → Option Bucket

/-- `burst` tokens, or `rps` without a burst. -/
def capacityOf (rps burst : UInt32) : ℚ := if burst = 0 then rps.toNat else burst.toNat

def new (rps burst : UInt32) : RateLimiter where
  capacity := capacityOf rps burst
  refillPerSec := rps.toNat
  buckets := fun _ => none

/-- `duration_since`: not negative. -/
def durationSince (now earlier : ℚ) : ℚ := max (now - earlier) 0

/-- The use of a bucket under the lock. -/
def Bucket.check (capacity refillPerSec : ℚ) (bucket : Bucket) (now : ℚ) : Bool × Bucket :=
  let elapsed := durationSince now bucket.last
  let tokens := min (bucket.tokens + elapsed * refillPerSec) capacity
  if 1 ≤ tokens then (true, ⟨tokens - 1, now⟩) else (false, ⟨tokens, now⟩)

/-- `entry(ip).or_insert(..)`. -/
def RateLimiter.bucket (limiter : RateLimiter) (ip : IpAddr) (now : ℚ) : Bucket :=
  (limiter.buckets ip).getD ⟨limiter.capacity, now⟩

/-- Whether the request is allowed, given when it read the clock. -/
def RateLimiter.check (limiter : RateLimiter) (ip : IpAddr) (now : ℚ) : Bool × RateLimiter :=
  if limiter.refillPerSec ≤ 0 then (true, limiter)
  else
    let used := (limiter.bucket ip now).check limiter.capacity limiter.refillPerSec now
    (used.1, { limiter with buckets := Function.update limiter.buckets ip (some used.2) })

/-- One round of `sweep_idle`. -/
def RateLimiter.sweep (limiter : RateLimiter) (now : ℚ) : RateLimiter :=
  { limiter with
    buckets := fun ip =>
      (limiter.buckets ip).filter fun bucket => durationSince now bucket.last < idleEvict }

structure Call where
  ip : IpAddr
  now : ℚ
  deriving DecidableEq, Repr

/-- The answers to calls one after the other, and the limiter after them. -/
def serve (limiter : RateLimiter) : List Call → List Bool
  | [] => []
  | call :: calls =>
      let checked := limiter.check call.ip call.now
      checked.1 :: serve checked.2 calls

def served (limiter : RateLimiter) (calls : List Call) : RateLimiter :=
  calls.foldl (fun limiter call => (limiter.check call.ip call.now).2) limiter

/-- The uses of one bucket among answered calls. -/
def uses (ip : IpAddr) (calls : List Call) (answers : List Bool) : List (Use ℚ) :=
  ((calls.zip answers).filter fun entry => entry.1.ip = ip).map fun entry =>
    ⟨entry.1.now, entry.2⟩

section Bucket

variable {capacity refillPerSec now : ℚ} {bucket : Bucket}

theorem durationSince_forward {now earlier : ℚ} (forward : earlier ≤ now) :
    durationSince now earlier = now - earlier :=
  max_eq_left (sub_nonneg.mpr forward)

theorem durationSince_backward {now earlier : ℚ} (backward : now ≤ earlier) :
    durationSince now earlier = 0 :=
  max_eq_right (sub_nonpos.mpr backward)

/-- A check takes one of the tokens that the bucket was refilled to, if there is one. -/
theorem Bucket.check_eq (capacity refillPerSec : ℚ) (bucket : Bucket) (now : ℚ) :
    let tokens := refilled capacity refillPerSec bucket.tokens (durationSince now bucket.last)
    let used := bucket.check capacity refillPerSec now
    (used.1 = true ↔ 1 ≤ tokens) ∧ used.2.last = now ∧
      used.2.tokens = tokens - spent [(⟨now, used.1⟩ : Use ℚ)] := by
  dsimp only [Bucket.check, refilled]
  by_cases enough : 1 ≤ min (bucket.tokens + durationSince now bucket.last * refillPerSec) capacity
  · rw [if_pos enough]
    exact ⟨iff_of_true rfl enough, rfl, by simp [spent]⟩
  · rw [if_neg enough]
    exact ⟨iff_of_false Bool.false_ne_true enough, rfl, by simp [spent]⟩

theorem check_nonneg (full : 0 ≤ capacity) (forward : 0 ≤ refillPerSec)
    (tokens : 0 ≤ bucket.tokens) :
    0 ≤ (bucket.check capacity refillPerSec now).2.tokens := by
  dsimp only [Bucket.check]
  split
  · rename_i enough
    dsimp only
    linarith
  · have elapsed : 0 ≤ durationSince now bucket.last := le_max_right _ _
    exact le_min (by positivity) full

end Bucket

section Limiter

variable {limiter : RateLimiter} {ip other : IpAddr} {now : ℚ}

theorem check_enabled (enabled : 0 < limiter.refillPerSec) (ip : IpAddr) (now : ℚ) :
    limiter.check ip now =
      let used := (limiter.bucket ip now).check limiter.capacity limiter.refillPerSec now
      (used.1, { limiter with buckets := Function.update limiter.buckets ip (some used.2) }) :=
  if_neg (not_le.mpr enabled)

@[simp] theorem check_capacity : (limiter.check ip now).2.capacity = limiter.capacity := by
  unfold RateLimiter.check
  split <;> rfl

@[simp] theorem check_refillPerSec :
    (limiter.check ip now).2.refillPerSec = limiter.refillPerSec := by
  unfold RateLimiter.check
  split <;> rfl

/-- The other addresses keep their buckets. -/
theorem check_other (different : other ≠ ip) :
    (limiter.check ip now).2.buckets other = limiter.buckets other := by
  unfold RateLimiter.check
  split
  · rfl
  · exact Function.update_of_ne different _ _

theorem check_own (enabled : 0 < limiter.refillPerSec) :
    (limiter.check ip now).2.buckets ip =
      some ((limiter.bucket ip now).check limiter.capacity limiter.refillPerSec now).2 := by
  rw [check_enabled enabled]
  exact Function.update_self _ _ _

end Limiter

section Serve

variable {limiter : RateLimiter} {front back : List Call}

theorem serve_length (limiter : RateLimiter) (calls : List Call) :
    (serve limiter calls).length = calls.length := by
  induction calls generalizing limiter with
  | nil => rfl
  | cons call calls ih => simp only [serve, List.length_cons, ih]

theorem serve_append (limiter : RateLimiter) (front back : List Call) :
    serve limiter (front ++ back) = serve limiter front ++ serve (served limiter front) back := by
  induction front generalizing limiter with
  | nil => rfl
  | cons call front ih =>
      simp only [List.cons_append, serve, ih]
      rfl

theorem served_concat (limiter : RateLimiter) (calls : List Call) (call : Call) :
    served limiter (calls ++ [call]) = ((served limiter calls).check call.ip call.now).2 := by
  simp only [served, List.foldl_append, List.foldl_cons, List.foldl_nil]

/-- One more call is one more use of its own bucket. -/
theorem uses_concat (ip : IpAddr) (limiter : RateLimiter) (calls : List Call) (call : Call) :
    uses ip (calls ++ [call]) (serve limiter (calls ++ [call])) =
      uses ip calls (serve limiter calls) ++
        if call.ip = ip then
          [⟨call.now, ((served limiter calls).check call.ip call.now).1⟩]
        else [] := by
  have same := serve_length limiter calls
  by_cases own : call.ip = ip
  · rw [if_pos own, serve_append]
    simp only [uses, serve, List.zip_append same.symm, List.filter_append, List.map_append,
      List.zip_cons_cons, List.zip_nil_right, List.filter_cons, own, decide_true, ↓reduceIte,
      List.filter_nil, List.map_cons, List.map_nil]
  · rw [if_neg own, serve_append]
    simp only [uses, serve, List.zip_append same.symm, List.filter_append, List.map_append,
      List.zip_cons_cons, List.zip_nil_right, List.filter_cons, own, decide_false,
      Bool.false_eq_true, ↓reduceIte, List.filter_nil, List.map_nil]

theorem served_capacity (limiter : RateLimiter) (calls : List Call) :
    (served limiter calls).capacity = limiter.capacity ∧
      (served limiter calls).refillPerSec = limiter.refillPerSec := by
  induction calls using List.reverseRecOn with
  | nil => exact ⟨rfl, rfl⟩
  | append_singleton calls call ih =>
      rw [served_concat, check_capacity, check_refillPerSec]
      exact ih

end Serve

section Greedy

variable {limiter : RateLimiter} {ip : IpAddr} {now : ℚ} {past : List (Use ℚ)}

/-- The bucket of the address is what its past leaves. -/
def Tracks (limiter : RateLimiter) (ip : IpAddr) (past : List (Use ℚ)) (now : ℚ) : Prop :=
  match limiter.buckets ip with
  | none => past = []
  | some bucket => bucket.last ≤ now ∧
      Balance limiter.capacity limiter.refillPerSec past bucket.last bucket.tokens

theorem Tracks.mono (tracks : Tracks limiter ip past now) {later : ℚ} (forward : now ≤ later) :
    Tracks limiter ip past later := by
  unfold Tracks at tracks ⊢
  cases present : limiter.buckets ip with
  | none =>
      rw [present] at tracks
      exact tracks
  | some bucket =>
      rw [present] at tracks
      exact ⟨tracks.1.trans forward, tracks.2⟩

/-- What a check finds in the bucket, new or refilled. -/
theorem Tracks.refilled (tracks : Tracks limiter ip past now) :
    Refilled limiter.capacity limiter.refillPerSec past now
      (refilled limiter.capacity limiter.refillPerSec (limiter.bucket ip now).tokens
        (durationSince now (limiter.bucket ip now).last)) := by
  unfold Tracks at tracks
  unfold RateLimiter.bucket
  cases present : limiter.buckets ip with
  | none =>
      rw [present] at tracks
      subst tracks
      have full : TokenBucket.refilled limiter.capacity limiter.refillPerSec limiter.capacity
          (durationSince now now) = limiter.capacity := by
        rw [TokenBucket.refilled, durationSince_forward le_rfl, sub_self, zero_mul, add_zero,
          min_self]
      rw [Option.getD_none, full]
      exact Refilled.full
  | some bucket =>
      rw [present] at tracks
      rw [Option.getD_some, durationSince_forward tracks.1]
      exact tracks.2.wait now

/-- A check adds itself to the past of its address. -/
theorem Tracks.check (enabled : 0 < limiter.refillPerSec)
    (tracks : Tracks limiter ip past now) :
    Tracks (limiter.check ip now).2 ip (past ++ [⟨now, (limiter.check ip now).1⟩]) now := by
  obtain ⟨_, last, tokens⟩ :=
    Bucket.check_eq limiter.capacity limiter.refillPerSec (limiter.bucket ip now) now
  have left := tracks.refilled.use (limiter.check ip now).1
  rw [Tracks, check_own enabled]
  dsimp only
  rw [check_capacity, check_refillPerSec, last, tokens]
  rw [check_enabled enabled] at left ⊢
  exact ⟨le_rfl, left⟩

theorem Tracks.check_other {other : IpAddr} (different : other ≠ ip)
    (tracks : Tracks limiter other past now) :
    Tracks (limiter.check ip now).2 other past now := by
  rw [Tracks, RateLimit.check_other different, check_capacity, check_refillPerSec]
  exact tracks

/-- A check decides as the greedy bucket does. -/
theorem Tracks.greedy (enabled : 0 < limiter.refillPerSec) (enough : 1 ≤ limiter.capacity)
    (tracks : Tracks limiter ip past now)
    (greedy : Greedy limiter.capacity limiter.refillPerSec past) :
    Greedy limiter.capacity limiter.refillPerSec
      (past ++ [⟨now, (limiter.check ip now).1⟩]) := by
  obtain ⟨decided, _, _⟩ :=
    Bucket.check_eq limiter.capacity limiter.refillPerSec (limiter.bucket ip now) now
  apply greedy.append enough tracks.refilled
  rw [check_enabled enabled]
  exact decided

end Greedy

section Run

variable {rps burst : UInt32}

theorem toNat_pos (enabled : 0 < rps) : 0 < rps.toNat := UInt32.lt_iff_toNat_lt.mp enabled

theorem capacityOf_nonneg (rps burst : UInt32) : 0 ≤ capacityOf rps burst := by
  unfold capacityOf
  split
  · exact Nat.cast_nonneg _
  · exact Nat.cast_nonneg _

theorem one_le_capacityOf (burst : UInt32) (enabled : 0 < rps) : 1 ≤ capacityOf rps burst := by
  unfold capacityOf
  split
  · exact_mod_cast toNat_pos enabled
  · rename_i present
    have positive : 0 < burst.toNat := by
      rw [Nat.pos_iff_ne_zero]
      intro zero
      exact present (UInt32.toNat_inj.mp zero)
    exact_mod_cast positive

/-- The answers so far are greedy for every address, and the buckets are what they leave. -/
theorem serve_tracks (enabled : 0 < rps) (calls : List Call)
    (ordered : calls.Pairwise fun first second => first.now ≤ second.now) (ip : IpAddr)
    (now : ℚ) (reached : ∀ call ∈ calls, call.now ≤ now) :
    Tracks (served (new rps burst) calls) ip (uses ip calls (serve (new rps burst) calls)) now ∧
      Greedy (capacityOf rps burst) rps.toNat
        (uses ip calls (serve (new rps burst) calls)) := by
  induction calls using List.reverseRecOn generalizing now with
  | nil => exact ⟨rfl, fun index use there => absurd there (by simp [uses])⟩
  | append_singleton calls call ih =>
      obtain ⟨before, _, earlier⟩ := List.pairwise_append.mp ordered
      have callBefore : call.now ≤ now := reached call (by simp)
      obtain ⟨tracks, greedy⟩ := ih before call.now
        (fun other among => earlier other among call (List.mem_singleton_self call))
      obtain ⟨capacity, rate⟩ := served_capacity (new rps burst) calls
      rw [served_concat, uses_concat]
      by_cases own : call.ip = ip
      · subst own
        have active : 0 < (served (new rps burst) calls).refillPerSec := by
          rw [rate]
          exact Nat.cast_pos.mpr (toNat_pos enabled)
        have enough : 1 ≤ (served (new rps burst) calls).capacity := by
          rw [capacity]
          exact one_le_capacityOf burst enabled
        have decided := tracks.greedy active enough (by rw [capacity, rate]; exact greedy)
        rw [capacity, rate] at decided
        rw [if_pos rfl]
        exact ⟨(tracks.check active).mono callBefore, decided⟩
      · rw [if_neg own, List.append_nil]
        exact ⟨(tracks.check_other (Ne.symm own)).mono callBefore, greedy⟩

/-- The uses of an address are its calls, in order. -/
theorem uses_times (ip : IpAddr) (calls : List Call) (limiter : RateLimiter) :
    (uses ip calls (serve limiter calls)).map Use.time =
      (calls.filter fun call => call.ip = ip).map Call.now := by
  induction calls using List.reverseRecOn with
  | nil => rfl
  | append_singleton calls call ih =>
      rw [uses_concat, List.map_append, ih, List.filter_append, List.map_append]
      by_cases own : call.ip = ip
      · simp [own]
      · simp [own]

/-- Over calls in the order of time the answers to an address are those of the greedy
bucket, whatever the other addresses do. -/
theorem check_greedy (enabled : 0 < rps) (burst : UInt32) (calls : List Call)
    (ordered : calls.Pairwise fun first second => first.now ≤ second.now) (ip : IpAddr) :
    (uses ip calls (serve (new rps burst) calls)).map Use.time =
        (calls.filter fun call => call.ip = ip).map Call.now ∧
      ∀ index use, (uses ip calls (serve (new rps burst) calls))[index]? = some use →
        (use.taken = true ↔
          ∀ start first, start ≤ index →
            (uses ip calls (serve (new rps burst) calls))[start]? = some first →
            (spent (((uses ip calls (serve (new rps burst) calls)).take index).drop start) : ℚ) +
              1 ≤ capacityOf rps burst + rps.toNat * (use.time - first.time)) := by
  refine ⟨uses_times ip calls _, ?_⟩
  cases calls.eq_nil_or_concat with
  | inl empty =>
      subst empty
      intro index use there
      exact absurd there (by simp [uses])
  | inr concat =>
      obtain ⟨front, call, rfl⟩ := concat
      obtain ⟨_, _, earlier⟩ := List.pairwise_append.mp (List.concat_eq_append ▸ ordered)
      apply (serve_tracks enabled (front.concat call) ordered ip call.now _).2
      intro other among
      rw [List.concat_eq_append] at among
      cases List.mem_append.mp among with
      | inl before => exact earlier other before call (List.mem_singleton_self call)
      | inr last =>
          rw [List.mem_singleton.mp last]

/-- Two calls of one address within a burst, one that finds the bucket empty, and one of
another address. -/
def burstCalls : List Call :=
  [⟨.v4 1, 0⟩, ⟨.v4 1, 1 / 4⟩, ⟨.v4 1, 1 / 2⟩, ⟨.v4 2, 1 / 2⟩, ⟨.v4 1, 3 / 2⟩]

theorem burstCalls_greedy :
    serve (new 1 2) burstCalls = [true, true, false, true, true] ∧
      (uses (.v4 1) burstCalls (serve (new 1 2) burstCalls)).map Use.time =
        (burstCalls.filter fun call => call.ip = .v4 1).map Call.now ∧
      ∀ index use, (uses (.v4 1) burstCalls (serve (new 1 2) burstCalls))[index]? = some use →
        (use.taken = true ↔
          ∀ start first, start ≤ index →
            (uses (.v4 1) burstCalls (serve (new 1 2) burstCalls))[start]? = some first →
            (spent (((uses (.v4 1) burstCalls
              (serve (new 1 2) burstCalls)).take index).drop start) : ℚ) + 1 ≤
                capacityOf 1 2 + (1 : UInt32).toNat * (use.time - first.time)) :=
  ⟨by decide +kernel, check_greedy (by decide) 2 burstCalls (by decide +kernel) (.v4 1)⟩

end Run

end ActorServices.RateLimit
