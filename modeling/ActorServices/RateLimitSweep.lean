import ActorServices.RateLimit

set_option autoImplicit false

namespace ActorServices.RateLimit

open TokenBucket

inductive Action
  | check (call : Call)
  | sweep (now : ℚ)
  deriving DecidableEq, Repr

def Action.now : Action → ℚ
  | .check call => call.now
  | .sweep now => now

def Action.call : Action → Option Call
  | .check call => some call
  | .sweep _ => none

/-- The answers to the checks among sweeps. -/
def answers (limiter : RateLimiter) : List Action → List Bool
  | [] => []
  | .check call :: rest =>
      let checked := limiter.check call.ip call.now
      checked.1 :: answers checked.2 rest
  | .sweep now :: rest => answers (limiter.sweep now) rest

/-- Over actions in the order of time, every check is answered as without the sweeps. -/
def Preserving (rps burst : UInt32) : Prop :=
  ∀ actions : List Action, actions.Pairwise (fun first second => first.now ≤ second.now) →
    answers (new rps burst) actions = serve (new rps burst) (actions.filterMap Action.call)

/-- A bucket that is full at any later time. -/
def Idle (bucket : Bucket) (now : ℚ) : Prop :=
  0 ≤ bucket.tokens ∧ idleEvict ≤ now - bucket.last

/-- The limiter that is swept lacks only idle buckets. -/
structure Similar (swept plain : RateLimiter) (now : ℚ) : Prop where
  capacity : swept.capacity = plain.capacity
  rate : swept.refillPerSec = plain.refillPerSec
  tokens : ∀ ip bucket, plain.buckets ip = some bucket → 0 ≤ bucket.tokens
  buckets : ∀ ip, swept.buckets ip = plain.buckets ip ∨
    swept.buckets ip = none ∧ ∃ bucket, plain.buckets ip = some bucket ∧ Idle bucket now

section Sweep

variable {swept plain : RateLimiter} {now later : ℚ} {ip : IpAddr}

theorem Similar.mono (similar : Similar swept plain now) (forward : now ≤ later) :
    Similar swept plain later where
  capacity := similar.capacity
  rate := similar.rate
  tokens := similar.tokens
  buckets := by
    intro ip
    cases similar.buckets ip with
    | inl same => exact .inl same
    | inr evicted =>
        obtain ⟨none, bucket, present, tokens, idle⟩ := evicted
        exact .inr ⟨none, bucket, present, tokens, by linarith⟩

theorem Similar.sweep (similar : Similar swept plain now) :
    Similar (swept.sweep now) plain now where
  capacity := similar.capacity
  rate := similar.rate
  tokens := similar.tokens
  buckets := by
    intro ip
    cases similar.buckets ip with
    | inr evicted =>
        right
        refine ⟨?_, evicted.2⟩
        simp only [RateLimiter.sweep, evicted.1, Option.filter_none]
    | inl same =>
        simp only [RateLimiter.sweep, same]
        cases present : plain.buckets ip with
        | none => exact .inl rfl
        | some bucket =>
            by_cases recent : durationSince now bucket.last < idleEvict
            · left
              simp only [Option.filter_some, recent, decide_true, ↓reduceIte]
            · right
              have long : idleEvict ≤ max (now - bucket.last) 0 := not_lt.mp recent
              have idle : idleEvict ≤ now - bucket.last := by
                cases le_max_iff.mp long with
                | inl idle => exact idle
                | inr never => exact absurd never (by decide)
              refine ⟨?_, bucket, rfl, similar.tokens ip bucket present, idle⟩
              simp only [Option.filter_some, recent, decide_false, Bool.false_eq_true, ↓reduceIte]

/-- A check depends on the tokens that the bucket is refilled to. -/
theorem check_congr {capacity rate : ℚ} {first second : Bucket}
    (same : min (first.tokens + durationSince now first.last * rate) capacity =
      min (second.tokens + durationSince now second.last * rate) capacity) :
    first.check capacity rate now = second.check capacity rate now := by
  simp only [Bucket.check, same]

/-- An idle bucket has refilled, when the idle time suffices for the capacity. -/
theorem Idle.check_full {capacity rate : ℚ} {bucket : Bucket} (idle : Idle bucket now)
    (forward : 0 ≤ rate) (enough : capacity ≤ idleEvict * rate) :
    (⟨capacity, now⟩ : Bucket).check capacity rate now = bucket.check capacity rate now := by
  obtain ⟨tokens, long⟩ := idle
  have positive : (0 : ℚ) ≤ idleEvict := by decide
  apply check_congr
  rw [durationSince_forward le_rfl, sub_self, zero_mul, add_zero, min_self,
    durationSince_forward (by linarith)]
  have refill := mul_le_mul_of_nonneg_right long forward
  rw [min_eq_right (by linarith)]

/-- The two limiters use the bucket in the same way. -/
theorem Similar.used (similar : Similar swept plain now) (forward : 0 ≤ plain.refillPerSec)
    (enough : plain.capacity ≤ idleEvict * plain.refillPerSec) (ip : IpAddr) :
    (swept.bucket ip now).check swept.capacity swept.refillPerSec now =
      (plain.bucket ip now).check plain.capacity plain.refillPerSec now := by
  rw [similar.capacity, similar.rate]
  cases similar.buckets ip with
  | inl same => simp only [RateLimiter.bucket, same, similar.capacity]
  | inr evicted =>
      obtain ⟨none, bucket, present, idle⟩ := evicted
      simp only [RateLimiter.bucket, none, present, Option.getD_none, Option.getD_some,
        similar.capacity]
      exact idle.check_full forward enough

theorem Similar.check (similar : Similar swept plain now) (enabled : 0 < plain.refillPerSec)
    (full : 0 ≤ plain.capacity) (enough : plain.capacity ≤ idleEvict * plain.refillPerSec)
    (ip : IpAddr) :
    (swept.check ip now).1 = (plain.check ip now).1 ∧
      Similar (swept.check ip now).2 (plain.check ip now).2 now := by
  have sweptEnabled : 0 < swept.refillPerSec := by
    rw [similar.rate]
    exact enabled
  have used := similar.used enabled.le enough ip
  have ownSwept : (swept.check ip now).2.buckets ip = some _ := check_own sweptEnabled
  have ownPlain : (plain.check ip now).2.buckets ip = some _ := check_own enabled
  constructor
  · rw [check_enabled sweptEnabled, check_enabled enabled]
    have answer := congrArg Prod.fst used
    exact answer
  · constructor
    · rw [check_capacity, check_capacity, similar.capacity]
    · rw [check_refillPerSec, check_refillPerSec, similar.rate]
    · intro other bucket present
      by_cases own : other = ip
      · subst own
        rw [ownPlain] at present
        cases present
        apply check_nonneg full enabled.le
        unfold RateLimiter.bucket
        cases found : plain.buckets other with
        | none => exact full
        | some bucket => exact similar.tokens other bucket found
      · rw [check_other own] at present
        exact similar.tokens other bucket present
    · intro other
      by_cases own : other = ip
      · subst own
        left
        rw [ownSwept, ownPlain, used]
      · rw [check_other own, check_other own]
        exact similar.buckets other

/-- From similar limiters on, every check is answered the same. -/
theorem answers_similar (enabled : 0 < plain.refillPerSec) (full : 0 ≤ plain.capacity)
    (enough : plain.capacity ≤ idleEvict * plain.refillPerSec)
    (similar : Similar swept plain now) (actions : List Action)
    (ordered : actions.Pairwise fun first second => first.now ≤ second.now)
    (later : ∀ action ∈ actions, now ≤ action.now) :
    answers swept actions = serve plain (actions.filterMap Action.call) := by
  induction actions generalizing swept plain now with
  | nil => rfl
  | cons action rest ih =>
      obtain ⟨first, others⟩ := List.pairwise_cons.mp ordered
      have reached := similar.mono (later action List.mem_cons_self)
      cases action with
      | sweep time =>
          simp only [answers, List.filterMap_cons, Action.call]
          exact ih enabled full enough reached.sweep others first
      | check call =>
          obtain ⟨same, after⟩ := reached.check enabled full enough call.ip
          simp only [answers, List.filterMap_cons, Action.call, serve]
          rw [Action.now] at same after
          rw [same]
          congr 1
          apply ih _ _ _ after others first
          · rw [check_refillPerSec]
            exact enabled
          · rw [check_capacity]
            exact full
          · rw [check_capacity, check_refillPerSec]
            exact enough

end Sweep

section Drain

variable {limiter : RateLimiter} {now : ℚ} {ip : IpAddr}

/-- The tokens that a check of the address would find. -/
def available (limiter : RateLimiter) (ip : IpAddr) (now : ℚ) : ℚ :=
  min ((limiter.bucket ip now).tokens +
    durationSince now (limiter.bucket ip now).last * limiter.refillPerSec) limiter.capacity

theorem check_available (enabled : 0 < limiter.refillPerSec) :
    (limiter.check ip now).1 = decide (1 ≤ available limiter ip now) := by
  rw [check_enabled enabled]
  dsimp only [Bucket.check]
  by_cases enough : 1 ≤ available limiter ip now
  · rw [decide_eq_true enough]
    exact congrArg Prod.fst (if_pos enough)
  · rw [decide_eq_false enough]
    exact congrArg Prod.fst (if_neg enough)

theorem available_some {bucket : Bucket} (present : limiter.buckets ip = some bucket)
    (forward : bucket.last ≤ now) :
    available limiter ip now =
      min (bucket.tokens + (now - bucket.last) * limiter.refillPerSec) limiter.capacity := by
  rw [available, RateLimiter.bucket, present, Option.getD_some, durationSince_forward forward]

theorem available_none (absent : limiter.buckets ip = none) :
    available limiter ip now = limiter.capacity := by
  rw [available, RateLimiter.bucket, absent, Option.getD_none, durationSince_forward le_rfl,
    sub_self, zero_mul, add_zero, min_self]

theorem check_takes (enabled : 0 < limiter.refillPerSec) (enough : 1 ≤ available limiter ip now) :
    (limiter.check ip now).2.buckets ip = some ⟨available limiter ip now - 1, now⟩ := by
  rw [check_own enabled]
  exact congrArg some (congrArg Prod.snd (if_pos enough))

/-- As many checks at one time as there are tokens leave the rest. -/
theorem served_drain (enabled : 0 < limiter.refillPerSec) (count : Nat)
    (tokens : (count : ℚ) + 1 ≤ available limiter ip now) :
    (served limiter (List.replicate (count + 1) ⟨ip, now⟩)).buckets ip =
      some ⟨available limiter ip now - (count + 1), now⟩ := by
  induction count with
  | zero =>
      simp only [Nat.cast_zero, zero_add] at tokens ⊢
      exact check_takes enabled tokens
  | succ count ih =>
      rw [Nat.cast_succ] at tokens ⊢
      have before := ih (by linarith)
      obtain ⟨capacity, rate⟩ :=
        served_capacity limiter (List.replicate (count + 1) (⟨ip, now⟩ : Call))
      have active : 0 < (served limiter (List.replicate (count + 1) ⟨ip, now⟩)).refillPerSec := by
        rw [rate]
        exact enabled
      have most : available limiter ip now ≤ limiter.capacity := min_le_right _ _
      have left : available (served limiter (List.replicate (count + 1) ⟨ip, now⟩)) ip now =
          available limiter ip now - (count + 1) := by
        rw [available_some before le_rfl, sub_self, zero_mul, add_zero, capacity,
          min_eq_left (by linarith)]
      rw [List.replicate_succ', served_concat]
      have enough : 1 ≤
          available (served limiter (List.replicate (count + 1) ⟨ip, now⟩)) ip now := by
        rw [left]
        linarith
      have taken := check_takes active enough
      rw [taken, left, sub_sub]

/-- All the tokens there are, as a number of checks at one time. -/
theorem served_drained (enabled : 0 < limiter.refillPerSec) (count : Nat)
    (positive : 0 < count) (tokens : (count : ℚ) ≤ available limiter ip now) :
    (served limiter (List.replicate count ⟨ip, now⟩)).buckets ip =
      some ⟨available limiter ip now - count, now⟩ := by
  cases count with
  | zero => exact absurd positive (Nat.lt_irrefl 0)
  | succ count =>
      rw [Nat.cast_succ] at tokens ⊢
      exact served_drain enabled count tokens

/-- One check more finds what is left. -/
theorem serve_last (enabled : 0 < limiter.refillPerSec) (count : Nat) (positive : 0 < count)
    (tokens : (count : ℚ) ≤ available limiter ip now) :
    serve limiter (List.replicate count ⟨ip, now⟩ ++ [⟨ip, now⟩]) =
      serve limiter (List.replicate count ⟨ip, now⟩) ++
        [decide (1 ≤ available limiter ip now - count)] := by
  obtain ⟨capacity, rate⟩ := served_capacity limiter (List.replicate count (⟨ip, now⟩ : Call))
  have active : 0 < (served limiter (List.replicate count ⟨ip, now⟩)).refillPerSec := by
    rw [rate]
    exact enabled
  have most : available limiter ip now ≤ limiter.capacity := min_le_right _ _
  have nonneg : (0 : ℚ) ≤ count := Nat.cast_nonneg count
  have left := available_some (served_drained enabled count positive tokens) le_rfl
  rw [sub_self, zero_mul, add_zero, capacity, min_eq_left (by linarith)] at left
  rw [serve_append]
  simp only [serve]
  rw [check_available active, left]

end Drain

section Eviction

variable {rps burst : UInt32}

theorem answers_checks (limiter : RateLimiter) (calls : List Call) (rest : List Action) :
    answers limiter (calls.map .check ++ rest) =
      serve limiter calls ++ answers (served limiter calls) rest := by
  induction calls generalizing limiter with
  | nil => rfl
  | cons call calls ih =>
      simp only [List.map_cons, List.cons_append, answers, serve, ih]
      rfl

theorem answers_all_checks (limiter : RateLimiter) (calls : List Call) :
    answers limiter (calls.map .check) = serve limiter calls := by
  have both := answers_checks limiter calls []
  rw [List.append_nil] at both
  exact both.trans (List.append_nil _)

theorem filterMap_checks (calls : List Call) :
    (calls.map Action.check).filterMap Action.call = calls := by
  induction calls with
  | nil => rfl
  | cons call calls ih =>
      simp only [List.map_cons, List.filterMap_cons, Action.call, ih]

/-- A burst that empties a bucket. -/
def drain (burst : UInt32) (ip : IpAddr) : List Call := List.replicate burst.toNat ⟨ip, 0⟩

/-- As many calls as the bucket has refilled to in the idle time, and one more. -/
def drainAgain (rps : UInt32) (ip : IpAddr) : List Call :=
  List.replicate (600 * rps.toNat) ⟨ip, idleEvict⟩ ++ [⟨ip, idleEvict⟩]

/-- The two, with a sweep between them. -/
def drainSweep (rps burst : UInt32) (ip : IpAddr) : List Action :=
  (drain burst ip).map .check ++ .sweep idleEvict :: (drainAgain rps ip).map .check

theorem drainSweep_answers (limiter : RateLimiter) (rps burst : UInt32) (ip : IpAddr) :
    answers limiter (drainSweep rps burst ip) =
      serve limiter (drain burst ip) ++
        serve ((served limiter (drain burst ip)).sweep idleEvict) (drainAgain rps ip) := by
  rw [drainSweep, answers_checks, answers, answers_all_checks]

theorem drainSweep_calls (limiter : RateLimiter) (rps burst : UInt32) (ip : IpAddr) :
    serve limiter ((drainSweep rps burst ip).filterMap Action.call) =
      serve limiter (drain burst ip) ++
        serve (served limiter (drain burst ip)) (drainAgain rps ip) := by
  rw [drainSweep, List.filterMap_append, List.filterMap_cons, filterMap_checks, filterMap_checks,
    ← serve_append]
  rfl

theorem drainSweep_ordered (rps burst : UInt32) (ip : IpAddr) :
    (drainSweep rps burst ip).Pairwise fun first second => first.now ≤ second.now := by
  have after : (0 : ℚ) ≤ idleEvict := by decide
  have early : ∀ action ∈ (drain burst ip).map Action.check, action.now = 0 := by
    intro action among
    obtain ⟨call, inside, rfl⟩ := List.mem_map.mp among
    rw [List.eq_of_mem_replicate inside]
    rfl
  have late : ∀ action ∈ Action.sweep idleEvict :: (drainAgain rps ip).map .check,
      action.now = idleEvict := by
    intro action among
    cases List.mem_cons.mp among with
    | inl sweep => rw [sweep, Action.now]
    | inr check =>
        obtain ⟨call, inside, rfl⟩ := List.mem_map.mp check
        cases List.mem_append.mp inside with
        | inl inside =>
            rw [List.eq_of_mem_replicate inside]
            rfl
        | inr last =>
            rw [List.mem_singleton.mp last]
            rfl
  refine List.pairwise_append.mpr ⟨?_, ?_, ?_⟩
  · apply List.pairwise_of_forall_mem_list
    intro first firstIn second secondIn
    rw [early first firstIn, early second secondIn]
  · apply List.pairwise_of_forall_mem_list
    intro first firstIn second secondIn
    rw [late first firstIn, late second secondIn]
  · intro first firstIn second secondIn
    rw [early first firstIn, late second secondIn]
    exact after

theorem sweep_evicts {limiter : RateLimiter} {ip : IpAddr} {bucket : Bucket} {now : ℚ}
    (present : limiter.buckets ip = some bucket) (idle : idleEvict ≤ now - bucket.last) :
    (limiter.sweep now).buckets ip = none := by
  have long : ¬ durationSince now bucket.last < idleEvict := not_lt.mpr (le_max_of_le_left idle)
  simp only [RateLimiter.sweep, present, Option.filter_some, long, decide_false,
    Bool.false_eq_true, ↓reduceIte]

theorem drained_bucket (enabled : 0 < rps) (large : 600 * rps.toNat < burst.toNat)
    (ip : IpAddr) :
    capacityOf rps burst = burst.toNat ∧
      (served (new rps burst) (drain burst ip)).buckets ip = some ⟨0, 0⟩ := by
  have active : 0 < (new rps burst).refillPerSec := Nat.cast_pos.mpr (toNat_pos enabled)
  have present : burst ≠ 0 := by
    intro zero
    subst zero
    exact absurd large (Nat.not_lt_zero _)
  have capacity : capacityOf rps burst = burst.toNat := if_neg present
  have start : available (new rps burst) ip 0 = burst.toNat := by
    rw [available_none rfl]
    exact capacity
  have drained := served_drained active burst.toNat (by omega) start.ge
  rw [start, sub_self] at drained
  exact ⟨capacity, drained⟩

/-- The last call of that run is admitted with the sweep and not without it. -/
theorem drainSweep_differs (enabled : 0 < rps) (large : 600 * rps.toNat < burst.toNat)
    (ip : IpAddr) :
    answers (new rps burst) (drainSweep rps burst ip) ≠
      serve (new rps burst) ((drainSweep rps burst ip).filterMap Action.call) := by
  rw [drainSweep_answers, drainSweep_calls]
  obtain ⟨full, drained⟩ := drained_bucket enabled large ip
  obtain ⟨capacity, rate⟩ := served_capacity (new rps burst) (drain burst ip)
  have positive := toNat_pos enabled
  have active : 0 < (served (new rps burst) (drain burst ip)).refillPerSec := by
    rw [rate]
    exact Nat.cast_pos.mpr positive
  have count : 0 < 600 * rps.toNat := by omega
  have room : ((600 * rps.toNat : Nat) : ℚ) + 1 ≤ burst.toNat := by exact_mod_cast large
  have refill : available (served (new rps burst) (drain burst ip)) ip idleEvict =
      (600 * rps.toNat : Nat) := by
    have time : (0 : ℚ) + (idleEvict - 0) * rps.toNat = (600 * rps.toNat : Nat) := by
      rw [zero_add, sub_zero, Nat.cast_mul]
      rfl
    rw [available_some drained (by decide), rate, capacity]
    change min (0 + (idleEvict - 0) * (rps.toNat : ℚ)) (capacityOf rps burst) = _
    rw [time, full, min_eq_left (by linarith)]
  have fresh : available ((served (new rps burst) (drain burst ip)).sweep idleEvict) ip
      idleEvict = burst.toNat := by
    rw [available_none (sweep_evicts drained (by decide +kernel))]
    exact capacity.trans full
  have sweptActive : 0 <
      ((served (new rps burst) (drain burst ip)).sweep idleEvict).refillPerSec := active
  have without := serve_last active (600 * rps.toNat) count refill.ge
  have swept := serve_last sweptActive (600 * rps.toNat) count (by rw [fresh]; linarith)
  rw [refill, sub_self, decide_eq_false (by norm_num)] at without
  rw [fresh, decide_eq_true (by linarith)] at swept
  intro same
  have ends := List.append_cancel_left same
  rw [drainAgain, without, swept] at ends
  have last := (List.append_inj' ends rfl).2
  cases last

/-- The sweeps change no answer exactly when a bucket refills in the idle time. -/
theorem preserving_iff (enabled : 0 < rps) (burst : UInt32) :
    Preserving rps burst ↔ burst.toNat ≤ 600 * rps.toNat := by
  constructor
  · intro preserving
    by_contra large
    have same := preserving _ (drainSweep_ordered rps burst (.v4 1))
    exact drainSweep_differs enabled (not_le.mp large) (.v4 1) same
  · intro fits actions ordered
    have positive := toNat_pos enabled
    have active : 0 < (new rps burst).refillPerSec := Nat.cast_pos.mpr positive
    have enough : capacityOf rps burst ≤ idleEvict * rps.toNat := by
      have time : idleEvict * rps.toNat = ((600 * rps.toNat : Nat) : ℚ) := by
        rw [Nat.cast_mul]
        rfl
      rw [time]
      unfold capacityOf
      split
      · exact Nat.cast_le.mpr (by omega)
      · exact Nat.cast_le.mpr fits
    have fresh (now : ℚ) : Similar (new rps burst) (new rps burst) now :=
      ⟨rfl, rfl, fun ip bucket present => (nomatch present), fun ip => .inl rfl⟩
    cases actions with
    | nil => rfl
    | cons action rest =>
        apply answers_similar active (capacityOf_nonneg rps burst) enough (fresh action.now) _
          ordered
        intro other among
        cases List.mem_cons.mp among with
        | inl same => rw [same]
        | inr later => exact (List.pairwise_cons.mp ordered).1 other later

theorem preserving_one : (0 : UInt32) < 1 ∧ Preserving 1 600 :=
  ⟨by decide, (preserving_iff (by decide) 600).mpr (by decide)⟩

/-- A burst of 601 with one token a second. -/
theorem large_burst_not_preserving : ¬ Preserving 1 601 := by
  intro preserving
  have same := preserving _ (drainSweep_ordered 1 601 (.v4 1))
  exact drainSweep_differs (by decide) (by decide) (.v4 1) same

end Eviction

end ActorServices.RateLimit
