import Mathlib.Logic.Function.Basic

set_option autoImplicit false

namespace ActorServices

/-- An asynchronous function as the sequence of its awaits. Each `call` is one
atomic operation of the surroundings; the pure code up to the next await is the
continuation. -/
inductive Proc (ι : Type) (ρ : ι → Type) (α : Type) : Type where
  | ret (value : α)
  | call (op : ι) (next : ρ op → Proc ι ρ α)

/-- What a family of programs may ask for, and what the surroundings promise in
return, both in terms of what the calling program remembers. -/
structure Contract (ι : Type) (ρ : ι → Type) (μ : Type) where
  allows : μ → ι → Prop
  replies : μ → (op : ι) → ρ op → μ → Prop

namespace Proc

variable {ι : Type} {ρ : ι → Type} {α β μ σ : Type}

def bind (first : Proc ι ρ α) (next : α → Proc ι ρ β) : Proc ι ρ β :=
  match first with
  | .ret value => next value
  | .call op rest => .call op (fun reply => (rest reply).bind next)

instance : Monad (Proc ι ρ) where
  pure := .ret
  bind := bind

@[simp] theorem pure_eq (value : α) : (pure value : Proc ι ρ α) = .ret value := rfl

@[simp] theorem ret_bind (value : α) (next : α → Proc ι ρ β) :
    (Proc.ret value >>= next : Proc ι ρ β) = next value := rfl

@[simp] theorem call_bind (op : ι) (rest : ρ op → Proc ι ρ α) (next : α → Proc ι ρ β) :
    (Proc.call op rest >>= next : Proc ι ρ β) = .call op (fun reply => rest reply >>= next) := rfl

/-- The program alone with surroundings that answer every await at once. -/
def run (handle : σ → (op : ι) → ρ op × σ) : Proc ι ρ α → σ → α × σ
  | .ret value, state => (value, state)
  | .call op next, state =>
      run handle (next (handle state op).1) (handle state op).2

@[simp] theorem run_ret (handle : σ → (op : ι) → ρ op × σ) (value : α) (state : σ) :
    run handle (.ret value) state = (value, state) := rfl

@[simp] theorem run_call (handle : σ → (op : ι) → ρ op × σ) (op : ι)
    (next : ρ op → Proc ι ρ α) (state : σ) :
    run handle (.call op next) state =
      run handle (next (handle state op).1) (handle state op).2 := rfl

theorem run_bind (handle : σ → (op : ι) → ρ op × σ) (first : Proc ι ρ α)
    (next : α → Proc ι ρ β) (state : σ) :
    run handle (first >>= next) state =
      run handle (next (run handle first state).1) (run handle first state).2 := by
  induction first generalizing state with
  | ret value => rfl
  | call op rest ih => exact ih (handle state op).1 (handle state op).2

theorem run_map (handle : σ → (op : ι) → ρ op × σ) (f : α → β) (first : Proc ι ρ α) (state : σ) :
    run handle (f <$> first) state =
      (f (run handle first state).1, (run handle first state).2) :=
  run_bind handle first (fun value => .ret (f value)) state

theorem map_eq_ret {f : α → β} {program : Proc ι ρ α} {value : β}
    (returns : f <$> program = .ret value) :
    ∃ result, program = .ret result ∧ f result = value := by
  cases program with
  | ret result => exact ⟨result, rfl, Proc.ret.inj returns⟩
  | call op next => cases returns

/-- The program with every await replaced by a program that does the same. -/
def expand {κ : Type} {θ : κ → Type} (implement : (op : ι) → Proc κ θ (ρ op)) :
    Proc ι ρ α → Proc κ θ α
  | .ret value => .ret value
  | .call op next => implement op >>= fun reply => (next reply).expand implement

@[simp] theorem expand_ret {κ : Type} {θ : κ → Type} (implement : (op : ι) → Proc κ θ (ρ op))
    (value : α) : (Proc.ret value).expand implement = .ret value := rfl

@[simp] theorem expand_call {κ : Type} {θ : κ → Type} (implement : (op : ι) → Proc κ θ (ρ op))
    (op : ι) (next : ρ op → Proc ι ρ α) :
    (Proc.call op next).expand implement =
      implement op >>= fun reply => (next reply).expand implement := rfl

/-- The program asks for such operations only. -/
def Only (asks : ι → Prop) : Proc ι ρ α → Prop
  | .ret _ => True
  | .call op next => asks op ∧ ∀ reply, (next reply).Only asks

theorem Only.mono {asks asks' : ι → Prop} (keeps : ∀ op, asks op → asks' op)
    {program : Proc ι ρ α} (only : program.Only asks) : program.Only asks' := by
  induction program with
  | ret value => trivial
  | call op next ih => exact ⟨keeps op only.1, fun reply => ih reply (only.2 reply)⟩

/-- The same awaits and the same value, unless the first program stops short. -/
def Upto : Proc ι ρ (Option α) → Proc ι ρ α → Prop
  | .ret none, _ => True
  | .ret (some value), other => other = .ret value
  | .call op next, other => ∃ rest, other = .call op rest ∧ ∀ reply, (next reply).Upto (rest reply)

theorem upto_some (program : Proc ι ρ α) : (some <$> program).Upto program := by
  induction program with
  | ret value => rfl
  | call op next ih => exact ⟨next, rfl, fun reply => ih reply⟩

theorem upto_bind {first : Proc ι ρ (Option α)} {other : Proc ι ρ α}
    {next : Option α → Proc ι ρ (Option β)} {rest : α → Proc ι ρ β} (body : first.Upto other)
    (stops : next none = .ret none) (onwards : ∀ value, (next (some value)).Upto (rest value)) :
    (first >>= next).Upto (other >>= rest) := by
  induction first generalizing other with
  | ret value =>
      cases value with
      | none =>
          rw [ret_bind, stops]
          trivial
      | some value =>
          have same : other = .ret value := body
          subst same
          exact onwards value
  | call op more ih =>
      obtain ⟨tail, same, alike⟩ := body
      subst same
      exact ⟨_, rfl, fun reply => ih reply (alike reply)⟩

/-- Run alone, the program awaits something in a state for which `meets` holds. -/
def Meets (handle : σ → (op : ι) → ρ op × σ) (meets : σ → ι → Prop) : Proc ι ρ α → σ → Prop
  | .ret _, _ => False
  | .call op next, state => meets state op ∨
      Meets handle meets (next (handle state op).1) (handle state op).2

@[simp] theorem meets_ret (handle : σ → (op : ι) → ρ op × σ) (meets : σ → ι → Prop) (value : α)
    (state : σ) : ¬ (Proc.ret value).Meets handle meets state :=
  fun met => met

@[simp] theorem meets_call (handle : σ → (op : ι) → ρ op × σ) (meets : σ → ι → Prop) (op : ι)
    (next : ρ op → Proc ι ρ α) (state : σ) :
    (Proc.call op next).Meets handle meets state ↔ meets state op ∨
      (next (handle state op).1).Meets handle meets (handle state op).2 := Iff.rfl

instance decidableMeets (handle : σ → (op : ι) → ρ op × σ) (meets : σ → ι → Prop)
    [decides : ∀ state op, Decidable (meets state op)] :
    (program : Proc ι ρ α) → (state : σ) → Decidable (program.Meets handle meets state)
  | .ret _, _ => .isFalse id
  | .call op next, state =>
      @instDecidableOr _ _ (decides state op)
        (decidableMeets handle meets (next (handle state op).1) (handle state op).2)

/-- Handlers that answer alike except where `meets` holds run a program alike that does not
meet that. -/
theorem run_simulates_unless {τ : Type} {handle : σ → (op : ι) → ρ op × σ}
    {handle' : τ → (op : ι) → ρ op × τ} (related : σ → τ → Prop) {asks : ι → Prop}
    {meets : σ → ι → Prop}
    (answers : ∀ left right op, related left right → asks op → ¬ meets left op →
      (handle left op).1 = (handle' right op).1 ∧
        related (handle left op).2 (handle' right op).2)
    {program : Proc ι ρ α} (only : program.Only asks) {left : σ} {right : τ}
    (start : related left right) (spared : ¬ program.Meets handle meets left) :
    (run handle program left).1 = (run handle' program right).1 ∧
      related (run handle program left).2 (run handle' program right).2 := by
  induction program generalizing left right with
  | ret value => exact ⟨rfl, start⟩
  | call op next ih =>
      rw [meets_call, not_or] at spared
      have same := answers left right op start only.1 spared.1
      rw [run_call, run_call, ← same.1]
      exact ih _ (only.2 _) same.2 spared.2

/-- Two handlers that answer alike in related states run a program alike. -/
theorem run_simulates {τ : Type} {handle : σ → (op : ι) → ρ op × σ}
    {handle' : τ → (op : ι) → ρ op × τ} (related : σ → τ → Prop) {asks : ι → Prop}
    (answers : ∀ left right op, related left right → asks op →
      (handle left op).1 = (handle' right op).1 ∧
        related (handle left op).2 (handle' right op).2)
    {program : Proc ι ρ α} (only : program.Only asks) {left : σ} {right : τ}
    (start : related left right) :
    (run handle program left).1 = (run handle' program right).1 ∧
      related (run handle program left).2 (run handle' program right).2 := by
  have never : ∀ (program : Proc ι ρ α) state,
      ¬ program.Meets handle (fun _ _ => False) state := by
    intro program state met
    induction program generalizing state with
    | ret value => exact met
    | call op next ih =>
        rw [meets_call, false_or] at met
        exact ih _ _ met
  exact run_simulates_unless related
    (fun left right op holds asked _ => answers left right op holds asked) only start
    (never program left)

/-- Whatever the promised replies are, the program asks only for what it may
and returns only what satisfies `post`. -/
def Safe (contract : Contract ι ρ μ) (post : μ → α → Prop) : μ → Proc ι ρ α → Prop
  | memory, .ret value => post memory value
  | memory, .call op next => contract.allows memory op ∧
      ∀ reply after, contract.replies memory op reply after →
        Safe contract post after (next reply)

@[simp] theorem safe_ret (contract : Contract ι ρ μ) (post : μ → α → Prop)
    (memory : μ) (value : α) :
    Safe contract post memory (.ret value) ↔ post memory value := Iff.rfl

@[simp] theorem safe_call (contract : Contract ι ρ μ) (post : μ → α → Prop)
    (memory : μ) (op : ι) (next : ρ op → Proc ι ρ α) :
    Safe contract post memory (.call op next) ↔ contract.allows memory op ∧
      ∀ reply after, contract.replies memory op reply after →
        Safe contract post after (next reply) := Iff.rfl

theorem safe_bind (contract : Contract ι ρ μ) (mid : μ → α → Prop) (post : μ → β → Prop)
    (first : Proc ι ρ α) (next : α → Proc ι ρ β) (memory : μ)
    (body : Safe contract mid memory first)
    (rest : ∀ after value, mid after value → Safe contract post after (next value)) :
    Safe contract post memory (first >>= next) := by
  induction first generalizing memory with
  | ret value => exact rest memory value body
  | call op more ih =>
      exact ⟨body.1, fun reply after promised => ih reply after (body.2 reply after promised)⟩

theorem safe_mono (contract : Contract ι ρ μ) (mid post : μ → α → Prop)
    (program : Proc ι ρ α) (memory : μ) (body : Safe contract mid memory program)
    (weaker : ∀ after value, mid after value → post after value) :
    Safe contract post memory program := by
  induction program generalizing memory with
  | ret value => exact weaker memory value body
  | call op next ih =>
      exact ⟨body.1, fun reply after promised => ih reply after (body.2 reply after promised)⟩

/-- Whenever a reply demands an operation, that is what is awaited next. -/
def Follows (demands : (op : ι) → ρ op → Option ι) : Proc ι ρ α → Prop
  | .ret _ => True
  | .call op next => ∀ reply, (∀ required, demands op reply = some required →
      ∃ rest, next reply = .call required rest) ∧ (next reply).Follows demands

theorem follows_bind {demands : (op : ι) → ρ op → Option ι} {first : Proc ι ρ α}
    {next : α → Proc ι ρ β} (body : first.Follows demands)
    (rest : ∀ value, (next value).Follows demands) : (first >>= next).Follows demands := by
  induction first with
  | ret value => exact rest value
  | call op more ih =>
      intro reply
      refine ⟨fun required demanded => ?_, ih reply (body reply).2⟩
      obtain ⟨tail, same⟩ := (body reply).1 required demanded
      exact ⟨fun reply => tail reply >>= next, congrArg (· >>= next) same⟩

/-- A contract that allows more and promises more. -/
theorem safe_weaken (tight loose : Contract ι ρ μ) (post : μ → α → Prop)
    (program : Proc ι ρ α) (memory : μ) (body : Safe tight post memory program)
    (allows : ∀ memory op, tight.allows memory op → loose.allows memory op)
    (replies : ∀ memory op reply after, tight.allows memory op →
      loose.replies memory op reply after → tight.replies memory op reply after) :
    Safe loose post memory program := by
  induction program generalizing memory with
  | ret value => exact body
  | call op next ih =>
      exact ⟨allows memory op body.1, fun reply after promised =>
        ih reply after (body.2 reply after (replies memory op reply after body.1 promised))⟩

end Proc

end ActorServices
