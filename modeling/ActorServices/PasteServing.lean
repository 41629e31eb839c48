import ActorServices.PasteConcurrent

set_option autoImplicit false

namespace ActorServices.Pastebin

open Interleave Environment

/-- The call has returned the paste of the row stamped so to its client. -/
def Serves (config : PasteCalls) (caller stamp : Nat) : Prop :=
  ∃ paste memory row, config.Returned caller (.fetched (.ok paste)) memory ∧
    memory.held = some row ∧ row.stamp = stamp

/-- The call has returned the paste that it inserted under the stamp. -/
def Creates (config : PasteCalls) (caller : Nat) (paste : Paste) (stamp : Nat) : Prop :=
  ∃ memory row, config.Returned caller (.created (.ok paste)) memory ∧
    memory.held = some row ∧ row.stamp = stamp

def Fetches (calls : Nat → Call) (id : PasteId) (caller : Nat) : Prop :=
  ∃ raw, calls caller = .fetch raw ∧ PasteId.parse raw = .ok id

/-- Only fetches take. -/
theorem asks_take {calls : Nat → Call} {caller : Nat} {id : PasteId}
    (asks : (calls caller).Asks (.repoTake id)) : Fetches calls id caller := by
  cases call : calls caller with
  | create _ _ _ _ => rw [call] at asks; exact asks.elim
  | delete _ =>
      rw [call] at asks
      obtain ⟨own, -, impossible⟩ := asks
      exact impossible.elim
  | fetch raw =>
      rw [call] at asks
      obtain ⟨own, parsed, same⟩ := asks
      exact ⟨raw, call, parsed.trans (congrArg Except.ok (Option.some.inj same).symm)⟩

theorem asks_delete {calls : Nat → Call} {caller : Nat} {id : PasteId}
    (asks : (calls caller).Asks (.repoDelete id)) :
    Fetches calls id caller ∨ ∃ raw, calls caller = .delete raw ∧ PasteId.parse raw = .ok id := by
  cases call : calls caller with
  | create _ _ _ _ => rw [call] at asks; exact asks.elim
  | delete raw =>
      rw [call] at asks
      obtain ⟨own, parsed, rfl⟩ := asks
      exact Or.inr ⟨raw, rfl, parsed⟩
  | fetch raw =>
      rw [call] at asks
      obtain ⟨own, parsed, same⟩ := asks
      exact Or.inl ⟨raw, call, parsed.trans (congrArg Except.ok (Option.some.inj same).symm)⟩

section Held

variable {codec : JsonCodec} {calls : Nat → Call} {config : PasteCalls} {caller stamp : Nat}

theorem Held.fetched (held : Held codec calls config) {paste : Paste} {memory : Memory Paste}
    (returned : config.Returned caller (.fetched (.ok paste)) memory) :
    ∃ row, Fetches calls paste.id caller ∧ memory.held = some row ∧ row.value = paste ∧
      (paste.oneShot = true → memory.owned = true) := by
  have knows := held.sound.returned returned
  cases call : calls caller with
  | create _ _ _ _ => rw [call] at knows; exact knows.elim
  | delete _ => rw [call] at knows; exact knows.elim
  | fetch raw =>
      rw [call] at knows
      obtain ⟨parsed, row, holds, same, owned⟩ := knows
      exact ⟨row, ⟨raw, call, parsed⟩, holds, same, owned⟩

/-- A served paste is the one made under its stamp, up to counted views. -/
theorem Held.fetched_made (held : Held codec calls config) {paste : Paste} {memory : Memory Paste}
    (returned : config.Returned caller (.fetched (.ok paste)) memory) :
    ∃ stamp made views, Serves config caller stamp ∧ config.shared.made[stamp]? = some made ∧
      paste = made.addViews views := by
  obtain ⟨row, -, holds, same, -⟩ := held.fetched returned
  obtain ⟨made, views, at_, counted⟩ := held.sound.memory caller _ returned row holds
  exact ⟨row.stamp, made, views, ⟨paste, memory, row, returned, holds, rfl⟩, at_,
    same.symm.trans counted⟩

/-- Whoever serves a one-shot paste took it out of the repository. -/
theorem Serves.owns (serves : Serves config caller stamp) (held : Held codec calls config)
    {made : Paste} (inserted : config.shared.made[stamp]? = some made)
    (single : made.oneShot = true) : ∃ row, Owns config caller row ∧ row.stamp = stamp := by
  obtain ⟨paste, memory, row, returned, holds, rfl⟩ := serves
  obtain ⟨row', -, holds', same, owned⟩ := held.fetched returned
  obtain rfl : row = row' := Option.some.inj (holds.symm.trans holds')
  obtain ⟨value, views, at_, counted⟩ := held.sound.memory caller _ returned row holds
  obtain rfl : made = value := Option.some.inj (inserted.symm.trans at_)
  refine ⟨row, ⟨_, returned, holds, owned ?_⟩, rfl⟩
  rw [← same, counted]
  exact single

theorem Creates.made {paste : Paste} (creates : Creates config caller paste stamp)
    (held : Held codec calls config) :
    ∃ made views, config.shared.made[stamp]? = some made ∧ paste = made.addViews views := by
  obtain ⟨memory, row, returned, holds, rfl⟩ := creates
  have knows := held.sound.returned returned
  cases call : calls caller with
  | fetch _ => rw [call] at knows; exact knows.elim
  | delete _ => rw [call] at knows; exact knows.elim
  | create content syntaxHint ttlSeconds oneShot =>
      rw [call] at knows
      obtain ⟨row', holds', same, -⟩ := knows
      obtain rfl : row = row' := Option.some.inj (holds.symm.trans holds')
      obtain ⟨made, views, at_, counted⟩ := held.sound.memory caller _ returned row holds
      exact ⟨made, views, at_, same.symm.trans counted⟩

end Held

end ActorServices.Pastebin
