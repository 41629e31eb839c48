import ActorServices.PasteCreators
import ActorServices.ServiceActors

set_option autoImplicit false

namespace ActorServices.Pastebin

open Interleave Environment InMemory

def idText : PasteId ≃ String := ⟨PasteId.value, PasteId.mk, fun _ => rfl, fun _ => rfl⟩

/-- A run of the calls on a service whose stores are tasks. -/
abbrev runOverTasks (codec : JsonCodec) (calls : Nat → Call) (labels : List (TaskLabel PasteId)) :
    Option (TaskCalls PasteId Paste Reply) :=
  runTasks pasteEntity idText (fun caller => (calls caller).program codec) labels

/-- The fetch has served the paste. -/
def Served (config : TaskCalls PasteId Paste Reply) (caller : Nat) (paste : Paste) : Prop :=
  config.Returned caller (.fetched (.ok paste)) ()

/-- However the tasks and the calls interleave, each served paste goes back to a call that
created it from the same text: the call has returned the paste, but for the views since, or only
waits for the answer with which it will. Two fetches that served one-shot pastes go back to two
different calls: what is created once is read once. -/
theorem tasks_burn {codec : JsonCodec} {calls : Nat → Call} {labels : List (TaskLabel PasteId)}
    {config : TaskCalls PasteId Paste Reply} (ran : runOverTasks codec calls labels = some config) :
    ∃ creator : Nat → Nat,
      (∀ caller paste, Served config caller paste → ∃ made views,
        Concludes pasteEntity idText config (creator caller) (.created (.ok made)) ∧
          paste = made.addViews views ∧ Gives calls (creator caller) made) ∧
      ∀ first second paste paste', Served config first paste → Served config second paste' →
        paste.oneShot = true → creator first = creator second → first = second := by
  obtain ⟨whole, followed, linearised⟩ := runTasks_linearised ran
  have seen := seenAlike linearised
  obtain ⟨creator, given, once⟩ := calls_burn followed
  refine ⟨creator, ?_, ?_⟩
  · intro caller paste served
    obtain ⟨memory, returned⟩ := seen.returned caller _ served
    obtain ⟨made, views, kept, created, same, gives⟩ := given caller paste memory returned
    exact ⟨made, views, seen.concludes created, same, gives⟩
  · intro first second paste paste' served served' single same
    obtain ⟨memory, returned⟩ := seen.returned first _ served
    obtain ⟨memory', returned'⟩ := seen.returned second _ served'
    exact once first second paste paste' memory memory' returned returned' single same

/-- Two fetches of a one-shot paste whose takes are both under way at once. -/
def raceTaskLabels : List (TaskLabel PasteId) :=
  [.start 0, .step 0 (some .done), .step 0 (some (.drew fun _ => 0)), .step 0 none,
    .event (.turn .repository), .step 0 none, .start 1, .start 2, .step 1 none, .step 2 none,
    .event (.turn .cache), .event (.turn .cache), .step 1 none, .step 2 none, .step 1 none,
    .step 2 none, .event (.turn .repository), .event (.turn .repository), .step 1 none,
    .step 2 none, .step 1 (some .done), .step 2 (some .done), .step 2 none, .step 1 none,
    .event (.turn .repository), .event (.turn .repository), .step 1 none, .step 2 none]

theorem raceTasks_end : (runOverTasks burnCodec burnCalls raceTaskLabels).map (fun config =>
    ((config.result? 1).map Prod.fst, (config.result? 2).map Prod.fst)) =
      some (some (.fetched (.error .notFound)), some (.fetched (.ok burnPaste))) := by
  decide +kernel

theorem tasks_burn_race : ∃ config,
    runOverTasks burnCodec burnCalls raceTaskLabels = some config ∧
    Served config 2 burnPaste ∧ ∃ creator : Nat → Nat, ∃ made views,
      Concludes pasteEntity idText config (creator 2) (.created (.ok made)) ∧
        burnPaste = made.addViews views ∧ Gives burnCalls (creator 2) made := by
  obtain ⟨config, ran, results⟩ := Option.map_eq_some_iff.mp raceTasks_end
  rw [Prod.mk.injEq] at results
  have served : Served config 2 burnPaste := by
    obtain ⟨⟨reply, memory⟩, result, rfl⟩ := Option.map_eq_some_iff.mp results.2
    exact returned_iff.mpr result
  obtain ⟨creator, given, -⟩ := tasks_burn ran
  exact ⟨config, ran, served, creator, given 2 burnPaste served⟩

end ActorServices.Pastebin
