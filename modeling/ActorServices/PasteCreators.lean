import ActorServices.CreateCalls
import ActorServices.PasteBurn
import ActorServices.ServiceMade

set_option autoImplicit false

namespace ActorServices.Pastebin

open Interleave Environment

/-- The call creates such a paste, from what it is given and under an id that it generates. -/
structure Gives (calls : Nat → Call) (caller : Nat) (paste : Paste) : Prop where
  call : ∃ content ttlSeconds,
    calls caller = .create content paste.syntaxHint ttlSeconds paste.oneShot ∧
      Content.parse content = .ok paste.content
  generated : ∃ draw, paste.id.value = generateIdentifier generatedIdLen draw

section Creators

variable {codec : JsonCodec} {calls : Nat → Call} {config : PasteCalls}
  {labels : List PasteLabel} {caller : Nat}

theorem createLoop_of (content : Content) (syntaxHint : Option String) (createdAt : Int)
    (expiresAt : Option Int) (oneShot : Bool) (attempts : Nat) :
    Creating (fun paste : Paste => paste.content = content ∧ syntaxHint = paste.syntaxHint ∧
        oneShot = paste.oneShot ∧ ∃ draw, paste.id.value = generateIdentifier generatedIdLen draw)
      .ok CreateFailed (createLoop content syntaxHint createdAt expiresAt oneShot attempts) := by
  induction attempts with
  | zero => exact ⟨.conflict, rfl⟩
  | succ attempts ih =>
      intro draw
      refine ⟨⟨rfl, rfl, rfl, draw, rfl⟩, rfl, fun err => ?_⟩
      cases err with
      | conflict => exact ih
      | backend cause => exact ⟨.backend cause, rfl⟩

theorem create_of (content : String) (syntaxHint : Option String) (ttlSeconds : Option Nat)
    (oneShot : Bool) :
    Creating (fun paste : Paste => Content.parse content = .ok paste.content ∧
        syntaxHint = paste.syntaxHint ∧ oneShot = paste.oneShot ∧
        ∃ draw, paste.id.value = generateIdentifier generatedIdLen draw)
      .ok CreateFailed (create content syntaxHint ttlSeconds oneShot) := by
  unfold create
  split
  · rename_i err _
    exact ⟨.validation err, rfl⟩
  · rename_i parsed valid
    intro now
    refine creating_mono (createLoop_of parsed syntaxHint now _ oneShot _) ?_
    rintro paste ⟨same, others⟩
    exact ⟨valid.trans (congrArg Except.ok same.symm), others⟩

theorem create_gives {content : String} {syntaxHint : Option String} {ttlSeconds : Option Nat}
    {oneShot : Bool} (codec : JsonCodec)
    (call : calls caller = .create content syntaxHint ttlSeconds oneShot) :
    Creating (Gives calls caller) (fun paste => Reply.created (.ok paste))
      (fun reply => ∃ err, reply = .created (.error err)) ((calls caller).program codec) := by
  have creating : Creating (fun paste : Paste => Content.parse content = .ok paste.content ∧
      syntaxHint = paste.syntaxHint ∧ oneShot = paste.oneShot ∧
      ∃ draw, paste.id.value = generateIdentifier generatedIdLen draw)
      (fun paste => Reply.created (.ok paste)) (fun reply => ∃ err, reply = .created (.error err))
      ((calls caller).program codec) := by
    rw [call]
    refine creating_map Reply.created (create_of content syntaxHint ttlSeconds oneShot) ?_
    rintro result ⟨err, rfl⟩
    exact ⟨err, rfl⟩
  refine creating_mono creating ?_
  rintro paste ⟨valid, rfl, rfl, generated⟩
  exact ⟨⟨content, ttlSeconds, call, valid⟩, generated⟩

/-- A call that awaits an insert is one that creates. -/
theorem inserts_creating (ran : runCalls codec calls labels = some config) {paste : Paste}
    {memory : Memory Paste} (awaits : config.Awaits caller (.repoInsert paste) memory) :
    Creating (Gives calls caller) (fun paste => Reply.created (.ok paste))
      (fun reply => ∃ err, reply = .created (.error err)) ((calls caller).program codec) := by
  have asked := ((runCalls_held ran).sound.awaits awaits).2
  cases call : calls caller with
  | create content syntaxHint ttlSeconds oneShot => exact call ▸ create_gives codec call
  | fetch raw =>
      rw [call] at asked
      obtain ⟨own, -, impossible⟩ := asked
      exact impossible.elim
  | delete raw =>
      rw [call] at asked
      obtain ⟨own, -, impossible⟩ := asked
      exact impossible.elim

/-- Every paste that was ever stored has a call that created it. -/
theorem made_credited (ran : runCalls codec calls labels = some config) {paste : Paste}
    {stamp : Nat} (made : config.shared.made[stamp]? = some paste) :
    ∃ creator, Gives calls creator paste ∧ Creates config creator paste stamp := by
  have creators : ∀ history middle caller paste memory,
      run pasteStores (fun caller => (calls caller).program codec) (.initial .empty) history =
        some middle → middle.Awaits caller (.repoInsert paste) memory →
      Creating (Gives calls caller) (fun paste => Reply.created (.ok paste))
        (fun reply => ∃ err, reply = .created (.error err)) ((calls caller).program codec) :=
    fun _ _ _ _ _ reached awaits => inserts_creating reached awaits
  exact made_by (fun _ => rfl) creators rfl ran made

theorem created_gives (ran : runCalls codec calls labels = some config) {paste : Paste}
    {memory : Memory Paste} (returned : config.Returned caller (.created (.ok paste)) memory) :
    Gives calls caller paste := by
  have knows := (runCalls_held ran).sound.returned returned
  cases call : calls caller with
  | create content syntaxHint ttlSeconds oneShot =>
      rcases returned_created (create_gives codec call) rfl ran returned with
        ⟨⟨err, failed⟩, -⟩ | ⟨new, gives, same, -⟩
      · cases failed
      · cases same
        exact gives
  | fetch raw =>
      rw [call] at knows
      exact knows.elim
  | delete raw =>
      rw [call] at knows
      exact knows.elim

/-- Each served paste goes back to a call that created it from the same text, and has returned it
but for the views since. Fetches that served one-shot pastes go back to different calls. -/
theorem calls_burn (ran : runCalls codec calls labels = some config) :
    ∃ creator : Nat → Nat,
      (∀ caller paste memory, config.Returned caller (.fetched (.ok paste)) memory →
        ∃ made views kept, config.Returned (creator caller) (.created (.ok made)) kept ∧
          paste = made.addViews views ∧ Gives calls (creator caller) made) ∧
      ∀ first second paste paste' memory memory',
        config.Returned first (.fetched (.ok paste)) memory →
        config.Returned second (.fetched (.ok paste')) memory' →
        paste.oneShot = true → creator first = creator second → first = second := by
  have held : Held codec calls config := runCalls_held ran
  have credited : ∀ caller, ∃ creator, ∀ paste memory,
      config.Returned caller (.fetched (.ok paste)) memory →
      ∃ stamp made views, Serves config caller stamp ∧ config.shared.made[stamp]? = some made ∧
        paste = made.addViews views ∧ Gives calls creator made ∧
        Creates config creator made stamp := by
    intro caller
    by_cases served : ∃ paste memory, config.Returned caller (.fetched (.ok paste)) memory
    · obtain ⟨paste, memory, returned⟩ := served
      obtain ⟨stamp, made, views, serves, here, same⟩ := held.fetched_made returned
      obtain ⟨creator, gives, creates⟩ := made_credited ran here
      refine ⟨creator, fun other kept again =>
        ⟨stamp, made, views, serves, here, ?_, gives, creates⟩⟩
      rw [Config.Returned] at returned again
      cases returned.symm.trans again
      exact same
    · exact ⟨0, fun paste memory again => absurd ⟨paste, memory, again⟩ served⟩
  choose creator credit using credited
  refine ⟨creator, ?_, ?_⟩
  · intro caller paste memory served
    obtain ⟨stamp, made, views, -, -, same, gives, kept, row, returned, -⟩ :=
      credit caller paste memory served
    exact ⟨made, views, kept, returned, same, gives⟩
  · intro first second paste paste' memory memory' served served' single same
    obtain ⟨stamp, made, views, serves, here, rfl, -, creates⟩ := credit first paste memory served
    obtain ⟨stamp', made', views', serves', -, -, -, creates'⟩ :=
      credit second paste' memory' served'
    rw [same] at creates
    obtain ⟨_, row, returned, holds, rfl⟩ := creates
    obtain ⟨_, row', returned', holds', rfl⟩ := creates'
    cases returned.symm.trans returned'
    cases holds.symm.trans holds'
    exact served_once held here single serves serves'

end Creators

end ActorServices.Pastebin
