import ActorServices.LinkService
import ActorServices.Utf8

set_option autoImplicit false

namespace ActorServices.UrlShortener

/-- A code that `create` uses: the alias asked for, or one it generates. -/
inductive Issued (requested : Option String) : ShortCode → Prop
  | verbatim (text : String) (code : ShortCode) (asked : requested = some text)
      (parsed : ShortCode.parse text = .ok code) : Issued requested code
  | generated (draw : Nat → Fin 62) (unasked : requested = none) :
      Issued requested (.fromTrusted (generateIdentifier generatedCodeLen draw))

/-- A result of `create` past its checks of the URL: a failure other than `Blocked`, or a
link to the target under a code of its own. -/
inductive Returned (requested : Option String) (target : TargetUrl) :
    Except ServiceError Link → Prop
  | failed (err : ServiceError) (passed : err ≠ .blocked) : Returned requested target (.error err)
  | made (link : Link) (issued : Issued requested link.code) (same : link.target = target)
      (unused : link.hits = 0) : Returned requested target (.ok link)

section Returned

variable {σ : Type} (handle : σ → (op : Op ShortCode Link) → op.Reply × σ)

theorem createLoop_returned (target : TargetUrl) (createdAt : Int) (expiresAt : Option Int)
    (attempts : Nat) (state : σ) :
    Returned none target
      (Proc.run handle (createLoop target createdAt expiresAt attempts) state).1 := by
  induction attempts generalizing state with
  | zero => exact .failed .conflict nofun
  | succ attempts ih =>
      simp only [createLoop, UseCase.random, UseCase.repoInsert, Proc.call_bind, Proc.ret_bind,
        Proc.run_call]
      split
      · exact .made _ (.generated _ rfl) rfl rfl
      · exact ih _
      · exact .failed _ nofun

theorem createAlias_returned (requested : String) (target : TargetUrl) (createdAt : Int)
    (expiresAt : Option Int) (state : σ) :
    Returned (some requested) target
      (Proc.run handle (createAlias requested target createdAt expiresAt) state).1 := by
  unfold createAlias
  cases parsed : ShortCode.parse requested with
  | error err => exact .failed _ nofun
  | ok code =>
      simp only [UseCase.repoInsert, Proc.call_bind, Proc.ret_bind, Proc.run_call]
      split
      · exact .made _ (.verbatim requested code rfl parsed) rfl rfl
      · rename_i err _
        apply Returned.failed
        cases err <;> nofun

theorem create_returned {settings : Settings} {url : String} {target : TargetUrl}
    (accepted : TargetUrl.parse settings.urls url = .ok target)
    (free : settings.isBlocked target = false) (requested : Option String)
    (ttlSeconds : Option Nat) (state : σ) :
    Returned requested target
      (Proc.run handle (create settings url requested ttlSeconds) state).1 := by
  simp only [create, accepted, free, Bool.false_eq_true, ↓reduceIte, UseCase.nowUnix,
    Proc.call_bind, Proc.ret_bind, Proc.run_call]
  cases requested with
  | none => exact createLoop_returned handle target _ _ _ _
  | some requested => exact createAlias_returned handle requested target _ _ _

theorem create_blocked {settings : Settings} {url : String} {target : TargetUrl}
    (accepted : TargetUrl.parse settings.urls url = .ok target)
    (blocked : settings.isBlocked target = true) (requested : Option String)
    (ttlSeconds : Option Nat) (state : σ) :
    (Proc.run handle (create settings url requested ttlSeconds) state).1 = .error .blocked := by
  simp only [create, accepted, blocked, ↓reduceIte]
  rfl

theorem create_invalid {settings : Settings} {url : String} {err : ValidationError}
    (refused : TargetUrl.parse settings.urls url = .error err) (requested : Option String)
    (ttlSeconds : Option Nat) (state : σ) :
    (Proc.run handle (create settings url requested ttlSeconds) state).1 =
      .error (.validation err) := by
  simp only [create, refused]
  rfl

/-- A link that is created has a code of its own and a target that was accepted. -/
theorem create_made {settings : Settings} {url : String} {requested : Option String}
    {ttlSeconds : Option Nat} {state : σ} {link : Link}
    (created : (Proc.run handle (create settings url requested ttlSeconds) state).1 = .ok link) :
    Issued requested link.code ∧ TargetUrl.parse settings.urls url = .ok link.target := by
  cases accepted : TargetUrl.parse settings.urls url with
  | error err =>
      rw [create_invalid handle accepted] at created
      cases created
  | ok target =>
      cases blocked : settings.isBlocked target with
      | true =>
          rw [create_blocked handle accepted blocked] at created
          cases created
      | false =>
          have returned := create_returned handle accepted blocked requested ttlSeconds state
          rw [created] at returned
          cases returned with
          | made _ issued same _ => exact ⟨issued, congrArg _ same.symm⟩

end Returned

section Code

/-- One or more ASCII letters and digits. -/
structure ValidCode (value : String) : Prop where
  nonempty : value ≠ ""
  plain : ∀ byte ∈ Utf8.encode value.toList, isAsciiAlphanumeric byte = true

theorem validCode_parsed {raw : String} {code : ShortCode}
    (parsed : ShortCode.parse raw = .ok code) : ValidCode code.value := by
  rw [parse_code parsed]
  unfold ShortCode.parse parseIdentifier at parsed
  split at parsed
  · cases parsed
  · rename_i sized
    split at parsed
    · cases parsed
    · rename_i charset
      constructor
      · intro empty
        subst empty
        exact sized (.inl (by decide))
      · intro byte among
        rw [← Utf8.toUTF8_data] at among
        have all := not_not.mp charset
        rw [← Array.all_toList, List.all_eq_true] at all
        exact all byte among

theorem alphabet_plain : ∀ index : Fin 62, (alphabet.getD index.val 'A').toNat < 128 ∧
    isAsciiAlphanumeric (UInt8.ofNat (alphabet.getD index.val 'A').toNat) = true := by
  decide +kernel

theorem encode_identifier (len : Nat) (draw : Nat → Fin 62) :
    Utf8.encode (generateIdentifier len draw).toList =
      (List.range len).map fun i => UInt8.ofNat (alphabet.getD (draw i).val 'A').toNat := by
  rw [generateIdentifier, String.toList_ofList, Utf8.encode, List.flatMap_map, List.map_eq_flatMap]
  exact List.flatMap_congr fun i _ => Utf8.encodeChar_ascii (alphabet_plain (draw i)).1

theorem identifier_plain (len : Nat) (draw : Nat → Fin 62) :
    ∀ byte ∈ Utf8.encode (generateIdentifier len draw).toList, isAsciiAlphanumeric byte = true := by
  intro byte among
  rw [encode_identifier] at among
  obtain ⟨i, -, rfl⟩ := List.mem_map.mp among
  exact (alphabet_plain (draw i)).2

/-- What is generated would be accepted. -/
theorem parseIdentifier_generated {α ε : Type} {minLen maxLen len : Nat} {badLength badCharset : ε}
    {trusted : String → α} (least : minLen ≤ len) (most : len ≤ maxLen) (draw : Nat → Fin 62) :
    parseIdentifier minLen maxLen badLength badCharset trusted (generateIdentifier len draw) =
      .ok (trusted (generateIdentifier len draw)) := by
  have size : (generateIdentifier len draw).utf8ByteSize = len := by
    rw [Utf8.utf8ByteSize_eq, encode_identifier, List.length_map, List.length_range]
  have charset : (generateIdentifier len draw).toUTF8.data.all isAsciiAlphanumeric = true := by
    rw [← Array.all_toList, Utf8.toUTF8_data, List.all_eq_true]
    exact identifier_plain len draw
  unfold parseIdentifier
  rw [if_neg (by omega), if_neg (not_not.mpr charset)]

theorem validCode_identifier {len : Nat} (positive : 0 < len) (draw : Nat → Fin 62) :
    ValidCode (generateIdentifier len draw) := by
  refine ⟨?_, identifier_plain len draw⟩
  intro empty
  have none := congrArg String.length empty
  simp [generateIdentifier] at none
  omega

theorem validCode_generated (draw : Nat → Fin 62) :
    ValidCode (generateIdentifier generatedCodeLen draw) :=
  validCode_identifier (by decide) draw

theorem validCode_issued {requested : Option String} {code : ShortCode}
    (issued : Issued requested code) : ValidCode code.value := by
  cases issued with
  | verbatim text code asked parsed => exact validCode_parsed parsed
  | generated draw unasked => exact validCode_generated draw

/-- A byte that is no letter or digit is not in a code, nor is its character. -/
theorem ValidCode.without {value : String} (valid : ValidCode value) {c : Char}
    (small : c.toNat < 128) (other : isAsciiAlphanumeric (UInt8.ofNat c.toNat) = false) :
    UInt8.ofNat c.toNat ∉ Utf8.encode value.toList ∧ c ∉ value.toList := by
  have absent : UInt8.ofNat c.toNat ∉ Utf8.encode value.toList := by
    intro among
    have plain := valid.plain _ among
    rw [other] at plain
    cases plain
  refine ⟨absent, ?_⟩
  intro among
  apply absent
  rw [Utf8.encode, List.mem_flatMap]
  refine ⟨c, among, ?_⟩
  rw [Utf8.encodeChar_ascii small]
  exact List.mem_singleton_self _

end Code

end ActorServices.UrlShortener
