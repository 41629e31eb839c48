import Mathlib.Data.Rat.Init
import ActorServices.Base64
import ActorServices.JsText

set_option autoImplicit false

namespace ActorServices.Pastebin.App

open Js

abbrev Bytes : Type := List UInt8

section Base64

def alphabetSymbol (sextet : Fin 64) : UInt16 :=
  (ascii "ABCDEFGHIJKLMNOPQRSTUVWXYZabcdefghijklmnopqrstuvwxyz0123456789+/").getD sextet.val 0

def standardAlphabet : Base64.Alphabet UInt16 where
  symbol := alphabetSymbol
  value symbol := (List.finRange 64).find? fun sextet => alphabetSymbol sextet == symbol
  pad := unit '='
  value_symbol := by decide +kernel
  value_pad := by decide

/-- ASCII white space, which `atob` takes out. -/
def isAsciiWhitespace (u : UInt16) : Bool :=
  u == 9 || u == 10 || u == 12 || u == 13 || u == 32

/-- `btoa`, which throws at a code unit that is no byte. -/
def btoa (bin : JsString) : Option JsString :=
  if bin.all (· < 256) then some (Base64.encode standardAlphabet (bin.map UInt16.toUInt8))
  else none

/-- `atob`, which throws at a text that is no base64. -/
def atob (b64 : JsString) : Option JsString :=
  (Base64.decode standardAlphabet isAsciiWhitespace b64).map fun bytes => bytes.map UInt8.toUInt16

def chunkLen : Nat := 0x8000

theorem chunkLen_pos : 0 < chunkLen := by decide

/-- The loop of `bytesToB64`, a chunk of the bytes at a time. -/
def binaryFrom (bytes : Bytes) (i : Nat) (bin : JsString) : JsString :=
  if i < bytes.length then
    binaryFrom bytes (i + chunkLen)
      (bin ++ ((bytes.take (i + chunkLen)).drop i).map UInt8.toUInt16)
  else bin
  termination_by bytes.length - i
  decreasing_by
    have positive := chunkLen_pos
    omega

def bytesToB64 (bytes : Bytes) : Option JsString := btoa (binaryFrom bytes 0 [])

/-- A code unit that is stored in a byte loses its upper half. -/
def b64ToBytes (b64 : JsString) : Option Bytes :=
  (atob b64).map fun bin => bin.map UInt16.toUInt8

def b64UrlEncode (b64 : JsString) : JsString :=
  stripTrailing '=' (replaceUnit '/' '_' (replaceUnit '+' '-' b64))

/-- The `while` loop of `b64UrlDecode`. -/
def padToFour (s : JsString) : JsString :=
  if s.length % 4 = 0 then s else padToFour (s ++ [unit '='])
  termination_by (4 - s.length % 4) % 4
  decreasing_by
    simp only [List.length_append, List.length_singleton]
    omega

def b64UrlDecode (s : JsString) : JsString :=
  padToFour (replaceUnit '_' '/' (replaceUnit '-' '+' s))

theorem binaryFrom_eq (bytes : Bytes) (i : Nat) (bin : JsString) :
    binaryFrom bytes i bin = bin ++ (bytes.drop i).map UInt8.toUInt16 := by
  fun_induction binaryFrom bytes i bin with
  | case1 i bin inside ih =>
      have chunk : (bytes.take (i + chunkLen)).drop i ++ bytes.drop (i + chunkLen) =
          bytes.drop i := by
        have whole := congrArg (List.drop i) (List.take_append_drop (i + chunkLen) bytes)
        rwa [List.drop_append_of_le_length] at whole
        rw [List.length_take]
        omega
      rw [ih, List.append_assoc, ← List.map_append, chunk]
  | case2 i bin outside => rw [List.drop_eq_nil_of_le (by omega), List.map_nil, List.append_nil]

theorem units_bytes (bytes : Bytes) :
    (bytes.map UInt8.toUInt16).map UInt16.toUInt8 = bytes := by
  have back : UInt16.toUInt8 ∘ UInt8.toUInt16 = id := funext UInt8.toUInt8_toUInt16
  rw [List.map_map, back, List.map_id]

theorem bytesToB64_eq (bytes : Bytes) :
    bytesToB64 bytes = some (Base64.encode standardAlphabet bytes) := by
  have small : (bytes.map UInt8.toUInt16).all (· < 256) = true := by
    rw [List.all_eq_true]
    intro u among
    obtain ⟨byte, _, same⟩ := List.mem_map.mp among
    rw [← same, decide_eq_true_iff, UInt16.lt_iff_toNat_lt, UInt8.toNat_toUInt16]
    exact byte.toNat_lt
  rw [bytesToB64, binaryFrom_eq, List.nil_append, List.drop_zero, btoa, if_pos small, units_bytes]

theorem b64ToBytes_encode (bytes : Bytes) :
    b64ToBytes (Base64.encode standardAlphabet bytes) = some bytes := by
  have printed : ∀ sextet, isAsciiWhitespace (standardAlphabet.symbol sextet) = false := by
    decide +kernel
  have padded : isAsciiWhitespace standardAlphabet.pad = false := by decide
  rw [b64ToBytes, atob, Base64.decode_encode printed padded, Option.map_some, Option.map_some,
    units_bytes]

/-- The loop adds what is missing to the next multiple of four. -/
theorem padToFour_eq (s : JsString) :
    padToFour s = s ++ List.replicate (Base64.missing s.length) (unit '=') := by
  fun_induction padToFour s with
  | case1 s whole =>
      have none : Base64.missing s.length = 0 := by
        unfold Base64.missing
        omega
      rw [none, List.replicate_zero, List.append_nil]
  | case2 s short ih =>
      have one : Base64.missing s.length = Base64.missing (s ++ [unit '=']).length + 1 := by
        simp only [Base64.missing, List.length_append, List.length_singleton]
        omega
      rw [ih, one, List.append_assoc, List.replicate_succ]
      rfl

/-- The key as it stands in the link: base64 without padding, its two symbols swapped. -/
def urlSymbol (sextet : Fin 64) : UInt16 :=
  if sextet = 62 then unit '-' else if sextet = 63 then unit '_' else alphabetSymbol sextet

/-- ASCII letters and digits, of which an id consists. -/
def isIdUnit (u : UInt16) : Bool :=
  (48 ≤ u && u ≤ 57) || (65 ≤ u && u ≤ 90) || (97 ≤ u && u ≤ 122)

def isKeyUnit (u : UInt16) : Bool := isIdUnit u || u == unit '-' || u == unit '_'

theorem urlSymbol_key (sextet : Fin 64) : isKeyUnit (urlSymbol sextet) = true := by
  revert sextet
  decide +kernel

theorem urlSymbols_key (values : List (Fin 64)) :
    ∀ u ∈ values.map urlSymbol, isKeyUnit u = true := by
  intro u among
  obtain ⟨sextet, _, same⟩ := List.mem_map.mp among
  exact same ▸ urlSymbol_key sextet

theorem urlSymbol_encoded (sextet : Fin 64) :
    swapUnit '/' '_' (swapUnit '+' '-' (alphabetSymbol sextet)) = urlSymbol sextet := by
  revert sextet
  decide +kernel

theorem urlSymbol_decoded (sextet : Fin 64) :
    swapUnit '_' '/' (swapUnit '-' '+' (urlSymbol sextet)) = alphabetSymbol sextet := by
  revert sextet
  decide +kernel

theorem b64UrlEncode_encode (bytes : Bytes) :
    b64UrlEncode (Base64.encode standardAlphabet bytes) =
      (Base64.sextets bytes).map urlSymbol := by
  have symbols : swapUnit '/' '_' ∘ swapUnit '+' '-' ∘ standardAlphabet.symbol = urlSymbol :=
    funext urlSymbol_encoded
  have pad : swapUnit '/' '_' (swapUnit '+' '-' standardAlphabet.pad) = unit '=' := by decide
  have clean : unit '=' ∉ (Base64.sextets bytes).map urlSymbol := by
    intro among
    exact absurd (urlSymbols_key _ _ among) (by decide)
  simp only [b64UrlEncode, replaceUnit, Base64.encode, List.map_append, List.map_map,
    List.map_replicate, symbols, pad]
  exact stripTrailing_clean clean _

theorem b64UrlDecode_symbols (bytes : Bytes) :
    b64UrlDecode ((Base64.sextets bytes).map urlSymbol) =
      Base64.encode standardAlphabet bytes := by
  have symbols : swapUnit '_' '/' ∘ swapUnit '-' '+' ∘ urlSymbol = standardAlphabet.symbol :=
    funext urlSymbol_decoded
  simp only [b64UrlDecode, replaceUnit, List.map_map, symbols]
  rw [padToFour_eq, List.length_map]
  rfl

/-- The key in the link is the key. -/
theorem b64Url_roundtrip (bytes : Bytes) :
    ((bytesToB64 bytes).bind fun b64 => b64ToBytes (b64UrlDecode (b64UrlEncode b64))) =
      some bytes := by
  rw [bytesToB64_eq, Option.bind_some, b64UrlEncode_encode, b64UrlDecode_symbols,
    b64ToBytes_encode]

end Base64

def pbkdf2Iterations : Rat := 100000

/-- A value of a property, as the payload and the envelope are read. A number is the rational
that it denotes, an array or object the text it is converted to. -/
inductive Value
  | undefined
  | null
  | bool (value : Bool)
  | number (value : Rat)
  | string (text : JsString)
  | composite (text : JsString)
  deriving DecidableEq

abbrev Fields : Type := List (JsString × Value)

/-- What `JSON.parse` returns. None of the properties that are read is one of a value that
is no object. -/
inductive Parsed
  | object (fields : Fields)
  | null
  | other
  deriving DecidableEq

def property (fields : Fields) (name : String) : Value :=
  (fields.lookup (ascii name)).getD .undefined

/-- The property of a value; reading one of `null` throws. -/
def Parsed.get (parsed : Parsed) (name : String) : Option Value :=
  match parsed with
  | .object fields => some (property fields name)
  | .null => none
  | .other => some .undefined

def Value.truthy : Value → Bool
  | .undefined => false
  | .null => false
  | .bool value => value
  | .number value => value != 0
  | .string text => !text.isEmpty
  | .composite _ => true

/-- `left || right`. -/
def Value.orElse (left right : Value) : Value := if left.truthy then left else right

/-- What the browser does: `JSON`, the text encodings, `crypto.subtle`, the conversion of a
number to text, and the percent-encoding in a fragment. `none` is an exception. `origin` is
`location.origin`. -/
structure Browser where
  Key : Type
  origin : JsString
  stringify : Fields → Option JsString
  parse : JsString → Option Parsed
  encodeText : JsString → Bytes
  decodeText : Bytes → JsString
  pbkdf2 : (material salt : Bytes) → (iterations : Value) → Option Key
  encrypt : Key → (iv plain : Bytes) → Option Bytes
  decrypt : Key → (iv cipher : Bytes) → Option Bytes
  numberText : Rat → JsString
  percentEncode : JsString → JsString

/-- What JSON carries unchanged: text, and a natural number that a double represents. -/
def Value.Portable : Value → Prop
  | .string _ => True
  | .number value => ∃ n : Nat, n < 2 ^ 53 ∧ value = n
  | _ => False

/-- The object has each of its properties once, and JSON carries them. -/
structure Portable (fields : Fields) : Prop where
  distinct : (fields.map Prod.fst).Nodup
  values : ∀ field ∈ fields, field.2.Portable

/-- `JSON.parse` inverts `JSON.stringify`, the UTF-8 decoder the encoder on its texts, which
have no lone surrogate and no byte order mark, and AES-GCM decryption the encryption. An
origin has no fragment. -/
structure Browser.Standard (browser : Browser) : Prop where
  parse_stringify : ∀ fields text, Portable fields → browser.stringify fields = some text →
    ∃ parsed, browser.parse text = some (.object parsed) ∧
      ∀ name, property parsed name = property fields name
  decode_encode : ∀ fields text, Portable fields → browser.stringify fields = some text →
    browser.decodeText (browser.encodeText text) = text
  decrypt_encrypt : ∀ key iv plain cipher, browser.encrypt key iv plain = some cipher →
    browser.decrypt key iv cipher = some plain
  origin_clean : unit '#' ∉ browser.origin

/-- A wrong key is refused: AES-GCM checks what it decrypts. -/
def Browser.Authentic (browser : Browser) : Prop :=
  ∀ key key' iv plain cipher, browser.encrypt key iv plain = some cipher → key' ≠ key →
    browser.decrypt key' iv cipher = none

section Crypto

variable (browser : Browser)

/-- The conversion of an argument to text. -/
def toText : Value → JsString
  | .undefined => ascii "undefined"
  | .null => ascii "null"
  | .bool true => ascii "true"
  | .bool false => ascii "false"
  | .number value => browser.numberText value
  | .string text => text
  | .composite text => text

def deriveKey (urlKey : Bytes) (password : JsString) (salt : Bytes) (iter : Value) :
    Option browser.Key :=
  browser.pbkdf2 (urlKey ++ browser.encodeText (orElse password [])) salt iter

/-- The result of `encryptPayload`. -/
structure Sealed where
  envelope : JsString
  keyStr : JsString
  deriving DecidableEq

/-- The result of `decryptPayload`. -/
structure Payload where
  t : JsString
  s : Value
  deriving DecidableEq

def payloadFields (text syntaxHint : JsString) : Fields :=
  [(ascii "t", .string text), (ascii "s", .string (orElse syntaxHint []))]

def envelopeFields (salt64 iv64 ct64 : JsString) : Fields :=
  [(ascii "v", .number 2), (ascii "iter", .number pbkdf2Iterations),
    (ascii "salt", .string salt64), (ascii "iv", .string iv64), (ascii "ct", .string ct64)]

/-- The three random values are `urlKey`, `salt` and `iv`. -/
def encryptPayload (text syntaxHint password : JsString) (urlKey salt iv : Bytes) :
    Option Sealed := do
  let plaintext ← browser.stringify (payloadFields text syntaxHint)
  let key ← deriveKey browser urlKey password salt (.number pbkdf2Iterations)
  let ct ← browser.encrypt key iv (browser.encodeText plaintext)
  let envelope ← browser.stringify
    (envelopeFields (← bytesToB64 salt) (← bytesToB64 iv) (← bytesToB64 ct))
  return { envelope, keyStr := b64UrlEncode (← bytesToB64 urlKey) }

/-- The `try` block at the end of `decryptPayload`; `none` goes to its `catch`. -/
def readPayload (text : JsString) : Option Payload := do
  let o ← browser.parse text
  let t ← o.get "t"
  let s ← o.get "s"
  return {
    t := match t with
      | .string t => t
      | _ => text
    s := s.orElse (.string []) }

def decryptPayload (env : Parsed) (keyStr password : JsString) : Option Payload := do
  let urlKey ← b64ToBytes (b64UrlDecode keyStr)
  let salt ← b64ToBytes (toText browser (← env.get "salt"))
  let iter ← env.get "iter"
  let key ← deriveKey browser urlKey password salt (iter.orElse (.number pbkdf2Iterations))
  let iv ← b64ToBytes (toText browser (← env.get "iv"))
  let ct ← b64ToBytes (toText browser (← env.get "ct"))
  let ptBuf ← browser.decrypt key iv ct
  let text := browser.decodeText ptBuf
  return (readPayload browser text).getD { t := text, s := .string [] }

/-- What may stand in a fragment as it is: printable ASCII but for five characters. -/
def isFragmentUnit (u : UInt16) : Bool :=
  33 ≤ u && u ≤ 126 && u != unit '"' && u != unit '<' && u != unit '>' && u != unit (Char.ofNat 96)

/-- `location.hash` of the page at an address. -/
def locationHash (href : JsString) : JsString :=
  match (href.dropWhile (· != unit '#')).drop 1 with
  | [] => []
  | fragment =>
      unit '#' :: if fragment.all isFragmentUnit then fragment else browser.percentEncode fragment

/-- The link that `onCreate` shows. -/
def shareLink (id keyStr : JsString) : JsString :=
  browser.origin ++ ascii "/#" ++ id ++ ascii "." ++ keyStr

/-- `onCreate`, of which `createPaste` is the request; no text, no link. -/
def onCreate (createPaste : JsString → Option JsString)
    (content syntaxHint password : JsString) (urlKey salt iv : Bytes) : Option JsString :=
  if content = [] then none
  else do
    let made ← encryptPayload browser content syntaxHint password urlKey salt iv
    let id ← createPaste made.envelope
    return shareLink browser id made.keyStr

/-- The arguments that `init` passes to `showView`, if it shows a paste. -/
def init (href : JsString) : Option (JsString × JsString) :=
  let hash := (locationHash browser href).drop 1
  let dot := indexOf hash '.'
  if 0 < dot then some (hash.take dot.toNat, hash.drop (dot + 1).toNat) else none

end Crypto

section Link

variable {browser : Browser} {id keyStr : JsString}

theorem idUnit_key {u : UInt16} (plain : isIdUnit u = true) : isKeyUnit u = true := by
  rw [isKeyUnit, plain, Bool.true_or, Bool.true_or]

theorem keyUnit_ascii {u : UInt16} (plain : isKeyUnit u = true) : u.toNat < 128 := by
  simp only [isKeyUnit, isIdUnit, Bool.or_eq_true, Bool.and_eq_true, decide_eq_true_eq,
    beq_iff_eq, UInt16.le_iff_toNat_le] at plain
  rcases plain with (((digit | upper) | lower) | dash) | underscore
  · exact Nat.lt_of_le_of_lt digit.2 (by decide)
  · exact Nat.lt_of_le_of_lt upper.2 (by decide)
  · exact Nat.lt_of_le_of_lt lower.2 (by decide)
  · exact dash ▸ (by decide)
  · exact underscore ▸ (by decide)

theorem keyUnit_fragment {u : UInt16} (plain : isKeyUnit u = true) :
    isFragmentUnit u = true := by
  have table : ∀ n, n < 128 → isKeyUnit (UInt16.ofNat n) = true →
      isFragmentUnit (UInt16.ofNat n) = true := by
    decide
  have entry := table u.toNat (keyUnit_ascii plain)
  rw [UInt16.ofNat_toNat] at entry
  exact entry plain

theorem locationHash_link (clean : unit '#' ∉ browser.origin)
    (idPlain : ∀ u ∈ id, isIdUnit u = true) (keyPlain : ∀ u ∈ keyStr, isKeyUnit u = true) :
    locationHash browser (shareLink browser id keyStr) =
      unit '#' :: (id ++ unit '.' :: keyStr) := by
  have parts : shareLink browser id keyStr =
      (browser.origin ++ [unit '/']) ++ unit '#' :: (id ++ unit '.' :: keyStr) := by
    have slash : ascii "/#" = [unit '/', unit '#'] := rfl
    have dot : ascii "." = [unit '.'] := rfl
    simp only [shareLink, slash, dot, List.append_assoc, List.cons_append, List.nil_append]
  have before : ∀ u ∈ browser.origin ++ [unit '/'], (u != unit '#') = true := by
    intro u among
    rw [bne_iff_ne]
    intro same
    subst same
    rw [List.mem_append, List.mem_singleton] at among
    cases among with
    | inl inside => exact clean inside
    | inr slash => exact absurd slash (by decide)
  have kept : (id ++ unit '.' :: keyStr).all isFragmentUnit = true := by
    rw [List.all_eq_true]
    intro u among
    rw [List.mem_append, List.mem_cons] at among
    rcases among with inId | dot | inKey
    · exact keyUnit_fragment (idUnit_key (idPlain u inId))
    · exact dot ▸ (by decide)
    · exact keyUnit_fragment (keyPlain u inKey)
  have fragment : ((shareLink browser id keyStr).dropWhile (· != unit '#')).drop 1 =
      id ++ unit '.' :: keyStr := by
    rw [parts, List.dropWhile_append_of_pos before, List.dropWhile_cons_of_neg]
    · rfl
    · simp
  rw [locationHash, fragment]
  split
  · rename_i empty
    exact absurd empty (by simp)
  · rw [if_pos kept]

theorem init_link (clean : unit '#' ∉ browser.origin) (nonempty : id ≠ [])
    (idPlain : ∀ u ∈ id, isIdUnit u = true) (keyPlain : ∀ u ∈ keyStr, isKeyUnit u = true) :
    init browser (shareLink browser id keyStr) = some (id, keyStr) := by
  have noDot : unit '.' ∉ id := by
    intro among
    exact absurd (idPlain _ among) (by decide)
  have positive : (0 : Int) < id.length := by
    have some_unit := List.length_pos_iff.mpr nonempty
    omega
  have after : ((id.length : Int) + 1).toNat = id.length + 1 := by omega
  unfold init
  rw [locationHash_link clean idPlain keyPlain]
  simp only [List.drop_one, List.tail_cons]
  rw [indexOf_clean noDot, if_pos positive, after, Int.toNat_natCast, List.take_left,
    List.drop_length_add_append, List.drop_succ_cons, List.drop_zero]

end Link

section Payload

variable {browser : Browser} {text syntaxHint password : JsString} {urlKey salt iv : Bytes}

theorem payload_portable (text syntaxHint : JsString) :
    Portable (payloadFields text syntaxHint) where
  distinct := by
    show [ascii "t", ascii "s"].Nodup
    decide
  values := by
    intro field among
    simp only [payloadFields, List.mem_cons, List.not_mem_nil, or_false] at among
    rcases among with rfl | rfl
    · trivial
    · trivial

theorem envelope_portable (salt64 iv64 ct64 : JsString) :
    Portable (envelopeFields salt64 iv64 ct64) where
  distinct := by
    show [ascii "v", ascii "iter", ascii "salt", ascii "iv", ascii "ct"].Nodup
    decide
  values := by
    intro field among
    simp only [envelopeFields, List.mem_cons, List.not_mem_nil, or_false] at among
    rcases among with rfl | rfl | rfl | rfl | rfl
    · exact ⟨2, by decide, rfl⟩
    · exact ⟨100000, by decide, rfl⟩
    · trivial
    · trivial
    · trivial

/-- What `JSON` made of a payload is read as that payload. -/
theorem readPayload_written (standard : browser.Standard) {written : JsString}
    (made : browser.stringify (payloadFields text syntaxHint) = some written) :
    readPayload browser written = some { t := text, s := .string syntaxHint } := by
  have portable := payload_portable text syntaxHint
  obtain ⟨parsed, read, same⟩ := standard.parse_stringify _ _ portable made
  have t : property parsed "t" = .string text := by
    rw [same]
    rfl
  have s : property parsed "s" = .string syntaxHint := by
    have hint : property (payloadFields text syntaxHint) "s" =
      .string (orElse syntaxHint []) := rfl
    rw [same, hint, orElse_empty]
  have shown : (Value.string syntaxHint).orElse (.string []) = .string syntaxHint := by
    cases syntaxHint <;> rfl
  simp only [readPayload, read, Parsed.get, t, s, shown, Option.bind_eq_bind, Option.bind_some]
  rfl

theorem encryptPayload_written {made : Sealed}
    (encrypted : encryptPayload browser text syntaxHint password urlKey salt iv = some made) :
    ∃ fields, browser.stringify fields = some made.envelope := by
  simp only [encryptPayload, Option.bind_eq_bind, Option.bind_eq_some_iff] at encrypted
  obtain ⟨_, _, _, _, _, _, _, _, _, _, _, _, _, wrapped, _, _, whole⟩ := encrypted
  cases whole
  exact ⟨_, wrapped⟩

/-- An envelope read with the key of its link: what a password derives decrypts it or not. -/
theorem encryptPayload_made (standard : browser.Standard) {made : Sealed}
    (encrypted : encryptPayload browser text syntaxHint password urlKey salt iv = some made) :
    made.keyStr = (Base64.sextets urlKey).map urlSymbol ∧
      ∃ plaintext key ct env,
        browser.stringify (payloadFields text syntaxHint) = some plaintext ∧
        deriveKey browser urlKey password salt (.number pbkdf2Iterations) = some key ∧
        browser.encrypt key iv (browser.encodeText plaintext) = some ct ∧
        browser.parse made.envelope = some env ∧
        ∀ attempt, decryptPayload browser env made.keyStr attempt =
          (deriveKey browser urlKey attempt salt (.number pbkdf2Iterations)).bind fun key =>
            (browser.decrypt key iv ct).map fun ptBuf =>
              (readPayload browser (browser.decodeText ptBuf)).getD
                { t := browser.decodeText ptBuf, s := .string [] } := by
  simp only [encryptPayload, bytesToB64_eq, Option.bind_eq_bind, Option.bind_some,
    Option.bind_eq_some_iff] at encrypted
  obtain ⟨plaintext, written, key, derived, ct, locked, envelope, wrapped, whole⟩ := encrypted
  cases whole
  have portable := envelope_portable (Base64.encode standardAlphabet salt)
    (Base64.encode standardAlphabet iv) (Base64.encode standardAlphabet ct)
  obtain ⟨parsed, read, same⟩ := standard.parse_stringify _ _ portable wrapped
  have salt64 : property parsed "salt" = .string (Base64.encode standardAlphabet salt) := by
    rw [same]
    rfl
  have iter : property parsed "iter" = .number pbkdf2Iterations := by
    rw [same]
    rfl
  have iv64 : property parsed "iv" = .string (Base64.encode standardAlphabet iv) := by
    rw [same]
    rfl
  have ct64 : property parsed "ct" = .string (Base64.encode standardAlphabet ct) := by
    rw [same]
    rfl
  have iterations : (Value.number pbkdf2Iterations).orElse (.number pbkdf2Iterations) =
      .number pbkdf2Iterations := ite_self _
  refine ⟨b64UrlEncode_encode urlKey, plaintext, key, ct, .object parsed, written, derived, locked,
    read, fun attempt => ?_⟩
  simp only [decryptPayload, b64UrlEncode_encode, b64UrlDecode_symbols, b64ToBytes_encode,
    Parsed.get, salt64, iter, iv64, ct64, toText, iterations, Option.bind_eq_bind,
    Option.bind_some, Option.map_eq_bind]
  rfl

/-- An envelope is opened with the key and password that it was made with. With a password that
derives another key, it is not opened where a wrong key is refused. -/
theorem decryptPayload_made (standard : browser.Standard) {made : Sealed}
    (encrypted : encryptPayload browser text syntaxHint password urlKey salt iv = some made) :
    made.keyStr = (Base64.sextets urlKey).map urlSymbol ∧
      ∃ env, browser.parse made.envelope = some env ∧
        decryptPayload browser env made.keyStr password =
          some { t := text, s := .string syntaxHint } ∧
        (browser.Authentic → ∀ attempt payload,
          decryptPayload browser env made.keyStr attempt = some payload →
          payload = { t := text, s := .string syntaxHint }) := by
  obtain ⟨symbols, plaintext, key, ct, env, written, derived, locked, read, opens⟩ :=
    encryptPayload_made standard encrypted
  have unlocked := standard.decrypt_encrypt key iv _ ct locked
  have decoded := standard.decode_encode _ _ (payload_portable text syntaxHint) written
  have shown := readPayload_written standard written
  refine ⟨symbols, env, read, ?_, fun authentic attempt payload opened => ?_⟩
  · simp only [opens, derived, unlocked, decoded, shown, Option.bind_some, Option.map_some,
      Option.getD_some]
  · rw [opens, Option.bind_eq_some_iff] at opened
    obtain ⟨other, -, opened⟩ := opened
    by_cases right : other = key
    · subst right
      simp only [unlocked, decoded, shown, Option.map_some, Option.getD_some] at opened
      exact (Option.some.inj opened).symm
    · rw [authentic key other iv _ ct locked right] at opened
      cases opened

end Payload

/-- The link tells the id and the key, and with the password these open what was encrypted. -/
theorem client_roundtrip (browser : Browser) (standard : browser.Standard)
    {id text syntaxHint password : JsString} {urlKey salt iv : Bytes} {made : Sealed}
    (nonempty : id ≠ []) (plain : ∀ u ∈ id, isIdUnit u = true)
    (encrypted : encryptPayload browser text syntaxHint password urlKey salt iv = some made) :
    (∀ createPaste, text ≠ [] → createPaste made.envelope = some id →
      onCreate browser createPaste text syntaxHint password urlKey salt iv =
        some (shareLink browser id made.keyStr)) ∧
      init browser (shareLink browser id made.keyStr) = some (id, made.keyStr) ∧
      (∃ env, browser.parse made.envelope = some env ∧
        decryptPayload browser env made.keyStr password =
          some { t := text, s := .string syntaxHint }) ∧
      ∀ bytes, ((bytesToB64 bytes).bind fun b64 => b64ToBytes (b64UrlDecode (b64UrlEncode b64))) =
        some bytes := by
  have opened := decryptPayload_made standard encrypted
  have keyPlain : ∀ u ∈ made.keyStr, isKeyUnit u = true := opened.1 ▸ urlSymbols_key _
  obtain ⟨env, parsed, decrypts, -⟩ := opened.2
  refine ⟨?_, ?_, ⟨env, parsed, decrypts⟩, b64Url_roundtrip⟩
  · intro createPaste written created
    simp only [onCreate, written, ↓reduceIte, encrypted, created, Option.bind_eq_bind,
      Option.bind_some]
    rfl
  · exact init_link standard.origin_clean nonempty plain keyPlain

def exampleKey : Bytes :=
  [99, 14, 35, 46, 110, 248, 37, 183, 130, 170, 143, 190, 114, 189, 62, 236, 10, 224, 11, 82, 105,
    112, 83, 202, 253, 251, 252, 212, 93, 142, 51, 36]

def exampleIv : Bytes := [0, 1, 2, 3, 4, 5, 6, 7, 8, 9, 10, 11]

def exampleCipher : Bytes :=
  [164, 97, 97, 27, 1, 234, 2, 191, 183, 89, 74, 90, 38, 128, 72, 208, 143, 241, 250, 82, 45, 61,
    240, 173, 57, 37, 196, 124, 133, 37, 202, 58, 205, 98, 247]

def examplePayload : Fields × JsString :=
  (payloadFields (ascii "a<b") (ascii "c"), ascii "\x7b\"t\":\"a<b\",\"s\":\"c\"\x7d")

def exampleEnvelope : Fields × JsString :=
  (envelopeFields (ascii "AQI=") (ascii "AAECAwQFBgcICQoL")
      (ascii "pGFhGwHqAr+3WUpaJoBI0I/x+lItPfCtOSXEfIUlyjrNYvc="),
    ascii ("\x7b\"v\":2,\"iter\":100000,\"salt\":\"AQI=\",\"iv\":\"AAECAwQFBgcICQoL\"," ++
      "\"ct\":\"pGFhGwHqAr+3WUpaJoBI0I/x+lItPfCtOSXEfIUlyjrNYvc=\"\x7d"))

/-- A browser that computes this one encryption, with the derived key and the ciphertext that
PBKDF2 and AES-256-GCM yield, and fails on everything else. -/
def exampleBrowser : Browser where
  Key := Bytes
  origin := ascii "https://paste.example"
  stringify fields :=
    if fields = examplePayload.1 then some examplePayload.2
    else if fields = exampleEnvelope.1 then some exampleEnvelope.2 else none
  parse text :=
    if text = examplePayload.2 then some (.object examplePayload.1)
    else if text = exampleEnvelope.2 then some (.object exampleEnvelope.1) else none
  encodeText text := text.map UInt16.toUInt8
  decodeText bytes := bytes.map UInt8.toUInt16
  pbkdf2 material salt iterations :=
    if material = [251, 255, 254, 7, 112, 119] ∧ salt = [1, 2] ∧ iterations = .number 100000
    then some exampleKey else none
  encrypt key iv plain :=
    if key = exampleKey ∧ iv = exampleIv ∧ plain = examplePayload.2.map UInt16.toUInt8
    then some exampleCipher else none
  decrypt key iv cipher :=
    if key = exampleKey ∧ iv = exampleIv ∧ cipher = exampleCipher
    then some (examplePayload.2.map UInt16.toUInt8) else none
  numberText _ := []
  percentEncode fragment := fragment

theorem exampleBrowser_written {fields : Fields} {text : JsString}
    (written : exampleBrowser.stringify fields = some text) :
    (fields, text) = examplePayload ∨ (fields, text) = exampleEnvelope := by
  simp only [exampleBrowser] at written
  split at written
  · rename_i payload
    exact .inl (Prod.ext payload (Option.some.inj written).symm)
  · split at written
    · rename_i envelope
      exact .inr (Prod.ext envelope (Option.some.inj written).symm)
    · cases written

theorem exampleBrowser_standard : exampleBrowser.Standard where
  parse_stringify fields text _ written := by
    cases exampleBrowser_written written with
    | inl payload =>
        cases payload
        exact ⟨examplePayload.1, by decide, fun _ => rfl⟩
    | inr envelope =>
        cases envelope
        exact ⟨exampleEnvelope.1, by decide +kernel, fun _ => rfl⟩
  decode_encode fields text _ written := by
    cases exampleBrowser_written written with
    | inl payload =>
        cases payload
        decide
    | inr envelope =>
        cases envelope
        decide +kernel
  decrypt_encrypt key iv plain cipher locked := by
    simp only [exampleBrowser] at locked ⊢
    split at locked
    · rename_i same
      have sent := Option.some.inj locked
      rw [if_pos ⟨same.1, same.2.1, sent.symm⟩, same.2.2]
    · cases locked
  origin_clean := by decide

theorem client_roundtrip_example :
    let made : Sealed := ⟨exampleEnvelope.2, ascii "-__-Bw"⟩
    encryptPayload exampleBrowser (ascii "a<b") (ascii "c") (ascii "pw") [251, 255, 254, 7] [1, 2]
        exampleIv = some made ∧
      init exampleBrowser (shareLink exampleBrowser (ascii "AbC12xyz") made.keyStr) =
        some (ascii "AbC12xyz", made.keyStr) ∧
      ∃ env, exampleBrowser.parse made.envelope = some env ∧
        decryptPayload exampleBrowser env made.keyStr (ascii "pw") =
          some { t := ascii "a<b", s := .string (ascii "c") } := by
  have encrypted : encryptPayload exampleBrowser (ascii "a<b") (ascii "c") (ascii "pw")
      [251, 255, 254, 7] [1, 2] exampleIv = some ⟨exampleEnvelope.2, ascii "-__-Bw"⟩ := by
    simp only [encryptPayload, bytesToB64_eq]
    decide +kernel
  have plain : ∀ u ∈ ascii "AbC12xyz", isIdUnit u = true := by
    rw [← List.all_eq_true]
    decide
  have main := client_roundtrip exampleBrowser exampleBrowser_standard
    (show ascii "AbC12xyz" ≠ [] by decide) plain encrypted
  exact ⟨encrypted, main.2.1, main.2.2.1⟩

end ActorServices.Pastebin.App
