import ActorServices.HttpText
import ActorServices.IpText
import ActorServices.RateLimit

set_option autoImplicit false

namespace ActorServices.RateLimit

open Http (trim isWhitespace)

/-- The header lines of a request, in their order, with the names in lower case. -/
abbrev HeaderMap : Type := List (String × List UInt8)

/-- `HeaderMap::get`: the first value. -/
def HeaderMap.get (headers : HeaderMap) (name : String) : Option (List UInt8) :=
  headers.lookup name

structure SocketAddr where
  ip : IpAddr
  port : UInt16
  deriving DecidableEq, Repr

def visibleAscii (byte : UInt8) : Bool := (32 ≤ byte && byte < 127) || byte == 9

/-- `HeaderValue::to_str`. -/
def toStr (value : List UInt8) : Option (List Char) :=
  if value.all visibleAscii then some (value.map fun byte => Char.ofNat byte.toNat) else none

/-- `parse::<IpAddr>()`. -/
def IpAddr.parse (text : List Char) : Option IpAddr :=
  (IpText.parse text).map fun address =>
    match address with
    | .inl bits => .v4 bits
    | .inr bits => .v6 bits

/-- `split(',').next()`. -/
def firstItem (text : List Char) : List Char := text.takeWhile (· ≠ ',')

def firstHop (value : List UInt8) : Option IpAddr :=
  (toStr value).bind fun xff => IpAddr.parse (trim (firstItem xff))

def realIp (headers : HeaderMap) : Option IpAddr :=
  ((headers.get "x-real-ip").bind toStr).bind fun real => IpAddr.parse (trim real)

/-- The address of the socket, or `0.0.0.0`. -/
def socketIp (conn : Option SocketAddr) : IpAddr := (conn.map SocketAddr.ip).getD (.v4 0)

def clientIp (headers : HeaderMap) (conn : Option SocketAddr) (trustProxy : Bool) : IpAddr :=
  if trustProxy then
    match (headers.get "x-forwarded-for").bind firstHop with
    | some ip => ip
    | none =>
        match realIp headers with
        | some ip => ip
        | none => socketIp conn
  else socketIp conn

inductive Admission
  | next
  | answered (status : Nat) (error : String)
  deriving DecidableEq, Repr

def rateLimit (limiter : RateLimiter) (headers : HeaderMap) (conn : Option SocketAddr)
    (trustProxy : Bool) (now : ℚ) : Admission × RateLimiter :=
  let checked := limiter.check (clientIp headers conn trustProxy) now
  (if checked.1 then .next else .answered 429 "rate limit exceeded", checked.2)

/-- A proxy that writes an address in a form that reads as this address. -/
structure TrustedProxy where
  written : IpAddr → List UInt8
  reads : ∀ peer, (toStr (written peer)).bind IpAddr.parse = some peer

/-- `X-Forwarded-For` as the client sent it; several lines are one list. -/
def ownForwarded (sent : HeaderMap) : Option (List UInt8) :=
  match (sent.filter fun header => header.1 = "x-forwarded-for").map Prod.snd with
  | [] => none
  | values => some ([44, 32].intercalate values)

/-- What the proxy sends as `X-Forwarded-For`: the peer behind what came with the request. -/
def TrustedProxy.forwarded (proxy : TrustedProxy) (peer : IpAddr) (sent : HeaderMap) : List UInt8 :=
  match ownForwarded sent with
  | some own => own ++ [44, 32] ++ proxy.written peer
  | none => proxy.written peer

/-- The request as it leaves the proxy. All else is as the client sent it. -/
def TrustedProxy.forward (proxy : TrustedProxy) (peer : IpAddr) (sent : HeaderMap) : HeaderMap :=
  ("x-forwarded-for", proxy.forwarded peer sent) ::
    sent.filter fun header => header.1 ≠ "x-forwarded-for"

/-- The client sent no `X-Forwarded-For`, or one that names the client's own address first.
One that names none there leaves it to `X-Real-IP`, and without that to the socket. -/
inductive Unforged (peer : IpAddr) (conn : Option SocketAddr) (sent : HeaderMap) : Prop
  | unsent (absent : ownForwarded sent = none)
  | named (own : List UInt8) (present : ownForwarded sent = some own)
      (named : firstHop own = some peer)
  | real (own : List UInt8) (present : ownForwarded sent = some own)
      (nameless : firstHop own = none) (real : realIp sent = some peer)
  | socket (own : List UInt8) (present : ownForwarded sent = some own)
      (nameless : firstHop own = none) (unreal : realIp sent = none) (direct : socketIp conn = peer)

section Text

theorem toStr_append (front back : List UInt8) :
    toStr (front ++ back) = (toStr front).bind fun text => (toStr back).map (text ++ ·) := by
  simp only [toStr, List.all_append, List.map_append]
  cases front.all visibleAscii <;> cases back.all visibleAscii <;> rfl

theorem firstItem_comma (front back : List Char) :
    firstItem (front ++ ',' :: back) = firstItem front := by
  have stop : (',' :: back).takeWhile (· ≠ ',') = [] := List.takeWhile_cons_of_neg (by decide)
  rw [firstItem, List.takeWhile_append, stop, List.append_nil]
  split
  · rename_i whole
    exact (List.IsPrefix.eq_of_length (List.takeWhile_prefix _) whole).symm
  · rfl

theorem firstItem_plain {text : List Char} (plain : ',' ∉ text) : firstItem text = text := by
  rw [firstItem, List.takeWhile_eq_self_iff]
  intro c among
  rw [decide_eq_true_eq]
  exact fun same => plain (same ▸ among)

theorem addressChar_visible {c : Char} (plain : IpText.isAddressChar c = true) :
    isWhitespace c = false ∧ c ≠ ',' := by
  have range := IpText.addressChar_range plain
  constructor
  · simp only [isWhitespace, Bool.or_eq_false_iff, Bool.and_eq_false_iff, decide_eq_false_iff_not,
      beq_eq_false_iff_ne]
    omega
  · intro same
    rw [same] at range
    exact absurd range (by decide)

end Text

section Forward

variable (proxy : TrustedProxy) (peer : IpAddr) (conn : Option SocketAddr) (sent : HeaderMap)

theorem TrustedProxy.text : ∃ text, toStr (proxy.written peer) = some text ∧
    IpAddr.parse text = some peer ∧ firstItem text = text ∧ trim text = text := by
  obtain ⟨text, visible, parsed⟩ := Option.bind_eq_some_iff.mp (proxy.reads peer)
  obtain ⟨address, read, _⟩ := Option.map_eq_some_iff.mp parsed
  have plain : ∀ c ∈ text, isWhitespace c = false ∧ c ≠ ',' := fun c among =>
    addressChar_visible (IpText.parse_plain read c among)
  refine ⟨text, visible, parsed, ?_, ?_⟩
  · exact firstItem_plain fun among => (plain _ among).2 rfl
  · exact Http.trim_plain fun c among => (plain c among).1

theorem firstHop_written : firstHop (proxy.written peer) = some peer := by
  obtain ⟨text, visible, parsed, item, trimmed⟩ := proxy.text peer
  rw [firstHop, visible, Option.bind_some, item, trimmed, parsed]

/-- What the proxy appends comes behind the first item. -/
theorem firstHop_appended (own : List UInt8) :
    firstHop (own ++ [44, 32] ++ proxy.written peer) = firstHop own := by
  obtain ⟨text, visible, _, _, _⟩ := proxy.text peer
  have separator : toStr [44, 32] = some [',', ' '] := by decide
  simp only [firstHop, toStr_append, visible, separator, Option.map_some]
  cases toStr own with
  | none => rfl
  | some front =>
      have same : firstItem (front ++ [',', ' '] ++ text) = firstItem front := by
        rw [List.append_assoc]
        exact firstItem_comma front _
      simp only [Option.bind_some, same]

theorem lookup_others {name other : String} (apart : name ≠ other) (headers : HeaderMap) :
    HeaderMap.get (headers.filter fun header => header.1 ≠ other) name = headers.get name := by
  unfold HeaderMap.get
  induction headers with
  | nil => rfl
  | cons header headers ih =>
      by_cases dropped : header.1 = other
      · have differs : (name == header.1) = false := by
          rw [dropped]
          exact beq_false_of_ne apart
        rw [List.filter_cons_of_neg (by simp [dropped]), ih, List.lookup_cons, differs]
      · rw [List.filter_cons_of_pos (by simp [dropped]), List.lookup_cons, List.lookup_cons, ih]

theorem realIp_forward : realIp (proxy.forward peer sent) = realIp sent := by
  have apart : ("x-real-ip" == "x-forwarded-for") = false := by decide
  have kept : HeaderMap.get (proxy.forward peer sent) "x-real-ip" = sent.get "x-real-ip" := by
    have others := lookup_others (show "x-real-ip" ≠ "x-forwarded-for" by decide) sent
    rw [← others, HeaderMap.get, TrustedProxy.forward, List.lookup_cons, apart]
    rfl
  rw [realIp, realIp, kept]

theorem clientIp_forward : clientIp (proxy.forward peer sent) conn true =
    match firstHop (proxy.forwarded peer sent) with
    | some ip => ip
    | none =>
        match realIp sent with
        | some ip => ip
        | none => socketIp conn := by
  have first : HeaderMap.get (proxy.forward peer sent) "x-forwarded-for" =
      some (proxy.forwarded peer sent) := by
    rw [HeaderMap.get, TrustedProxy.forward, List.lookup_cons, beq_self_eq_true]
  simp only [clientIp, first, Option.bind_some, realIp_forward, ↓reduceIte]

/-- The key is the peer exactly when nothing that the client sent says otherwise. -/
theorem clientIp_peer : clientIp (proxy.forward peer sent) conn true = peer ↔
    Unforged peer conn sent := by
  rw [clientIp_forward, TrustedProxy.forwarded]
  cases present : ownForwarded sent with
  | none =>
      dsimp only
      rw [firstHop_written]
      exact iff_of_true rfl (.unsent present)
  | some own =>
      dsimp only
      rw [firstHop_appended]
      constructor
      · intro keyed
        cases named : firstHop own with
        | some ip =>
            rw [named] at keyed
            exact .named own present (named.trans (congrArg some keyed))
        | none =>
            rw [named] at keyed
            cases real : realIp sent with
            | some ip =>
                rw [real] at keyed
                exact .real own present named (real.trans (congrArg some keyed))
            | none =>
                rw [real] at keyed
                exact .socket own present named real keyed
      · intro unforged
        cases unforged with
        | unsent absent => cases present.symm.trans absent
        | named other same named =>
            cases present.symm.trans same
            rw [named]
        | real other same nameless real =>
            cases present.symm.trans same
            rw [nameless, real]
        | socket other same nameless unreal direct =>
            cases present.symm.trans same
            rw [nameless, unreal]
            exact direct

/-- A new limiter tells its keys apart: the one that was charged has a bucket. -/
theorem charged_same {ip other : IpAddr}
    (same : ((new 1 1).check ip 0).2 = ((new 1 1).check other 0).2) : ip = other := by
  by_contra apart
  have enabled : 0 < (new 1 1).refillPerSec := by decide
  have charged : ((new 1 1).check ip 0).2.buckets ip = ((new 1 1).check other 0).2.buckets ip :=
    congrArg (fun limiter => limiter.buckets ip) same
  rw [check_own enabled, check_other apart] at charged
  cases charged

end Forward

section Numeric

def IpAddr.text : IpAddr → List Char
  | .v4 bits => IpText.ipv4Text bits
  | .v6 bits => IpText.ipv6Text bits

theorem IpAddr.parse_text (ip : IpAddr) : IpAddr.parse ip.text = some ip := by
  cases ip with
  | v4 bits => simp only [IpAddr.parse, IpAddr.text, IpText.parse_ipv4Text, Option.map_some]
  | v6 bits => simp only [IpAddr.parse, IpAddr.text, IpText.parse_ipv6Text, Option.map_some]

theorem IpAddr.text_plain (ip : IpAddr) : ∀ c ∈ ip.text, IpText.isAddressChar c = true := by
  cases ip with
  | v4 bits => exact IpText.parse_plain (IpText.parse_ipv4Text bits)
  | v6 bits => exact IpText.parse_plain (IpText.parse_ipv6Text bits)

theorem toStr_plain {text : List Char} (plain : ∀ c ∈ text, IpText.isAddressChar c = true) :
    toStr (text.map fun c => UInt8.ofNat c.toNat) = some text := by
  have byte : ∀ c ∈ text, (UInt8.ofNat c.toNat).toNat = c.toNat := by
    intro c among
    have range := IpText.addressChar_range (plain c among)
    rw [UInt8.toNat_ofNat', Nat.mod_eq_of_lt (by omega)]
  have visible : (text.map fun c => UInt8.ofNat c.toNat).all visibleAscii = true := by
    rw [List.all_map, List.all_eq_true]
    intro c among
    have range := IpText.addressChar_range (plain c among)
    have value := byte c among
    simp only [Function.comp_apply, visibleAscii, Bool.or_eq_true, Bool.and_eq_true,
      decide_eq_true_eq, UInt8.le_iff_toNat_le, UInt8.lt_iff_toNat_lt, value]
    left
    exact ⟨show 32 ≤ c.toNat by omega, show c.toNat < 127 by omega⟩
  have back : (text.map fun c => UInt8.ofNat c.toNat).map (fun byte => Char.ofNat byte.toNat) =
      text := by
    rw [List.map_map]
    calc text.map ((fun byte => Char.ofNat byte.toNat) ∘ fun c => UInt8.ofNat c.toNat)
        = text.map id := List.map_congr_left fun c among => by
          rw [Function.comp_apply, byte c among, Char.ofNat_toNat, id_eq]
      _ = text := List.map_id text
  rw [toStr, if_pos visible, back]

/-- A proxy that writes the address of the peer in full. -/
def numericProxy : TrustedProxy where
  written peer := peer.text.map fun c => UInt8.ofNat c.toNat
  reads peer := by
    rw [toStr_plain peer.text_plain, Option.bind_some]
    exact peer.parse_text

end Numeric

/-- Behind the trusted proxy the key is the peer, and the bucket is the same as for a request
of the peer that is not forged, exactly when the request is not forged. -/
theorem forwarded_key_iff (proxy : TrustedProxy) (peer : IpAddr) (conn : Option SocketAddr)
    (sent : HeaderMap) :
    (clientIp (proxy.forward peer sent) conn true = peer ↔ Unforged peer conn sent) ∧
      ∀ other otherConn, Unforged peer otherConn other →
        ((∀ limiter now, rateLimit limiter (proxy.forward peer sent) conn true now =
            rateLimit limiter (proxy.forward peer other) otherConn true now) ↔
          Unforged peer conn sent) := by
  refine ⟨clientIp_peer proxy peer conn sent, ?_⟩
  intro other otherConn unforged
  have otherKey := (clientIp_peer proxy peer otherConn other).mpr unforged
  rw [← clientIp_peer proxy peer conn sent]
  constructor
  · intro same
    have charged := congrArg Prod.snd (same (new 1 1) 0)
    simp only [rateLimit] at charged
    rw [charged_same charged, otherKey]
  · intro keyed limiter now
    simp only [rateLimit, keyed, otherKey]

def clientAddress : IpAddr := .v4 0xCB007107

def proxySocket : SocketAddr := ⟨.v4 0x0A000001, 443⟩

def ownHeader (text : String) : HeaderMap := [("x-forwarded-for", text.toUTF8.toList)]

theorem forwarded_key_iff_own :
    clientIp (numericProxy.forward clientAddress (ownHeader " 203.0.113.7 ,x")) proxySocket true =
        clientAddress ∧
      ∀ limiter now,
        rateLimit limiter (numericProxy.forward clientAddress (ownHeader " 203.0.113.7 ,x"))
            proxySocket true now =
          rateLimit limiter (numericProxy.forward clientAddress []) proxySocket true now := by
  have own : Unforged clientAddress proxySocket (ownHeader " 203.0.113.7 ,x") :=
    .named " 203.0.113.7 ,x".toUTF8.toList (by decide +kernel) (by decide +kernel)
  have plain : Unforged clientAddress proxySocket [] := .unsent rfl
  obtain ⟨keyed, charged⟩ := forwarded_key_iff numericProxy clientAddress proxySocket
    (ownHeader " 203.0.113.7 ,x")
  exact ⟨keyed.mpr own, (charged [] proxySocket plain).mpr own⟩

/-- The client names another address, and a bucket of that address pays for the request. -/
theorem forwarded_key_spoofed :
    (¬ ∀ (proxy : TrustedProxy) (peer : IpAddr) (conn : Option SocketAddr) (sent : HeaderMap),
        clientIp (proxy.forward peer sent) conn true = peer) ∧
      ¬ ∀ (proxy : TrustedProxy) (peer : IpAddr) (conn : Option SocketAddr)
          (sent other : HeaderMap) (limiter : RateLimiter) (now : ℚ),
        rateLimit limiter (proxy.forward peer sent) conn true now =
          rateLimit limiter (proxy.forward peer other) conn true now := by
  have spoof : clientIp (numericProxy.forward clientAddress (ownHeader "1.2.3.4")) proxySocket
      true = .v4 0x01020304 := by
    decide +kernel
  constructor
  · intro chosen
    have kept := chosen numericProxy clientAddress proxySocket (ownHeader "1.2.3.4")
    exact absurd (spoof.symm.trans kept) (by decide)
  · intro same
    have plain : clientIp (numericProxy.forward clientAddress []) proxySocket true =
        clientAddress := by
      decide
    have charged := congrArg Prod.snd
      (same numericProxy clientAddress proxySocket (ownHeader "1.2.3.4") [] (new 1 1) 0)
    simp only [rateLimit, spoof, plain] at charged
    exact absurd (charged_same charged) (by decide)

end ActorServices.RateLimit
