import ActorServices.ConnectionFraming
import ActorServices.HeadRequests
import ActorServices.HttpOrder

set_option autoImplicit false

namespace ActorServices.Connection

open Http

/-- A line that says nothing about framing, as a client may add it. -/
def PlainField (line : List Char) : Prop :=
  '\r' ∉ line ∧ ∃ name value, header line = some (name, value) ∧ name ∉ framingNames

/-- A part of a request line. -/
def PlainPart (part : List Char) : Prop := part ≠ [] ∧ ' ' ∉ part ∧ '\r' ∉ part

/-- A request as a client writes it: any body, with its length and what is to become of the
connection behind the client's own headers. -/
structure Request where
  method : List Char
  path : List Char
  modern : Bool
  fields : List (List Char)
  keepAlive : Bool
  body : List UInt8
  method_plain : PlainPart method
  path_plain : PlainPart path
  fields_plain : ∀ line ∈ fields, PlainField line

namespace Request

variable (request : Request)

def version : List Char := if request.modern then "HTTP/1.1".toList else "HTTP/1.0".toList

def requestLine : List Char :=
  [' '].intercalate [request.method, request.path, request.version]

def lengthLine : List Char :=
  "content-length".toList ++ ':' :: ' ' :: Nat.toDigits 10 request.body.length

def connectionLine : List Char :=
  "connection".toList ++ ':' :: ' ' :: (connectionValue request.keepAlive).toList

def headerLines : List (List Char) :=
  request.fields ++ [request.lengthLine, request.connectionLine]

def headBytes : List UInt8 :=
  assemble (Utf8.encode request.requestLine) (request.headerLines.map Utf8.encode)

def bytes : List UInt8 := request.headBytes ++ request.body

/-- What the server is to make of it. -/
def head : RequestHead :=
  ⟨.ofList request.method, .ofList request.path, request.keepAlive, request.body.length⟩

end Request

/-- The requests up to the first that closes the connection. -/
def served : List Request → List Request
  | [] => []
  | request :: requests => request :: if request.keepAlive then served requests else []

/-- The response to the request at this position. -/
def answer (route : Nat → RequestHead → Reply) (entry : Request × Nat) : Response :=
  (route entry.2 entry.1.head).response entry.1.head entry.1.keepAlive

section Number

end Number

section Parse

variable (request : Request)

theorem Request.headerLines_plain : ∀ line ∈ request.headerLines, '\r' ∉ line ∧ line ≠ [] := by
  have value : '\r' ∉ (connectionValue request.keepAlive).toList := by
    intro among
    have plain := connectionValue_plain _ _ among
    exact absurd plain (by decide)
  intro line among
  rcases List.mem_append.mp among with field | framing
  · obtain ⟨plain, name, value, found, -⟩ := request.fields_plain line field
    refine ⟨plain, ?_⟩
    rintro rfl
    cases found
  · simp only [List.mem_cons, List.not_mem_nil, or_false] at framing
    rcases framing with rfl | rfl
    · exact header_plain (by decide) digits_plain
    · exact header_plain (by decide) value

end Parse

section Exchange

variable {maxBodyBytes : Nat} {route : Nat → RequestHead → Reply} {requests : List Request}

end Exchange

end ActorServices.Connection
