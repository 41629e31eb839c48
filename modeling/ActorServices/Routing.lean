import ActorServices.Utf8

set_option autoImplicit false

namespace ActorServices.Routing

inductive Segment
  | static (text : String)
  | param
  deriving DecidableEq, Repr

structure Route (α : Type) where
  pattern : List Segment
  endpoint : α

/-- The parts between the slashes, behind the first one. -/
def segments (path : String) : Option (List String) :=
  match path.toList with
  | '/' :: rest => some ((rest.splitOn '/').map String.ofList)
  | _ => none

/-- The values of the parameters, if the pattern matches. A parameter is not empty. -/
def capture : List Segment → List String → Option (List String)
  | [], [] => some []
  | .static text :: pattern, part :: parts => if part = text then capture pattern parts else none
  | .param :: pattern, part :: parts =>
      if part = "" then none else (capture pattern parts).map fun values => part :: values
  | _, _ => none

def Route.static {α : Type} (route : Route α) : Bool :=
  route.pattern.all fun segment => segment != .param

/-- The endpoint of the path, and the values of its parameters. -/
def lookup {α : Type} (routes : List (Route α)) (path : String) : Option (α × List String) :=
  (segments path).bind fun parts =>
    let found := routes.filterMap fun route =>
      (capture route.pattern parts).map fun values => (route, values)
    ((found.find? fun match_ => match_.1.static).or found.head?).map fun match_ =>
      (match_.1.endpoint, match_.2)

def hexDigit (byte : UInt8) : Option UInt8 :=
  if 48 ≤ byte ∧ byte ≤ 57 then some (byte - 48)
  else if 65 ≤ byte ∧ byte ≤ 70 then some (byte - 55)
  else if 97 ≤ byte ∧ byte ≤ 102 then some (byte - 87)
  else none

/-- `%` and two digits for a byte; anything else stands for itself. -/
def percentDecode : List UInt8 → List UInt8
  | [] => []
  | byte :: high :: low :: rest =>
      if byte = 37 then
        match hexDigit high, hexDigit low with
        | some first, some second => (16 * first + second) :: percentDecode rest
        | _, _ => byte :: percentDecode (high :: low :: rest)
      else byte :: percentDecode (high :: low :: rest)
  | byte :: rest => byte :: percentDecode rest

/-- The text of a parameter. -/
def paramText (part : String) : Option String :=
  (Utf8.decode (percentDecode (Utf8.encode part.toList))).map String.ofList

theorem percentDecode_plain {bytes : List UInt8} (plain : 37 ∉ bytes) :
    percentDecode bytes = bytes := by
  fun_induction percentDecode bytes with
  | case1 => rfl
  | case2 high low rest first second _ _ ih => exact absurd List.mem_cons_self plain
  | case3 high low rest _ ih => exact absurd List.mem_cons_self plain
  | case4 byte high low rest other ih =>
      rw [ih fun among => plain (List.mem_cons_of_mem _ among)]
  | case5 byte rest short ih =>
      rw [ih fun among => plain (List.mem_cons_of_mem _ among)]

theorem paramText_plain {part : String} (plain : 37 ∉ Utf8.encode part.toList) :
    paramText part = some part := by
  rw [paramText, percentDecode_plain plain, Utf8.decode_encode, Option.map_some,
    String.ofList_toList]

/-- A path of one segment. -/
theorem segments_single {part : String} (whole : '/' ∉ part.toList) :
    segments ("/" ++ part) = some [part] := by
  have path : ("/" ++ part).toList = '/' :: part.toList := String.toList_append
  rw [segments, path]
  simp [List.splitOn_eq_singleton whole]

/-- One more segment in front of a path. -/
theorem segments_cons {part path : String} {parts : List String} (whole : '/' ∉ part.toList)
    (behind : segments path = some parts) :
    segments ("/" ++ part ++ path) = some (part :: parts) := by
  unfold segments at behind
  split at behind
  · rename_i rest same
    have text : ("/" ++ part ++ path).toList = '/' :: (part.toList ++ '/' :: rest) := by
      rw [String.toList_append, String.toList_append, same]
      rfl
    rw [segments, text]
    simp only [List.splitOn_append_cons_self_of_not_mem whole, List.map_cons, String.ofList_toList,
      Option.some.inj behind]
  · cases behind

end ActorServices.Routing
