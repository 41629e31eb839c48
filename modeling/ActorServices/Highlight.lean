import ActorServices.ClientCrypto
import ActorServices.Regex

set_option autoImplicit false

namespace ActorServices.Pastebin.App

open Js

section Patterns

open Regex

def isDigit (u : UInt16) : Bool := 48 ≤ u && u ≤ 57

/-- The units of `\\w`. -/
def isWordUnit (u : UInt16) : Bool := isIdUnit u || u == unit '_'

/-- The units that `.` does not match. -/
def isLineTerminator (u : UInt16) : Bool := u == 10 || u == 13 || u == 0x2028 || u == 0x2029

def blockComment : Regex UInt16 :=
  .seq (.literal (ascii "/*")) (.seq (.star false (.symbol fun _ => true)) (.literal (ascii "*/")))

/-- A comment that ends before the next line feed. -/
def restOfLine (start : String) : Regex UInt16 :=
  .seq (.literal (ascii start)) (.star true (.symbol (· != 10)))

def comment : Regex UInt16 := .oneOf [blockComment, restOfLine "//", restOfLine "#"]

/-- A backslash takes the unit behind it along. -/
def quoted (quote : UInt16) : Regex UInt16 :=
  .seq (.symbol (· == quote)) (.seq
    (.star true (.alt
      (.seq (.symbol (· == unit '\\')) (.symbol (!isLineTerminator ·)))
      (.symbol fun u => u != quote && u != unit '\\')))
    (.symbol (· == quote)))

/-- The double quote, the single quote and the backquote. -/
def quotes : List UInt16 := [34, 39, 96]

def string : Regex UInt16 := .oneOf (quotes.map quoted)

def isNumberUnit (u : UInt16) : Bool := isWordUnit u || u == unit '.'

def number : Regex UInt16 :=
  .seq .boundary (.seq (.symbol isDigit) (.seq (.star true (.symbol isNumberUnit)) .boundary))

def keywords : List String :=
  ["if", "else", "elif", "for", "while", "do", "return", "fn", "function", "def", "const", "let",
    "var", "class", "struct", "enum", "impl", "trait", "pub", "use", "mod", "import", "from",
    "export", "match", "case", "switch", "break", "continue", "new", "public", "private",
    "protected", "static", "void", "int", "float", "double", "char", "bool", "boolean", "string",
    "str", "true", "false", "null", "nil", "None", "True", "False", "async", "await", "try",
    "catch", "finally", "throw", "package", "interface", "extends", "implements", "select",
    "insert", "update", "delete", "where", "echo"]

def keyword : Regex UInt16 :=
  .seq .boundary (.seq (.oneOf (keywords.map fun word => .literal (ascii word))) .boundary)

/-- The four capturing groups of `HL`. -/
inductive TokenKind
  | comment
  | string
  | number
  | keyword
  deriving DecidableEq, Repr

def HL : List (TokenKind × Regex UInt16) :=
  [(.comment, comment), (.string, string), (.number, number), (.keyword, keyword)]

end Patterns

def escapeUnit (u : UInt16) : JsString :=
  if u = unit '&' then ascii "&amp;"
  else if u = unit '<' then ascii "&lt;"
  else if u = unit '>' then ascii "&gt;"
  else [u]

def escapeHtml (s : JsString) : JsString := s.flatMap escapeUnit

def TokenKind.className : TokenKind → String
  | .comment => "tok-comment"
  | .string => "tok-string"
  | .number => "tok-number"
  | .keyword => "tok-keyword"

def openTag (kind : TokenKind) : JsString :=
  ascii "<span class=\"" ++ ascii kind.className ++ ascii "\">"

def closeTag : JsString := ascii "</span>"

def span (kind : TokenKind) (text : JsString) : JsString := openTag kind ++ text ++ closeTag

/-- What the groups captured, for a match by one of them. -/
def capture (matched : TokenKind) (text : JsString) (group : TokenKind) : Option JsString :=
  if group = matched then some text else none

/-- An empty capture is as falsy as one that is missing. -/
def present (captured : Option JsString) : Option JsString := captured.filter (· ≠ [])

/-- The callback of `replace`. -/
def replacement (c s n k : Option JsString) : JsString :=
  match present c, present s, present n with
  | some c, _, _ => span .comment c
  | none, some s, _ => span .string s
  | none, none, some n => span .number n
  | none, none, none => span .keyword (k.getD (ascii "undefined"))

def render : Regex.Piece TokenKind UInt16 → JsString
  | .plain u => [u]
  | .token kind text =>
      let captured := capture kind text
      replacement (captured .comment) (captured .string) (captured .number) (captured .keyword)

def maxHighlightLen : Nat := 200000

def tokenize (esc : JsString) : List (Regex.Piece TokenKind UInt16) :=
  Regex.pieces (Regex.exec isWordUnit HL) (esc.length + 1) ⟨[], esc⟩

/-- The markup, unless the text stays plain. -/
def highlight (text : JsString) (syntaxHint : Value) : Option JsString :=
  let esc := escapeHtml text
  if !syntaxHint.truthy || maxHighlightLen < esc.length then none
  else some ((tokenize esc).flatMap render)

end ActorServices.Pastebin.App
