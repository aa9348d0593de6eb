import DynamicDns.Decimal.Layout
import DynamicDns.Json.Basic

/-!
# YAML documents

A value in block style: a member or an item a line, and what is inside a member is indented by two
blanks, except that a list stands right below the member that holds it. Texts of several lines are
literal blocks, and a text that would be read as something else stands in single quotes.
-/

namespace DynamicDns.Yaml

/-- A value on its way to a document: on one line, in a block below its first line, or as the lines
of a mapping or of a list. -/
inductive Draft where
  | inline (text : String)
  | block (head : String) (lines : List String)
  | mapping (lines : List String)
  | list (lines : List String)

/-- A line one level further in; an empty line stays empty. -/
def indent (line : String) : String := if line = "" then "" else "  " ++ line

/-! ### Texts -/

/-- Words that stand for something else than a text. -/
def reservedWords : List String := ["", "~", "null", "true", "false"]

/-- Characters that mean something else at the beginning of a text. -/
def openers : List Char := "-?:,[]\x7b\x7d#&*!|>'\"%@`".toList

def looksNumeric (text : List Char) : Bool :=
  text.any Char.isDigit && text.all fun c => c.isDigit || "+-._eExXoOaAbBcCdDfF".toList.contains c

/-- Whether a character is followed by a blank, or by nothing. -/
def followed (c : Char) : List Char → Bool
  | [] => false
  | [last] => last = c
  | a :: b :: rest => (a = c && b = ' ') || followed c (b :: rest)

/-- Whether a comment would begin inside a text. -/
def hidesTail : List Char → Bool
  | ' ' :: '#' :: _ => true
  | _ :: rest => hidesTail rest
  | [] => false

def isPlain (text : String) : Bool :=
  let chars := text.toList
  !reservedWords.contains text.toLower && !looksNumeric chars &&
    !(chars.head?.any openers.contains) && chars.head? ≠ some ' ' && chars.getLast? ≠ some ' ' &&
    !followed ':' chars && !hidesTail chars

/-- A text in single quotes; a quote inside is written twice. -/
def quoted (text : String) : String :=
  "'" ++ String.ofList (text.toList.flatMap fun c => if c = '\'' then [c, c] else [c]) ++ "'"

/-- How a literal block ends: without, with one, or with more line ends. -/
def chomping (text : String) : String :=
  if text.endsWith "\n\n" then "+" else if text.endsWith "\n" then "" else "-"

/-- The lines of a text, without the line end that closes it. -/
def linesOf (text : String) : List String :=
  let lines := text.splitOn "\n"
  if text.endsWith "\n" then lines.dropLast else lines

def text (value : String) : Draft :=
  if value.toList.contains '\n' then
    let hint := if value.startsWith " " || value.startsWith "\n" then "2" else ""
    .block ("|" ++ hint ++ chomping value) (linesOf value)
  else .inline (if isPlain value then value else quoted value)

/-! ### Values -/

def memberLines (key : String) : Draft → List String
  | .inline text => [key ++ ": " ++ text]
  | .block head lines => (key ++ ": " ++ head) :: lines.map indent
  | .mapping lines => (key ++ ":") :: lines.map indent
  | .list lines => (key ++ ":") :: lines

def itemLines : Draft → List String
  | .inline text => ["- " ++ text]
  | .block head lines => ("- " ++ head) :: lines.map indent
  | .mapping lines | .list lines =>
    match lines with
    | [] => ["-"]
    | first :: rest => ("- " ++ first) :: rest.map indent

mutual

def draft : Json → Draft
  | .null => .inline "null"
  | .bool value => .inline (if value then "true" else "false")
  | .int value => .inline (toString value)
  | .float bits => .inline (Decimal.render Decimal.json bits)
  | .str value => text value
  | .arr [] => .inline "[]"
  | .arr items => .list (draftItems items)
  | .obj [] => .inline "\x7b\x7d"
  | .obj members => .mapping (draftMembers members)

def draftItems : List Json → List String
  | [] => []
  | item :: rest => itemLines (draft item) ++ draftItems rest

def draftMembers : List (String × Json) → List String
  | [] => []
  | (key, value) :: rest =>
    let name := if isPlain key then key else quoted key
    memberLines name (draft value) ++ draftMembers rest

end

def lines (value : Json) : List String :=
  match draft value with
  | .inline text => [text]
  | .block head lines => head :: lines.map indent
  | .mapping lines | .list lines => lines

def document (value : Json) : String := String.join ((lines value).map (· ++ "\n"))

end DynamicDns.Yaml
