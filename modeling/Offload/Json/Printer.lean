import Offload.Json.Basic
import Offload.Text.Hex

/-!
JSON text, on one line or indented by two blanks. Strings escape the quote, the backslash and control
characters, and nothing else. What spells no text is written as null.
-/
namespace Offload.Json

def escapedLiteral (c : Char) : List Char :=
  if c = '"' then ['\\', '"']
  else if c = '\\' then ['\\', '\\']
  else if c = '\x08' then ['\\', 'b']
  else if c = '\x0c' then ['\\', 'f']
  else if c = '\n' then ['\\', 'n']
  else if c = '\r' then ['\\', 'r']
  else if c = '\t' then ['\\', 't']
  else if c.toNat < 0x20 then ['\\', 'u'] ++ Text.hexDigits 4 c.toNat
  else [c]

def literal (text : String) : String :=
  String.ofList (['"'] ++ text.toList.flatMap escapedLiteral ++ ['"'])

mutual

def compact : Json → String
  | .null | .unreadable => "null"
  | .bool true => "true"
  | .bool false => "false"
  | .int n => toString n
  | .real text => text
  | .str text => literal text
  | .arr items => "[" ++ compactItems items ++ "]"
  | .obj members => "\x7b" ++ compactMembers members ++ "\x7d"

def compactItems : List Json → String
  | [] => ""
  | [item] => compact item
  | item :: rest => compact item ++ "," ++ compactItems rest

def compactMembers : List (String × Json) → String
  | [] => ""
  | [(name, item)] => literal name ++ ":" ++ compact item
  | (name, item) :: rest => literal name ++ ":" ++ compact item ++ "," ++ compactMembers rest

end

def indent (depth : Nat) : String :=
  "\n" ++ String.ofList (List.replicate (2 * depth) ' ')

mutual

/-- Each item and each member on a line of its own, `depth` steps from the margin. -/
def pretty (depth : Nat) : Json → String
  | .arr [] => "[]"
  | .obj [] => "\x7b\x7d"
  | .arr items => "[" ++ prettyItems (depth + 1) items ++ indent depth ++ "]"
  | .obj members => "\x7b" ++ prettyMembers (depth + 1) members ++ indent depth ++ "\x7d"
  | .null | .unreadable => "null"
  | .bool true => "true"
  | .bool false => "false"
  | .int n => toString n
  | .real text => text
  | .str text => literal text

def prettyItems (depth : Nat) : List Json → String
  | [] => ""
  | [item] => indent depth ++ pretty depth item
  | item :: rest => indent depth ++ pretty depth item ++ "," ++ prettyItems depth rest

def prettyMembers (depth : Nat) : List (String × Json) → String
  | [] => ""
  | [(name, item)] => indent depth ++ literal name ++ ": " ++ pretty depth item
  | (name, item) :: rest =>
    indent depth ++ literal name ++ ": " ++ pretty depth item ++ "," ++ prettyMembers depth rest

end

end Offload.Json
