import Federation.Json.Basic
import Federation.Double.Shortest

namespace Federation.Json

def hexDigit (n : Nat) : Char := Nat.digitChar (n % 16)

/-- One character of a string literal: quotes, backslashes and controls are escaped. -/
def escapeChar (c : Char) : List Char :=
  match c with
  | '"' => ['\\', '"']
  | '\\' => ['\\', '\\']
  | '\x08' => ['\\', 'b']
  | '\t' => ['\\', 't']
  | '\n' => ['\\', 'n']
  | '\x0c' => ['\\', 'f']
  | '\r' => ['\\', 'r']
  | c =>
    if c.toNat < 0x20 then ['\\', 'u', '0', '0', hexDigit (c.toNat / 16), hexDigit c.toNat]
    else [c]

def literal (s : String) : List Char := ['"'] ++ s.toList.flatMap escapeChar ++ ['"']

def scalar : Json → List Char
  | .null => "null".toList
  | .bool true => "true".toList
  | .bool false => "false".toList
  | .integer n => (toString n).toList
  | .double x => x.text.toList
  | .string s => literal s
  | .array _ | .object _ => []

mutual

def compactChars : Json → List Char
  | .array items => ['['] ++ compactItems items ++ [']']
  | .object fields => ['\x7b'] ++ compactFields fields ++ ['\x7d']
  | v => scalar v

def compactItems : List Json → List Char
  | [] => []
  | [v] => compactChars v
  | v :: rest => compactChars v ++ [','] ++ compactItems rest

def compactFields : List (String × Json) → List Char
  | [] => []
  | [(k, v)] => literal k ++ [':'] ++ compactChars v
  | (k, v) :: rest => literal k ++ [':'] ++ compactChars v ++ [','] ++ compactFields rest

end

def compact (v : Json) : String := String.ofList (compactChars v)

def newline (depth : Nat) : List Char := '\n' :: List.replicate (2 * depth) ' '

mutual

def prettyChars (depth : Nat) : Json → List Char
  | .array [] => ['[', ']']
  | .array items =>
    ['['] ++ newline (depth + 1) ++ prettyItems (depth + 1) items ++ newline depth ++ [']']
  | .object [] => ['\x7b', '\x7d']
  | .object fields =>
    ['\x7b'] ++ newline (depth + 1) ++ prettyFields (depth + 1) fields ++ newline depth ++ ['\x7d']
  | v => scalar v

def prettyItems (depth : Nat) : List Json → List Char
  | [] => []
  | [v] => prettyChars depth v
  | v :: rest => prettyChars depth v ++ [','] ++ newline depth ++ prettyItems depth rest

def prettyFields (depth : Nat) : List (String × Json) → List Char
  | [] => []
  | [(k, v)] => literal k ++ [':', ' '] ++ prettyChars depth v
  | (k, v) :: rest =>
    literal k ++ [':', ' '] ++ prettyChars depth v ++ [','] ++ newline depth ++
      prettyFields depth rest

end

def pretty (v : Json) : String := String.ofList (prettyChars 0 v)

end Federation.Json
