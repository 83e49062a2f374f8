import EventTally.Json.Basic
import EventTally.Text.Hex

/-! Compact JSON text: no white space, members in their order, and in strings only the quote, the
backslash and the control characters escaped. -/

namespace EventTally.Json

def escape (c : Char) : List Char :=
  match c with
  | '"' => ['\\', '"']
  | '\\' => ['\\', '\\']
  | '\x08' => ['\\', 'b']
  | '\x0c' => ['\\', 'f']
  | '\n' => ['\\', 'n']
  | '\r' => ['\\', 'r']
  | '\t' => ['\\', 't']
  | c =>
    if c.toNat < 0x20 then ['\\', 'u', '0', '0', Hex.digit (c.toNat / 16), Hex.digit c.toNat]
    else [c]

def quote (s : String) : List Char := '"' :: s.toList.flatMap escape ++ ['"']

mutual

def chars : Json → List Char
  | null | unreadable => ['n', 'u', 'l', 'l']
  | bool true => ['t', 'r', 'u', 'e']
  | bool false => ['f', 'a', 'l', 's', 'e']
  | int n => (toString n).toList
  | real text => text.toList
  | str s => quote s
  | arr items => '[' :: itemChars items ++ [']']
  | obj members => '{' :: memberChars members ++ ['}']

def itemChars : List Json → List Char
  | [] => []
  | [j] => chars j
  | j :: rest => chars j ++ ',' :: itemChars rest

def memberChars : List (String × Json) → List Char
  | [] => []
  | [(name, j)] => quote name ++ ':' :: chars j
  | (name, j) :: rest => quote name ++ ':' :: chars j ++ ',' :: memberChars rest

end

def render (j : Json) : String := String.ofList j.chars

end EventTally.Json
