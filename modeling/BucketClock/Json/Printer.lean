import BucketClock.Json.Basic

/-!
JSON as text, without blanks. In a string a quote, a backslash and the control
characters below the space are escaped, and everything else stands for itself.
-/

namespace BucketClock.Json

def hex4 (n : Nat) : List Char :=
  let digits := Nat.toDigits 16 n
  List.replicate (4 - digits.length) '0' ++ digits

def writeChar (c : Char) : List Char :=
  if c = '"' || c = '\\' then ['\\', c]
  else if c = '\x08' then ['\\', 'b']
  else if c = '\t' then ['\\', 't']
  else if c = '\n' then ['\\', 'n']
  else if c = '\x0c' then ['\\', 'f']
  else if c = '\r' then ['\\', 'r']
  else if c.toNat < 0x20 then '\\' :: 'u' :: hex4 c.toNat
  else [c]

def writeString (s : String) : List Char := '"' :: (s.toList.flatMap writeChar ++ ['"'])

mutual

def write : Json → List Char
  | .null => "null".toList
  | .bool true => "true".toList
  | .bool false => "false".toList
  | .num literal => literal.toList
  | .str text => writeString (text.getD "")
  | .arr items => '[' :: (writeItems items ++ [']'])
  | .obj members => '\x7b' :: (writeMembers members ++ ['\x7d'])

def writeItems : List Json → List Char
  | [] => []
  | [j] => write j
  | j :: rest => write j ++ ',' :: writeItems rest

def writeMembers : List (Option String × Json) → List Char
  | [] => []
  | [(key, j)] => writeString (key.getD "") ++ ':' :: write j
  | (key, j) :: rest => writeString (key.getD "") ++ ':' :: write j ++ ',' :: writeMembers rest

end

def compact (j : Json) : String := String.ofList j.write

end BucketClock.Json
