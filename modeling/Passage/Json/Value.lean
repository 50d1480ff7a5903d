/-!
# JSON values and their text

A JSON value keeps the fields of an object in order and a number as it is written.
A string token may hold lone surrogates or bytes that encode nothing; such a token
is a value, but no text.
-/

namespace Passage.Json

inductive Value
  | null
  | bool (b : Bool)
  | number (digits : List Char)
  /-- A string token; `none` if its content is no text. -/
  | string (s : Option String)
  | array (items : List Value)
  | object (fields : List (Option String × Value))
  deriving Repr, Inhabited

namespace Value

def text (s : String) : Value := string (some s)

def nat (n : Nat) : Value := number (Nat.toDigits 10 n)

def record (fields : List (String × Value)) : Value :=
  object (fields.map fun (k, v) => (some k, v))

/-- The value, or null where there is none. -/
def ofOption {α : Type} (f : α → Value) : Option α → Value
  | some a => f a
  | none => null

end Value

/-- A character inside a string: quotes, backslashes and control characters are escaped. -/
def escapeChar (c : Char) : List Char :=
  if c = '"' then ['\\', '"']
  else if c = '\\' then ['\\', '\\']
  else if c = '\n' then ['\\', 'n']
  else if c = '\r' then ['\\', 'r']
  else if c = '\t' then ['\\', 't']
  else if c.toNat = 8 then ['\\', 'b']
  else if c.toNat = 12 then ['\\', 'f']
  else if c.toNat < 32 then
    ['\\', 'u', '0', '0', Nat.digitChar (c.toNat / 16), Nat.digitChar (c.toNat % 16)]
  else [c]

def quote : Option String → List Char
  | some s => '"' :: s.toList.flatMap escapeChar ++ ['"']
  | none => "\"\\ud800\"".toList

def boolText (b : Bool) : List Char := if b then "true".toList else "false".toList

mutual

/-- The value on one line, without blanks. -/
def Value.compact : Value → List Char
  | .null => "null".toList
  | .bool b => boolText b
  | .number digits => digits
  | .string s => quote s
  | .array items => '[' :: compactItems items ++ [']']
  | .object fields => '\x7b' :: compactFields fields ++ ['\x7d']

def compactItems : List Value → List Char
  | [] => []
  | [v] => v.compact
  | v :: vs => v.compact ++ ',' :: compactItems vs

def compactFields : List (Option String × Value) → List Char
  | [] => []
  | [(k, v)] => quote k ++ ':' :: v.compact
  | (k, v) :: fs => quote k ++ ':' :: v.compact ++ ',' :: compactFields fs

end

def newline (depth : Nat) : List Char := '\n' :: List.replicate (2 * depth) ' '

mutual

/-- The value over several lines, each level two blanks further in. -/
def Value.pretty (depth : Nat) : Value → List Char
  | .null => "null".toList
  | .bool b => boolText b
  | .number digits => digits
  | .string s => quote s
  | .array [] => "[]".toList
  | .array items => '[' :: prettyItems (depth + 1) items ++ newline depth ++ [']']
  | .object [] => "\x7b\x7d".toList
  | .object fields => '\x7b' :: prettyFields (depth + 1) fields ++ newline depth ++ ['\x7d']

def prettyItems (depth : Nat) : List Value → List Char
  | [] => []
  | [v] => newline depth ++ v.pretty depth
  | v :: vs => newline depth ++ v.pretty depth ++ ',' :: prettyItems depth vs

def prettyFields (depth : Nat) : List (Option String × Value) → List Char
  | [] => []
  | [(k, v)] => newline depth ++ quote k ++ ": ".toList ++ v.pretty depth
  | (k, v) :: fs =>
    newline depth ++ quote k ++ ": ".toList ++ v.pretty depth ++ ',' :: prettyFields depth fs

end

def Value.line (v : Value) : String := String.ofList v.compact

def Value.block (v : Value) : String := String.ofList (v.pretty 0)

end Passage.Json
