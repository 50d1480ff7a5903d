import Passage.Toml.Scalar

/-!
# Writing TOML

A document of tables with scalar values. A text is spelled the first way that needs no
escapes: between double quotes, between single quotes, then between three of either. If
every way needs them it stands between double quotes, three of them if it has line breaks.
Numbers beyond 64 bits cannot be written.
-/

namespace Passage.Toml

open Numeral (upperHex)

/-- The longest run of a mark in a text; `run` of them stand in front of it. -/
def longestRun (mark : Char) (run : Nat) : List Char → Nat
  | [] => run
  | c :: rest =>
    if c = mark then longestRun mark (run + 1) rest else max run (longestRun mark 0 rest)

/-- A character between double quotes; a line break stays one in a long string. -/
def escapeChar (long : Bool) (c : Char) : List Char :=
  if c = '\n' then (if long then ['\n'] else ['\\', 'n'])
  else if c = '\t' then ['\\', 't']
  else if c = '\r' then ['\\', 'r']
  else if c = '"' then ['\\', '"']
  else if c = '\\' then ['\\', '\\']
  else if c.toNat = 8 then ['\\', 'b']
  else if c.toNat = 12 then ['\\', 'f']
  else if isControl c then
    ['\\', 'u', '0', '0', upperHex (c.toNat / 16), upperHex (c.toNat % 16)]
  else [c]

/-- A text between three double quotes. Two quotes in a row stay as they are, a third one would
end the string; `run` of them stand in front of the text. -/
def escapeLong (run : Nat) : List Char → List Char
  | [] => []
  | c :: rest =>
    if c = '"' && run < 2 then c :: escapeLong (run + 1) rest
    else escapeChar true c ++ escapeLong 0 rest

/-- The ways to write a string. -/
inductive Spelling
  | basic
  | literal
  | longBasic
  | longLiteral

/-- How a text is spelled. -/
def spelling (s : List Char) : Spelling :=
  let long := s.contains '\n'
  let visible := s.all fun c => !isControl c || c = '\n'
  let plain := visible && !s.contains '\\'
  if plain && !s.contains '"' && !long then .basic
  else if visible && !s.contains '\'' && !long then .literal
  else if plain && longestRun '"' 0 s < 3 then .longBasic
  else if visible && longestRun '\'' 0 s < 3 then .longLiteral
  else if long then .longBasic
  else .basic

/-- A text with line breaks begins on the line below its opening quotes. -/
def openingBreak (s : List Char) : List Char := if s.contains '\n' then ['\n'] else []

def Spelling.write (s : List Char) : Spelling → List Char
  | basic => '"' :: s.flatMap (escapeChar false) ++ ['"']
  | literal => '\'' :: s ++ ['\'']
  | longBasic => "\"\"\"".toList ++ openingBreak s ++ escapeLong 0 s ++ "\"\"\"".toList
  | longLiteral => "'''".toList ++ openingBreak s ++ s ++ "'''".toList

/-- A text as a TOML string. -/
def quote (s : List Char) : List Char := (spelling s).write s

/-- A value of the settings that programs keep. -/
inductive Setting
  | text (s : String)
  | number (n : Nat)
  | flag (b : Bool)

/-- The value as text, if TOML can hold it. -/
def Setting.text? : Setting → Option (List Char)
  | text s => some (quote s.toList)
  | number n => if n < integerBound then some (Nat.toDigits 10 n) else none
  | flag b => some (if b then "true".toList else "false".toList)

def settingLine? (name : String) (v : Setting) : Option (List Char) :=
  v.text?.map fun t => name.toList ++ " = ".toList ++ t ++ ['\n']

def section? (name : String) (settings : List (String × Setting)) : Option (List Char) :=
  (settings.mapM fun (k, v) => settingLine? k v).map fun lines : List (List Char) =>
    '[' :: name.toList ++ [']', '\n'] ++ lines.flatten

/-- The document of these tables, a blank line between them. -/
def document? (sections : List (String × List (String × Setting))) : Option (List Char) :=
  (sections.mapM fun (name, settings) => section? name settings).map (List.intercalate ['\n'])

/-- Why a document cannot be written. -/
def outOfRange : String := "out-of-range value for u64 type"

end Passage.Toml
