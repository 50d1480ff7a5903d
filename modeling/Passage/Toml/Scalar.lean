import Passage.Numeral.Digit
import Passage.Text.Utf8
import Passage.Toml.Document

/-!
# TOML scalars

Strings in their four spellings, and the words that write truth values, whole
numbers, floating-point numbers, dates and times.
-/

namespace Passage.Toml

open Text
open Numeral (digit? hexNumber?)

/-! ## Strings -/

def isControl (c : Char) : Bool := (c.toNat < 32 && c != '\t') || c.toNat = 127

def hexChar? (s : List Char) : Option Char := (hexNumber? s).bind Utf8.scalar?

/-- The character that a letter behind a backslash stands for. -/
def escape? (c : Char) : Option Char :=
  if c = '"' || c = '\\' then some c
  else if c = 'b' then some '\x08'
  else if c = 't' then some '\t'
  else if c = 'n' then some '\n'
  else if c = 'f' then some '\x0c'
  else if c = 'r' then some '\r'
  else none

/-- What a string holds, and what follows it. -/
abbrev Body := Option (List Char × List Char)

def Body.cons (c : Char) (b : Body) : Body := b.map fun (s, rest) => (c :: s, rest)

/-- A string in double quotes, its opening quote behind us. -/
def basicBody : List Char → Body
  | [] => none
  | '"' :: rest => some ([], rest)
  | '\\' :: 'u' :: a :: b :: c :: d :: rest =>
    (hexChar? [a, b, c, d]).bind fun x => (basicBody rest).cons x
  | '\\' :: 'U' :: a :: b :: c :: d :: e :: f :: g :: h :: rest =>
    (hexChar? [a, b, c, d, e, f, g, h]).bind fun x => (basicBody rest).cons x
  | '\\' :: e :: rest => (escape? e).bind fun x => (basicBody rest).cons x
  | c :: rest => if c = '\\' || isControl c then none else (basicBody rest).cons c

def literalBody : List Char → Body
  | [] => none
  | '\'' :: rest => some ([], rest)
  | c :: rest => if isControl c then none else (literalBody rest).cons c

def isInline (c : Char) : Bool := c = ' ' || c = '\t'

/-- The line ends here, blanks aside. -/
def endsLine (s : List Char) : Bool :=
  match s.dropWhile isInline with
  | '\n' :: _ => true
  | '\r' :: '\n' :: _ => true
  | _ => false

/-- A string in three double quotes. A backslash at the end of a line joins the line with the
next text; `joining` tells that we are on the way to it. -/
def longBasicBody (joining : Bool) : List Char → Body
  | [] => none
  | '"' :: '"' :: '"' :: '"' :: '"' :: rest => some (['"', '"'], rest)
  | '"' :: '"' :: '"' :: '"' :: rest => some (['"'], rest)
  | '"' :: '"' :: '"' :: rest => some ([], rest)
  | '\r' :: '\n' :: rest =>
    if joining then longBasicBody true rest else (longBasicBody false rest).cons '\n'
  | '\\' :: 'u' :: a :: b :: c :: d :: rest =>
    (hexChar? [a, b, c, d]).bind fun x => (longBasicBody false rest).cons x
  | '\\' :: 'U' :: a :: b :: c :: d :: e :: f :: g :: h :: rest =>
    (hexChar? [a, b, c, d, e, f, g, h]).bind fun x => (longBasicBody false rest).cons x
  | '\\' :: e :: rest =>
    if endsLine (e :: rest) then
      if e = '\r' then longBasicBody true rest
      else if e = '\n' || isInline e then longBasicBody true rest
      else none
    else (escape? e).bind fun x => (longBasicBody false rest).cons x
  | c :: rest =>
    if joining && (c = '\n' || isInline c) then longBasicBody true rest
    else if c = '\\' || (isControl c && c != '\n') then none
    else (longBasicBody false rest).cons c

def longLiteralBody : List Char → Body
  | [] => none
  | '\'' :: '\'' :: '\'' :: '\'' :: '\'' :: rest => some (['\'', '\''], rest)
  | '\'' :: '\'' :: '\'' :: '\'' :: rest => some (['\''], rest)
  | '\'' :: '\'' :: '\'' :: rest => some ([], rest)
  | '\r' :: '\n' :: rest => (longLiteralBody rest).cons '\n'
  | c :: rest => if isControl c && c != '\n' then none else (longLiteralBody rest).cons c

/-- A line break right behind the opening quotes does not count. -/
def dropFirstBreak : List Char → List Char
  | '\n' :: rest => rest
  | '\r' :: '\n' :: rest => rest
  | s => s

/-- The string that the text begins with. -/
def string? : List Char → Body
  | '"' :: '"' :: '"' :: rest => longBasicBody false (dropFirstBreak rest)
  | '"' :: rest => basicBody rest
  | '\'' :: '\'' :: '\'' :: rest => longLiteralBody (dropFirstBreak rest)
  | '\'' :: rest => literalBody rest
  | _ => none

/-! ## Numbers -/

/-- Digits of a base, single underscores between them; the answer is their number. -/
def digitsFrom? (base : Nat) (n : Nat) : List Char → Option Nat
  | [] => some n
  | '_' :: c :: rest => (digit? base c).bind fun d => digitsFrom? base (base * n + d) rest
  | c :: rest => (digit? base c).bind fun d => digitsFrom? base (base * n + d) rest

def digits? (base : Nat) : List Char → Option Nat
  | [] => none
  | '_' :: _ => none
  | s => digitsFrom? base 0 s

/-- A decimal number without a sign and without leading zeros. -/
def natural? : List Char → Option Nat
  | ['0'] => some 0
  | '0' :: _ => none
  | s => digits? 10 s

def signed? (s : List Char) : Option Int :=
  match s with
  | '-' :: rest => (natural? rest).map fun n => -(n : Int)
  | '+' :: rest => (natural? rest).map Int.ofNat
  | _ => (natural? s).map Int.ofNat

/-- Whole numbers stay below it. -/
def integerBound : Nat := Nat.pow 2 63

/-- A whole number of 64 bits. -/
def integer? (s : List Char) : Option Int :=
  let value : Option Int := match s with
    | '0' :: 'x' :: rest => (digits? 16 rest).map Int.ofNat
    | '0' :: 'o' :: rest => (digits? 8 rest).map Int.ofNat
    | '0' :: 'b' :: rest => (digits? 2 rest).map Int.ofNat
    | _ => signed? s
  value.filter fun n => -(integerBound : Int) ≤ n && n < integerBound

def unsigned (s : List Char) : List Char :=
  match s with
  | '-' :: rest => rest
  | '+' :: rest => rest
  | _ => s

/-- A decimal `m · 10 ^ e` that rounds to no finite number of double precision. -/
def isTooLarge (m : Nat) (e : Int) : Bool :=
  let size : Int := (Nat.toDigits 10 m).length + e
  if m = 0 || size < 308 then false
  else if 310 < size then true
  else (Nat.pow 2 1024 - Nat.pow 2 970) * Nat.pow 10 (-e).toNat ≤ m * Nat.pow 10 e.toNat

/-- A floating-point number: whole part, then a fraction or an exponent or both. -/
def isFloat (s : List Char) : Bool :=
  let body := unsigned s
  if body = "inf".toList || body = "nan".toList then true
  else
    let isExp (c : Char) : Bool := c = 'e' || c = 'E'
    let mantissa := body.takeWhile (!isExp ·)
    let exponent := (body.dropWhile (!isExp ·)).drop 1
    let hasExponent := body.any isExp
    let whole := mantissa.takeWhile (· ≠ '.')
    let fraction := (mantissa.dropWhile (· ≠ '.')).drop 1
    let hasFraction := mantissa.contains '.'
    let places := (fraction.filter (· ≠ '_')).length
    match natural? whole, (if hasFraction then digits? 10 fraction else some 0),
        (if hasExponent then digits? 10 (unsigned exponent) else some 0) with
    | some w, some f, some x =>
      let e : Int := (if exponent.head? = some '-' then -(x : Int) else x) - places
      (hasFraction || hasExponent) &&
        (s.head? = some '-' || !isTooLarge (w * Nat.pow 10 places + f) e)
    | _, _, _ => false

/-! ## Dates and times -/

/-- Two digits that write a number from `low` to `high`. -/
def twoDigits (low high : Nat) (a b : Char) : Bool :=
  a.isDigit && b.isDigit &&
    (let n := 10 * (a.toNat - 48) + (b.toNat - 48); low ≤ n && n ≤ high)

def daysIn (year month : Nat) : Nat :=
  if month = 2 then (if year % 4 = 0 && (year % 100 ≠ 0 || year % 400 = 0) then 29 else 28)
  else if month = 4 || month = 6 || month = 9 || month = 11 then 30 else 31

def isFullDate : List Char → Bool
  | [y1, y2, y3, y4, '-', m1, m2, '-', d1, d2] =>
    match digits? 10 [y1, y2, y3, y4], digits? 10 [m1, m2] with
    | some y, some m =>
      [y1, y2, y3, y4].all Char.isDigit && twoDigits 1 12 m1 m2 && twoDigits 1 (daysIn y m) d1 d2
    | _, _ => false
  | _ => false

/-- What follows the seconds of a time. -/
def afterTime? : List Char → Option (List Char)
  | h1 :: h2 :: ':' :: m1 :: m2 :: ':' :: s1 :: s2 :: rest =>
    if twoDigits 0 23 h1 h2 && twoDigits 0 59 m1 m2 && twoDigits 0 60 s1 s2 then
      match rest with
      | '.' :: c :: more => if c.isDigit then some (more.dropWhile Char.isDigit) else none
      | _ => some rest
    else none
  | _ => none

def isOffset : List Char → Bool
  | [] => true
  | ['Z'] | ['z'] => true
  | [sign, h1, h2, ':', m1, m2] =>
    (sign = '+' || sign = '-') && twoDigits 0 23 h1 h2 && twoDigits 0 59 m1 m2
  | _ => false

def isDate (s : List Char) : Bool :=
  if isFullDate s then true
  else if afterTime? s = some [] then true
  else if isFullDate (s.take 10) then
    match s.drop 10 with
    | c :: rest => (c = 'T' || c = 't' || c = ' ') && (afterTime? rest).any isOffset
    | [] => false
  else false

/-! ## Words -/

def isWordChar (c : Char) : Bool :=
  c.isAlphanum || c = '_' || c = '+' || c = '-' || c = '.' || c = ':'

/-- The scalar that a word writes. -/
def word? (s : List Char) : Option Item :=
  if s = "true".toList then some (.boolean true)
  else if s = "false".toList then some (.boolean false)
  else if isDate s then some (.date s)
  else if isFloat s then some (.float s)
  else (integer? s).map .integer

/-- The word that the text begins with. A blank between a date and a time belongs to the word. -/
def splitWord (s : List Char) : List Char × List Char :=
  let word := s.takeWhile isWordChar
  let rest := s.dropWhile isWordChar
  match rest with
  | ' ' :: more =>
    let time := more.takeWhile isWordChar
    if isFullDate word && time[2]? = some ':' then (word ++ ' ' :: time, more.dropWhile isWordChar)
    else (word, rest)
  | _ => (word, rest)

def scalar? (s : List Char) : Option (Item × List Char) :=
  match s with
  | '"' :: _ | '\'' :: _ => (string? s).map fun (t, rest) => (.string (String.ofList t), rest)
  | _ => let (word, rest) := splitWord s; (word? word).map fun v => (v, rest)

end Passage.Toml
