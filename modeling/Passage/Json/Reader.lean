import Passage.Json.Value
import Passage.Numeral.Digit
import Passage.Text.Utf8

/-!
# Reading JSON

A text is cut into tokens, and the tokens drive a machine whose stack holds the
arrays and objects that are still open, so nesting has no limit. The text may hold
places that are no character (`none`); they are allowed inside strings only.
-/

namespace Passage.Json

open Text

/-! ## String contents -/

/-- An element of a string's content: a code, which may be half a surrogate pair, or nothing. -/
abbrev Code := Option Nat

def isHigh (n : Nat) : Bool := 0xD800 ≤ n && n < 0xDC00

def isLow (n : Nat) : Bool := 0xDC00 ≤ n && n < 0xE000

/-- Joins surrogate pairs; `none` if anything else than characters is left. -/
def join : List Code → Option (List Char)
  | [] => some []
  | some a :: some b :: rest =>
    if isHigh a && isLow b then
      (join rest).map (Char.ofNat (0x10000 + (a - 0xD800) * 1024 + (b - 0xDC00)) :: ·)
    else
      match Utf8.scalar? a, join (some b :: rest) with
      | some c, some cs => some (c :: cs)
      | _, _ => none
  | some a :: rest =>
    match Utf8.scalar? a, join rest with
    | some c, some cs => some (c :: cs)
    | _, _ => none
  | none :: _ => none

/-- The character that a letter behind a backslash stands for. -/
def escape? (c : Char) : Option Nat :=
  if c = '"' || c = '\\' || c = '/' then some c.toNat
  else if c = 'b' then some 8
  else if c = 'f' then some 12
  else if c = 'n' then some 10
  else if c = 'r' then some 13
  else if c = 't' then some 9
  else none

/-! ## Numbers and words -/

/-- One or more digits; the answer is what follows them. -/
def digits? (s : List Char) : Option (List Char) :=
  match s with
  | c :: _ => if c.isDigit then some (s.dropWhile Char.isDigit) else none
  | [] => none

def integer? : List Char → Option (List Char)
  | '0' :: rest => some rest
  | s => digits? s

def fraction? : List Char → Option (List Char)
  | '.' :: rest => digits? rest
  | s => some s

def exponent? : List Char → Option (List Char)
  | 'e' :: '+' :: rest | 'e' :: '-' :: rest => digits? rest
  | 'E' :: '+' :: rest | 'E' :: '-' :: rest => digits? rest
  | 'e' :: rest | 'E' :: rest => digits? rest
  | s => some s

def isNumber (s : List Char) : Bool :=
  let body := match s with
    | '-' :: rest => rest
    | _ => s
  ((integer? body).bind fraction?).bind exponent? = some []

def word? (s : List Char) : Option Value :=
  if s = "null".toList then some .null
  else if s = "true".toList then some (.bool true)
  else if s = "false".toList then some (.bool false)
  else if isNumber s then some (.number s)
  else none

/-! ## Tokens -/

inductive Token
  | openArray
  | closeArray
  | openObject
  | closeObject
  | comma
  | colon
  | value (v : Value)

def mark? (c : Char) : Option Token :=
  if c = '[' then some .openArray
  else if c = ']' then some .closeArray
  else if c = '\x7b' then some .openObject
  else if c = '\x7d' then some .closeObject
  else if c = ',' then some .comma
  else if c = ':' then some .colon
  else none

def isSpace (c : Char) : Bool := c = ' ' || c = '\t' || c = '\n' || c = '\r'

def isWordChar (c : Char) : Bool := c.isAlphanum || c = '+' || c = '-' || c = '.'

mutual

/-- The tokens of a text; `word` is the number or word in front of it, last character first. -/
def tokens (word : List Char) : List (Option Char) → Option (List Token)
  | [] => some []
  | none :: _ => none
  | some c :: rest =>
    if isWordChar c then
      if rest.head?.any (·.any isWordChar) then tokens (c :: word) rest
      else
        match word? (c :: word).reverse with
        | some v => (tokens [] rest).map (.value v :: ·)
        | none => none
    else if isSpace c then tokens [] rest
    else if c = '"' then stringTokens [] rest
    else
      match mark? c with
      | some t => (tokens [] rest).map (t :: ·)
      | none => none

/-- The tokens from inside a string on; `content` is its part behind us, last element first. -/
def stringTokens (content : List Code) : List (Option Char) → Option (List Token)
  | [] => none
  | none :: rest => stringTokens (none :: content) rest
  | some '"' :: rest =>
    (tokens [] rest).map (.value (.string ((join content.reverse).map String.ofList)) :: ·)
  | some '\\' :: some 'u' :: some a :: some b :: some c :: some d :: rest =>
    match Numeral.hexNumber? [a, b, c, d] with
    | some n => stringTokens (some n :: content) rest
    | none => none
  | some '\\' :: some e :: rest =>
    match escape? e with
    | some n => stringTokens (some n :: content) rest
    | none => none
  | some c :: rest =>
    if c = '\\' || c.toNat < 32 then none else stringTokens (some c.toNat :: content) rest

end

/-! ## The machine -/

/-- An array or object that is still open, its finished parts last first. -/
inductive Frame
  | array (items : List Value)
  | object (fields : List (Option String × Value)) (key : Option String)

inductive State
  /-- A value has to come. -/
  | value (stack : List Frame)
  /-- A value or the end of an array has to come. -/
  | firstItem (stack : List Frame)
  /-- A key or the end of an object has to come. -/
  | firstKey (stack : List Frame)
  | key (fields : List (Option String × Value)) (stack : List Frame)
  | colon (fields : List (Option String × Value)) (key : Option String) (stack : List Frame)
  /-- A value is complete. -/
  | done (v : Value) (stack : List Frame)

namespace State

def begin (stack : List Frame) : Token → Option State
  | .value v => some (done v stack)
  | .openArray => some (firstItem stack)
  | .openObject => some (firstKey stack)
  | _ => none

def step : State → Token → Option State
  | value stack, t => begin stack t
  | firstItem stack, .closeArray => some (done (.array []) stack)
  | firstItem stack, t => begin (.array [] :: stack) t
  | firstKey stack, .closeObject => some (done (.object []) stack)
  | firstKey stack, .value (.string k) => some (colon [] k stack)
  | key fields stack, .value (.string k) => some (colon fields k stack)
  | colon fields k stack, .colon => some (value (.object fields k :: stack))
  | done v (.array items :: stack), .comma => some (value (.array (v :: items) :: stack))
  | done v (.array items :: stack), .closeArray => some (done (.array (v :: items).reverse) stack)
  | done v (.object fields k :: stack), .comma => some (key ((k, v) :: fields) stack)
  | done v (.object fields k :: stack), .closeObject =>
    some (done (.object ((k, v) :: fields).reverse) stack)
  | _, _ => none

end State

/-- The value that a text writes. -/
def read (s : List (Option Char)) : Option Value :=
  match (tokens [] s).bind fun ts => ts.foldlM State.step (.value []) with
  | some (.done v []) => some v
  | _ => none

def ofString? (s : String) : Option Value := read (s.toList.map some)

end Passage.Json
