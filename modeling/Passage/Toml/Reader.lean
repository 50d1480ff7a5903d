import Passage.Toml.Scalar

/-!
# Reading TOML

A document is a sequence of lines, each a header, a key with its value, or blank.
Values in brackets nest to a fixed depth and may run over lines; values in braces
may not.
-/

namespace Passage.Toml

/-! ## Blanks and comments -/

def skipBlanks (s : List Char) : List Char := s.dropWhile isInline

/-- What follows the blanks, line breaks and comments that the text begins with; `comment` tells
that a comment is open. -/
def skipFiller (comment : Bool) : List Char → List Char
  | [] => []
  | c :: rest =>
    if c = '\n' then skipFiller false rest
    else if c = '\r' && rest.head? = some '\n' then skipFiller comment rest
    else if comment then (if isControl c then c :: rest else skipFiller true rest)
    else if isInline c then skipFiller false rest
    else if c = '#' then skipFiller true rest
    else c :: rest

/-- What follows the line, if nothing but blanks and a comment is left of it. -/
def endLine? (s : List Char) : Option (List Char) :=
  let t := skipBlanks s
  let u := if t.head? = some '#' then t.dropWhile (!isControl ·) else t
  match u with
  | [] => some []
  | '\n' :: rest => some rest
  | '\r' :: '\n' :: rest => some rest
  | _ => none

/-! ## Keys -/

def isBare (c : Char) : Bool := c.isAlphanum || c = '_' || c = '-'

def key? (s : List Char) : Option (String × List Char) :=
  match s with
  | '"' :: rest => (basicBody rest).map fun (t, r) => (String.ofList t, r)
  | '\'' :: rest => (literalBody rest).map fun (t, r) => (String.ofList t, r)
  | _ =>
    match s.takeWhile isBare with
    | [] => none
    | k => some (String.ofList k, s.dropWhile isBare)

/-- Keys between dots; blanks around them do not count. -/
def keysFrom? (s : List Char) : Option (List String × List Char) :=
  match key? (skipBlanks s) with
  | none => none
  | some (k, afterKey) =>
    match skipBlanks afterKey with
    | '.' :: more =>
      if more.length < s.length then (keysFrom? more).map fun (ks, r) => (k :: ks, r) else none
    | rest => some ([k], rest)
termination_by s.length

/-- Values and keys are less deep than this. -/
def maxDepth : Nat := 80

def keys? (s : List Char) : Option (List String × List Char) :=
  (keysFrom? s).filter fun (ks, _) => ks.length < maxDepth

/-! ## Values -/

/-- A reader of a part of a text: what it read, and what follows. -/
abbrev Reader (α : Type) := List Char → Option (α × List Char)

/-- The elements of an array, its opening bracket behind us. -/
def elements? (value : Reader Item) (s : List Char) : Option (List Item × List Char) :=
  match skipFiller false s with
  | ']' :: rest => some ([], rest)
  | t =>
    match value t with
    | none => none
    | some (v, afterValue) =>
      match skipFiller false afterValue with
      | ']' :: rest => some ([v], rest)
      | ',' :: more =>
        if more.length < s.length then
          (elements? value more).map fun (vs, r) => (v :: vs, r)
        else none
      | _ => none
termination_by s.length

/-- A key with its value. -/
def pair? (value : Reader Item) (s : List Char) : Option ((List String × Item) × List Char) :=
  match keys? s with
  | some (ks, '=' :: rest) => (value (skipBlanks rest)).map fun (v, r) => ((ks, v), r)
  | _ => none

/-- The pairs of a table in braces, at least one being left. -/
def pairsFrom? (value : Reader Item) (s : List Char) :
    Option (List (List String × Item) × List Char) :=
  match pair? value s with
  | none => none
  | some (p, afterPair) =>
    match skipBlanks afterPair with
    | '\x7d' :: rest => some ([p], rest)
    | ',' :: more =>
      if more.length < s.length then (pairsFrom? value more).map fun (ps, r) => (p :: ps, r)
      else none
    | _ => none
termination_by s.length

def pairs? (value : Reader Item) (s : List Char) : Option (List (List String × Item) × List Char) :=
  match skipBlanks s with
  | '\x7d' :: rest => some ([], rest)
  | t => pairsFrom? value t

/-- The value that the text begins with; what it holds is less than `depth` deep. -/
def value? : Nat → Reader Item
  | 0, _ => none
  | depth + 1, s =>
    match s with
    | '[' :: rest =>
      if depth = 0 then none
      else (elements? (value? depth) rest).map fun (vs, r) => (.array vs, r)
    | '\x7b' :: rest =>
      if depth = 0 then none
      else
        match pairs? (value? depth) rest with
        | some (ps, r) => (ofPairs ps).map fun es => (.table .inline es, r)
        | none => none
    | _ => scalar? s

/-! ## Documents -/

def header? (s : List Char) : Option (Statement × List Char) :=
  match s with
  | '[' :: '[' :: rest =>
    match keys? rest with
    | some (path, ']' :: ']' :: r) => some (.repeated path, r)
    | _ => none
  | '[' :: rest =>
    match keys? rest with
    | some (path, ']' :: r) => some (.table path, r)
    | _ => none
  | _ => none

def statement? (s : List Char) : Option (Statement × List Char) :=
  if s.head? = some '[' then header? s
  else (pair? (value? maxDepth) s).map fun ((ks, v), r) => (.pair ks v, r)

def statements? (s : List Char) : Option (List Statement) :=
  match _h : skipFiller false s with
  | [] => some []
  | c :: t =>
    match statement? (c :: t) with
    | none => none
    | some (x, afterStatement) =>
      match endLine? afterStatement with
      | none => none
      | some rest => if rest.length < s.length then (statements? rest).map (x :: ·) else none
termination_by s.length

/-- The table that a text describes; a byte order mark in front of it does not count. -/
def read? (s : List Char) : Option Entries :=
  let body := if s.head? = some '\ufeff' then s.drop 1 else s
  (statements? body).bind ofStatements

end Passage.Toml
