/-!
# Punycode

The encoding of a label with characters beyond ASCII as letters, digits and
hyphens: the ASCII characters first, then the places and codes of the others as
numbers of variable length. Decoding refuses what is no encoding.
-/

namespace Passage.Url.Punycode

/-- The weight of a digit before the numbers' last one is 36 less this threshold. -/
def threshold (k bias : Nat) : Nat :=
  if k ≤ bias + 1 then 1 else if bias + 26 ≤ k then 26 else k - bias

theorem threshold_pos (k bias : Nat) : 1 ≤ threshold k bias := by
  unfold threshold
  split
  · omega
  · split <;> omega

theorem threshold_le (k bias : Nat) : threshold k bias ≤ 26 := by
  unfold threshold
  split
  · omega
  · split <;> omega

def reduce (delta k : Nat) : Nat :=
  if delta ≤ 455 then k + 36 * delta / (delta + 38) else reduce (delta / 35) (k + 36)
termination_by delta
decreasing_by omega

/-- The next bias, after a number `delta` that brought the label to `count` characters. -/
def adapt (delta count : Nat) (first : Bool) : Nat :=
  let d := if first then delta / 700 else delta / 2
  reduce (d + d / count) 0

def digit? (c : Char) : Option Nat :=
  if 'a' ≤ c && c ≤ 'z' then some (c.toNat - 97)
  else if 'A' ≤ c && c ≤ 'Z' then some (c.toNat - 65)
  else if '0' ≤ c && c ≤ '9' then some (c.toNat - 22)
  else none

def digit (n : Nat) : Char := if n < 26 then Char.ofNat (n + 97) else Char.ofNat (n + 22)

/-- Reads a number of variable length and adds it to `i`. -/
def readNumber (bias : Nat) (k i weight : Nat) : List Char → Option (Nat × List Char)
  | [] => none
  | c :: rest =>
    match digit? c with
    | none => none
    | some d =>
      let t := threshold k bias
      if d < t then some (i + d * weight, rest)
      else readNumber bias (k + 36) (i + d * weight) (weight * (36 - t)) rest

theorem length_lt_of_readNumber {bias k i weight j : Nat} {s rest : List Char}
    (h : readNumber bias k i weight s = some (j, rest)) : rest.length < s.length := by
  induction s generalizing k i weight with
  | nil => simp [readNumber] at h
  | cons c s ih =>
    unfold readNumber at h
    split at h
    · cases h
    · simp only at h
      split at h
      · simp only [Option.some.injEq, Prod.mk.injEq] at h
        simp [h.2]
      · have := ih h
        simp only [List.length_cons]
        omega

/-- Inserts the characters that the numbers describe into `out`, from code `n` and place `i` on. -/
def decodeFrom (n i bias : Nat) (out : List Char) : List Char → Option (List Char)
  | [] => some out
  | c :: rest =>
    match _h : readNumber bias 36 i 1 (c :: rest) with
    | none => none
    | some (j, after) =>
      let count := out.length + 1
      let m := n + j / count
      if m.isValidChar then
        decodeFrom m (j % count + 1) (adapt (j - i) count (i == 0))
          (out.take (j % count) ++ Char.ofNat m :: out.drop (j % count)) after
      else none
termination_by s => s.length
decreasing_by exact length_lt_of_readNumber _h

/-- The ASCII characters in front of the last hyphen, and the numbers behind it. A hyphen with
nothing in front of it separates nothing. -/
def splitLast (s : List Char) : List Char × List Char :=
  let tail := (s.reverse.takeWhile (· ≠ '-')).reverse
  if s.length ≤ tail.length + 1 then ([], s) else (s.take (s.length - tail.length - 1), tail)

/-- The label that `s` encodes. -/
def decode (s : List Char) : Option (List Char) :=
  let (basic, numbers) := splitLast s
  if basic.all (·.toNat < 128) then decodeFrom 128 0 72 basic numbers else none

/-- Writes `n` as a number of variable length. -/
def writeNumber (bias k n : Nat) : List Char :=
  let t := threshold k bias
  if n < t then [digit n]
  else digit (t + (n - t) % (36 - t)) :: writeNumber bias (k + 36) ((n - t) / (36 - t))
termination_by n
decreasing_by
  have h1 := threshold_pos k bias
  have h2 := threshold_le k bias
  have h3 : (n - threshold k bias) / (36 - threshold k bias) ≤ n - threshold k bias :=
    Nat.div_le_self _ _
  omega

/-- What the encoder carries along. -/
structure State where
  delta : Nat
  bias : Nat
  /-- How many characters are written. -/
  done : Nat
  first : Bool
  output : List Char

/-- Passes one character of the label while the characters with code `m` are written. -/
def State.pass (m : Nat) (s : State) (c : Char) : State :=
  if c.toNat < m then { s with delta := s.delta + 1 }
  else if c.toNat = m then
    { delta := 0
      bias := adapt s.delta (s.done + 1) s.first
      done := s.done + 1
      first := false
      output := s.output ++ writeNumber s.bias 36 s.delta }
  else s

/-- Writes the characters of the label whose codes are in `codes`, ascending, from `n` on. -/
def encodeFrom (label : List Char) (n : Nat) (s : State) : List Nat → List Char
  | [] => s.output
  | m :: codes =>
    let start := { s with delta := s.delta + (m - n) * (s.done + 1) }
    let next := label.foldl (State.pass m) start
    encodeFrom label (m + 1) { next with delta := next.delta + 1 } codes

/-- The encoding of a label. -/
def encode (label : List Char) : List Char :=
  let basic := label.filter (·.toNat < 128)
  let codes := (((label.filter (128 ≤ ·.toNat)).map Char.toNat).mergeSort (· ≤ ·)).eraseDups
  let start := if basic = [] then [] else basic ++ ['-']
  encodeFrom label 128 ⟨0, 72, basic.length, true, start⟩ codes

end Passage.Url.Punycode
