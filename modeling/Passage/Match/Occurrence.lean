import Passage.Match.Pattern

/-!
# Occurrences

Where a pattern stands in a text. At each position a pattern has at most one
occurrence, so the matches of a text are the greedy sequence of occurrences that
do not overlap: the leftmost one, then the leftmost one from its end on.
-/

namespace Passage.Match

open Text

namespace Pattern

def agrees (p : Pattern) (a b : Char) : Bool :=
  if p.options.caseSensitive then a == b else CaseFold.same a b

/-- The text begins with the literal, character by character. -/
def literalAt (p : Pattern) : List Char → List Char → Bool
  | [], _ => true
  | _ :: _, [] => false
  | a :: as, b :: bs => p.agrees a b && literalAt p as bs

/-- The neighbours of the end of the first `n` characters, `before` standing in front of them. -/
def isBoundaryAt (before : Option Char) (text : List Char) : Nat → Bool
  | 0 => isBoundary before text.head?
  | n + 1 => isBoundary text[n]? text[n + 1]?

/-- The length of the occurrence at the head of the text, with `before` in front of it. -/
def lengthAt? (p : Pattern) (before : Option Char) (text : List Char) : Option Nat :=
  if p.literalAt p.literal text then
    let n := p.literal.length
    let run := if p.openEnded then ((text.drop n).takeWhile isWord).length else 0
    if !p.options.wholeWord ||
        (isBoundary before text.head? && isBoundaryAt before text (n + run)) then some (n + run)
    else none
  else none

end Pattern

/-- A text cut at its matches. -/
inductive Piece
  | keep (c : Char)
  | hit (s : List Char)
  deriving DecidableEq, Repr

namespace Piece

def text : Piece → List Char
  | keep c => [c]
  | hit s => s

def isHit : Piece → Bool
  | keep _ => false
  | hit _ => true

end Piece

namespace Pattern

/-- Cuts the text at the pattern's matches, `before` standing in front of it. An empty match at
the very end of another one does not count, which `joined` guards. -/
def cut (p : Pattern) (before : Option Char) (joined : Bool) : List Char → List Piece
  | [] => if (p.lengthAt? before []).isSome && !joined then [.hit []] else []
  | c :: rest =>
    match p.lengthAt? before (c :: rest) with
    | none => .keep c :: p.cut (some c) false rest
    | some 0 =>
      if joined then .keep c :: p.cut (some c) false rest
      else .hit [] :: .keep c :: p.cut (some c) false rest
    | some (n + 1) =>
      .hit (c :: rest.take n) :: p.cut (c :: rest.take n).getLast? true (rest.drop n)
termination_by s => s.length
decreasing_by all_goals simp; try omega

def pieces (p : Pattern) (text : List Char) : List Piece := p.cut none false text

def occursIn (p : Pattern) (text : List Char) : Bool := (p.pieces text).any Piece.isHit

end Pattern

/-- A stretch of a text, from a start to an end. -/
structure Span where
  start : Nat
  stop : Nat
  deriving DecidableEq, Repr

/-- The spans of the hits, lengths measured by `size`, the first piece starting at `i`. -/
def spansFrom (size : List Char → Nat) (i : Nat) : List Piece → List Span
  | [] => []
  | x :: rest =>
    let j := i + size x.text
    if x.isHit then ⟨i, j⟩ :: spansFrom size j rest else spansFrom size j rest

/-- The matches in a text, in characters. -/
def Pattern.spans (p : Pattern) (text : List Char) : List Span :=
  spansFrom List.length 0 (p.pieces text)

/-- The matches in a text, in bytes of its encoding. -/
def Pattern.byteSpans (p : Pattern) (text : List Char) : List Span :=
  spansFrom Utf8.width 0 (p.pieces text)

end Passage.Match
