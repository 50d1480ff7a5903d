/-!
# Terminal styles

Text is styled by an escape sequence in front of it and a reset behind it. A reset
inside the text would end the style early, so the style is opened again there.
Without colours text is written as it is.
-/

namespace Passage.Terminal

inductive Style
  | label
  | title
  | locator
  | source
  | number
  | highlight
  | warning
  | failure
  | dim
  deriving DecidableEq, Repr

def Style.code : Style → List Char
  | label => "1".toList
  | title => "1;36".toList
  | locator => "1;32".toList
  | source => "34".toList
  | number | warning => "33".toList
  | highlight => "43;30".toList
  | failure => "1;31".toList
  | dim => "2".toList

def escape : Char := '\x1b'

def Style.opening (s : Style) : List Char := escape :: '[' :: s.code ++ ['m']

def reset : List Char := [escape, '[', '0', 'm']

/-- Whether to colour: a variable that forces colours comes first, then one that forbids them, and
otherwise a terminal has them unless a third variable says no. Only `0` says no. -/
def wantsColors (force forbid allow : Option String) (terminal : Bool) : Bool :=
  if force.any (· ≠ "0") then true
  else if forbid.isSome then false
  else terminal && allow ≠ some "0"

/-- The text with an opening sequence behind each reset in it. -/
def reopen (opening : List Char) : List Char → List Char
  | [] => []
  | '\x1b' :: '[' :: '0' :: 'm' :: rest => reset ++ opening ++ reopen opening rest
  | c :: rest => c :: reopen opening rest

def Style.paint (s : Style) (colors : Bool) (text : List Char) : List Char :=
  if colors then s.opening ++ reopen s.opening text ++ reset else text

def Style.show (s : Style) (colors : Bool) (text : String) : String :=
  String.ofList (s.paint colors text.toList)

end Passage.Terminal
