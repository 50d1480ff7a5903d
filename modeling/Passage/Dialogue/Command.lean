import Passage.Numeral
import Passage.Text.Blank

/-!
# Commands of a dialogue

One line of a dialogue is a query, or a command if it begins with a colon. The case
of a command's name does not count. Only the commands that need an argument take
one; anything else behind a colon is unknown.
-/

namespace Passage.Dialogue

open Text

inductive Command
  | query (text : String)
  | next
  | prev
  /-- A page by its number, from one. -/
  | page (number : Nat)
  | toggleCase
  | toggleWord
  | load (source : String)
  | outline
  | help
  | quit
  | unknown (text : String)
  deriving DecidableEq, Repr

namespace Command

/-- The commands without an argument, by their names. -/
def plain? (name : String) : Option Command :=
  if name = "next" || name = "n" then some next
  else if name = "prev" || name = "p" then some prev
  else if name = "case" then some toggleCase
  else if name = "word" then some toggleWord
  else if name = "outline" then some outline
  else if name = "help" || name = "h" || name = "?" then some help
  else if name = "quit" || name = "q" || name = "exit" then some quit
  else none

/-- A command by its name in lower case and its argument. -/
def named? (name : String) (argument : List Char) : Option Command :=
  if name = "page" then
    match Numeral.read? argument with
    | some n => if 1 ≤ n then some (page n) else none
    | none => none
  else if name = "load" then
    if argument = [] then none else some (load (String.ofList argument))
  else if argument = [] then plain? name
  else none

def parse (line : String) : Command :=
  let text := trim line.toList
  match text with
  | ':' :: rest =>
    let name := rest.takeWhile (!isBlank ·)
    let argument := trim (rest.dropWhile (!isBlank ·))
    (named? (String.ofList (name.map Char.toLower)) argument).getD (unknown (String.ofList text))
  | _ => query (String.ofList text)

end Command

end Passage.Dialogue
