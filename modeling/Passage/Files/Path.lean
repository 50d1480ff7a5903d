/-!
# Path names

A path is a sequence of names between slashes. Empty names and single dots in it
mean nothing, and a path that ends in two dots has no name of its own.
-/

namespace Passage.Files.Path

/-- The names of a path that lead anywhere. -/
def names (path : List Char) : List (List Char) :=
  (path.splitOn '/').filter fun s => s ≠ [] && s ≠ ['.']

/-- The last name of a path. -/
def fileName? (path : List Char) : Option (List Char) :=
  (names path).getLast?.filter (· ≠ ['.', '.'])

/-- A name less its extension; a dot at its very start begins no extension. -/
def stem (name : List Char) : List Char :=
  match name.reverse.dropWhile (· ≠ '.') with
  | _ :: front => if front = [] then name else front.reverse
  | [] => name

/-- The path of a name inside a directory. A name that begins with a slash stands alone. -/
def append (directory name : List Char) : List Char :=
  if name.head? = some '/' || directory = [] then name
  else if directory.getLast? = some '/' then directory ++ name
  else directory ++ '/' :: name

end Passage.Files.Path
