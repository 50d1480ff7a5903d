import Passage.Url.Host

/-!
# Absolute URLs

An absolute URL is taken apart the way web browsers do, and written in normal
form: scheme and host in lower case, no default port, dot segments resolved, and
unsafe characters escaped. Tabs and line breaks inside a URL do not count, nor do
blanks and control characters around it.
-/

namespace Passage.Url

open Text

/-- The schemes with an authority that is never empty, by their default ports, and `file`. -/
inductive SchemeKind
  | special (port : Nat)
  | file
  | other
  deriving DecidableEq, Repr

def schemeKind (scheme : List Char) : SchemeKind :=
  if scheme = "http".toList || scheme = "ws".toList then .special 80
  else if scheme = "https".toList || scheme = "wss".toList then .special 443
  else if scheme = "ftp".toList then .special 21
  else if scheme = "file".toList then .file
  else .other

def SchemeKind.isSpecial : SchemeKind → Bool
  | other => false
  | _ => true

end Url

end Passage

namespace Passage

/-- An absolute URL in normal form; every part is escaped already. -/
structure Url where
  scheme : List Char
  user : List Char
  password : List Char
  host : Option Url.Host
  /-- The port, unless it is the scheme's default. -/
  port : Option Nat
  path : List Char
  query : Option (List Char)
  fragment : Option (List Char)
  deriving DecidableEq, Repr

namespace Url

open Text

/-! ## Taking a text apart -/

def isSchemeChar (c : Char) : Bool := c.isAlphanum || c ∈ ['+', '-', '.']

/-- The scheme in lower case, and what follows its colon. -/
def splitScheme? (s : List Char) : Option (List Char × List Char) :=
  match s.takeWhile isSchemeChar, s.dropWhile isSchemeChar with
  | c :: cs, ':' :: rest => if c.isAlpha then some ((c :: cs).map Char.toLower, rest) else none
  | _, _ => none

/-- The text less a part that begins with the mark, and that part. -/
def splitAtMark (mark : Char) (s : List Char) : List Char × Option (List Char) :=
  match s.dropWhile (· ≠ mark) with
  | _ :: rest => (s.takeWhile (· ≠ mark), some rest)
  | [] => (s, none)

def isSlash (special : Bool) (c : Char) : Bool := c = '/' || (special && c = '\\')

/-- The part of an authority before its last `@`, if it has one, and the rest. -/
def splitUser (s : List Char) : Option (List Char) × List Char :=
  match s.reverse.dropWhile (· ≠ '@') with
  | _ :: user => (some user.reverse, (s.reverse.takeWhile (· ≠ '@')).reverse)
  | [] => (none, s)

/-- The host's end is the first colon outside brackets. -/
def splitPort (inside : Bool) : List Char → List Char × Option (List Char)
  | [] => ([], none)
  | c :: rest =>
    if c = ':' && !inside then ([], some rest)
    else
      let (host, port) := splitPort (c = '[' || (inside && c != ']')) rest
      (c :: host, port)

/-- A port below 2^16; no digits at all mean none. -/
def port? (s : List Char) : Except Fault (Option Nat) :=
  match Numeral.ofDigits? 10 s with
  | none => .error .port
  | some n => if s = [] then .ok none else if n < 65536 then .ok (some n) else .error .port

/-! ## Paths -/

def lowerSegment (s : List Char) : List Char := s.map Char.toLower

def isSingleDot (s : List Char) : Bool :=
  [".".toList, "%2e".toList].any (lowerSegment s = ·)

def isDoubleDot (s : List Char) : Bool :=
  ["..".toList, ".%2e".toList, "%2e.".toList, "%2e%2e".toList].any (lowerSegment s = ·)

def isDriveLetter (s : List Char) : Bool :=
  match s with
  | [c, d] => c.isAlpha && (d = ':' || d = '|')
  | _ => false

/-- Goes up from the segments in front, last first; a drive letter is never left. -/
def goUp : List (List Char) → List (List Char)
  | [] => []
  | s :: done => if isDriveLetter s then s :: done else done

/-- Resolves dot segments; `done` are the segments in front, last first. A dot segment at the
end leaves an empty one behind. -/
def resolve (done : List (List Char)) : List (List Char) → List (List Char)
  | [] => done.reverse
  | s :: rest =>
    let kept := if isDoubleDot s then goUp done else if isSingleDot s then done else s :: done
    let ends := rest.isEmpty && (isDoubleDot s || isSingleDot s)
    resolve (if ends then [] :: kept else kept) rest

/-- A path that begins with a slash, or is about to. -/
def pathText (special : Bool) (s : List Char) : List Char :=
  let body := match s with
    | c :: rest => if isSlash special c then rest else s
    | [] => []
  let segments := (body.splitOnP (isSlash special)).map (Percent.encode Percent.pathKeeps)
  (resolve [] segments).flatMap ('/' :: ·)

/-! ## Reading -/

def isIgnored (c : Char) : Bool := c = '\t' || c = '\n' || c = '\r'

def isOuter (c : Char) : Bool := c.toNat ≤ 32

/-- The characters of a URL's text that count. -/
def significant (s : List Char) : List Char :=
  (((s.dropWhile isOuter).reverse.dropWhile isOuter).reverse).filter (!isIgnored ·)

/-- Builds the URL of an authority and a path; `tail` carries query and fragment. -/
def ofAuthority (kind : SchemeKind) (tail : Url) (authority path : List Char) :
    Except Fault Url := do
  let (user, rest) := splitUser authority
  let followed := path ≠ [] || tail.query.isSome || tail.fragment.isSome
  if user = some [] && rest = [] && followed then throw .emptyHost
  let (name, afterColon) := splitPort false rest
  let portText := afterColon.map (·.takeWhile (· ≠ '\\'))
  let path := (afterColon.getD []).dropWhile (· ≠ '\\') ++ path
  if kind.isSpecial && name = [] then throw .emptyHost
  let host ← if kind.isSpecial then Host.parse name else Host.parseOpaque name
  if host = .domain [] && portText.isSome then throw .emptyHost
  let port ← match portText with
    | some s => port? s
    | none => pure none
  let (login, password) := splitAtMark ':' (user.getD [])
  let secret := Percent.encode Percent.userKeeps (password.getD [])
  let url := { tail with
    user := Percent.encode Percent.userKeeps login
    password := secret
    host := if host = .domain [] then none else some host
    port := if port.any (fun p => kind = .special p) then none else port
    path := if kind.isSpecial || path ≠ [] then pathText kind.isSpecial path else [] }
  if url.host.isNone && (url.user ≠ [] || url.password ≠ []) then throw .emptyHost
  return url

/-- The path of a file begins with a drive letter. -/
def hasDrive (path : List Char) : Bool :=
  isDriveLetter ((path.drop 1).takeWhile (!isSlash true ·))

/-- Builds the URL of a file; two slashes precede a host. There is none where it is `localhost`
or the path has a drive. -/
def ofFile (tail : Url) (s : List Char) : Except Fault Url := do
  match s with
  | a :: b :: rest =>
    if isSlash true a && isSlash true b then
      let name := rest.takeWhile (!isSlash true ·)
      if name = [] || isDriveLetter name then return { tail with path := pathText true rest }
      let host ← Host.parse name
      let after := rest.dropWhile (!isSlash true ·)
      let path := pathText true after
      if host = .domain "localhost".toList || hasDrive after then return { tail with path }
      return { tail with host := some host, path }
    else return { tail with path := pathText true s }
  | _ => return { tail with path := pathText true s }

/-- Reads an absolute URL. -/
def parse (text : List Char) : Except Fault Url := do
  let some (scheme, afterScheme) := splitScheme? (significant text) | throw .relative
  let kind := schemeKind scheme
  let (beforeFragment, fragment) := splitAtMark '#' afterScheme
  let (body, query) := splitAtMark '?' beforeFragment
  let queryKeeps := if kind.isSpecial then Percent.specialQueryKeeps else Percent.queryKeeps
  let tail : Url := {
    scheme, user := [], password := [], host := none, port := none, path := []
    query := query.map (Percent.encode queryKeeps)
    fragment := fragment.map (Percent.encode Percent.fragmentKeeps) }
  match kind with
  | .file => ofFile tail body
  | .special _ =>
    let rest := body.dropWhile (isSlash true)
    ofAuthority kind tail (rest.takeWhile (!isSlash true ·)) (rest.dropWhile (!isSlash true ·))
  | .other =>
    match body with
    | '/' :: '/' :: rest =>
      ofAuthority kind tail (rest.takeWhile (· ≠ '/')) (rest.dropWhile (· ≠ '/'))
    | '/' :: rest => return { tail with path := pathText false ('/' :: rest) }
    | _ => return { tail with path := Percent.encode (!Percent.isControl ·) body }

/-! ## Writing -/

def userText (u : Url) : List Char :=
  if u.user = [] && u.password = [] then []
  else u.user ++ (if u.password = [] then [] else ':' :: u.password) ++ ['@']

/-- The URL as text. -/
def text (u : Url) : List Char :=
  u.scheme ++ ':' ::
    (match u.host with
      | some h =>
        "//".toList ++ u.userText ++ h.text ++
          (match u.port with
            | some p => ':' :: Nat.toDigits 10 p
            | none => [])
      | none => if schemeKind u.scheme = .file then "//".toList else []) ++
    u.path ++
    (match u.query with
      | some q => '?' :: q
      | none => []) ++
    (match u.fragment with
      | some f => '#' :: f
      | none => [])

def hostText? (u : Url) : Option String := u.host.map fun h => String.ofList h.text

/-- The web's own schemes. -/
def isWeb (u : Url) : Bool := u.scheme = "http".toList || u.scheme = "https".toList

end Url

end Passage
