import Passage.Content
import Passage.Files.Path
import Passage.Numeral
import Passage.Url.Basic

/-!
# Documents

A document is the text of one source, cut into paragraphs at blank lines. Carriage
returns never count, and paragraphs are trimmed and never empty. The outline shows
how each of the first paragraphs begins.
-/

namespace Passage

open Text

/-! ## Paragraphs -/

/-- The text without carriage returns and without white space at its ends. -/
def normalize (s : List Char) : List Char := trim (s.filter (· ≠ '\r'))

/-- The parts of a text between two line breaks in a row. -/
def blocks : List Char → List (List Char)
  | [] => [[]]
  | '\n' :: '\n' :: rest => [] :: blocks rest
  | c :: rest =>
    match blocks rest with
    | b :: bs => (c :: b) :: bs
    | [] => [[c]]

/-- The paragraphs of a text. -/
def paragraphs (s : List Char) : List (List Char) :=
  ((blocks (normalize s)).map trim).filter (· ≠ [])

def paragraphsOf (text : String) : List String :=
  (paragraphs text.toList).map String.ofList

/-! ## Documents -/

structure Document where
  source : String
  title : String
  paragraphs : List String
  /-- The characters of the whole text, blank lines included. -/
  charCount : Nat
  deriving DecidableEq, Repr

/-- How a paragraph begins. -/
structure OutlineEntry where
  index : Nat
  preview : String
  deriving DecidableEq, Repr

namespace Document

def untitled : String := "(Untitled)"

def ofContent (source : String) (content : Content) : Document :=
  let text := normalize (content.text.getD "").toList
  { source
    title := (content.title.filter (· ≠ "")).getD untitled
    paragraphs := (Passage.paragraphs text).map String.ofList
    charCount := text.length }

def paragraphCount (d : Document) : Nat := d.paragraphs.length

def isEmpty (d : Document) : Bool := d.paragraphs.isEmpty

/-- Where the document comes from in short: the host of a URL, else the file's name. -/
def host (d : Document) : String :=
  let url := (Url.parse d.source.toList).toOption
  match url.bind Url.hostText? with
  | some host => host
  | none =>
    match Files.Path.fileName? d.source.toList with
    | some name => String.ofList name
    | none => d.source

def metaLine (d : Document) : String :=
  d.host ++ " — " ++ String.ofList (Numeral.grouped d.paragraphCount) ++ " paragraphs — " ++
    String.ofList (Numeral.grouped d.charCount) ++ " characters"

/-- The first `chars` characters of a paragraph, with an ellipsis if there are more. -/
def preview (chars : Nat) (paragraph : String) : String :=
  let s := paragraph.toList
  String.ofList (if chars < s.length then s.take chars ++ ['…'] else s)

/-- The previews of the first `limit` paragraphs. -/
def outline (d : Document) (limit chars : Nat) : List OutlineEntry :=
  (d.paragraphs.take limit).mapIdx fun index p => ⟨index, preview chars p⟩

end Document

end Passage
