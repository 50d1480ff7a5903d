import Passage.Text.Blank

/-!
# Query tokens

A query is cut into quoted phrases and plain words. A quote opens a phrase only
where it is met at the start of a token and closes later with something in
between; any other quote is a character of the plain word around it.
-/

namespace Passage.Query

open Text

inductive Kind
  | plain
  | phrase
  deriving DecidableEq, Repr

structure Token where
  kind : Kind
  value : String
  deriving DecidableEq, Repr

namespace Token

/-- The inside of the phrase that the text begins with, and what follows its closing quote. -/
def phrase? : List Char → Option (List Char × List Char)
  | '"' :: s =>
    match s.takeWhile (· ≠ '"'), s.dropWhile (· ≠ '"') with
    | c :: inner, _ :: rest => some (c :: inner, rest)
    | _, _ => none
  | _ => none

theorem length_lt_of_phrase? {s inner rest : List Char} (h : phrase? s = some (inner, rest)) :
    rest.length < s.length := by
  unfold phrase? at h
  split at h
  · rename_i s
    have hd := (List.dropWhile_sublist (fun c => decide (c ≠ '"')) (l := s)).length_le
    split at h
    · rename_i hdrop
      rw [hdrop] at hd
      simp only [Option.some.injEq, Prod.mk.injEq] at h
      rw [← h.2]
      simp only [List.length_cons] at hd ⊢
      omega
    · cases h
  · cases h

/-- Cuts a query into its tokens, in order. -/
def scan : List Char → List Token
  | [] => []
  | c :: rest =>
    if isBlank c then scan rest
    else match _h : phrase? (c :: rest) with
      | some (inner, after) => ⟨.phrase, String.ofList inner⟩ :: scan after
      | none =>
        ⟨.plain, String.ofList (c :: rest.takeWhile (!isBlank ·))⟩ ::
          scan (rest.dropWhile (!isBlank ·))
termination_by s => s.length
decreasing_by
  · simp
  · exact length_lt_of_phrase? _h
  · have hl := (List.dropWhile_sublist (fun x => !isBlank x) (l := rest)).length_le
    simp only [List.length_cons]
    omega

def ofQuery (query : String) : List Token := scan query.toList

end Token

end Passage.Query
