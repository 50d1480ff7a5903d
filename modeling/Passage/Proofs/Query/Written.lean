import Mathlib.Data.List.Forall2
import Mathlib.Data.List.TakeWhile
import Passage.Proofs.Text.Trim
import Passage.Query.Token

/-!
# Tokens as they are typed

A token is typed as it stands, a phrase between quotes, and a blank parts it from the
next one. The scanner reads every token back that it can yield at all, except for a
plain word that begins with a quote: a quote further on would make it a phrase.
-/

namespace Passage.Query.Token

open Text

def written : Token → List Char
  | ⟨.plain, value⟩ => value.toList
  | ⟨.phrase, value⟩ => '"' :: (value.toList ++ ['"'])

/-- What the scanner's tokens have in common. -/
structure WellFormed (t : Token) : Prop where
  nonempty : t.value.toList ≠ []
  unbroken : t.kind = .plain → ∀ c ∈ t.value.toList, isBlank c = false
  unquoted : t.kind = .phrase → '"' ∉ t.value.toList

/-- A word that would begin a phrase if another quote came. -/
def OpensQuote (t : Token) : Prop := t.kind = .plain ∧ t.value.toList.head? = some '"'

instance (t : Token) : Decidable t.OpensQuote := inferInstanceAs (Decidable (_ ∧ _))

/-! ## One step of the scanner -/

theorem phrase?_quoted {inner : List Char} (hne : inner ≠ []) (hq : '"' ∉ inner)
    (rest : List Char) : phrase? ('"' :: (inner ++ '"' :: rest)) = some (inner, rest) := by
  have hall : ∀ c ∈ inner, decide (c ≠ '"') = true := by
    intro c hc
    exact decide_eq_true fun h => hq (h ▸ hc)
  have htake : (inner ++ '"' :: rest).takeWhile (fun c => decide (c ≠ '"')) = inner := by
    rw [List.takeWhile_append_of_pos hall]
    simp
  have hdrop : (inner ++ '"' :: rest).dropWhile (fun c => decide (c ≠ '"')) = '"' :: rest := by
    rw [List.dropWhile_append_of_pos hall]
    simp
  obtain ⟨c, cs, rfl⟩ := List.exists_cons_of_ne_nil hne
  rw [phrase?, htake, hdrop]

theorem phrase?_of_head {c : Char} (hc : c ≠ '"') (rest : List Char) :
    phrase? (c :: rest) = none := by
  rw [phrase?]
  intro s h
  exact hc (List.cons.inj h).1

theorem phrase?_eq_some {s inner rest : List Char} (h : phrase? s = some (inner, rest)) :
    inner ≠ [] ∧ '"' ∉ inner := by
  unfold phrase? at h
  split at h
  · split at h
    · rename_i s c cs _ _ htake _
      obtain ⟨rfl, rfl⟩ := Prod.mk.inj (Option.some.inj h)
      refine ⟨List.cons_ne_nil c cs, fun hm => ?_⟩
      rw [← htake] at hm
      simpa using List.mem_takeWhile_imp hm
    · cases h
  · cases h

theorem scan_nil : scan [] = [] := by
  rw [scan]

theorem scan_blank {c : Char} (hc : isBlank c) (rest : List Char) : scan (c :: rest) = scan rest := by
  rw [scan, if_pos hc]

theorem scan_of_phrase {c : Char} {rest inner after : List Char} (hc : ¬ isBlank c)
    (h : phrase? (c :: rest) = some (inner, after)) :
    scan (c :: rest) = ⟨.phrase, String.ofList inner⟩ :: scan after := by
  rw [scan, if_neg hc]
  split
  · next h' =>
    rw [h] at h'
    obtain ⟨rfl, rfl⟩ := Prod.mk.inj (Option.some.inj h')
    rfl
  · next h' =>
    rw [h] at h'
    cases h'

theorem scan_of_no_phrase {c : Char} {rest : List Char} (hc : ¬ isBlank c)
    (h : phrase? (c :: rest) = none) :
    scan (c :: rest) = ⟨.plain, String.ofList (c :: rest.takeWhile (!isBlank ·))⟩ ::
      scan (rest.dropWhile (!isBlank ·)) := by
  rw [scan, if_neg hc]
  split
  · next h' =>
    rw [h] at h'
    cases h'
  · rfl

/-- The scanner yields well-formed tokens only. -/
theorem wellFormed_scan (s : List Char) : ∀ t ∈ scan s, t.WellFormed := by
  induction s using scan.induct with
  | case1 =>
    rw [scan_nil]
    intro t ht
    cases ht
  | case2 c rest hc ih =>
    rw [scan_blank hc]
    exact ih
  | case3 c rest hc inner after h ih =>
    obtain ⟨hne, hq⟩ := phrase?_eq_some h
    rw [scan_of_phrase hc h]
    refine List.forall_mem_cons.mpr ⟨⟨?_, nofun, fun _ => ?_⟩, ih⟩
    · rwa [String.toList_ofList]
    · rwa [String.toList_ofList]
  | case4 c rest hc h ih =>
    rw [scan_of_no_phrase hc h]
    refine List.forall_mem_cons.mpr ⟨⟨?_, fun _ => ?_, nofun⟩, ih⟩
    · simp
    · rw [String.toList_ofList]
      refine List.forall_mem_cons.mpr ⟨Bool.not_eq_true _ ▸ hc, fun d hd => ?_⟩
      simpa using List.mem_takeWhile_imp hd

/-! ## Reading written tokens -/

/-- The text is read as these tokens, whatever follows it behind a blank. -/
def Reads (text : List Char) (ts : List Token) : Prop :=
  ∀ rest, (∀ c ∈ rest.head?, isBlank c) → scan (text ++ rest) = ts ++ scan rest

theorem reads_word {word : List Char} (hne : word ≠ []) (hw : ∀ c ∈ word, isBlank c = false)
    (hq : word.head? ≠ some '"') : Reads word [⟨.plain, String.ofList word⟩] := by
  intro rest hr
  obtain ⟨c, cs, rfl⟩ := List.exists_cons_of_ne_nil hne
  have hc : ¬ isBlank c := by
    rw [hw c List.mem_cons_self]
    decide
  have hcs : ∀ d ∈ cs, (!isBlank d) = true := by
    intro d hd
    rw [hw d (List.mem_cons_of_mem c hd)]
    rfl
  have hstop : rest.takeWhile (!isBlank ·) = [] ∧ rest.dropWhile (!isBlank ·) = rest := by
    cases rest with
    | nil => exact ⟨rfl, rfl⟩
    | cons d rest => simp [hr d rfl]
  rw [List.cons_append, scan_of_no_phrase hc (phrase?_of_head (fun h => hq (congrArg some h)) _),
    List.takeWhile_append_of_pos hcs, List.dropWhile_append_of_pos hcs, hstop.1, hstop.2,
    List.append_nil]
  rfl

theorem reads_quoted {inner : List Char} (hne : inner ≠ []) (hq : '"' ∉ inner) :
    Reads ('"' :: (inner ++ ['"'])) [⟨.phrase, String.ofList inner⟩] := by
  intro rest _
  rw [List.cons_append, List.append_assoc, List.singleton_append,
    scan_of_phrase (by decide) (phrase?_quoted hne hq rest)]
  rfl

theorem reads_written {t : Token} (h : t.WellFormed) (hq : ¬ t.OpensQuote) :
    Reads t.written [t] := by
  obtain ⟨kind, value⟩ := t
  cases kind with
  | plain =>
    have hr := reads_word h.nonempty (h.unbroken rfl) fun he => hq ⟨rfl, he⟩
    rwa [String.ofList_toList] at hr
  | phrase =>
    have hr := reads_quoted h.nonempty (h.unquoted rfl)
    rwa [String.ofList_toList] at hr

theorem Reads.append {text more : List Char} {ts us : List Token} (h : Reads text ts)
    (hm : Reads more us) : Reads (text ++ ' ' :: more) (ts ++ us) := by
  intro rest hr
  rw [List.append_assoc, List.cons_append, h _ (by simp; decide), scan_blank (by decide), hm rest hr,
    List.append_assoc]

/-- Texts with single blanks between them are read one after another. -/
theorem scan_intercalate {texts : List (List Char)} {groups : List (List Token)}
    (h : List.Forall₂ Reads texts groups) : scan ([' '].intercalate texts) = groups.flatten := by
  have hall : ∀ text ts, Reads text ts → ∀ texts groups, List.Forall₂ Reads texts groups →
      Reads ([' '].intercalate (text :: texts)) (ts ++ groups.flatten) := by
    intro text ts hr texts groups hg
    induction hg generalizing text ts with
    | nil => simpa using hr
    | cons hm _ ih =>
      rw [List.intercalate_cons_cons, List.append_assoc]
      exact hr.append (ih _ _ hm)
  cases h with
  | nil => exact scan_nil
  | cons hr hg => simpa [scan_nil] using hall _ _ hr _ _ hg [] nofun

end Passage.Query.Token
