import Mathlib.Data.List.Basic
import Passage.Toml.Printer

/-!
# Strings read back

A text is spelled in one of four ways, by what characters it has, and each is read back as
the text. Between double quotes every character that could end the string or mean something
else is escaped. Between single quotes nothing is, so the text has to be free of what would
end it early. Between three quotes a text may hold two in a row, also at its end, where they
run into the closing ones.
-/

namespace Passage.Toml

open Numeral (upperHex)

/-! ## Escapes -/

/-- How a character stands between double quotes: as it is, behind a backslash, or by its number. -/
inductive Escape (long : Bool) (c : Char) : List Char → Prop
  | plain (quote : c ≠ '"') (backslash : c ≠ '\\') (carriage : c ≠ '\r')
      (control : isControl c = false ∨ long ∧ c = '\n') : Escape long c [c]
  | letter {e : Char} (stands : escape? e = some c) : Escape long c ['\\', e]
  | number {high low : Char} (stands : hexChar? ['0', '0', high, low] = some c) :
      Escape long c ['\\', 'u', '0', '0', high, low]

theorem hexChar?_ofNat : ∀ n < 128,
    hexChar? ['0', '0', upperHex (n / 16), upperHex (n % 16)] = some (Char.ofNat n) := by
  decide +kernel

theorem toNat_lt_of_isControl {c : Char} (h : isControl c) : c.toNat < 128 := by
  simp only [isControl, Bool.or_eq_true, Bool.and_eq_true, decide_eq_true_eq] at h
  omega

theorem escape_escapeChar (long : Bool) (c : Char) : Escape long c (escapeChar long c) := by
  have hnumber : ∀ {n : Nat} {d : Char}, d.toNat = n → c.toNat = n → c = d :=
    fun hd hc => Char.toNat_inj.mp (hc.trans hd.symm)
  unfold escapeChar
  split
  · next h =>
    subst h
    cases long with
    | false => exact .letter rfl
    | true => exact .plain (by decide) (by decide) (by decide) (Or.inr ⟨rfl, rfl⟩)
  iterate 4
    split
    · next h =>
      subst h
      exact .letter rfl
  split
  · next h => exact .letter (congrArg some (hnumber (d := '\x08') rfl h).symm)
  split
  · next h => exact .letter (congrArg some (hnumber (d := '\x0c') rfl h).symm)
  split
  · next h =>
    have hchar := hexChar?_ofNat c.toNat (toNat_lt_of_isControl h)
    rw [Char.ofNat_toNat] at hchar
    exact .number hchar
  · next hr hq hb _ _ h =>
    exact .plain hq hb hr (Or.inl (Bool.eq_false_iff.mpr h))

namespace Escape

variable {long : Bool} {c : Char} {t : List Char}

/-- It does not begin with a quote, and with a line break only if it is one. -/
theorem exists_cons (h : Escape long c t) :
    ∃ d rest, t = d :: rest ∧ d ≠ '"' ∧ d ≠ '\r' ∧ (d = '\n' → c = '\n') := by
  cases h with
  | plain hquote _ hreturn => exact ⟨c, [], rfl, hquote, hreturn, id⟩
  | letter | number => exact ⟨'\\', _, rfl, by decide, by decide, nofun⟩

theorem ne_of_escape? {d e : Char} (he : escape? e = some c) (hd : escape? d = none) : e ≠ d := by
  rintro rfl
  rw [hd] at he
  cases he

theorem endsLine_of_escape? {e : Char} (h : escape? e = some c) (rest : List Char) :
    endsLine (e :: rest) = false := by
  have hblank : ¬ isInline e := by
    have hspace : e ≠ ' ' := ne_of_escape? h rfl
    have htab : e ≠ '\t' := ne_of_escape? h rfl
    simp [isInline, hspace, htab]
  rw [endsLine, List.dropWhile_cons_of_neg hblank]
  split
  · next hline => exact absurd (List.cons.inj hline).1 (ne_of_escape? h rfl)
  · next hline => exact absurd (List.cons.inj hline).1 (ne_of_escape? h rfl)
  · rfl

theorem basicBody (h : Escape false c t) (rest : List Char) :
    basicBody (t ++ rest) = (basicBody rest).cons c := by
  cases h with
  | plain hquote hback _ hcontrol =>
    have hc : isControl c = false := hcontrol.resolve_right nofun
    rw [List.singleton_append, Toml.basicBody]
    · simp [hback, hc]
    all_goals grind
  | @letter e hstands =>
    have hshort : e ≠ 'u' := ne_of_escape? hstands rfl
    have hlong : e ≠ 'U' := ne_of_escape? hstands rfl
    rw [List.cons_append, List.cons_append, List.nil_append, Toml.basicBody, hstands]
    · rfl
    all_goals grind
  | number hstands =>
    simp only [List.cons_append, List.nil_append]
    rw [Toml.basicBody, hstands]
    rfl

theorem longBasicBody (h : Escape true c t) (rest : List Char) :
    longBasicBody false (t ++ rest) = (longBasicBody false rest).cons c := by
  cases h with
  | plain hquote hback hcarriage hcontrol =>
    rw [List.singleton_append, Toml.longBasicBody]
    · rcases hcontrol with hc | ⟨_, rfl⟩
      · simp [hback, hc]
      · simp
    all_goals grind
  | @letter e hstands =>
    have hshort : e ≠ 'u' := ne_of_escape? hstands rfl
    have hlong : e ≠ 'U' := ne_of_escape? hstands rfl
    have hends := endsLine_of_escape? hstands rest
    rw [List.cons_append, List.cons_append, List.nil_append, Toml.longBasicBody, hends, hstands]
    · rfl
    all_goals grind
  | number hstands =>
    simp only [List.cons_append, List.nil_append]
    rw [Toml.longBasicBody, hstands]
    rfl

end Escape

theorem basicBody_escaped (s : List Char) (rest : List Char) :
    basicBody (s.flatMap (escapeChar false) ++ '"' :: rest) = some (s, rest) := by
  induction s with
  | nil => rw [List.flatMap_nil, List.nil_append, basicBody]
  | cons c s ih =>
    rw [List.flatMap_cons, List.append_assoc, (escape_escapeChar false c).basicBody, ih]
    rfl

/-! ## Between three double quotes -/

/-- The quotes with which a text may run into the closing ones of a long string. -/
def trailingQuotes (mark : Char) : List (List Char) := [[], [mark], [mark, mark]]

theorem longBasicBody_trailing {s : List Char} (hs : s ∈ trailingQuotes '"') {rest : List Char}
    (h : rest.head? ≠ some '"') :
    longBasicBody false (s ++ '"' :: '"' :: '"' :: rest) = some (s, rest) := by
  have hmore : ∀ t, rest ≠ '"' :: t := by
    rintro t rfl
    exact h rfl
  simp only [trailingQuotes, List.mem_cons, List.not_mem_nil, or_false] at hs
  rcases hs with rfl | rfl | rfl
  · rw [List.nil_append, longBasicBody]
    · exact fun t => hmore ('"' :: t)
    · exact hmore
  · rw [List.cons_append, List.nil_append, longBasicBody]
    exact hmore
  · rw [List.cons_append, List.cons_append, List.nil_append, longBasicBody]

/-- A double quote stands for itself if two more do not follow. -/
theorem longBasicBody_quote {t : List Char} (h : ¬ ['"', '"', '"'] <+: '"' :: t) :
    longBasicBody false ('"' :: t) = (longBasicBody false t).cons '"' := by
  rw [longBasicBody]
  · rfl
  iterate 3
    · rintro _ - rfl
      exact h ⟨_, rfl⟩
  all_goals simp

theorem escapeLong_quote {run : Nat} (h : run < 2) (s : List Char) :
    escapeLong run ('"' :: s) = '"' :: escapeLong (run + 1) s := by
  simp [escapeLong, h]

theorem escapeLong_escape {c : Char} {run : Nat} (h : ¬ (c = '"' ∧ run < 2)) (s : List Char) :
    escapeLong run (c :: s) = escapeChar true c ++ escapeLong 0 s := by
  rw [escapeLong, if_neg]
  rwa [Bool.and_eq_true, decide_eq_true_eq, decide_eq_true_eq]

/-- Only a quote that stays as it is begins with a quote. -/
theorem quote_of_prefix {c : Char} {s t more : List Char} {run : Nat}
    (h : '"' :: more <+: escapeLong run (c :: s) ++ t) :
    (c = '"' ∧ run < 2) ∧ more <+: escapeLong (run + 1) s ++ t := by
  by_cases hc : c = '"' ∧ run < 2
  · obtain ⟨rfl, hrun⟩ := hc
    rw [escapeLong_quote hrun, List.cons_append, List.cons_prefix_cons] at h
    exact ⟨⟨rfl, hrun⟩, h.2⟩
  · obtain ⟨d, rest, ht, hd, -⟩ := (escape_escapeChar true c).exists_cons
    rw [escapeLong_escape hc, ht, List.cons_append, List.cons_append, List.cons_prefix_cons] at h
    exact absurd h.1.symm hd

/-- Three quotes in a row come from the closing ones and what runs into them. -/
theorem trailing_of_closed {s t : List Char} {run : Nat}
    (h : ['"', '"', '"'] <+: escapeLong run s ++ t) :
    escapeLong run s = s ∧ s ∈ trailingQuotes '"' := by
  match s with
  | [] => exact ⟨rfl, by simp [trailingQuotes]⟩
  | [c] =>
    obtain ⟨⟨rfl, hrun⟩, -⟩ := quote_of_prefix h
    exact ⟨escapeLong_quote hrun [], by simp [trailingQuotes]⟩
  | [c, d] =>
    obtain ⟨⟨rfl, hrun⟩, hlater⟩ := quote_of_prefix h
    obtain ⟨⟨rfl, hnext⟩, -⟩ := quote_of_prefix hlater
    rw [escapeLong_quote hrun, escapeLong_quote hnext]
    exact ⟨rfl, by simp [trailingQuotes]⟩
  | c :: d :: e :: s =>
    obtain ⟨-, h⟩ := quote_of_prefix h
    obtain ⟨-, h⟩ := quote_of_prefix h
    obtain ⟨⟨-, hrun⟩, -⟩ := quote_of_prefix h
    omega

theorem longBasicBody_escapeLong (s : List Char) {rest : List Char} (h : rest.head? ≠ some '"')
    (run : Nat) : longBasicBody false (escapeLong run s ++ '"' :: '"' :: '"' :: rest) =
      some (s, rest) := by
  induction s generalizing run with
  | nil => exact longBasicBody_trailing List.mem_cons_self h
  | cons c s ih =>
    by_cases hclosed : ['"', '"', '"'] <+: escapeLong run (c :: s) ++ '"' :: '"' :: '"' :: rest
    · obtain ⟨hself, htrailing⟩ := trailing_of_closed hclosed
      rw [hself]
      exact longBasicBody_trailing htrailing h
    · by_cases hc : c = '"' ∧ run < 2
      · obtain ⟨rfl, hrun⟩ := hc
        rw [escapeLong_quote hrun, List.cons_append] at hclosed ⊢
        rw [longBasicBody_quote hclosed, ih]
        rfl
      · rw [escapeLong_escape hc, List.append_assoc, (escape_escapeChar true c).longBasicBody, ih]
        rfl

/-! ## Between single quotes -/

theorem literalBody_append {s : List Char} (hs : ∀ c ∈ s, c ≠ '\'' ∧ isControl c = false)
    (rest : List Char) : literalBody (s ++ '\'' :: rest) = some (s, rest) := by
  induction s with
  | nil => rw [List.nil_append, literalBody]
  | cons c s ih =>
    obtain ⟨⟨hquote, hcontrol⟩, hs⟩ := List.forall_mem_cons.mp hs
    rw [List.cons_append, literalBody, ih hs]
    · simp [hcontrol, Body.cons]
    · exact hquote

/-! ## Between three single quotes -/

theorem le_longestRun (mark : Char) (n : Nat) (s : List Char) : n ≤ longestRun mark n s := by
  induction s generalizing n with
  | nil => exact Nat.le_refl n
  | cons c s ih =>
    rw [longestRun]
    split
    · exact Nat.le_trans (Nat.le_succ n) (ih (n + 1))
    · exact Nat.le_max_left _ _

theorem longestRun_le (mark : Char) {m n : Nat} (h : m ≤ n) (s : List Char) :
    longestRun mark m s ≤ longestRun mark n s := by
  induction s generalizing m n with
  | nil => exact h
  | cons c s ih =>
    rw [longestRun, longestRun]
    split
    · exact ih (by omega)
    · exact Nat.max_le.mpr ⟨Nat.le_trans h (Nat.le_max_left _ _), Nat.le_max_right _ _⟩

theorem longestRun_le_cons (mark c : Char) (s : List Char) :
    longestRun mark 0 s ≤ longestRun mark 0 (c :: s) := by
  rw [longestRun]
  split
  · exact longestRun_le mark (Nat.zero_le 1) s
  · exact Nat.le_max_right _ _

theorem longLiteralBody_trailing {s : List Char} (hs : s ∈ trailingQuotes '\'')
    {rest : List Char} (h : rest.head? ≠ some '\'') :
    longLiteralBody (s ++ '\'' :: '\'' :: '\'' :: rest) = some (s, rest) := by
  have hmore : ∀ t, rest ≠ '\'' :: t := by
    rintro t rfl
    exact h rfl
  simp only [trailingQuotes, List.mem_cons, List.not_mem_nil, or_false] at hs
  rcases hs with rfl | rfl | rfl
  · rw [List.nil_append, longLiteralBody]
    · exact fun t => hmore ('\'' :: t)
    · exact hmore
  · rw [List.cons_append, List.nil_append, longLiteralBody]
    exact hmore
  · rw [List.cons_append, List.cons_append, List.nil_append, longLiteralBody]

/-- A character stands for itself if the string does not end there. -/
theorem longLiteralBody_cons {c : Char} {t : List Char} (hopen : ¬ ['\'', '\'', '\''] <+: c :: t)
    (hreturn : c ≠ '\r') (hc : isControl c = false ∨ c = '\n') :
    longLiteralBody (c :: t) = (longLiteralBody t).cons c := by
  rw [longLiteralBody]
  · rcases hc with hc | rfl
    · simp [hc]
    · rfl
  iterate 3
    · rintro _ rfl rfl
      exact hopen ⟨_, rfl⟩
  · exact fun _ h _ => hreturn h

/-- A text whose characters need no escapes. -/
def Visible (s : List Char) : Prop := ∀ c ∈ s, isControl c = false ∨ c = '\n'

theorem Visible.ne_return {c : Char} {s : List Char} (h : Visible (c :: s)) : c ≠ '\r' := by
  rintro rfl
  exact absurd (h '\r' List.mem_cons_self) (by decide)

/-- Three quotes in a row come from the closing ones and what runs into them. -/
theorem trailing_of_run {s t : List Char} (hrun : longestRun '\'' 0 s < 3)
    (h : ['\'', '\'', '\''] <+: s ++ t) : s ∈ trailingQuotes '\'' := by
  match s with
  | [] => simp [trailingQuotes]
  | [c] =>
    simp only [List.cons_append, List.cons_prefix_cons] at h
    simp [trailingQuotes, ← h.1]
  | [c, d] =>
    simp only [List.cons_append, List.cons_prefix_cons] at h
    simp [trailingQuotes, ← h.1, ← h.2.1]
  | c :: d :: e :: s =>
    simp only [List.cons_append, List.cons_prefix_cons] at h
    rw [← h.1, ← h.2.1, ← h.2.2.1] at hrun
    exact absurd hrun (Nat.not_lt.mpr (le_longestRun '\'' 3 s))

theorem longLiteralBody_append {s : List Char} (hs : Visible s) (hrun : longestRun '\'' 0 s < 3)
    {rest : List Char} (hrest : rest.head? ≠ some '\'') :
    longLiteralBody (s ++ '\'' :: '\'' :: '\'' :: rest) = some (s, rest) := by
  induction s with
  | nil => exact longLiteralBody_trailing (by simp [trailingQuotes]) hrest
  | cons c s ih =>
    by_cases hclosed : ['\'', '\'', '\''] <+: (c :: s) ++ '\'' :: '\'' :: '\'' :: rest
    · exact longLiteralBody_trailing (trailing_of_run hrun hclosed) hrest
    · have hlater := Nat.lt_of_le_of_lt (longestRun_le_cons '\'' c s) hrun
      rw [List.cons_append] at hclosed ⊢
      rw [longLiteralBody_cons hclosed hs.ne_return (hs c List.mem_cons_self),
        ih (List.forall_mem_cons.mp hs).2 hlater]
      rfl

/-! ## Whole strings -/

theorem string?_basic (s : List Char) {rest : List Char} (h : rest.head? ≠ some '"') :
    string? ('"' :: s.flatMap (escapeChar false) ++ '"' :: rest) = some (s, rest) := by
  rw [List.cons_append, string?, basicBody_escaped]
  -- no second and third quote make it a long string
  intro more hmore
  cases s with
  | nil =>
    obtain rfl := (List.cons.inj hmore).2
    exact h rfl
  | cons c s =>
    obtain ⟨d, t, ht, hd, -⟩ := (escape_escapeChar false c).exists_cons
    rw [List.flatMap_cons, ht] at hmore
    exact hd (List.cons.inj hmore).1

/-- The line break behind the opening quotes is dropped again, and no other. -/
theorem dropFirstBreak_openingBreak {s t : List Char}
    (h : '\n' ∉ s → ∀ c ∈ t.head?, c ≠ '\n' ∧ c ≠ '\r') :
    dropFirstBreak (openingBreak s ++ t) = t := by
  by_cases hbreak : '\n' ∈ s
  · simp [openingBreak, hbreak, dropFirstBreak]
  · have hopening : openingBreak s = [] := by simp [openingBreak, hbreak]
    rw [hopening, List.nil_append, dropFirstBreak]
    all_goals
      rintro _ rfl
      exact absurd (h hbreak _ rfl) (by decide)

theorem string?_longBasic (s : List Char) {rest : List Char} (h : rest.head? ≠ some '"') :
    string? ('"' :: '"' :: '"' :: (openingBreak s ++
      (escapeLong 0 s ++ '"' :: '"' :: '"' :: rest))) = some (s, rest) := by
  rw [string?, dropFirstBreak_openingBreak, longBasicBody_escapeLong s h]
  intro hline d hd
  cases s with
  | nil =>
    obtain rfl := Option.some.inj hd
    decide
  | cons c s =>
    by_cases hc : c = '"' ∧ 0 < 2
    · obtain ⟨rfl, hrun⟩ := hc
      rw [escapeLong_quote hrun] at hd
      obtain rfl := Option.some.inj hd
      decide
    · obtain ⟨e, t, ht, -, hreturn, hbreak⟩ := (escape_escapeChar true c).exists_cons
      rw [escapeLong_escape hc, ht] at hd
      obtain rfl := Option.some.inj hd
      exact ⟨fun he => hline (hbreak he ▸ List.mem_cons_self), hreturn⟩

theorem string?_literal {s : List Char} (hne : s ≠ [])
    (hs : ∀ c ∈ s, c ≠ '\'' ∧ isControl c = false) (rest : List Char) :
    string? ('\'' :: (s ++ '\'' :: rest)) = some (s, rest) := by
  rw [string?, literalBody_append hs]
  intro more hmore
  obtain ⟨c, t, rfl⟩ := List.exists_cons_of_ne_nil hne
  exact (hs c List.mem_cons_self).1 (List.cons.inj hmore).1

theorem string?_longLiteral {s : List Char} (hs : Visible s) (hrun : longestRun '\'' 0 s < 3)
    {rest : List Char} (h : rest.head? ≠ some '\'') :
    string? ('\'' :: '\'' :: '\'' :: (openingBreak s ++
      (s ++ '\'' :: '\'' :: '\'' :: rest))) = some (s, rest) := by
  rw [string?, dropFirstBreak_openingBreak, longLiteralBody_append hs hrun h]
  intro hline d hd
  cases s with
  | nil =>
    obtain rfl := Option.some.inj hd
    decide
  | cons c s =>
    obtain rfl := Option.some.inj hd
    exact ⟨fun hc => hline (hc ▸ List.mem_cons_self), hs.ne_return⟩

/-- What a text has to be for a spelling; any text can be escaped. -/
def Spelling.Fits (s : List Char) : Spelling → Prop
  | basic | longBasic => True
  | literal => s ≠ [] ∧ ∀ c ∈ s, c ≠ '\'' ∧ isControl c = false
  | longLiteral => Visible s ∧ longestRun '\'' 0 s < 3

theorem fits_spelling (s : List Char) : (spelling s).Fits s := by
  have hvisible : (s.all fun c => !isControl c || c = '\n') → Visible s := by
    simp [Visible]
  simp only [spelling]
  split
  · trivial
  split
  · next hbasic hliteral =>
    simp only [Bool.and_eq_true, Bool.not_eq_true', List.contains_eq_mem,
      decide_eq_false_iff_not] at hliteral
    obtain ⟨⟨hall, hquote⟩, hline⟩ := hliteral
    constructor
    · rintro rfl
      exact hbasic rfl
    · intro c hc
      refine ⟨fun h => hquote (h ▸ hc), (hvisible hall c hc).resolve_right ?_⟩
      exact fun h => hline (h ▸ hc)
  split
  · trivial
  split
  · next h =>
    rw [Bool.and_eq_true, decide_eq_true_eq] at h
    exact h.imp_left hvisible
  · split <;> trivial

theorem string?_write {p : Spelling} {s : List Char} (h : p.Fits s) {rest : List Char}
    (hdouble : rest.head? ≠ some '"') (hsingle : rest.head? ≠ some '\'') :
    string? (p.write s ++ rest) = some (s, rest) := by
  cases p with
  | basic => simpa [Spelling.write] using string?_basic s hdouble
  | literal => simpa [Spelling.write] using string?_literal h.1 h.2 rest
  | longBasic => simpa [Spelling.write] using string?_longBasic s hdouble
  | longLiteral => simpa [Spelling.write] using string?_longLiteral h.1 h.2 hsingle

theorem exists_cons_quote (s : List Char) :
    ∃ c t, quote s = c :: t ∧ (c = '"' ∨ c = '\'') := by
  rw [quote]
  cases spelling s <;> simp [Spelling.write]

/-- A text that is written as a string is read back from it, up to where the string ends. -/
theorem string?_quote (s rest : List Char) (hdouble : rest.head? ≠ some '"')
    (hsingle : rest.head? ≠ some '\'') : string? (quote s ++ rest) = some (s, rest) :=
  string?_write (fits_spelling s) hdouble hsingle

/-- The quote at the end of the text runs into the closing ones. -/
example : quote "it's 'C:\\'".toList = "'''it's 'C:\\''''".toList := by decide +kernel

end Passage.Toml
