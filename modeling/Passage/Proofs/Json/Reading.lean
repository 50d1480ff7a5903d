import Mathlib.Data.List.TakeWhile
import Mathlib.Tactic.SplitIfs
import Passage.Json.Reader
import Passage.Proofs.Numeral
import Passage.Proofs.Text.Utf8

/-!
# Written values are read back

The line that a value writes is read as that value, whatever characters its texts hold, and
is one line: it has no control character. The block that it writes is read as the value too,
since white space between tokens does not count. A value is read from any state in which one
may begin, so arrays and objects are read part by part. Only numbers that count something are
considered.
-/

namespace Passage.Json

open Text

/-! ## The state after a text -/

/-- The state after reading a text from a state, if the text can be read there. -/
def scan (st : State) (s : List (Option Char)) : Option State :=
  (tokens [] s).bind fun ts => ts.foldlM State.step st

theorem scan_nil (st : State) : scan st [] = some st :=
  rfl

theorem scan_token {s rest : List (Option Char)} {t : Token}
    (h : tokens [] s = (tokens [] rest).map (t :: ·)) (st : State) :
    scan st s = (st.step t).bind (scan · rest) := by
  rw [scan, h]
  cases hr : tokens [] rest with
  | none => cases hs : st.step t <;> simp [scan, hr]
  | some ts => cases hs : st.step t <;> simp [scan, hr, hs]

theorem tokens_mark {c : Char} {t : Token} (h : mark? c = some t) (rest : List (Option Char)) :
    tokens [] (some c :: rest) = (tokens [] rest).map (t :: ·) := by
  unfold mark? at h
  split_ifs at h <;> (subst c; cases h; rfl)

theorem scan_mark {c : Char} {t : Token} (h : mark? c = some t) (st : State)
    (rest : List (Option Char)) : scan st (some c :: rest) = (st.step t).bind (scan · rest) :=
  scan_token (tokens_mark h rest) st

theorem scan_space {c : Char} (h : isSpace c) (st : State) (rest : List (Option Char)) :
    scan st (some c :: rest) = scan st rest := by
  simp only [isSpace, Bool.or_eq_true, decide_eq_true_eq] at h
  rcases h with ((rfl | rfl) | rfl) | rfl <;> rfl

theorem scan_spaces {s : List Char} (h : ∀ c ∈ s, isSpace c) (st : State)
    (rest : List (Option Char)) : scan st (s.map some ++ rest) = scan st rest := by
  induction s with
  | nil => rfl
  | cons c s ih =>
    obtain ⟨hc, hs⟩ := List.forall_mem_cons.mp h
    rw [List.map_cons, List.cons_append, scan_space hc, ih hs]

/-! ## Words and numbers -/

/-- A word in front of this text is not continued by it. -/
def EndsWord (rest : List (Option Char)) : Prop :=
  rest.head?.any (·.any isWordChar) = false

theorem tokens_word {s : List Char} (hne : s ≠ []) (hs : ∀ c ∈ s, isWordChar c)
    {rest : List (Option Char)} (hr : EndsWord rest) (word : List Char) {v : Value}
    (hv : word? (word.reverse ++ s) = some v) :
    tokens word (s.map some ++ rest) = (tokens [] rest).map (.value v :: ·) := by
  -- the word grows by one character at a time, until its last one
  induction s generalizing word with
  | nil => exact absurd rfl hne
  | cons c s ih =>
    obtain ⟨hc, hs⟩ := List.forall_mem_cons.mp hs
    have hw : (c :: word).reverse ++ s = word.reverse ++ c :: s := by simp
    rw [List.map_cons, List.cons_append, tokens, if_pos hc]
    cases s with
    | nil =>
      rw [← hw, List.append_nil] at hv
      rw [List.map_nil, List.nil_append, if_neg (by rw [hr]; decide), hv]
    | cons d s =>
      have hd : isWordChar d := hs d List.mem_cons_self
      rw [if_pos (by simpa using hd)]
      exact ih (List.cons_ne_nil d s) hs (c :: word) (by rwa [hw])

theorem scan_word {s : List Char} (hne : s ≠ []) (hs : ∀ c ∈ s, isWordChar c)
    {rest : List (Option Char)} (hr : EndsWord rest) {v : Value} (hv : word? s = some v)
    (st : State) : scan st (s.map some ++ rest) = (st.step (.value v)).bind (scan · rest) :=
  scan_token (tokens_word hne hs hr [] hv) st

theorem printable_of_isWordChar {c : Char} (h : isWordChar c) : 32 ≤ c.toNat := by
  have hcontrol : ∀ n < 32, isWordChar (Char.ofNat n) = false := by decide
  apply Nat.le_of_not_lt
  intro hlt
  have hfalse := hcontrol c.toNat hlt
  rw [Char.ofNat_toNat, h] at hfalse
  cases hfalse

theorem isWordChar_of_isDigit {c : Char} (h : c.isDigit) : isWordChar c := by
  simp [isWordChar, Char.isAlphanum, h]

/-! ## Texts -/

theorem stringTokens_escape {e : Char} {n : Nat} (h : escape? e = some n) (content : List Code)
    (rest : List (Option Char)) :
    stringTokens content (some '\\' :: some e :: rest) = stringTokens (some n :: content) rest := by
  have he : e ≠ 'u' := by
    rintro rfl
    cases h
  rw [stringTokens, h]
  intro a b c d rest' _
  exact he

theorem stringTokens_hex {a b c d : Char} {n : Nat} (h : Numeral.hexNumber? [a, b, c, d] = some n)
    (content : List Code) (rest : List (Option Char)) :
    stringTokens content (some '\\' :: some 'u' :: some a :: some b :: some c :: some d :: rest) =
      stringTokens (some n :: content) rest := by
  rw [stringTokens, h]

theorem stringTokens_char {c : Char} (hquote : c ≠ '"') (hback : c ≠ '\\') (hc : ¬ c.toNat < 32)
    (content : List Code) (rest : List (Option Char)) :
    stringTokens content (some c :: rest) = stringTokens (some c.toNat :: content) rest := by
  rw [stringTokens]
  · simp [hback, hc]
  · exact hquote
  · intro _ _ _ _ _ _
    exact hback
  · intro _ _ _
    exact hback

theorem hexNumber?_control : ∀ n < 32,
    Numeral.hexNumber? ['0', '0', Nat.digitChar (n / 16), Nat.digitChar (n % 16)] = some n := by
  decide

/-- What is written for a character inside a string is read as its number. -/
theorem stringTokens_escapeChar (content : List Code) (c : Char) (rest : List (Option Char)) :
    stringTokens content ((escapeChar c).map some ++ rest) =
      stringTokens (some c.toNat :: content) rest := by
  unfold escapeChar
  -- the characters with an escape of their own come first
  iterate 7
    split
    · next h =>
      rw [h]
      exact stringTokens_escape (by decide) content rest
  split
  · next hc => exact stringTokens_hex (hexNumber?_control c.toNat hc) content rest
  · next hquote hback _ _ _ _ _ hc => exact stringTokens_char hquote hback hc content rest

theorem stringTokens_escaped (content : List Code) (s : List Char) (rest : List (Option Char)) :
    stringTokens content ((s.flatMap escapeChar).map some ++ rest) =
      stringTokens ((s.map fun c => some c.toNat).reverse ++ content) rest := by
  induction s generalizing content with
  | nil => rfl
  | cons c s ih =>
    rw [List.flatMap_cons, List.map_append, List.append_assoc, stringTokens_escapeChar, ih]
    simp

theorem isHigh_toNat (c : Char) : isHigh c.toNat = false := by
  have h : c.toNat < 0xD800 ∨ 0xDFFF < c.toNat ∧ c.toNat < 0x110000 := c.valid
  simp only [isHigh, Bool.and_eq_false_iff, decide_eq_false_iff_not]
  omega

/-- The numbers of characters are joined to the characters, none of them being half a pair. -/
theorem join_toNat (s : List Char) : join (s.map fun c => some c.toNat) = some s := by
  induction s with
  | nil => rfl
  | cons c s ih =>
    have hc := Utf8.scalar?_toNat c
    cases s with
    | nil =>
      rw [List.map_cons, List.map_nil, join, hc]
      · rfl
      · intro _ _ h
        cases h
    | cons d s =>
      rw [List.map_cons] at ih
      rw [List.map_cons, List.map_cons, join, isHigh_toNat, Bool.false_and,
        if_neg Bool.false_ne_true, ih, hc]

theorem tokens_quotation (rest : List (Option Char)) :
    tokens [] (some '"' :: rest) = stringTokens [] rest :=
  rfl

theorem stringTokens_quotation (content : List Code) (rest : List (Option Char)) :
    stringTokens content (some '"' :: rest) = (tokens [] rest).map
      (.value (.string ((join content.reverse).map String.ofList)) :: ·) := by
  rw [stringTokens]

theorem tokens_string (content : List Char) (rest : List (Option Char)) :
    tokens [] (some '"' :: ((content.flatMap escapeChar).map some ++ some '"' :: rest)) =
      (tokens [] rest).map (.value (.text (String.ofList content)) :: ·) := by
  rw [tokens_quotation, stringTokens_escaped, List.append_nil, stringTokens_quotation,
    List.reverse_reverse, join_toNat, Option.map_some, Value.text]

theorem quote_some (s : String) :
    quote (some s) = '"' :: (s.toList.flatMap escapeChar ++ ['"']) :=
  rfl

theorem tokens_quote (s : String) (rest : List (Option Char)) :
    tokens [] ((quote (some s)).map some ++ rest) =
      (tokens [] rest).map (.value (.text s) :: ·) := by
  rw [quote_some, List.map_cons, List.map_append, List.cons_append, List.append_assoc]
  exact (tokens_string s.toList rest).trans (by rw [String.ofList_toList])

theorem scan_quote (st : State) (s : String) (rest : List (Option Char)) :
    scan st ((quote (some s)).map some ++ rest) = (st.step (.value (.text s))).bind (scan · rest) :=
  scan_token (tokens_quote s rest) st

theorem printable_hexDigit : ∀ n < 16, 32 ≤ (Nat.digitChar n).toNat := by
  decide

theorem printable_escapeChar {c d : Char} (h : d ∈ escapeChar c) : 32 ≤ d.toNat := by
  unfold escapeChar at h
  iterate 7
    split at h
    · revert d
      decide
  split at h
  · next hc =>
    simp only [List.mem_cons, List.not_mem_nil, or_false] at h
    rcases h with rfl | rfl | rfl | rfl | rfl | rfl
    · decide
    · decide
    · decide
    · decide
    · exact printable_hexDigit _ (by omega)
    · exact printable_hexDigit _ (by omega)
  · next hc =>
    obtain rfl := List.mem_singleton.mp h
    exact Nat.le_of_not_lt hc

theorem printable_enclosed {a b : Char} {s : List Char} (ha : 32 ≤ a.toNat) (hb : 32 ≤ b.toNat)
    (hs : ∀ c ∈ s, 32 ≤ c.toNat) : ∀ c ∈ a :: (s ++ [b]), 32 ≤ c.toNat := by
  intro c hc
  rw [List.mem_cons, List.mem_append, List.mem_singleton] at hc
  rcases hc with rfl | hc | rfl
  · exact ha
  · exact hs c hc
  · exact hb

theorem printable_quote (s : String) : ∀ c ∈ quote (some s), 32 ≤ c.toNat := by
  apply printable_enclosed (by decide) (by decide)
  intro c hc
  obtain ⟨d, _, hd⟩ := List.mem_flatMap.mp hc
  exact printable_escapeChar hd

/-! ## Legible values -/

/-- The states in which a value may begin, with the arrays and objects then open. -/
inductive Awaits : State → List Frame → Prop
  | value (stack : List Frame) : Awaits (.value stack) stack
  | firstItem (stack : List Frame) : Awaits (.firstItem stack) (.array [] :: stack)

/-- The text is read as the value wherever a value may begin. -/
structure Denotes (s : List Char) (v : Value) : Prop where
  reads : ∀ {st : State} {stack : List Frame}, Awaits st stack → ∀ {rest : List (Option Char)},
    EndsWord rest → scan st (s.map some ++ rest) = scan (.done v stack) rest

/-- A value whose line and blocks are read as the value. Its line has no control character. -/
structure Legible (v : Value) : Prop where
  line : Denotes v.compact v
  block : ∀ depth, Denotes (v.pretty depth) v
  printable : ∀ c ∈ v.compact, 32 ≤ c.toNat

theorem step_value {st : State} {stack : List Frame} (h : Awaits st stack) (v : Value) :
    st.step (.value v) = some (.done v stack) := by
  cases h <;> rfl

theorem step_openArray {st : State} {stack : List Frame} (h : Awaits st stack) :
    st.step .openArray = some (.firstItem stack) := by
  cases h <;> rfl

theorem step_openObject {st : State} {stack : List Frame} (h : Awaits st stack) :
    st.step .openObject = some (.firstKey stack) := by
  cases h <;> rfl

theorem isSpace_of_mem_newline (depth : Nat) : ∀ c ∈ newline depth, isSpace c := by
  simp [newline, isSpace]

theorem Denotes.indented {s : List Char} {v : Value} (h : Denotes s v) (depth : Nat) :
    Denotes (newline depth ++ s) v where
  reads hst rest hr := by
    rw [List.map_append, List.append_assoc, scan_spaces (isSpace_of_mem_newline depth),
      h.reads hst hr]

/-- Where blocks are as the line is, it is enough to read the line. -/
theorem legible_of_line {v : Value} (hline : Denotes v.compact v)
    (hblock : ∀ depth, v.pretty depth = v.compact) (hprintable : ∀ c ∈ v.compact, 32 ≤ c.toNat) :
    Legible v where
  line := hline
  block depth := by rwa [hblock]
  printable := hprintable

theorem legible_text (s : String) : Legible (.text s) := by
  apply legible_of_line
  · rw [Value.text, Value.compact]
    constructor
    intro st stack hst rest _
    rw [scan_quote, step_value hst]
    rfl
  · intro depth
    rw [Value.text, Value.pretty, Value.compact]
  · rw [Value.text, Value.compact]
    exact printable_quote s

theorem legible_word {v : Value} (hblock : ∀ depth, v.pretty depth = v.compact)
    (hne : v.compact ≠ []) (hs : ∀ c ∈ v.compact, isWordChar c)
    (hv : word? v.compact = some v) : Legible v := by
  apply legible_of_line _ hblock fun c hc => printable_of_isWordChar (hs c hc)
  constructor
  intro st stack hst rest hr
  rw [scan_word hne hs hr hv, step_value hst]
  rfl

theorem isNumber_of_digits {c : Char} {cs : List Char} (hd : ∀ d ∈ c :: cs, d.isDigit)
    (hc : c ≠ '0') : isNumber (c :: cs) := by
  have hminus : c ≠ '-' := by
    rintro rfl
    exact absurd (hd '-' List.mem_cons_self) (by decide)
  have hinteger : integer? (c :: cs) = some [] := by
    rw [integer?, digits?, if_pos (hd c List.mem_cons_self), List.dropWhile_eq_nil_iff.mpr hd]
    intro rest h
    exact hc (List.cons.inj h).1
  unfold isNumber
  simp only
  split
  · next h => exact absurd (List.cons.inj h).1 hminus
  · rw [hinteger]
    rfl

theorem word?_of_digits {s : List Char} (hd : ∀ d ∈ s, d.isDigit) (hs : isNumber s) :
    word? s = some (.number s) := by
  have hletter : ∀ {w : String} {c : Char}, c ∈ w.toList → c.isDigit = false → s ≠ w.toList := by
    rintro w c hm hc rfl
    rw [hd c hm] at hc
    cases hc
  have hnull := hletter (w := "null") (c := 'n') (by decide) rfl
  have htrue := hletter (w := "true") (c := 't') (by decide) rfl
  have hfalse := hletter (w := "false") (c := 'f') (by decide) rfl
  rw [word?, if_neg hnull, if_neg htrue, if_neg hfalse, if_pos hs]

theorem word?_decimal (n : Nat) : word? (Numeral.decimal n) = some (.nat n) := by
  by_cases hn : n = 0
  · rw [hn]
    rfl
  · obtain ⟨c, cs, hc⟩ := List.exists_cons_of_ne_nil (Numeral.decimal_ne_nil n)
    have hd : ∀ d ∈ Numeral.decimal n, d.isDigit := fun _ h => Numeral.isDigit_of_mem_decimal h
    have hzero := Numeral.head?_decimal hn
    rw [hc, List.head?_cons, ne_eq, Option.some.injEq] at hzero
    apply word?_of_digits hd
    rw [hc] at hd ⊢
    exact isNumber_of_digits hd hzero

theorem legible_nat (n : Nat) : Legible (.nat n) := by
  apply legible_word
  · intro depth
    rw [Value.nat, Value.pretty, Value.compact]
  · exact Nat.toDigits_ne_nil
  · exact fun _ hc => isWordChar_of_isDigit (Numeral.isDigit_of_mem_decimal hc)
  · exact word?_decimal n

theorem legible_bool (b : Bool) : Legible (.bool b) := by
  have hblock : ∀ depth, (Value.bool b).pretty depth = (Value.bool b).compact := by
    intro depth
    rw [Value.pretty, Value.compact]
  cases b with
  | false => exact legible_word hblock (by decide) (by decide) rfl
  | true => exact legible_word hblock (by decide) (by decide) rfl

/-! ## Lists with commas -/

/-- What writes a list part by part with commas between writes its parts joined by commas. -/
theorem eq_intercalate {α : Type} (whole : List α → List Char) {write : α → List Char}
    (hnil : whole [] = []) (hone : ∀ a, whole [a] = write a)
    (hmore : ∀ a b as, whole (a :: b :: as) = write a ++ ',' :: whole (b :: as)) (as : List α) :
    whole as = [','].intercalate (as.map write) := by
  induction as with
  | nil => exact hnil
  | cons a as ih =>
    cases as with
    | nil => rw [hone, List.map_singleton, List.intercalate_singleton]
    | cons b as =>
      rw [hmore, ih]
      simp only [List.map_cons, List.intercalate_cons_cons, List.append_assoc,
        List.singleton_append]

theorem printable_intercalate {texts : List (List Char)}
    (h : ∀ s ∈ texts, ∀ c ∈ s, 32 ≤ c.toNat) : ∀ c ∈ [','].intercalate texts, 32 ≤ c.toNat := by
  induction texts with
  | nil => exact fun c hc => by cases hc
  | cons s texts ih =>
    obtain ⟨hs, htexts⟩ := List.forall_mem_cons.mp h
    cases texts with
    | nil => rwa [List.intercalate_singleton]
    | cons t texts =>
      rw [List.intercalate_cons_cons]
      intro c hc
      rw [List.mem_append, List.mem_append, List.mem_singleton] at hc
      rcases hc with (hc | rfl) | hc
      · exact hs c hc
      · decide
      · exact ih htexts c hc

theorem endsWord_cons {c : Char} (h : isWordChar c = false) (rest : List (Option Char)) :
    EndsWord (some c :: rest) :=
  h

/-- A word ends in front of white space and a mark. -/
theorem endsWord_spaces {gap : List Char} (h : ∀ c ∈ gap, isSpace c) {c : Char}
    (hc : isWordChar c = false) (rest : List (Option Char)) :
    EndsWord (gap.map some ++ some c :: rest) := by
  cases gap with
  | nil => exact hc
  | cons d gap =>
    have hd := h d List.mem_cons_self
    simp only [isSpace, Bool.or_eq_true, decide_eq_true_eq] at hd
    rcases hd with ((rfl | rfl) | rfl) | rfl <;> exact endsWord_cons (by decide) _

/-! ## Arrays -/

theorem compactItems_eq (items : List Value) :
    compactItems items = [','].intercalate (items.map Value.compact) :=
  eq_intercalate compactItems rfl compactItems.eq_2
    (fun v w vs => compactItems.eq_3 v (w :: vs) nofun) items

theorem prettyItems_eq (depth : Nat) (items : List Value) : prettyItems depth items =
    [','].intercalate (items.map fun v => newline depth ++ v.pretty depth) :=
  eq_intercalate (prettyItems depth) rfl (prettyItems.eq_2 depth)
    (fun v w vs => prettyItems.eq_3 depth v (w :: vs) nofun) items

section

variable {write : Value → List Char} {gap : List Char} (hgap : ∀ c ∈ gap, isSpace c)
include hgap

/-- Items are read one behind the other up to the end of their array. -/
theorem scan_items {v : Value} {vs : List Value} (h : ∀ i ∈ v :: vs, Denotes (write i) i)
    {st : State} {acc : List Value} {stack : List Frame} (hst : Awaits st (.array acc :: stack))
    (rest : List (Option Char)) :
    scan st (([','].intercalate ((v :: vs).map write)).map some ++
        (gap.map some ++ some ']' :: rest)) =
      scan (.done (.array (acc.reverse ++ v :: vs)) stack) rest := by
  induction vs generalizing v st acc with
  | nil =>
    have hv := h v List.mem_cons_self
    have hstep : State.step (.done v (.array acc :: stack)) .closeArray =
        some (.done (.array (acc.reverse ++ [v])) stack) := by
      rw [← List.reverse_cons]
      rfl
    rw [List.map_singleton, List.intercalate_singleton,
      hv.reads hst (endsWord_spaces hgap (by decide) rest), scan_spaces hgap, scan_mark rfl, hstep]
    rfl
  | cons w vs ih =>
    obtain ⟨hv, hvs⟩ := List.forall_mem_cons.mp h
    have hstep : State.step (.done v (.array acc :: stack)) .comma =
        some (.value (.array (v :: acc) :: stack)) := rfl
    rw [List.map_cons, List.map_cons, List.intercalate_cons_cons, ← List.map_cons,
      List.map_append, List.map_append, List.append_assoc, List.append_assoc, List.map_singleton,
      List.singleton_append, hv.reads hst (endsWord_cons (by decide) _), scan_mark rfl, hstep,
      Option.bind_some, ih hvs (.value _), List.reverse_cons, List.append_assoc,
      List.singleton_append]

/-- An array is read from the texts of its items, with white space in front of its end. -/
theorem denotes_array {items : List Value} (hne : items ≠ [])
    (h : ∀ v ∈ items, Denotes (write v) v) :
    Denotes ('[' :: ([','].intercalate (items.map write) ++ gap ++ [']'])) (.array items) where
  reads {st stack} hst rest _ := by
    obtain ⟨v, vs, rfl⟩ := List.exists_cons_of_ne_nil hne
    rw [List.map_cons, List.cons_append, scan_mark rfl, step_openArray hst, Option.bind_some,
      List.map_append, List.map_append, List.append_assoc, List.append_assoc, List.map_singleton,
      List.singleton_append, scan_items hgap h (.firstItem stack)]
    rfl

end

theorem denotes_empty_array : Denotes ['[', ']'] (.array []) where
  reads hst rest _ := by
    rw [List.map_cons, List.cons_append, scan_mark rfl, step_openArray hst]
    exact scan_mark (c := ']') (t := .closeArray) rfl _ rest

theorem legible_array {items : List Value} (h : ∀ v ∈ items, Legible v) :
    Legible (.array items) where
  line := by
    rw [Value.compact, compactItems_eq]
    by_cases hne : items = []
    · subst hne
      exact denotes_empty_array
    · simpa using denotes_array (List.forall_mem_nil _) hne fun v hv => (h v hv).line
  block depth := by
    cases items with
    | nil => exact denotes_empty_array
    | cons v vs =>
      rw [Value.pretty, prettyItems_eq]
      · exact denotes_array (isSpace_of_mem_newline depth) (List.cons_ne_nil v vs) fun i hi =>
          ((h i hi).block (depth + 1)).indented (depth + 1)
      · exact nofun
  printable := by
    rw [Value.compact, compactItems_eq]
    apply printable_enclosed (by decide) (by decide)
    apply printable_intercalate
    intro s hs
    obtain ⟨v, hv, rfl⟩ := List.mem_map.mp hs
    exact (h v hv).printable

/-! ## Objects -/

/-- The states in which a key may come, with the fields in front and what is open around them. -/
inductive AwaitsKey : State → List (Option String × Value) → List Frame → Prop
  | first (stack : List Frame) : AwaitsKey (.firstKey stack) [] stack
  | later (fields : List (Option String × Value)) (stack : List Frame) :
    AwaitsKey (.key fields stack) fields stack

/-- The text is read as the key and the value of a field wherever a key may come. -/
structure DenotesField (s : List Char) (f : String × Value) : Prop where
  reads : ∀ {st : State} {acc : List (Option String × Value)} {stack : List Frame},
    AwaitsKey st acc stack → ∀ {rest : List (Option Char)}, EndsWord rest →
      scan st (s.map some ++ rest) = scan (.done f.2 (.object acc (some f.1) :: stack)) rest

/-- The fields of an object that is made from named values. -/
def named (fields : List (String × Value)) : List (Option String × Value) :=
  fields.map fun (k, v) => (some k, v)

theorem named_cons (f : String × Value) (fs : List (String × Value)) :
    named (f :: fs) = (some f.1, f.2) :: named fs :=
  rfl

/-- A field as it is written, with white space behind its colon and its value as this text. -/
def fieldText (gap : List Char) (f : String × Value) (value : List Char) : List Char :=
  quote (some f.1) ++ ':' :: (gap ++ value)

theorem compactFields_eq (fields : List (String × Value)) : compactFields (named fields) =
    [','].intercalate (fields.map fun f => fieldText [] f f.2.compact) := by
  refine eq_intercalate (fun fs => compactFields (named fs)) rfl ?_ ?_ fields
  · intro f
    exact compactFields.eq_2 (some f.1) f.2
  · intro f g fs
    exact compactFields.eq_3 (some f.1) f.2 (named (g :: fs)) nofun

theorem prettyFields_eq (depth : Nat) (fields : List (String × Value)) :
    prettyFields depth (named fields) = [','].intercalate
      (fields.map fun f => newline depth ++ fieldText [' '] f (f.2.pretty depth)) := by
  refine eq_intercalate (fun fs => prettyFields depth (named fs)) rfl ?_ ?_ fields
  · intro f
    simp [named, prettyFields, fieldText]
  · intro f g fs
    rw [named_cons, prettyFields.eq_3 depth (some f.1) f.2 (named (g :: fs)) nofun]
    simp [fieldText]

theorem DenotesField.indented {s : List Char} {f : String × Value} (h : DenotesField s f)
    (depth : Nat) : DenotesField (newline depth ++ s) f where
  reads hst rest hr := by
    rw [List.map_append, List.append_assoc, scan_spaces (isSpace_of_mem_newline depth),
      h.reads hst hr]

section

variable {gap : List Char} (hgap : ∀ c ∈ gap, isSpace c)
include hgap

/-- A key is read with its colon and its value. -/
theorem denotesField_fieldText {f : String × Value} {value : List Char} (h : Denotes value f.2) :
    DenotesField (fieldText gap f value) f where
  reads {st acc stack} hst rest hr := by
    have hkey : st.step (.value (.text f.1)) = some (.colon acc (some f.1) stack) := by
      cases hst <;> rfl
    have hcolon : State.step (.colon acc (some f.1) stack) .colon =
        some (.value (.object acc (some f.1) :: stack)) := rfl
    rw [fieldText, List.map_append, List.append_assoc, scan_quote, hkey, Option.bind_some,
      List.map_cons, List.cons_append, scan_mark rfl, hcolon, Option.bind_some, List.map_append,
      List.append_assoc, scan_spaces hgap, h.reads (.value _) hr]

variable {write : String × Value → List Char}

/-- Fields are read one behind the other up to the end of their object. -/
theorem scan_fields {f : String × Value} {fs : List (String × Value)}
    (h : ∀ g ∈ f :: fs, DenotesField (write g) g) {st : State}
    {acc : List (Option String × Value)} {stack : List Frame} (hst : AwaitsKey st acc stack)
    (rest : List (Option Char)) :
    scan st (([','].intercalate ((f :: fs).map write)).map some ++
        (gap.map some ++ some '\x7d' :: rest)) =
      scan (.done (.object (acc.reverse ++ named (f :: fs))) stack) rest := by
  induction fs generalizing f st acc with
  | nil =>
    have hf := h f List.mem_cons_self
    have hstep : State.step (.done f.2 (.object acc (some f.1) :: stack)) .closeObject =
        some (.done (.object (acc.reverse ++ named [f])) stack) := by
      rw [named_cons, named, List.map_nil, ← List.reverse_cons]
      rfl
    rw [List.map_singleton, List.intercalate_singleton,
      hf.reads hst (endsWord_spaces hgap (by decide) rest), scan_spaces hgap, scan_mark rfl, hstep]
    rfl
  | cons g fs ih =>
    obtain ⟨hf, hfs⟩ := List.forall_mem_cons.mp h
    have hstep : State.step (.done f.2 (.object acc (some f.1) :: stack)) .comma =
        some (.key ((some f.1, f.2) :: acc) stack) := rfl
    rw [List.map_cons, List.map_cons, List.intercalate_cons_cons, ← List.map_cons,
      List.map_append, List.map_append, List.append_assoc, List.append_assoc, List.map_singleton,
      List.singleton_append, hf.reads hst (endsWord_cons (by decide) _), scan_mark rfl, hstep,
      Option.bind_some, ih hfs (.later _ stack), List.reverse_cons, List.append_assoc,
      List.singleton_append, ← named_cons]

/-- An object is read from the texts of its fields, with white space in front of its end. -/
theorem denotes_record {fields : List (String × Value)} (hne : fields ≠ [])
    (h : ∀ f ∈ fields, DenotesField (write f) f) :
    Denotes ('\x7b' :: ([','].intercalate (fields.map write) ++ gap ++ ['\x7d']))
      (.record fields) where
  reads {st stack} hst rest _ := by
    obtain ⟨f, fs, rfl⟩ := List.exists_cons_of_ne_nil hne
    rw [List.map_cons, List.cons_append, scan_mark rfl, step_openObject hst, Option.bind_some,
      List.map_append, List.map_append, List.append_assoc, List.append_assoc, List.map_singleton,
      List.singleton_append, scan_fields hgap h (.first stack)]
    rfl

end

theorem denotes_empty_record : Denotes ['\x7b', '\x7d'] (.record []) where
  reads hst rest _ := by
    rw [List.map_cons, List.cons_append, scan_mark rfl, step_openObject hst]
    exact scan_mark (c := '\x7d') (t := .closeObject) rfl _ rest

theorem compact_record (fields : List (String × Value)) :
    (Value.record fields).compact = '\x7b' :: ([','].intercalate
      (fields.map fun f => fieldText [] f f.2.compact) ++ ['\x7d']) := by
  rw [← compactFields_eq, Value.record, Value.compact]
  rfl

theorem pretty_record (depth : Nat) {fields : List (String × Value)} (hne : fields ≠ []) :
    (Value.record fields).pretty depth = '\x7b' :: ([','].intercalate (fields.map fun f =>
      newline (depth + 1) ++ fieldText [' '] f (f.2.pretty (depth + 1))) ++ newline depth ++
        ['\x7d']) := by
  rw [← prettyFields_eq, Value.record, Value.pretty]
  · rfl
  · simpa using hne

theorem legible_record {fields : List (String × Value)} (h : ∀ f ∈ fields, Legible f.2) :
    Legible (.record fields) where
  line := by
    rw [compact_record]
    by_cases hne : fields = []
    · subst hne
      exact denotes_empty_record
    · simpa using denotes_record (List.forall_mem_nil _) hne fun f hf =>
        denotesField_fieldText (List.forall_mem_nil _) (h f hf).line
  block depth := by
    by_cases hne : fields = []
    · subst hne
      exact denotes_empty_record
    · rw [pretty_record depth hne]
      have hblank : ∀ c ∈ [' '], isSpace c := by decide
      refine denotes_record (isSpace_of_mem_newline depth) hne fun f hf => ?_
      exact (denotesField_fieldText hblank ((h f hf).block (depth + 1))).indented (depth + 1)
  printable := by
    rw [compact_record]
    apply printable_enclosed (by decide) (by decide)
    apply printable_intercalate
    intro s hs
    obtain ⟨f, hf, rfl⟩ := List.mem_map.mp hs
    intro c hc
    rw [fieldText, List.nil_append, List.mem_append, List.mem_cons] at hc
    rcases hc with hc | rfl | hc
    · exact printable_quote f.1 c hc
    · decide
    · exact (h f hf).printable c hc

/-! ## Whole texts -/

theorem read_of_scan {s : List (Option Char)} {v : Value}
    (h : scan (.value []) s = some (.done v [])) : read s = some v := by
  rw [scan] at h
  rw [read, h]

theorem ofString?_line {v : Value} (h : Legible v) : ofString? v.line = some v := by
  have hscan := h.line.reads (.value []) (show EndsWord [] from rfl)
  rw [List.append_nil] at hscan
  rw [ofString?, Value.line, String.toList_ofList]
  exact read_of_scan hscan

/-- A line break behind a text does not count. -/
theorem Denotes.ofString?_append_break {s : List Char} {v : Value} (h : Denotes s v) :
    ofString? (String.ofList s ++ "\n") = some v := by
  have hscan := h.reads (.value []) (endsWord_cons (c := '\n') (by decide) [])
  rw [scan_space (by decide)] at hscan
  rw [ofString?, String.toList_append, String.toList_ofList, List.map_append]
  exact read_of_scan hscan

theorem not_mem_line {v : Value} (h : Legible v) : '\n' ∉ v.line.toList := by
  rw [Value.line, String.toList_ofList]
  intro hc
  exact absurd (h.printable '\n' hc) (by decide)

end Passage.Json
