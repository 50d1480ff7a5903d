import Passage.Proofs.Match.Occurs
import Passage.Proofs.Match.Pieces
import Passage.Proofs.Text.CaseFold
import Mathlib.Data.List.Forall2
import Mathlib.Data.List.Infix

/-!
# Marked text as symbols

Marked text is a list of symbols, each a character of the paragraph or a marker. A
pattern whose literal cannot stand in a marker matches characters only, in whatever
text it is run, so it wraps stretches of characters and leaves the symbols in their
order. Nothing is assumed here of the paragraph itself.
-/

namespace Passage.Match

open Text

inductive Symbol
  | char (c : Char)
  | opening
  | closing
  deriving DecidableEq, Repr

namespace Symbol

def text : Symbol → List Char
  | char c => [c]
  | opening => markOpen
  | closing => markClose

def char? : Symbol → Option Char
  | char c => some c
  | _ => none

def IsMarker (x : Symbol) : Prop := x.char? = none

theorem IsMarker.text_eq {x : Symbol} (hx : x.IsMarker) : x.text = markOpen ∨ x.text = markClose := by
  cases x with
  | char c => cases hx
  | opening => exact .inl rfl
  | closing => exact .inr rfl

end Symbol

/-- The marked text as it is written. -/
def written (ts : List Symbol) : List Char := ts.flatMap Symbol.text

/-- The characters between the markers. -/
def plain (ts : List Symbol) : List Char := ts.filterMap Symbol.char?

/-- The marks open at the end, `depth` being open at the start; `none` if one closes too many. -/
def depthAfter (depth : Nat) : List Symbol → Option Nat
  | [] => some depth
  | .char _ :: ts => depthAfter depth ts
  | .opening :: ts => depthAfter (depth + 1) ts
  | .closing :: ts => if depth = 0 then none else depthAfter (depth - 1) ts

/-- The second text is the first with some stretches of characters wrapped. -/
inductive Wraps : List Symbol → List Symbol → Prop
  | nil : Wraps [] []
  | keep (x : Symbol) {ts us : List Symbol} : Wraps ts us → Wraps (x :: ts) (x :: us)
  | wrap (s : List Char) {ts us : List Symbol} : Wraps ts us →
      Wraps (s.map .char ++ ts) (.opening :: s.map .char ++ .closing :: us)

theorem written_cons (x : Symbol) (ts : List Symbol) :
    written (x :: ts) = x.text ++ written ts := rfl

theorem written_append (ts us : List Symbol) : written (ts ++ us) = written ts ++ written us :=
  List.flatMap_append

theorem written_chars (s : List Char) : written (s.map .char) = s := by
  induction s with
  | nil => rfl
  | cons c s ih => rw [List.map_cons, written_cons, ih]; rfl

theorem plain_cons (x : Symbol) (ts : List Symbol) :
    plain (x :: ts) = x.char?.toList ++ plain ts := by
  cases x <;> rfl

theorem plain_marker {x : Symbol} (hx : x.IsMarker) (ts : List Symbol) :
    plain (x :: ts) = plain ts := by
  rw [plain_cons, show x.char? = none from hx]
  rfl

theorem plain_append (ts us : List Symbol) : plain (ts ++ us) = plain ts ++ plain us :=
  List.filterMap_append

theorem plain_chars (s : List Char) : plain (s.map .char) = s := by
  simp [plain, Function.comp_def, Symbol.char?]

theorem depthAfter_chars (depth : Nat) (s : List Char) (ts : List Symbol) :
    depthAfter depth (s.map .char ++ ts) = depthAfter depth ts := by
  induction s with
  | nil => rfl
  | cons c s ih => exact ih

namespace Wraps

theorem plain_eq {ts us : List Symbol} (h : Wraps ts us) : plain us = plain ts := by
  induction h with
  | nil => rfl
  | keep x _ ih => rw [plain_cons, plain_cons, ih]
  | wrap s _ ih =>
    rw [List.cons_append, plain_cons, plain_append, plain_append, plain_cons, ih]
    rfl

theorem depthAfter_eq {ts us : List Symbol} (h : Wraps ts us) (depth : Nat) :
    depthAfter depth us = depthAfter depth ts := by
  induction h generalizing depth with
  | nil => rfl
  | keep x _ ih => cases x <;> simp only [depthAfter, ih]
  | wrap s _ ih =>
    rw [List.cons_append, depthAfter, depthAfter_chars, depthAfter_chars, depthAfter,
      if_neg (Nat.succ_ne_zero depth), Nat.add_sub_cancel, ih]

end Wraps

/-! ## Putting markers in -/

/-- The second text is the first with markers put in. -/
inductive Inserts : List Symbol → List Symbol → Prop
  | nil : Inserts [] []
  | keep (x : Symbol) {ts us : List Symbol} : Inserts ts us → Inserts (x :: ts) (x :: us)
  | marker {x : Symbol} {ts us : List Symbol} : x.IsMarker → Inserts ts us → Inserts ts (x :: us)

theorem inserts_chars (s : List Char) {ts us : List Symbol} (h : Inserts ts us) :
    Inserts (s.map .char ++ ts) (s.map .char ++ us) := by
  induction s with
  | nil => exact h
  | cons c s ih => exact .keep (.char c) ih

theorem inserts_plain (ts : List Symbol) : Inserts ((plain ts).map .char) ts := by
  induction ts with
  | nil => exact .nil
  | cons x ts ih =>
    cases x with
    | char c => exact .keep (.char c) ih
    | opening => exact .marker rfl ih
    | closing => exact .marker rfl ih

theorem Wraps.inserts {ts us : List Symbol} (h : Wraps ts us) : Inserts ts us := by
  induction h with
  | nil => exact .nil
  | keep x _ ih => exact .keep x ih
  | wrap s _ ih => exact .marker rfl (inserts_chars s (.marker rfl ih))

theorem eq_nil_of_prefix_marker {w : List Char} (hw : '<' ∉ w) {x : Symbol} (hx : x.IsMarker)
    {ts : List Symbol} (h : w <+: written (x :: ts)) : w = [] := by
  cases w with
  | nil => rfl
  | cons a w =>
    have hless : ∃ v, written (x :: ts) = '<' :: v := by
      rw [written_cons]
      rcases hx.text_eq with ht | ht
      · exact ⟨_, by rw [ht]; rfl⟩
      · exact ⟨_, by rw [ht]; rfl⟩
    obtain ⟨v, hv⟩ := hless
    rw [hv] at h
    obtain ⟨rfl, _⟩ := List.cons_prefix_cons.mp h
    exact absurd List.mem_cons_self hw

/-- What a text with markers put in begins with before any `<`, it begins with without them. -/
theorem Inserts.prefix_of {ts us : List Symbol} (h : Inserts ts us) {w : List Char} (hw : '<' ∉ w)
    (hp : w <+: written us) : w <+: written ts := by
  induction h generalizing w with
  | nil => exact hp
  | @keep x ts us _ ih =>
    cases x with
    | char c =>
      rcases List.prefix_cons_iff.mp (show w <+: c :: written us from hp) with rfl | ⟨v, rfl, hv⟩
      · exact List.nil_prefix
      · exact List.cons_prefix_cons.mpr ⟨rfl, ih (fun hm => hw (List.mem_cons_of_mem c hm)) hv⟩
    | opening => rw [eq_nil_of_prefix_marker (x := .opening) hw rfl hp]; exact List.nil_prefix
    | closing => rw [eq_nil_of_prefix_marker (x := .closing) hw rfl hp]; exact List.nil_prefix
  | marker hx _ _ => rw [eq_nil_of_prefix_marker hw hx hp]; exact List.nil_prefix

/-- The markers in the text are all symbols of their own, since none begins at a character. -/
def Resolved : List Symbol → Prop
  | [] => True
  | .char c :: ts => (¬ markOpen <+: c :: written ts ∧ ¬ markClose <+: c :: written ts) ∧ Resolved ts
  | .opening :: ts => Resolved ts
  | .closing :: ts => Resolved ts

theorem resolved_marker {x : Symbol} (hx : x.IsMarker) (ts : List Symbol) :
    Resolved (x :: ts) ↔ Resolved ts := by
  cases x with
  | char c => cases hx
  | opening => rfl
  | closing => rfl

theorem Resolved.of_chars {s : List Char} {ts : List Symbol} (h : Resolved (s.map .char ++ ts)) :
    Resolved ts := by
  induction s with
  | nil => exact h
  | cons c s ih => exact ih h.2

/-- Every text can be read with all its markers as symbols. -/
theorem exists_resolved (s : List Char) : ∃ ts, written ts = s ∧ Resolved ts := by
  induction hn : s.length using Nat.strong_induction_on generalizing s with
  | h n ih =>
    by_cases ho : markOpen <+: s
    · obtain ⟨rest, rfl⟩ := ho
      have hlt : rest.length < n := by simp [← hn, markOpen_eq]; omega
      obtain ⟨ts, hts, hr⟩ := ih rest.length hlt rest rfl
      exact ⟨.opening :: ts, congrArg (markOpen ++ ·) hts, hr⟩
    · by_cases hc : markClose <+: s
      · obtain ⟨rest, rfl⟩ := hc
        have hlt : rest.length < n := by simp [← hn, markClose_eq]; omega
        obtain ⟨ts, hts, hr⟩ := ih rest.length hlt rest rfl
        exact ⟨.closing :: ts, congrArg (markClose ++ ·) hts, hr⟩
      · cases s with
        | nil => exact ⟨[], rfl, trivial⟩
        | cons c s =>
          obtain ⟨ts, hts, hr⟩ := ih s.length (by simp [← hn]) s rfl
          exact ⟨.char c :: ts, congrArg (c :: ·) hts, hts ▸ ⟨ho, hc⟩, hr⟩

/-- No part of the text joins with a marker that is put in to another one. -/
theorem Inserts.resolved {ts us : List Symbol} (h : Inserts ts us) (hr : Resolved ts) :
    Resolved us := by
  induction h with
  | nil => exact hr
  | @keep x ts us hi ih =>
    cases x with
    | char c =>
      have hno : ∀ v, '<' ∉ v → '<' :: v <+: c :: written us → '<' :: v <+: c :: written ts := by
        intro v hv hp
        obtain ⟨hc, hp⟩ := List.cons_prefix_cons.mp hp
        exact List.cons_prefix_cons.mpr ⟨hc, hi.prefix_of hv hp⟩
      exact ⟨⟨fun ho => hr.1.1 (hno _ (by decide) ho), fun hc => hr.1.2 (hno _ (by decide) hc)⟩,
        ih hr.2⟩
    | opening => exact ih hr
    | closing => exact ih hr
  | marker hx _ ih => exact (resolved_marker hx _).mpr (ih hr)

/-! ## Literals that cannot stand in a marker -/

/-- Some stretch of the second text has the characters of the first one up to case. -/
def FoldsInto (v w : List Char) : Prop :=
  ∃ u, u <:+: w ∧ List.Forall₂ (fun a b => CaseFold.same a b) v u

theorem FoldsInto.head {a : Char} {v w : List Char} (h : FoldsInto (a :: v) w) :
    w.any (CaseFold.same a ·) := by
  obtain ⟨u, hu, hf⟩ := h
  obtain ⟨b, u', hab, _, rfl⟩ := List.forall₂_cons_left_iff.mp hf
  exact List.any_eq_true.mpr ⟨b, hu.subset List.mem_cons_self, hab⟩

/-- The text has no angle bracket and is no part of a marker's inside up to case. -/
structure ClearOfMarkers (v : List Char) : Prop where
  noLess : '<' ∉ v
  noGreater : '>' ∉ v
  apart : ¬ FoldsInto v "/mark".toList

theorem ClearOfMarkers.ne_nil {v : List Char} (h : ClearOfMarkers v) : v ≠ [] := by
  intro hv
  subst hv
  exact h.apart ⟨[], List.nil_infix, .nil⟩

theorem same_of_agrees {p : Pattern} {a b : Char} (h : p.agrees a b) : CaseFold.same a b := by
  unfold Pattern.agrees at h
  split at h
  · rw [eq_of_beq h]; exact CaseFold.same_refl b
  · exact h

/-- An angle bracket agrees with itself alone. -/
theorem eq_of_agrees {p : Pattern} {a b : Char} (hb : b = '<' ∨ b = '>') (h : p.agrees a b) :
    a = b := by
  refine CaseFold.eq_of_same ?_ (same_of_agrees h)
  rcases hb with rfl | rfl <;> decide

/-- A literal that stands in front of a `>` ends before it. -/
theorem foldsInto_of_literalAt {p : Pattern} {l x rest : List Char} (hl : '>' ∉ l)
    (h : p.literalAt l (x ++ '>' :: rest)) :
    ∃ u, u <+: x ∧ List.Forall₂ (fun a b => CaseFold.same a b) l u := by
  induction l generalizing x with
  | nil => exact ⟨[], List.nil_prefix, .nil⟩
  | cons a l ih =>
    obtain ⟨ha, hl'⟩ := not_or.mp (fun h => hl (List.mem_cons.mpr h))
    cases x with
    | nil =>
      rw [List.nil_append, Pattern.literalAt, Bool.and_eq_true] at h
      exact absurd (eq_of_agrees (.inr rfl) h.1).symm ha
    | cons b x =>
      rw [List.cons_append, Pattern.literalAt, Bool.and_eq_true] at h
      obtain ⟨u, hu, hs⟩ := ih hl' h.2
      exact ⟨b :: u, List.prefix_cons_inj b |>.mpr hu, .cons (same_of_agrees h.1) hs⟩

/-- Each end of a marker begins with `<`, or is a part of `/mark` and a `>`. -/
theorem marker_suffixes : ∀ m ∈ [markOpen, markClose], ∀ s ∈ m.tails,
    s = [] ∨ s.head? = some '<' ∨ s = s.dropLast ++ ['>'] ∧ s.dropLast <:+: "/mark".toList := by
  decide

theorem literalAt_marker {p : Pattern} (hp : ClearOfMarkers p.literal) {m s : List Char}
    (hm : m = markOpen ∨ m = markClose) (hs : s <:+ m) (hne : s ≠ []) (rest : List Char) :
    p.literalAt p.literal (s ++ rest) = false := by
  rw [← Bool.not_eq_true]
  intro h
  obtain ⟨a, l, hl⟩ := List.exists_cons_of_ne_nil hp.ne_nil
  have hends := marker_suffixes m (by simpa using hm) s ((List.mem_tails s m).mpr hs)
  rcases hends with h0 | h0 | ⟨h0, hx⟩
  · exact hne h0
  · obtain ⟨t, rfl⟩ := List.head?_eq_some_iff.mp h0
    rw [hl, List.cons_append, Pattern.literalAt, Bool.and_eq_true] at h
    have ha := eq_of_agrees (.inl rfl) h.1
    exact hp.noLess (by rw [hl, ha]; exact List.mem_cons_self)
  · rw [h0, List.append_assoc] at h
    obtain ⟨u, hu, hf⟩ := foldsInto_of_literalAt hp.noGreater h
    exact hp.apart ⟨u, hu.isInfix.trans hx, hf⟩

/-! ## Cutting marked text -/

theorem lengthAt?_none {p : Pattern} (before : Option Char) {s : List Char}
    (h : p.literalAt p.literal s = false) : p.lengthAt? before s = none := by
  rw [Pattern.lengthAt?, h]
  rfl

/-- An occurrence is at least as long as its literal, which is not empty. -/
theorem length_pos_of_lengthAt? {p : Pattern} (hp : p.literal ≠ []) {before : Option Char}
    {s : List Char} {n : Nat} (h : p.lengthAt? before s = some n) : 0 < n := by
  have hl := List.length_pos_iff.mpr hp
  rw [(lengthAt?_eq_some.mp h).2.1, Pattern.reach]
  omega

/-- An empty text has no match in it. -/
theorem cut_nil {p : Pattern} (hp : p.literal ≠ []) (before : Option Char) (joined : Bool) :
    p.cut before joined [] = [] := by
  have hnone : p.lengthAt? before [] = none := by
    cases hl : p.lengthAt? before [] with
    | none => rfl
    | some n =>
      have hle : n ≤ 0 := length_le_of_lengthAt? hl
      have hpos := length_pos_of_lengthAt? hp hl
      omega
  rw [Pattern.cut, hnone]
  rfl

theorem noLess_of_literalAt {p : Pattern} {l s : List Char} (hl : '<' ∉ l) (h : p.literalAt l s) :
    '<' ∉ s.take l.length := by
  induction l generalizing s with
  | nil => simp
  | cons a l ih =>
    cases s with
    | nil => cases h
    | cons b s =>
      rw [Pattern.literalAt, Bool.and_eq_true] at h
      rw [List.length_cons, List.take_succ_cons]
      intro hm
      rcases List.mem_cons.mp hm with hb | hm
      · have hab := eq_of_agrees (.inl hb.symm) h.1
        exact hl (by rw [hab, ← hb]; exact List.mem_cons_self)
      · exact ih (fun hm => hl (List.mem_cons_of_mem a hm)) h.2 hm

/-- An occurrence has no `<` in it, be it in the literal or among the word characters. -/
theorem noLess_of_lengthAt? {p : Pattern} (hp : '<' ∉ p.literal) {before : Option Char}
    {s : List Char} {n : Nat} (h : p.lengthAt? before s = some n) :
    n ≤ s.length ∧ '<' ∉ s.take n := by
  refine ⟨length_le_of_lengthAt? h, ?_⟩
  obtain ⟨hlit, rfl, _⟩ := lengthAt?_eq_some.mp h
  have hnot := noLess_of_literalAt hp hlit
  rw [Pattern.reach, List.take_add, List.mem_append, not_or]
  split
  · have hrun := List.takeWhile_prefix isWord (l := s.drop p.literal.length)
    refine ⟨hnot, ?_⟩
    rw [← List.prefix_iff_eq_take.mp hrun]
    intro hm
    have := List.all_eq_true.mp List.all_takeWhile _ hm
    revert this
    decide
  · exact ⟨hnot, by simp⟩

/-- The last character of a stretch that `before` stands in front of. -/
def ending (before : Option Char) : List Char → Option Char
  | [] => before
  | c :: s => ending (some c) s

theorem ending_of_ne_nil (before : Option Char) {s : List Char} (h : s ≠ []) :
    ending before s = s.getLast? := by
  induction s generalizing before with
  | nil => exact absurd rfl h
  | cons c s ih =>
    cases s with
    | nil => rfl
    | cons d s =>
      rw [ending, ih (some c) (List.cons_ne_nil d s), List.getLast?_cons_cons]

/-- No match begins in a stretch at whose places the literal does not stand. -/
theorem cut_stretch {p : Pattern} {w : List Char} (rest : List Char) (before : Option Char)
    (joined : Bool)
    (h : ∀ s, s <:+ w → s ≠ [] → p.literalAt p.literal (s ++ rest) = false) :
    p.cut before joined (w ++ rest) =
      w.map .keep ++ p.cut (ending before w) (joined && w.isEmpty) rest := by
  induction w generalizing before joined with
  | nil => simp [ending]
  | cons c w ih =>
    have hc := lengthAt?_none before (h (c :: w) List.suffix_rfl (List.cons_ne_nil c w))
    have hcut := ih (some c) false fun s hs => h s (hs.trans (List.suffix_cons c w))
    rw [List.cons_append] at hc ⊢
    rw [Pattern.cut, hc, hcut]
    simp [ending]

/-- Characters that the marked text begins with before any `<` are characters of the paragraph. -/
theorem written_split {ts : List Symbol} {n : Nat} (hn : n ≤ (written ts).length)
    (h : '<' ∉ (written ts).take n) :
    ∃ us, ts = ((written ts).take n).map .char ++ us ∧ (written ts).drop n = written us := by
  induction n generalizing ts with
  | zero => exact ⟨ts, rfl, rfl⟩
  | succ n ih =>
    cases ts with
    | nil => simp [written] at hn
    | cons x ts =>
      cases x with
      | char c =>
        rw [show written (.char c :: ts) = c :: written ts from rfl] at hn h ⊢
        rw [List.take_succ_cons] at h ⊢
        obtain ⟨us, hts, hd⟩ := ih (by simpa using hn) fun hm => h (List.mem_cons_of_mem c hm)
        exact ⟨us, by rw [List.map_cons, List.cons_append, ← hts], hd⟩
      | opening => exact absurd List.mem_cons_self h
      | closing => exact absurd List.mem_cons_self h

/-- In the marked text the pattern wraps stretches of characters and does nothing else. -/
def WrapsOnly (p : Pattern) (ts : List Symbol) : Prop :=
  ∀ before joined, ∃ us,
    (p.cut before joined (written ts)).flatMap Piece.marked = written us ∧ Wraps ts us

variable {p : Pattern}

theorem wrapsOnly_nil (hp : ClearOfMarkers p.literal) : WrapsOnly p [] := by
  intro before joined
  refine ⟨[], ?_, .nil⟩
  rw [show written [] = [] from rfl, cut_nil hp.ne_nil]
  rfl

/-- A marker is passed over as a whole. -/
theorem wrapsOnly_marker (hp : ClearOfMarkers p.literal) {x : Symbol}
    (hx : x.text = markOpen ∨ x.text = markClose) {ts : List Symbol} (ih : WrapsOnly p ts) :
    WrapsOnly p (x :: ts) := by
  intro before joined
  have hcut := cut_stretch (p := p) (w := x.text) (written ts) before joined
    fun s hs hne => literalAt_marker hp hx hs hne _
  obtain ⟨us, hus, hw⟩ := ih (ending before x.text) (joined && x.text.isEmpty)
  refine ⟨x :: us, ?_, .keep x hw⟩
  change markedText (p.cut before joined (written (x :: ts))) = written (x :: us)
  rw [written_cons, hcut, markedText_append, markedText_keeps, markedText, hus, written_cons]

/-- A match that begins at a character ends in front of the next marker. -/
theorem wrapsOnly_char (hp : ClearOfMarkers p.literal) (c : Char) {ts : List Symbol}
    (ih : ∀ us : List Symbol, us.length ≤ ts.length → WrapsOnly p us) :
    WrapsOnly p (.char c :: ts) := by
  intro before joined
  rw [show written (.char c :: ts) = c :: written ts from rfl, Pattern.cut]
  split
  · next hnone =>
    obtain ⟨us, hus, hw⟩ := ih ts (Nat.le_refl _) (some c) false
    refine ⟨.char c :: us, ?_, .keep _ hw⟩
    rw [List.flatMap_cons, hus]
    rfl
  · next hzero => exact absurd (length_pos_of_lengthAt? hp.ne_nil hzero) (Nat.lt_irrefl 0)
  · next k hsome =>
    obtain ⟨hk, hless⟩ := noLess_of_lengthAt? hp.noLess hsome
    have hk' : k ≤ (written ts).length := Nat.le_of_succ_le_succ hk
    rw [List.take_succ_cons] at hless
    obtain ⟨rest, hts, hdrop⟩ := written_split hk' fun hm => hless (List.mem_cons_of_mem c hm)
    have hlt : rest.length ≤ ts.length := by
      have hlen := congrArg List.length hts
      rw [List.length_append] at hlen
      omega
    obtain ⟨us, hus, hw⟩ := ih rest hlt (c :: (written ts).take k).getLast? true
    refine ⟨.opening :: (c :: (written ts).take k).map .char ++ .closing :: us, ?_, ?_⟩
    · rw [hdrop, List.flatMap_cons, hus, Piece.marked, List.cons_append, written_cons,
        written_append, written_chars, written_cons]
      simp [Symbol.text]
    · have hw' := Wraps.wrap (c :: (written ts).take k) hw
      rwa [List.map_cons, List.cons_append, ← hts, ← List.map_cons] at hw'

/-- Marking marked text wraps stretches of its characters and leaves every marker alone. -/
theorem wrapsOnly (hp : ClearOfMarkers p.literal) (ts : List Symbol) : WrapsOnly p ts := by
  -- after a match the text goes on behind it, so the induction is on the length
  induction hlen : ts.length using Nat.strong_induction_on generalizing ts with
  | h n ih =>
    cases ts with
    | nil => exact wrapsOnly_nil hp
    | cons x ts =>
      have htail : ∀ us : List Symbol, us.length ≤ ts.length → WrapsOnly p us := by
        intro us hus
        exact ih us.length (by rw [← hlen, List.length_cons]; omega) us rfl
      cases x with
      | char c => exact wrapsOnly_char hp c htail
      | opening => exact wrapsOnly_marker hp (.inl rfl) (htail ts (Nat.le_refl _))
      | closing => exact wrapsOnly_marker hp (.inr rfl) (htail ts (Nat.le_refl _))

theorem mark_wraps (hp : ClearOfMarkers p.literal) (ts : List Symbol) :
    ∃ us, p.mark (written ts) = written us ∧ Wraps ts us := wrapsOnly hp ts none false

end Passage.Match
