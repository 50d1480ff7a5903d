import Passage.Proofs.Query.Segmentation
import Passage.Proofs.Query.Sorting
import Passage.Proofs.Text.CaseFold

/-!
# Queries that differ in case

White space and the signs of a query have no case, and the letters of its operator have
no form beyond ASCII. So two queries that differ in case only are cut at the same
places, and their tokens go to the same sets as terms that differ in case only.
-/

namespace Passage.Query

open Text
open Text.CaseFold (Lone Letter same)

structure Token.Alike (t u : Token) : Prop where
  kind : t.kind = u.kind
  value : CaseFold.Alike t.value.toList u.value.toList

structure Term.Alike (t u : Term) : Prop where
  kind : t.kind = u.kind
  wildcard : t.wildcard = u.wildcard
  value : CaseFold.Alike t.value.toList u.value.toList

structure Classified.Alike (q r : Classified) : Prop where
  must : List.Forall₂ Term.Alike q.must r.must
  should : List.Forall₂ Term.Alike q.should r.should
  not : List.Forall₂ Term.Alike q.not r.not

/-! ## Tokens -/

namespace Token

theorem Alike.symm {t u : Token} (h : t.Alike u) : u.Alike t :=
  ⟨h.kind.symm, CaseFold.alike_symm h.value⟩

theorem alike_ofList (kind : Kind) {s t : List Char} (h : CaseFold.Alike s t) :
    Token.Alike ⟨kind, String.ofList s⟩ ⟨kind, String.ofList t⟩ :=
  ⟨rfl, by rwa [String.toList_ofList, String.toList_ofList]⟩

theorem alike_phrase? {s t inner rest : List Char} (h : CaseFold.Alike s t)
    (hs : phrase? s = some (inner, rest)) :
    ∃ inner' rest', phrase? t = some (inner', rest') ∧ CaseFold.Alike inner inner' ∧
      CaseFold.Alike rest rest' := by
  have hquote : Lone '"'.toNat := by decide +kernel
  obtain ⟨rfl, hne, hq⟩ := phrase?_eq_some_iff.mp hs
  obtain ⟨t', rfl, ht⟩ := CaseFold.alike_cons_lone hquote h
  obtain ⟨inner', u, rfl, hinner, hu⟩ := CaseFold.alike_append_left ht
  obtain ⟨rest', rfl, hrest⟩ := CaseFold.alike_cons_lone hquote hu
  exact ⟨inner', rest', phrase?_quoted (mt (CaseFold.eq_nil_iff_of_alike hinner).mpr hne)
    (CaseFold.not_mem_of_alike hquote hinner hq) rest', hinner, hrest⟩

theorem alike_scan {s t : List Char} (h : CaseFold.Alike s t) :
    List.Forall₂ Token.Alike (scan s) (scan t) := by
  have hword : ∀ a b, same a b → (!isBlank a) = !isBlank b := by
    intro a b hab
    rw [CaseFold.isBlank_congr hab]
  induction s using scan.induct generalizing t with
  | case1 =>
    cases h
    rw [scan_nil]
    exact .nil
  | case2 c rest hc ih =>
    obtain ⟨d, t', hd, ht, rfl⟩ := List.forall₂_cons_left_iff.mp h
    rw [scan_blank hc, scan_blank (CaseFold.isBlank_congr hd ▸ hc)]
    exact ih ht
  | case3 c rest hc inner after hp ih =>
    obtain ⟨inner', after', hp', hinner, hafter⟩ := alike_phrase? h hp
    obtain ⟨d, t', hd, _, rfl⟩ := List.forall₂_cons_left_iff.mp h
    rw [scan_of_phrase hc hp, scan_of_phrase (CaseFold.isBlank_congr hd ▸ hc) hp']
    exact .cons (alike_ofList .phrase hinner) (ih hafter)
  | case4 c rest hc hp ih =>
    -- a phrase of the other query would be one of this query too
    have hp' : phrase? t = none := by
      rw [Option.eq_none_iff_forall_ne_some]
      rintro ⟨inner, after⟩ ht
      obtain ⟨_, _, hs, _⟩ := alike_phrase? (CaseFold.alike_symm h) ht
      rw [hp] at hs
      cases hs
    obtain ⟨d, t', hd, ht, rfl⟩ := List.forall₂_cons_left_iff.mp h
    rw [scan_of_no_phrase hc hp, scan_of_no_phrase (CaseFold.isBlank_congr hd ▸ hc) hp']
    exact .cons (alike_ofList .plain (.cons hd (CaseFold.alike_takeWhile hword ht)))
      (ih (CaseFold.alike_dropWhile hword ht))

/-! ## Operators and negated tokens -/

/-- A small letter without a form beyond ASCII has the characters that ASCII lowers to it. -/
theorem toLower_eq_iff_same (small capital : Char) (hl : Letter small.toNat)
    (hc : 65 ≤ capital.toNat ∧ capital.toNat ≤ 90) (hs : capital.toNat + 32 = small.toNat)
    (hsame : same capital small) (c : Char) : c.toLower = small ↔ same c small := by
  rw [toLower_eq_iff small capital hs hc]
  constructor
  · rintro (rfl | rfl)
    · exact CaseFold.same_refl c
    · exact hsame
  · intro h
    rw [← Char.toNat_inj, ← Char.toNat_inj]
    have := CaseFold.toNat_of_same_letter hl h
    omega

theorem lowerAscii_eq_iff_alike (s : List Char) :
    lowerAscii s = ['o', 'r'] ↔ CaseFold.Alike s ['o', 'r'] := by
  have ho := toLower_eq_iff_same 'o' 'O' (by decide +kernel) (by decide) rfl (by decide)
  have hr := toLower_eq_iff_same 'r' 'R' (by decide +kernel) (by decide) rfl (by decide)
  simp only [lowerAscii, CaseFold.Alike, List.map_eq_cons_iff, List.forall₂_cons_right_iff,
    List.forall₂_nil_right_iff, List.map_eq_nil_iff, ho, hr]
  constructor
  · rintro ⟨a, _, rfl, ha, b, _, rfl, hb, rfl⟩
    exact ⟨a, _, ha, ⟨b, _, hb, rfl, rfl⟩, rfl⟩
  · rintro ⟨a, _, ha, ⟨b, _, hb, rfl, rfl⟩, rfl⟩
    exact ⟨a, _, rfl, ha, b, _, rfl, hb, rfl⟩

theorem isOr_iff_alike (t : Token) :
    t.isOr ↔ t.kind = .plain ∧ CaseFold.Alike t.value.toList ['o', 'r'] := by
  rw [isOr, Bool.and_eq_true, decide_eq_true_eq, decide_eq_true_eq, lowerAscii_eq_iff_alike]

theorem Alike.isOr {t u : Token} (h : t.Alike u) (ht : t.isOr) : u.isOr := by
  rw [isOr_iff_alike] at ht ⊢
  exact ⟨h.kind ▸ ht.1, CaseFold.alike_trans (CaseFold.alike_symm h.value) ht.2⟩

theorem Alike.isOr_eq {t u : Token} (h : t.Alike u) : t.isOr = u.isOr :=
  Bool.eq_iff_iff.mpr ⟨h.isOr, h.symm.isOr⟩

theorem negated?_eq_some_iff {t : Token} {word : List Char} :
    t.negated? = some word ↔ t.kind = .plain ∧ t.value.toList = '-' :: word := by
  unfold negated?
  split
  · next rest hk hv => simp [hk, hv]
  · next hno =>
    simp only [reduceCtorEq, false_iff, not_and]
    exact hno word

theorem Alike.negated? {t u : Token} {word : List Char} (h : t.Alike u)
    (ht : t.negated? = some word) :
    ∃ word', u.negated? = some word' ∧ CaseFold.Alike word word' := by
  obtain ⟨hk, hv⟩ := negated?_eq_some_iff.mp ht
  obtain ⟨word', hu, hword⟩ := CaseFold.alike_cons_lone (by decide +kernel) (hv ▸ h.value)
  exact ⟨word', negated?_eq_some_iff.mpr ⟨h.kind ▸ hk, hu⟩, hword⟩

theorem Alike.negated?_eq_none {t u : Token} (h : t.Alike u) (ht : t.negated? = none) :
    u.negated? = none := by
  rw [Option.eq_none_iff_forall_ne_some]
  intro word hu
  obtain ⟨_, ht', _⟩ := h.symm.negated? hu
  rw [ht] at ht'
  cases ht'

end Token

/-! ## Terms -/

theorem alike_star {s t front : List Char} (h : CaseFold.Alike s t) (hs : s = front ++ ['*']) :
    ∃ front', t = front' ++ ['*'] ∧ CaseFold.Alike front front' := by
  obtain ⟨front', u, rfl, hfront, hu⟩ := CaseFold.alike_append_left (hs ▸ h)
  obtain ⟨u', rfl, hu'⟩ := CaseFold.alike_cons_lone (by decide +kernel) hu
  cases hu'
  exact ⟨front', rfl, hfront⟩

theorem alike_ofText (kind : Kind) {s t : List Char} (h : CaseFold.Alike s t) :
    (Term.ofText kind s).Alike (Term.ofText kind t) := by
  by_cases hs : s.getLast? = some '*'
  · obtain ⟨front, hfront⟩ := List.getLast?_eq_some_iff.mp hs
    obtain ⟨front', rfl, ha⟩ := alike_star h hfront
    have hof : ∀ s, Term.ofText kind (s ++ ['*']) = ⟨kind, String.ofList s, true⟩ := by
      intro s
      simp [Term.ofText]
    rw [hfront, hof, hof]
    exact ⟨rfl, rfl, by simpa using ha⟩
  · have ht : t.getLast? ≠ some '*' := by
      intro ht
      obtain ⟨front, hfront⟩ := List.getLast?_eq_some_iff.mp ht
      obtain ⟨front', rfl, _⟩ := alike_star (CaseFold.alike_symm h) hfront
      simp at hs
    rw [Term.ofText, Term.ofText, if_neg hs, if_neg ht]
    exact ⟨rfl, rfl, by simpa using h⟩

/-- Tokens that differ in case only go to the same sets. -/
theorem alike_classifyFrom (pending : Bool) {ts us : List Token}
    (h : List.Forall₂ Token.Alike ts us) :
    (classifyFrom pending ts).Alike (classifyFrom pending us) := by
  induction h generalizing pending with
  | nil => exact ⟨.nil, .nil, .nil⟩
  | @cons t u ts us htu _ ih =>
    by_cases ho : t.isOr
    · rw [classifyFrom_or ho, classifyFrom_or (htu.isOr ho)]
      exact ih true
    rw [Bool.not_eq_true] at ho
    have ho' := htu.isOr_eq.symm.trans ho
    cases hn : t.negated? with
    | some word =>
      obtain ⟨word', hn', hword⟩ := htu.negated? hn
      obtain ⟨hmust, hshould, hnot⟩ := ih pending
      rw [classifyFrom_negated ho hn, classifyFrom_negated ho' hn', ← htu.kind]
      exact ⟨hmust, hshould, .cons (alike_ofText t.kind hword) hnot⟩
    | none =>
      have hterm := alike_ofText t.kind htu.value
      obtain ⟨hmust, hshould, hnot⟩ := ih false
      rw [classifyFrom_sought ho hn, classifyFrom_sought ho' (htu.negated?_eq_none hn), ← htu.kind]
      cases pending with
      | true => exact ⟨hmust, .cons hterm hshould, hnot⟩
      | false => exact ⟨.cons hterm hmust, hshould, hnot⟩

end Passage.Query
