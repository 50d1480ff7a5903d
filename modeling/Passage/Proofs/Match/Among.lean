import Passage.Proofs.Match.Greedy
import Passage.Proofs.Match.Joined
import Passage.Proofs.Match.Marked

/-!
# Matching among markers

A text in pieces is marked as it stands, and a pattern is run on the result. If its own
hits in the unmarked text can be joined to the pieces, it hits the same stretches among
the markers: none is lost and none is won. With whole words this needs every marker to
stand at an edge of a word, so that an end beside a marker is an end without it.
-/

namespace Passage.Match

open Text

/-! ## Pieces as symbols -/

def Piece.symbols : Piece → List Symbol
  | keep c => [.char c]
  | hit s => .opening :: (s.map .char ++ [.closing])

def symbols (xs : List Piece) : List Symbol := xs.flatMap Piece.symbols

theorem symbols_hit (s : List Char) (xs : List Piece) :
    symbols (.hit s :: xs) = .opening :: (s.map .char ++ .closing :: symbols xs) := by
  rw [symbols, List.flatMap_cons, Piece.symbols, List.cons_append, List.append_assoc]
  rfl

theorem symbols_keeps (s : List Char) (xs : List Piece) :
    symbols (s.map .keep ++ xs) = s.map .char ++ symbols xs := by
  induction s with
  | nil => rfl
  | cons c s ih => exact congrArg (Symbol.char c :: ·) ih

theorem written_symbols (xs : List Piece) : written (symbols xs) = markedText xs := by
  induction xs with
  | nil => rfl
  | cons x xs ih =>
    cases x with
    | keep c => exact congrArg (c :: ·) ih
    | hit s =>
      rw [symbols_hit, written_cons, written_append, written_chars, written_cons, ih,
        markedText_cons, Piece.marked]
      simp [Symbol.text]

theorem plain_symbols (xs : List Piece) : plain (symbols xs) = textOf xs := by
  induction xs with
  | nil => rfl
  | cons x xs ih =>
    cases x with
    | keep c => exact congrArg (c :: ·) ih
    | hit s =>
      rw [symbols_hit, plain_cons, plain_append, plain_chars, plain_cons, ih, textOf_cons]
      rfl

/-- Each marker stands at an edge of a word of the unmarked text. -/
def AtEdges (before : Option Char) : List Symbol → Prop
  | [] => True
  | .char c :: ts => AtEdges (some c) ts
  | .opening :: ts => isBoundary before (plain ts).head? ∧ AtEdges before ts
  | .closing :: ts => isBoundary before (plain ts).head? ∧ AtEdges before ts

theorem atEdges_chars (before : Option Char) (s : List Char) (ts : List Symbol) :
    AtEdges before (s.map .char ++ ts) ↔ AtEdges (ending before s) ts := by
  induction s generalizing before with
  | nil => rfl
  | cons c s ih => exact ih (some c)

theorem atEdges_stretch (before : Option Char) {u : List Char} (hu : u ≠ []) (ts : List Symbol) :
    AtEdges before (u.map .char ++ ts) ↔ AtEdges u.getLast? ts := by
  rw [atEdges_chars, ending_of_ne_nil before hu]

/-! ## A literal and its run at the head of a text -/

theorem literalAt_append (p : Pattern) {l u : List Char} (h : l.length ≤ u.length)
    (rest : List Char) : p.literalAt l (u ++ rest) = p.literalAt l u := by
  induction l generalizing u with
  | nil => rfl
  | cons a l ih =>
    cases u with
    | nil => cases h
    | cons b u => rw [List.cons_append, Pattern.literalAt, Pattern.literalAt,
        ih (Nat.le_of_succ_le_succ h)]

theorem length_takeWhile_append_iff (f : Char → Bool) (u rest : List Char) :
    ((u ++ rest).takeWhile f).length = u.length ↔ (∀ c ∈ u, f c) ∧ rest.head?.any f = false := by
  induction u with
  | nil =>
    cases rest with
    | nil => simp
    | cons c rest => by_cases hc : f c <;> simp [hc]
  | cons c u ih =>
    rw [List.cons_append, List.forall_mem_cons]
    by_cases hc : f c
    · simp [hc, ih]
    · simp [hc]

/-- A match of the pattern that begins with the stretch goes on to its end and stops there, with
`next` behind it. -/
def Pattern.Fills (p : Pattern) (u : List Char) (next : Option Char) : Prop :=
  if p.openEnded then (∀ c ∈ u.drop p.literal.length, isWord c) ∧ next.any isWord = false
  else u.length = p.literal.length

theorem Pattern.Fills.imp {p : Pattern} {u : List Char} {next other : Option Char}
    (h : p.Fills u next) (hn : next.any isWord = false → other.any isWord = false) :
    p.Fills u other := by
  unfold Pattern.Fills at h ⊢
  split
  · next ho =>
    rw [if_pos ho] at h
    exact ⟨h.1, hn h.2⟩
  · next ho => rwa [if_neg ho] at h

theorem reach_append_iff (p : Pattern) {u : List Char} (hu : p.literal.length ≤ u.length)
    (rest : List Char) : p.reach (u ++ rest) = u.length ↔ p.Fills u rest.head? := by
  rw [Pattern.reach, Pattern.Fills, List.drop_append_of_le_length hu]
  split
  · rw [← length_takeWhile_append_iff, List.length_drop]
    omega
  · omega

/-- With other characters behind the stretch a match may go on. -/
theorem Pattern.Fills.le_reach {p : Pattern} {u : List Char} {next : Option Char}
    (h : p.Fills u next) (hu : p.literal.length ≤ u.length) (rest : List Char) :
    u.length ≤ p.reach (u ++ rest) := by
  unfold Pattern.Fills at h
  rw [Pattern.reach, List.drop_append_of_le_length hu]
  split
  · next ho =>
    rw [if_pos ho] at h
    rw [List.takeWhile_append_of_pos h.1, List.length_append, List.length_drop]
    omega
  · next ho =>
    rw [if_neg ho] at h
    omega

theorem isBoundaryAt_append (before : Option Char) {u : List Char} (hu : u ≠ [])
    (rest : List Char) :
    Pattern.isBoundaryAt before (u ++ rest) u.length = isBoundary u.getLast? rest.head? := by
  obtain ⟨n, hn⟩ : ∃ n, u.length = n + 1 :=
    Nat.exists_eq_add_one_of_ne_zero (fun h => hu (List.length_eq_zero_iff.mp h))
  rw [hn, Pattern.isBoundaryAt, List.getElem?_append_left (by omega), ← hn,
    List.getElem?_append_right (Nat.le_refl _), Nat.sub_self, List.getLast?_eq_getElem?, hn,
    List.head?_eq_getElem?]
  rfl

variable {p : Pattern}

theorem length_of_lengthAt? {before : Option Char} {c : Char} {s : List Char} {n : Nat}
    (h : p.lengthAt? before (c :: s) = some (n + 1)) : (c :: s.take n).length = n + 1 := by
  have hle := length_le_of_lengthAt? h
  rw [List.length_cons] at hle
  rw [List.length_cons, List.length_take]
  omega

/-- The stretch is a match of the pattern between its two neighbours. -/
structure Pattern.Takes (p : Pattern) (before : Option Char) (u : List Char) (next : Option Char) :
    Prop where
  length : p.literal.length ≤ u.length
  literal : p.literalAt p.literal u
  fills : p.Fills u next
  edges : p.options.wholeWord = true → isBoundary before u.head? ∧ isBoundary u.getLast? next

/-- Whether a match is just the stretch depends on its two neighbours only. -/
theorem lengthAt?_append_iff (before : Option Char) {u : List Char} (hu : u ≠ [])
    (rest : List Char) :
    p.lengthAt? before (u ++ rest) = some u.length ↔ p.Takes before u rest.head? := by
  rw [lengthAt?_eq_some, isBoundaryAt_append before hu, List.head?_append_of_ne_nil u hu]
  constructor
  · rintro ⟨hl, hreach, hw⟩
    have hle : p.literal.length ≤ u.length := by
      rw [hreach, Pattern.reach]
      omega
    rw [literalAt_append p hle] at hl
    exact ⟨hle, hl, (reach_append_iff p hle rest).mp hreach.symm, hw⟩
  · rintro ⟨hle, hl, hrun, hw⟩
    rw [literalAt_append p hle]
    exact ⟨hl, ((reach_append_iff p hle rest).mpr hrun).symm, hw⟩

/-! ## Cutting without empty matches -/

section

variable (hp : p.literal ≠ []) {before : Option Char}

include hp

theorem cut_joined (joined : Bool) (s : List Char) :
    p.cut before joined s = p.cut before false s := by
  cases s with
  | nil => rw [cut_nil hp, cut_nil hp]
  | cons c s =>
    rw [Pattern.cut, Pattern.cut]
    split
    · rfl
    · next hzero => exact absurd (length_pos_of_lengthAt? hp hzero) (Nat.lt_irrefl 0)
    · rfl

theorem cut_eq_keep {c : Char} {s : List Char} {ys : List Piece}
    (h : p.cut before false (c :: s) = .keep c :: ys) :
    p.lengthAt? before (c :: s) = none ∧ p.cut (some c) false s = ys := by
  rw [Pattern.cut] at h
  split at h
  · next hnone => exact ⟨hnone, (List.cons.inj h).2⟩
  · next hzero => exact absurd (length_pos_of_lengthAt? hp hzero) (Nat.lt_irrefl 0)
  · cases h

theorem cut_eq_hit {u rest : List Char} {ys : List Piece}
    (h : p.cut before false (u ++ rest) = .hit u :: ys) :
    u ≠ [] ∧ p.lengthAt? before (u ++ rest) = some u.length ∧
      p.cut u.getLast? false rest = ys := by
  cases hs : u ++ rest with
  | nil =>
    rw [hs, cut_nil hp] at h
    cases h
  | cons c s =>
    rw [hs, Pattern.cut] at h
    split at h
    · cases h
    · next hzero => exact absurd (length_pos_of_lengthAt? hp hzero) (Nat.lt_irrefl 0)
    · next n hsome =>
      obtain ⟨hu, hys⟩ := List.cons.inj h
      obtain rfl := Piece.hit.inj hu
      have hrest : rest = s.drop n := by
        have hcut : (c :: s.take n) ++ rest = (c :: s.take n) ++ s.drop n := by
          rw [hs, List.cons_append, List.take_append_drop]
        exact List.append_cancel_left hcut
      rw [hrest, ← cut_joined hp true, hsome, length_of_lengthAt? hsome]
      exact ⟨List.cons_ne_nil _ _, rfl, hys⟩

theorem cut_of_length {u : List Char} (hu : u ≠ []) {rest : List Char}
    (h : p.lengthAt? before (u ++ rest) = some u.length) :
    p.cut before false (u ++ rest) = .hit u :: p.cut u.getLast? false rest := by
  obtain ⟨c, s, rfl⟩ := List.exists_cons_of_ne_nil hu
  rw [List.cons_append, List.length_cons] at h
  rw [List.cons_append, Pattern.cut, h]
  simp only [List.take_left, List.drop_left]
  rw [cut_joined hp]

end

theorem cut_of_none {before : Option Char} {c : Char} {s : List Char}
    (h : p.lengthAt? before (c :: s) = none) :
    p.cut before false (c :: s) = .keep c :: p.cut (some c) false s := by
  rw [Pattern.cut, h]

/-! ## Matches among markers -/

/-- What stands in front of the marked text where `before` stands in front of the unmarked one: the
same, or the end of a marker that is at an edge. -/
def Beside (whole beside : Bool) (before marked next : Option Char) : Prop :=
  if beside then marked = some '>' ∧ (whole = true → isBoundary before next) else marked = before

theorem Beside.same (whole : Bool) (c next : Option Char) : Beside whole false c c next := rfl

theorem Beside.behind {whole : Bool} {before next : Option Char}
    (h : whole = true → isBoundary before next) : Beside whole true before (some '>') next :=
  ⟨rfl, h⟩

theorem Beside.boundary {whole beside : Bool} {before marked next : Option Char}
    (h : Beside whole beside before marked next) (hw : whole = true)
    (hm : isBoundary marked next) : isBoundary before next := by
  unfold Beside at h
  split at h
  · exact h.2 hw
  · rwa [← h]

theorem any_isWord_of_boundary {last next : Option Char} (hless : isBoundary last (some '<'))
    (h : isBoundary last next) : next.any isWord = false := by
  have hnone : (some '<').any isWord = false := by decide
  rw [isBoundary, hnone] at hless
  rw [isBoundary] at h
  simp_all

/-- Where a marker follows a word, the next character of the unmarked text belongs to no word. -/
theorem head?_written {last : Option Char} {ts : List Symbol} (he : AtEdges last ts)
    (h : isBoundary last (written ts).head?) :
    isBoundary last (plain ts).head? ∧
      ((written ts).head?.any isWord = false → (plain ts).head?.any isWord = false) := by
  cases ts with
  | nil => exact ⟨h, id⟩
  | cons x ts =>
    cases x with
    | char c => exact ⟨h, id⟩
    | opening => exact ⟨he.1, fun _ => any_isWord_of_boundary h he.1⟩
    | closing => exact ⟨he.1, fun _ => any_isWord_of_boundary h he.1⟩

/-- A match in the marked text has no `<` in it, so it is a stretch of characters. -/
theorem exists_stretch (hp : ClearOfMarkers p.literal) {marked : Option Char} {ts : List Symbol}
    {n : Nat} (h : p.lengthAt? marked (written ts) = some n) :
    ∃ u us, u ≠ [] ∧ ts = u.map .char ++ us ∧ p.Takes marked u (written us).head? := by
  obtain ⟨hle, hless⟩ := noLess_of_lengthAt? hp.noLess h
  obtain ⟨us, hts, hdrop⟩ := written_split hle hless
  have hlen : ((written ts).take n).length = n := List.length_take_of_le hle
  have hne : (written ts).take n ≠ [] := by
    have hpos := length_pos_of_lengthAt? hp.ne_nil h
    rw [← hlen] at hpos
    exact List.length_pos_iff.mp hpos
  refine ⟨_, us, hne, hts, (lengthAt?_append_iff marked hne _).mp ?_⟩
  rw [← hdrop, List.take_append_drop, hlen]
  exact h

/-- A stretch that is a match in the marked text has its ends at the edges of words of the unmarked
text too, if whole words are searched for. -/
theorem Pattern.Takes.edges_plain {before marked : Option Char} {u : List Char} {us : List Symbol}
    {beside : Bool} (h : p.Takes marked u (written us).head?)
    (hb : Beside p.options.wholeWord beside before marked u.head?)
    (he : p.options.wholeWord = true → AtEdges u.getLast? us) (hw : p.options.wholeWord = true) :
    isBoundary before u.head? ∧ isBoundary u.getLast? (plain us).head? :=
  ⟨hb.boundary hw (h.edges hw).1, (head?_written (he hw) (h.edges hw).2).1⟩

/-- Where the marked text has a match the unmarked one has a match that is as long or longer. -/
theorem Pattern.Takes.exists_length {before marked : Option Char} {u : List Char} {us : List Symbol}
    {beside : Bool} (h : p.Takes marked u (written us).head?) (hu : u ≠ [])
    (hb : Beside p.options.wholeWord beside before marked u.head?)
    (he : p.options.wholeWord = true → AtEdges u.getLast? us) :
    ∃ n, u.length ≤ n ∧ p.lengthAt? before (u ++ plain us) = some n := by
  by_cases hw : p.options.wholeWord = true
  · have hstop := (head?_written (he hw) (h.edges hw).2).2
    refine ⟨u.length, Nat.le_refl _, (lengthAt?_append_iff before hu _).mpr ?_⟩
    exact ⟨h.length, h.literal, h.fills.imp hstop, h.edges_plain hb he⟩
  · -- the run may go on behind a marker, so the match may be longer in the unmarked text
    have hlit : p.literalAt p.literal (u ++ plain us) := by
      rw [literalAt_append p h.length]
      exact h.literal
    exact ⟨_, h.fills.le_reach h.length _, lengthAt?_eq_some.mpr ⟨hlit, rfl, fun hw' => absurd hw' hw⟩⟩

/-- Where the unmarked text has no match, neither has the marked one. -/
theorem lengthAt?_written_none (hp : ClearOfMarkers p.literal) {before marked : Option Char}
    {ts : List Symbol} {beside : Bool}
    (hb : Beside p.options.wholeWord beside before marked (plain ts).head?)
    (he : p.options.wholeWord = true → AtEdges before ts)
    (h : p.lengthAt? before (plain ts) = none) : p.lengthAt? marked (written ts) = none := by
  rw [Option.eq_none_iff_forall_ne_some]
  intro n hm
  obtain ⟨u, us, hu, rfl, htakes⟩ := exists_stretch hp hm
  rw [plain_append, plain_chars] at h hb
  rw [List.head?_append_of_ne_nil u hu] at hb
  have hafter : p.options.wholeWord = true → AtEdges u.getLast? us := fun hw =>
    (atEdges_stretch before hu us).mp (he hw)
  obtain ⟨m, _, hm⟩ := htakes.exists_length hu hb hafter
  rw [h] at hm
  cases hm

/-- A match of the unmarked text is one of the marked text, if with whole words no marker touches
it. -/
theorem lengthAt?_written_some {before marked : Option Char} {u rest more : List Char}
    {beside : Bool} (hu : u ≠ []) (h : p.lengthAt? before (u ++ rest) = some u.length)
    (hb : Beside p.options.wholeWord beside before marked u.head?)
    (hm : more.head? = rest.head? ∨ more.head? = some '<')
    (hw : p.options.wholeWord = true → beside = false ∧ more.head? = rest.head?) :
    p.lengthAt? marked (u ++ more) = some u.length := by
  obtain ⟨hle, hlit, hfills, hedges⟩ := (lengthAt?_append_iff before hu rest).mp h
  refine (lengthAt?_append_iff marked hu more).mpr ⟨hle, hlit, hfills.imp fun hrest => ?_, ?_⟩
  · rcases hm with hm | hm
    · rwa [hm]
    · rw [hm]
      decide
  · intro hwhole
    obtain ⟨rfl, hhead⟩ := hw hwhole
    rw [show marked = before from hb, hhead]
    exact hedges hwhole

/-! ## Marking the joined cut -/

theorem head?_markedText (xs : List Piece) :
    (markedText xs).head? = (textOf xs).head? ∨ (markedText xs).head? = some '<' := by
  cases xs with
  | nil => exact .inl rfl
  | cons x xs =>
    cases x with
    | keep c => exact .inl rfl
    | hit s => exact .inr rfl

theorem head?_markedText_of_keep {xs : List Piece} (h : ∀ x ∈ xs.head?, x.isHit = false) :
    (markedText xs).head? = (textOf xs).head? := by
  cases xs with
  | nil => rfl
  | cons x xs =>
    cases x with
    | keep c => rfl
    | hit s => cases h _ rfl

theorem atEdges_hit (before : Option Char) (s : List Char) (xs : List Piece) :
    AtEdges before (symbols (.hit s :: xs)) ↔
      isBoundary before (s ++ textOf xs).head? ∧ isBoundary (ending before s) (textOf xs).head? ∧
        AtEdges (ending before s) (symbols xs) := by
  rw [symbols_hit, AtEdges, atEdges_chars, AtEdges, plain_append, plain_chars, plain_cons,
    plain_symbols]
  rfl

/-- A marker has no match in it, wherever it stands. -/
theorem cut_marker (hp : ClearOfMarkers p.literal) {m : List Char}
    (hm : m = markOpen ∨ m = markClose) (rest : List Char) (before : Option Char) :
    p.cut before false (m ++ rest) = m.map .keep ++ p.cut (some '>') false rest := by
  rw [cut_stretch rest before false fun s hs hne => literalAt_marker hp hm hs hne rest]
  rcases hm with rfl | rfl <;> rfl

/-- A stretch that has no match in the unmarked text has none among markers. -/
theorem cut_keeps_marked (hp : ClearOfMarkers p.literal) {s : List Char} {ts : List Symbol}
    {before marked : Option Char} {beside : Bool} {ys : List Piece}
    (hb : Beside p.options.wholeWord beside before marked (s ++ plain ts).head?)
    (he : p.options.wholeWord = true → AtEdges before (s.map .char ++ ts))
    (h : p.cut before false (s ++ plain ts) = s.map .keep ++ ys) :
    p.cut marked false (s ++ written ts) =
        s.map .keep ++ p.cut (ending marked s) false (written ts) ∧
      p.cut (ending before s) false (plain ts) = ys := by
  induction s generalizing before marked beside with
  | nil => exact ⟨rfl, h⟩
  | cons c s ih =>
    obtain ⟨hnone, hrest⟩ := cut_eq_keep hp.ne_nil h
    have hplain : plain ((c :: s).map .char ++ ts) = c :: (s ++ plain ts) := by
      rw [plain_append, plain_chars, List.cons_append]
    have hwritten : written ((c :: s).map .char ++ ts) = c :: (s ++ written ts) := by
      rw [written_append, written_chars, List.cons_append]
    have hmarked : p.lengthAt? marked (written ((c :: s).map .char ++ ts)) = none :=
      lengthAt?_written_none hp (by rw [hplain]; exact hb) he (by rw [hplain]; exact hnone)
    rw [hwritten] at hmarked
    obtain ⟨hcut, hys⟩ := ih (Beside.same _ (some c) _) he hrest
    refine ⟨?_, hys⟩
    rw [List.cons_append, cut_of_none hmarked, hcut]
    rfl

/-- A hit in whose characters the pattern has no match is passed over with its markers. -/
theorem cut_hit_marked (hp : ClearOfMarkers p.literal) {s : List Char} {xs ys : List Piece}
    {before : Option Char} (marked : Option Char)
    (he : p.options.wholeWord = true → AtEdges before (symbols (.hit s :: xs)))
    (h : p.cut before false (s ++ textOf xs) = s.map .keep ++ ys) :
    p.cut marked false (markedText (.hit s :: xs)) =
        (markOpen ++ s ++ markClose).map .keep ++ p.cut (some '>') false (markedText xs) ∧
      p.cut (ending before s) false (textOf xs) = ys := by
  have hplain : plain (.closing :: symbols xs) = textOf xs := plain_symbols xs
  have hwritten : written (.closing :: symbols xs) = markClose ++ markedText xs := by
    rw [written_cons, written_symbols]
    rfl
  have hinside : p.options.wholeWord = true →
      AtEdges before (s.map .char ++ .closing :: symbols xs) := fun hw =>
    (symbols_hit s xs ▸ he hw : AtEdges before (.opening :: _)).2
  -- behind the opening marker the pattern sees `>` where the unmarked text has `before`
  have hbeside : Beside p.options.wholeWord true before (some '>')
      (s ++ plain (.closing :: symbols xs)).head? := by
    rw [hplain]
    exact .behind fun hw => ((atEdges_hit before s xs).mp (he hw)).1
  obtain ⟨hs, hys⟩ := cut_keeps_marked hp hbeside hinside (by rw [hplain]; exact h)
  rw [hplain] at hys
  rw [hwritten, cut_marker hp (.inr rfl)] at hs
  refine ⟨?_, hys⟩
  rw [markedText_cons, Piece.marked, List.append_assoc, List.append_assoc,
    cut_marker hp (.inl rfl), hs, List.map_append, List.map_append, List.append_assoc,
    List.append_assoc]

/-- Among the markers of other hits the pattern has the matches that it has in the unmarked text. -/
theorem marked_joins (hp : ClearOfMarkers p.literal) {beside : Bool} {xs ys zs : List Piece}
    (hj : Joins p.options.wholeWord beside xs ys zs) {before marked : Option Char}
    (hcut : p.cut before false (textOf xs) = ys)
    (hb : Beside p.options.wholeWord beside before marked (textOf xs).head?)
    (he : p.options.wholeWord = true → AtEdges before (symbols xs)) :
    markedText (p.cut marked false (markedText xs)) = markedText zs := by
  induction hj generalizing before marked with
  | nil => rw [show markedText [] = [] from rfl, cut_nil hp.ne_nil]; rfl
  | @keep c beside xs ys zs _ ih =>
    obtain ⟨hnone, hrest⟩ := cut_eq_keep hp.ne_nil (s := textOf xs) hcut
    have hmarked := lengthAt?_written_none hp (by rw [plain_symbols]; exact hb) he
      (by rw [plain_symbols]; exact hnone)
    rw [written_symbols] at hmarked
    have htail := ih hrest (Beside.same _ (some c) _) he
    rw [markedText_cons, Piece.marked, List.singleton_append] at hmarked ⊢
    rw [cut_of_none hmarked, markedText_cons, markedText_cons, htail]
  | @left s beside xs ys zs _ ih =>
    obtain ⟨hmarked, hrest⟩ := cut_hit_marked hp marked he hcut
    have hedges := fun hw => (atEdges_hit before s xs).mp (he hw)
    have htail := ih hrest (Beside.behind fun hw => (hedges hw).2.1) fun hw => (hedges hw).2.2
    rw [hmarked, markedText_append, markedText_keeps, htail]
    rfl
  | @right s beside xs ys zs hside _ ih =>
    rw [textOf_append, textOf_keeps] at hcut hb
    obtain ⟨hne, hlen, hrest⟩ := cut_eq_hit hp.ne_nil hcut
    rw [List.head?_append_of_ne_nil s hne] at hb
    have hmarked := lengthAt?_written_some hne hlen hb (head?_markedText xs)
      fun hw => ⟨(hside hw).1, head?_markedText_of_keep (hside hw).2⟩
    have hbehind : p.options.wholeWord = true → AtEdges s.getLast? (symbols xs) := fun hw =>
      (atEdges_stretch before hne _).mp (symbols_keeps s xs ▸ he hw)
    have htail := ih hrest (Beside.same _ s.getLast? _) hbehind
    rw [markedText_append, markedText_keeps, cut_of_length hp.ne_nil hne hmarked, markedText_cons,
      markedText_cons, htail]

end Passage.Match
