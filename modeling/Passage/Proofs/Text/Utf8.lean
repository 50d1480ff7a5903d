import Passage.Text.Utf8

/-!
# Encoded texts

The bytes of a text are those of its characters in order, and decoding them gives the
text back. A byte below 128 stands for itself wherever it occurs, so that line breaks can
be looked for among the bytes.
-/

namespace Passage.Text.Utf8

/-- The bytes of a text. -/
def encode (s : List Char) : List UInt8 := s.flatMap String.utf8EncodeChar

theorem encode_cons (c : Char) (s : List Char) :
    encode (c :: s) = String.utf8EncodeChar c ++ encode s :=
  List.flatMap_cons

theorem encode_singleton (c : Char) : encode [c] = String.utf8EncodeChar c :=
  List.flatMap_singleton _ c

theorem encode_append (s t : List Char) : encode (s ++ t) = encode s ++ encode t :=
  List.flatMap_append

theorem encode_eq_nil_iff {s : List Char} : encode s = [] ↔ s = [] := by
  cases s with
  | nil => exact ⟨fun _ => rfl, fun _ => rfl⟩
  | cons c s => simp [encode_cons, String.utf8EncodeChar_ne_nil]

/-! ## Decoding -/

theorem scalar?_toNat (c : Char) : scalar? c.toNat = some c := by
  have h : c.toNat.isValidChar := c.valid
  rw [scalar?, dif_pos h]
  rfl

theorem toNat_ofNat {n : Nat} (h : n < 256) : (UInt8.ofNat n).toNat = n := by
  rw [UInt8.toNat_ofNat']
  exact Nat.mod_eq_of_lt h

theorem isContinuation_ofNat {n : Nat} (h : n < 64) : isContinuation (UInt8.ofNat (n + 128)) := by
  have hn : (UInt8.ofNat (n + 128)).toNat = n + 128 := toNat_ofNat (by omega)
  simp only [isContinuation, Bool.and_eq_true, decide_eq_true_eq, UInt8.le_iff_toNat_le, hn]
  constructor
  · exact Nat.le_add_left 128 n
  · change n + 128 ≤ 191
    omega

theorem payload_ofNat {n : Nat} (h : n < 64) : payload (UInt8.ofNat (n + 128)) = n := by
  rw [payload, toNat_ofNat (by omega)]
  omega

theorem toNat_lt (c : Char) : c.toNat < 1114112 := by
  rcases c.valid with h | ⟨_, h⟩
  · exact Nat.lt_trans h (by decide)
  · exact h

theorem char?_two {n : Nat} (h : 128 ≤ n) (h' : n < 2048) :
    char? [UInt8.ofNat (n / 64 % 32 + 192), UInt8.ofNat (n % 64 + 128)] = scalar? n := by
  have ha : (UInt8.ofNat (n / 64 % 32 + 192)).toNat = n / 64 % 32 + 192 := toNat_ofNat (by omega)
  have hb : n % 64 < 64 := Nat.mod_lt n (by decide)
  have hn : (n / 64 % 32 + 192) % 32 * 64 + n % 64 = n := by omega
  simp only [char?, Bool.and_eq_true, decide_eq_true_eq, UInt8.le_iff_toNat_le, UInt8.reduceToNat,
    ha, payload_ofNat hb, hn]
  exact if_pos ⟨⟨⟨by omega, by omega⟩, isContinuation_ofNat hb⟩, h⟩

theorem char?_three {n : Nat} (h : 2048 ≤ n) (h' : n < 65536) :
    char? [UInt8.ofNat (n / 4096 % 16 + 224), UInt8.ofNat (n / 64 % 64 + 128),
      UInt8.ofNat (n % 64 + 128)] = scalar? n := by
  have ha : (UInt8.ofNat (n / 4096 % 16 + 224)).toNat = n / 4096 % 16 + 224 :=
    toNat_ofNat (by omega)
  have hb : n / 64 % 64 < 64 := Nat.mod_lt _ (by decide)
  have hc : n % 64 < 64 := Nat.mod_lt n (by decide)
  have hn : ((n / 4096 % 16 + 224) % 16 * 64 + n / 64 % 64) * 64 + n % 64 = n := by omega
  simp only [char?, Bool.and_eq_true, decide_eq_true_eq, UInt8.le_iff_toNat_le, UInt8.reduceToNat,
    ha, payload_ofNat hb, payload_ofNat hc, hn]
  exact if_pos ⟨⟨⟨⟨by omega, by omega⟩, isContinuation_ofNat hb⟩, isContinuation_ofNat hc⟩, h⟩

theorem char?_four {n : Nat} (h : 65536 ≤ n) (h' : n < 1114112) :
    char? [UInt8.ofNat (n / 262144 % 8 + 240), UInt8.ofNat (n / 4096 % 64 + 128),
      UInt8.ofNat (n / 64 % 64 + 128), UInt8.ofNat (n % 64 + 128)] = scalar? n := by
  have ha : (UInt8.ofNat (n / 262144 % 8 + 240)).toNat = n / 262144 % 8 + 240 :=
    toNat_ofNat (by omega)
  have hb : n / 4096 % 64 < 64 := Nat.mod_lt _ (by decide)
  have hc : n / 64 % 64 < 64 := Nat.mod_lt _ (by decide)
  have hd : n % 64 < 64 := Nat.mod_lt n (by decide)
  have hn : (((n / 262144 % 8 + 240) % 8 * 64 + n / 4096 % 64) * 64 + n / 64 % 64) * 64 + n % 64 =
      n := by omega
  simp only [char?, Bool.and_eq_true, decide_eq_true_eq, UInt8.le_iff_toNat_le, UInt8.reduceToNat,
    ha, payload_ofNat hb, payload_ofNat hc, payload_ofNat hd, hn]
  exact if_pos ⟨⟨⟨⟨⟨by omega, by omega⟩, isContinuation_ofNat hb⟩, isContinuation_ofNat hc⟩,
    isContinuation_ofNat hd⟩, h⟩

/-- The first byte tells how many bytes a character has, so a shorter reading fails. -/
theorem char?_two_of_lead {a : UInt8} (h : 224 ≤ a.toNat) (b : UInt8) : char? [a, b] = none := by
  simp only [char?, Bool.and_eq_true, decide_eq_true_eq, UInt8.le_iff_toNat_le, UInt8.reduceToNat]
  exact if_neg fun hc => by omega

theorem char?_three_of_lead {a : UInt8} (h : 240 ≤ a.toNat) (b c : UInt8) :
    char? [a, b, c] = none := by
  simp only [char?, Bool.and_eq_true, decide_eq_true_eq, UInt8.le_iff_toNat_le, UInt8.reduceToNat]
  exact if_neg fun hc => by omega

theorem not_lt_of_lead {a : UInt8} (h : 128 ≤ a.toNat) : ¬ a < 128 := by
  simp only [UInt8.lt_iff_toNat_lt, UInt8.reduceToNat]
  omega

theorem decode_two {a b : UInt8} {c : Char} (ha : 128 ≤ a.toNat) (h : char? [a, b] = some c)
    (rest : List UInt8) : decode (a :: b :: rest) = some c :: decode rest := by
  rw [decode, if_neg (not_lt_of_lead ha)]
  simp [h]

theorem decode_three {a b d : UInt8} {c : Char} (ha : 224 ≤ a.toNat)
    (h : char? [a, b, d] = some c) (rest : List UInt8) :
    decode (a :: b :: d :: rest) = some c :: decode rest := by
  rw [decode, if_neg (not_lt_of_lead (by omega))]
  simp [char?_two_of_lead ha, h]

theorem decode_four {a b d e : UInt8} {c : Char} (ha : 240 ≤ a.toNat)
    (h : char? [a, b, d, e] = some c) (rest : List UInt8) :
    decode (a :: b :: d :: e :: rest) = some c :: decode rest := by
  rw [decode, if_neg (not_lt_of_lead (by omega))]
  simp [char?_two_of_lead (a := a) (by omega), char?_three_of_lead ha, h]

/-- The bytes of a character are read as the character, whatever follows them. -/
theorem decode_utf8EncodeChar (c : Char) (rest : List UInt8) :
    decode (String.utf8EncodeChar c ++ rest) = some c :: decode rest := by
  have hc := toNat_lt c
  have hs := scalar?_toNat c
  rw [String.utf8EncodeChar]
  generalize hn : c.val.toNat = n
  rw [show c.toNat = n from hn] at hc hs
  split
  · next h =>
    have hlt : UInt8.ofNat n < 128 := by
      rw [UInt8.lt_iff_toNat_lt, toNat_ofNat (by omega)]
      exact Nat.lt_succ_of_le h
    have hchar : Char.ofUInt8 (UInt8.ofNat n) = c := by
      have hval : (Char.ofUInt8 (UInt8.ofNat n)).val = (UInt8.ofNat n).toUInt32 := rfl
      apply Char.ext
      rw [← UInt32.toNat_inj, hn, hval, UInt8.toNat_toUInt32, toNat_ofNat (by omega)]
    rw [List.singleton_append, decode, if_pos hlt, hchar]
  split
  · refine decode_two ?_ ((char?_two (by omega) (by omega)).trans hs) rest
    rw [toNat_ofNat (by omega)]
    omega
  split
  · refine decode_three ?_ ((char?_three (by omega) (by omega)).trans hs) rest
    rw [toNat_ofNat (by omega)]
    omega
  · refine decode_four ?_ ((char?_four (by omega) hc).trans hs) rest
    rw [toNat_ofNat (by omega)]
    omega

theorem decode_encode (s : List Char) : decode (encode s) = s.map some := by
  induction s with
  | nil =>
    rw [encode, List.flatMap_nil, decode]
    rfl
  | cons c s ih => rw [encode_cons, decode_utf8EncodeChar, ih, List.map_cons]

theorem text?_encode (s : List Char) : text? (encode s) = some (String.ofList s) := by
  have h : ∀ s : List Char, (s.map some).mapM id = some s := by
    intro s
    induction s with
    | nil => rfl
    | cons c s ih => simp [ih]
  rw [text?, decode_encode, h]
  rfl

/-! ## Single bytes -/

/-- A byte below 128 is only found in the character that it stands for, and stands alone there. -/
theorem eq_of_mem_utf8EncodeChar {c : Char} {b : UInt8} (hb : b.toNat < 128)
    (h : b ∈ String.utf8EncodeChar c) : c.toNat = b.toNat ∧ String.utf8EncodeChar c = [b] := by
  have hlarge : ∀ {m k : Nat}, 128 ≤ k → m + k < 256 → b ≠ UInt8.ofNat (m + k) := by
    rintro m k hk hm rfl
    rw [toNat_ofNat hm] at hb
    omega
  have hc := toNat_lt c
  rw [String.utf8EncodeChar] at h ⊢
  generalize hn : c.val.toNat = n at h ⊢
  rw [show c.toNat = n from hn] at hc ⊢
  split at h
  · next hl =>
    obtain rfl := List.mem_singleton.mp h
    rw [toNat_ofNat (by omega), if_pos hl]
    exact ⟨rfl, rfl⟩
  split at h
  · simp only [List.mem_cons, List.not_mem_nil, or_false] at h
    rcases h with h | h
    all_goals exact absurd h (hlarge (by omega) (by omega))
  split at h
  · simp only [List.mem_cons, List.not_mem_nil, or_false] at h
    rcases h with h | h | h
    all_goals exact absurd h (hlarge (by omega) (by omega))
  · simp only [List.mem_cons, List.not_mem_nil, or_false] at h
    rcases h with h | h | h | h
    all_goals exact absurd h (hlarge (by omega) (by omega))

end Passage.Text.Utf8
