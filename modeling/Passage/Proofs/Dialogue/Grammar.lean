import Passage.Proofs.Dialogue.Command

/-!
# The lines of a dialogue

A line is read as a query, as what its name asks for, or as unknown, and in one way only.
A command that users can write is read back from what they write, with blanks around it.
-/

namespace Passage.Dialogue.Command

open Text

/-- Blanks around what is written do not count. -/
theorem Written.parse_padded {c : Command} {text front back : List Char} (h : Written c text)
    (hfront : ∀ b ∈ front, isBlank b) (hback : ∀ b ∈ back, isBlank b) :
    parse (String.ofList (front ++ (text ++ back))) = c := by
  have htrim : trim (String.ofList (front ++ (text ++ back))).toList =
      trim (String.ofList text).toList := by
    rw [String.toList_ofList, String.toList_ofList, trim_blanks_append hfront,
      trim_append_blanks hback]
  rw [parse_congr htrim, h.parse_ofList]

/-- The commands that can be written. -/
def Writable : Command → Prop
  | query text => Trimmed text.toList ∧ text.toList.head? ≠ some ':'
  | page n => 1 ≤ n ∧ n < Numeral.bound
  | load source => Trimmed source.toList ∧ source.toList ≠ []
  | unknown _ => False
  | _ => True

theorem spells_self (word : String) : Spells word.toList word :=
  List.forall₂_same.mpr fun _ _ => Or.inl rfl

theorem exists_written {c : Command} (h : c.Writable) : ∃ text, Written c text := by
  have hname : ∀ word ∈ c.names, ∃ text, Written c text :=
    fun word hw => ⟨_, .plain hw (spells_self word)⟩
  cases c with
  | query text =>
    refine ⟨text.toList, ?_⟩
    have hquery := Written.query h.1 h.2
    rwa [String.ofList_toList] at hquery
  | page n => exact ⟨_, .page n _ [' '] (spells_self "page") (by decide) (by decide) h.1 h.2⟩
  | load source =>
    have hload := Written.load _ _ [' '] (spells_self "load") (by decide) (by decide) h.1 h.2
    rw [String.ofList_toList] at hload
    exact ⟨_, hload⟩
  | unknown text => exact h.elim
  | next => exact hname "next" (by decide)
  | prev => exact hname "prev" (by decide)
  | toggleCase => exact hname "case" (by decide)
  | toggleWord => exact hname "word" (by decide)
  | outline => exact hname "outline" (by decide)
  | help => exact hname "help" (by decide)
  | quit => exact hname "quit" (by decide)

/-- A line is read as the grammar says. Every command but the unknown ones can be written, and is
read back however it is written. -/
theorem parse_grammar :
    (∀ line c, parse line = c ↔ Reads line c) ∧
    (∀ c, c.Writable → ∃ text, Written c text) ∧
    ∀ c text front back, Written c text → (∀ b ∈ front, isBlank b) → (∀ b ∈ back, isBlank b) →
      parse (String.ofList (front ++ (text ++ back))) = c := by
  refine ⟨fun line c => ⟨?_, Reads.parse_eq⟩, fun c => exists_written,
    fun c text front back => Written.parse_padded⟩
  rintro rfl
  exact reads_parse line

theorem parse_grammar_load :
    Written (.load "my page") ":LoAd \tmy page".toList ∧
    parse "\u3000:LoAd \tmy page \r" = .load "my page" := by
  have hwritten : Written (.load "my page") ":LoAd \tmy page".toList :=
    .load "my page".toList "LoAd".toList " \t".toList (by decide) (by decide) (by decide) (by decide)
      (by decide)
  exact ⟨hwritten, parse_grammar.2.2 (.load "my page") ":LoAd \tmy page".toList
    "\u3000".toList " \r".toList hwritten (by decide) (by decide)⟩

end Passage.Dialogue.Command
