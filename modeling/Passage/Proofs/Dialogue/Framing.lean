import Passage.Proofs.Dialogue.Fold
import Passage.Proofs.Json.Views
import Passage.Proofs.Session.Invariant

/-!
# Dialogues in JSON

With JSON a dialogue writes one line for each command and nothing between them: no prompt
and no heading. A reader of the lines finds the session's view after everything that
concerns it, also after a failure, and otherwise an outline or a notice. What texts occur
has no part in that.
-/

namespace Passage.Dialogue

open Json (Value Legible)

/-! ## What lines tell -/

/-- A reader finds the session's view in the value, with a pager if there are results. -/
structure ShowsView (s : Session) (v : Value) : Prop where
  written : v = s.view.toJson
  found : View.ofJson? v = some s.view
  pager : v.field? "pager" = none ↔ s.results = []

structure ShowsOutline (outline : List OutlineEntry) (v : Value) : Prop where
  written : v = outlineJson outline
  found : v.list? OutlineEntry.ofJson? = some outline

/-- An object with a message and nothing else. -/
def IsNotice (v : Value) : Prop := ∃ message, v = .record [("notice", .text message)]

/-- What the value that answers a command tells, `s` being the session as the command leaves it. -/
def Tells (w : Setting) (s : Session) (v : Value) : Command → Prop
  | .query _ | .next | .prev | .page _ | .load _ => ShowsView s v
  | .outline =>
    match s.document with
    | some d => ShowsOutline (d.outline w.outlineLimit w.previewChars) v
    | none => IsNotice v
  | .toggleCase | .toggleWord | .help | .quit | .unknown _ => IsNotice v

/-- The session after the first `n` commands of the lines. -/
def Sources.sessionAfter (x : Sources) (s : Session) (lines : List String) (n : Nat) : Session :=
  ((commands lines).zipIdx.take n).foldl x.perform s

theorem showsView_toJson (s : Session) : ShowsView s s.view.toJson where
  written := rfl
  found := s.view.ofJson?_toJson
  pager := by
    have h := s.isSome_pager
    rw [View.field?_pager]
    cases hp : s.view.pager with
    | none => simpa [hp] using h
    | some p => simpa [hp] using h

theorem showsOutline_json (outline : List OutlineEntry) : ShowsOutline outline (outlineJson outline) where
  written := rfl
  found := outline_toJson outline

/-! ## One turn -/

/-- All that is written is a value on a line of its own. -/
structure Writes (output : String) (v : Value) : Prop where
  line : output = v.line ++ "\n"
  legible : Legible v

section

variable {w : Setting} (hw : w.format = .json)
include hw

theorem writes_view (s : Session) : Writes (showing w s).output s.view.toJson where
  line := by
    change viewOutput w s.view = _
    rw [viewOutput, hw]
  legible := s.view.legible_toJson

theorem writes_notice (message styled : String) :
    Writes (noticeOutput w message styled) (.record [("notice", .text message)]) where
  line := by rw [noticeOutput, hw]
  legible := by
    apply Json.legible_record
    simp [Json.legible_text]

theorem writes_outline (s : Session) :
    ∃ v, Writes (outlineOutput w s) v ∧ Tells w s v .outline := by
  unfold outlineOutput Tells
  cases s.document with
  | none => exact ⟨_, writes_notice hw _ _, _, rfl⟩
  | some d =>
    simp only [hw]
    exact ⟨_, ⟨rfl, legible_outlineJson _⟩, showsOutline_json _⟩

theorem writes_load (s : Session) (source : String) {answer : Except Error Content}
    (h : ∀ e, answer = .error e → e.isRecoverable) :
    Writes (loadTurn w s source answer).output (s.load source answer).1.view.toJson := by
  have ht : settled w (s.load source answer).1 (s.load source answer).2 =
      showing w (s.load source answer).1 :=
    settled_of_recoverable w _ fun e he => h e (Session.error_of_load he)
  unfold loadTurn
  simp only [ht, hw]
  exact writes_view hw _

/-- The output of a turn is one line, which tells what its command left. -/
theorem turn_writes (x : Sources) (line : Nat) (s : Session) {c : Command} (hc : c ≠ .quit) :
    ∃ v, Writes (turn w (x.extract line) s c).output v ∧ Tells w (x.perform s (c, line)) v c := by
  cases c with
  | query text =>
    have ht : settled w (s.search text).1 (s.search text).2 = showing w (s.search text).1 :=
      settled_of_recoverable w _ fun e he => Session.isRecoverable_of_search he
    simp only [turn, ht]
    exact ⟨_, writes_view hw _, showsView_toJson _⟩
  | load source =>
    exact ⟨_, writes_load hw s source fun e he => Sources.isRecoverable_of_extract he,
      showsView_toJson _⟩
  | next => exact ⟨_, writes_view hw _, showsView_toJson _⟩
  | prev => exact ⟨_, writes_view hw _, showsView_toJson _⟩
  | page number => exact ⟨_, writes_view hw _, showsView_toJson _⟩
  | toggleCase => exact ⟨_, writes_notice hw _ _, _, rfl⟩
  | toggleWord => exact ⟨_, writes_notice hw _ _, _, rfl⟩
  | outline => exact writes_outline hw s
  | help => exact ⟨_, writes_notice hw _ _, _, rfl⟩
  | quit => exact absurd rfl hc
  | unknown text => exact ⟨_, writes_notice hw _ _, _, rfl⟩

/-! ## All turns -/

theorem turns_write (x : Sources) (lines : List String) (i : Nat) (s : Session) :
    ∃ values : List Value,
      (turns w x.extract i s (lines.map some)).output =
        String.join (values.map fun v => v.line ++ "\n") ∧
      values.length = (commands lines).length ∧
      ∀ n c, (commands lines)[n]? = some c → ∃ v, values[n]? = some v ∧ Legible v ∧
        Tells w ((((commands lines).zipIdx i).take (n + 1)).foldl x.perform s) v c := by
  -- the value of the first line, and then those of the rest in the session that line leaves
  induction lines generalizing i s with
  | nil => exact ⟨[], rfl, rfl, by simp [commands]⟩
  | cons line lines ih =>
    rw [List.map_cons, commands, List.map_cons]
    by_cases hq : Command.parse line = .quit
    · rw [turns_of_quit w x.extract i s hq, List.takeWhile_cons_of_neg (by simpa using hq)]
      exact ⟨[], rfl, rfl, by simp⟩
    · obtain ⟨hs, hf⟩ := turn_performs w x i s (Command.parse line)
      obtain ⟨v, hv, ht⟩ := turn_writes hw x i s hq
      obtain ⟨values, hout, hlen, hall⟩ := ih (i + 1) (x.perform s (Command.parse line, i))
      rw [← hs] at hout
      have hprompt : prompt w = "" := by rw [prompt, hw]
      rw [turns_of_turn w x.extract i s hq hf, List.takeWhile_cons_of_pos (by simpa using hq)]
      refine ⟨v :: values, ?_, congrArg (· + 1) hlen, ?_⟩
      · rw [Turn.after_output, hout, hv.line, hprompt, String.append_empty, List.map_cons,
          String.join_cons]
      · intro n c hc
        cases n with
        | zero =>
          obtain rfl := Option.some.inj hc
          exact ⟨v, rfl, hv.legible, ht⟩
        | succ n =>
          obtain ⟨v', hv', hl, ht'⟩ := hall n c hc
          exact ⟨v', hv', hl, ht'⟩

end

/-- With JSON a dialogue over readable lines writes, for each line up to the first that quits, one line
without a line break inside, and nothing else. Read as JSON it tells what the command of that line
left: a query, a move or a load the session's view, which has a pager if there are results, an
outline the paragraphs of the document, and anything else a notice. -/
theorem json_run_writes_lines (w : Setting) (x : Sources) (s : Session) (lines : List String) :
    ∃ written : List String,
      (run { w with format := .json } x.extract s (lines.map some)).output =
        String.join (written.map (· ++ "\n")) ∧
      written.length = (commands lines).length ∧
      (∀ line ∈ written, '\n' ∉ line.toList) ∧
      ∀ i c, (commands lines)[i]? = some c → ∃ line v, written[i]? = some line ∧
        Json.ofString? line = some v ∧ Tells w (x.sessionAfter s lines (i + 1)) v c := by
  obtain ⟨values, hout, hlen, hall⟩ :=
    turns_write (w := { w with format := .json }) rfl x lines 0 s
  refine ⟨values.map Value.line, ?_, by rw [List.length_map, hlen], ?_, ?_⟩
  · rw [List.map_map]
    exact (String.empty_append ..).trans hout
  · intro line hline
    obtain ⟨v, hv, rfl⟩ := List.mem_map.mp hline
    obtain ⟨n, hn, rfl⟩ := List.getElem_of_mem hv
    -- every value answers some command, and is legible for that
    obtain ⟨v', hv', hl, -⟩ := hall n _ (List.getElem?_eq_getElem (hlen ▸ hn))
    obtain rfl := Option.some.inj ((List.getElem?_eq_getElem hn).symm.trans hv')
    exact Json.not_mem_line hl
  · intro i c hc
    obtain ⟨v, hv, hl, ht⟩ := hall i c hc
    exact ⟨v.line, v, by rw [List.getElem?_map, hv, Option.map_some], Json.ofString?_line hl, ht⟩

end Passage.Dialogue
