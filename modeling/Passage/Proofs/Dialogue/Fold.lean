import Passage.Dialogue.Turn
import Passage.Extraction.Service
import Passage.Files.Disk
import Passage.Proofs.Dialogue.Command
import Passage.Proofs.Search.Agreement
import Passage.Proofs.Session.Run

/-!
# A dialogue as a fold of operations

What is written in a dialogue has no part in its session: each line up to the one that
quits asks for at most one operation, and the session is what these leave behind. The
dialogue never ends early, because every failure that searches and loads can have is a
recoverable one. Files may change and services may answer differently at each line.
-/

namespace Passage

/-! ## Failures are recoverable -/

theorem Files.Disk.isRecoverable_of_extract {d : Disk} {source : String} {e : Error}
    (h : d.extract source = .error e) : e.isRecoverable := by
  unfold Disk.extract at h
  simp only at h
  split at h
  · obtain rfl := Except.error.inj h
    rfl
  · cases h

namespace Extraction

theorem isRecoverable_of_webUrl {source : String} {e : Error} (h : webUrl source = .error e) :
    e.isRecoverable := by
  unfold webUrl at h
  simp only at h
  split at h
  · obtain rfl := Except.error.inj h
    rfl
  · split at h
    · obtain rfl := Except.error.inj h
      rfl
    · split at h
      · cases h
      · obtain rfl := Except.error.inj h
        rfl

theorem isRecoverable_of_content {r : Reply} {e : Error} (h : r.content = .error e) :
    e.isRecoverable := by
  unfold Reply.content at h
  split at h
  · obtain rfl := Except.error.inj h
    rfl
  · split at h
    · cases h
    · obtain rfl := Except.error.inj h
      rfl

theorem isRecoverable_of_extract {endpoint : String} {service : Service} {source : String}
    {e : Error} (h : extract endpoint service source = .error e) : e.isRecoverable := by
  rcases error_of_bind h with hr | ⟨r, _, h⟩
  · unfold request at hr
    cases hw : webUrl source with
    | error e' =>
      rw [hw] at hr
      obtain rfl := Except.error.inj hr
      exact isRecoverable_of_webUrl hw
    | ok url =>
      rw [hw] at hr
      cases hr
  · split at h
    · obtain rfl := Except.error.inj h
      rfl
    · exact isRecoverable_of_content h

end Extraction

theorem Search.isRecoverable_of_limited {limit : Nat} {o : Match.Options} {ps : List String}
    {query : String} {e : Error} (h : limited limit o ps query = .error e) : e.isRecoverable := by
  have hg := guarded_limited limit o ps query
  by_cases hp : ps = []
  · rw [hg.emptyDocument.mpr hp] at h
    obtain rfl := Except.error.inj h
    rfl
  · by_cases hq : Text.trim query.toList = []
    · rw [hg.emptyQuery.mpr ⟨hp, hq⟩] at h
      obtain rfl := Except.error.inj h
      rfl
    · obtain ⟨reason, rfl⟩ := hg.invalidQuery e hp hq h
      rfl

namespace Session

theorem isRecoverable_of_search {s : Session} {query : String} {e : Error}
    (h : (s.search query).2 = .error e) : e.isRecoverable := by
  rcases s.search_cases query with ⟨e', hl, hs⟩ | ⟨r, _, hs⟩
  · rw [hs] at h
    obtain rfl := Except.error.inj h
    exact Search.isRecoverable_of_limited hl
  · rw [hs] at h
    cases h

/-- A load fails as its extraction does. -/
theorem error_of_load {s : Session} {source : String} {answer : Except Error Content} {e : Error}
    (h : (s.load source answer).2 = .error e) : answer = .error e := by
  cases answer with
  | error e' => exact congrArg Except.error (Except.error.inj h)
  | ok content => cases h

end Session

namespace Dialogue

/-- Where the sources of a dialogue come from, with all that its disk and its service are at each
line. -/
structure Sources where
  fromFile : Bool
  endpoint : String
  disk : Nat → Files.Disk
  service : Nat → Extraction.Service

namespace Sources

def extract (x : Sources) (line : Nat) (source : String) : Except Error Content :=
  if x.fromFile then (x.disk line).extract source
  else Extraction.extract x.endpoint (x.service line) source

theorem isRecoverable_of_extract {x : Sources} {line : Nat} {source : String} {e : Error}
    (h : x.extract line source = .error e) : e.isRecoverable := by
  unfold extract at h
  split at h
  · exact Files.Disk.isRecoverable_of_extract h
  · exact Extraction.isRecoverable_of_extract h

end Sources

/-- The operation that a command asks of a session, where `answer` gives what a source yields. -/
def Command.operation? (answer : String → Except Error Content) (s : Session) :
    Command → Option Session.Operation
  | .query text => some (.search text)
  | .next => some .next
  | .prev => some .prev
  | .page number => some (.goTo (number - 1))
  | .toggleCase => some (.setOptions { s.options with caseSensitive := !s.options.caseSensitive })
  | .toggleWord => some (.setOptions { s.options with wholeWord := !s.options.wholeWord })
  | .load source => some (.load source (answer (Text.trimmed source)))
  | .outline | .help | .quit | .unknown _ => none

/-- What the command at a line makes of a session. -/
def Sources.perform (x : Sources) (s : Session) (entry : Command × Nat) : Session :=
  (entry.1.operation? (x.extract entry.2) s).elim s s.apply

/-- The commands of the lines in front of the first one that quits. -/
def commands (lines : List String) : List Command :=
  (lines.map Command.parse).takeWhile (· ≠ .quit)

theorem settled_of_recoverable {α : Type} (w : Setting) (s : Session) {result : Except Error α}
    (h : ∀ e, result = .error e → e.isRecoverable) : settled w s result = showing w s := by
  cases result with
  | ok a => rfl
  | error e => exact if_pos (h e rfl)

/-- A load's turn is that of its operation with a heading. -/
theorem loadTurn_settled (w : Setting) (s : Session) (source : String)
    {answer : Except Error Content} (h : ∀ e, answer = .error e → e.isRecoverable) :
    (loadTurn w s source answer).session = (s.load source answer).1 ∧
      (loadTurn w s source answer).failure = none := by
  have ht : settled w (s.load source answer).1 (s.load source answer).2 =
      showing w (s.load source answer).1 :=
    settled_of_recoverable w _ fun e he => h e (Session.error_of_load he)
  unfold loadTurn
  simp only [ht]
  cases w.format with
  | human => exact ⟨rfl, rfl⟩
  | json => exact ⟨rfl, rfl⟩

/-- A turn performs its command's operation and does not fail. -/
theorem turn_performs (w : Setting) (x : Sources) (line : Nat) (s : Session) (c : Command) :
    (turn w (x.extract line) s c).session = x.perform s (c, line) ∧
      (turn w (x.extract line) s c).failure = none := by
  cases c with
  | query text =>
    have ht : settled w (s.search text).1 (s.search text).2 = showing w (s.search text).1 :=
      settled_of_recoverable w _ fun e he => Session.isRecoverable_of_search he
    simp only [turn, ht]
    exact ⟨rfl, rfl⟩
  | load source =>
    exact loadTurn_settled w s source fun e he => Sources.isRecoverable_of_extract he
  | next => exact ⟨rfl, rfl⟩
  | prev => exact ⟨rfl, rfl⟩
  | page number => exact ⟨rfl, rfl⟩
  | toggleCase => exact ⟨rfl, rfl⟩
  | toggleWord => exact ⟨rfl, rfl⟩
  | outline => exact ⟨rfl, rfl⟩
  | help => exact ⟨rfl, rfl⟩
  | quit => exact ⟨rfl, rfl⟩
  | unknown text => exact ⟨rfl, rfl⟩

theorem turns_of_quit (w : Setting) (extract : Nat → String → Except Error Content) (i : Nat)
    (s : Session) {line : String} (h : Command.parse line = .quit) (rest : List (Option String)) :
    turns w extract i s (some line :: rest) = ⟨s, "", none⟩ := by
  rw [turns, h]

/-- A turn with what was written in front of it. -/
def Turn.after (t : Turn) (written : String) : Turn := { t with output := written ++ t.output }

@[simp] theorem Turn.after_session (t : Turn) (written : String) :
    (t.after written).session = t.session :=
  rfl

@[simp] theorem Turn.after_output (t : Turn) (written : String) :
    (t.after written).output = written ++ t.output :=
  rfl

/-- A turn that does not fail is followed by the others. -/
theorem turns_of_turn (w : Setting) (extract : Nat → String → Except Error Content) (i : Nat)
    (s : Session) {line : String} (hq : Command.parse line ≠ .quit)
    (hf : (turn w (extract i) s (Command.parse line)).failure = none)
    (rest : List (Option String)) :
    turns w extract i s (some line :: rest) =
      let t := turn w (extract i) s (Command.parse line)
      (turns w extract (i + 1) t.session rest).after (t.output ++ prompt w) := by
  rw [turns]
  split
  · next h => exact absurd h hq
  · simp [hf, Turn.after]

theorem turns_fold (w : Setting) (x : Sources) (lines : List String) (i : Nat) (s : Session) :
    (turns w x.extract i s (lines.map some)).session =
        ((commands lines).zipIdx i).foldl x.perform s ∧
      (turns w x.extract i s (lines.map some)).failure = none := by
  -- every line is answered in the session of the one before it, under its own number
  induction lines generalizing i s with
  | nil => exact ⟨rfl, rfl⟩
  | cons line lines ih =>
    rw [List.map_cons, commands, List.map_cons]
    by_cases hq : Command.parse line = .quit
    · rw [turns_of_quit w x.extract i s hq, List.takeWhile_cons_of_neg (by simpa using hq)]
      exact ⟨rfl, rfl⟩
    · obtain ⟨hs, hf⟩ := turn_performs w x i s (Command.parse line)
      rw [turns_of_turn w x.extract i s hq hf, List.takeWhile_cons_of_pos (by simpa using hq),
        List.zipIdx_cons, List.foldl_cons, ← hs]
      exact ih (i + 1) _

/-- Further lines are answered in the session that the lines before them leave. -/
theorem turns_append (w : Setting) (x : Sources) {lines : List String}
    (hq : ∀ line ∈ lines, Command.parse line ≠ .quit) (more : List (Option String)) (i : Nat)
    (s : Session) :
    turns w x.extract i s (lines.map some ++ more) =
      let front := turns w x.extract i s (lines.map some)
      (turns w x.extract (i + lines.length) front.session more).after front.output := by
  induction lines generalizing i s with
  | nil => simp [turns, Turn.after]
  | cons line lines ih =>
    obtain ⟨hline, hlines⟩ := List.forall_mem_cons.mp hq
    have hf := (turn_performs w x i s (Command.parse line)).2
    have hstep := turns_of_turn w x.extract i s hline hf
    simp only [List.map_cons, List.cons_append, hstep, ih hlines, Turn.after_session,
      Turn.after_output, List.length_cons, Nat.add_assoc, Nat.add_comm 1]
    simp only [Turn.after, String.append_assoc]

/-- A dialogue over readable lines never ends in a failure, and leaves the session that the operations
of its commands make, one after another up to the first `quit`. How it writes has no part in that.
Failures of searches and loads are recoverable, and a page is asked for by a number from one on. -/
theorem run_folds (w : Setting) (x : Sources) (s : Session) (lines : List String) :
    (run w x.extract s (lines.map some)).failure = none ∧
    (run w x.extract s (lines.map some)).session =
      (commands lines).zipIdx.foldl x.perform s ∧
    (∀ w', (run w' x.extract s (lines.map some)).session =
      (run w x.extract s (lines.map some)).session) ∧
    (∀ (t : Session) (query : String) (e : Error), (t.search query).2 = .error e → e.isRecoverable) ∧
    (∀ (t : Session) (line : Nat) (source : String) (e : Error),
      (t.load source (x.extract line (Text.trimmed source))).2 = .error e → e.isRecoverable) ∧
    ∀ line number, Command.parse line = .page number → 1 ≤ number := by
  have hrun : ∀ w', (run w' x.extract s (lines.map some)).session =
      (commands lines).zipIdx.foldl x.perform s := fun w' => (turns_fold w' x lines 0 s).1
  refine ⟨(turns_fold w x lines 0 s).2, hrun w, fun w' => (hrun w').trans (hrun w).symm, ?_, ?_, ?_⟩
  · intro t query e he
    exact Session.isRecoverable_of_search he
  · intro t line source e he
    exact Sources.isRecoverable_of_extract (Session.error_of_load he)
  · intro line number h
    exact Command.one_le_of_parse h

end Dialogue

end Passage
