import PolishCalc.Dialogue
import PolishCalc.Proofs.Report
import PolishCalc.Proofs.Text.LowerCase

/-!
# The course of the dialogue

* **courses** — `Dialogue.course`: what the dialogue writes, line by line, and how much of the input
  it has read by then (`trace_runInteractive`);
* **answers** — the offer is accepted by `y` and `yes` in either ASCII case, and by no other word
  that the tables of lower case might lead to (`accepts_iff`);
* **conversations** — `Conversation`: a course as the user sees it. Every input starts with exactly
  one (`exists_conversation`), and bytes after it do not matter (`Conversation.replace`);
* **runs** — on an output without a limit a run is the conversation of its input
  (`runInteractive_conversation`).
-/

namespace PolishCalc

open Text (Bytes encode IsFirstLine dropLines lineAt)

namespace Dialogue

/-- The course of the dialogue on an input. A question is asked before anything is heard; then at
most two lines are heard. -/
def course (settings : Settings) (files : FileTree) (input : Bytes) : Trace RunError Report :=
  -- everything that is said or done once so many lines have been heard
  let said (heard : Nat) (lines : List String) : List (Segment RunError) :=
    Segment.ofLines (.io "write prompt") files (dropLines heard input) lines
  let fails (heard : Nat) : Trace RunError Report :=
    { outcome := .failed (.io "read input"), files, unread := dropLines heard input }
  let runs (heard : Nat) (expression : String) : Trace RunError Report :=
    (verdict settings expression files (dropLines heard input)).after
      (Segment.ofLines (.io "write report") files (dropLines heard input) [""])
  match Text.decode? (lineAt 0 input) with
  | none => (fails 1).after (said 0 [question, note])
  | some answer =>
    if accepts (Text.trim answer) then
      match Text.decode? (lineAt 1 input) with
      | none => (fails 2).after (said 0 [question, note] ++ said 1 [request])
      | some line => (runs 2 (Text.trim line)).after (said 0 [question, note] ++ said 1 [request])
    else
      (runs 1 settings.sample).after
        (said 0 [question, note] ++ said 1 [announcement settings.sample])

theorem trace_say_bind {α : Type} (line : String) (next : Unit → Script RunError α)
    (files : FileTree) (unread : Bytes) :
    ((say line).bind next).trace files unread =
      ((next ()).trace files unread).after
        (Segment.ofLines (.io "write prompt") files unread [line]) := rfl

theorem hear_bind {α : Type} (next : String → Script RunError α) :
    hear.bind next = .readLine (.io "read input") fun line => next (Text.trim line) := rfl

/-- Hearing a line goes on with it, if it is a text. -/
theorem trace_hear_bind {α : Type} (next : String → Script RunError α) (files : FileTree)
    (unread : Bytes) :
    (hear.bind next).trace files unread =
      match Text.decode? (lineAt 0 unread) with
      | some line => (next (Text.trim line)).trace files (dropLines 1 unread)
      | none => { outcome := .failed (.io "read input"), files, unread := dropLines 1 unread } := by
  rw [hear_bind, Script.trace]
  rfl

/-- What is done with the expression that was chosen. -/
def act (settings : Settings) (expression : String) : Script RunError Report :=
  (Script.putLine "" (.io "write report")).bind fun _ => runAndReport settings expression

theorem trace_act (settings : Settings) (expression : String) (files : FileTree) (unread : Bytes) :
    (act settings expression).trace files unread =
      (verdict settings expression files unread).after
        (Segment.ofLines (.io "write report") files unread [""]) := by
  rw [← trace_runAndReport]
  rfl

/-- The steps of the dialogue, one after the other. -/
theorem runInteractive_eq (settings : Settings) :
    runInteractive settings =
      (say question).bind fun _ => (say note).bind fun _ => hear.bind fun answer =>
        if accepts answer then
          (say request).bind fun _ => hear.bind (act settings)
        else
          (say (announcement settings.sample)).bind fun _ => act settings settings.sample := by
  simp only [runInteractive, choose, Script.bind_eq, Script.bind_assoc]
  refine congrArg (Script.bind _) (funext fun _ => congrArg (Script.bind _) (funext fun _ =>
    congrArg (Script.bind _) (funext fun answer => ?_)))
  -- in both cases the chosen expression is acted on after the lines that were said
  split
  · simp only [Script.bind_assoc]
    rfl
  · simp only [Script.bind_assoc]
    rfl

/-- The dialogue takes its course. -/
theorem trace_runInteractive (settings : Settings) (files : FileTree) (input : Bytes) :
    (runInteractive settings).trace files input = course settings files input := by
  have opening : [question, note] = [question] ++ [note] := rfl
  rw [runInteractive_eq, trace_say_bind, trace_say_bind, Trace.after_after, trace_hear_bind, course,
    opening]
  cases Text.decode? (lineAt 0 input) with
  | none => simp only [Segment.ofLines_append, dropLines]
  | some answer =>
      simp only
      split
      · rw [trace_say_bind, trace_hear_bind, Text.lineAt_dropLines, Text.dropLines_dropLines]
        cases Text.decode? (lineAt 1 input) with
        | none => simp only [Trace.after_after, Segment.ofLines_append, dropLines]
        | some line =>
            simp only [trace_act, Trace.after_after, Segment.ofLines_append, dropLines,
              List.append_assoc]
      · rw [trace_say_bind, trace_act]
        simp only [Trace.after_after, Segment.ofLines_append, dropLines, List.append_assoc]

/-- The place of a segment in the dialogue: a prompt is said when at most one line has been heard,
a report or an error when one or two have. -/
def Placed (input : Bytes) (segment : Segment RunError) : Prop :=
  ∃ heard, segment.unread = dropLines heard input ∧
    (segment.onFailure = some (.io "write prompt") ∧ heard ≤ 1 ∨
      segment.onFailure ∈ [some (.io "write report"), some (.io "write error")] ∧
        1 ≤ heard ∧ heard ≤ 2)

theorem placed_of_mem_course {settings : Settings} {files : FileTree} {input : Bytes}
    {segment : Segment RunError} (member : segment ∈ (course settings files input).segments) :
    Placed input segment := by
  have said {heard : Nat} {lines : List String} (early : heard ≤ 1)
      (member : segment ∈ Segment.ofLines (.io "write prompt") files (dropLines heard input)
        lines) : Placed input segment := by
    obtain ⟨context, _, left⟩ := Segment.of_mem_ofLines member
    exact ⟨heard, left, .inl ⟨context, early⟩⟩
  have ran {heard : Nat} {expression : String} (later : 1 ≤ heard ∧ heard ≤ 2)
      (member : segment ∈ Segment.ofLines (.io "write report") files (dropLines heard input) [""] ∨
        segment ∈ (verdict settings expression files (dropLines heard input)).segments) :
      Placed input segment := by
    rcases member with member | member
    · obtain ⟨context, _, left⟩ := Segment.of_mem_ofLines member
      exact ⟨heard, left, .inr ⟨by simp [context], later⟩⟩
    · obtain ⟨context, left⟩ := of_mem_verdict member
      exact ⟨heard, left, .inr ⟨context, later⟩⟩
  rw [course] at member
  cases answer : Text.decode? (lineAt 0 input) with
  | none =>
      simp only [answer, Trace.after, List.append_nil] at member
      exact said (Nat.zero_le 1) member
  | some word =>
      simp only [answer] at member
      split at member
      · cases line : Text.decode? (lineAt 1 input) with
        | none =>
            simp only [line, Trace.after, List.append_nil, List.mem_append] at member
            rcases member with opening | request
            · exact said (Nat.zero_le 1) opening
            · exact said (Nat.le_refl 1) request
        | some expression =>
            simp only [line, Trace.after, List.mem_append] at member
            rcases member with (opening | request) | answer
            · exact said (Nat.zero_le 1) opening
            · exact said (Nat.le_refl 1) request
            · exact ran (by decide) answer
      · simp only [Trace.after, List.mem_append] at member
        rcases member with (opening | announcement) | answer
        · exact said (Nat.zero_le 1) opening
        · exact said (Nat.le_refl 1) announcement
        · exact ran (by decide) answer

theorem answered_course (settings : Settings) (files : FileTree) (input : Bytes) :
    Segment.Answered (course settings files input).segments := by
  intro segment member
  obtain ⟨_, _, ⟨prompt, _⟩ | ⟨reported, _⟩⟩ := placed_of_mem_course member
  · exact ⟨_, prompt⟩
  · rw [List.mem_pair] at reported
    rcases reported with report | error
    · exact ⟨_, report⟩
    · exact ⟨_, error⟩

/-! ## Conversations -/

/-- The answers that accept the offer: `y` or `yes`, with each letter in either ASCII case. -/
def Agrees (answer : String) : Prop :=
  answer.toList.map Char.toLower ∈ [['y'], ['y', 'e', 's']]

instance (answer : String) : Decidable (Agrees answer) :=
  inferInstanceAs (Decidable (_ ∈ _))

theorem accepts_iff {answer : String} : accepts answer = true ↔ Agrees answer := by
  have yes : Text.lower answer = "yes" ↔ answer.toList.map Char.toLower = ['y', 'e', 's'] :=
    Text.lower_eq_iff rfl answer
  have y : Text.lower answer = "y" ↔ answer.toList.map Char.toLower = ['y'] :=
    Text.lower_eq_iff rfl answer
  rw [accepts, Agrees]
  simp only [Bool.or_eq_true, beq_iff_eq, List.mem_cons, List.not_mem_nil, or_false]
  rw [← yes, ← y]
  exact or_comm

/-- The lines at the start of every conversation. -/
def opening : List String :=
  ["Would you like to enter your own prefix expression? (yes/no)",
    "Note: only single-digit numbers (0-9) and operators (+, -, *, /) are supported."]

/-- How the dialogue goes: the bytes that it consumes, the bytes that follow them, how it ends and
what it writes. -/
inductive Conversation (settings : Settings) :
    Bytes → Bytes → Outcome RunError Report → String → Prop
  /-- The answer is no text. -/
  | unclear {answer rest : Bytes} :
      IsFirstLine answer rest → Text.decode? answer = none →
      Conversation settings answer rest (.failed (.io "read input")) (unlines opening)
  /-- The sample is run as it stands. -/
  | declined {answer rest : Bytes} {word : String} :
      IsFirstLine answer rest → Text.decode? answer = some word → ¬ Agrees (Text.trim word) →
      Conversation settings answer rest (.ofExcept (runExpression settings settings.sample))
        (unlines (opening ++ ["Using the default expression: " ++ settings.sample, ""]) ++
          response settings settings.sample)
  /-- The expression is no text. -/
  | garbled {answer line rest : Bytes} {word : String} :
      IsFirstLine answer (line ++ rest) → Text.decode? answer = some word →
      Agrees (Text.trim word) → IsFirstLine line rest → Text.decode? line = none →
      Conversation settings (answer ++ line) rest (.failed (.io "read input"))
        (unlines (opening ++ ["Enter your prefix expression:"]))
  /-- The expression is run without the blanks around it. -/
  | accepted {answer line rest : Bytes} {word expression : String} :
      IsFirstLine answer (line ++ rest) → Text.decode? answer = some word →
      Agrees (Text.trim word) → IsFirstLine line rest → Text.decode? line = some expression →
      Conversation settings (answer ++ line) rest
        (.ofExcept (runExpression settings (Text.trim expression)))
        (unlines (opening ++ ["Enter your prefix expression:", ""]) ++
          response settings (Text.trim expression))

/-- Every input leads to a conversation. -/
theorem exists_conversation (settings : Settings) (input : Bytes) :
    ∃ consumed unread outcome text, input = consumed ++ unread ∧
      Conversation settings consumed unread outcome text := by
  obtain ⟨parts, first⟩ := Text.splitLine_eq_iff.mp
    (rfl : Text.splitLine input = ((Text.splitLine input).1, (Text.splitLine input).2))
  generalize (Text.splitLine input).1 = answer at parts first
  generalize (Text.splitLine input).2 = rest at parts first
  cases decoded : Text.decode? answer with
  | none => exact ⟨answer, rest, _, _, parts, .unclear first decoded⟩
  | some word =>
      by_cases agrees : Agrees (Text.trim word)
      · obtain ⟨parts', second⟩ := Text.splitLine_eq_iff.mp
          (rfl : Text.splitLine rest = ((Text.splitLine rest).1, (Text.splitLine rest).2))
        generalize (Text.splitLine rest).1 = line at parts' second
        generalize (Text.splitLine rest).2 = unread at parts' second
        subst parts'
        rw [← List.append_assoc] at parts
        cases decoded' : Text.decode? line with
        | none => exact ⟨_, unread, _, _, parts, .garbled first decoded agrees second decoded'⟩
        | some expression =>
            exact ⟨_, unread, _, _, parts, .accepted first decoded agrees second decoded'⟩
      · exact ⟨answer, rest, _, _, parts, .declined first decoded agrees⟩

/-- A conversation depends on what it consumes only: what follows it can be left out, or replaced
if there is something. -/
theorem Conversation.replace {settings : Settings} {consumed unread other : Bytes}
    {outcome : Outcome RunError Report} {text : String}
    (conversation : Conversation settings consumed unread outcome text)
    (replaceable : unread ≠ [] ∨ other = []) :
    Conversation settings consumed other outcome text := by
  have both (line : Bytes) : line ++ unread ≠ [] ∨ line ++ other = [] := by
    rcases replaceable with left | rfl
    · exact .inl (List.append_ne_nil_of_right_ne_nil line left)
    · by_cases empty : line = []
      · exact .inr (by rw [empty, List.append_nil])
      · exact .inl (List.append_ne_nil_of_left_ne_nil empty unread)
  -- the rest of the first line is the second line and what follows it
  cases conversation with
  | unclear first decoded => exact .unclear (first.replace replaceable) decoded
  | declined first decoded differs => exact .declined (first.replace replaceable) decoded differs
  | garbled first decoded agrees second decoded' =>
      exact .garbled (first.replace (both _)) decoded agrees (second.replace replaceable) decoded'
  | accepted first decoded agrees second decoded' =>
      exact .accepted (first.replace (both _)) decoded agrees (second.replace replaceable) decoded'

/-! ## Runs -/

theorem lineAt_of_isFirstLine {line rest : Bytes} (first : IsFirstLine line rest) :
    lineAt 0 (line ++ rest) = line ∧ dropLines 1 (line ++ rest) = rest := by
  rw [lineAt, dropLines, dropLines, dropLines, Text.splitLine_of_isFirstLine first]
  exact ⟨rfl, rfl⟩

theorem lineAt_of_isFirstLines {answer line rest : Bytes}
    (first : IsFirstLine answer (line ++ rest)) (second : IsFirstLine line rest) :
    lineAt 0 (answer ++ line ++ rest) = answer ∧ lineAt 1 (answer ++ line ++ rest) = line ∧
      dropLines 2 (answer ++ line ++ rest) = rest := by
  rw [List.append_assoc]
  obtain ⟨heard, later⟩ := lineAt_of_isFirstLine first
  obtain ⟨heard', later'⟩ := lineAt_of_isFirstLine second
  rw [← Text.lineAt_dropLines 1 0, ← Text.dropLines_dropLines 1 1, later]
  exact ⟨heard, heard', later'⟩

/-- A conversation is the course of the dialogue on its input. -/
theorem Conversation.course_eq {settings : Settings} (printable : settings.Printable)
    {consumed unread : Bytes} {outcome : Outcome RunError Report} {text : String}
    (conversation : Conversation settings consumed unread outcome text) (files : FileTree) :
    (course settings files (consumed ++ unread)).outcome = outcome ∧
      (course settings files (consumed ++ unread)).files = files ∧
      (course settings files (consumed ++ unread)).unread = unread ∧
      Segment.transcript (course settings files (consumed ++ unread)).segments = text := by
  -- the lines that the conversation consumes are those that the course hears
  cases conversation with
  | unclear first decoded =>
      obtain ⟨heard, left⟩ := lineAt_of_isFirstLine first
      simp only [course, heard, decoded, left, Trace.after, List.append_nil,
        Segment.transcript_ofLines, true_and]
      rfl
  | declined first decoded differs =>
      obtain ⟨heard, left⟩ := lineAt_of_isFirstLine first
      rw [← accepts_iff] at differs
      simp only [course, heard, decoded, differs, left, Trace.after, Bool.false_eq_true, if_false,
        outcome_verdict printable, files_verdict, Segment.transcript_append,
        Segment.transcript_ofLines, transcript_verdict, ← unlines_append, ← String.append_assoc,
        true_and]
      rfl
  | garbled first decoded agrees second decoded' =>
      obtain ⟨heard, heard', left⟩ := lineAt_of_isFirstLines first second
      rw [← accepts_iff] at agrees
      simp only [course, heard, decoded, agrees, heard', decoded', left, Trace.after, if_true,
        List.append_nil, Segment.transcript_append, Segment.transcript_ofLines, ← unlines_append,
        true_and]
      rfl
  | accepted first decoded agrees second decoded' =>
      obtain ⟨heard, heard', left⟩ := lineAt_of_isFirstLines first second
      rw [← accepts_iff] at agrees
      simp only [course, heard, decoded, agrees, heard', decoded', left, Trace.after, if_true,
        outcome_verdict printable, files_verdict, Segment.transcript_append,
        Segment.transcript_ofLines, transcript_verdict, ← unlines_append, ← String.append_assoc,
        true_and]
      rfl

/-- On an output without a limit a run is the conversation of its input. -/
theorem Conversation.run_eq {settings : Settings} (printable : settings.Printable)
    {consumed unread : Bytes} {outcome : Outcome RunError Report} {text : String}
    (conversation : Conversation settings consumed unread outcome text) {machine : Machine}
    (unlimited : machine.output.room = none) (given : machine.input = consumed ++ unread) :
    (runInteractive settings).run machine =
      (outcome, { machine.afterWriting text with input := unread }) := by
  obtain ⟨outcome_eq, files_eq, unread_eq, text_eq⟩ :=
    conversation.course_eq printable machine.files
  rw [Script.run_unlimited unlimited, trace_runInteractive, given]
  simp only [outcome_eq, files_eq, unread_eq, text_eq]
  rfl

end Dialogue

end PolishCalc
