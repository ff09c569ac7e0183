import PolishCalc.Proofs.Commands

/-!
# Outputs with a limit

* **one script** — `Script.CutOff`: a run on an output with room for a number of bytes against the
  run on one without a limit. Both write the segments of the trace, and the first is cut off in the
  segment in which the limit falls (`Script.cutOff_trace`);
* **commands** — the segments of the commands that need settings, with the error of each
  (`Execution.segments`, `Execution.answered_segments`);
* **all together** — reports, runs of an expression, the dialogue and the commands are cut off in
  what they write (`Script.limited_output`).
-/

namespace PolishCalc

open Text (Bytes encode)

namespace Script

variable {ε α : Type}

/-- A run on an output with room for a number of bytes, or without a limit. -/
def runWithin (room : Option Nat) (script : Script ε α) (files : FileTree) (input : Bytes) :
    Outcome ε α × Machine :=
  script.run { files, input, output := .limited room }

/-- How a limit cuts off a script that writes the segments. -/
structure CutOff (script : Script ε α) (files : FileTree) (input : Bytes)
    (segments : List (Segment ε)) (limit : Nat) : Prop where
  /-- Without a limit all segments are written. -/
  whole : (script.runWithin none files input).2.output.written =
    encode (Segment.transcript segments)
  /-- The limit leaves the first bytes. -/
  taken : (script.runWithin (some limit) files input).2.output.written =
    (script.runWithin none files input).2.output.written.take limit
  /-- If everything fits, the limit changes nothing. -/
  fits : (script.runWithin none files input).2.output.written.length ≤ limit →
    (script.runWithin (some limit) files input).1 = (script.runWithin none files input).1 ∧
    (script.runWithin (some limit) files input).2.files =
      (script.runWithin none files input).2.files ∧
    (script.runWithin (some limit) files input).2.input =
      (script.runWithin none files input).2.input
  /-- Otherwise the run ends in the segment that holds the first byte too many, with its error, and
  goes no further in the files and the input. -/
  exceeds : limit < (script.runWithin none files input).2.output.written.length →
    ∃ before segment after cause, segments = before ++ segment :: after ∧
      Segment.size before ≤ limit ∧
      limit < Segment.size before + (encode segment.text).length ∧
      segment.onFailure = some cause ∧
      (script.runWithin (some limit) files input).1 = .failed cause ∧
      (script.runWithin (some limit) files input).2.files = segment.files ∧
      (script.runWithin (some limit) files input).2.input = segment.unread

/-- Without a limit a run is the whole trace. -/
theorem runWithin_none (script : Script ε α) (files : FileTree) (input : Bytes) :
    script.runWithin none files input =
      ((script.trace files input).outcome,
        { files := (script.trace files input).files
          input := (script.trace files input).unread
          output :=
            { written := encode (Segment.transcript (script.trace files input).segments) } }) := by
  let machine : Machine := { files, input, output := .limited none }
  exact run_unlimited (rfl : machine.output.room = none) script

/-- A script is cut off in the segments of its trace. -/
theorem cutOff_trace {script : Script ε α} {files : FileTree} {input : Bytes}
    (answered : Segment.Answered (script.trace files input).segments) (limit : Nat) :
    script.CutOff files input (script.trace files input).segments limit := by
  -- both runs play the trace, which does not depend on the output
  have whole := script.runWithin_none files input
  have cut : script.runWithin (some limit) files input = _ := script.run_eq_play _
  generalize script.trace files input = trace at *
  obtain ⟨segments, outcome, files', unread⟩ := trace
  let machine : Machine := { files := files', input := unread, output := .limited (some limit) }
  have cut : _ = Trace.play segments (outcome, machine) := cut
  refine ⟨by rw [whole], ?_, ?_, ?_⟩
  · rw [cut, whole, Trace.output_play]
    rfl
  · intro fits
    rw [whole] at fits
    have complete : (machine.output.write (encode (Segment.transcript segments))).2 = true :=
      decide_eq_true fits
    rw [cut, whole, Trace.play_complete complete]
    exact ⟨rfl, rfl, rfl⟩
  · intro exceeds
    rw [whole] at exceeds
    obtain ⟨before, segment, after, rfl, reached, exceeded⟩ := Segment.exists_at exceeds
    obtain ⟨cause, given⟩ :=
      answered segment (List.mem_append_right before List.mem_cons_self)
    refine ⟨before, segment, after, cause, rfl, reached, exceeded, given, ?_⟩
    have limited : machine.output.room = some limit := rfl
    rw [cut, Trace.play_exceeded limited reached exceeded outcome, given]
    exact ⟨rfl, rfl, rfl⟩

end Script

namespace Execution

/-- A text that is written in one piece, if there is one. -/
def piece {ε : Type} (context : String) (result : Except ε String) (files : FileTree)
    (unread : Bytes) : List (Segment CommandError) :=
  match result with
  | .ok text => [{ text, onFailure := some (ioError context), files, unread }]
  | .error _ => []

/-- What the commands write that need settings. -/
def segments (settings : Settings) (files : FileTree) (unread : Bytes) :
    Option Command → List (Segment CommandError)
  | some (.eval expression) =>
    match runExpression settings (chosen settings expression) with
    | .ok report =>
      Segment.ofLines (ioError "write report") files unread (report.lines settings.precision)
    | .error _ => []
  | some (.render expression order) =>
    piece "write rendering" ((rendering settings expression order).map Console.info) files unread
  | some (.tree expression) => piece "write tree" (drawing settings expression) files unread
  | some .configShow => piece "write settings" (settings.toToml.map Console.info) files unread
  | some .interactive | none =>
    (Dialogue.course settings files unread).segments.map (Segment.mapError dialogueError)
  | _ => []

theorem segments_ofText {ε : Type} (context : String) (result : Except ε String)
    (refuse : ε → CommandError) (files : FileTree) (unread : Bytes) :
    (Trace.ofText (result.mapError refuse) (ioError context) files unread).segments =
      piece context result files unread := by
  cases result with
  | ok text => rfl
  | error cause => rfl

theorem segments_action {command : Option Command} {action : Settings → Script CommandError Unit}
    (needs : Invocation.action? command = some action) (settings : Settings)
    (files : FileTree) (unread : Bytes) :
    ((action settings).trace files unread).segments = segments settings files unread command := by
  have conversation : ((interactive settings).trace files unread).segments =
      segments settings files unread none := by
    rw [trace_interactive, Trace.segments_void]
    rfl
  cases command with
  | none =>
      obtain rfl := Option.some.inj needs
      exact conversation
  | some command =>
      cases command with
      | eval expression =>
          obtain rfl := Option.some.inj needs
          rw [trace_eval, evaluation, segments]
          cases runExpression settings (chosen settings expression) with
          | ok report => rfl
          | error cause => rfl
      | render expression order =>
          obtain rfl := Option.some.inj needs
          rw [trace_render, segments_ofText]
          rfl
      | tree expression =>
          obtain rfl := Option.some.inj needs
          rw [trace_tree, segments_ofText]
          rfl
      | interactive =>
          obtain rfl := Option.some.inj needs
          exact conversation
      | configShow =>
          obtain rfl := Option.some.inj needs
          rw [trace_configShow, segments_ofText]
          rfl
      | configPath => cases needs
      | configInit force => cases needs
      | completion shell => cases needs

theorem answered_piece {ε : Type} (context : String) (result : Except ε String)
    (files : FileTree) (unread : Bytes) :
    Segment.Answered (piece context result files unread) := by
  cases result with
  | ok text =>
      intro segment member
      obtain rfl := List.mem_singleton.mp member
      exact ⟨ioError context, rfl⟩
  | error cause => exact Segment.answered_nil

/-- Wherever a limit falls, a command that needs settings ends with an error. -/
theorem answered_segments (settings : Settings) (files : FileTree) (unread : Bytes)
    (command : Option Command) : Segment.Answered (segments settings files unread command) := by
  have conversation := (Dialogue.answered_course settings files unread).mapError dialogueError
  unfold segments
  split
  · split
    · exact Segment.answered_ofLines _ _ _ _
    · exact Segment.answered_nil
  · exact answered_piece _ _ _ _
  · exact answered_piece _ _ _ _
  · exact answered_piece _ _ _ _
  · exact conversation
  · exact conversation
  · exact Segment.answered_nil

end Execution

theorem Invocation.answered_execute {invocation : Invocation}
    {action : Settings → Script CommandError Unit}
    (needs : action? invocation.command = some action) (surroundings : Surroundings)
    (files : FileTree) (unread : Bytes) :
    Segment.Answered ((invocation.execute surroundings).trace files unread).segments := by
  rw [trace_execute needs]
  cases ((Settings.load surroundings invocation.config).run { files, input := unread }).1 with
  | done loaded =>
      rw [Execution.segments_action needs]
      exact Execution.answered_segments _ files unread invocation.command
  | failed cause => exact Segment.answered_nil
  | aborted => exact Segment.answered_nil

/-- A limit of the output cuts off a report, a run of an expression, the dialogue and every command
that needs settings in what they write. A command whose settings cannot be loaded writes nothing. -/
theorem Script.limited_output (files : FileTree) (input : Bytes) (limit : Nat) :
    (∀ (report : Report) (precision : Option Nat) (onFailure : RunError),
      (report.print precision onFailure).CutOff files input
        (Segment.ofLines onFailure files input (report.lines precision)) limit) ∧
    (∀ settings expression,
      (runAndReport settings expression).CutOff files input
        (verdict settings expression files input).segments limit) ∧
    (∀ settings,
      (runInteractive settings).CutOff files input
        (Dialogue.course settings files input).segments limit ∧
      ∀ segment ∈ (Dialogue.course settings files input).segments,
        Dialogue.Placed input segment) ∧
    ∀ surroundings (invocation : Invocation) action,
      Invocation.action? invocation.command = some action →
      (invocation.execute surroundings).CutOff files input
        (match ((Settings.load surroundings invocation.config).run { files, input }).1 with
          | .done loaded =>
            Execution.segments (invocation.effective loaded) files input invocation.command
          | _ => [])
        limit := by
  refine ⟨?_, ?_, ?_, ?_⟩
  · intro report precision onFailure
    have traced := report.trace_print precision onFailure files input
    have answered := Segment.answered_ofLines onFailure files input (report.lines precision)
    have cut := (report.print precision onFailure).cutOff_trace (by rwa [traced]) limit
    rwa [traced] at cut
  · intro settings expression
    have traced := trace_runAndReport settings expression files input
    have answered := answered_verdict settings expression files input
    have cut := (runAndReport settings expression).cutOff_trace (by rwa [traced]) limit
    rwa [traced] at cut
  · intro settings
    have traced := Dialogue.trace_runInteractive settings files input
    have answered := Dialogue.answered_course settings files input
    have cut := (runInteractive settings).cutOff_trace (by rwa [traced]) limit
    rw [traced] at cut
    exact ⟨cut, fun segment => Dialogue.placed_of_mem_course⟩
  · intro surroundings invocation action needs
    have answered := Invocation.answered_execute needs surroundings files input
    have cut := cutOff_trace answered limit
    rw [Invocation.trace_execute needs] at cut
    generalize ((Settings.load surroundings invocation.config).run { files, input }).1 = outcome
      at cut ⊢
    cases outcome with
    | done loaded => rwa [Execution.segments_action needs] at cut
    | failed cause => exact cut
    | aborted => exact cut

/-- A limit in the middle of the first branch of a drawing. -/
theorem Script.limited_output_tree :
    let invocation : Invocation := { command := some (.tree " +12") }
    let cut := (invocation.execute {}).runWithin (some 3) {} (encode "unread")
    cut.1 = .failed (.application (.io "write tree")) ∧ cut.2.input = encode "unread" ∧
      cut.2.output.written = [0x2B, 0x0A, 0xE2] := by
  intro invocation cut
  obtain ⟨_, _, _, commands⟩ := limited_output {} (encode "unread") 3
  have cutOff := commands {} invocation _ rfl
  have loaded : ((Settings.load {} invocation.config).run { input := encode "unread" }).1 =
      .done .default := rfl
  have drawn : Execution.drawing (invocation.effective .default) " +12" =
      .ok "+\n├── 1\n└── 2\n" := by decide +kernel
  have long : 3 < (encode "+\n├── 1\n└── 2\n").length := by decide +kernel
  have first : (encode "+\n├── 1\n└── 2\n").take 3 = [0x2B, 0x0A, 0xE2] := by decide +kernel
  simp only [loaded, invocation, Execution.segments, drawn, Execution.piece] at cutOff
  have whole := cutOff.whole
  rw [Segment.transcript_singleton] at whole
  obtain ⟨before, segment, after, cause, single, _, _, given, failed, _, unread⟩ :=
    cutOff.exceeds (by rw [whole]; exact long)
  obtain ⟨rfl, rfl, rfl⟩ : before = [] ∧ segment = _ ∧ after = [] := by
    simpa [List.singleton_eq_append_iff] using single
  obtain rfl := Option.some.inj given
  have taken := cutOff.taken
  rw [whole, first] at taken
  exact ⟨failed, unread, taken⟩

end PolishCalc
