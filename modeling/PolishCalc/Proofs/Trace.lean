import PolishCalc.Proofs.Script
import PolishCalc.Proofs.Text.Line

/-!
# Traces of scripts

What a script writes, reads and ends with does not depend on the output, as long as the output takes
what is written. The trace of a script is this part of its runs.

* **traces** — `Script.trace`: the segments that are written, each with the files and the input at
  that point, and how the run ends. The trace of a script that goes on with another one is put
  together from theirs (`Script.trace_bind`), and a script that only asks about files adds nothing to
  it (`Script.Inquires.trace_eq`);
* **runs** — a run writes the segments of the trace one by one, until one of them is not taken
  (`Script.run_eq_play`);
* **outputs without a limit** — they take the whole transcript (`Script.run_unlimited`);
* **outputs with a limit** — if the transcript fits, the run ends as the trace does
  (`Trace.play_complete`); otherwise it ends with the error of the segment in which the limit is
  reached, in the state at the beginning of that segment (`Trace.play_exceeded`). A segment without
  an error ends the run without an answer; where there is none of them the segments are
  `Segment.Answered`.
-/

namespace PolishCalc

open Text (Bytes encode encode_append)

variable {ε ε' α β : Type}

/-- A text that is written in one piece: the error if there is no room for it, or none if the run
ends without an answer then, and the files and the input that is not yet read at that point. -/
structure Segment (ε : Type) where
  text : String
  onFailure : Option ε
  files : FileTree
  unread : Bytes

namespace Segment

/-- All that is written. -/
def transcript (segments : List (Segment ε)) : String :=
  String.join (segments.map text)

/-- The number of bytes that are written. -/
def size (segments : List (Segment ε)) : Nat :=
  (encode (transcript segments)).length

/-- Lines that are written at the same point. -/
def ofLines (onFailure : ε) (files : FileTree) (unread : Bytes) (lines : List String) :
    List (Segment ε) :=
  lines.map fun line => { text := line ++ "\n", onFailure := some onFailure, files, unread }

theorem ofLines_append (onFailure : ε) (files : FileTree) (unread : Bytes)
    (earlier later : List String) :
    ofLines onFailure files unread (earlier ++ later) =
      ofLines onFailure files unread earlier ++ ofLines onFailure files unread later := by
  rw [ofLines, List.map_append, ofLines, ofLines]

theorem of_mem_ofLines {onFailure : ε} {files : FileTree} {unread : Bytes} {lines : List String}
    {segment : Segment ε} (member : segment ∈ ofLines onFailure files unread lines) :
    segment.onFailure = some onFailure ∧ segment.files = files ∧ segment.unread = unread := by
  obtain ⟨line, _, rfl⟩ := List.mem_map.mp member
  exact ⟨rfl, rfl, rfl⟩

/-- The segment with its error changed. -/
def mapError (f : ε → ε') (segment : Segment ε) : Segment ε' :=
  { segment with onFailure := segment.onFailure.map f }

/-- Wherever the output takes no more, the run ends with an error. -/
def Answered (segments : List (Segment ε)) : Prop :=
  ∀ segment ∈ segments, ∃ error, segment.onFailure = some error

theorem answered_nil : Answered ([] : List (Segment ε)) := fun _ member => nomatch member

theorem answered_ofLines (onFailure : ε) (files : FileTree) (unread : Bytes)
    (lines : List String) : Answered (ofLines onFailure files unread lines) :=
  fun _ member => ⟨onFailure, (of_mem_ofLines member).1⟩

theorem Answered.mapError {segments : List (Segment ε)} (answered : Answered segments)
    (f : ε → ε') : Answered (segments.map (Segment.mapError f)) := by
  intro segment member
  obtain ⟨earlier, before, rfl⟩ := List.mem_map.mp member
  obtain ⟨error, given⟩ := answered earlier before
  exact ⟨f error, by rw [Segment.mapError, given, Option.map_some]⟩

theorem transcript_nil : transcript ([] : List (Segment ε)) = "" := rfl

theorem transcript_cons (segment : Segment ε) (later : List (Segment ε)) :
    transcript (segment :: later) = segment.text ++ transcript later := by
  rw [transcript, List.map_cons, String.join_cons, transcript]

theorem transcript_singleton (segment : Segment ε) : transcript [segment] = segment.text := by
  rw [transcript_cons, transcript_nil, String.append_empty]

theorem transcript_append (earlier later : List (Segment ε)) :
    transcript (earlier ++ later) = transcript earlier ++ transcript later := by
  rw [transcript, List.map_append, String.join_append, transcript, transcript]

theorem size_cons (segment : Segment ε) (later : List (Segment ε)) :
    size (segment :: later) = (encode segment.text).length + size later := by
  rw [size, transcript_cons, encode_append, List.length_append, size]

end Segment

/-- A run without its output. -/
structure Trace (ε α : Type) where
  segments : List (Segment ε) := []
  outcome : Outcome ε α
  files : FileTree
  unread : Bytes

namespace Trace

/-- The trace after other segments. -/
def after (earlier : List (Segment ε)) (trace : Trace ε α) : Trace ε α :=
  { trace with segments := earlier ++ trace.segments }

/-- The trace that goes on with another one where it is done. -/
def andThen (trace : Trace ε α) (next : α → FileTree → Bytes → Trace ε β) : Trace ε β :=
  match trace.outcome with
  | .done value =>
    let later := next value trace.files trace.unread
    { later with segments := trace.segments ++ later.segments }
  | .failed error => { trace with outcome := .failed error }
  | .aborted => { trace with outcome := .aborted }

/-- The trace with its errors changed. -/
def mapError (f : ε → ε') (trace : Trace ε α) : Trace ε' α where
  segments := trace.segments.map (Segment.mapError f)
  outcome := trace.outcome.mapError f
  files := trace.files
  unread := trace.unread

/-- Writes segments to an output, until one of them is not taken in full. -/
def play : List (Segment ε) → Outcome ε α × Machine → Outcome ε α × Machine
  | [], ending => ending
  | segment :: later, (outcome, machine) =>
    let (output, complete) := machine.output.write (encode segment.text)
    if complete then
      play later (outcome, { machine with output })
    else
      (.untaken segment.onFailure, { files := segment.files, input := segment.unread, output })

theorem after_after (first second : List (Segment ε)) (trace : Trace ε α) :
    (trace.after second).after first = trace.after (first ++ second) := by
  rw [after, after, after, List.append_assoc]

theorem andThen_after (earlier : List (Segment ε)) (trace : Trace ε α)
    (next : α → FileTree → Bytes → Trace ε β) :
    (trace.after earlier).andThen next = (trace.andThen next).after earlier := by
  obtain ⟨segments, outcome, files, unread⟩ := trace
  cases outcome with
  | done value => simp only [andThen, after, List.append_assoc]
  | failed error => rfl
  | aborted => rfl

end Trace

namespace Script

/-- Runs a script and notes what it writes, as if everything were taken. -/
def trace : Script ε α → FileTree → Bytes → Trace ε α
  | done value, files, unread => { outcome := .done value, files, unread }
  | fail error, files, unread => { outcome := .failed error, files, unread }
  | abort, files, unread => { outcome := .aborted, files, unread }
  | write text onFailure rest, files, unread =>
    (rest.trace files unread).after [{ text, onFailure, files, unread }]
  | readLine onFailure rest, files, input =>
    let (line, unread) := Text.splitLine input
    match Text.decode? line with
    | some text => (rest text).trace files unread
    | none => { outcome := .failed onFailure, files, unread }
  | hasPath path rest, files, unread => (rest (files.hasPath path)).trace files unread
  | readFile path rest, files, unread => (rest (files.readText path)).trace files unread
  | makeDirectories path rest, files, unread =>
    let (files, made) := files.makeDirectories path
    (rest made).trace files unread
  | writeFile path text rest, files, unread =>
    match files.writeFile? path (encode text) with
    | some files => (rest true).trace files unread
    | none => (rest false).trace files unread

/-! ## Putting traces together -/

theorem trace_bind (script : Script ε α) (next : α → Script ε β) (files : FileTree)
    (unread : Bytes) :
    (script.bind next).trace files unread =
      (script.trace files unread).andThen fun value => (next value).trace := by
  induction script generalizing files unread with
  | done value => rfl
  | fail error => rfl
  | abort => rfl
  | write text onFailure rest ih => rw [bind, trace, ih, trace, Trace.andThen_after]
  | readLine onFailure rest ih =>
      simp only [bind, trace]
      split
      · exact ih _ _ _
      · rfl
  | hasPath path rest ih => exact ih _ _ _
  | readFile path rest ih => exact ih _ _ _
  | makeDirectories path rest ih => exact ih _ _ _
  | writeFile path text rest ih =>
      simp only [bind, trace]
      split
      · exact ih _ _ _
      · exact ih _ _ _

theorem trace_mapError (f : ε → ε') (script : Script ε α) (files : FileTree) (unread : Bytes) :
    (script.mapError f).trace files unread = (script.trace files unread).mapError f := by
  induction script generalizing files unread with
  | done value => rfl
  | fail error => rfl
  | abort => rfl
  | write text onFailure rest ih => rw [mapError, trace, ih, trace]; rfl
  | readLine onFailure rest ih =>
      simp only [mapError, trace]
      split
      · exact ih _ _ _
      · rfl
  | hasPath path rest ih => exact ih _ _ _
  | readFile path rest ih => exact ih _ _ _
  | makeDirectories path rest ih => exact ih _ _ _
  | writeFile path text rest ih =>
      simp only [mapError, trace]
      split
      · exact ih _ _ _
      · exact ih _ _ _

/-! ## Runs -/

/-- A run writes the segments of the trace. -/
theorem run_eq_play (script : Script ε α) (machine : Machine) :
    script.run machine =
      let trace := script.trace machine.files machine.input
      Trace.play trace.segments
        (trace.outcome,
          { files := trace.files, input := trace.unread, output := machine.output }) := by
  induction script generalizing machine with
  | done value => rfl
  | fail error => rfl
  | abort => rfl
  | write text onFailure rest ih =>
      simp only [run, trace, Trace.after, List.singleton_append, Trace.play]
      split
      · exact ih _
      · rfl
  | readLine onFailure rest ih =>
      simp only [run, trace]
      cases Text.decode? (Text.splitLine machine.input).1 with
      | some text => exact ih _ _
      | none => rfl
  | hasPath path rest ih => exact ih _ _
  | readFile path rest ih => exact ih _ _
  | makeDirectories path rest ih => exact ih _ _
  | writeFile path text rest ih =>
      simp only [run, trace]
      cases machine.files.writeFile? path (encode text) with
      | some files => exact ih _ _
      | none => exact ih _ _

/-- A script that only asks about files writes nothing and leaves the machine as it is. -/
theorem Inquires.trace_eq {returns : α → Prop} {script : Script ε α}
    (asks : script.Inquires returns) (files : FileTree) (unread : Bytes) :
    script.trace files unread =
      { outcome := (script.run { files, input := unread }).1, files, unread } := by
  induction script with
  | done value => rfl
  | fail error => rfl
  | abort => rfl
  | hasPath path rest ih => exact ih _ (asks _)
  | readFile path rest ih => exact ih _ (asks _)
  | write text onFailure rest => exact asks.elim
  | readLine onFailure rest => exact asks.elim
  | makeDirectories path rest => exact asks.elim
  | writeFile path text rest => exact asks.elim

end Script

/-! ## Outputs -/

/-- A sink that could not take a text in full takes nothing after it. -/
theorem Sink.write_of_incomplete {sink : Sink} {first : Bytes}
    (incomplete : (sink.write first).2 = false) (second : Bytes) :
    (sink.write (first ++ second)).1 = (sink.write first).1 := by
  obtain ⟨room, written⟩ := sink
  cases room with
  | none => cases incomplete
  | some room =>
      have short : room < first.length := by simpa [write] using incomplete
      have full : room - (first.length + second.length) = room - first.length := by omega
      have nothing : room - first.length = 0 := by omega
      simp [write, List.take_append, full, nothing]

namespace Trace

/-- The output of a run has what there is room for of the whole transcript. -/
theorem output_play (segments : List (Segment ε)) (outcome : Outcome ε α) (machine : Machine) :
    (play segments (outcome, machine)).2.output =
      (machine.output.write (encode (Segment.transcript segments))).1 := by
  induction segments generalizing machine with
  | nil =>
      obtain ⟨files, unread, room, written⟩ := machine
      cases room <;> simp [play, Segment.transcript, Sink.write, encode]
  | cons segment later ih =>
      rw [Segment.transcript_cons, encode_append, ← Sink.write_write]
      simp only [play]
      split
      · exact ih _
      · next refused =>
        rw [Sink.write_write, Sink.write_of_incomplete (by simpa using refused)]

/-- A run whose whole transcript is taken ends as its trace does. -/
theorem play_complete {segments : List (Segment ε)} {machine : Machine}
    (complete : (machine.output.write (encode (Segment.transcript segments))).2 = true)
    (outcome : Outcome ε α) :
    play segments (outcome, machine) =
      (outcome, { machine with
        output := (machine.output.write (encode (Segment.transcript segments))).1 }) := by
  rw [← output_play segments outcome machine]
  induction segments generalizing machine with
  | nil => rfl
  | cons segment later ih =>
      rw [Segment.transcript_cons, encode_append, Sink.write_append_complete,
        Bool.and_eq_true] at complete
      obtain ⟨first, rest⟩ := complete
      simp only [play, first, if_true]
      exact ih rest

/-- A run ends in the segment in which the room is used up, as if nothing came before it. -/
theorem play_exceeded {before after : List (Segment ε)} {segment : Segment ε} {machine : Machine}
    {room : Nat} (limited : machine.output.room = some room)
    (reached : Segment.size before ≤ room)
    (exceeded : room < Segment.size before + (encode segment.text).length) (outcome : Outcome ε α) :
    play (before ++ segment :: after) (outcome, machine) =
      (.untaken segment.onFailure,
        { files := segment.files
          input := segment.unread
          output := (play (before ++ segment :: after) (outcome, machine)).2.output }) := by
  induction before generalizing machine room with
  | nil =>
      have refused : (machine.output.write (encode segment.text)).2 = false := by
        have short : room < (encode segment.text).length := by
          simpa [Segment.size, Segment.transcript, encode] using exceeded
        simp [Sink.write, limited, short]
      simp only [List.nil_append, play, refused, Bool.false_eq_true, if_false]
  | cons earlier before ih =>
      rw [Segment.size_cons] at reached exceeded
      have fits : (encode earlier.text).length ≤ room := by omega
      have taken : (machine.output.write (encode earlier.text)).2 = true := by
        simp [Sink.write, limited, fits]
      have left : (machine.output.write (encode earlier.text)).1.room =
          some (room - (encode earlier.text).length) := by
        simp [Sink.write, limited]
      simp only [List.cons_append, play, taken, if_true]
      exact ih left (by omega) (by omega)

end Trace

/-- A number below the size of segments lies in one of them. -/
theorem Segment.exists_at {segments : List (Segment ε)} {n : Nat} (below : n < size segments) :
    ∃ before segment after, segments = before ++ segment :: after ∧ size before ≤ n ∧
      n < size before + (encode segment.text).length := by
  induction segments generalizing n with
  | nil => exact absurd below (Nat.not_lt_zero n)
  | cons segment later ih =>
      rw [size_cons] at below
      by_cases here : n < (encode segment.text).length
      · exact ⟨[], segment, later, rfl, Nat.zero_le n, by omega⟩
      · obtain ⟨before, found, after, rfl, reached, exceeded⟩ :=
          ih (n := n - (encode segment.text).length) (by omega)
        refine ⟨segment :: before, found, after, rfl, ?_, ?_⟩
        · rw [size_cons]
          omega
        · rw [size_cons]
          omega

namespace Script

/-- On an output without a limit a script runs as its trace says. -/
theorem run_unlimited {machine : Machine} (unlimited : machine.output.room = none)
    (script : Script ε α) :
    script.run machine =
      let trace := script.trace machine.files machine.input
      (trace.outcome,
        { machine.afterWriting (Segment.transcript trace.segments) with
          files := trace.files, input := trace.unread }) := by
  have complete : ∀ bytes, (machine.output.write bytes) =
      ({ machine.output with written := machine.output.written ++ bytes }, true) := by
    intro bytes
    simp only [Sink.write, unlimited]
  rw [run_eq_play]
  simp only
  rw [Trace.play_complete (by rw [complete])]
  simp only [complete, Machine.afterWriting]

end Script

end PolishCalc
