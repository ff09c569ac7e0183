import PolishCalc.Text.Utf8

/-!
# Sinks

A sink takes bytes, all of them or a limited number. A write that does not fit takes what fits and
fails; so a sink always holds the first bytes of all that was to be written.
-/

namespace PolishCalc

open Text (Bytes)

/-- Bytes that were written, and how many more fit; `none` for a sink without a limit. -/
structure Sink where
  room : Option Nat := none
  written : Bytes := []
  deriving DecidableEq

namespace Sink

/-- A sink that takes `limit` bytes. -/
def limited (limit : Option Nat) : Sink := { room := limit }

/-- Writes bytes, and says whether all of them were taken. -/
def write (sink : Sink) (bytes : Bytes) : Sink × Bool :=
  match sink.room with
  | none => ({ sink with written := sink.written ++ bytes }, true)
  | some room =>
    ({ room := some (room - bytes.length), written := sink.written ++ bytes.take room },
      bytes.length ≤ room)

/-- A text that is written in two parts leaves the same as when it is written at once. -/
theorem write_write (sink : Sink) (first second : Bytes) :
    ((sink.write first).1.write second).1 = (sink.write (first ++ second)).1 := by
  obtain ⟨room, written⟩ := sink
  cases room with
  | none => simp [write]
  | some room => simp [write, List.take_append, Nat.sub_sub]

/-- Both parts are taken exactly if the whole is. -/
theorem write_append_complete (sink : Sink) (first second : Bytes) :
    (sink.write (first ++ second)).2 =
      ((sink.write first).2 && ((sink.write first).1.write second).2) := by
  obtain ⟨room, written⟩ := sink
  cases room with
  | none => simp [write]
  | some room =>
    simp only [write, List.length_append, ← Bool.decide_and]
    apply decide_eq_decide.mpr
    omega

end Sink

end PolishCalc
