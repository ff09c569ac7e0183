/-!
# Bytes of texts

Files, input and output are bytes; a text is its UTF-8 encoding. Bytes that are no encoding have no
text. A line of bytes goes up to and including its line feed.
-/

namespace PolishCalc.Text

/-- A sequence of bytes. -/
abbrev Bytes := List UInt8

/-- The UTF-8 encoding of a text. -/
def encode (text : String) : Bytes :=
  text.toUTF8.data.toList

/-- The text that bytes encode. -/
def decode? (bytes : Bytes) : Option String :=
  String.fromUTF8? ⟨bytes.toArray⟩

/-- The line feed. -/
def lineFeed : UInt8 := 10

/-- The first line with its line feed, and the bytes after it. The last line may have none. -/
def splitLine : Bytes → Bytes × Bytes
  | [] => ([], [])
  | b :: rest =>
    if b = lineFeed then
      ([b], rest)
    else
      let (line, unread) := splitLine rest
      (b :: line, unread)

theorem splitLine_append (bytes : Bytes) :
    (splitLine bytes).1 ++ (splitLine bytes).2 = bytes := by
  induction bytes with
  | nil => rfl
  | cons b rest ih =>
    unfold splitLine
    split
    · rfl
    · simpa using ih

theorem decode?_encode (text : String) : decode? (encode text) = some text := by
  unfold decode? encode
  rw [Array.toArray_toList]
  show String.fromUTF8? text.toUTF8 = some text
  unfold String.fromUTF8?
  have valid : text.toUTF8.IsValidUTF8 := text.isValidUTF8
  rw [dif_pos valid]
  rfl

/-- Bytes that have a text are the encoding of that text. -/
theorem encode_of_decode? {bytes : Bytes} {text : String} (decoded : decode? bytes = some text) :
    encode text = bytes := by
  unfold decode? String.fromUTF8? at decoded
  split at decoded
  · obtain rfl := Option.some.inj decoded
    exact List.toList_toArray
  · contradiction

end PolishCalc.Text
