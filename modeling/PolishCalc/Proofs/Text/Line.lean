import PolishCalc.Text.Blank
import PolishCalc.Text.Utf8

/-!
# Lines of bytes

* **lines** — `IsFirstLine line rest`: `line` is the first line of the bytes `line ++ rest`. All
  bytes have exactly one, and `splitLine` finds it (`splitLine_eq_iff`);
* **texts** — a text without a line feed has none among its bytes, so that with a line feed after it
  it is a line (`splitLine_encode`);
* **blanks** — blanks around a text are trimmed away with those of the text itself
  (`trim_padded`).
-/

namespace PolishCalc.Text

/-! ## Lines -/

/-- The first line of `line ++ rest`: it ends with its only line feed, or there is none and nothing
comes after it. -/
def IsFirstLine (line rest : Bytes) : Prop :=
  (∃ body, lineFeed ∉ body ∧ line = body ++ [lineFeed]) ∨ (lineFeed ∉ line ∧ rest = [])

/-- A line is still one when nothing follows it any more, and if something followed it, then also
when something else does. -/
theorem IsFirstLine.replace {line rest other : Bytes} (first : IsFirstLine line rest)
    (replaceable : rest ≠ [] ∨ other = []) : IsFirstLine line other := by
  rcases first with broken | ⟨unbroken, ends⟩
  · exact .inl broken
  · exact .inr ⟨unbroken, replaceable.resolve_left (absurd ends)⟩

theorem splitLine_append_lineFeed {body : Bytes} (unbroken : lineFeed ∉ body) (rest : Bytes) :
    splitLine (body ++ lineFeed :: rest) = (body ++ [lineFeed], rest) := by
  induction body with
  | nil => rfl
  | cons b body ih =>
      have other : b ≠ lineFeed := List.ne_of_not_mem_cons unbroken |>.symm
      rw [List.cons_append, splitLine, if_neg other, ih (List.not_mem_of_not_mem_cons unbroken)]
      rfl

theorem splitLine_of_unbroken {bytes : Bytes} (unbroken : lineFeed ∉ bytes) :
    splitLine bytes = (bytes, []) := by
  induction bytes with
  | nil => rfl
  | cons b bytes ih =>
      have other : b ≠ lineFeed := List.ne_of_not_mem_cons unbroken |>.symm
      rw [splitLine, if_neg other, ih (List.not_mem_of_not_mem_cons unbroken)]

theorem splitLine_of_isFirstLine {line rest : Bytes} (first : IsFirstLine line rest) :
    splitLine (line ++ rest) = (line, rest) := by
  rcases first with ⟨body, unbroken, rfl⟩ | ⟨unbroken, rfl⟩
  · rw [List.append_assoc]
    exact splitLine_append_lineFeed unbroken rest
  · rw [List.append_nil]
    exact splitLine_of_unbroken unbroken

theorem isFirstLine_splitLine (bytes : Bytes) :
    IsFirstLine (splitLine bytes).1 (splitLine bytes).2 := by
  by_cases broken : lineFeed ∈ bytes
  · obtain ⟨body, rest, rfl, unbroken⟩ := List.eq_append_cons_of_mem broken
    rw [splitLine_append_lineFeed unbroken rest]
    exact .inl ⟨body, unbroken, rfl⟩
  · rw [splitLine_of_unbroken broken]
    exact .inr ⟨broken, rfl⟩

/-- Bytes have exactly one first line. -/
theorem splitLine_eq_iff {bytes line rest : Bytes} :
    splitLine bytes = (line, rest) ↔ bytes = line ++ rest ∧ IsFirstLine line rest := by
  constructor
  · intro split
    have whole := splitLine_append bytes
    have first := isFirstLine_splitLine bytes
    rw [split] at whole first
    exact ⟨whole.symm, first⟩
  · rintro ⟨rfl, first⟩
    exact splitLine_of_isFirstLine first

/-- The bytes after a number of lines. -/
def dropLines : Nat → Bytes → Bytes
  | 0, bytes => bytes
  | n + 1, bytes => dropLines n (splitLine bytes).2

/-- The line after a number of lines. -/
def lineAt (n : Nat) (bytes : Bytes) : Bytes :=
  (splitLine (dropLines n bytes)).1

theorem dropLines_dropLines (m n : Nat) (bytes : Bytes) :
    dropLines n (dropLines m bytes) = dropLines (m + n) bytes := by
  induction m generalizing bytes with
  | zero => rw [dropLines, Nat.zero_add]
  | succ m ih => rw [dropLines, ih, Nat.succ_add, dropLines]

theorem lineAt_dropLines (m n : Nat) (bytes : Bytes) :
    lineAt n (dropLines m bytes) = lineAt (m + n) bytes := by
  rw [lineAt, dropLines_dropLines, lineAt]

/-! ## Texts -/

theorem encode_eq_flatMap (text : String) :
    encode text = text.toList.flatMap String.utf8EncodeChar := by
  show text.toByteArray.data.toList = _
  rw [← String.utf8Encode_toList, List.utf8Encode, List.toList_data_toByteArray]

theorem encode_append (first second : String) :
    encode (first ++ second) = encode first ++ encode second := by
  simp only [encode_eq_flatMap, String.toList_append, List.flatMap_append]

theorem lineFeed_ne_ofNat {n : Nat} (bound : n < 256) (other : n ≠ 10) :
    lineFeed ≠ UInt8.ofNat n := by
  intro same
  have value := congrArg UInt8.toNat same
  rw [UInt8.toNat_ofNat_of_lt' bound] at value
  exact other value.symm

theorem lineFeed_notMem_utf8EncodeChar {c : Char} (other : c ≠ '\n') :
    lineFeed ∉ String.utf8EncodeChar c := by
  have code : c.val.toNat ≠ 10 := by
    intro same
    exact other (Char.toNat_inj.mp same)
  simp only [String.utf8EncodeChar]
  -- of several bytes each one is at least 128
  split
  · simpa using lineFeed_ne_ofNat (by omega) code
  · split
    · simp only [List.mem_cons, List.not_mem_nil, or_false, not_or]
      exact ⟨lineFeed_ne_ofNat (by omega) (by omega), lineFeed_ne_ofNat (by omega) (by omega)⟩
    · split
      · simp only [List.mem_cons, List.not_mem_nil, or_false, not_or]
        exact ⟨lineFeed_ne_ofNat (by omega) (by omega), lineFeed_ne_ofNat (by omega) (by omega),
          lineFeed_ne_ofNat (by omega) (by omega)⟩
      · simp only [List.mem_cons, List.not_mem_nil, or_false, not_or]
        exact ⟨lineFeed_ne_ofNat (by omega) (by omega), lineFeed_ne_ofNat (by omega) (by omega),
          lineFeed_ne_ofNat (by omega) (by omega), lineFeed_ne_ofNat (by omega) (by omega)⟩

theorem lineFeed_notMem_encode {text : String} (oneLine : '\n' ∉ text.toList) :
    lineFeed ∉ encode text := by
  rw [encode_eq_flatMap, List.mem_flatMap]
  rintro ⟨c, member, byte⟩
  have other : c ≠ '\n' := by
    rintro rfl
    exact oneLine member
  exact lineFeed_notMem_utf8EncodeChar other byte

/-- A text with a line feed after it is a line. -/
theorem splitLine_encode {text : String} (oneLine : '\n' ∉ text.toList) (rest : Bytes) :
    splitLine (encode (text ++ "\n") ++ rest) = (encode (text ++ "\n"), rest) := by
  refine splitLine_of_isFirstLine (.inl ⟨encode text, lineFeed_notMem_encode oneLine, ?_⟩)
  rw [encode_append]
  rfl

/-! ## Blanks -/

theorem trimEnd_append {after : List Char} (blank : ∀ c ∈ after, isBlank c = true)
    (text : List Char) : trimEnd (text ++ after) = trimEnd text := by
  have reversed : ∀ c ∈ after.reverse, isBlank c = true := by simpa using blank
  rw [trimEnd, List.reverse_append, List.dropWhile_append_of_pos reversed, trimEnd]

/-- Blanks around a text are trimmed away. -/
theorem trim_padded {before after : String} (blankBefore : ∀ c ∈ before.toList, isBlank c = true)
    (blankAfter : ∀ c ∈ after.toList, isBlank c = true) (text : String) :
    trim (before ++ text ++ after) = trim text := by
  simp only [trim, trimChars, String.toList_append, List.append_assoc,
    List.dropWhile_append_of_pos blankBefore]
  rw [List.dropWhile_append]
  split
  · next empty =>
    -- nothing is left of the text, nor of the blanks after it
    have nothing : after.toList.dropWhile isBlank = [] := by
      rw [← List.append_nil after.toList, List.dropWhile_append_of_pos blankAfter]
      rfl
    rw [nothing, List.isEmpty_iff.mp empty]
  · rw [trimEnd_append blankAfter]

end PolishCalc.Text
