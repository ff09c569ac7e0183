import PolishCalc.Proofs.Toml.Scalar
import PolishCalc.Proofs.Toml.StringForm
import PolishCalc.Toml.Reader

/-!
# Documents of plain lines

A document that gives keys their values line by line, without tables, is read as the table of those
keys and values.

* **values** — a string in the form that was chosen for it, and a bare word, are read up to the end
  of their line (`value_writeString`, `value_word`);
* **one line** — `Line` pairs what is written with what it stands for; a line at the start of a text
  is read as its own statement, and what comes after it does not matter (`statements_line`);
* **documents** — lines with different names, and empty lines after them, are read as the entries of
  the lines (`read?_lines`).
-/

namespace PolishCalc.Toml

/-! ## Words -/

theorem takeWhile_word {isPart : Char → Bool} {word : List Char}
    (inside : ∀ c ∈ word, isPart c = true) {stop : Char} (boundary : isPart stop = false)
    (rest : List Char) : (word ++ stop :: rest).takeWhile isPart = word := by
  rw [List.takeWhile_append_of_pos inside, List.takeWhile_cons_of_neg (by simp [boundary]),
    List.append_nil]

theorem dropWhile_word {isPart : Char → Bool} {word : List Char}
    (inside : ∀ c ∈ word, isPart c = true) {stop : Char} (boundary : isPart stop = false)
    (rest : List Char) : (word ++ stop :: rest).dropWhile isPart = stop :: rest := by
  rw [List.dropWhile_append_of_pos inside, List.dropWhile_cons_of_neg (by simp [boundary])]

theorem skipBlanks_cons {c : Char} (visible : isBlank c = false) (rest : List Char) :
    skipBlanks (c :: rest) = c :: rest := by
  rw [skipBlanks, List.dropWhile_cons_of_neg (by simp [visible])]

theorem skipBlanks_space (rest : List Char) : skipBlanks (' ' :: rest) = skipBlanks rest := rfl

theorem ne_of_class {isPart : Char → Bool} {c d : Char} (inside : isPart c = true)
    (outside : isPart d = false) : c ≠ d := by
  rintro rfl
  rw [inside] at outside
  cases outside

/-! ## Values -/

/-- The value in the rest of a line, after the equals sign. -/
def lineValue (text : List Char) : Option (Node × List Char) :=
  value maxNesting (skipBlanks text)

theorem value_atom {c : Char} (noArray : c ≠ '[') (noTable : c ≠ '\x7b') (depth : Nat)
    (rest : List Char) : value depth (c :: rest) = value.atom (c :: rest) := by
  cases depth with
  | zero => rw [value]
  | succ depth =>
      rw [value.eq_def]
      split <;> simp_all

theorem StringForm.head?_write (text : List Char) (form : StringForm) :
    ∃ quote later, form.write text = quote :: later ∧ (quote = '"' ∨ quote = '\'') := by
  cases form with
  | basic => exact ⟨'"', _, rfl, .inl rfl⟩
  | literal => exact ⟨'\'', _, rfl, .inr rfl⟩
  | multilineBasic => exact ⟨'"', _, rfl, .inl rfl⟩
  | multilineLiteral => exact ⟨'\'', _, rfl, .inr rfl⟩

/-- A written string is read up to the end of its line. -/
theorem lineValue_writeString (text : String) (rest : List Char) :
    lineValue (' ' :: ((writeString text).toList ++ '\n' :: rest)) =
      some (.scalar (.string text), '\n' :: rest) := by
  have read : string ((writeString text).toList ++ '\n' :: rest) =
      some (text.toList, '\n' :: rest) := string_writeString text (by simp) (by simp)
  have stringValue : value.stringValue ((writeString text).toList ++ '\n' :: rest) =
      some (.scalar (.string text), '\n' :: rest) := by
    rw [value.stringValue, read]
    simp
  obtain ⟨quote, later, written, quotes⟩ :=
    StringForm.head?_write text.toList (StringForm.of text.toList)
  have opened : (writeString text).toList = quote :: later := by
    rw [writeString, String.toList_ofList, written]
  rw [opened, List.cons_append] at stringValue ⊢
  rcases quotes with rfl | rfl
  · rw [lineValue, skipBlanks_space, skipBlanks_cons rfl, value_atom (by decide) (by decide)]
    exact stringValue
  · rw [lineValue, skipBlanks_space, skipBlanks_cons rfl, value_atom (by decide) (by decide)]
    exact stringValue

theorem bareValue_word {word : List Char} (bare : ∀ c ∈ word, isBare c = true)
    (rest : List Char) :
    bareValue (word ++ '\n' :: rest) =
      (Scalar.ofBare? word).map fun scalar => (scalar, '\n' :: rest) := by
  have boundary : isBare '\n' = false := by decide
  rw [bareValue, takeWhile_word bare boundary, dropWhile_word bare boundary]
  cases Scalar.ofBare? word <;> rfl

/-- A bare word is read up to the end of its line. -/
theorem lineValue_word {word : List Char} (bare : ∀ c ∈ word, isBare c = true)
    {scalar : Scalar} (stands : Scalar.ofBare? word = some scalar) (rest : List Char) :
    lineValue (' ' :: (word ++ '\n' :: rest)) = some (.scalar scalar, '\n' :: rest) := by
  have read := bareValue_word bare rest
  cases word with
  | nil => cases stands
  | cons c word =>
      have first : isBare c = true := bare c List.mem_cons_self
      have visible : isBlank c = false := by
        simp [isBlank, ne_of_class first (by decide : isBare ' ' = false),
          ne_of_class first (by decide : isBare '\t' = false)]
      rw [List.cons_append] at read ⊢
      rw [lineValue, skipBlanks_space, skipBlanks_cons visible,
        value_atom (ne_of_class first (by decide)) (ne_of_class first (by decide))]
      have noQuote : c ≠ '"' := ne_of_class first (by decide)
      have noApostrophe : c ≠ '\'' := ne_of_class first (by decide)
      rw [value.atom.eq_def]
      split
      · next quote => exact absurd (List.cons.inj quote).1 noQuote
      · next quote => exact absurd (List.cons.inj quote).1 noApostrophe
      · rw [read, stands]
        rfl

/-! ## One line -/

/-- A line that gives a plain key a value: what is written, and what it stands for. -/
structure Line where
  name : String
  written : List Char
  node : Node
  name_ne : name.toList ≠ []
  /-- The key needs no quotation marks. -/
  name_plain : ∀ c ∈ name.toList, isKeyChar c = true
  /-- The value is read up to the end of the line, whatever comes after it. -/
  reads : ∀ rest, lineValue (' ' :: (written ++ '\n' :: rest)) = some (node, '\n' :: rest)

namespace Line

/-- The characters of a line, with its end. -/
def text (line : Line) : List Char :=
  line.name.toList ++ ' ' :: '=' :: ' ' :: (line.written ++ ['\n'])

/-- What a line does to a document. -/
def statement (line : Line) : Statement :=
  .define { path := [], last := line.name } line.node

/-- The entry that a line makes. -/
def entry (line : Line) : String × Node :=
  (line.name, line.node)

/-- A line starts with a character of its key. -/
theorem text_eq_cons (line : Line) :
    ∃ c later, isKeyChar c = true ∧ line.name.toList = c :: later ∧
      line.text = c :: (later ++ ' ' :: '=' :: ' ' :: (line.written ++ ['\n'])) := by
  obtain ⟨c, later, name⟩ := List.exists_cons_of_ne_nil line.name_ne
  refine ⟨c, later, line.name_plain c (by rw [name]; exact List.mem_cons_self), name, ?_⟩
  rw [text, name, List.cons_append]

end Line

theorem isBlank_of_isKeyChar {c : Char} (part : isKeyChar c = true) : isBlank c = false := by
  simp [isBlank, ne_of_class part (by decide : isKeyChar ' ' = false),
    ne_of_class part (by decide : isKeyChar '\t' = false)]

theorem keyPart_plain {name : List Char} (nonempty : name ≠ [])
    (plain : ∀ c ∈ name, isKeyChar c = true) (rest : List Char) :
    keyPart (name ++ ' ' :: rest) = some (String.ofList name, ' ' :: rest) := by
  have boundary : isKeyChar ' ' = false := by decide
  have head := takeWhile_word plain boundary rest
  have tail := dropWhile_word plain boundary rest
  cases name with
  | nil => exact absurd rfl nonempty
  | cons c name =>
      have part := plain c List.mem_cons_self
      have noQuote : c ≠ '"' := ne_of_class part (by decide)
      have noApostrophe : c ≠ '\'' := ne_of_class part (by decide)
      rw [keyPart.eq_def]
      split
      · next quote => exact absurd (List.cons.inj quote).1 noQuote
      · next quote => exact absurd (List.cons.inj quote).1 noApostrophe
      · rw [head, tail]
        rfl

theorem keyParts_plain {name : List Char} (nonempty : name ≠ [])
    (plain : ∀ c ∈ name, isKeyChar c = true) (steps : Nat) (rest : List Char) :
    keyParts (steps + 1) (name ++ ' ' :: '=' :: rest) =
      some ([String.ofList name], '=' :: rest) := by
  have start : skipBlanks (name ++ ' ' :: '=' :: rest) = name ++ ' ' :: '=' :: rest := by
    obtain ⟨c, later, rfl⟩ := List.exists_cons_of_ne_nil nonempty
    exact skipBlanks_cons (isBlank_of_isKeyChar (plain c List.mem_cons_self)) _
  rw [keyParts, start, keyPart_plain nonempty plain]
  rfl

theorem key_line (line : Line) (rest : List Char) :
    key (line.name.toList ++ ' ' :: '=' :: rest) =
      some ({ path := [], last := line.name }, '=' :: rest) := by
  have parts := keyParts_plain line.name_ne line.name_plain 78 rest
  rw [String.ofList_toList] at parts
  rw [key, maxKeyParts, parts]
  rfl

theorem statement_line (line : Line) (rest : List Char) :
    statement (line.text ++ rest) = some (line.statement, '\n' :: rest) := by
  have written : line.text ++ rest =
      line.name.toList ++ ' ' :: '=' :: (' ' :: (line.written ++ '\n' :: rest)) := by
    simp [Line.text]
  have read : pair (value maxNesting) (line.text ++ rest) =
      some (({ path := [], last := line.name }, line.node), '\n' :: rest) := by
    have stands := line.reads rest
    rw [lineValue] at stands
    rw [written, pair, key_line]
    simp [stands]
  obtain ⟨c, later, part, _, start⟩ := line.text_eq_cons
  have noHeader : c ≠ '[' := ne_of_class part (by decide)
  rw [statement.eq_def]
  split
  · next header =>
    rw [start] at header
    exact absurd (List.cons.inj header).1 noHeader
  · next header =>
    rw [start] at header
    exact absurd (List.cons.inj header).1 noHeader
  · rw [read]
    rfl

/-- A line with a key is neither empty nor a comment. -/
theorem finishLine_line (line : Line) (rest : List Char) :
    finishLine (line.text ++ rest) = none := by
  obtain ⟨c, later, part, _, start⟩ := line.text_eq_cons
  have noComment : c ≠ '#' := ne_of_class part (by decide)
  rw [start, List.cons_append, finishLine, skipBlanks_cons (isBlank_of_isKeyChar part)]
  split
  · next comment => exact absurd (List.cons.inj comment).1 noComment
  · exact lineEnd?_eq_none (ne_of_class part (by decide)) (ne_of_class part (by decide)) _

/-- A line at the start of a text is its first statement. -/
theorem statements_line (line : Line) (steps : Nat) (rest : List Char) :
    statements (steps + 1) (line.text ++ rest) =
      (statements steps rest).map (line.statement :: ·) := by
  have start : skipBlanks (line.text ++ rest) = line.text ++ rest := by
    obtain ⟨c, later, part, _, start⟩ := line.text_eq_cons
    rw [start]
    exact skipBlanks_cons (isBlank_of_isKeyChar part) _
  have nonempty : line.text ++ rest ≠ [] := by
    obtain ⟨c, later, _, _, start⟩ := line.text_eq_cons
    simp [start]
  have ended : finishLine ('\n' :: rest) = some rest := rfl
  rw [statements, start]
  split
  · next empty => exact absurd empty nonempty
  · rw [finishLine_line]
    simp only [statement_line, Option.bind_eq_bind, Option.bind_some, ended]
    cases statements steps rest <;> rfl

/-! ## Documents -/

/-- Lines, and empty lines after them, are read line by line. -/
theorem statements_lines {lines : List Line} {blank steps : Nat}
    (enough : lines.length + blank < steps) :
    statements steps (lines.flatMap Line.text ++ List.replicate blank '\n') =
      some (lines.map Line.statement) := by
  induction lines generalizing steps with
  | nil =>
      induction blank generalizing steps with
      | zero =>
          obtain ⟨steps, rfl⟩ : ∃ n, steps = n + 1 := ⟨steps - 1, by omega⟩
          rfl
      | succ blank ih =>
          obtain ⟨steps, rfl⟩ : ∃ n, steps = n + 1 := ⟨steps - 1, by omega⟩
          exact ih (by omega)
  | cons line lines ih =>
      rw [List.length_cons] at enough
      obtain ⟨steps, rfl⟩ : ∃ n, steps = n + 1 := ⟨steps - 1, by omega⟩
      rw [List.flatMap_cons, List.append_assoc, statements_line, ih (by omega)]
      rfl

theorem find?_append (before after : Entries) (key : String) :
    Entries.find? (before ++ after) key = (before.find? key).or (after.find? key) :=
  List.lookup_append

theorem find?_singleton_of_ne {name key : String} (other : key ≠ name) (node : Node) :
    Entries.find? [(name, node)] key = none := by
  rw [Entries.find?, List.lookup_cons, beq_eq_false_iff_ne.mpr other]
  rfl

/-- A new key at the top of a document gets its value after the others. -/
theorem step_line {line : Line} {entries : Entries} (fresh : entries.find? line.name = none) :
    Document.step { entries } line.statement = some { entries := entries ++ [line.entry] } := by
  simp [Document.step, Line.statement, Line.entry, Entries.change, Entries.define, fresh]

/-- Lines with different keys make up the table of their entries. -/
theorem ofStatements?_lines {lines : List Line} (distinct : (lines.map Line.name).Nodup) :
    Entries.ofStatements? (lines.map Line.statement) = some (lines.map Line.entry) := by
  suffices general : ∀ before : Entries, (∀ line ∈ lines, before.find? line.name = none) →
      (lines.map Line.statement).foldlM Document.step { entries := before } =
        some { entries := before ++ lines.map Line.entry } by
    rw [Entries.ofStatements?, general [] fun _ _ => rfl]
    rfl
  induction lines with
  | nil =>
      intro before _
      simp
  | cons line lines ih =>
      intro before fresh
      obtain ⟨freshLine, freshLater⟩ := List.forall_mem_cons.mp fresh
      rw [List.map_cons, List.nodup_cons] at distinct
      have later : ∀ other ∈ lines, Entries.find? (before ++ [line.entry]) other.name = none := by
        intro other member
        have differs : other.name ≠ line.name := by
          intro same
          exact distinct.1 (same ▸ List.mem_map_of_mem member)
        rw [find?_append, freshLater other member, Line.entry, find?_singleton_of_ne differs]
        rfl
      rw [List.map_cons, List.foldlM_cons, step_line freshLine]
      show List.foldlM Document.step { entries := before ++ [line.entry] } _ = _
      rw [ih distinct.2 _ later, List.map_cons, List.append_assoc, List.singleton_append]

theorem length_le_flatMap (lines : List Line) :
    lines.length ≤ (lines.flatMap Line.text).length := by
  induction lines with
  | nil => exact Nat.le_refl 0
  | cons line lines ih =>
      obtain ⟨c, later, _, _, start⟩ := line.text_eq_cons
      rw [List.flatMap_cons, List.length_append, List.length_cons, start, List.length_cons]
      omega

/-- A document of plain lines with different keys, and of empty lines after them, is the table of
the entries of the lines. -/
theorem read?_lines {lines : List Line} (distinct : (lines.map Line.name).Nodup) (blank : Nat) :
    read? (String.ofList (lines.flatMap Line.text ++ List.replicate blank '\n')) =
      some (lines.map Line.entry) := by
  have noMark : dropByteOrderMark (lines.flatMap Line.text ++ List.replicate blank '\n') =
      lines.flatMap Line.text ++ List.replicate blank '\n' := by
    cases lines with
    | nil => cases blank <;> rfl
    | cons line lines =>
        obtain ⟨c, later, part, _, start⟩ := line.text_eq_cons
        have noMark : c ≠ '\uFEFF' := ne_of_class part (by decide)
        rw [List.flatMap_cons, start, dropByteOrderMark.eq_def]
        split
        · next mark => exact absurd (List.cons.inj mark).1 noMark
        · rfl
  have enough : lines.length + blank <
      (lines.flatMap Line.text ++ List.replicate blank '\n').length + 1 := by
    have length := length_le_flatMap lines
    rw [List.length_append, List.length_replicate]
    omega
  rw [read?, String.toList_ofList, noMark, statements_lines enough]
  exact ofStatements?_lines distinct

end PolishCalc.Toml
