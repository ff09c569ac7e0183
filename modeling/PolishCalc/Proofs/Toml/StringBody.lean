import PolishCalc.Toml.StringForm

/-!
# The inside of strings

What is written between the delimiters of a string is read as the text it was written for.

* **characters** — a character is written as itself, as an escape of one letter, or by its code
  point (`StringForm.escapeControl_cases`), and is read back from each of these;
* **one line** — basic strings take every text (`basicBody_escape`), literal ones those without
  controls, line feeds and apostrophes (`literalBody_text`);
* **several lines** — up to two quotation marks may stand together in a text, also directly before
  the closing ones. What is read after `run` of them depends on `run`, so the invariant of both
  readers carries them along (`multilineBasicBody_escape`, `multilineLiteralBody_text`).
-/

namespace PolishCalc.Toml

/-! ## Characters -/

/-- Puts characters before a string that was read. -/
def prependAll (characters : List Char) :
    Option (List Char × List Char) → Option (List Char × List Char) :=
  Option.map fun (value, rest) => (characters ++ value, rest)

theorem prependAll_cons (c : Char) (characters : List Char)
    (read : Option (List Char × List Char)) :
    prependAll (c :: characters) read = prepend c (prependAll characters read) := by
  cases read <;> rfl

/-- A character that is no control stands for itself, unless it ends the line. -/
theorem isVisible_of_not_isControl {c : Char} (plain : isControl c = false) (inLine : c ≠ '\n') :
    isVisible c = true := by
  simp only [isControl, isVisible, Bool.or_eq_false_iff, Bool.and_eq_false_iff, Bool.or_eq_true,
    Bool.and_eq_true, beq_eq_false_iff_ne, bne_iff_ne, decide_eq_false_iff_not, decide_eq_true_eq,
    beq_iff_eq, bne_eq_false_iff_eq] at *
  obtain ⟨(high | tab) | line, delete⟩ := plain
  · exact .inr ⟨by omega, delete⟩
  · exact .inl tab
  · exact absurd line inLine

theorem isControl_return : isControl '\r' = true := rfl

theorem hexDigit?_hexDigit (n : Nat) (digit : n < 16) :
    hexDigit? (StringForm.hexDigit n) = some n := by
  have all : ∀ n < 16, hexDigit? (StringForm.hexDigit n) = some n := by decide
  exact all n digit

/-- The letters of code points are no escapes of their own. -/
theorem ne_of_simpleEscape? {letter c : Char} (escape : simpleEscape? letter = some c) :
    letter ≠ 'u' ∧ letter ≠ 'U' := by
  constructor
  · rintro rfl
    cases escape
  · rintro rfl
    cases escape

/-- The two hexadecimal digits of a control are read as that control. -/
theorem codePoint?_hexDigits {c : Char} (small : c.toNat < 256) :
    codePoint? ['0', '0', StringForm.hexDigit (c.toNat / 16),
      StringForm.hexDigit (c.toNat % 16)] = some c := by
  have zero : hexDigit? '0' = some 0 := rfl
  have high := hexDigit?_hexDigit (c.toNat / 16) (by omega)
  have low := hexDigit?_hexDigit (c.toNat % 16) (by omega)
  have value : 16 * (c.toNat / 16) + c.toNat % 16 = c.toNat := Nat.div_add_mod c.toNat 16
  have folded :
      ['0', '0', StringForm.hexDigit (c.toNat / 16), StringForm.hexDigit (c.toNat % 16)].foldlM
        (fun n digit => (hexDigit? digit).map (16 * n + ·)) 0 = some c.toNat := by
    simp [zero, high, low, value]
  have valid : c.toNat.isValidChar := c.valid
  rw [codePoint?, folded]
  show (if h : c.toNat.isValidChar then some (Char.ofNatAux c.toNat h) else none) = some c
  rw [dif_pos valid]
  rfl

namespace StringForm

/-- The three ways in which a character is written. -/
theorem escapeControl_cases (c : Char) :
    (escapeControl c = [c] ∧ isControl c = false ∧ c ≠ '\\') ∨
      (∃ letter, escapeControl c = ['\\', letter] ∧ simpleEscape? letter = some c) ∨
      ∃ high low, escapeControl c = ['\\', 'u', '0', '0', high, low] ∧
        codePoint? ['0', '0', high, low] = some c := by
  unfold escapeControl
  split
  case h_1 => exact .inr (.inl ⟨'b', rfl, rfl⟩)
  case h_2 => exact .inr (.inl ⟨'t', rfl, rfl⟩)
  case h_3 => exact .inr (.inl ⟨'f', rfl, rfl⟩)
  case h_4 => exact .inr (.inl ⟨'r', rfl, rfl⟩)
  case h_5 => exact .inr (.inl ⟨'\\', rfl, rfl⟩)
  case h_6 backslash =>
    by_cases control : isControl c = true
    · rw [if_pos control]
      refine .inr (.inr ⟨_, _, rfl, codePoint?_hexDigits ?_⟩)
      simp [isControl] at control
      omega
    · rw [if_neg control]
      exact .inl ⟨rfl, by simpa using control, backslash⟩

/-- No character is written with a quotation mark or a line end at its start. -/
theorem head?_escapeControl {c : Char} (quote : c ≠ '"') (line : c ≠ '\n') :
    ∃ first later, escapeControl c = first :: later ∧
      first ≠ '"' ∧ first ≠ '\n' ∧ first ≠ '\r' := by
  rcases escapeControl_cases c with ⟨itself, plain, _⟩ | ⟨_, letter, _⟩ | ⟨_, _, code, _⟩
  · refine ⟨c, [], itself, quote, line, ?_⟩
    rintro rfl
    rw [isControl_return] at plain
    cases plain
  · exact ⟨_, _, letter, by decide, by decide, by decide⟩
  · exact ⟨_, _, code, by decide, by decide, by decide⟩

theorem head?_escapeBasic (c : Char) :
    ∃ first later, escapeBasic c = first :: later ∧ first ≠ '"' := by
  unfold escapeBasic
  split
  · exact ⟨_, _, rfl, by decide⟩
  · next quote =>
    split
    · exact ⟨_, _, rfl, by decide⟩
    · next line =>
      obtain ⟨first, later, written, other, _⟩ := head?_escapeControl quote line
      exact ⟨first, later, written, other⟩

end StringForm

/-! ## One line -/

theorem basicBody_plain {c : Char} (visible : isVisible c = true) (quote : c ≠ '"')
    (backslash : c ≠ '\\') (rest : List Char) :
    basicBody (c :: rest) = prepend c (basicBody rest) := by
  rw [basicBody.eq_def]
  split <;> simp_all

theorem basicBody_letter {letter c : Char} (escape : simpleEscape? letter = some c)
    (rest : List Char) : basicBody ('\\' :: letter :: rest) = prepend c (basicBody rest) := by
  obtain ⟨short, long⟩ := ne_of_simpleEscape? escape
  rw [basicBody, escape]
  · rfl
  · intro _ _ _ _ _ equal
    exact absurd equal short
  · intro _ _ _ _ _ _ _ _ _ equal
    exact absurd equal long

theorem basicBody_code {a b d e c : Char} (code : codePoint? [a, b, d, e] = some c)
    (rest : List Char) :
    basicBody ('\\' :: 'u' :: a :: b :: d :: e :: rest) = prepend c (basicBody rest) := by
  rw [basicBody, code]
  rfl

theorem basicBody_escapeControl {c : Char} (quote : c ≠ '"') (line : c ≠ '\n') (rest : List Char) :
    basicBody (StringForm.escapeControl c ++ rest) = prepend c (basicBody rest) := by
  rcases StringForm.escapeControl_cases c with
    ⟨itself, plain, backslash⟩ | ⟨_, letter, escape⟩ | ⟨_, _, hex, code⟩
  · rw [itself]
    exact basicBody_plain (isVisible_of_not_isControl plain line) quote backslash rest
  · rw [letter]
    exact basicBody_letter escape rest
  · rw [hex]
    exact basicBody_code code rest

theorem basicBody_escapeBasic (c : Char) (rest : List Char) :
    basicBody (StringForm.escapeBasic c ++ rest) = prepend c (basicBody rest) := by
  unfold StringForm.escapeBasic
  split
  · next quote =>
    subst quote
    exact basicBody_letter rfl rest
  · split
    · next line =>
      subst line
      exact basicBody_letter rfl rest
    · next quote line => exact basicBody_escapeControl quote line rest

/-- Every text is read back from a basic string of one line. -/
theorem basicBody_escape (text rest : List Char) :
    basicBody (text.flatMap StringForm.escapeBasic ++ '"' :: rest) = some (text, rest) := by
  induction text with
  | nil => rfl
  | cons c text ih =>
      rw [List.flatMap_cons, List.append_assoc, basicBody_escapeBasic, ih]
      rfl

/-- A text without controls, line feeds and apostrophes is read back from a literal string of one
line. -/
theorem literalBody_text {text : List Char} (plain : ∀ c ∈ text, isControl c = false)
    (inLine : '\n' ∉ text) (noApostrophe : '\'' ∉ text) (rest : List Char) :
    literalBody (text ++ '\'' :: rest) = some (text, rest) := by
  induction text with
  | nil => rfl
  | cons c text ih =>
      obtain ⟨plainFirst, plainLater⟩ := List.forall_mem_cons.mp plain
      have visible := isVisible_of_not_isControl plainFirst (List.ne_of_not_mem_cons inLine).symm
      have step : literalBody (c :: (text ++ '\'' :: rest)) =
          prepend c (literalBody (text ++ '\'' :: rest)) := by
        rw [literalBody, if_pos visible]
        exact (List.ne_of_not_mem_cons noApostrophe).symm
      rw [List.cons_append, step, ih plainLater (List.not_mem_of_not_mem_cons inLine)
        (List.not_mem_of_not_mem_cons noApostrophe)]
      rfl

/-! ## Several lines -/

/-- Up to two quotation marks after the closing ones belong to the text. -/
theorem closeMultiline_replicate {quote : Char} {run : Nat} (short : run ≤ 2) {rest : List Char}
    (apart : rest.head? ≠ some quote) :
    closeMultiline quote (List.replicate run quote ++ rest) = (List.replicate run quote, rest) := by
  have stop : rest.takeWhile (· == quote) = [] := by
    cases rest with
    | nil => rfl
    | cons c rest =>
        have other : c ≠ quote := fun same => apart (congrArg some same)
        simp [other]
  have extra : ((List.replicate run quote ++ rest).takeWhile (· == quote)).take 2 =
      List.replicate run quote := by
    rw [List.takeWhile_append_of_pos (by simp), stop, List.append_nil, List.take_replicate,
      Nat.min_eq_right short]
  rw [closeMultiline, extra, List.drop_append_length]

theorem replicate_append_cons (quote : Char) (run : Nat) (rest : List Char) :
    List.replicate run quote ++ quote :: rest = List.replicate (run + 1) quote ++ rest := by
  rw [List.replicate_succ', List.append_assoc, List.singleton_append]

section Body

-- what the readers of both forms of several lines do with their own quotation mark
variable {quote : Char} {body : Reader (List Char)}

/-- Three quotation marks close a text that ends with up to two of them. -/
theorem body_close (close : ∀ rest, body (quote :: quote :: quote :: rest) =
      some (closeMultiline quote rest))
    {run : Nat} (short : run ≤ 2) {rest : List Char} (apart : rest.head? ≠ some quote) :
    body (List.replicate run quote ++ quote :: quote :: quote :: rest) =
      some (List.replicate run quote, rest) := by
  have moved : List.replicate run quote ++ quote :: quote :: quote :: rest =
      quote :: quote :: quote :: (List.replicate run quote ++ rest) := by
    rw [replicate_append_cons, replicate_append_cons, replicate_append_cons]
    rfl
  rw [moved, close, closeMultiline_replicate short apart]

/-- Up to two quotation marks before another character belong to the text. -/
theorem body_run (lone : ∀ rest, (∀ after, rest ≠ quote :: quote :: after) →
      body (quote :: rest) = prepend quote (body rest))
    {run : Nat} (short : run ≤ 2) {c : Char} (other : c ≠ quote) (rest : List Char) :
    body (List.replicate run quote ++ c :: rest) =
      prependAll (List.replicate run quote) (body (c :: rest)) := by
  induction run with
  | zero =>
      show body (c :: rest) = prependAll [] (body (c :: rest))
      cases body (c :: rest) <;> rfl
  | succ run ih =>
      rw [List.replicate_succ, List.cons_append, prependAll_cons, ← ih (by omega)]
      apply lone
      -- less than two quotation marks stand before the other character
      intro after three
      obtain rfl | rfl : run = 0 ∨ run = 1 := by omega
      · exact other (List.cons.inj three).1
      · exact other (List.cons.inj (List.cons.inj three).2).1

end Body

/-! ### Basic strings -/

/-- A visible character stands for itself, and so does a quotation mark that is not the first of
three. -/
theorem multilineBasicBody_plain {c : Char} (visible : isVisible c = true) (backslash : c ≠ '\\')
    {rest : List Char} (noClose : ∀ after, c :: rest ≠ '"' :: '"' :: '"' :: after)
    (lineFeed : c ≠ '\n') (carriage : c ≠ '\r') :
    multilineBasicBody false (c :: rest) = prepend c (multilineBasicBody false rest) := by
  rw [multilineBasicBody.eq_def]
  split <;> simp_all

theorem multilineBasicBody_lineFeed (rest : List Char) :
    multilineBasicBody false ('\n' :: rest) = prepend '\n' (multilineBasicBody false rest) := by
  rw [multilineBasicBody]
  rfl

theorem multilineBasicBody_letter {letter c : Char} (escape : simpleEscape? letter = some c)
    (rest : List Char) :
    multilineBasicBody false ('\\' :: letter :: rest) =
      prepend c (multilineBasicBody false rest) := by
  obtain ⟨short, long⟩ := ne_of_simpleEscape? escape
  rw [multilineBasicBody, escape]
  · intro _ _ _ _ _ equal
    exact absurd equal short
  · intro _ _ _ _ _ _ _ _ _ equal
    exact absurd equal long

theorem multilineBasicBody_code {a b d e c : Char} (code : codePoint? [a, b, d, e] = some c)
    (rest : List Char) :
    multilineBasicBody false ('\\' :: 'u' :: a :: b :: d :: e :: rest) =
      prepend c (multilineBasicBody false rest) := by
  rw [multilineBasicBody, code]
  rfl

theorem multilineBasicBody_lone {rest : List Char} (noClose : ∀ after, rest ≠ '"' :: '"' :: after) :
    multilineBasicBody false ('"' :: rest) = prepend '"' (multilineBasicBody false rest) := by
  apply multilineBasicBody_plain rfl (by decide) _ (by decide) (by decide)
  intro after three
  exact noClose after (List.cons.inj three).2

theorem multilineBasicBody_escapeControl {c : Char} (quote : c ≠ '"') (line : c ≠ '\n')
    (rest : List Char) :
    multilineBasicBody false (StringForm.escapeControl c ++ rest) =
      prepend c (multilineBasicBody false rest) := by
  rcases StringForm.escapeControl_cases c with
    ⟨itself, plain, backslash⟩ | ⟨_, letter, escape⟩ | ⟨_, _, hex, code⟩
  · rw [itself]
    have carriage : c ≠ '\r' := by
      rintro rfl
      rw [isControl_return] at plain
      cases plain
    exact multilineBasicBody_plain (isVisible_of_not_isControl plain line) backslash
      (fun _ three => quote (List.cons.inj three).1) line carriage
  · rw [letter]
    exact multilineBasicBody_letter escape rest
  · rw [hex]
    exact multilineBasicBody_code code rest

/-- Every text is read back from a basic string of several lines. -/
theorem multilineBasicBody_escape {run : Nat} (short : run ≤ 2) (text : List Char)
    {rest : List Char} (apart : rest.head? ≠ some '"') :
    multilineBasicBody false (List.replicate run '"' ++
        (StringForm.escapeMultiline run text ++ '"' :: '"' :: '"' :: rest)) =
      some (List.replicate run '"' ++ text, rest) := by
  induction text generalizing run with
  | nil =>
      rw [StringForm.escapeMultiline, List.nil_append, List.append_nil]
      exact body_close (fun _ => rfl) short apart
  | cons c text ih =>
      have fresh : multilineBasicBody false
          (StringForm.escapeMultiline 0 text ++ '"' :: '"' :: '"' :: rest) = some (text, rest) :=
        ih (Nat.zero_le 2)
      rw [StringForm.escapeMultiline]
      split
      case isTrue quote =>
        subst quote
        split
        case isTrue full =>
          -- the third quotation mark of a row is escaped, and counting starts again
          subst full
          rw [List.cons_append, List.cons_append,
            body_run (fun _ => multilineBasicBody_lone) short (by decide),
            multilineBasicBody_letter rfl, fresh]
          rfl
        case isFalse room =>
          rw [List.cons_append, replicate_append_cons, ih (by omega), replicate_append_cons]
      case isFalse quote =>
        split
        case isTrue line =>
          subst line
          rw [List.cons_append, body_run (fun _ => multilineBasicBody_lone) short (by decide),
            multilineBasicBody_lineFeed, fresh]
          rfl
        case isFalse line =>
          obtain ⟨first, later, written, other, _⟩ := StringForm.head?_escapeControl quote line
          have read := multilineBasicBody_escapeControl quote line
            (StringForm.escapeMultiline 0 text ++ '"' :: '"' :: '"' :: rest)
          rw [List.append_assoc, written, List.cons_append,
            body_run (fun _ => multilineBasicBody_lone) short other, ← List.cons_append, ← written,
            read, fresh]
          rfl

/-! ### Literal strings -/

theorem multilineLiteralBody_plain {c : Char} (visible : isVisible c = true)
    {rest : List Char} (noClose : ∀ after, c :: rest ≠ '\'' :: '\'' :: '\'' :: after)
    (lineFeed : c ≠ '\n') (carriage : c ≠ '\r') :
    multilineLiteralBody (c :: rest) = prepend c (multilineLiteralBody rest) := by
  rw [multilineLiteralBody.eq_def]
  split <;> simp_all

theorem multilineLiteralBody_lone {rest : List Char}
    (noClose : ∀ after, rest ≠ '\'' :: '\'' :: after) :
    multilineLiteralBody ('\'' :: rest) = prepend '\'' (multilineLiteralBody rest) := by
  apply multilineLiteralBody_plain rfl _ (by decide) (by decide)
  intro after three
  exact noClose after (List.cons.inj three).2

theorem multilineLiteralBody_other {c : Char} (plain : isControl c = false) (quote : c ≠ '\'')
    (rest : List Char) :
    multilineLiteralBody (c :: rest) = prepend c (multilineLiteralBody rest) := by
  by_cases line : c = '\n'
  · subst line
    rw [multilineLiteralBody]
  · have carriage : c ≠ '\r' := by
      rintro rfl
      rw [isControl_return] at plain
      cases plain
    exact multilineLiteralBody_plain (isVisible_of_not_isControl plain line)
      (fun _ three => quote (List.cons.inj three).1) line carriage

theorem hasTriple_of_cons {quote c : Char} {text : List Char}
    (noTriple : StringForm.hasTriple quote (c :: text) = false) :
    StringForm.hasTriple quote text = false := by
  match text with
  | [] => rfl
  | [_] => rfl
  | _ :: _ :: _ => exact (Bool.or_eq_false_iff.mp noTriple).2

theorem hasTriple_of_append {quote : Char} {before text : List Char}
    (noTriple : StringForm.hasTriple quote (before ++ text) = false) :
    StringForm.hasTriple quote text = false := by
  induction before with
  | nil => exact noTriple
  | cons c before ih => exact ih (hasTriple_of_cons noTriple)

/-- A text without controls and without three apostrophes in a row is read back from a literal
string of several lines. -/
theorem multilineLiteralBody_text {run : Nat} (short : run ≤ 2) {text : List Char}
    (plain : ∀ c ∈ text, isControl c = false)
    (noTriple : StringForm.hasTriple '\'' (List.replicate run '\'' ++ text) = false)
    {rest : List Char} (apart : rest.head? ≠ some '\'') :
    multilineLiteralBody (List.replicate run '\'' ++ (text ++ '\'' :: '\'' :: '\'' :: rest)) =
      some (List.replicate run '\'' ++ text, rest) := by
  induction text generalizing run with
  | nil =>
      rw [List.nil_append, List.append_nil]
      exact body_close (fun _ => rfl) short apart
  | cons c text ih =>
      obtain ⟨plainFirst, plainLater⟩ := List.forall_mem_cons.mp plain
      by_cases quote : c = '\''
      · subst quote
        have room : run ≠ 2 := by
          rintro rfl
          simp [StringForm.hasTriple, List.replicate_succ] at noTriple
        rw [replicate_append_cons] at noTriple
        rw [List.cons_append, replicate_append_cons, ih (by omega) plainLater noTriple,
          replicate_append_cons]
      · have later : StringForm.hasTriple '\'' text = false :=
          hasTriple_of_cons (hasTriple_of_append noTriple)
        have fresh : multilineLiteralBody (text ++ '\'' :: '\'' :: '\'' :: rest) =
            some (text, rest) := ih (Nat.zero_le 2) plainLater later
        rw [List.cons_append, body_run (fun _ => multilineLiteralBody_lone) short quote,
          multilineLiteralBody_other plainFirst quote, fresh]
        rfl

end PolishCalc.Toml
