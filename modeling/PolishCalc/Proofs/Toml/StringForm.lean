import PolishCalc.Proofs.Toml.StringBody

/-!
# Strings read back

Each of the four forms in which a string is written is read as that string again, whatever follows
it, if that does not start with one more quotation mark.

* **choice** — the form that is chosen can hold the text (`StringForm.holds_of`);
* **delimiters** — the opening ones are told apart by what follows them (`noClose_basic`,
  `noClose_literal`), and the line feed after them is dropped if it was put there
  (`dropFirstLineEnd_firstLineEnd`);
* **forms** — a text is read back from every form that can hold it (`string_write`), and so from the
  one that is chosen (`string_writeString`).
-/

namespace PolishCalc.Toml

/-! ## The choice of a form -/

namespace StringForm

/-- What a text must be like to stand in a form as it is; basic strings take every text. -/
def Holds (text : List Char) : StringForm → Prop
  | basic => True
  | literal => (∀ c ∈ text, isControl c = false) ∧ '\n' ∉ text ∧ '\'' ∉ text
  | multilineBasic => True
  | multilineLiteral => (∀ c ∈ text, isControl c = false) ∧ hasTriple '\'' text = false

/-- The form that is chosen for a text can hold it. -/
theorem holds_of (text : List Char) : (StringForm.of text).Holds text := by
  dsimp only [StringForm.of]
  split
  · trivial
  · split
    · next chosen => simpa [Holds, and_assoc] using chosen
    · split
      · trivial
      · split
        · next chosen => simpa [Holds] using chosen
        · split <;> trivial

end StringForm

/-! ## Delimiters -/

theorem string_basic {body : List Char} (noClose : ∀ after, body ≠ '"' :: '"' :: after) :
    string ('"' :: body) = basicBody body := by
  rw [string]
  intro after two
  exact noClose after two

theorem string_literal {body : List Char} (noClose : ∀ after, body ≠ '\'' :: '\'' :: after) :
    string ('\'' :: body) = literalBody body := by
  rw [string]
  intro after two
  exact noClose after two

theorem lineEnd?_eq_none {c : Char} (lineFeed : c ≠ '\n') (carriage : c ≠ '\r')
    (rest : List Char) : lineEnd? (c :: rest) = none := by
  rw [lineEnd?.eq_def]
  split <;> simp_all

/-- The line feed that a text of several lines starts with is dropped; where there is none, nothing
else is. -/
theorem dropFirstLineEnd_firstLineEnd {text body : List Char}
    (inLine : '\n' ∉ text → lineEnd? body = none) :
    dropFirstLineEnd (StringForm.firstLineEnd text ++ body) = body := by
  unfold StringForm.firstLineEnd
  split
  · rfl
  · next oneLine =>
    rw [List.nil_append, dropFirstLineEnd, inLine (by simpa using oneLine)]
    rfl

theorem lineEnd?_escapeMultiline {text : List Char} (inLine : '\n' ∉ text) (rest : List Char) :
    lineEnd? (StringForm.escapeMultiline 0 text ++ '"' :: rest) = none := by
  cases text with
  | nil => exact lineEnd?_eq_none (by decide) (by decide) rest
  | cons c text =>
      have line : c ≠ '\n' := (List.ne_of_not_mem_cons inLine).symm
      by_cases quote : c = '"'
      · subst quote
        exact lineEnd?_eq_none (by decide) (by decide) _
      · obtain ⟨first, later, written, _, lineFeed, carriage⟩ :=
          StringForm.head?_escapeControl quote line
        rw [StringForm.escapeMultiline, if_neg quote, if_neg line, written]
        exact lineEnd?_eq_none lineFeed carriage _

theorem lineEnd?_literal {text : List Char} (plain : ∀ c ∈ text, isControl c = false)
    (inLine : '\n' ∉ text) (rest : List Char) : lineEnd? (text ++ '\'' :: rest) = none := by
  cases text with
  | nil => exact lineEnd?_eq_none (by decide) (by decide) rest
  | cons c text =>
      have carriage : c ≠ '\r' := by
        rintro rfl
        have control := plain '\r' List.mem_cons_self
        rw [isControl_return] at control
        cases control
      exact lineEnd?_eq_none (List.ne_of_not_mem_cons inLine).symm carriage _

theorem noClose_basic (text : List Char) {rest : List Char} (noQuote : rest.head? ≠ some '"')
    (after : List Char) :
    text.flatMap StringForm.escapeBasic ++ '"' :: rest ≠ '"' :: '"' :: after := by
  intro two
  cases text with
  | nil => exact noQuote (by rw [(List.cons.inj two).2, List.head?_cons])
  | cons c text =>
      obtain ⟨first, later, written, other⟩ := StringForm.head?_escapeBasic c
      rw [List.flatMap_cons, written] at two
      exact other (List.cons.inj two).1

theorem noClose_literal {text : List Char} (noQuotes : '\'' ∉ text) {rest : List Char}
    (noApostrophe : rest.head? ≠ some '\'') (after : List Char) :
    text ++ '\'' :: rest ≠ '\'' :: '\'' :: after := by
  intro two
  cases text with
  | nil => exact noApostrophe (by rw [(List.cons.inj two).2, List.head?_cons])
  | cons c text => exact (List.ne_of_not_mem_cons noQuotes).symm (List.cons.inj two).1

/-! ## The forms -/

/-- A text is read back from every form that can hold it. -/
theorem string_write {text : List Char} {form : StringForm} (holds : form.Holds text)
    {rest : List Char} (noQuote : rest.head? ≠ some '"') (noApostrophe : rest.head? ≠ some '\'') :
    string (form.write text ++ rest) = some (text, rest) := by
  cases form with
  | basic =>
      rw [StringForm.write, List.cons_append, List.cons_append, List.append_assoc,
        List.singleton_append, string_basic (noClose_basic text noQuote)]
      exact basicBody_escape text rest
  | literal =>
      obtain ⟨plain, inLine, noQuotes⟩ := holds
      rw [StringForm.write, List.cons_append, List.cons_append, List.append_assoc,
        List.singleton_append, string_literal (noClose_literal noQuotes noApostrophe)]
      exact literalBody_text plain inLine noQuotes rest
  | multilineBasic =>
      have opened : string (StringForm.write text .multilineBasic ++ rest) =
          multilineBasicBody false (dropFirstLineEnd (StringForm.firstLineEnd text ++
            (StringForm.escapeMultiline 0 text ++ '"' :: '"' :: '"' :: rest))) := by
        simp only [StringForm.write, List.append_assoc, List.cons_append, List.nil_append, string]
      rw [opened, dropFirstLineEnd_firstLineEnd fun inLine => lineEnd?_escapeMultiline inLine _]
      exact multilineBasicBody_escape (Nat.zero_le 2) text noQuote
  | multilineLiteral =>
      obtain ⟨plain, noTriple⟩ := holds
      have opened : string (StringForm.write text .multilineLiteral ++ rest) =
          multilineLiteralBody (dropFirstLineEnd (StringForm.firstLineEnd text ++
            (text ++ '\'' :: '\'' :: '\'' :: rest))) := by
        simp only [StringForm.write, List.append_assoc, List.cons_append, List.nil_append, string]
      rw [opened, dropFirstLineEnd_firstLineEnd fun inLine => lineEnd?_literal plain inLine _]
      exact multilineLiteralBody_text (Nat.zero_le 2) plain noTriple noApostrophe

/-- A text is read back from the form that is chosen for it. -/
theorem string_writeString (text : String) {rest : List Char} (noQuote : rest.head? ≠ some '"')
    (noApostrophe : rest.head? ≠ some '\'') :
    string ((writeString text).toList ++ rest) = some (text.toList, rest) := by
  rw [writeString, String.toList_ofList]
  exact string_write (StringForm.holds_of text.toList) noQuote noApostrophe

end PolishCalc.Toml
