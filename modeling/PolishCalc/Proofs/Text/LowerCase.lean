import Mathlib
import PolishCalc.Text.LowerCase

/-!
# Words in lower case

Lower-casing by the tables against the case of ASCII letters. Some characters outside of ASCII have
lower-case forms in it: the Kelvin sign becomes a `k`, the dotted capital I an `i` with a mark. None
of them becomes one of the other letters, so a word over these letters and digits is the lower-case
form of its ASCII spellings only (`lowerAfter_eq_iff`, `lower_eq_iff`).
-/

namespace PolishCalc.Text

/-- Letters that are the lower-case forms of themselves and their ASCII capitals, and digits, which
are those of themselves; nothing else becomes one of them. -/
def plainLetters : List Char :=
  ['0', '1', '2', '3', '4', '5', '6', '7', '8', '9', 'a', 'b', 'c', 'd', 'e', 'f', 'g', 'h', 'j',
    'l', 'm', 'n', 'o', 'p', 'q', 'r', 's', 't', 'u', 'v', 'w', 'x', 'y', 'z']

/-- The ASCII capital of a letter. -/
def capital (d : Char) : Char :=
  Char.ofNat (d.toNat - 32)

/-- A character is a letter or digit, or the ASCII capital of the letter. -/
def IsLetter (c d : Char) : Prop :=
  c = d ∨ d.isLower = true ∧ c = capital d

theorem capital_of_toNat {c d : Char} (distance : c.toNat + 32 = d.toNat) : c = capital d := by
  rw [capital, ← distance, Nat.add_sub_cancel, Char.ofNat_toNat]

theorem IsLetter.lower {c d : Char} (letter : IsLetter c d) (plain : d ∈ plainLetters) :
    lowerChar c = d ∧ c.toLower = d := by
  have both : plainLetters.all (fun d => lowerChar d == d && d.toLower == d &&
      (!d.isLower || lowerChar (capital d) == d && (capital d).toLower == d)) = true := by
    decide +kernel
  have each := List.all_eq_true.mp both d plain
  simp only [Bool.and_eq_true, Bool.or_eq_true, Bool.not_eq_true', beq_iff_eq] at each
  rcases letter with rfl | ⟨cased, rfl⟩
  · exact each.1
  · exact each.2.resolve_left (by simp [cased])

/-- The only run of capitals that leads to one of the letters is that of ASCII. -/
theorem offset_of_contains {run : CaseRun} (listed : run ∈ caseRuns) {d : Char}
    (plain : d ∈ plainLetters) (contains : run.contains (d.toNat - run.offset).toNat = true) :
    run.offset = 32 ∧ d.isLower = true := by
  have all : caseRuns.all (fun run => plainLetters.all fun d =>
      !run.contains (d.toNat - run.offset).toNat || run.offset == 32 && d.isLower) = true := by
    decide +kernel
  have each := List.all_eq_true.mp (List.all_eq_true.mp all run listed) d plain
  simpa [contains] using each

theorem large_of_plain {d : Char} (plain : d ∈ plainLetters) : 32 < d.toNat := by
  have all : plainLetters.all (fun d => decide (32 < d.toNat)) = true := rfl
  simpa using List.all_eq_true.mp all d plain

theorem isLetter_of_lowerChar {c d : Char} (plain : d ∈ plainLetters)
    (lowered : lowerChar c = d) : IsLetter c d := by
  have above := large_of_plain plain
  rw [lowerChar] at lowered
  split at lowered
  · next run found =>
    have contains := List.find?_some found
    have code : ((c.toNat : Int) + run.offset).toNat = d.toNat := by
      have value := congrArg Char.toNat lowered
      rw [Char.toNat_ofNat] at value
      split at value
      · exact value
      · omega
    have source : c.toNat = ((d.toNat : Int) - run.offset).toNat := by omega
    rw [source] at contains
    obtain ⟨offset, cased⟩ :=
      offset_of_contains (List.mem_of_find?_eq_some found) plain contains
    exact .inr ⟨cased, capital_of_toNat (by omega)⟩
  · exact .inl lowered

theorem isLetter_of_toLower {c d : Char} (lowered : c.toLower = d) : IsLetter c d := by
  by_cases upper : c.isUpper = true
  · rw [Char.toLower_eq_of_isUpper upper] at lowered
    have bounds : 'A'.toNat ≤ c.toNat ∧ c.toNat ≤ 'Z'.toNat := by
      simp only [Char.isUpper, decide_eq_true_eq] at upper
      exact upper
    have first : 'A'.toNat = 65 ∧ 'a'.toNat = 97 := ⟨rfl, rfl⟩
    have last : 'Z'.toNat = 90 ∧ 'z'.toNat = 122 := ⟨rfl, rfl⟩
    have valid : (c.toNat + 32).isValidChar := .inl (by omega)
    have value := congrArg Char.toNat lowered
    rw [Char.toNat_ofNat, if_pos valid] at value
    have cased : 'a'.toNat ≤ d.toNat ∧ d.toNat ≤ 'z'.toNat := by omega
    refine .inr ⟨?_, capital_of_toNat value⟩
    simp only [Char.isLower, Bool.and_eq_true, decide_eq_true_eq]
    exact cased
  · rw [Char.toLower_eq_of_not_isUpper upper] at lowered
    exact .inl lowered

/-- A character becomes a letter by the tables exactly if it does so in ASCII. -/
theorem lowerChar_eq_iff {c d : Char} (plain : d ∈ plainLetters) :
    lowerChar c = d ↔ c.toLower = d :=
  ⟨fun lowered => ((isLetter_of_lowerChar plain lowered).lower plain).2,
    fun lowered => ((isLetter_of_toLower lowered).lower plain).1⟩

/-- The characters whose lower-case form the tables do not decide, and the characters that they
become. -/
def irregular : List Char := ['İ', 'Σ', 'i', 'ς', 'σ']

theorem irregular_ne {c d : Char} (special : c ∈ irregular) (plain : d ∈ plainLetters) :
    c ≠ d ∧ lowerChar c ≠ d := by
  have all : irregular.all (fun c => plainLetters.all fun d => c != d && c.toLower != d) = true :=
    rfl
  have each := List.all_eq_true.mp (List.all_eq_true.mp all c special) d plain
  rw [ne_eq (lowerChar c), lowerChar_eq_iff plain]
  simpa using each

theorem lowerAfter_ne_nil (before : List Char) (c : Char) (rest : List Char) :
    lowerAfter before (c :: rest) ≠ [] := by
  rw [lowerAfter]
  split
  · simp
  · split
    · split <;> simp
    · simp

/-- A letter comes from one character, and that is not an irregular one. -/
theorem lowerAfter_cons_eq_iff {d : Char} (plain : d ∈ plainLetters) (before : List Char) (c : Char)
    (rest word : List Char) :
    lowerAfter before (c :: rest) = d :: word ↔
      lowerChar c = d ∧ lowerAfter (c :: before) rest = word := by
  have never : ∀ c ∈ irregular, c ≠ d ∧ lowerChar c ≠ d := fun _ special =>
    irregular_ne special plain
  rw [lowerAfter]
  split
  · next dotted =>
    subst dotted
    simp [(never 'i' (by decide)).1, (never 'İ' (by decide)).2]
  · split
    · next sigma =>
      subst sigma
      split
      · simp [(never 'ς' (by decide)).1, (never 'Σ' (by decide)).2]
      · simp [(never 'σ' (by decide)).1, (never 'Σ' (by decide)).2]
    · rw [List.singleton_append, List.cons.injEq]

/-- A word over the letters is the lower-case form of its ASCII spellings, and of no other text. -/
theorem lowerAfter_eq_iff {word : List Char} (plain : ∀ d ∈ word, d ∈ plainLetters)
    (before text : List Char) :
    lowerAfter before text = word ↔ text.map Char.toLower = word := by
  induction text generalizing before word with
  | nil => rfl
  | cons c rest ih =>
      cases word with
      | nil => simp [lowerAfter_ne_nil]
      | cons d word =>
          obtain ⟨head, tail⟩ := List.forall_mem_cons.mp plain
          rw [lowerAfter_cons_eq_iff head, List.map_cons, List.cons.injEq, ih tail,
            lowerChar_eq_iff head]

/-- A text is a word, with each letter in either ASCII case. -/
def Spells (text word : String) : Prop :=
  text.toList.map Char.toLower = word.toList

instance (text word : String) : Decidable (Spells text word) :=
  inferInstanceAs (Decidable (_ = _))

/-- The digits of a text are those of the word. -/
theorem Spells.digit_mem {text word : String} (spelled : Spells text word) {c : Char}
    (member : c ∈ text.toList) (digit : c.isDigit = true) : c ∈ word.toList := by
  have same : c.toLower = c := by
    apply Char.toLower_eq_of_not_isUpper
    intro upper
    have below : c.toNat ≤ '9'.toNat := (Char.isDigit_iff_toNat.mp digit).2
    have above : 'A'.toNat ≤ c.toNat := (of_decide_eq_true upper).1
    exact absurd (Nat.le_trans above below) (by decide)
  rw [← spelled, ← same]
  exact List.mem_map_of_mem member

theorem lower_eq_iff {word : String} (plain : word.toList.all plainLetters.contains = true)
    (text : String) : lower text = word ↔ Spells text word := by
  have each : ∀ d ∈ word.toList, d ∈ plainLetters := by simpa using plain
  rw [Spells, lower, ← lowerAfter_eq_iff each [] text.toList, ← String.toList_inj,
    String.toList_ofList]

/-- A text has one of several words as its lower-case form exactly if it spells one of them. -/
theorem lower_mem_iff {words : List String}
    (plain : words.all (fun word => word.toList.all plainLetters.contains) = true)
    (text : String) : lower text ∈ words ↔ ∃ word ∈ words, Spells text word := by
  have each : ∀ word ∈ words, lower text = word ↔ Spells text word := by
    intro word member
    exact lower_eq_iff (List.all_eq_true.mp plain word member) text
  constructor
  · intro member
    exact ⟨_, member, (each _ member).mp rfl⟩
  · rintro ⟨word, member, spelled⟩
    rw [(each word member).mpr spelled]
    exact member

end PolishCalc.Text
