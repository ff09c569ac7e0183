import PolishCalc.Decimal.Integer

/-!
# Bare values of TOML

A value that is neither a string nor a collection is a run of letters, digits and `+ - _ . :`.
`Scalar.ofBare?` says what such a run stands for: a boolean, an integer of 64 bits, a float, or a
date or time.
-/

namespace PolishCalc.Toml

open Decimal

/-- A value without parts. Of floats and of dates and times only the kind is kept. -/
inductive Scalar where
  | boolean (value : Bool)
  | integer (value : Int)
  | float
  | dateTime
  | string (value : String)
  deriving DecidableEq, Repr

/-- The characters of bare values. -/
def isBare (c : Char) : Bool :=
  c.isAlphanum || c == '+' || c == '-' || c == '_' || c == '.' || c == ':'

/-! ## Numbers -/

/-- The digits of a run in which single underscores may stand between digits. -/
def ungroup? (isDigit : Char → Bool) : List Char → Option (List Char)
  | [] => none
  | [c] => if isDigit c then some [c] else none
  | c :: '_' :: rest => if isDigit c then (ungroup? isDigit rest).map (c :: ·) else none
  | c :: rest => if isDigit c then (ungroup? isDigit rest).map (c :: ·) else none

/-- The digits of an unsigned decimal integer; only `0` itself starts with a zero. -/
def decimalDigits? (text : List Char) : Option (List Char) :=
  match text with
  | '0' :: _ :: _ => none
  | _ => ungroup? Char.isDigit text

/-- The value of an integer: decimal with an optional sign, or hexadecimal, octal or binary. -/
def integer? (text : List Char) : Option Int :=
  match text with
  | '0' :: 'x' :: rest => do bounded? (ofDigits 16 (← ungroup? isHexDigit rest))
  | '0' :: 'o' :: rest => do bounded? (ofDigits 8 (← ungroup? isOctalDigit rest))
  | '0' :: 'b' :: rest => do bounded? (ofDigits 2 (← ungroup? isBinaryDigit rest))
  | _ => do
    let (negative, magnitude) := splitSign text
    let n : Int := ofDigits 10 (← decimalDigits? magnitude)
    bounded? (if negative then -n else n)
where
  isHexDigit (c : Char) : Bool := c.isDigit || ('a' ≤ c.toLower && c.toLower ≤ 'f')
  isOctalDigit (c : Char) : Bool := '0' ≤ c && c ≤ '7'
  isBinaryDigit (c : Char) : Bool := c == '0' || c == '1'

/-- Whether the decimal `digits · 10 ^ exponent` is too large for a binary64 number: it is at least
half-way between the largest one and `2 ^ 1024`. Exponents far from that need no arithmetic. -/
def overflows (digits : Nat) (exponent : Int) : Bool :=
  let magnitude := exponent + (Nat.toDigits 10 digits).length
  if digits = 0 || magnitude < 300 then false
  else if 320 < magnitude then true
  else (twoTo 1024 - twoTo 970) * tenTo (-exponent).toNat ≤ digits * tenTo exponent.toNat

/-- The value of an exponent without its mark. -/
def exponent? (text : List Char) : Option Int := do
  let (negative, magnitude) := splitSign text
  let n : Int := ofDigits 10 (← ungroup? Char.isDigit magnitude)
  return if negative then -n else n

/-- Splits a text at the first character that has a property; the character itself is dropped. -/
def splitAt? (isMark : Char → Bool) (text : List Char) : List Char × Option (List Char) :=
  match text.dropWhile (!isMark ·) with
  | [] => (text, none)
  | _ :: rest => (text.takeWhile (!isMark ·), some rest)

/-- Whether a text is a float: an integer part followed by a fraction, an exponent or both, or one
of the words for infinity and NaN. Positive floats must not be too large. -/
def isFloat (text : List Char) : Bool :=
  let (negative, magnitude) := splitSign text
  magnitude == ['i', 'n', 'f'] || magnitude == ['n', 'a', 'n'] || (do
    let (mantissa, exponentText) := splitAt? (fun c => c == 'e' || c == 'E') magnitude
    let (wholeText, fractionText) := splitAt? (· == '.') mantissa
    if exponentText.isNone && fractionText.isNone then none
    let whole ← decimalDigits? wholeText
    let fraction ← fractionText.elim (some []) (ungroup? Char.isDigit)
    let exponent ← exponentText.elim (some 0) exponent?
    let digits := ofDigits 10 (whole ++ fraction)
    if !negative && overflows digits (exponent - fraction.length) then none
    return ()).isSome

/-! ## Dates and times -/

/-- A number of exactly `count` digits at the start of a text. -/
def fixedNumber? (count : Nat) (text : List Char) : Option (Nat × List Char) :=
  let digits := text.take count
  if digits.length = count && digits.all Char.isDigit then
    some (ofDigits 10 digits, text.drop count)
  else
    none

/-- The text after a given character. -/
def after? (c : Char) : List Char → Option (List Char)
  | d :: rest => if d = c then some rest else none
  | [] => none

/-- The number of days of a month. -/
def daysOf (year month : Nat) : Nat :=
  if month = 2 then
    if year % 4 = 0 && (year % 100 != 0 || year % 400 = 0) then 29 else 28
  else if month = 4 || month = 6 || month = 9 || month = 11 then 30
  else 31

/-- The text after a date of the calendar. -/
def afterDate? (text : List Char) : Option (List Char) := do
  let (year, text) ← fixedNumber? 4 text
  let (month, text) ← fixedNumber? 2 (← after? '-' text)
  let (day, text) ← fixedNumber? 2 (← after? '-' text)
  if 1 ≤ month && month ≤ 12 && 1 ≤ day && day ≤ daysOf year month then some text else none

/-- The text after hours and minutes. -/
def afterMinutes? (text : List Char) : Option (List Char) := do
  let (hour, text) ← fixedNumber? 2 text
  let (minute, text) ← fixedNumber? 2 (← after? ':' text)
  if hour ≤ 23 && minute ≤ 59 then some text else none

/-- The text after a time of the day; a second may be a leap second and have a fraction. -/
def afterTime? (text : List Char) : Option (List Char) := do
  let (second, text) ← fixedNumber? 2 (← after? ':' (← afterMinutes? text))
  if 60 < second then none
  match text with
  | '.' :: fraction =>
    if (fraction.takeWhile Char.isDigit).isEmpty then none
    else some (fraction.dropWhile Char.isDigit)
  | _ => some text

/-- Whether a text is an offset from universal time. -/
def isOffset (text : List Char) : Bool :=
  match text with
  | ['Z'] => true
  | ['z'] => true
  | '+' :: rest => afterMinutes? rest == some []
  | '-' :: rest => afterMinutes? rest == some []
  | _ => false

/-- Whether a text is a time, a date, or both with an optional offset. -/
def isDateTime (text : List Char) : Bool :=
  afterTime? text == some [] ||
  match afterDate? text with
  | none => false
  | some [] => true
  | some (mark :: rest) =>
    (mark == 'T' || mark == 't' || mark == ' ') &&
    match afterTime? rest with
    | none => false
    | some offset => offset.isEmpty || isOffset offset

/-- What a bare value stands for. -/
def Scalar.ofBare? (text : List Char) : Option Scalar :=
  if text = ['t', 'r', 'u', 'e'] then some (.boolean true)
  else if text = ['f', 'a', 'l', 's', 'e'] then some (.boolean false)
  else if isDateTime text then some .dateTime
  else if isFloat text then some .float
  else (integer? text).map .integer

end PolishCalc.Toml
