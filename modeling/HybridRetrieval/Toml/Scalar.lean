import HybridRetrieval.Number.Decimal
import HybridRetrieval.Number.WordSize
import HybridRetrieval.Toml.Basic
import HybridRetrieval.Toml.Text
/-!
# TOML numbers, truth values, dates and times

Digits may be separated by single underscores.  Integers have 64 bits and a sign; a number with a
point or an exponent must not overflow.  Dates and times must exist.
-/

namespace HybridRetrieval.Toml

/-- Whether digits stand alone or between single underscores, with at least one digit. -/
def isDigitRun (isDigit : Char → Bool) (cs : List Char) : Bool :=
  (cs.splitOn '_').all fun part => !part.isEmpty && part.all isDigit

/-- The text without underscores. -/
def dropUnderscores (cs : List Char) : List Char := cs.filter (· ≠ '_')

/-- Whether digits form a whole number without a superfluous zero. -/
def isWhole (cs : List Char) : Bool :=
  isDigitRun Char.isDigit cs && (cs.head? != some '0' || cs.length == 1)

/-- Splits a sign off. -/
def unsigned : List Char → List Char
  | '+' :: rest | '-' :: rest => rest
  | cs => cs

/-- The number that digits of a base spell. -/
def ofBase (base : Nat) (cs : List Char) : Nat :=
  (dropUnderscores cs).foldl (fun n c => base * n + (Hex.value? c).getD 0) 0

/-- Whether a character is a digit of a base up to sixteen. -/
def isBaseDigit (base : Nat) (c : Char) : Bool :=
  match Hex.value? c with
  | some v => v < base
  | none => false

/-- Reads an integer that fills the text. -/
def integer? (cs : List Char) : Option Int :=
  let based (base : Nat) (digits : List Char) : Option Int :=
    if isDigitRun (isBaseDigit base) digits then signed64? (ofBase base digits) else none
  match cs with
  | '0' :: 'x' :: digits => based 16 digits
  | '0' :: 'o' :: digits => based 8 digits
  | '0' :: 'b' :: digits => based 2 digits
  | _ =>
    if isWhole (unsigned cs) then
      let n : Int := ofBase 10 (unsigned cs)
      signed64? (if cs.head? = some '-' then -n else n)
    else none

/-- Whether the text is an exponent: a sign and digits. -/
def isExponent (cs : List Char) : Bool := isDigitRun Char.isDigit (unsigned cs)

/-- Whether the text is a floating-point number: a whole part and then a fraction, an exponent or
both; or a word. -/
def isFloatForm (cs : List Char) : Bool :=
  let number := unsigned cs
  if number = ['i', 'n', 'f'] ∨ number = ['n', 'a', 'n'] then true
  else
    let mantissa := number.takeWhile fun c => c ≠ 'e' && c ≠ 'E'
    let exponent := number.dropWhile fun c => c ≠ 'e' && c ≠ 'E'
    let whole := mantissa.takeWhile (· ≠ '.')
    let fraction := mantissa.dropWhile (· ≠ '.')
    isWhole whole && (fraction.isEmpty || isDigitRun Char.isDigit (fraction.drop 1)) &&
      (exponent.isEmpty || isExponent (exponent.drop 1)) &&
      !(fraction.isEmpty && exponent.isEmpty)

/-- Reads a floating-point number that fills the text; one that overflows upwards is refused. -/
def float? (cs : List Char) : Option Toml :=
  if isFloatForm cs then
    match Numeral.read? (dropUnderscores cs) with
    | some x =>
      if x.magnitude ≠ .infinity ∧ x.toDouble.bits = 0x7ff0000000000000 then none
      else some (.float (String.ofList cs))
    | none => none
  else none

/-- Two digits as a number. -/
def twoDigits? : List Char → Option Nat
  | [a, b] => if a.isDigit && b.isDigit then some (Decimal.ofDigitChars [a, b]) else none
  | _ => none

/-- The number of days of a month. -/
def daysIn (year month : Nat) : Nat :=
  if month = 2 then
    if year % 4 = 0 ∧ (year % 100 ≠ 0 ∨ year % 400 = 0) then 29 else 28
  else if month ∈ [4, 6, 9, 11] then 30
  else 31

/-- Whether the text is a date. -/
def isDate (cs : List Char) : Bool :=
  match cs with
  | [y1, y2, y3, y4, '-', m1, m2, '-', d1, d2] =>
    match twoDigits? [m1, m2], twoDigits? [d1, d2] with
    | some month, some day =>
      [y1, y2, y3, y4].all Char.isDigit && 1 ≤ month && month ≤ 12 && 1 ≤ day &&
        day ≤ daysIn (Decimal.ofDigitChars [y1, y2, y3, y4]) month
    | _, _ => false
  | _ => false

/-- Whether two pairs of digits around a colon are at most the given numbers. -/
def isClock (cs : List Char) : Bool :=
  match cs with
  | [h1, h2, ':', m1, m2] =>
    match twoDigits? [h1, h2], twoDigits? [m1, m2] with
    | some hour, some minute => hour ≤ 23 && minute ≤ 59
    | _, _ => false
  | _ => false

/-- Whether the text is a time of day. -/
def isTime (cs : List Char) : Bool :=
  let fraction := cs.drop 8
  isClock (cs.take 5) && cs[5]? == some ':' &&
    (match twoDigits? ((cs.drop 6).take 2) with | some second => second ≤ 60 | none => false) &&
    (fraction.isEmpty ||
      (fraction.head? == some '.' && !(fraction.drop 1).isEmpty &&
        (fraction.drop 1).all Char.isDigit))

/-- Whether the text is a time of day with an offset, if any. -/
def isOffsetTime (cs : List Char) : Bool :=
  let time := cs.takeWhile fun c => c ≠ 'Z' && c ≠ 'z' && c ≠ '+' && c ≠ '-'
  let offset := cs.dropWhile fun c => c ≠ 'Z' && c ≠ 'z' && c ≠ '+' && c ≠ '-'
  isTime time && (match offset with
    | [] => true
    | '+' :: clock | '-' :: clock => isClock clock
    | _ :: rest => rest.isEmpty)

/-- Whether the text is a date and a time with a letter between them. -/
def isDateTime (cs : List Char) : Bool :=
  isDate (cs.take 10) && (cs[10]? == some 'T' || cs[10]? == some 't') && isOffsetTime (cs.drop 11)

/-- The characters of numbers, dates and words. -/
def isScalarChar (c : Char) : Bool :=
  c.isAlphanum || c = '+' || c = '-' || c = '.' || c = '_' || c = ':'

/-- Reads a number, a truth value, a date or a time. -/
def readScalar? (cs : List Char) : Found Toml :=
  let token := cs.takeWhile isScalarChar
  let rest := cs.dropWhile isScalarChar
  if token = ['t', 'r', 'u', 'e'] then some (.boolean true, rest)
  else if token = ['f', 'a', 'l', 's', 'e'] then some (.boolean false, rest)
  else
    match integer? token with
    | some n => some (.integer n, rest)
    | none =>
      match float? token with
      | some x => some (x, rest)
      | none =>
        if isTime token || isDateTime token then some (.dateTime (String.ofList token), rest)
        else if isDate token then
          match rest with
          | ' ' :: more =>
            let time := more.takeWhile isScalarChar
            if isOffsetTime time then
              some (.dateTime (String.ofList (token ++ ' ' :: time)), more.dropWhile isScalarChar)
            else some (.dateTime (String.ofList token), rest)
          | _ => some (.dateTime (String.ofList token), rest)
        else none

end HybridRetrieval.Toml
