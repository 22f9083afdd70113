import TemplateTree.Text.Blank
import TemplateTree.Text.Hexadecimal
import TemplateTree.Toml.Text

/-!
# TOML scalars

Which words a TOML document may hold in the place of a value: booleans, whole numbers, fractions,
dates and times. Only whether a word is well formed is decided here; no program of this library
needs its value. Fractions, dates and times are checked to the last character. So are whole numbers
without underscores; behind an underscore only the marks of another kind of number are refused.
-/

namespace TemplateTree.Toml

/-- Whether a character ends every word. -/
def isWordEnd (c : Char) : Bool :=
  c == '=' || c == ',' || c == '[' || c == ']' || c == '\x7b' || c == '\x7d' || c == '#' ||
    c == '\r' || c == '\n'

/-- The part of a text that a word and the spaces behind it may take up. A quote begins something
else if it stands at the beginning of a text that follows a space, as `spaced` says. -/
def wordSpan (spaced : Bool) : List Char → List Char
  | [] => []
  | c :: rest =>
    if isWordEnd c || (spaced && (c == '\x22' || c == '\x27')) then []
    else c :: wordSpan (isSpace c) rest

/-- The word at the beginning of a text. Spaces belong to it if more of the word follows. -/
def wordIn (text : List Char) : List Char :=
  Text.trimEnd isSpace (wordSpan false text)

def isHexDigit (c : Char) : Bool :=
  (Text.hexValue? c).isSome

def withoutSign : List Char → List Char
  | '+' :: rest => rest
  | '-' :: rest => rest
  | word => word

/-- Whether each underscore in a text stands between characters that satisfy `digit`. `before` says
whether the character before the text does. -/
def isSeparated (digit : Char → Bool) : Bool → List Char → Bool
  | _, [] => true
  | before, c :: rest =>
    (c != '_' || (before && rest.head?.any digit)) && isSeparated digit (digit c) rest

/-- Whether a zero that adds nothing stands at the beginning of a number. -/
def hasLeadingZero : List Char → Bool
  | '0' :: _ :: _ => true
  | _ => false

/-- The digits of a whole number in another base than ten, of which there may be none. -/
def isRadixDigits (digit : Char → Bool) (digits : List Char) : Bool :=
  (digits.all fun c => digit c || c == '_') && isSeparated digit false digits

/-- A whole number with a mark for its base. -/
def isMarkedInteger : List Char → Bool
  | '0' :: 'x' :: digits => isRadixDigits isHexDigit digits
  | '0' :: 'o' :: digits => isRadixDigits (fun c => '0' ≤ c && c ≤ '7') digits
  | '0' :: 'b' :: digits => isRadixDigits (fun c => c == '0' || c == '1') digits
  | _ => false

/-- Whether a character shows that a number is no whole number. -/
def isFractionMark (c : Char) : Bool :=
  c == '.' || c == 'e' || c == 'E'

/-- A whole number without a mark for its base. What follows its first underscore is free but for
the underscores in it, spaces and the marks of fractions. -/
def isPlainInteger (word : List Char) : Bool :=
  let plain := withoutSign word
  !plain.isEmpty && !hasLeadingZero plain && isSeparated isHexDigit false word &&
    match plain.dropWhile Char.isDigit with
    | [] => true
    | c :: rest => c == '_' && !rest.any fun c => c == ' ' || isFractionMark c

/-- What stands before the first character that satisfies `mark`, and what stands behind it, if
there is one. -/
def splitMark (mark : Char → Bool) (word : List Char) : List Char × Option (List Char) :=
  match word.dropWhile fun c => !mark c with
  | [] => (word, none)
  | _ :: behind => (word.takeWhile fun c => !mark c, some behind)

/-- Decimal digits and underscores, at least one digit among them. -/
def isDigitRun (text : List Char) : Bool :=
  text.any Char.isDigit && text.all fun c => c.isDigit || c == '_'

/-- A number with a fraction, an exponent or both. -/
def isFraction (word : List Char) : Bool :=
  let (digits, exponent) := splitMark (fun c => c == 'e' || c == 'E') (withoutSign word)
  let (whole, fraction) := splitMark (· == '.') digits
  (fraction.isSome || exponent.isSome) && isDigitRun whole && !hasLeadingZero whole &&
    fraction.all isDigitRun && (exponent.all fun digits => isDigitRun (withoutSign digits)) &&
    isSeparated Char.isDigit false word

/-- One of the words for infinity and for what is no number. -/
def isNotFinite (word : List Char) : Bool :=
  withoutSign word = ['i', 'n', 'f'] || withoutSign word = ['n', 'a', 'n']

/-- The number of two decimal digits. -/
def pair? (tens ones : Char) : Option Nat :=
  if tens.isDigit && ones.isDigit then
    some ((tens.toNat - 0x30) * 10 + (ones.toNat - 0x30))
  else none

def isPairIn (low high : Nat) (tens ones : Char) : Bool :=
  (pair? tens ones).any fun number => low ≤ number && number ≤ high

def daysIn (year month : Nat) : Nat :=
  if month = 2 then
    if (year % 4 = 0 ∧ year % 100 ≠ 0) ∨ year % 400 = 0 then 29 else 28
  else if month = 4 ∨ month = 6 ∨ month = 9 ∨ month = 11 then 30 else 31

/-- A date. -/
def isDate : List Char → Bool
  | [a, b, c, d, '-', e, f, '-', g, h] =>
    match pair? a b, pair? c d, pair? e f, pair? g h with
    | some century, some year, some month, some day =>
      1 ≤ month && month ≤ 12 && 1 ≤ day && day ≤ daysIn (century * 100 + year) month
    | _, _, _, _ => false
  | _ => false

/-- The end of a time of day after its minutes: seconds and their fraction, each of which may be
absent. -/
def isTimeEnd : List Char → Bool
  | [] => true
  | [':', a, b] => isPairIn 0 60 a b
  | ':' :: a :: b :: '.' :: digits =>
    isPairIn 0 60 a b && !digits.isEmpty && digits.all Char.isDigit
  | _ => false

def isTime : List Char → Bool
  | a :: b :: ':' :: c :: d :: rest => isPairIn 0 23 a b && isPairIn 0 59 c d && isTimeEnd rest
  | _ => false

/-- A time of day with the offset of its time zone. -/
def isZonedTime (word : List Char) : Bool :=
  match word.reverse with
  | 'Z' :: time | 'z' :: time => isTime time.reverse
  | d :: c :: ':' :: b :: a :: sign :: time =>
    (sign == '+' || sign == '-') && isPairIn 0 23 a b && isPairIn 0 59 c d && isTime time.reverse
  | _ => false

/-- A date and a time, each of which may be absent. -/
def isDateTime (word : List Char) : Bool :=
  isTime word || isDate word ||
    (isDate (word.take 10) &&
      match word.drop 10 with
      | c :: time => (c == 'T' || c == 't' || c == ' ') && (isTime time || isZonedTime time)
      | [] => false)

def isScalar (word : List Char) : Bool :=
  word = ['t', 'r', 'u', 'e'] || word = ['f', 'a', 'l', 's', 'e'] || isNotFinite word ||
    isMarkedInteger word || isPlainInteger word || isFraction word || isDateTime word

end TemplateTree.Toml
