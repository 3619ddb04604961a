import ShallowCpp.Text.Basic

/-!
# Number literals

A number is written in hexadecimal (`0x` and at least one digit) or in decimal: digits with an
optional point among or around them, at least one digit, and an optional exponent. Only the ASCII
digits count, and suffixes such as `u` or `f` are no part of a number.
-/

set_option autoImplicit false

namespace ShallowCpp.Token

/-- One or more decimal digits and nothing else. -/
def isDigits (text : Text) : Bool :=
  !text.isEmpty && text.all Char.isDigit

/-- The mark `0x` and one or more hexadecimal digits. -/
def isHexNumber : Text → Bool
  | zero :: mark :: digits =>
    zero == '0' && (mark == 'x' || mark == 'X') && !digits.isEmpty && digits.all Text.isHexDigit
  | _ => false

/-- Nothing at all, or an exponent: `e`, an optional sign and one or more digits. -/
def isExponentOrEnd : Text → Bool
  | [] => true
  | mark :: rest =>
    (mark == 'e' || mark == 'E') &&
      match rest with
      | [] => false
      | sign :: digits =>
        if sign == '+' || sign == '-' then isDigits digits else isDigits (sign :: digits)

/-- What may follow the first digits: a point and further digits, then an exponent. -/
def isFractionOrEnd : Text → Bool
  | [] => true
  | char :: rest =>
    if char = '.' then isExponentOrEnd (rest.dropWhile Char.isDigit)
    else isExponentOrEnd (char :: rest)

/-- A decimal number that may start with its point, provided that a digit follows the point. -/
def isDecimalNumber : Text → Bool
  | [] => false
  | char :: rest =>
    if char.isDigit then isFractionOrEnd (rest.dropWhile Char.isDigit)
    else char == '.' && !(rest.takeWhile Char.isDigit).isEmpty
      && isExponentOrEnd (rest.dropWhile Char.isDigit)

/-- A hexadecimal or decimal number. -/
def isNumber (text : Text) : Bool :=
  isHexNumber text || isDecimalNumber text

end ShallowCpp.Token
