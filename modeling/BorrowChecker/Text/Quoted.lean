import BorrowChecker.Text.Printable
import BorrowChecker.Text.Symbol

namespace BorrowChecker
namespace Text

/-!
Texts in double quotes.

A quoted text shows every character of the text unambiguously: printable
characters as they are, and all others by an escape that starts with a
backslash.  Bytes that belong to no character are escaped one by one.
-/

/-- The lower-case hexadecimal digits of a number, at least `width` of them. -/
def hexadecimal (width number : Nat) : List Char :=
  let digits := Nat.toDigits 16 number
  List.replicate (width - digits.length) '0' ++ digits

/-- The letter that stands for a control character in an escape. -/
def controlLetter? (c : Char) : Option Char :=
  match c.toNat with
  | 7 => some 'a'
  | 8 => some 'b'
  | 9 => some 't'
  | 10 => some 'n'
  | 11 => some 'v'
  | 12 => some 'f'
  | 13 => some 'r'
  | _ => none

/-- A character as it is written between quotes. -/
def quotedChar (c : Char) : List Char :=
  if c = '"' || c = '\\' then ['\\', c]
  else if isPrintable c then [c]
  else
    match controlLetter? c with
    | some letter => ['\\', letter]
    | none =>
        let code := c.toNat
        if code < 0x20 || code = 0x7F then '\\' :: 'x' :: hexadecimal 2 code
        else if code < 0x10000 then '\\' :: 'u' :: hexadecimal 4 code
        else '\\' :: 'U' :: hexadecimal 8 code

/-- A symbol as it is written between quotes. -/
def quotedSymbol : Symbol → List Char
  | .char c => quotedChar c
  | .stray byte => '\\' :: 'x' :: hexadecimal 2 byte.toNat

def quoted (content : List Symbol) : String :=
  String.ofList ('"' :: content.flatMap quotedSymbol ++ ['"'])

end Text
end BorrowChecker
