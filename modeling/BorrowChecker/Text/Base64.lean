namespace BorrowChecker
namespace Text

/-!
Bytes written in base 64.

Every four digits stand for three bytes.  The last group may stand for one or two
bytes, and is then filled up by equality signs.  Line ends count for nothing, and
neither do the bits of the last digit that no byte needs.
-/

def base64Digit? (c : Char) : Option Nat :=
  if c.isUpper then some (c.toNat - 'A'.toNat)
  else if c.isLower then some (c.toNat - 'a'.toNat + 26)
  else if c.isDigit then some (c.toNat - '0'.toNat + 52)
  else if c = '+' then some 62
  else if c = '/' then some 63
  else none

/-- The byte across the first and the second digit of a group. -/
def firstByte (first second : Nat) : UInt8 := UInt8.ofNat (first * 4 + second / 16)

/-- The byte across the second and the third digit of a group. -/
def secondByte (second third : Nat) : UInt8 := UInt8.ofNat (second % 16 * 16 + third / 4)

/-- The byte across the third and the fourth digit of a group. -/
def thirdByte (third fourth : Nat) : UInt8 := UInt8.ofNat (third % 4 * 64 + fourth)

/-- The bytes that groups of four digits stand for. -/
def base64Groups? : List Char → Option (List UInt8)
  | [] => some []
  | [a, b, '=', '='] => do
      return [firstByte (← base64Digit? a) (← base64Digit? b)]
  | [a, b, c, '='] => do
      let second ← base64Digit? b
      return [firstByte (← base64Digit? a) second, secondByte second (← base64Digit? c)]
  | a :: b :: c :: d :: rest => do
      let second ← base64Digit? b
      let third ← base64Digit? c
      return firstByte (← base64Digit? a) second :: secondByte second third ::
        thirdByte third (← base64Digit? d) :: (← base64Groups? rest)
  | _ => none

def base64Bytes? (text : String) : Option (List UInt8) :=
  base64Groups? (text.toList.filter fun c => c != '\n' && c != '\r')

end Text
end BorrowChecker
