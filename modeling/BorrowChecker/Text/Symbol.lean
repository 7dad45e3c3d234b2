namespace BorrowChecker
namespace Text

/-!
Texts that come from bytes.

Bytes need not be a well-formed text.  A text is therefore read as a list of
symbols: characters, and single bytes that belong to no character.  No bytes are
lost that way, and two lists of bytes give the same symbols only if they are
equal.
-/

/-- A symbol of a text: a character, or a byte that belongs to none. -/
inductive Symbol where
  | char (c : Char)
  | stray (byte : UInt8)
  deriving DecidableEq, Repr

/-- The symbols of a well-formed text. -/
def symbols (text : String) : List Symbol := text.toList.map .char

/-- Whether a byte continues a character. -/
def isTrail (byte : UInt8) : Bool := byte.toNat / 64 = 2

/-- What the first byte of a character tells: how many bytes continue it, the
leading bits of its code, and the least code that is written with as many
bytes. -/
def lead? (byte : UInt8) : Option (Nat × Nat × Nat) :=
  let value := byte.toNat
  if value < 0x80 then some (0, value, 0)
  else if value < 0xC0 then none
  else if value < 0xE0 then some (1, value % 32, 0x80)
  else if value < 0xF0 then some (2, value % 16, 0x800)
  else if value < 0xF8 then some (3, value % 8, 0x10000)
  else none

/-- The character that a byte starts, and how many of the bytes after it belong
to the character. -/
def character? (first : UInt8) (rest : List UInt8) : Option (Char × Nat) := do
  let (count, bits, least) ← lead? first
  let trail := rest.take count
  let code := trail.foldl (fun code byte => code * 64 + byte.toNat % 64) bits
  if trail.length = count && trail.all isTrail && least ≤ code && decide code.isValidChar then
    some (Char.ofNat code, count)
  else none

/-- The symbols that some bytes stand for. -/
def decode : List UInt8 → List Symbol
  | [] => []
  | first :: rest =>
      match character? first rest with
      | some (c, count) => .char c :: decode (rest.drop count)
      | none => .stray first :: decode rest
termination_by bytes => bytes.length
decreasing_by
  · simp only [List.length_drop, List.length_cons]
    omega
  · simp only [List.length_cons]
    omega

end Text
end BorrowChecker
