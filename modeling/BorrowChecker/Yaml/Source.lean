import BorrowChecker.Yaml.Cursor

namespace BorrowChecker
namespace Yaml

/-!
The characters of a YAML text.

A text is read in blocks of bytes, each of which is checked as a whole when it is
reached.  A character that is not allowed therefore spoils the block it stands
in, but not the blocks before it, and a document that ends before that block can
still be read.

A byte order mark in front of a text is dropped.  A second one is kept, and then
the first character of every line of the first block is dropped.
-/

/-- The characters a text may be made of. -/
def isAllowed (c : Char) : Bool :=
  let code := c.toNat
  code == 0x09 || code == 0x0A || code == 0x0D || (0x20 ≤ code && code ≤ 0x7E) ||
    code == 0x85 || (0xA0 ≤ code && code ≤ 0xD7FF) || (0xE000 ≤ code && code ≤ 0xFFFD) ||
    0x10000 ≤ code

/-- How many bytes a block has. -/
def blockSize : Nat := 512

def byteOrderMark : Char := '\ufeff'

/-- How many of some characters fit into so many bytes. -/
def fitting (room : Nat) : List Char → Nat
  | [] => 0
  | c :: rest => if c.utf8Size ≤ room then fitting (room - c.utf8Size) rest + 1 else 0

/-- The blocks of a text.  In the first one `room` bytes are left. -/
def blocks : Nat → (room : Nat) → List Char → List (List Char)
  | 0, _, _ => []
  | _, _, [] => []
  | fuel + 1, room, text =>
      let count := fitting room text
      text.take count :: blocks fuel blockSize (text.drop count)

/-- A text as far as it can be read. -/
structure Source where
  /-- The characters of all blocks before the first one that is spoiled. -/
  content : List Char
  /-- Whether there is a spoiled block. -/
  isCut : Bool
  /-- The length of the first block if it starts with a byte order mark. -/
  markedLength : Nat

namespace Source

/-- The readable part of a text. -/
def ofText (text : List Char) : Source :=
  let isMarked := text.head? == some byteOrderMark
  let content := if isMarked then text.drop 1 else text
  let room := if isMarked then blockSize - byteOrderMark.utf8Size else blockSize
  let all := blocks (content.length + 1) room content
  let sound := all.takeWhile fun block => block.all isAllowed
  { content := sound.flatten
    isCut := sound.length < all.length
    markedLength :=
      if content.head? == some byteOrderMark then (all.headD []).length else 0 }

end Source
end Yaml
end BorrowChecker
