import BorrowChecker.Text.Base64
import BorrowChecker.Text.Symbol
import BorrowChecker.Yaml.Node
import BorrowChecker.Yaml.Timestamp

namespace BorrowChecker
namespace Yaml

/-!
The values of YAML scalars.

A scalar that is written plainly and has no tag is a null, a truth value, a point
in time or a number if it looks like one, and a text otherwise.  The tag of one of
these kinds asks for a value of that kind, and is refused if the scalar does not
look like one.  A binary value stands for the text that its bytes encode.  Under
any other tag a scalar is a text.
-/

/-- The value of a scalar. -/
inductive Value where
  | null
  | bool (value : Bool)
  | int (value : Int)
  | float (value : Binary)
  | timestamp (text : String)
  | text (content : List Text.Symbol)
  deriving DecidableEq, Repr

namespace Value

def tag : Value → String
  | null => "!!null"
  | bool _ => "!!bool"
  | int _ => "!!int"
  | float _ => "!!float"
  | timestamp _ => "!!timestamp"
  | text _ => "!!str"

/-- The text that some characters write. -/
def ofText (text : String) : Value := .text (Text.symbols text)

/-- The words that are values. -/
def ofWord? (text : String) : Option Value :=
  if ["", "~", "null", "Null", "NULL"].contains text then some null
  else if ["true", "True", "TRUE"].contains text then some (bool true)
  else if ["false", "False", "FALSE"].contains text then some (bool false)
  else if [".nan", ".NaN", ".NAN"].contains text then some (float .undefined)
  else if [".inf", ".Inf", ".INF", "+.inf", "+.Inf", "+.INF"].contains text then
    some (float (.infinite false))
  else if ["-.inf", "-.Inf", "-.INF"].contains text then some (float (.infinite true))
  else none

/-- Whether every underscore stands between two digits. -/
def underscoresSeparateDigits : (before : Option Char) → List Char → Bool
  | _, [] => true
  | before, c :: rest =>
      (c != '_' || (before.any Char.isDigit && rest.head?.any Char.isDigit)) &&
        underscoresSeparateDigits (some c) rest

/-- The decimal number that a text writes, rounded. -/
def ofDecimal? (text : List Char) : Option Value := do
  let number ← Binary.ofDecimal? (← decimal? text)
  return float number

/-- The number that a text writes.  Underscores may separate digits, and may
stand anywhere if the text starts with a sign or a digit. -/
def ofNumeral? (text : List Char) : Option Value :=
  let plain := text.filter (· != '_')
  match text with
  | '.' :: _ => if underscoresSeparateDigits none text then ofDecimal? plain else none
  | c :: _ =>
      if c.isDigit || c = '+' || c = '-' then
        (integer? plain).map int <|> ofDecimal? plain <|> (innerSigned? plain).map int
      else none
  | [] => none

def ofTimestamp? (text : String) : Option Value :=
  if isTimestamp text then some (timestamp text) else none

/-- The value of a scalar that is written plainly and has no tag. -/
def ofPlain (text : String) : Value :=
  (ofWord? text <|> ofTimestamp? text <|> ofNumeral? text.toList).getD (ofText text)

/-- Whether two values are the same key.  Zeros are, whatever their sign, and a
number that is undefined is not the same as itself. -/
def isSameKey : Value → Value → Bool
  | float .undefined, float .undefined => false
  | float (.finite _ 0 _), float (.finite _ 0 _) => true
  | first, second => first == second

end Value

/-- What all tags of the core kinds start with when they are written out. -/
def coreTagStart : String := "tag:yaml.org,2002:"

def shortTag (tag : String) : String :=
  if coreTagStart.toList.isPrefixOf tag.toList then
    "!!" ++ String.ofList (tag.toList.drop coreTagStart.length)
  else tag

/-- The tag of keys that merge a mapping into another one. -/
def mergeTag : String := "!!merge"

/-- The tags that ask for a value which is not a text. -/
def kindTags : List String := ["!!null", "!!bool", "!!int", "!!float", "!!timestamp"]

/-- The value of the kind that a tag asks for.  A whole number can stand for a
decimal one. -/
def valueOfKind? (tag text : String) : Option Value :=
  let value := Value.ofPlain text
  if tag = value.tag then some value
  else
    match value with
    | .int number =>
        if tag = "!!float" && fitsSigned number then (Binary.ofInt? number).map .float else none
    | _ => none

def taggedValue? (tag text : String) : Option Value :=
  if kindTags.contains tag then valueOfKind? tag text
  else if tag = "!!binary" then (Text.base64Bytes? text).map fun bytes => .text (Text.decode bytes)
  else some (.ofText text)

def scalarValue? (tag : Option String) (isPlain : Bool) (text : String) : Option Value :=
  match tag with
  | some tag => taggedValue? (shortTag tag) text
  | none => if isPlain then some (.ofPlain text) else some (.ofText text)

namespace Node

def isMergeKey : Node → Bool
  | .scalar none isPlain text => isPlain && text == "<<"
  | .scalar (some tag) _ text => shortTag tag == mergeTag && text == "<<"
  | _ => false

/-- The tag of a node in its short form, which is the one of its kind if none was
written.  An alias has no tag of its own. -/
def ownTag : Node → String
  | .scalar (some tag) _ _ | .sequence (some tag) _ | .mapping (some tag) _ => shortTag tag
  | .scalar none isPlain text =>
      if !isPlain then "!!str" else if text == "<<" then mergeTag else (Value.ofPlain text).tag
  | .sequence none _ => "!!seq"
  | .mapping none _ => "!!map"
  | .alias _ _ _ => ""

/-- Whether a key is a text or asks for a merge. -/
def isNameOrMerge (document : Document) (key : Node) : Bool :=
  let tag := match key with
    | .alias _ _ place => (document.nodeAt place).ownTag
    | key => key.ownTag
  tag == "!!str" || tag == mergeTag

/-- Whether two keys are taken to be the same.  Scalars are compared by their
text and aliases by their name; collections are not told apart. -/
def sameKey : Node → Node → Bool
  | .scalar _ _ first, .scalar _ _ second => first == second
  | .sequence _ _, .sequence _ _ => true
  | .mapping _ _, .mapping _ _ => true
  | .alias _ first _, .alias _ second _ => first == second
  | _, _ => false

end Node

def keysDistinct : List (Node × Node) → Bool
  | [] => true
  | (key, _) :: rest => rest.all (fun (other, _) => !key.sameKey other) && keysDistinct rest

end Yaml
end BorrowChecker
