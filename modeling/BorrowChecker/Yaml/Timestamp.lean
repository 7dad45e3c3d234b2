import BorrowChecker.Yaml.Number

namespace BorrowChecker
namespace Yaml

/-!
Points in time as they are written in YAML texts.

A point in time is a day of the calendar, which a time of the day may follow.
After the letter T the time has a zone, and after blanks it has none.  Only
whether a text is of this form is of interest, so readers return what is left.
-/

/-- A number of one or two digits, and what is left. -/
def shortNumber? (text : List Char) : Option (Nat × List Char) := do
  let digits := (text.take 2).takeWhile Char.isDigit
  if digits.isEmpty then none else return (← natural? 10 digits, text.drop digits.length)

/-- A number of exactly two digits, and what is left. -/
def twoDigits? (text : List Char) : Option (Nat × List Char) :=
  if ((text.take 2).filter Char.isDigit).length = 2 then shortNumber? text else none

/-- What is left after a character that has to be there. -/
def after? (c : Char) : List Char → Option (List Char)
  | [] => none
  | first :: rest => if first = c then some rest else none

/-- Whether a year has a day more. -/
def isLeapYear (year : Nat) : Bool := year % 4 = 0 && (year % 100 != 0 || year % 400 = 0)

def daysIn (year month : Nat) : Nat :=
  if month = 2 then if isLeapYear year then 29 else 28
  else if [4, 6, 9, 11].contains month then 30
  else 31

/-- Read a day of the calendar: a year of four digits, a month and a day. -/
def afterDate? (text : List Char) : Option (List Char) := do
  let digits := text.takeWhile Char.isDigit
  let year ← natural? 10 digits
  let (month, rest) ← shortNumber? (← after? '-' (text.drop digits.length))
  let (day, rest) ← shortNumber? (← after? '-' rest)
  if digits.length = 4 && 1 ≤ month && month ≤ 12 && 1 ≤ day && day ≤ daysIn year month then
    return rest
  else none

/-- Read the fraction of a second, if there is one. -/
def afterFraction : List Char → List Char
  | mark :: digit :: rest =>
      if (mark = '.' || mark = ',') && digit.isDigit then rest.dropWhile Char.isDigit
      else mark :: digit :: rest
  | rest => rest

def afterTime? (text : List Char) : Option (List Char) := do
  let (hour, rest) ← shortNumber? text
  let (minute, rest) ← shortNumber? (← after? ':' rest)
  let (second, rest) ← shortNumber? (← after? ':' rest)
  if hour < 24 && minute < 60 && second < 60 then return afterFraction rest else none

/-- Read a time zone: the letter Z, or a distance in hours and minutes. -/
def afterZone? : List Char → Option (List Char)
  | 'Z' :: rest => some rest
  | sign :: rest => do
      let (hours, rest) ← twoDigits? rest
      let (minutes, rest) ← twoDigits? (← after? ':' rest)
      if (sign = '+' || sign = '-') && hours ≤ 24 && minutes ≤ 60 then return rest else none
  | [] => none

/-- Read what follows a day. -/
def afterDay? : List Char → Option (List Char)
  | 'T' :: rest | 't' :: rest => do afterZone? (← afterTime? rest)
  | ' ' :: rest => afterTime? (rest.dropWhile (· == ' '))
  | rest => some rest

def isTimestamp (text : String) : Bool :=
  ((afterDate? text.toList).bind afterDay?) == some []

end Yaml
end BorrowChecker
