import FieldRules.Calendar.Layout
import FieldRules.Calendar.Mail
import FieldRules.Calendar.Standard
import FieldRules.Text.Shape

/-!
# Dates as text

A text is a date if it is a moment in standard notation, a day in one of the common layouts, or a
mail date, whatever white space surrounds it. A date of birth is a text in one layout only: day,
month and year in digits of ASCII, with slashes between them.

## Main definitions

* `readDate` — whether a text is a date
* `birthDay?` — the day of a date of birth
-/

namespace FieldRules

open Text

/-- Whether a text is a date. -/
def readDate (cs : List Char) : Reading :=
  let cs := trim cs
  if cs.isEmpty then .refused
  else if (Standard.readMoment? cs).isSome then .accepted
  else if Layout.common.any fun layout => (layout.read? cs).isSome then .accepted
  else Mail.read cs

/-- The shape of a date of birth. -/
def birthDayShape : Shape :=
  let digit := Shape.one asciiDigits
  .all [digit.between 1 1, .literal ['/'], digit.between 1 1, .literal ['/'], digit.times 4]

/-- The day of a date of birth. -/
def birthDay? (cs : List Char) : Option Day :=
  if birthDayShape.fits cs then Layout.dayFirst.read? cs else none

end FieldRules
