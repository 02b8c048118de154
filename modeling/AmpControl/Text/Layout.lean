/-!
# Columns and digits

Reports line their columns up by padding, and show addresses and masks in hexadecimal with a fixed
least number of digits.
-/

namespace AmpControl.Text

/-- The lower-case hexadecimal digits of a number, at least `digits` of them, after `0x`. -/
def hex (digits value : Nat) : String :=
  "0x" ++ String.ofList ((Nat.toDigits 16 value).leftpad digits '0')

/-- The decimal digits of a number, at least `digits` of them. -/
def decimal (digits value : Nat) : String :=
  String.ofList ((Nat.toDigits 10 value).leftpad digits '0')

/-- The text moved to the right end of a column. -/
def alignRight (width : Nat) (text : String) : String :=
  String.ofList (text.toList.leftpad width ' ')

/-- The text moved to the left end of a column. -/
def alignLeft (width : Nat) (text : String) : String :=
  String.ofList (text.toList.rightpad width ' ')

end AmpControl.Text
