/-! Hexadecimal numerals. -/

namespace MotorLink.Text

/-- Upper-case hexadecimal digits, with zeros on the left up to a width. -/
def hexadecimal (width n : Nat) : String :=
  let digits := (Nat.toDigits 16 n).map Char.toUpper
  String.ofList (List.replicate (width - digits.length) '0' ++ digits)

end MotorLink.Text
