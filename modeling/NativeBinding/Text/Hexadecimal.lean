/-! Numbers in hexadecimal, and texts padded to a column. -/
namespace NativeBinding.Text

/-- The number in lower case hexadecimal digits behind the mark 0x. -/
def hexadecimal (n : Nat) : String := "0x" ++ String.ofList (Nat.toDigits 16 n)

/-- The hexadecimal form of a code, with at least four digits. -/
def hexCode (n : Nat) : String :=
  let digits := Nat.toDigits 16 n
  "0x" ++ String.ofList (List.replicate (4 - digits.length) '0' ++ digits)

/-- The text followed by as many spaces as fill the column. -/
def padRight (width : Nat) (s : String) : String :=
  s ++ String.ofList (List.replicate (width - s.length) ' ')

end NativeBinding.Text
