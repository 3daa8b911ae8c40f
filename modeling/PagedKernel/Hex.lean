/-!
Contract: hexadecimal text of numbers, with the sign of the base in front and
lower-case digits.

Owns: the text without leading zeros, and the text of at least a given number
of digits.
-/

namespace PagedKernel.Hex

def digits (value : Nat) : String := String.ofList (Nat.toDigits 16 value)

def text (value : Nat) : String := "0x" ++ digits value

/-- Zeros fill the text up to `width` digits. -/
def padded (width value : Nat) : String :=
  let shown := digits value
  "0x" ++ String.ofList (List.replicate (width - shown.length) '0') ++ shown

end PagedKernel.Hex
