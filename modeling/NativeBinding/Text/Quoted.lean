import NativeBinding.Text.Hexadecimal
import NativeBinding.Text.Numbered
import NativeBinding.Text.Utf8

/-! Text in double quotes, with escapes that keep it on one line and readable. -/
namespace NativeBinding.Text

open Utf8 (Piece)

/-- A character by its number in braces. -/
def numberEscape (c : Char) : List Char :=
  ['\\', 'u', '\x7b'] ++ Nat.toDigits 16 c.toNat ++ ['\x7d']

/-- A character as quoted text shows it. -/
def escapeChar (c : Char) : List Char :=
  match c with
  | '\x00' => ['\\', '0']
  | '\t' => ['\\', 't']
  | '\n' => ['\\', 'n']
  | '\r' => ['\\', 'r']
  | '"' => ['\\', '"']
  | '\\' => ['\\', '\\']
  | c => if isNumbered c then numberEscape c else [c]

/-- The text in quotes. -/
def quote (s : String) : String :=
  "\"" ++ String.ofList (s.toList.flatMap escapeChar) ++ "\""

/-- A byte by its two hexadecimal digits. -/
def byteEscape (b : UInt8) : List Char :=
  let digits := Nat.toDigits 16 b.toNat
  ['\\', 'x'] ++ List.replicate (2 - digits.length) '0' ++ digits

/-- A piece of a native string as quoted text shows it: inside ASCII a control is a byte and an
apostrophe is escaped too. -/
def escapePiece : Piece → List Char
  | .broken bytes => bytes.flatMap byteEscape
  | .char '\'' => ['\\', '\'']
  | .char c =>
    if c.toNat < 0x80 && isNumbered c && c ∉ ['\x00', '\t', '\n', '\r'] then
      byteEscape c.toUInt8
    else escapeChar c

/-- The bytes of a native string in quotes. -/
def quoteBytes (bytes : List UInt8) : String :=
  "\"" ++ String.ofList ((Utf8.pieces .ready bytes).flatMap escapePiece) ++ "\""

end NativeBinding.Text
