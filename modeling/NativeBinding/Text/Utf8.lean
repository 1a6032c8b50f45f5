/-!
Text as bytes. The decoder reads one byte at a time and cuts any byte sequence into pieces, each a
character or a maximal part of one that broke off; no byte is lost and none is read twice.
-/
namespace NativeBinding.Text.Utf8

/-- The encoding of a text. -/
def encode (s : String) : List UInt8 := s.toList.flatMap String.utf8EncodeChar

/-- A stretch of bytes as the decoder cuts it. -/
inductive Piece where
  | char (c : Char)
  | broken (bytes : List UInt8)
  deriving DecidableEq

/-- What the decoder has of the character it is reading. -/
inductive State where
  /-- Between two characters. -/
  | ready
  /-- After the bytes `taken`, which carry `value`: the next byte has to lie between `low` and
  `high`, and `more` continuation bytes follow it. -/
  | within (taken : List UInt8) (value more : Nat) (low high : UInt8)
  deriving DecidableEq

/-- Reading a byte between two characters. The bounds on the second byte exclude overlong forms,
surrogates and values past the last code point. -/
def start (b : UInt8) : List Piece × State :=
  if b < 0x80 then ([.char (Char.ofNat b.toNat)], .ready)
  else if b < 0xC2 then ([.broken [b]], .ready)
  else if b < 0xE0 then ([], .within [b] (b.toNat - 0xC0) 0 0x80 0xBF)
  else if b < 0xF0 then
    ([], .within [b] (b.toNat - 0xE0) 1 (if b = 0xE0 then 0xA0 else 0x80)
      (if b = 0xED then 0x9F else 0xBF))
  else if b < 0xF5 then
    ([], .within [b] (b.toNat - 0xF0) 2 (if b = 0xF0 then 0x90 else 0x80)
      (if b = 0xF4 then 0x8F else 0xBF))
  else ([.broken [b]], .ready)

/-- Reading one byte. A byte that cannot continue the current character ends it as broken and is
itself read as the start of the next. -/
def step : State → UInt8 → List Piece × State
  | .ready, b => start b
  | .within taken value more low high, b =>
    if low ≤ b ∧ b ≤ high then
      let value := value * 64 + (b.toNat - 0x80)
      match more with
      | 0 => ([.char (Char.ofNat value)], .ready)
      | more + 1 => ([], .within (taken ++ [b]) value more 0x80 0xBF)
    else
      let (pieces, state) := start b
      (.broken taken :: pieces, state)

/-- The pieces of a byte sequence, read from a state. -/
def pieces : State → List UInt8 → List Piece
  | .ready, [] => []
  | .within taken .., [] => [.broken taken]
  | state, b :: bytes => (step state b).1 ++ pieces (step state b).2 bytes

/-- The text of a byte sequence, each broken part shown as one replacement character. -/
def decodeLossy (bytes : List UInt8) : String :=
  String.ofList <| (pieces .ready bytes).map fun
    | .char c => c
    | .broken _ => '\uFFFD'

/-- The text that a byte sequence encodes, if nothing in it is broken. -/
def decode? (bytes : List UInt8) : Option String :=
  String.ofList <$> (pieces .ready bytes).mapM fun
    | .char c => some c
    | .broken _ => none

/-- The bytes of a native string: all before its first NUL. -/
def untilNul (bytes : List UInt8) : List UInt8 := bytes.takeWhile (· ≠ 0)

/-- The text of a native string. -/
def nativeText (bytes : List UInt8) : String := decodeLossy (untilNul bytes)

/-- The order of texts by their encodings, byte by byte. -/
def Before (a b : String) : Prop := encode a < encode b

instance : DecidableRel Before := fun a b => inferInstanceAs (Decidable (encode a < encode b))

theorem Before.trans {a b c : String} (hab : Before a b) (hbc : Before b c) : Before a c :=
  List.lt_trans hab hbc

theorem Before.irrefl (a : String) : ¬ Before a a := List.lt_irrefl _

end NativeBinding.Text.Utf8
