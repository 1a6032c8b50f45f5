/-!
Values shown as text by their structure, on one line or indented with one item a line.
-/
namespace NativeBinding.Text

/-- How the items of a group are enclosed. -/
inductive Enclosure where
  /-- `Name(item, …)` -/
  | arguments
  /-- `Name` with named items in braces -/
  | fields
  /-- The same, with two dots for items that are not shown. -/
  | someFields
  /-- `[item, …]` -/
  | sequence
  deriving DecidableEq

/-- The structure of a value that is to be shown. -/
inductive Outline where
  | leaf (text : String)
  | field (name : String) (value : Outline)
  | group (enclosure : Enclosure) (name : String) (items : List Outline)

namespace Enclosure

def opening : Enclosure → String
  | .arguments => "("
  | .fields | .someFields => " \x7b"
  | .sequence => "["

def closing : Enclosure → String
  | .arguments => ")"
  | .fields | .someFields => "\x7d"
  | .sequence => "]"

/-- What separates the items from the enclosure on one line. -/
def margin : Enclosure → String
  | .fields | .someFields => " "
  | .arguments | .sequence => ""

/-- What stands behind the last item. -/
def omission : Enclosure → List String
  | .someFields => [".."]
  | .arguments | .fields | .sequence => []

end Enclosure

/-- Puts text before the first of several lines. -/
def beforeFirst (text : String) : List String → List String
  | [] => [text]
  | line :: lines => (text ++ line) :: lines

/-- Puts a comma behind the last of several lines. -/
def commaAfterLast : List String → List String
  | [] => []
  | [line] => [line ++ ","]
  | line :: next :: lines => line :: commaAfterLast (next :: lines)

def indent (line : String) : String := "    " ++ line

namespace Outline

mutual

/-- The value on one line. -/
def inline : Outline → String
  | .leaf text => text
  | .field name value => name ++ ": " ++ inline value
  | .group enclosure name items =>
    name ++ enclosure.opening ++ enclosure.margin ++
      ", ".intercalate (inlineAll items ++ enclosure.omission) ++
      enclosure.margin ++ enclosure.closing

def inlineAll : List Outline → List String
  | [] => []
  | item :: items => inline item :: inlineAll items

end

mutual

/-- The value with one item a line. -/
def lines : Outline → List String
  | .leaf text => [text]
  | .field name value => beforeFirst (name ++ ": ") (lines value)
  | .group enclosure name items =>
    match items with
    | [] => [inline (.group enclosure name [])]
    | items =>
      let inner := itemLines items ++ enclosure.omission
      (name ++ enclosure.opening) :: inner.map indent ++ [enclosure.closing]

def itemLines : List Outline → List String
  | [] => []
  | item :: items => commaAfterLast (lines item) ++ itemLines items

end

/-- The value indented, as one text. -/
def indented (o : Outline) : String := "\n".intercalate o.lines

/-- A truth value by its name. -/
def ofBool (b : Bool) : Outline := .leaf (if b then "true" else "false")

def ofNat (n : Nat) : Outline := .leaf (toString n)

def ofInt (n : Int) : Outline := .leaf (toString n)

/-- A value that may be absent. -/
def ofOption : Option Outline → Outline
  | none => .leaf "None"
  | some o => .group .arguments "Some" [o]

/-- A value wrapped by one name. -/
def wrap (name : String) (o : Outline) : Outline := .group .arguments name [o]

def ofList (items : List Outline) : Outline := .group .sequence "" items

end Outline

end NativeBinding.Text
