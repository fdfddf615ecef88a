/-!
# Decimal words

An unsigned 32-bit number in text is an optional `+` and then decimal digits, at least one. The
first fault from the left decides: an empty text, a character that is no digit, or the digit with
which the value leaves the range.

`render` writes a number without a sign and without leading zeros.
-/

namespace ActorMesh.Text.Numeral

/-- Why a text is no decimal word. -/
inductive Fault
  | empty
  | invalidDigit
  | tooLarge
  deriving DecidableEq, Repr

/-- The wording of a fault. -/
def Fault.message : Fault → String
  | .empty => "cannot parse integer from empty string"
  | .invalidDigit => "invalid digit found in string"
  | .tooLarge => "number too large to fit in target type"

/-- The value of an ASCII digit. -/
def digit? (c : Char) : Option Nat := if c.isDigit then some (c.toNat - 48) else none

/-- Reads digits into a value that so far is `n`. -/
def digits (n : Nat) : List Char → Except Fault Nat
  | [] => .ok n
  | c :: rest =>
    match digit? c with
    | none => .error .invalidDigit
    | some d => if 10 * n + d < UInt32.size then digits (10 * n + d) rest else .error .tooLarge

/-- The value of a text. -/
def parse : List Char → Except Fault UInt32
  | [] => .error .empty
  | ['+'] => .error .invalidDigit
  | '+' :: rest => (digits 0 rest).map UInt32.ofNat
  | cs => (digits 0 cs).map UInt32.ofNat

/-- The text of a number. -/
def render (n : UInt32) : String := toString n.toNat

end ActorMesh.Text.Numeral
