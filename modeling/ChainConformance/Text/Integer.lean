/-!
# Integers in text

Reading a whole text as an integer of a fixed range in a given base. A text that is no
such integer is refused with the reason met first from the left.
-/

namespace ChainConformance.Text

/-- Why a text is not an integer of the wanted range. -/
inductive IntegerFault where
  | empty
  | badDigit
  | tooLarge
  | tooSmall
  deriving Repr, DecidableEq

def IntegerFault.message : IntegerFault → String
  | empty => "cannot parse integer from empty string"
  | badDigit => "invalid digit found in string"
  | tooLarge => "number too large to fit in target type"
  | tooSmall => "number too small to fit in target type"

/-- The value of a digit in bases up to 36, letters of either case counting from ten. -/
def digitValue? (c : Char) : Option Nat :=
  if '0' ≤ c ∧ c ≤ '9' then some (c.toNat - '0'.toNat)
  else if 'a' ≤ c ∧ c ≤ 'z' then some (c.toNat - 'a'.toNat + 10)
  else if 'A' ≤ c ∧ c ≤ 'Z' then some (c.toNat - 'A'.toNat + 10)
  else none

def digitIn? (base : Nat) (c : Char) : Option Nat :=
  (digitValue? c).filter (· < base)

/-- Reads digits of one sign onto a value that must stay at most `bound` in size. -/
def readMagnitude (base bound : Nat) (excess : IntegerFault) :
    Nat → List Char → Except IntegerFault Nat
  | n, [] => .ok n
  | n, c :: rest =>
    match digitIn? base c with
    | none => .error .badDigit
    | some d =>
      if n * base + d ≤ bound then readMagnitude base bound excess (n * base + d) rest
      else .error excess

/-- The integers of a fixed width: the greatest one, and the size of the least one. -/
structure IntegerRange where
  greatest : Nat
  least : Nat

def IntegerRange.byte : IntegerRange := ⟨UInt8.size - 1, 0⟩

def IntegerRange.natural64 : IntegerRange := ⟨UInt64.size - 1, 0⟩

def IntegerRange.signed64 : IntegerRange := ⟨UInt64.size / 2 - 1, UInt64.size / 2⟩

def IntegerRange.holds (range : IntegerRange) (n : Int) : Bool :=
  -(range.least : Int) ≤ n && n ≤ (range.greatest : Int)

/-- Reads an integer of `range` in `base`. A leading plus sign is allowed, a minus sign
only where the range has negative numbers. -/
def readInteger (range : IntegerRange) (base : Nat) (s : List Char) :
    Except IntegerFault Int :=
  match s with
  | [] => .error .empty
  | ['+'] => .error .badDigit
  | '+' :: digits =>
    (readMagnitude base range.greatest .tooLarge 0 digits).map Int.ofNat
  | ['-'] => .error .badDigit
  | '-' :: digits =>
    if range.least = 0 then .error .badDigit
    else (readMagnitude base range.least .tooSmall 0 digits).map (fun n => -(n : Int))
  | digits => (readMagnitude base range.greatest .tooLarge 0 digits).map Int.ofNat

end ChainConformance.Text
