import ChainConformance.Json
import ChainConformance.Text.Hex

/-!
# Writing JSON

The compact form of a value: no white space, the shortest escape of a control character,
all other characters as they are.
-/

namespace ChainConformance.Json

def escape (c : Char) : List Char :=
  if c = '"' then ['\\', '"']
  else if c = '\\' then ['\\', '\\']
  else if c = '\x08' then ['\\', 'b']
  else if c = '\x0c' then ['\\', 'f']
  else if c = '\n' then ['\\', 'n']
  else if c = '\r' then ['\\', 'r']
  else if c = '\t' then ['\\', 't']
  else if c < ' ' then ['\\', 'u', '0', '0'] ++ Hex.digits (UInt8.ofNat c.toNat)
  else [c]

def quote (s : String) : List Char := '"' :: (s.toList.flatMap escape ++ ['"'])

def printInteger : Int → List Char
  | .ofNat n => Nat.toDigits 10 n
  | .negSucc n => '-' :: Nat.toDigits 10 (n + 1)

/-- A decimal number, always with a mark that it is none of the integers. -/
def printDecimal (d : Decimal) : List Char :=
  let sign := if d.negative then ['-'] else []
  if d.exponent = 0 then sign ++ Nat.toDigits 10 d.digits ++ ['.', '0']
  else sign ++ Nat.toDigits 10 d.digits ++ 'e' :: printInteger d.exponent

mutual

/-- The characters of a value's compact form. There is none for what is damaged. -/
def print : Json → List Char
  | null => ['n', 'u', 'l', 'l']
  | damaged _ => ['n', 'u', 'l', 'l']
  | bool true => ['t', 'r', 'u', 'e']
  | bool false => ['f', 'a', 'l', 's', 'e']
  | integer n => printInteger n
  | decimal d => printDecimal d
  | text s => quote s
  | array [] => ['[', ']']
  | array (j :: rest) => '[' :: (print j ++ printItems rest)
  | object [] => ['\x7b', '\x7d']
  | object ((name, value) :: rest) =>
    '\x7b' :: (quote name ++ ':' :: (print value ++ printFields rest))

def printItems : List Json → List Char
  | [] => [']']
  | j :: rest => ',' :: (print j ++ printItems rest)

def printFields : List (String × Json) → List Char
  | [] => ['\x7d']
  | (name, value) :: rest =>
    ',' :: (quote name ++ ':' :: (print value ++ printFields rest))

end

def toCompact (j : Json) : String := String.ofList (print j)

end ChainConformance.Json
