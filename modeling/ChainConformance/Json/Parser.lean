import ChainConformance.Json

/-!
# Reading JSON

A text is first cut into tokens by a scanner that looks at one character at a time, then
put together by a machine with a stack of open arrays and objects. When the text breaks
off or breaks the grammar, what had been read until then is kept, so that a fault in the
values before the break can still be told from the break itself.
-/

namespace ChainConformance.Json

/-- The smallest parts of a text. -/
inductive Token where
  | openArray
  | closeArray
  | openObject
  | closeObject
  | comma
  | colon
  | text (s : String)
  | damagedText
  | literal (value : Json)
  | fault
  deriving Repr

/-- What the scanner is in the middle of. Characters seen stand in reverse order. -/
inductive Mode where
  | between
  | word (missing : List Char) (value : Json)
  | number (seen : List Char)
  | text (seen : List Char)
  | escape (seen : List Char)
  | unicode (seen : List Char) (high : Option Nat) (missing : Nat) (code : Nat)
  | surrogate (seen : List Char) (high : Nat)
  | surrogateEscape (seen : List Char) (high : Nat)
  | damaged
  | damagedEscape
  | damagedUnicode (missing : Nat)
  | stuck
  deriving Repr

def isNumberChar (c : Char) : Bool :=
  c.isDigit || c == '-' || c == '+' || c == '.' || c == 'e' || c == 'E'

def isSpace (c : Char) : Bool := c == ' ' || c == '\t' || c == '\n' || c == '\r'

def ofDigits (ds : List Char) : Nat :=
  ds.foldl (fun n c => n * 10 + (c.toNat - '0'.toNat)) 0

structure NumberParts where
  negative : Bool
  whole : List Char
  fraction : Option (List Char)
  exponent : Option (Bool × List Char)

def exponentParts : List Char → Bool × List Char
  | '-' :: ds => (true, ds)
  | '+' :: ds => (false, ds)
  | ds => (false, ds)

def numberParts (cs : List Char) : NumberParts :=
  let (negative, cs) : Bool × List Char :=
    match cs with
    | '-' :: rest => (true, rest)
    | rest => (false, rest)
  let whole := cs.takeWhile Char.isDigit
  let cs := cs.dropWhile Char.isDigit
  let (fraction, cs) : Option (List Char) × List Char :=
    match cs with
    | '.' :: rest => (some (rest.takeWhile (fun c => c ≠ 'e' ∧ c ≠ 'E')),
        rest.dropWhile (fun c => c ≠ 'e' ∧ c ≠ 'E'))
    | rest => (none, rest)
  match cs with
  | [] => ⟨negative, whole, fraction, none⟩
  | 'e' :: rest => ⟨negative, whole, fraction, some (exponentParts rest)⟩
  | 'E' :: rest => ⟨negative, whole, fraction, some (exponentParts rest)⟩
  | _ => ⟨negative, [], fraction, none⟩

def areDigits (ds : List Char) : Bool := !ds.isEmpty && ds.all Char.isDigit

/-- Whether the parts are those of a number: digits wherever digits belong, and no zero in
front of other digits. -/
def NumberParts.isNumber (p : NumberParts) : Bool :=
  areDigits p.whole && (p.whole.head? != some '0' || p.whole.length == 1) &&
    (p.fraction.map areDigits).getD true && (p.exponent.map (areDigits ·.2)).getD true

/-- The value of a number. An integer outside the 64-bit range and minus zero are decimal
numbers. -/
def NumberParts.value (p : NumberParts) : Json :=
  let fraction := p.fraction.getD []
  let n := ofDigits p.whole
  match p.fraction, p.exponent with
  | none, none =>
    if p.negative then
      if n = 0 then decimal ⟨true, 0, 0⟩
      else if n ≤ UInt64.size / 2 then integer (-n)
      else decimal ⟨true, n, 0⟩
    else if n < UInt64.size then integer n
    else decimal ⟨false, n, 0⟩
  | _, e =>
    let shift : Int := match e with
      | none => 0
      | some (true, ds) => -(ofDigits ds : Int)
      | some (false, ds) => ofDigits ds
    decimal ⟨p.negative, ofDigits (p.whole ++ fraction), shift - fraction.length⟩

def numberToken (cs : List Char) : Token :=
  let p := numberParts cs
  if p.isNumber then .literal p.value else .fault

/-- The token that starts with a character between tokens, and what the scanner is then in
the middle of. -/
def start (c : Char) : List Token × Mode :=
  if isSpace c then ([], .between)
  else if c = '[' then ([.openArray], .between)
  else if c = ']' then ([.closeArray], .between)
  else if c = '\x7b' then ([.openObject], .between)
  else if c = '\x7d' then ([.closeObject], .between)
  else if c = ',' then ([.comma], .between)
  else if c = ':' then ([.colon], .between)
  else if c = '"' then ([], .text [])
  else if c = '-' ∨ c.isDigit then ([], .number [c])
  else if c = 'n' then ([], .word ['u', 'l', 'l'] null)
  else if c = 't' then ([], .word ['r', 'u', 'e'] (bool true))
  else if c = 'f' then ([], .word ['a', 'l', 's', 'e'] (bool false))
  else ([.fault], .stuck)

def escaped? (c : Char) : Option Char :=
  if c = '"' ∨ c = '\\' ∨ c = '/' then some c
  else if c = 'b' then some '\x08'
  else if c = 'f' then some '\x0c'
  else if c = 'n' then some '\n'
  else if c = 'r' then some '\r'
  else if c = 't' then some '\t'
  else none

def hexValue? (c : Char) : Option Nat :=
  if '0' ≤ c ∧ c ≤ '9' then some (c.toNat - 48)
  else if 'a' ≤ c ∧ c ≤ 'f' then some (c.toNat - 87)
  else if 'A' ≤ c ∧ c ≤ 'F' then some (c.toNat - 55)
  else none

/-- What follows a complete four-digit escape. Halves of a surrogate pair are put together;
one that stands alone damages the text. -/
def afterUnicode (seen : List Char) (high : Option Nat) (code : Nat) : List Token × Mode :=
  match high with
  | none =>
    if 0xD800 ≤ code ∧ code < 0xDC00 then ([], .surrogate seen code)
    else if 0xDC00 ≤ code ∧ code < 0xE000 then ([], .damaged)
    else ([], .text (Char.ofNat code :: seen))
  | some h =>
    if 0xDC00 ≤ code ∧ code < 0xE000 then
      ([], .text (Char.ofNat (0x10000 + (h - 0xD800) * 0x400 + (code - 0xDC00)) :: seen))
    else ([], .damaged)

/-- The end of a damaged text, or what the scanner is in the middle of after a character of it. -/
def stepDamaged (c : Char) : List Token × Mode :=
  if c = '"' then ([.damagedText], .between)
  else if c = '\\' then ([], .damagedEscape)
  else if c < ' ' then ([.fault], .stuck)
  else ([], .damaged)

def stepDamagedEscape (c : Char) : List Token × Mode :=
  if c = 'u' then ([], .damagedUnicode 4)
  else if (escaped? c).isSome then ([], .damaged)
  else ([.fault], .stuck)

/-- The tokens that end with a character, and what the scanner is then in the middle of. -/
def step : Mode → Char → List Token × Mode
  | .between, c => start c
  | .word missing value, c =>
    match missing with
    | [] => ([.fault], .stuck)
    | [m] => if c = m then ([.literal value], .between) else ([.fault], .stuck)
    | m :: rest => if c = m then ([], .word rest value) else ([.fault], .stuck)
  | .number seen, c =>
    if isNumberChar c then ([], .number (c :: seen))
    else
      let (tokens, mode) := start c
      (numberToken seen.reverse :: tokens, mode)
  | .text seen, c =>
    if c = '"' then ([.text (String.ofList seen.reverse)], .between)
    else if c = '\\' then ([], .escape seen)
    else if c < ' ' then ([.fault], .stuck)
    else ([], .text (c :: seen))
  | .escape seen, c =>
    if c = 'u' then ([], .unicode seen none 4 0)
    else match escaped? c with
      | some e => ([], .text (e :: seen))
      | none => ([.fault], .stuck)
  | .unicode seen high missing code, c =>
    match hexValue? c with
    | none => ([.fault], .stuck)
    | some d =>
      if missing ≤ 1 then afterUnicode seen high (code * 16 + d)
      else ([], .unicode seen high (missing - 1) (code * 16 + d))
  | .surrogate seen high, c =>
    if c = '\\' then ([], .surrogateEscape seen high) else stepDamaged c
  | .surrogateEscape seen high, c =>
    if c = 'u' then ([], .unicode seen (some high) 4 0) else stepDamagedEscape c
  | .damaged, c => stepDamaged c
  | .damagedEscape, c => stepDamagedEscape c
  | .damagedUnicode missing, c =>
    match hexValue? c with
    | none => ([.fault], .stuck)
    | some _ => if missing ≤ 1 then ([], .damaged) else ([], .damagedUnicode (missing - 1))
  | .stuck, _ => ([], .stuck)

def Mode.atEnd : Mode → List Token
  | .between => []
  | .stuck => []
  | .number seen => [numberToken seen.reverse]
  | _ => [.fault]

/-- An array or object that is not closed yet, with what it holds in reverse order. An object
with a damaged name holds what stood before it. -/
inductive Frame where
  | array (items : List Json)
  | object (fields : List (String × Json)) (name : Option String)
  | damaged (fields : List (String × Json))
  deriving Repr

inductive Expect where
  | value
  | valueOrClose
  | separator
  | name
  | nameOrClose
  | colon
  | nothing
  deriving Repr, DecidableEq

/-- The state of the machine: the open arrays and objects, the innermost first, what may
come next, and the whole value once it is complete. -/
structure Machine where
  frames : List Frame
  expect : Expect
  result : Option Json
  deriving Repr

def Machine.initial : Machine := ⟨[], .value, none⟩

def Machine.emit (m : Machine) (j : Json) : Machine :=
  match m.frames with
  | [] => ⟨[], .nothing, some j⟩
  | .array items :: rest => ⟨.array (j :: items) :: rest, .separator, none⟩
  | .object fields (some name) :: rest =>
    ⟨.object ((name, j) :: fields) none :: rest, .separator, none⟩
  | .object fields none :: rest => ⟨.object fields none :: rest, .separator, none⟩
  | .damaged fields :: rest => ⟨.damaged fields :: rest, .separator, none⟩

def Machine.descend (m : Machine) (f : Frame) (e : Expect) : Machine := ⟨f :: m.frames, e, none⟩

def Expect.allowsValue (e : Expect) : Bool := e == .value || e == .valueOrClose

/-- Whether the end of an array or object may come next, a name or value being optional. -/
def Expect.allowsClose (e : Expect) : Bool :=
  e == .valueOrClose || e == .nameOrClose || e == .separator

def Machine.next? (m : Machine) : Token → Option Machine
  | .literal j => if m.expect.allowsValue then some (m.emit j) else none
  | .text s =>
    if m.expect.allowsValue then some (m.emit (.text s))
    else if m.expect = .name ∨ m.expect = .nameOrClose then
      match m.frames with
      | .object fields _ :: rest => some ⟨.object fields (some s) :: rest, .colon, none⟩
      | .damaged fields :: rest => some ⟨.damaged fields :: rest, .colon, none⟩
      | _ => none
    else none
  | .damagedText =>
    if m.expect.allowsValue then some (m.emit (.damaged []))
    else if m.expect = .name ∨ m.expect = .nameOrClose then
      match m.frames with
      | .object fields _ :: rest => some ⟨.damaged fields :: rest, .colon, none⟩
      | .damaged fields :: rest => some ⟨.damaged fields :: rest, .colon, none⟩
      | _ => none
    else none
  | .openArray =>
    if m.expect.allowsValue then some (m.descend (.array []) .valueOrClose) else none
  | .openObject =>
    if m.expect.allowsValue then some (m.descend (.object [] none) .nameOrClose) else none
  | .closeArray =>
    match m.frames with
    | .array items :: rest =>
      if m.expect.allowsClose then
        some (Machine.emit ⟨rest, .value, none⟩ (.array items.reverse))
      else none
    | _ => none
  | .closeObject =>
    match m.frames with
    | .object fields _ :: rest =>
      if m.expect.allowsClose then
        some (Machine.emit ⟨rest, .value, none⟩ (.object fields.reverse))
      else none
    | .damaged fields :: rest =>
      if m.expect.allowsClose then
        some (Machine.emit ⟨rest, .value, none⟩ (.damaged fields.reverse))
      else none
    | _ => none
  | .comma =>
    match m.frames with
    | .array _ :: _ => if m.expect = .separator then some { m with expect := .value } else none
    | .object _ _ :: _ => if m.expect = .separator then some { m with expect := .name } else none
    | .damaged _ :: _ => if m.expect = .separator then some { m with expect := .name } else none
    | [] => none
  | .colon => if m.expect = .colon then some { m with expect := .value } else none
  | .fault => none

def closeFrames : Option Json → List Frame → Option Json
  | inner, [] => inner
  | inner, .array items :: rest =>
    closeFrames (some (.array (items.reverse ++ inner.toList))) rest
  | inner, .object fields name :: rest =>
    let last := match name, inner with
      | some n, some j => [(n, j)]
      | _, _ => []
    closeFrames (some (.object (fields.reverse ++ last))) rest
  | _, .damaged fields :: rest => closeFrames (some (.damaged fields.reverse)) rest

/-- What had been read when the machine stopped, with all that is open closed. -/
def Machine.soFar (m : Machine) : Option Json :=
  match m.result with
  | some j => some j
  | none => closeFrames none m.frames

/-- A reading in progress: the scanner, the machine, and whether a token has already come
that the machine had no use for. -/
structure Progress where
  mode : Mode
  machine : Machine
  broken : Bool
  deriving Repr

def Progress.initial : Progress := ⟨.between, .initial, false⟩

/-- The machine takes a token, unless the reading is broken. -/
def Progress.take (p : Progress) (t : Token) : Progress :=
  if p.broken then p
  else match p.machine.next? t with
    | some m => { p with machine := m }
    | none => { p with broken := true }

def Progress.feed (p : Progress) (c : Char) : Progress :=
  let (tokens, mode) := step p.mode c
  tokens.foldl Progress.take { p with mode := mode }

/-- The value, or what had been read of it. -/
def Progress.finish (p : Progress) : Except (Option Json) Json :=
  let p := p.mode.atEnd.foldl Progress.take p
  match p.broken, p.machine.result with
  | false, some j => .ok j
  | _, _ => .error p.machine.soFar

/-- Reads a whole text as one value. A text that is none gives what had been read before
the place where it breaks the grammar. -/
def parse (s : String) : Except (Option Json) Json :=
  (s.toList.foldl Progress.feed .initial).finish

end ChainConformance.Json
