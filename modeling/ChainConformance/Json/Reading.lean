import ChainConformance.Bytes
import ChainConformance.Json.Parser
import ChainConformance.Text.Blank
import ChainConformance.Word

/-!
# Reading values out of JSON

The JSON forms of the scalars, lists, maps and records of the library. Records are read
field by field: of several faults the one counts that stands first in the text, and fields
that are missing are missed at the end.
-/

namespace ChainConformance.Json

/-- Why a JSON value does not have the wanted form. -/
inductive Fault where
  | shape
  | unknownException (name : String)
  | badInteger (written : String) (fault : Text.IntegerFault)
  | outOfRange (n : Int)
  deriving Repr, DecidableEq

def Fault.message? : Fault → Option String
  | shape => none
  | unknownException name => some ("Unknown exception " ++ name)
  | badInteger written fault =>
    some ("invalid number " ++ written ++ ": " ++ fault.message)
  | outOfRange n => some ("number " ++ toString n ++ " out of range")

abbrev Read (α : Type) := Except Fault α

def Read.ofOption {α : Type} : Option α → Read α
  | some a => .ok a
  | none => .error .shape

def readText : Json → Read String
  | text s => .ok s
  | _ => .error .shape

def readBool : Json → Read Bool
  | bool b => .ok b
  | _ => .error .shape

def readIntegerIn (range : Text.IntegerRange) : Json → Read Int
  | integer n => if range.holds n then .ok n else .error .shape
  | _ => .error .shape

def readNatural (j : Json) : Read Nat := (readIntegerIn .natural64 j).map Int.toNat

def readByte (j : Json) : Read UInt8 :=
  (readIntegerIn .byte j).map (fun n => UInt8.ofNat n.toNat)

/-- Reads a word: a number, or text in any of the bases. -/
def readWord : Json → Read Word
  | integer n => if 0 ≤ n then .ok (BitVec.ofNat 256 n.toNat) else .error .shape
  | text s => .ofOption (Word.ofText? s)
  | _ => .error .shape

/-- Reads a 64-bit number: a number, or text in any of the bases. -/
def readUInt64 : Json → Read UInt64
  | integer n => if 0 ≤ n then .ok (UInt64.ofNat n.toNat) else .error .shape
  | text s => .ofOption (uint64OfText? s)
  | _ => .error .shape

/-- Reads bytes: hexadecimal text, or the list of the bytes. -/
def readBytes : Json → Read Bytes
  | text s => (Hex.decode s).mapError (fun _ => .shape)
  | array items => items.mapM readByte
  | _ => .error .shape

def readFixed {n : Nat} (j : Json) : Read (FixedBytes n) := do
  .ofOption (FixedBytes.ofBytes? (← readBytes j))

def readOption {α : Type} (f : Json → Read α) : Json → Read (Option α)
  | null => .ok none
  | j => (f j).map some

def readList {α : Type} (f : Json → Read α) : Json → Read (List α)
  | array items => items.mapM f
  | _ => .error .shape

/-- The least size in the upper range of doubles that no double holds. -/
def doubleBound : Nat := Nat.pow 2 1024 - Nat.pow 2 970

def isHuge (d : Decimal) : Bool :=
  if d.digits = 0 then false
  else
    let places : Int := (Nat.toDigits 10 d.digits).length + d.exponent
    if 310 < places then true
    else if places < 308 then false
    else if 0 ≤ d.exponent then doubleBound ≤ d.digits * Nat.pow 10 d.exponent.toNat
    else doubleBound * Nat.pow 10 (-d.exponent).toNat ≤ d.digits

mutual

/-- Whether arrays and objects are nested at most `room` deep, no number is too large to be a
double, and no text is damaged. -/
def fits (room : Nat) : Json → Bool
  | decimal d => !isHuge d
  | array items => 0 < room && itemsFit (room - 1) items
  | object fields => 0 < room && fieldsFit (room - 1) fields
  | damaged _ => false
  | _ => true

def itemsFit (room : Nat) : List Json → Bool
  | [] => true
  | j :: rest => fits room j && itemsFit room rest

def fieldsFit (room : Nat) : List (String × Json) → Bool
  | [] => true
  | (_, j) :: rest => fits room j && fieldsFit room rest

end

/-- How deep the arrays and objects of a document may be nested where all of it counts. -/
def depthLimit : Nat := 127

def readAny (depth : Nat) (j : Json) : Read Json :=
  if fits (depthLimit - depth) j then .ok j else .error .shape

def fixedOfName {n : Nat} (name : String) : Read (FixedBytes n) := readFixed (text name)

def wordOfName (name : String) : Read Word := readWord (text name)

/-- Reads a map whose keys are names of fields. Of several fields with one key the last
counts, yet all must have the wanted form. -/
def readEntries {κ ν : Type} [Key κ] (key : String → Read κ) (value : Json → Read ν)
    (fields : List (String × Json)) : Read (OrderedMap κ ν) :=
  fields.foldlM (fun m f => do
    let k ← key f.1
    let v ← value f.2
    return m.insert k v) .empty

def readMap {κ ν : Type} [Key κ] (key : String → Read κ) (value : Json → Read ν) :
    Json → Read (OrderedMap κ ν)
  | object fields => readEntries key value fields
  | damaged fields => do
    let _ ← readEntries key value fields
    .error .shape
  | _ => .error .shape

/-- A reader of some of the fields of a record. From the fields of an object it gives a
value, or the first fault and how many fields stand before it. A record may also be
written as the list of its fields' values in order; from such a list it gives a value and
what is left of the list. -/
structure FieldReader (α : Type) where
  ofFields : List (String × Json) → Except (Nat × Fault) α
  ofItems : List Json → Except Fault (α × List Json)

namespace FieldReader

variable {α β : Type}

/-- Both results, or of two faults the one that stands first. -/
def both (f : Except (Nat × Fault) (α → β)) (x : Except (Nat × Fault) α) :
    Except (Nat × Fault) β :=
  match f, x with
  | .ok f, .ok a => .ok (f a)
  | .error e, .ok _ => .error e
  | .ok _, .error e => .error e
  | .error e, .error e' => if e'.1 < e.1 then .error e' else .error e

instance : Functor FieldReader where
  map f r := {
    ofFields := fun fields => (r.ofFields fields).map f
    ofItems := fun items => (r.ofItems items).map fun (a, rest) => (f a, rest) }

instance : Applicative FieldReader where
  pure a := ⟨fun _ => .ok a, fun items => .ok (a, items)⟩
  seq f r := {
    ofFields := fun fields => both (f.ofFields fields) ((r ()).ofFields fields)
    ofItems := fun items => do
      let (g, items) ← f.ofItems items
      let (a, items) ← (r ()).ofItems items
      return (g a, items) }

def located (names : List String) (fields : List (String × Json)) : List (Nat × Json) :=
  (fields.zipIdx.filter (fun f => names.contains f.1.1)).map (fun f => (f.2, f.1.2))

/-- The value of the one field among the located ones, `absent` if there is none. A second
one is a fault. -/
def single (absent : Option α) (f : Json → Read α) (count : Nat) :
    List (Nat × Json) → Except (Nat × Fault) α
  | [] => match absent with
    | some a => .ok a
    | none => .error (count, .shape)
  | (place, j) :: others =>
    match f j, others with
    | .error e, _ => .error (place, e)
    | .ok a, [] => .ok a
    | .ok _, (place', _) :: _ => .error (place', .shape)

/-- Reads the one field with one of the names, `absent` if there is none. -/
def named (names : List String) (absent : Option α) (f : Json → Read α) : FieldReader α where
  ofFields fields := single absent f fields.length (located names fields)
  ofItems
    | [] => (Read.ofOption absent).map (·, [])
    | j :: rest => (f j).map (·, rest)

def required (name : String) (f : Json → Read α) : FieldReader α := named [name] none f

def optional (name : String) (f : Json → Read α) : FieldReader (Option α) :=
  named [name] (some none) (readOption f)

def defaulted (name : String) (d : α) (f : Json → Read α) : FieldReader α :=
  named [name] (some d) f

end FieldReader

def readRecord {α : Type} (r : FieldReader α) : Json → Read α
  | object fields => (r.ofFields fields).mapError (·.2)
  | damaged fields => do
    let _ ← (r.ofFields fields).mapError (·.2)
    .error .shape
  | array items =>
    match r.ofItems items with
    | .error e => .error e
    | .ok (a, []) => .ok a
    | .ok (_, _ :: _) => .error .shape
  | _ => .error .shape

/-- Reads a text that should hold a JSON value of the wanted form. Faults of the text and
of the form count in the order in which they stand. -/
def readDocument {α : Type} (f : Json → Read α) (s : String) : Read α :=
  match parse s with
  | .ok j => f j
  | .error none => .error .shape
  | .error (some before) =>
    match f before with
    | .error e => .error (if e.message?.isSome then e else .shape)
    | .ok _ => .error .shape

def ofWord (w : Word) : Json := text w.toHex

def ofUInt64 (n : UInt64) : Json := text (hexOfUInt64 n)

def ofBytes (bs : Bytes) : Json := text (Hex.encode bs)

def ofFixed {n : Nat} (a : FixedBytes n) : Json := text a.toHex

def ofList {α : Type} (f : α → Json) (l : List α) : Json := array (l.map f)

def ofOption {α : Type} (f : α → Json) : Option α → Json
  | none => null
  | some a => f a

def ofMap {κ ν : Type} [Key κ] (key : κ → String) (value : ν → Json)
    (m : OrderedMap κ ν) : Json :=
  object (m.entries.map fun e => (key e.1, value e.2))

end ChainConformance.Json
