import ChainConformance.Exception.Tag

/-!
# Exception sets

What a fixture expects of a rejection: one or more tags, any of which will do. A set is
written as its tags with bars between them.
-/

namespace ChainConformance

/-- The tags of which one is expected, in the order in which they are written. -/
structure ExceptionSet where
  tags : List ExceptionTag
  deriving Repr, DecidableEq

namespace ExceptionSet

def contains (s : ExceptionSet) (t : ExceptionTag) : Bool := s.tags.contains t

def admitsDecodeFailure (s : ExceptionSet) : Bool := s.tags.any ExceptionTag.isDecodeFailure

def display (s : ExceptionSet) : String := "|".intercalate (s.tags.map ExceptionTag.display)

def splitBars : List Char → List (List Char)
  | [] => [[]]
  | c :: rest =>
    match splitBars rest with
    | [] => [[c]]
    | piece :: pieces => if c = '|' then [] :: piece :: pieces else (c :: piece) :: pieces

/-- The pieces of a text between the bars in it that are not blank. -/
def pieces (s : String) : List String :=
  ((splitBars s.toList).filter (fun p => !p.all Text.isBlank)).map String.ofList

/-- Reads a tag. One that is unknown is given back without the white space around it. -/
def readTag (piece : String) : Except String ExceptionTag :=
  match ExceptionTag.ofText? piece with
  | some t => .ok t
  | none => .error (Text.trim piece)

/-- Reads a set. Blank pieces between the bars do not count, but there must be some tag.
The fault is the first piece that is no tag, or the whole text if it has no piece. -/
def ofText (s : String) : Except String ExceptionSet := do
  let tags ← (pieces s).mapM readTag
  if tags.isEmpty then .error s else .ok ⟨tags⟩

end ExceptionSet

end ChainConformance
