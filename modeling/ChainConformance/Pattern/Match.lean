import ChainConformance.Pattern.CharClass
import ChainConformance.Text.Blank

/-!
# Matching patterns

A pattern is matched by the places in a text where a match that starts at a given place can
end. Repetition adds places until none is new, which takes at most as many rounds as there
are characters left.
-/

namespace ChainConformance.Pattern

inductive CharSet where
  | range (first last : Nat)
  | digit
  | space
  | word
  | union (sets : List CharSet)
  | inter (a b : CharSet)
  | negate (s : CharSet)
  /-- The characters that count as one of the set's when case is ignored. -/
  | folded (s : CharSet)
  deriving Repr, Inhabited

mutual

def CharSet.mem (c : Char) : CharSet → Bool
  | .range first last => first ≤ c.toNat && c.toNat ≤ last
  | .digit => isDigit c
  | .space => Text.isBlank c
  | .word => isWord c
  | .union sets => CharSet.memAny c sets
  | .inter a b => a.mem c && b.mem c
  | .negate s => !s.mem c
  | .folded s => (foldMates c).any fun d => s.mem d

def CharSet.memAny (c : Char) : List CharSet → Bool
  | [] => false
  | s :: rest => s.mem c || memAny c rest

end

inductive Node where
  | one (s : CharSet)
  | startText
  | endText
  | startLine
  | endLine
  | boundary
  | notBoundary
  | wordStart
  | wordEnd
  | sequence (nodes : List Node)
  | choice (nodes : List Node)
  | loop (node : Node) (least : Nat) (most : Option Nat)
  deriving Repr, Inhabited

/-- A place in a text: the character before it and the characters after it. -/
structure Place where
  previous : Option Char
  rest : List Char
  deriving Repr, DecidableEq

def inWord (c : Option Char) : Bool := (c.map isWord).getD false

def Place.sides (p : Place) : Bool × Bool := (inWord p.previous, inWord p.rest.head?)

def Place.whenever (p : Place) (b : Bool) : List Place := if b then [p] else []

def distinct (ps : List Place) : List Place :=
  ps.foldl (fun acc p => if acc.any (fun q => q.rest.length == p.rest.length) then acc
    else acc ++ [p]) []

def rounds (f : Place → List Place) : Nat → List Place → List Place
  | 0, ps => ps
  | n + 1, ps => rounds f n (distinct (ps.flatMap f))

def upTo (f : Place → List Place) : Nat → List Place → List Place
  | 0, ps => ps
  | n + 1, ps => upTo f n (distinct (ps ++ ps.flatMap f))

/-- How many rounds beyond the least number can lead to new places. -/
def extraRounds (least : Nat) (most : Option Nat) (left : Nat) : Nat :=
  match most with
  | none => left + 1
  | some m => min (m - least) (left + 1)

mutual

/-- The places where a match that starts at `p` can end. -/
def Node.ends (p : Place) : Node → List Place
  | .one s =>
    match p.rest with
    | [] => []
    | c :: rest => if s.mem c then [⟨some c, rest⟩] else []
  | .startText => p.whenever p.previous.isNone
  | .endText => p.whenever p.rest.isEmpty
  | .startLine => p.whenever (p.previous.isNone || p.previous == some '\n')
  | .endLine => p.whenever (p.rest.isEmpty || p.rest.head? == some '\n')
  | .boundary => p.whenever (p.sides.1 != p.sides.2)
  | .notBoundary => p.whenever (p.sides.1 == p.sides.2)
  | .wordStart => p.whenever (!p.sides.1 && p.sides.2)
  | .wordEnd => p.whenever (p.sides.1 && !p.sides.2)
  | .sequence nodes => endsAll nodes [p]
  | .choice nodes => endsAny p nodes
  | .loop node least most =>
    let f := fun q => node.ends q
    upTo f (extraRounds least most p.rest.length) (rounds f least [p])

def endsAll : List Node → List Place → List Place
  | [], ps => ps
  | n :: rest, ps => endsAll rest (distinct (ps.flatMap fun q => n.ends q))

def endsAny (p : Place) : List Node → List Place
  | [] => []
  | n :: rest => n.ends p ++ endsAny p rest

end

/-- Whether a match starts somewhere in a text, given the character before it. -/
def matchesFrom (n : Node) (previous : Option Char) : List Char → Bool
  | [] => !(n.ends ⟨previous, []⟩).isEmpty
  | c :: rest => !(n.ends ⟨previous, c :: rest⟩).isEmpty || matchesFrom n (some c) rest

def Node.isMatch (n : Node) (s : String) : Bool := matchesFrom n none s.toList

end ChainConformance.Pattern
