import ChainConformance.Pattern.Match

/-!
# The syntax of patterns

Literals, classes, groups, choices, repetitions and assertions. A flag group changes the
rules for what follows it in its group.
-/

namespace ChainConformance.Pattern

structure Flags where
  ignoreCase : Bool := false
  multiLine : Bool := false
  dotAll : Bool := false
  verbose : Bool := false
  deriving Repr, Inhabited

def CharSet.single (c : Char) : CharSet := .range c.toNat c.toNat

def Flags.apply (f : Flags) (s : CharSet) : CharSet := if f.ignoreCase then .folded s else s

def CharSet.between (a b : Char) : CharSet := .range a.toNat b.toNat

def isAlphanumeric (c : Char) : Bool := c.isAlpha || c.isDigit

def hexValue? (c : Char) : Option Nat :=
  if c.isDigit then some (c.toNat - 48)
  else if 'a' ≤ c ∧ c ≤ 'f' then some (c.toNat - 87)
  else if 'A' ≤ c ∧ c ≤ 'F' then some (c.toNat - 55)
  else none

def charOf? (n : Nat) : Option Char := if n.isValidChar then some (Char.ofNat n) else none

def hexNumber? (cs : List Char) : Option Nat :=
  if cs.isEmpty then none
  else cs.foldlM (fun n c => (hexValue? c).map (n * 16 + ·)) 0

/-- Reads the code of a character: so many digits, or any number of them in braces. -/
def hexEscape? (count : Nat) (cs : List Char) : Option (Char × List Char) :=
  match cs with
  | '\x7b' :: rest =>
    let digits := rest.takeWhile (· ≠ '\x7d')
    match rest.dropWhile (· ≠ '\x7d') with
    | [] => none
    | _ :: after => do return (← charOf? (← hexNumber? digits), after)
  | _ =>
    if cs.length < count then none
    else do return (← charOf? (← hexNumber? (cs.take count)), cs.drop count)

inductive Escape where
  | character (c : Char)
  | set (s : CharSet)
  | assertion (n : Node)
  deriving Repr

def escape? : List Char → Option (Escape × List Char)
  | [] => none
  | c :: rest =>
    if c = 'd' then some (.set .digit, rest)
    else if c = 'D' then some (.set (.negate .digit), rest)
    else if c = 's' then some (.set .space, rest)
    else if c = 'S' then some (.set (.negate .space), rest)
    else if c = 'w' then some (.set .word, rest)
    else if c = 'W' then some (.set (.negate .word), rest)
    else if c = 'b' then some (.assertion .boundary, rest)
    else if c = 'B' then some (.assertion .notBoundary, rest)
    else if c = 'A' then some (.assertion .startText, rest)
    else if c = 'z' then some (.assertion .endText, rest)
    else if c = '<' then some (.assertion .wordStart, rest)
    else if c = '>' then some (.assertion .wordEnd, rest)
    else if c = 'n' then some (.character '\n', rest)
    else if c = 'r' then some (.character '\r', rest)
    else if c = 't' then some (.character '\t', rest)
    else if c = 'a' then some (.character '\x07', rest)
    else if c = 'f' then some (.character '\x0c', rest)
    else if c = 'v' then some (.character '\x0b', rest)
    else if c = 'x' then (hexEscape? 2 rest).map fun (d, after) => (.character d, after)
    else if c = 'u' then (hexEscape? 4 rest).map fun (d, after) => (.character d, after)
    else if c = 'U' then (hexEscape? 8 rest).map fun (d, after) => (.character d, after)
    else if c.toNat < 128 ∧ ¬ isAlphanumeric c then some (.character c, rest)
    else none

def namedClass? (name : String) : Option CharSet :=
  let r := CharSet.between
  if name = "alnum" then some (.union [r '0' '9', r 'A' 'Z', r 'a' 'z'])
  else if name = "alpha" then some (.union [r 'A' 'Z', r 'a' 'z'])
  else if name = "ascii" then some (.range 0 127)
  else if name = "blank" then some (.union [.single ' ', .single '\t'])
  else if name = "cntrl" then some (.union [.range 0 31, .range 127 127])
  else if name = "digit" then some (r '0' '9')
  else if name = "graph" then some (r '!' '~')
  else if name = "lower" then some (r 'a' 'z')
  else if name = "print" then some (r ' ' '~')
  else if name = "punct" then some (.union [r '!' '/', r ':' '@', r '[' (Char.ofNat 96),
    r '\x7b' '~'])
  else if name = "space" then some (.union [.range 9 13, .single ' '])
  else if name = "upper" then some (r 'A' 'Z')
  else if name = "word" then some (.union [r '0' '9', r 'A' 'Z', r 'a' 'z', .single '_'])
  else if name = "xdigit" then some (.union [r '0' '9', r 'A' 'F', r 'a' 'f'])
  else none

/-- Reads the class that is named after `[:`, if one is. -/
def namedClassAfter? (cs : List Char) : Option (CharSet × List Char) := do
  let (negated, cs) := match cs with
    | '^' :: rest => (true, rest)
    | rest => (false, rest)
  let name := cs.takeWhile (·.isAlpha)
  match cs.dropWhile (·.isAlpha) with
  | ':' :: ']' :: after =>
    let s ← namedClass? (String.ofList name)
    return (if negated then .negate s else s, after)
  | _ => none

/-- An end of a range, or a set that can be no end of one. -/
inductive ClassItem where
  | character (c : Char)
  | set (s : CharSet)
  deriving Repr

def ClassItem.toSet : ClassItem → CharSet
  | character c => .single c
  | set s => s

def classItem? : List Char → Option (ClassItem × List Char)
  | [] => none
  | '\\' :: rest =>
    match escape? rest with
    | some (.character c, after) => some (.character c, after)
    | some (.set s, after) => some (.set s, after)
    | _ => none
  | c :: rest => some (.character c, rest)

def classRange? (cs : List Char) : Option (CharSet × List Char) := do
  let (first, rest) ← classItem? cs
  match rest with
  | '-' :: ']' :: _ => return (first.toSet, rest)
  | '-' :: '-' :: _ => return (first.toSet, rest)
  | '-' :: after =>
    let (last, after) ← classItem? after
    match first, last with
    | .character a, .character b => if a ≤ b then return (.between a b, after) else none
    | _, _ => none
  | _ => return (first.toSet, rest)

def joinSets (op : Option Char) (a b : CharSet) : CharSet :=
  match op with
  | some '&' => .inter a b
  | some '-' => .inter a (.negate b)
  | some '~' => .inter (.union [a, b]) (.negate (.inter a b))
  | _ => b

/-- Reads what may stand first in brackets: a mark of negation, and then dashes or a closing
bracket that stand for themselves. -/
def classStart (cs : List Char) : Bool × List CharSet × List Char :=
  let (negated, cs) := match cs with
    | '^' :: rest => (true, rest)
    | rest => (false, rest)
  let dashes := (cs.takeWhile (· = '-')).map CharSet.single
  match dashes, cs.dropWhile (· = '-') with
  | [], ']' :: rest => (negated, [.single ']'], rest)
  | dashes, rest => (negated, dashes, rest)

/-- Reads a set up to its closing bracket. `done` is what stands before the last operator
`op`, and `items` what stands after it, in reverse order. -/
def classBody? (flags : Flags) : Nat → Option Char → CharSet → List CharSet → List Char →
    Option (CharSet × List Char)
  | 0, _, _, _, _ => none
  | fuel + 1, op, done, items, cs =>
    let current := joinSets op done (flags.apply (.union items))
    match cs with
    | [] => none
    | ']' :: rest => some (current, rest)
    | '&' :: '&' :: rest => classBody? flags fuel (some '&') current [] rest
    | '-' :: '-' :: rest => classBody? flags fuel (some '-') current [] rest
    | '~' :: '~' :: rest => classBody? flags fuel (some '~') current [] rest
    | '[' :: rest =>
      let named := match rest with
        | ':' :: after => namedClassAfter? after
        | _ => none
      match named with
      | some (s, after) => classBody? flags fuel op done (s :: items) after
      | none => do
        let (negated, first, after) := classStart rest
        let (s, after) ← classBody? flags fuel none (.union []) first after
        classBody? flags fuel op done ((if negated then .negate s else s) :: items) after
    | cs =>
      if flags.verbose && (cs.head?.map Text.isBlank).getD false then
        classBody? flags fuel op done items (cs.drop 1)
      else do
        let (s, after) ← classRange? cs
        classBody? flags fuel op done (s :: items) after

def class? (flags : Flags) (cs : List Char) : Option (CharSet × List Char) := do
  let (negated, first, after) := classStart cs
  let (s, after) ← classBody? flags (after.length + 1) none (.union []) first after
  return (if negated then .negate s else s, after)

def number? (cs : List Char) : Option (Nat × List Char) :=
  let cs := cs.dropWhile Text.isBlank
  let digits := cs.takeWhile Char.isDigit
  if digits.isEmpty then none
  else
    let n := digits.foldl (fun n c => n * 10 + (c.toNat - 48)) 0
    if n < UInt32.size then some (n, (cs.dropWhile Char.isDigit).dropWhile Text.isBlank) else none

def bounds? (cs : List Char) : Option ((Nat × Option Nat) × List Char) := do
  let (least, rest) ← number? cs
  match rest with
  | '\x7d' :: after => return ((least, some least), after)
  | ',' :: '\x7d' :: after => return ((least, none), after)
  | ',' :: rest =>
    let (most, rest) ← number? rest
    match rest with
    | '\x7d' :: after => if least ≤ most then return ((least, some most), after) else none
    | _ => none
  | _ => none

/-- Sets a flag. Those that change no match count for nothing. -/
def Flags.set (f : Flags) (on : Bool) (c : Char) : Flags :=
  if c = 'i' then { f with ignoreCase := on }
  else if c = 'm' then { f with multiLine := on }
  else if c = 's' then { f with dotAll := on }
  else if c = 'x' then { f with verbose := on }
  else f

/-- Sets the flags that are named. Each may be named once, and those after a dash, which must
not be the last, are taken away. -/
def Flags.setAll? (f : Flags) (names : List Char) : Option Flags :=
  if names.all (fun c => "imsxUu-".toList.contains c) && names.eraseDups == names &&
      names.getLast? != some '-' then
    let taken := (names.dropWhile (· ≠ '-')).drop 1
    some (taken.foldl (fun g c => g.set false c)
      ((names.takeWhile (· ≠ '-')).foldl (fun g c => g.set true c) f))
  else none

/-- Reads flags up to the colon or parenthesis after them, and says whether it is a colon. A
group of flags alone must name one. -/
def flags? (f : Flags) (cs : List Char) : Option (Flags × Bool × List Char) := do
  let names := cs.takeWhile fun c => c ≠ ':' ∧ c ≠ ')'
  let g ← f.setAll? names
  match cs.drop names.length with
  | ':' :: rest => return (g, true, rest)
  | ')' :: rest => if names.isEmpty then none else return (g, false, rest)
  | _ => none

def groupName? (cs : List Char) : Option (List Char) :=
  let name := cs.takeWhile (· ≠ '>')
  let ok := match name with
    | [] => false
    | c :: rest => (c.isAlpha || c == '_') && rest.all fun d =>
      isAlphanumeric d || d == '_' || d == '.' || d == '[' || d == ']'
  if ok then (cs.dropWhile (· ≠ '>')).tail? else none

inductive Opening where
  | group (flags : Flags)
  | setFlags (flags : Flags)

def opening? (f : Flags) : List Char → Option (Opening × List Char)
  | '?' :: 'P' :: '<' :: rest => (groupName? rest).map (.group f, ·)
  | '?' :: '<' :: rest => (groupName? rest).map (.group f, ·)
  | '?' :: rest => do
    let (g, isGroup, after) ← flags? f rest
    return (if isGroup then .group g else .setFlags g, after)
  | rest => some (.group f, rest)

/-- The choice between the branches read so far, the last one first. -/
def branches (done : List Node) (current : List (Option Node)) : Node :=
  let last := Node.sequence (current.reverse.filterMap id)
  match done with
  | [] => last
  | _ => .choice (done.reverse ++ [last])

def special? (f : Flags) (c : Char) : Option Node :=
  if c = '.' then
    some (.one (if f.dotAll then .range 0 0x10FFFF else .negate (.single '\n')))
  else if c = '^' then some (if f.multiLine then .startLine else .startText)
  else if c = '$' then some (if f.multiLine then .endLine else .endText)
  else none

/-- Puts a repetition around what was read last, which must not be a flag group. -/
def repeatLast? (least : Nat) (most : Option Nat) :
    List (Option Node) → Option (List (Option Node))
  | some n :: rest => some (some (.loop n least most) :: rest)
  | _ => none

/-- Skips the mark of a lazy repetition, which matches in the same places. -/
def afterLazy : List Char → List Char
  | '?' :: rest => rest
  | rest => rest

/-- Reads a group up to its end, which is a parenthesis when `inside`. The branches before
the last bar and the parts of the current branch stand in reverse order. -/
def body? (inside : Bool) : Nat → Flags → List Node → List (Option Node) → List Char →
    Option (Node × List Char)
  | 0, _, _, _, _ => none
  | fuel + 1, f, done, current, cs =>
    match cs with
    | [] => if inside then none else some (branches done current, [])
    | ')' :: rest => if inside then some (branches done current, rest) else none
    | '|' :: rest => body? inside fuel f (branches [] current :: done) [] rest
    | '(' :: rest =>
      match opening? f rest with
      | none => none
      | some (.setFlags g, after) => body? inside fuel g done (none :: current) after
      | some (.group g, after) =>
        match body? true fuel g [] [] after with
        | none => none
        | some (n, after) => body? inside fuel f done (some n :: current) after
    | '[' :: rest =>
      match class? f rest with
      | none => none
      | some (s, after) => body? inside fuel f done (some (.one s) :: current) after
    | '\\' :: rest =>
      match escape? rest with
      | none => none
      | some (.character c, after) =>
        body? inside fuel f done (some (.one (f.apply (.single c))) :: current) after
      | some (.set s, after) => body? inside fuel f done (some (.one s) :: current) after
      | some (.assertion n, after) => body? inside fuel f done (some n :: current) after
    | '*' :: rest =>
      (repeatLast? 0 none current).bind fun l => body? inside fuel f done l (afterLazy rest)
    | '+' :: rest =>
      (repeatLast? 1 none current).bind fun l => body? inside fuel f done l (afterLazy rest)
    | '?' :: rest =>
      (repeatLast? 0 (some 1) current).bind fun l =>
        body? inside fuel f done l (afterLazy rest)
    | '\x7b' :: rest =>
      match bounds? rest with
      | none => none
      | some ((least, most), after) =>
        (repeatLast? least most current).bind fun l =>
          body? inside fuel f done l (afterLazy after)
    | c :: rest =>
      if f.verbose && Text.isBlank c then body? inside fuel f done current rest
      else if f.verbose && c == '#' then
        body? inside fuel f done current (rest.dropWhile (· ≠ '\n'))
      else
        let n := (special? f c).getD (.one (f.apply (.single c)))
        body? inside fuel f done (some n :: current) rest

def ofText? (s : String) : Option Node :=
  (body? false (s.length + 1) {} [] [] s.toList).map (·.1)

end ChainConformance.Pattern
