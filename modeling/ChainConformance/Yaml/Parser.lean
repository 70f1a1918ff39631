import ChainConformance.Yaml

/-!
# Reading YAML

Block lists and mappings by their indentation, lists and mappings in brackets, scalars with
and without quotes, and comments.
-/

namespace ChainConformance.Yaml

/-- A line: how far it is indented and what it holds. -/
structure Line where
  indent : Nat
  text : List Char
  deriving Repr

def splitLines : List Char → List (List Char)
  | [] => [[]]
  | '\r' :: '\n' :: rest => [] :: splitLines rest
  | '\n' :: rest => [] :: splitLines rest
  | c :: rest =>
    match splitLines rest with
    | [] => [[c]]
    | l :: ls => (c :: l) :: ls

def Line.ofChars (cs : List Char) : Line :=
  ⟨(cs.takeWhile (· = ' ')).length, cs.dropWhile (· = ' ')⟩

def Line.chars (l : Line) : List Char := List.replicate l.indent ' ' ++ l.text

def isBlank (c : Char) : Bool := c = ' ' || c = '\t'

/-- Whether nothing but blanks and a comment is left of a line. -/
def isVoid (cs : List Char) : Bool :=
  match cs.dropWhile isBlank with
  | [] => true
  | c :: _ => c = '#'

/-- Whether nothing but blanks is left of a line, or a comment after a blank. -/
def endsHere (cs : List Char) : Bool :=
  match cs with
  | [] => true
  | c :: _ => isBlank c && isVoid cs

def skipVoid (ls : List Line) : List Line := ls.dropWhile fun l => isVoid l.text

def joinLines (first : List Char) (ls : List Line) : List Char :=
  first ++ ls.flatMap fun l => '\n' :: l.chars

def escapes : List (Char × Char) := [
  ('0', '\x00'), ('a', '\x07'), ('b', '\x08'), ('t', '\t'), ('\t', '\t'), ('n', '\n'),
  ('v', '\x0b'), ('f', '\x0c'), ('r', '\r'), ('e', '\x1b'), (' ', ' '), ('"', '"'),
  ('/', '/'), ('\\', '\\'), ('N', Char.ofNat 0x85), ('_', Char.ofNat 0xA0),
  ('L', Char.ofNat 0x2028), ('P', Char.ofNat 0x2029)]

def hexValue? (c : Char) : Option Nat :=
  if c.isDigit then some (c.toNat - 48)
  else if 'a' ≤ c ∧ c ≤ 'f' then some (c.toNat - 87)
  else if 'A' ≤ c ∧ c ≤ 'F' then some (c.toNat - 55)
  else none

def coded? (count : Nat) (cs : List Char) : Option (Char × List Char) := do
  if cs.length < count then none
  else
    let n ← (cs.take count).foldlM (fun n c => (hexValue? c).map (n * 16 + ·)) 0
    if n.isValidChar then some (Char.ofNat n, cs.drop count) else none

/-- Folds a line break inside a scalar: the break makes a blank, and each empty line after
it a break. Gives the folded characters in reverse order. -/
def foldBreak : Nat → Nat → List Char → List Char × List Char
  | 0, _, cs => ([], cs)
  | fuel + 1, breaks, cs =>
    match cs.dropWhile isBlank with
    | '\n' :: rest => foldBreak fuel (breaks + 1) rest
    | rest => (if breaks = 0 then [' '] else List.replicate breaks '\n', rest)

/-- Reads a scalar in double quotes after the first of them. What was read stands in
reverse order. -/
def doubleQuoted? : Nat → List Char → List Char → Option (String × List Char)
  | 0, _, _ => none
  | fuel + 1, seen, cs =>
    match cs with
    | [] => none
    | '"' :: rest => some (String.ofList seen.reverse, rest)
    | '\\' :: '\n' :: rest => doubleQuoted? fuel seen (rest.dropWhile isBlank)
    | '\\' :: c :: rest =>
      let coded := if c = 'x' then coded? 2 rest else if c = 'u' then coded? 4 rest
        else if c = 'U' then coded? 8 rest else none
      match coded, escapes.lookup c with
      | some (d, after), _ => doubleQuoted? fuel (d :: seen) after
      | none, some d => doubleQuoted? fuel (d :: seen) rest
      | none, none => none
    | '\n' :: rest =>
      let (folded, after) := foldBreak (rest.length + 1) 0 rest
      doubleQuoted? fuel (folded ++ seen.dropWhile isBlank) after
    | c :: rest => doubleQuoted? fuel (c :: seen) rest

def quote : Char := Char.ofNat 39

/-- Reads a scalar in single quotes after the first of them. Two quotes stand for one. -/
def singleQuoted? : Nat → List Char → List Char → Option (String × List Char)
  | 0, _, _ => none
  | fuel + 1, seen, cs =>
    match cs with
    | [] => none
    | c :: rest =>
      if c = quote then
        match rest with
        | d :: after =>
          if d = quote then singleQuoted? fuel (quote :: seen) after
          else some (String.ofList seen.reverse, rest)
        | [] => some (String.ofList seen.reverse, [])
      else if c = '\n' then
        let (folded, after) := foldBreak (rest.length + 1) 0 rest
        singleQuoted? fuel (folded ++ seen.dropWhile isBlank) after
      else singleQuoted? fuel (c :: seen) rest

def quoted? (cs : List Char) : Option (String × List Char) :=
  match cs with
  | [] => none
  | c :: rest =>
    if c = '"' then doubleQuoted? (rest.length + 1) [] rest
    else if c = quote then singleQuoted? (rest.length + 1) [] rest
    else none

def isFlowMark (c : Char) : Bool :=
  c = ',' || c = '[' || c = ']' || c = '\x7b' || c = '\x7d'

def startsPlain (inFlow : Bool) : List Char → Bool
  | [] => false
  | c :: rest =>
    if c = '-' ∨ c = '?' ∨ c = ':' then
      match rest with
      | [] => false
      | d :: _ => !isBlank d && d != '\n' && !(inFlow && isFlowMark d)
    else !(isBlank c || c = '\n' || isFlowMark c || c = '#' || c = '&' || c = '*' || c = '!' ||
      c = '|' || c = '>' || c = quote || c = '"' || c = '%' || c = '@' ||
      c = Char.ofNat 96)

/-- Reads a scalar without quotes up to the end of the line, a comment, a colon that ends a
key or, inside brackets, a mark that ends an item. What was read stands in reverse order. -/
def plainLine (inFlow : Bool) : List Char → List Char → List Char × List Char
  | seen, [] => (seen, [])
  | seen, c :: rest =>
    let ends :=
      if c = '\n' then true
      else if inFlow && isFlowMark c then true
      else if c = ':' then
        match rest with
        | [] => true
        | d :: _ => isBlank d || d = '\n' || (inFlow && isFlowMark d)
      else if c = '#' then (seen.head?.map isBlank).getD true
      else false
    if ends then (seen.dropWhile isBlank, c :: rest) else plainLine inFlow (c :: seen) rest

def plainText (seen : List Char) : String := String.ofList (seen.dropWhile isBlank).reverse

def skipFlow : Nat → List Char → List Char
  | 0, cs => cs
  | fuel + 1, cs =>
    match cs with
    | c :: rest =>
      if isBlank c || c = '\n' then
        match rest with
        | '#' :: _ => skipFlow fuel (rest.dropWhile (· ≠ '\n'))
        | _ => skipFlow fuel rest
      else cs
    | [] => []

/-- Skips what may stand between the parts of a value in brackets. -/
def skip (cs : List Char) : List Char := skipFlow (cs.length + 1) cs

def flowPlain : Nat → List Char → List Char → List Char × List Char
  | 0, seen, cs => (seen, cs)
  | fuel + 1, seen, cs =>
    let (seen, rest) := plainLine true seen cs
    match rest with
    | '\n' :: after =>
      let (folded, next) := foldBreak (after.length + 1) 0 after
      if startsPlain true next || (next.head?.map fun c => c = '-' || c = '?').getD false then
        flowPlain fuel (folded ++ seen) next
      else (seen, rest)
    | _ => (seen, rest)

/-- Whether a colon that ends a key stands here. After a key in quotes no blank is needed. -/
def keyEnds (afterQuotes : Bool) : List Char → Option (List Char)
  | ':' :: rest =>
    match rest with
    | [] => some []
    | c :: _ => if afterQuotes || isBlank c || c = '\n' || isFlowMark c then some rest else none
  | _ => none

mutual

def flowNode? : Nat → List Char → Option (Yaml × List Char)
  | 0, _ => none
  | fuel + 1, cs =>
    match cs with
    | '[' :: rest => flowList? fuel [] (skip rest)
    | '\x7b' :: rest => flowMapping? fuel [] (skip rest)
    | cs =>
      match quoted? cs with
      | some (s, rest) => some (.scalar false s, rest)
      | none =>
        if startsPlain true cs then
          let (seen, rest) := flowPlain (cs.length + 1) [] cs
          some (.scalar true (plainText seen), rest)
        else none

/-- Reads the rest of a list in brackets. An item may be a mapping of one entry. -/
def flowList? : Nat → List Yaml → List Char → Option (Yaml × List Char)
  | 0, _, _ => none
  | fuel + 1, items, cs =>
    match cs with
    | ']' :: rest => some (.list items.reverse, rest)
    | cs => do
      let (item, rest) ← flowNode? fuel cs
      let quotes := (cs.head?.map fun c => c = '"' || c = quote || c = '[' || c = '\x7b').getD false
      let (item, rest) ← match keyEnds quotes (skip rest) with
        | none => some (item, skip rest)
        | some after =>
          match skip after with
          | ',' :: _ | ']' :: _ => some (.mapping [(item, missing)], skip after)
          | after => do
            let (value, rest) ← flowNode? fuel after
            some (.mapping [(item, value)], skip rest)
      match rest with
      | ',' :: after => flowList? fuel (item :: items) (skip after)
      | ']' :: after => some (.list (item :: items).reverse, after)
      | _ => none

def flowMapping? : Nat → List (Yaml × Yaml) → List Char → Option (Yaml × List Char)
  | 0, _, _ => none
  | fuel + 1, entries, cs =>
    match cs with
    | '\x7d' :: rest => some (.mapping entries.reverse, rest)
    | cs => do
      let (key, rest) ← flowNode? fuel cs
      let quotes := (cs.head?.map fun c => c = '"' || c = quote || c = '[' || c = '\x7b').getD false
      let (value, rest) ← match keyEnds quotes (skip rest) with
        | none => some (missing, skip rest)
        | some after =>
          match skip after with
          | ',' :: _ | '\x7d' :: _ => some (missing, skip after)
          | after => do
            let (value, rest) ← flowNode? fuel after
            some (value, skip rest)
      match rest with
      | ',' :: after => flowMapping? fuel ((key, value) :: entries) (skip after)
      | '\x7d' :: after => some (.mapping ((key, value) :: entries).reverse, after)
      | _ => none

end

def closed? (first : List Char) (ls : List Line) : Option (Yaml × List Char × List Line) := do
  let cs := joinLines first ls
  let (y, rest) ← match first with
    | '[' :: _ | '\x7b' :: _ => flowNode? (2 * cs.length + 2) cs
    | _ => (quoted? cs).map fun (s, rest) => (Yaml.scalar false s, rest)
  match splitLines rest with
  | [] => none
  | l :: after => some (y, l, after.map Line.ofChars)

def startsClosed : List Char → Bool
  | [] => false
  | c :: _ => c = '[' || c = '\x7b' || c = '"' || c = quote

def plainLines? (indent : Int) : Nat → List Char → List Line → Option (List Char × List Line)
  | 0, _, _ => none
  | fuel + 1, seen, ls =>
    match ls.dropWhile (fun l => l.text.all isBlank) with
    | [] => some (seen, ls)
    | l :: after =>
      let breaks := (ls.takeWhile fun l => l.text.all isBlank).length
      if (l.indent : Int) ≤ indent || l.text.head? = some '#' then some (seen, ls)
      else
        let glue := if breaks = 0 then [' '] else List.replicate breaks '\n'
        match plainLine false (glue ++ seen) (l.text.dropWhile isBlank) with
        | (seen, []) => plainLines? indent fuel seen after
        | (seen, rest) => if isVoid rest then some (seen, after) else none

def key? (cs : List Char) : Option (Yaml × List Char) :=
  if startsClosed cs then do
    let line := cs
    let (y, rest) ← match line with
      | '[' :: _ | '\x7b' :: _ => flowNode? (2 * line.length + 2) line
      | _ => (quoted? line).map fun (s, rest) => (Yaml.scalar false s, rest)
    match rest.dropWhile isBlank with
    | ':' :: after => if after.isEmpty || (after.head?.map isBlank).getD false then
        some (y, after) else none
    | _ => none
  else if startsPlain false cs then
    match plainLine false [] cs with
    | (seen, ':' :: after) => some (.scalar true (plainText seen), after)
    | _ => none
  else none

def item? : List Char → Option (List Char)
  | ['-'] => some []
  | '-' :: c :: rest => if isBlank c then some (c :: rest) else none
  | _ => none

mutual

def blockNode? : Nat → Int → List Line → Option (Yaml × List Line)
  | 0, _, _ => none
  | fuel + 1, parent, ls =>
    match skipVoid ls with
    | [] => some (missing, [])
    | l :: after =>
      if (l.indent : Int) ≤ parent then some (missing, l :: after)
      else if (item? l.text).isSome then blockList? fuel l.indent [] (l :: after)
      else if (key? l.text).isSome then blockMapping? fuel l.indent [] (l :: after)
      else inline? fuel parent l.text after

def inline? : Nat → Int → List Char → List Line → Option (Yaml × List Line)
  | 0, _, _, _ => none
  | _ + 1, parent, cs, ls =>
    if startsClosed cs then do
      let (y, rest, after) ← closed? cs ls
      if endsHere rest then some (y, after) else none
    else if startsPlain false cs then
      match plainLine false [] cs with
      | (seen, []) => do
        let (seen, after) ← plainLines? parent (ls.length + 1) seen ls
        some (.scalar true (plainText seen), after)
      | (seen, rest) => if isVoid rest then some (.scalar true (plainText seen), ls) else none
    else none

def blockList? : Nat → Nat → List Yaml → List Line → Option (Yaml × List Line)
  | 0, _, _, _ => none
  | fuel + 1, indent, items, ls =>
    match skipVoid ls with
    | [] => some (.list items.reverse, [])
    | l :: after =>
      if l.indent < indent then some (.list items.reverse, l :: after)
      else if l.indent > indent then none
      else match item? l.text with
        | none => some (.list items.reverse, l :: after)
        | some rest => do
          let blanks := (rest.takeWhile (· = ' ')).length
          let inner := rest.dropWhile (· = ' ')
          let (y, after) ←
            if isVoid inner then blockNode? fuel indent after
            else if inner.head? = some '\t' then none
            else blockNode? fuel indent (⟨indent + 1 + blanks, inner⟩ :: after)
          blockList? fuel indent (y :: items) after

def blockMapping? : Nat → Nat → List (Yaml × Yaml) → List Line → Option (Yaml × List Line)
  | 0, _, _, _ => none
  | fuel + 1, indent, entries, ls =>
    match skipVoid ls with
    | [] => some (.mapping entries.reverse, [])
    | l :: after =>
      if l.indent < indent then some (.mapping entries.reverse, l :: after)
      else if l.indent > indent then none
      else match key? l.text with
        | none => none
        | some (key, rest) => do
          let inner := rest.dropWhile isBlank
          let (y, after) ←
            if isVoid inner then
              match skipVoid after with
              | [] => some (missing, [])
              | next :: _ =>
                if next.indent = indent ∧ (item? next.text).isSome then
                  blockList? fuel indent [] after
                else blockNode? fuel indent after
            else inline? fuel indent inner after
          blockMapping? fuel indent ((key, y) :: entries) after

end

def afterStart (ls : List Line) : List Line :=
  match skipVoid ls with
  | l :: after =>
    if l.indent = 0 ∧ l.text = ['-', '-', '-'] then after else l :: after
  | [] => []

/-- Reads a document. One that holds nothing makes a missing value. -/
def parse (s : String) : Option Yaml := do
  let cs := s.toList
  let cs := match cs with
    | c :: rest => if c = Char.ofNat 0xFEFF then rest else c :: rest
    | [] => []
  let ls := afterStart ((splitLines cs).map Line.ofChars)
  let (y, rest) ← blockNode? (4 * cs.length + 4) (-1) ls
  if (skipVoid rest).isEmpty then some y else none

end ChainConformance.Yaml
