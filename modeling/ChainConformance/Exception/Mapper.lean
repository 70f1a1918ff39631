import ChainConformance.Dialect
import ChainConformance.Exception.Policy
import ChainConformance.Fixture.Fault

/-!
# Exception mappers

Tables that say which exception a client's message means. A client's rules are tried in
order and the first one counts that matches the message and applies to the fork.
-/

namespace ChainConformance

/-- What a rule looks for in a message: a text, or a pattern that is found in some messages. -/
inductive MessagePattern where
  | substring (text : String)
  | pattern (isFound : String → Bool)
  deriving Inhabited

def occursIn (part : List Char) : List Char → Bool
  | [] => part.isEmpty
  | c :: rest => part.isPrefixOf (c :: rest) || occursIn part rest

def MessagePattern.isMatch (message : String) : MessagePattern → Bool
  | substring text => occursIn text.toList message.toList
  | pattern isFound => isFound message

/-- A rule: messages that match mean the tag, from one fork on and until another. -/
structure MessageRule where
  pattern : MessagePattern
  tag : ExceptionTag
  start : Option Fork
  stop : Option Fork

/-- Whether a rule applies to a fork. Where no fork is given all rules do. -/
def MessageRule.appliesTo (r : MessageRule) : Option Fork → Bool
  | none => true
  | some fork =>
    (match r.start with
      | some start => decide (start ≤ fork.resolved)
      | none => true) &&
    (match r.stop with
      | some stop => decide (fork.resolved < stop)
      | none => true)

structure ClientTable where
  aliases : List String
  rules : List MessageRule
  deriving Inhabited

/-- The tables of clients by their names in lower case. -/
structure ExceptionMapper where
  clients : OrderedMap String ClientTable
  deriving Inhabited

namespace ExceptionMapper

def empty : ExceptionMapper := ⟨.empty⟩

/-- The table of a client by its name, or else the first one with that alias. -/
def named? (m : ExceptionMapper) (id : String) : Option ClientTable :=
  m.clients.get? id <|> m.clients.values.find? fun t => t.aliases.contains id

/-- The part of a name before its first underscore, if it has one. -/
def baseName? (id : String) : Option String :=
  let cs := id.toList
  if cs.contains '_' then some (String.ofList (cs.takeWhile (· ≠ '_'))) else none

/-- The table of a client. Case does not count, and where the whole name is unknown what
follows its first underscore does not. -/
def table? (m : ExceptionMapper) (client : String) : Option ClientTable :=
  let id := Text.toLower client
  m.named? id <|> (baseName? id).bind m.named?

def knows (m : ExceptionMapper) (client : String) : Bool := (m.table? client).isSome

def classifyBy (rules : List MessageRule) (message : String) (fork : Option Fork) :
    Classification :=
  match rules.find? fun r => r.appliesTo fork && r.pattern.isMatch message with
  | some r => .mapped r.tag
  | none => .unmapped

def classify (m : ExceptionMapper) (message client : String) (fork : Option Fork) :
    Classification :=
  match m.table? client with
  | some t => classifyBy t.rules message fork
  | none => .unmapped

end ExceptionMapper

/-- A table with another one's rules in front and its new aliases behind. -/
def ClientTable.extend (base extra : ClientTable) : ClientTable where
  aliases := extra.aliases.foldl (fun as a => if as.contains a then as else as ++ [a])
    base.aliases
  rules := extra.rules ++ base.rules

namespace ExceptionMapper

/-- A mapper with the tables of another one added, whose rules are tried first. -/
def merged (base extra : ExceptionMapper) : ExceptionMapper where
  clients := extra.clients.entries.foldl
    (fun cs e => cs.insert e.1 (((cs.get? e.1).getD ⟨[], []⟩).extend e.2)) base.clients

structure WrittenRule where
  substring : Option String
  pattern : Option String
  tag : ExceptionTag
  start : Option Fork
  stop : Option Fork

def fork? (y : Yaml) : Option Fork := y.text?.bind Fork.ofName?

def tag? (y : Yaml) : Option ExceptionTag := y.text?.bind ExceptionTag.ofText?

def writtenRule? (y : Yaml) : Option WrittenRule := do
  let entries ← y.entries?
  if !entries.all fun e =>
      ["substring", "regex", "exception", "fork_from", "fork_until"].contains e.1 then none
  return {
    substring := ← Yaml.field? entries "substring" (some none) (Yaml.optional? Yaml.text?)
    pattern := ← Yaml.field? entries "regex" (some none) (Yaml.optional? Yaml.text?)
    tag := ← Yaml.field? entries "exception" none tag?
    start := ← Yaml.field? entries "fork_from" (some none) (Yaml.optional? fork?)
    stop := ← Yaml.field? entries "fork_until" (some none) (Yaml.optional? fork?) }

structure WrittenTable where
  aliases : List String
  rules : List WrittenRule

def writtenTable? (y : Yaml) : Option WrittenTable := do
  let entries ← y.entries?
  return {
    aliases := ← Yaml.field? entries "aliases" (some []) Yaml.texts?
    rules := ← Yaml.field? entries "rules" (some []) fun r => do
      (← r.items?).mapM writtenRule? }

def WrittenRule.messagePattern (d : Dialect) (r : WrittenRule) :
    Except RuleFault MessagePattern :=
  match r.substring, r.pattern with
  | some s, none => .ok (.substring s)
  | none, some p => match d.pattern? p with
    | some isFound => .ok (.pattern isFound)
    | none => .error .badPattern
  | _, _ => .error (.notOnePattern r.tag)

/-- The rule that a written one makes. Its range of forks must not be empty. -/
def WrittenRule.compile (d : Dialect) (r : WrittenRule) : Except RuleFault MessageRule := do
  let p ← r.messagePattern d
  match r.start, r.stop with
  | some start, some stop =>
    if stop ≤ start then throw (.emptyForkRange start stop)
  | _, _ => pure ()
  return ⟨p, r.tag, r.start, r.stop⟩

def WrittenTable.compile (d : Dialect) (client : String) (t : WrittenTable) :
    Except FixtureFault ClientTable := do
  let rules ← t.rules.mapM fun r => (r.compile d).mapError (.badRule client)
  return ⟨t.aliases.map Text.toLower, rules⟩

def documentPath : String := "<yaml>"

/-- Reads a document of tables. Of two clients whose names differ in case alone the one
whose name comes later counts. -/
def read (d : Dialect) (content : String) : Except FixtureFault ExceptionMapper := do
  let written ← match (d.document? content).bind (Yaml.map? writtenTable?) with
    | some m => pure m
    | none => throw (.unreadable documentPath .yaml)
  let clients ← written.entries.foldlM (fun cs e => do
    return cs.insert (Text.toLower e.1) (← e.2.compile d e.1)) OrderedMap.empty
  return ⟨clients⟩

def ofYaml (content : String) : Except FixtureFault ExceptionMapper := read .own content

def load (files : Files) (path : String) : Except FixtureFault ExceptionMapper := do
  ofYaml (← files.load path)

end ExceptionMapper

end ChainConformance
