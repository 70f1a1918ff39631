import ChainConformance.Exception.Bundled
import ChainConformance.Proofs.ChainCalls
import ChainConformance.Proofs.HexCodec
import ChainConformance.Proofs.MapperMerge
import ChainConformance.Proofs.MessageForms
import Mathlib.Tactic.IntervalCases

/-!
# Rejections of computed chains

A chain that a transition tool computes rejects some blocks itself, in words with numbers and
hashes among them. Its words are those of Geth, and the bundled table for Geth recognises
each of them for what it is, under every fork and whatever the numbers and hashes are. All
other rejections are in the words of the tool.
-/

namespace ChainConformance

namespace ExceptionMapper

def gethNames : List String := ["geth", "go-ethereum", "evm", "t8n"]

def otherNames : List String := ["besu", "erigon", "nethermind", "reth"]

/-- An id is a name of Geth, in letters of any case and with anything behind an
underscore. -/
def NamesGeth (client : String) : Prop :=
  ∃ name ∈ gethNames, Text.toLower client = name ∨ baseName? (Text.toLower client) = some name

def gethTable : ClientTable := compiled ["go-ethereum", "evm", "t8n"] gethRules

lemma bundled_entries : bundled.clients.entries = [
    ("besu", compiled [] besuRules), ("erigon", compiled [] erigonRules), ("geth", gethTable),
    ("nethermind", compiled [] nethermindRules), ("reth", compiled [] rethRules)] := rfl

lemma nameOf?_bundled {id name : String} (h : bundled.nameOf? id = some name) :
    id ∈ gethNames ∧ name = "geth" ∨ id ∈ otherNames ∧ name = id := by
  unfold nameOf? OrderedMap.contains OrderedMap.get? at h
  rw [bundled_entries] at h
  split at h
  next hheld =>
    cases h
    by_contra hnone
    simp only [gethNames, otherNames, List.mem_cons, List.not_mem_nil, or_false, not_or] at hnone
    simp_all [OrderedMap.find]
  next =>
    obtain ⟨e, hfind, rfl⟩ := Option.map_eq_some_iff.mp h
    have halias := List.find?_some hfind
    have hmem := List.mem_of_find?_eq_some hfind
    simp only [List.mem_cons, List.not_mem_nil, or_false] at hmem
    rcases hmem with rfl | rfl | rfl | rfl | rfl
    case inr.inr.inl =>
      have hid : id ∈ ["go-ethereum", "evm", "t8n"] := List.contains_iff_mem.mp halias
      exact Or.inl ⟨List.mem_cons_of_mem _ hid, rfl⟩
    all_goals cases halias

lemma nameOf?_bundled_geth {id : String} (h : id ∈ gethNames) :
    bundled.nameOf? id = some "geth" := by
  have hall : ∀ id ∈ gethNames, bundled.nameOf? id = some "geth" := by decide +kernel
  exact hall id h

lemma nameOf?_bundled_eq_none {id short : String} (h : baseName? id = some short) :
    bundled.nameOf? id = none := by
  have hgeth : ∀ id ∈ gethNames, baseName? id = none := by decide +kernel
  have hother : ∀ id ∈ otherNames, baseName? id = none := by decide +kernel
  refine Option.eq_none_iff_forall_ne_some.mpr fun name hname => ?_
  rcases nameOf?_bundled hname with ⟨hid, -⟩ | ⟨hid, -⟩
  · rw [hgeth id hid] at h
    cases h
  · rw [hother id hid] at h
    cases h

lemma get?_bundled_ne {name : String} (h : name ∈ otherNames) :
    bundled.clients.get? name ≠ bundled.clients.get? "geth" := by
  have hall : ∀ name ∈ otherNames, (bundled.clients.get? name).map (·.rules.length) ≠
      (bundled.clients.get? "geth").map (·.rules.length) := by
    decide +kernel
  exact fun hsame => hall name h (by rw [hsame])

lemma client?_bundled_iff (client : String) :
    bundled.client? client = some "geth" ↔ NamesGeth client := by
  have hgeth {id : String} : bundled.nameOf? id = some "geth" ↔ id ∈ gethNames := by
    refine ⟨fun h => ?_, nameOf?_bundled_geth⟩
    rcases nameOf?_bundled h with ⟨hid, -⟩ | ⟨hid, rfl⟩
    · exact hid
    · exact absurd rfl (get?_bundled_ne hid)
  rw [client?_eq_some]
  simp only [hgeth]
  constructor
  · rintro (h | ⟨-, short, hshort, h⟩)
    · exact ⟨_, h, Or.inl rfl⟩
    · exact ⟨short, h, Or.inr hshort⟩
  · rintro ⟨name, hname, h | h⟩
    · exact Or.inl (h ▸ hname)
    · exact Or.inr ⟨nameOf?_bundled_eq_none h, name, h, hname⟩

/-- The ids for which the bundled mapper takes the table for Geth. -/
lemma table?_bundled_iff (client : String) :
    bundled.table? client = bundled.clients.get? "geth" ↔ NamesGeth client := by
  rw [← client?_bundled_iff, table?_eq]
  cases hclient : bundled.client? client with
  | none => simp [OrderedMap.get?, bundled_entries, OrderedMap.find]
  | some name =>
    rw [Option.bind_some, Option.some_inj]
    refine ⟨fun hsame => ?_, fun hsame => by rw [hsame]⟩
    have hname : name = "geth" ∨ name ∈ otherNames := by
      rcases client?_eq_some.mp hclient with h | ⟨-, short, -, h⟩ <;>
        rcases nameOf?_bundled h with ⟨-, rfl⟩ | ⟨hid, rfl⟩ <;> simp_all
    exact hname.resolve_right fun hother => get?_bundled_ne hother hsame

end ExceptionMapper

def Hex.isDigit (c : Char) : Bool := c.isDigit || ('a' ≤ c && c ≤ 'f')

lemma Hex.isDigit_digit {n : Nat} (h : n < 16) : isDigit (digit n) = true := by
  interval_cases n <;> decide

namespace MessagePart

def number : List MessagePart := [.run Char.isDigit]

def hash : List MessagePart := words "0x" ++ [.run Hex.isDigit]

end MessagePart

lemma HasForm.number (n : Nat) : HasForm MessagePart.number (toString n).toList := by
  refine HasForm.run fun c hc => ?_
  have hdigits : (toString n).toList = Nat.toDigits 10 n := by simp [toString, Nat.repr]
  rw [hdigits] at hc
  exact Nat.isDigit_of_mem_toDigits (by decide) (by decide) hc

lemma HasForm.hash (h : Hash) : HasForm MessagePart.hash h.toHex.toList := by
  have hplain : ∀ c ∈ Hex.plain h.bytes, Hex.isDigit c = true := by
    intro c hc
    obtain ⟨n, hn, rfl⟩ := Hex.exists_digit hc
    exact Hex.isDigit_digit hn
  have htext : h.toHex.toList = "0x".toList ++ Hex.plain h.bytes := by
    simp [FixedBytes.toHex, Hex.encode]
  rw [htext]
  exact (HasForm.words "0x").append (HasForm.run hplain)

namespace TransitionChain

open MessagePart ExceptionMapper

/-- A block may follow one that the chain holds. -/
structure MayFollow (c : TransitionChain) (b : Block) (parent : StoredBlock) : Prop where
  held : c.blocks.get? b.header.parentHash = some parent
  number : b.header.number = parent.header.number + 1
  timestamp : parent.header.timestamp < b.header.timestamp

/-- A block follows one that the chain holds, and the tool executes it with all of its
transactions. -/
def Completed (c : TransitionChain) (b : Block)
    (ran : StoredBlock → Option (FaultOr TransitionOutput)) (r : TransitionResult) : Prop :=
  ∃ parent alloc, c.MayFollow b parent ∧ ran parent = some (.ok ⟨alloc, r⟩) ∧ r.rejected = []

/-- What a chain finds wrong with a block, given what the tool answers on top of each
parent. -/
inductive Finding (c : TransitionChain) (b : Block)
    (ran : StoredBlock → Option (FaultOr TransitionOutput)) : BlockException → Prop where
  | unknownParent (absent : c.blocks.get? b.header.parentHash = none) :
    Finding c b ran .unknownParent
  | number {parent} (held : c.blocks.get? b.header.parentHash = some parent)
      (differs : b.header.number ≠ parent.header.number + 1) :
    Finding c b ran .invalidBlockNumber
  | timestamp {parent} (held : c.blocks.get? b.header.parentHash = some parent)
      (number : b.header.number = parent.header.number + 1)
      (older : b.header.timestamp ≤ parent.header.timestamp) :
    Finding c b ran .invalidBlockTimestampOlderThanParent
  | gasUsed {r} (executed : Completed c b ran r)
      (differs : r.gasUsed ≠ b.header.gasUsed.saturated) : Finding c b ran .invalidGasUsed
  | receiptsRoot {r} (executed : Completed c b ran r)
      (gasUsed : r.gasUsed = b.header.gasUsed.saturated)
      (differs : r.receiptsRoot ≠ b.header.receiptsRoot) : Finding c b ran .invalidReceiptsRoot
  | stateRoot {r} (executed : Completed c b ran r)
      (gasUsed : r.gasUsed = b.header.gasUsed.saturated)
      (receiptsRoot : r.receiptsRoot = b.header.receiptsRoot)
      (differs : r.stateRoot ≠ b.header.stateRoot) : Finding c b ran .invalidStateRoot

/-- A message is the tool's: what it says as it fails, or about the first transaction that it
rejects. -/
inductive Relayed (c : TransitionChain) (b : Block)
    (ran : StoredBlock → Option (FaultOr TransitionOutput)) : String → Prop where
  | failed {parent name status stderr} (follows : c.MayFollow b parent)
      (fails : ran parent = some (.error (.tool name status stderr))) : Relayed c b ran stderr
  | transaction {parent output tx rest} (follows : c.MayFollow b parent)
      (executes : ran parent = some (.ok output)) (rejects : output.result.rejected = tx :: rest) :
    Relayed c b ran tx.error

/-! ### What the rules of Geth make of it -/

def contrast (before between behind : String) (value : List MessagePart) : List MessagePart :=
  words before ++ value ++ words between ++ value ++ words behind

def disagreementForm (what : String) (value : List MessagePart) : List MessagePart :=
  contrast ("invalid " ++ what ++ " (remote: ") " local: " ")" value

def ownForms : List (List MessagePart × BlockException) := [
  (words "unknown ancestor " ++ hash, .unknownParent),
  (contrast "invalid block number: parent " " child " "" number, .invalidBlockNumber),
  (contrast "timestamp older than parent: parent " " child " "" number,
    .invalidBlockTimestampOlderThanParent),
  (disagreementForm "gas used" number, .invalidGasUsed),
  (disagreementForm "receipt root hash" hash, .invalidReceiptsRoot),
  (disagreementForm "merkle root" hash, .invalidStateRoot)]

/-- A message and what it means to the rules of Geth, under any fork. -/
def Recognised (message : String) (e : BlockException) : Prop :=
  ∀ fork, classifyBy gethTable.rules message fork = .mapped (.block e)

lemma hasForm_contrast (before between behind : String) {left right : String}
    {value : List MessagePart} (hleft : HasForm value left.toList)
    (hright : HasForm value right.toList) :
    HasForm (contrast before between behind value)
      (before ++ left ++ between ++ right ++ behind).toList := by
  simp only [String.toList_append]
  exact ((((HasForm.words before).append hleft).append (.words between)).append hright).append
    (.words behind)

lemma ownForms_recognised :
    ∀ f ∈ ownForms, recognises gethRules f.1 (.block f.2) = true := by
  decide +kernel

lemma recognised_of_hasForm {parts : List MessagePart} {e : BlockException} {message : String}
    (hform : HasForm parts message.toList) (hown : (parts, e) ∈ ownForms) :
    Recognised message e :=
  classifyBy_of_recognises (ownForms_recognised _ hown) hform _

lemma recognised_ancestor (parent : Hash) :
    Recognised ("unknown ancestor " ++ parent.toHex) .unknownParent := by
  have hform : HasForm (words "unknown ancestor " ++ hash)
      ("unknown ancestor " ++ parent.toHex).toList := by
    rw [String.toList_append]
    exact (HasForm.words _).append (.hash parent)
  exact recognised_of_hasForm hform (by simp [ownForms])

lemma recognised_numbers (before : String) {e : BlockException} (parent child : Word)
    (hown : (contrast before " child " "" number, e) ∈ ownForms) :
    Recognised (before ++ parent.toDecimal ++ " child " ++ child.toDecimal) e := by
  have hform := hasForm_contrast before " child " "" (.number parent.toNat)
    (.number child.toNat)
  rw [String.append_empty] at hform
  exact recognised_of_hasForm hform hown

lemma disagreement_recognised (what : String) {remote here : String} {value : List MessagePart}
    {e : BlockException} (hremote : HasForm value remote.toList)
    (hhere : HasForm value here.toList) (hown : (disagreementForm what value, e) ∈ ownForms) :
    ∃ message, disagreement what remote here = rejection message ∧ Recognised message e :=
  ⟨_, rfl, recognised_of_hasForm (hasForm_contrast _ _ _ hremote hhere) hown⟩

section Rejections

variable {ω : Type} {c : TransitionChain} {b : Block} {parent : StoredBlock}
  {ran : StoredBlock → Option (FaultOr TransitionOutput)}

lemma parentFor_iff_mayFollow : c.parentFor b.header = .ok parent ↔ c.MayFollow b parent :=
  parentFor_eq_ok.trans ⟨fun ⟨held, number, timestamp⟩ => ⟨held, number, timestamp⟩,
    fun ⟨held, number, timestamp⟩ => ⟨held, number, timestamp⟩⟩

def reply (c : TransitionChain) (b : Block)
    (ran : StoredBlock → Option (FaultOr TransitionOutput)) : Option (FaultOr BlockOutcome) :=
  match c.parentFor b.header with
  | .error outcome => some (.ok outcome)
  | .ok parent => (ran parent).map fun output => (conclude b output c).1

lemma apply_reply (tool : TransitionTool ω) (chainId : Word) (limit : Option Nat)
    (c : TransitionChain) (b : Block) (w : ω) :
    (apply tool chainId b limit (c, w)).answer = c.reply b fun parent =>
      (tool (c.task chainId b parent).1 (c.task chainId b parent).2 limit w).answer := by
  rw [apply_eq, reply]
  cases c.parentFor b.header <;> rfl

lemma reply_of_refusal {alloc : Alloc} {r : TransitionResult} {outcome : BlockOutcome}
    (hfollows : c.MayFollow b parent) (hran : ran parent = some (.ok ⟨alloc, r⟩))
    (hrefusal : refusal? b.header r = some outcome) : c.reply b ran = some (.ok outcome) := by
  simp only [reply, parentFor_iff_mayFollow.mpr hfollows, hran, Option.map_some, conclude, hrefusal]

/-- The tag with which a chain itself rejects a block. -/
def ownTag? (e : BlockException) : Option ExceptionTag :=
  if e = .unknownParent then some (.block .unknownParent) else none

lemma reply_of_finding {e : BlockException} (h : Finding c b ran e) :
    ∃ message, c.reply b ran = some (.ok (.rejected message (ownTag? e))) ∧
      Recognised message e := by
  have hdisagreement (what : String) {remote here : String} {value : List MessagePart}
      {r : TransitionResult} (hcompleted : Completed c b ran r)
      (hremote : HasForm value remote.toList) (hhere : HasForm value here.toList)
      (hown : (disagreementForm what value, e) ∈ ownForms)
      (hrefusal : r.rejected = [] → refusal? b.header r = some (disagreement what remote here)) :
      ∃ message, c.reply b ran = some (.ok (.rejected message none)) ∧ Recognised message e := by
    obtain ⟨parent, alloc, hfollows, hran, hall⟩ := hcompleted
    obtain ⟨message, hmessage, hrecognised⟩ := disagreement_recognised what hremote hhere hown
    rw [hmessage] at hrefusal
    exact ⟨message, reply_of_refusal hfollows hran (hrefusal hall), hrecognised⟩
  cases h with
  | unknownParent habsent =>
    refine ⟨_, ?_, recognised_ancestor b.header.parentHash⟩
    simp only [reply, parentFor, habsent]
    rfl
  | @number parent hheld hdiffers =>
    refine ⟨_, ?_, recognised_numbers "invalid block number: parent " parent.header.number
      b.header.number (by simp [ownForms])⟩
    simp only [reply, parentFor, hheld, if_pos hdiffers]
    rfl
  | @timestamp parent hheld hnumber holder =>
    refine ⟨_, ?_, recognised_numbers "timestamp older than parent: parent "
      parent.header.timestamp b.header.timestamp (by simp [ownForms])⟩
    simp only [reply, parentFor, hheld, if_neg (not_not.mpr hnumber), if_pos holder]
    rfl
  | @gasUsed r hcompleted hdiffers =>
    refine hdisagreement "gas used" hcompleted (.number b.header.gasUsed.toNat)
      (.number r.gasUsed.toNat) (by simp [ownForms]) fun hall => ?_
    simp only [refusal?, hall, if_pos hdiffers]
    rfl
  | @receiptsRoot r hcompleted hgasUsed hdiffers =>
    refine hdisagreement "receipt root hash" hcompleted (.hash b.header.receiptsRoot)
      (.hash r.receiptsRoot) (by simp [ownForms]) fun hall => ?_
    simp only [refusal?, hall, if_neg (not_not.mpr hgasUsed), if_pos hdiffers]
  | @stateRoot r hcompleted hgasUsed hreceiptsRoot hdiffers =>
    refine hdisagreement "merkle root" hcompleted (.hash b.header.stateRoot)
      (.hash r.stateRoot) (by simp [ownForms]) fun hall => ?_
    simp only [refusal?, hall, if_neg (not_not.mpr hgasUsed),
      if_neg (not_not.mpr hreceiptsRoot), if_pos hdiffers]

lemma finding_of_parentFor {outcome : BlockOutcome} (h : c.parentFor b.header = .error outcome) :
    ∃ e, Finding c b ran e := by
  unfold parentFor at h
  split at h
  next habsent => exact ⟨_, .unknownParent habsent⟩
  next held hheld =>
    split at h
    next hdiffers => exact ⟨_, .number hheld hdiffers⟩
    next hnumber =>
      split at h
      next holder => exact ⟨_, .timestamp hheld (not_not.mp hnumber) holder⟩
      next => cases h

lemma finding_of_refusal {alloc : Alloc} {r : TransitionResult} {message : String}
    {tag : Option ExceptionTag} (hfollows : c.MayFollow b parent)
    (hran : ran parent = some (.ok ⟨alloc, r⟩))
    (h : refusal? b.header r = some (.rejected message tag)) :
    (∃ e, Finding c b ran e) ∨ tag = none ∧ Relayed c b ran message := by
  unfold refusal? at h
  split at h
  next tx rest hrejected =>
    cases h
    exact Or.inr ⟨rfl, .transaction hfollows hran hrejected⟩
  next hall =>
    have hcompleted : Completed c b ran r := ⟨parent, alloc, hfollows, hran, hall⟩
    left
    split at h
    next hdiffers => exact ⟨_, .gasUsed hcompleted hdiffers⟩
    next hgasUsed =>
      split at h
      next hdiffers => exact ⟨_, .receiptsRoot hcompleted (not_not.mp hgasUsed) hdiffers⟩
      next hreceiptsRoot =>
        split at h
        next hdiffers =>
          exact ⟨_, .stateRoot hcompleted (not_not.mp hgasUsed) (not_not.mp hreceiptsRoot)
            hdiffers⟩
        next => cases h

lemma finding_of_reply {message : String} {tag : Option ExceptionTag}
    (h : c.reply b ran = some (.ok (.rejected message tag))) :
    (∃ e, Finding c b ran e) ∨ tag = none ∧ Relayed c b ran message := by
  unfold reply at h
  split at h
  next outcome hparent => exact Or.inl (finding_of_parentFor hparent)
  next parent hparent =>
    have hfollows := parentFor_iff_mayFollow.mp hparent
    obtain ⟨output, hran, hconclude⟩ := Option.map_eq_some_iff.mp h
    unfold conclude at hconclude
    split at hconclude
    next name status stderr =>
      cases hconclude
      exact Or.inr ⟨rfl, .failed hfollows hran⟩
    next => cases hconclude
    next output =>
      split at hconclude
      next outcome hrefusal =>
        cases hconclude
        exact finding_of_refusal hfollows hran hrefusal
      next => cases hconclude

end Rejections

/-- The ids for which the bundled mapper takes the table for Geth are its names in any case
and with anything behind an underscore. By all of them, and under every fork, what a chain
finds wrong with a block is what its message means: an unknown parent, which it is also
tagged with, a wrong number, a timestamp that is not later, or a difference between the
header and the execution. Any other rejection is in the tool's words. -/
theorem own_rejections_classified :
    (∀ client, bundled.table? client = bundled.clients.get? "geth" ↔ NamesGeth client) ∧
    ∀ {ω : Type} (client : String), NamesGeth client → ∀ (fork : Option Fork)
      (tool : TransitionTool ω) (chainId : Word) (c : TransitionChain) (b : Block)
      (limit : Option Nat) (w : ω),
      let ran := fun parent =>
        (tool (c.task chainId b parent).1 (c.task chainId b parent).2 limit w).answer
      let answer := (apply tool chainId b limit (c, w)).answer
      (∀ e, Finding c b ran e → ∃ message,
        answer = some (.ok (.rejected message (ownTag? e))) ∧
          bundled.classify message client fork = .mapped (.block e)) ∧
      ∀ message tag, answer = some (.ok (.rejected message tag)) →
        (∃ e, Finding c b ran e ∧ tag = ownTag? e ∧
          bundled.classify message client fork = .mapped (.block e)) ∨
        tag = none ∧ Relayed c b ran message := by
  refine ⟨table?_bundled_iff, fun client hclient fork tool chainId c b limit w => ?_⟩
  intro ran answer
  have hreply : answer = c.reply b ran := apply_reply tool chainId limit c b w
  have hfound {e : BlockException} (hfinding : Finding c b ran e) : ∃ message,
      answer = some (.ok (.rejected message (ownTag? e))) ∧
        bundled.classify message client fork = .mapped (.block e) := by
    obtain ⟨message, hsaid, hrecognised⟩ := reply_of_finding hfinding
    refine ⟨message, hreply.trans hsaid, ?_⟩
    rw [classify, (table?_bundled_iff client).mpr hclient]
    exact hrecognised fork
  refine ⟨fun e => hfound, fun message tag hanswer => ?_⟩
  rcases finding_of_reply (hreply.symm.trans hanswer) with ⟨e, hfinding⟩ | hrelayed
  · obtain ⟨said, hsaid, hclassified⟩ := hfound hfinding
    obtain ⟨rfl, rfl⟩ : said = message ∧ ownTag? e = tag := by
      simpa using hsaid.symm.trans hanswer
    exact Or.inl ⟨e, hfinding, rfl, hclassified⟩
  · exact Or.inr hrelayed

def inertTool : TransitionTool Unit := fun input _ =>
  pure (.ok ⟨input.alloc, { stateRoot := .zero }⟩)

def loneChain : TransitionChain where
  blocks := OrderedMap.ofList [(.zero, ⟨default, .empty⟩)]

def spendingBlock : Block :=
  { (default : Block) with header := { (default : Header) with
      parentHash := .zero, number := 1, timestamp := 1, gasUsed := 21000 } }

/-- A block whose gas the tool does not use is rejected, and Geth's table knows the reason
by an alias in capital letters and with a version behind it. -/
theorem own_rejections_classified_spending :
    NamesGeth "Go-Ethereum_v1.14" ∧ ∃ message,
      (apply inertTool 1 spendingBlock none (loneChain, ())).answer =
        some (.ok (.rejected message none)) ∧
      bundled.classify message "Go-Ethereum_v1.14" (some .prague) =
        .mapped (.block .invalidGasUsed) := by
  have hnames : NamesGeth "Go-Ethereum_v1.14" :=
    ⟨"go-ethereum", by decide, Or.inr (by decide +kernel)⟩
  refine ⟨hnames, (own_rejections_classified.2 _ hnames (some .prague) inertTool 1 loneChain
    spendingBlock none ()).1 .invalidGasUsed ?_⟩
  refine .gasUsed (r := { stateRoot := .zero }) ⟨⟨default, .empty⟩, .empty, ?_, rfl, rfl⟩ ?_
  · exact ⟨by decide +kernel, by decide +kernel, by decide +kernel⟩
  · decide +kernel

end TransitionChain

end ChainConformance
