import ChainConformance.Exception.Bundled
import ChainConformance.Proofs.MapperLoading

/-!
# Messages of a known form

A message that is put together of fixed words and of numbers or hashes has a form: characters,
and runs of any characters of a class. Which rule of a table is the first to match a message
can be read off its form. A rule is passed over if what it looks for can occur in no message
of the form, and it is certain to match if its text is among the words at the front.
-/

namespace ChainConformance

/-- A part of a message: a character, or any number of characters of a class. -/
inductive MessagePart where
  | char (c : Char)
  | run (allowed : Char → Bool)

def MessagePart.words (s : String) : List MessagePart := s.toList.map .char

/-- A text has a form. -/
inductive HasForm : List MessagePart → List Char → Prop where
  | nil : HasForm [] []
  | char {parts text} (c : Char) (rest : HasForm parts text) :
      HasForm (.char c :: parts) (c :: text)
  | skip {parts text} (allowed : Char → Bool) (rest : HasForm parts text) :
      HasForm (.run allowed :: parts) text
  | more {parts text} {allowed : Char → Bool} {c : Char} (h : allowed c)
      (rest : HasForm (.run allowed :: parts) text) : HasForm (.run allowed :: parts) (c :: text)

namespace HasForm

variable {parts others : List MessagePart} {text text' : List Char}

lemma append (h : HasForm parts text) (h' : HasForm others text') :
    HasForm (parts ++ others) (text ++ text') := by
  induction h with
  | nil => exact h'
  | char c _ ih => exact .char c ih
  | skip allowed _ ih => exact .skip allowed ih
  | more hc _ ih => exact .more hc ih

lemma words (s : String) : HasForm (MessagePart.words s) s.toList := by
  unfold MessagePart.words
  induction s.toList with
  | nil => exact .nil
  | cons c _ ih => exact .char c ih

lemma run {allowed : Char → Bool} (h : ∀ c ∈ text, allowed c) :
    HasForm [.run allowed] text := by
  induction text with
  | nil => exact .skip allowed .nil
  | cons c text ih => exact .more (h c List.mem_cons_self) (ih fun d hd => h d (by simp [hd]))

end HasForm

/-- What is left of some characters when some at their front that are allowed are taken
away, none to begin with. -/
def remainders (allowed : Char → Bool) : List Char → List (List Char)
  | [] => [[]]
  | c :: rest => (c :: rest) :: if allowed c then remainders allowed rest else []

def mayStart : List MessagePart → List Char → Bool
  | [], looked => looked.isEmpty
  | .char _ :: _, [] => true
  | .char c :: parts, d :: rest => c == d && mayStart parts rest
  | .run allowed :: parts, looked => (remainders allowed looked).any (mayStart parts)

def mayOccur (looked : List Char) : List MessagePart → Bool
  | [] => looked.isEmpty
  | part :: parts => mayStart (part :: parts) looked || mayOccur looked parts

def front : List MessagePart → List Char
  | .char c :: parts => c :: front parts
  | _ => []

lemma self_mem_remainders (allowed : Char → Bool) (looked : List Char) :
    looked ∈ remainders allowed looked := by
  cases looked <;> simp [remainders]

section Occurrence

variable {parts : List MessagePart} {looked text : List Char}

lemma mayStart_nil (parts : List MessagePart) : mayStart parts [] = true := by
  induction parts with
  | nil => rfl
  | cons part parts ih =>
    cases part with
    | char c => rfl
    | run allowed => simp [mayStart, remainders, ih]

lemma HasForm.mayStart (h : HasForm parts text) (hstart : looked.isPrefixOf text) :
    mayStart parts looked = true := by
  induction h generalizing looked with
  | nil =>
    cases looked with
    | nil => rfl
    | cons c rest => cases hstart
  | char c _ ih =>
    cases looked with
    | nil => rfl
    | cons d rest =>
      simp only [List.isPrefixOf, Bool.and_eq_true, beq_iff_eq] at hstart
      simp [ChainConformance.mayStart, hstart.1, ih hstart.2]
  | skip allowed _ ih =>
    exact List.any_eq_true.mpr ⟨looked, self_mem_remainders allowed looked, ih hstart⟩
  | @more parts text allowed c hc _ ih =>
    cases looked with
    | nil => exact mayStart_nil _
    | cons d rest =>
      simp only [List.isPrefixOf, Bool.and_eq_true, beq_iff_eq] at hstart
      obtain ⟨left, hleft, hmay⟩ := List.any_eq_true.mp (ih hstart.2)
      refine List.any_eq_true.mpr ⟨left, ?_, hmay⟩
      rw [remainders, hstart.1, if_pos hc]
      exact List.mem_cons_of_mem _ hleft

lemma mayOccur_of_mayStart (h : ChainConformance.mayStart parts looked = true) :
    mayOccur looked parts = true := by
  cases parts with
  | nil => exact h
  | cons part parts => simp [mayOccur, h]

lemma HasForm.mayOccur (h : HasForm parts text) (hoccurs : occursIn looked text) :
    mayOccur looked parts = true := by
  induction h with
  | nil => exact hoccurs
  | @char parts text c rest ih =>
    rcases Bool.or_eq_true_iff.mp hoccurs with hstart | hlater
    · exact mayOccur_of_mayStart ((HasForm.char c rest).mayStart hstart)
    · simp [ChainConformance.mayOccur, ih hlater]
  | skip allowed _ ih => simp [ChainConformance.mayOccur, ih hoccurs]
  | more hc rest ih =>
    rcases Bool.or_eq_true_iff.mp hoccurs with hstart | hlater
    · exact mayOccur_of_mayStart ((HasForm.more hc rest).mayStart hstart)
    · exact ih hlater

lemma occursIn_append (h : occursIn looked text) (behind : List Char) :
    occursIn looked (text ++ behind) = true := by
  induction text with
  | nil =>
    have hnil : looked = [] := List.isEmpty_iff.mp h
    subst hnil
    cases behind <;> rfl
  | cons c text ih =>
    rcases Bool.or_eq_true_iff.mp h with hstart | hlater
    · obtain ⟨left, hleft⟩ := List.isPrefixOf_iff_prefix.mp hstart
      refine Bool.or_eq_true_iff.mpr (Or.inl (List.isPrefixOf_iff_prefix.mpr ⟨left ++ behind, ?_⟩))
      rw [← List.append_assoc, hleft]
      rfl
    · exact Bool.or_eq_true_iff.mpr (Or.inr (ih hlater))

lemma HasForm.front_prefix (h : HasForm parts text) : ∃ behind, text = front parts ++ behind := by
  induction h with
  | nil => exact ⟨[], rfl⟩
  | char c _ ih =>
    obtain ⟨behind, rfl⟩ := ih
    exact ⟨behind, rfl⟩
  | skip => exact ⟨_, rfl⟩
  | more => exact ⟨_, rfl⟩

/-- What occurs at the front of a form occurs in every text of the form. -/
lemma HasForm.occursIn (h : HasForm parts text) (hfront : occursIn looked (front parts)) :
    occursIn looked text = true := by
  obtain ⟨behind, rfl⟩ := h.front_prefix
  exact occursIn_append hfront behind

end Occurrence

namespace Pattern

/-- The characters that every match of the nodes starts with, as far as they are fixed. -/
def leadAll : List Node → List Char
  | .one (.range first last) :: nodes =>
    if first = last then Char.ofNat first :: leadAll nodes else []
  | _ => []

/-- The characters that every match of the pattern starts with, as far as they are fixed. -/
def Node.lead : Node → List Char
  | .sequence nodes => leadAll nodes
  | _ => []

lemma endsAll_nil (nodes : List Node) : endsAll nodes [] = [] := by
  induction nodes with
  | nil => rfl
  | cons n nodes ih => exact ih

lemma endsAll_one {n : Nat} {nodes : List Node} {p : Place}
    (h : endsAll (.one (.range n n) :: nodes) [p] ≠ []) :
    ∃ rest, p.rest = Char.ofNat n :: rest ∧
      endsAll nodes [⟨some (Char.ofNat n), rest⟩] ≠ [] := by
  obtain ⟨previous, rest⟩ := p
  cases rest with
  | nil => exact absurd (endsAll_nil nodes) h
  | cons c rest =>
    by_cases hc : n ≤ c.toNat ∧ c.toNat ≤ n
    · have hn : n = c.toNat := by omega
      subst hn
      refine ⟨rest, by rw [Char.ofNat_toNat], ?_⟩
      rw [Char.ofNat_toNat]
      simpa [endsAll, Node.ends, CharSet.mem, distinct] using h
    · refine absurd ?_ h
      have hmem : (CharSet.range n n).mem c = false := by simpa [CharSet.mem] using hc
      rw [endsAll]
      simp only [List.flatMap_cons, List.flatMap_nil, Node.ends, hmem]
      exact endsAll_nil nodes

lemma leadAll_prefix {nodes : List Node} {p : Place} (h : endsAll nodes [p] ≠ []) :
    (leadAll nodes).isPrefixOf p.rest := by
  induction nodes generalizing p with
  | nil => rfl
  | cons n nodes ih =>
    unfold leadAll
    split
    next first last _ heq =>
      obtain ⟨rfl, rfl⟩ := List.cons.inj heq
      split
      next hsame =>
        subst hsame
        obtain ⟨rest, hrest, hends⟩ := endsAll_one h
        rw [hrest]
        simpa [List.isPrefixOf] using ih hends
      next => rfl
    next => rfl

lemma Node.lead_prefix {n : Node} {p : Place} (h : n.ends p ≠ []) :
    n.lead.isPrefixOf p.rest := by
  unfold lead
  split
  next nodes => exact leadAll_prefix h
  next => rfl

lemma occursIn_of_matchesFrom {n : Node} {previous : Option Char} {text : List Char}
    (h : matchesFrom n previous text) : occursIn n.lead text = true := by
  induction text generalizing previous with
  | nil =>
    have hends : n.ends ⟨previous, []⟩ ≠ [] := by simpa [matchesFrom] using h
    have hlead := Node.lead_prefix hends
    cases hn : n.lead with
    | nil => rfl
    | cons c rest => simp [hn] at hlead
  | cons c text ih =>
    rcases Bool.or_eq_true_iff.mp h with hends | hlater
    · have hends : n.ends ⟨previous, c :: text⟩ ≠ [] := by simpa using hends
      exact Bool.or_eq_true_iff.mpr (Or.inl (Node.lead_prefix hends))
    · exact Bool.or_eq_true_iff.mpr (Or.inr (ih hlater))

end Pattern

namespace ExceptionMapper

namespace WrittenRule

def looked (r : WrittenRule) : List Char :=
  match r.substring, r.pattern with
  | some text, _ => text.toList
  | none, some source => ((Pattern.ofText? source).map (·.lead)).getD []
  | none, none => []

/-- Whether the rule may match a message of the form. -/
def mayMatch (parts : List MessagePart) (r : WrittenRule) : Bool := mayOccur r.looked parts

/-- Whether the rule matches every message of the form, under every fork. -/
def mustMatch (parts : List MessagePart) (r : WrittenRule) : Bool :=
  match r with
  | ⟨some text, none, _, none, none⟩ => occursIn text.toList (front parts)
  | _ => false

variable {parts : List MessagePart} {message : String} {r : WrittenRule} {made : MessageRule}

lemma mayMatch_of_isMatch (h : HasForm parts message.toList) (hmade : r.compile .own = .ok made)
    (hmatch : made.pattern.isMatch message) : r.mayMatch parts = true := by
  refine h.mayOccur ?_
  obtain ⟨hpattern, -⟩ := of_compile hmade
  unfold messagePattern at hpattern
  split at hpattern
  next text hsubstring _ =>
    have hlooked : r.looked = text.toList := by rw [looked, hsubstring]
    rw [← Except.ok.inj hpattern] at hmatch
    rw [hlooked]
    exact hmatch
  next source hsubstring hsource =>
    cases hnode : Pattern.ofText? source with
    | none => simp [Dialect.own, hnode] at hpattern
    | some node =>
      have hfound : MessagePattern.pattern node.isMatch = made.pattern := by
        simpa [Dialect.own, hnode] using hpattern
      have hlooked : r.looked = node.lead := by simp [looked, hsubstring, hsource, hnode]
      rw [← hfound] at hmatch
      rw [hlooked]
      exact Pattern.occursIn_of_matchesFrom hmatch
  next => cases hpattern

lemma matches_of_mustMatch (h : HasForm parts message.toList) (hmust : r.mustMatch parts)
    (fork : Option Fork) : ∃ made, r.compile .own = .ok made ∧ made.tag = r.tag ∧
      (made.appliesTo fork && made.pattern.isMatch message) = true := by
  unfold mustMatch at hmust
  split at hmust
  next text tag =>
    have hmatch : occursIn text.toList message.toList = true := h.occursIn hmust
    exact ⟨⟨.substring text, tag, none, none⟩, rfl, rfl, by cases fork <;> exact hmatch⟩
  next => cases hmust

end WrittenRule

/-- Whether the first rule that may match a message of the form is certain to match it and
means the tag. -/
def recognises (rules : List WrittenRule) (parts : List MessagePart) (tag : ExceptionTag) :
    Bool :=
  match rules.find? (·.mayMatch parts) with
  | some r => r.mustMatch parts && r.tag == tag
  | none => false

/-- A message whose form is recognised means the tag, whatever is in its runs. -/
lemma classifyBy_of_recognises {rules : List WrittenRule} {parts : List MessagePart}
    {tag : ExceptionTag} {message : String} (hrules : recognises rules parts tag)
    (h : HasForm parts message.toList) (aliases : List String) (fork : Option Fork) :
    classifyBy (compiled aliases rules).rules message fork = .mapped tag := by
  unfold recognises at hrules
  split at hrules
  next r hfind =>
    rw [Bool.and_eq_true, beq_iff_eq] at hrules
    obtain ⟨hmust, rfl⟩ := hrules
    obtain ⟨-, passed, behind, rfl, hpassed⟩ := List.find?_eq_some_iff_append.mp hfind
    obtain ⟨made, hmade, htag, hmatch⟩ := WrittenRule.matches_of_mustMatch h hmust fork
    have hcompiled : (r.compile .own).toOption = some made := by
      rw [hmade]
      rfl
    have hnone (a : MessageRule)
        (ha : a ∈ passed.filterMap fun r => (r.compile .own).toOption) :
        ¬(a.appliesTo fork && a.pattern.isMatch message) = true := by
      intro hmatch
      obtain ⟨r, hr, ha⟩ := List.mem_filterMap.mp ha
      have hmay := WrittenRule.mayMatch_of_isMatch h (eq_ok_of_toOption ha)
        (Bool.and_eq_true_iff.mp hmatch).2
      have hnot := hpassed r hr
      rw [hmay] at hnot
      cases hnot
    rw [classifyBy, compiled, List.filterMap_append, List.find?_append,
      List.find?_eq_none.mpr hnone, Option.none_or]
    simp only [List.filterMap_cons, hcompiled, List.find?_cons, hmatch, htag]
  next => cases hrules

end ExceptionMapper

end ChainConformance
