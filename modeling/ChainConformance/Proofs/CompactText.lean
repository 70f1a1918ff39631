import ChainConformance.Json.Parser
import ChainConformance.Json.Printer
import Mathlib.Tactic.IntervalCases

/-!
# Reading what was written

A value is read back from its compact form. Texts and truth values, and what is made of them,
come back as they are, and so do the integers of 64 bits. All other numbers are decimals then.
-/

namespace ChainConformance.Json

lemma ofDigits_toDigits (n : Nat) : ofDigits (Nat.toDigits 10 n) = n := by
  have h := Nat.ofDigitChars_ten_toDigits (n := n)
  simpa only [Nat.ofDigitChars_eq_foldl, ofDigits, Nat.mul_comm] using h

lemma areDigits_toDigits (n : Nat) : areDigits (Nat.toDigits 10 n) = true := by
  have hall : (Nat.toDigits 10 n).all Char.isDigit = true := List.all_eq_true.mpr fun c hc =>
    Nat.isDigit_of_mem_toDigits (by decide) (by decide) hc
  rw [areDigits, hall, Bool.and_true, Bool.not_eq_true', List.isEmpty_eq_false_iff]
  exact Nat.toDigits_ne_nil

lemma head?_toDigits {n : Nat} (hn : 0 < n) : (Nat.toDigits 10 n).head? ≠ some '0' := by
  induction n using Nat.strong_induction_on with
  | h n ih =>
    rw [Nat.toDigits_eq_if (by decide)]
    by_cases hlast : n < 10
    · rw [if_pos hlast]
      interval_cases n <;> decide
    · obtain ⟨c, cs, hcs⟩ : ∃ c cs, Nat.toDigits 10 (n / 10) = c :: cs :=
        List.exists_cons_of_ne_nil Nat.toDigits_ne_nil
      have hfirst := ih (n / 10) (by omega) (by omega)
      rw [if_neg hlast, hcs]
      rwa [hcs] at hfirst

lemma isDigit_of_areDigits {ds : List Char} (h : areDigits ds = true) :
    ∀ c ∈ ds, c.isDigit = true := List.all_eq_true.mp (Bool.and_eq_true _ _ ▸ h).2

namespace NumberParts

def sign (negative : Bool) : List Char := if negative then ['-'] else []

def afterWhole (fraction : Option (List Char)) (exponent : Option (Bool × List Char)) :
    List Char :=
  fraction.elim [] ('.' :: ·) ++ exponent.elim [] fun e => 'e' :: (sign e.1 ++ e.2)

def written (p : NumberParts) : List Char :=
  sign p.negative ++ (p.whole ++ afterWhole p.fraction p.exponent)

def ofInteger (n : Int) : NumberParts := ⟨decide (n < 0), Nat.toDigits 10 n.natAbs, none, none⟩

def ofDecimal (d : Decimal) : NumberParts :=
  if d.exponent = 0 then ⟨d.negative, Nat.toDigits 10 d.digits, some ['0'], none⟩
  else ⟨d.negative, Nat.toDigits 10 d.digits, none,
    some (decide (d.exponent < 0), Nat.toDigits 10 d.exponent.natAbs)⟩

lemma noLeadingZero_toDigits (n : Nat) :
    ((Nat.toDigits 10 n).head? != some '0' || (Nat.toDigits 10 n).length == 1) = true := by
  rcases Nat.eq_zero_or_pos n with rfl | hn
  · rfl
  · rw [Bool.or_eq_true, bne_iff_ne]
    exact .inl (head?_toDigits hn)

lemma isNumber_ofInteger (n : Int) : (ofInteger n).isNumber = true := by
  simp [isNumber, ofInteger, areDigits_toDigits, noLeadingZero_toDigits]

lemma isNumber_ofDecimal (d : Decimal) : (ofDecimal d).isNumber = true := by
  have hzero : areDigits ['0'] = true := rfl
  unfold ofDecimal
  split <;> simp [isNumber, areDigits_toDigits, noLeadingZero_toDigits, hzero]

lemma written_ofInteger (n : Int) : (ofInteger n).written = printInteger n := by
  cases n with
  | ofNat n => exact List.append_nil _
  | negSucc n =>
    have hnegative : decide (Int.negSucc n < 0) = true := decide_eq_true (Int.negSucc_lt_zero n)
    rw [ofInteger, hnegative]
    exact congrArg (List.cons '-') (List.append_nil _)

lemma written_ofDecimal (d : Decimal) : (ofDecimal d).written = printDecimal d := by
  unfold ofDecimal printDecimal
  split
  · exact (List.append_assoc _ _ _).symm
  · have hexponent := written_ofInteger d.exponent
    rw [List.append_assoc, ← hexponent]
    simp [written, afterWhole, sign, ofInteger]

end NumberParts

open NumberParts

lemma exponentParts_sign {negative : Bool} {ds : List Char} (h : areDigits ds = true) :
    exponentParts (sign negative ++ ds) = (negative, ds) := by
  cases negative with
  | true => rfl
  | false =>
    change exponentParts ds = _
    unfold exponentParts
    split
    · cases h
    · cases h
    · rfl

lemma span_append {p : Char → Bool} {front rest : List Char} (hfront : ∀ c ∈ front, p c = true)
    (hrest : rest.takeWhile p = []) :
    (front ++ rest).takeWhile p = front ∧ (front ++ rest).dropWhile p = rest := by
  have hdrop : rest.dropWhile p = rest := by
    have hsplit := List.takeWhile_append_dropWhile (p := p) (l := rest)
    rwa [hrest] at hsplit
  rw [List.takeWhile_append_of_pos hfront, List.dropWhile_append_of_pos hfront, hrest, hdrop,
    List.append_nil]
  exact ⟨rfl, rfl⟩

lemma split_whole {whole : List Char} (h : areDigits whole = true) (fraction : Option (List Char))
    (exponent : Option (Bool × List Char)) :
    (whole ++ afterWhole fraction exponent).takeWhile Char.isDigit = whole ∧
      (whole ++ afterWhole fraction exponent).dropWhile Char.isDigit =
        afterWhole fraction exponent := by
  refine span_append (isDigit_of_areDigits h) ?_
  cases fraction <;> cases exponent <;> rfl

lemma split_fraction {fraction : List Char} (h : areDigits fraction = true)
    (exponent : Option (Bool × List Char)) :
    (fraction ++ afterWhole none exponent).takeWhile (fun c => c ≠ 'e' ∧ c ≠ 'E') = fraction ∧
      (fraction ++ afterWhole none exponent).dropWhile (fun c => c ≠ 'e' ∧ c ≠ 'E') =
        afterWhole none exponent := by
  refine span_append (fun c hc => ?_) ?_
  · have hdigit := isDigit_of_areDigits h c hc
    refine decide_eq_true ⟨?_, ?_⟩ <;>
    · rintro rfl
      cases hdigit
  · cases exponent <;> rfl

lemma numberParts_written {p : NumberParts} (h : p.isNumber = true) :
    numberParts p.written = p := by
  obtain ⟨negative, whole, fraction, exponent⟩ := p
  simp only [isNumber, Bool.and_eq_true] at h
  obtain ⟨⟨⟨hwhole, -⟩, hfraction⟩, hexponent⟩ := h
  obtain ⟨htake, hdrop⟩ := split_whole hwhole fraction exponent
  unfold written numberParts
  split
  next _ negative' cs hsigned =>
    obtain ⟨rfl, rfl⟩ : negative = negative' ∧ whole ++ afterWhole fraction exponent = cs := by
      cases negative with
      | true => exact Prod.mk.inj hsigned
      | false =>
        split at hsigned
        next heq =>
          cases whole with
          | nil => cases hwhole
          | cons d ds =>
            obtain ⟨rfl, -⟩ := List.cons.inj heq
            cases hwhole
        · exact Prod.mk.inj hsigned
    rw [htake, hdrop]
    cases fraction with
    | none =>
      cases exponent with
      | none => rfl
      | some e => simp [afterWhole, exponentParts_sign hexponent]
    | some fraction =>
      obtain ⟨htake, hdrop⟩ := split_fraction hfraction exponent
      have hpoint : afterWhole (some fraction) exponent =
        '.' :: (fraction ++ afterWhole none exponent) := rfl
      simp only [hpoint, htake, hdrop]
      cases exponent with
      | none => rfl
      | some e => simp [afterWhole, exponentParts_sign hexponent]

lemma numberToken_written {p : NumberParts} (h : p.isNumber = true) :
    numberToken p.written = .literal p.value := by
  rw [numberToken, numberParts_written h]
  exact if_pos h

lemma isNumberChar_of_isDigit {c : Char} (h : c.isDigit = true) : isNumberChar c = true := by
  simp [isNumberChar, h]

lemma isNumberChar_written {p : NumberParts} (h : p.isNumber = true) :
    ∀ c ∈ p.written, isNumberChar c = true := by
  have hsign (negative : Bool) : ∀ c ∈ sign negative, isNumberChar c = true := by
    cases negative with
    | true => exact List.forall_mem_singleton.mpr rfl
    | false => exact List.forall_mem_nil _
  obtain ⟨negative, whole, fraction, exponent⟩ := p
  simp only [isNumber, Bool.and_eq_true] at h
  obtain ⟨⟨⟨hwhole, -⟩, hfraction⟩, hexponent⟩ := h
  have hdigits {ds : List Char} (hds : areDigits ds = true) : ∀ c ∈ ds, isNumberChar c = true :=
    fun c hc => isNumberChar_of_isDigit (isDigit_of_areDigits hds c hc)
  refine List.forall_mem_append.mpr ⟨hsign _, List.forall_mem_append.mpr ⟨hdigits hwhole,
    List.forall_mem_append.mpr ⟨?_, ?_⟩⟩⟩
  · cases fraction with
    | none => exact List.forall_mem_nil _
    | some ds => exact List.forall_mem_cons.mpr ⟨rfl, hdigits hfraction⟩
  · cases exponent with
    | none => exact List.forall_mem_nil _
    | some e =>
      exact List.forall_mem_cons.mpr
        ⟨rfl, List.forall_mem_append.mpr ⟨hsign _, hdigits hexponent⟩⟩

lemma start_digit {c : Char} (h : c.isDigit = true) : start c = ([], .number [c]) := by
  have hne {a : Char} (ha : a.isDigit = false) : c ≠ a := by
    rintro rfl
    rw [h] at ha
    cases ha
  simp [start, isSpace, h, hne]

def ofReadInteger (n : Int) : Json :=
  if -2 ^ 63 ≤ n ∧ n < 2 ^ 64 then integer n else decimal ⟨decide (n < 0), n.natAbs, 0⟩

def ofReadDecimal (d : Decimal) : Json :=
  if d.exponent = 0 then decimal ⟨d.negative, d.digits * 10, -1⟩ else decimal d

mutual

/-- The value as it is read back, its numbers in the form in which they are read. -/
def reread : Json → Json
  | integer n => ofReadInteger n
  | decimal d => ofReadDecimal d
  | array items => array (rereadItems items)
  | object fields => object (rereadFields fields)
  | damaged _ => null
  | j => j

def rereadItems : List Json → List Json
  | [] => []
  | j :: rest => reread j :: rereadItems rest

def rereadFields : List (String × Json) → List (String × Json)
  | [] => []
  | (name, value) :: rest => (name, reread value) :: rereadFields rest

end

lemma value_ofInteger (n : Int) : (ofInteger n).value = ofReadInteger n := by
  have hsize : UInt64.size = 2 ^ 64 := rfl
  rw [value, ofInteger, ofDigits_toDigits, ofReadInteger, hsize]
  dsimp only
  by_cases hnegative : n < 0
  · rw [decide_eq_true hnegative, if_pos rfl, if_neg (by omega)]
    by_cases hfits : n.natAbs ≤ 2 ^ 64 / 2
    · rw [if_pos hfits, if_pos (by omega), show -(n.natAbs : Int) = n by omega]
    · rw [if_neg hfits, if_neg (by omega)]
  · rw [decide_eq_false hnegative, if_neg (by decide)]
    by_cases hfits : n.natAbs < 2 ^ 64
    · rw [if_pos hfits, if_pos (by omega), Int.natAbs_of_nonneg (by omega)]
    · rw [if_neg hfits, if_neg (by omega)]

lemma value_ofDecimal (d : Decimal) : (ofDecimal d).value = ofReadDecimal d := by
  unfold ofDecimal ofReadDecimal
  split
  next hexponent =>
    have hdigits : ofDigits (Nat.toDigits 10 d.digits ++ ['0']) = d.digits * 10 := by
      rw [ofDigits, List.foldl_append]
      exact congrArg (· * 10) (ofDigits_toDigits _)
    simp [value, hdigits]
  next hexponent =>
    rcases lt_or_gt_of_ne hexponent with hnegative | hpositive
    · simp [value, ofDigits_toDigits, hnegative, abs_of_neg hnegative]
    · simp [value, ofDigits_toDigits, not_lt_of_gt hpositive, abs_of_pos hpositive]

variable {m : Machine}

lemma foldl_feed_escape (c : Char) (seen : List Char) :
    (escape c).foldl Progress.feed ⟨.text seen, m, false⟩ = ⟨.text (c :: seen), m, false⟩ := by
  by_cases hcontrol : c < ' '
  · obtain ⟨n, hn, rfl⟩ : ∃ n < 32, c = Char.ofNat n :=
      ⟨c.toNat, hcontrol, (Char.ofNat_toNat c).symm⟩
    interval_cases n <;> rfl
  by_cases hquote : c = '"'
  · subst hquote
    rfl
  by_cases hslash : c = '\\'
  · subst hslash
    rfl
  · have hplain : escape c = [c] := by
      have hne {a : Char} (ha : a < ' ') : c ≠ a := by
        rintro rfl
        exact hcontrol ha
      simp [escape, hquote, hslash, hcontrol, hne]
    rw [hplain]
    simp [Progress.feed, step, hquote, hslash, hcontrol]

lemma foldl_feed_escaped (cs seen : List Char) :
    (cs.flatMap escape).foldl Progress.feed ⟨.text seen, m, false⟩ =
      ⟨.text (cs.reverse ++ seen), m, false⟩ := by
  induction cs generalizing seen with
  | nil => rfl
  | cons c cs ih =>
    rw [List.flatMap_cons, List.foldl_append, foldl_feed_escape, ih, List.reverse_cons,
      List.append_assoc, List.singleton_append]

lemma foldl_feed_quote (s : String) :
    (quote s).foldl Progress.feed ⟨.between, m, false⟩ =
      Progress.take ⟨.between, m, false⟩ (.text s) := by
  have hopen : Progress.feed ⟨.between, m, false⟩ '"' = ⟨.text [], m, false⟩ := rfl
  have hclose : Progress.feed ⟨.text s.toList.reverse, m, false⟩ '"' =
      Progress.take ⟨.between, m, false⟩ (.text (String.ofList s.toList.reverse.reverse)) := rfl
  rw [quote, List.foldl_cons, hopen, List.foldl_append, foldl_feed_escaped, List.foldl_cons,
    List.foldl_nil, List.append_nil, hclose, List.reverse_reverse, String.ofList_toList]

/-! ### Whole values -/

/-- The machine is reached but for the last token, which is a number that may go on. -/
inductive Progress.Reaches (m : Machine) : Progress → Prop
  | between : Reaches m ⟨.between, m, false⟩
  | number {seen : List Char} {before : Machine}
      (h : before.next? (numberToken seen.reverse) = some m) :
      Reaches m ⟨.number seen, before, false⟩

namespace Progress.Reaches

variable {p : Progress}

lemma feed_eq (h : Reaches m p) {c : Char} (hc : isNumberChar c = false) :
    p.feed c = Progress.feed ⟨.between, m, false⟩ c := by
  cases h with
  | between => rfl
  | number h =>
    simp [Progress.feed, step, hc, Progress.take, h]

lemma finish_eq (h : Reaches m p) : p.finish = Progress.finish ⟨.between, m, false⟩ := by
  cases h with
  | between => rfl
  | number h => simp [Progress.finish, Mode.atEnd, Progress.take, h]

end Progress.Reaches

lemma foldl_feed_number {cs : List Char} (h : ∀ c ∈ cs, isNumberChar c = true)
    (seen : List Char) : cs.foldl Progress.feed ⟨.number seen, m, false⟩ =
      ⟨.number (cs.reverse ++ seen), m, false⟩ := by
  induction cs generalizing seen with
  | nil => rfl
  | cons c cs ih =>
    obtain ⟨hc, hcs⟩ := List.forall_mem_cons.mp h
    have hstep : Progress.feed ⟨.number seen, m, false⟩ c = ⟨.number (c :: seen), m, false⟩ := by
      simp [Progress.feed, step, hc]
    rw [List.foldl_cons, hstep, ih hcs, List.reverse_cons, List.append_assoc,
      List.singleton_append]

lemma reaches_written {p : NumberParts} (h : p.isNumber = true) (hm : m.expect.allowsValue = true) :
    Progress.Reaches (m.emit p.value) (p.written.foldl Progress.feed ⟨.between, m, false⟩) := by
  obtain ⟨c, cs, hwritten, hstart⟩ : ∃ c cs, p.written = c :: cs ∧ start c = ([], .number [c]) := by
    obtain ⟨negative, whole, fraction, exponent⟩ := p
    cases negative with
    | true => exact ⟨'-', _, rfl, rfl⟩
    | false =>
      cases whole with
      | nil => cases h
      | cons d ds =>
        simp only [isNumber, Bool.and_eq_true] at h
        exact ⟨d, _, rfl, start_digit (isDigit_of_areDigits h.1.1.1 d List.mem_cons_self)⟩
  have hall := isNumberChar_written h
  have hfirst : Progress.feed ⟨.between, m, false⟩ c = ⟨.number [c], m, false⟩ := by
    simp [Progress.feed, step, hstart]
  have hread : cs.reverse ++ [c] = p.written.reverse := by rw [hwritten, List.reverse_cons]
  rw [hwritten] at hall
  rw [hwritten, List.foldl_cons, hfirst, foldl_feed_number (List.forall_mem_cons.mp hall).2, hread]
  refine .number ?_
  rw [List.reverse_reverse, numberToken_written h]
  exact if_pos hm

open Progress (Reaches)

lemma reaches_take {after : Machine} {t : Token} (h : m.next? t = some after) :
    Reaches after (Progress.take ⟨.between, m, false⟩ t) := by
  simp only [Progress.take, h]
  exact .between

lemma foldl_feed_name {done : List (String × Json)} {frames : List Frame} {expect : Expect}
    {result : Option Json} (h : expect = .name ∨ expect = .nameOrClose) (name : String)
    (rest : List Char) : (quote name ++ ':' :: rest).foldl Progress.feed
      ⟨.between, ⟨.object done none :: frames, expect, result⟩, false⟩ =
    rest.foldl Progress.feed
      ⟨.between, ⟨.object done (some name) :: frames, .value, none⟩, false⟩ := by
  rw [List.foldl_append, foldl_feed_quote]
  rcases h with rfl | rfl <;> rfl

-- The induction is on the value and, together with it, on what is left of its items and fields.
-- Whether a number is at its end is not known before the character after it, which is why a value
-- takes the reading to where it `Reaches` the next machine, and not always to that machine itself.
mutual

theorem reaches_print (j : Json) (m : Machine) (hm : m.expect.allowsValue = true) :
    Reaches (m.emit j.reread) ((print j).foldl Progress.feed ⟨.between, m, false⟩) := by
  cases j with
  | null => exact reaches_take (t := .literal null) (if_pos hm)
  | damaged => exact reaches_take (t := .literal null) (if_pos hm)
  | bool b => cases b <;> exact reaches_take (t := .literal (.bool _)) (if_pos hm)
  | integer n =>
    have h := reaches_written (isNumber_ofInteger n) hm
    rwa [written_ofInteger, value_ofInteger] at h
  | decimal d =>
    have h := reaches_written (isNumber_ofDecimal d) hm
    rwa [written_ofDecimal, value_ofDecimal] at h
  | text s =>
    rw [print, foldl_feed_quote]
    exact reaches_take (if_pos hm)
  | array items =>
    have hopen : Progress.feed ⟨.between, m, false⟩ '[' =
        ⟨.between, m.descend (.array []) .valueOrClose, false⟩ := by
      change Progress.take ⟨.between, m, false⟩ .openArray = _
      simp [Progress.take, Machine.next?, hm]
    cases items with
    | nil =>
      rw [print, List.foldl_cons, hopen]
      exact .between
    | cons j rest =>
      rw [print, List.foldl_cons, hopen, List.foldl_append]
      have hfirst := reaches_print j (m.descend (.array []) .valueOrClose) rfl
      exact reaches_printItems rest hfirst
  | object fields =>
    have hopen : Progress.feed ⟨.between, m, false⟩ '\x7b' =
        ⟨.between, m.descend (.object [] none) .nameOrClose, false⟩ := by
      change Progress.take ⟨.between, m, false⟩ .openObject = _
      simp [Progress.take, Machine.next?, hm]
    cases fields with
    | nil =>
      rw [print, List.foldl_cons, hopen]
      exact .between
    | cons field rest =>
      obtain ⟨name, value⟩ := field
      rw [print, List.foldl_cons, hopen, Machine.descend, foldl_feed_name (.inr rfl),
        List.foldl_append]
      have hfirst := reaches_print value ⟨.object [] (some name) :: m.frames, .value, none⟩ rfl
      exact reaches_printFields rest hfirst

theorem reaches_printItems (items : List Json) {done : List Json} {frames : List Frame}
    {p : Progress} (h : Reaches ⟨.array done :: frames, .separator, none⟩ p) :
    Reaches (Machine.emit ⟨frames, .value, none⟩ (.array (done.reverse ++ rereadItems items)))
      ((printItems items).foldl Progress.feed p) := by
  cases items with
  | nil =>
    rw [printItems, List.foldl_cons, h.feed_eq rfl, rereadItems, List.append_nil]
    exact .between
  | cons j rest =>
    rw [printItems, List.foldl_cons, h.feed_eq rfl, List.foldl_append]
    have hitem := reaches_print j ⟨.array done :: frames, .value, none⟩ rfl
    rw [rereadItems, List.append_cons, ← List.reverse_cons]
    exact reaches_printItems rest hitem

theorem reaches_printFields (fields : List (String × Json)) {done : List (String × Json)}
    {frames : List Frame} {p : Progress}
    (h : Reaches ⟨.object done none :: frames, .separator, none⟩ p) :
    Reaches (Machine.emit ⟨frames, .value, none⟩ (.object (done.reverse ++ rereadFields fields)))
      ((printFields fields).foldl Progress.feed p) := by
  cases fields with
  | nil =>
    rw [printFields, List.foldl_cons, h.feed_eq rfl, rereadFields, List.append_nil]
    exact .between
  | cons field rest =>
    obtain ⟨name, value⟩ := field
    have hcomma : Progress.feed ⟨.between, ⟨.object done none :: frames, .separator, none⟩, false⟩
      ',' = ⟨.between, ⟨.object done none :: frames, .name, none⟩, false⟩ := rfl
    rw [printFields, List.foldl_cons, h.feed_eq rfl, hcomma, foldl_feed_name (.inl rfl),
      List.foldl_append, rereadFields, List.append_cons, ← List.reverse_cons]
    have hfield := reaches_print value ⟨.object done (some name) :: frames, .value, none⟩ rfl
    exact reaches_printFields rest hfield

end

/-- A value is read back from its compact form, its numbers in the form in which numbers are
read. -/
theorem parse_toCompact (j : Json) : parse j.toCompact = .ok j.reread := by
  have h := reaches_print j .initial rfl
  rw [parse, toCompact, String.toList_ofList]
  exact h.finish_eq

end ChainConformance.Json
