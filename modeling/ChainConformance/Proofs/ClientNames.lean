import ChainConformance.Proofs.MapperMerge
import Mathlib.Data.List.TakeWhile

/-!
# Names of clients with suffixes

A simulator puts what it builds a client from behind the client's name, with an underscore
between them. Such an id is taken for the client that is known by what stands before its first
underscore. That is the client whose name was given the suffix, as long as the name has no
underscore of its own.
-/

namespace ChainConformance

namespace Text

lemma ofNat_ne_underscore {n : Nat} (h : 96 ≤ n) : Char.ofNat n ≠ '_' := by
  intro heq
  have hcode : (Char.ofNat n).toNat = 95 := congrArg Char.toNat heq
  by_cases hvalid : n.isValidChar
  · rw [Char.ofNat, dif_pos hvalid] at hcode
    have hn : n = 95 := hcode
    omega
  · rw [Char.ofNat, dif_neg hvalid] at hcode
    cases hcode

lemma smallForm_ne_underscore {c : Char} (h : c ≠ '_') : smallForm c ≠ '_' := by
  have htargets : ∀ r ∈ smallForms, 96 ≤ r.2.2.2 := by decide +kernel
  unfold smallForm
  dsimp only
  split
  next r hr =>
    exact ofNat_ne_underscore (Nat.le_add_right_of_le (htargets r (List.mem_of_find?_eq_some hr)))
  next => exact h

lemma underscore_notMem_lowerFrom {passed cs : List Char} (h : '_' ∉ cs) :
    '_' ∉ lowerFrom passed cs := by
  induction cs generalizing passed with
  | nil => exact h
  | cons c rest ih =>
    obtain ⟨hc, hrest⟩ := not_or.mp (List.mem_cons.not.mp h)
    rw [lowerFrom, List.mem_append, not_or]
    refine ⟨?_, ih hrest⟩
    split
    · split <;> decide
    · split
      · decide
      · exact fun hmem => smallForm_ne_underscore (Ne.symm hc) (List.mem_singleton.mp hmem).symm

lemma startsCased_append (cs after : List Char) :
    startsCased (cs ++ '_' :: after) = startsCased cs := by
  have hstop : inRuns caseIgnorable '_'.toNat = false := by decide +kernel
  have hcased : inRuns casedLetters '_'.toNat = false := by decide +kernel
  unfold startsCased
  rw [List.dropWhile_append]
  cases hdrop : cs.dropWhile fun c => inRuns caseIgnorable c.toNat with
  | nil =>
    rw [List.isEmpty_nil, if_pos rfl, List.dropWhile_cons, hstop]
    exact hcased
  | cons c rest => simp

lemma lowerFrom_append (passed cs after : List Char) : ∃ small,
    lowerFrom passed (cs ++ '_' :: after) = lowerFrom passed cs ++ '_' :: small := by
  induction cs generalizing passed with
  | nil =>
    have hsmall : smallForm '_' = '_' := by decide +kernel
    refine ⟨lowerFrom ('_' :: passed) after, ?_⟩
    simp [lowerFrom, hsmall]
  | cons c rest ih =>
    obtain ⟨small, hsmall⟩ := ih (c :: passed)
    refine ⟨small, ?_⟩
    rw [List.cons_append, lowerFrom, lowerFrom, hsmall, startsCased_append, List.append_assoc]

end Text

/-- What stands before the first underscore of a name, the whole name if it has none. -/
def stem (id : String) : String := String.ofList (id.toList.takeWhile (· ≠ '_'))

lemma ne_underscore_of_notMem {cs : List Char} (h : '_' ∉ cs) :
    ∀ c ∈ cs, decide (c ≠ '_') = true :=
  fun _ hc => decide_eq_true fun heq => h (heq ▸ hc)

lemma takeWhile_whole {cs : List Char} (h : '_' ∉ cs) : cs.takeWhile (· ≠ '_') = cs :=
  List.takeWhile_eq_self_iff.mpr (ne_underscore_of_notMem h)

lemma takeWhile_before {cs : List Char} (h : '_' ∉ cs) (after : List Char) :
    (cs ++ '_' :: after).takeWhile (· ≠ '_') = cs := by
  rw [List.takeWhile_append_of_pos (ne_underscore_of_notMem h),
    List.takeWhile_cons_of_neg (by decide), List.append_nil]

lemma stem_of_notMem {id : String} (h : '_' ∉ id.toList) : stem id = id := by
  rw [stem, takeWhile_whole h, String.ofList_toList]

lemma stem_suffixed (id suffix : String) : stem (id ++ "_" ++ suffix) = stem id := by
  have hletters : (id ++ "_" ++ suffix).toList = id.toList ++ '_' :: suffix.toList := by
    rw [String.toList_append, String.toList_append, List.append_assoc]
    rfl
  rw [stem, stem, hletters]
  by_cases h : '_' ∈ id.toList
  · obtain ⟨first, after, hid, hnone⟩ := List.eq_append_cons_of_mem h
    rw [hid, List.append_assoc, List.cons_append, takeWhile_before hnone, takeWhile_before hnone]
  · rw [takeWhile_before h, takeWhile_whole h]

namespace ExceptionMapper

lemma baseName?_toLower (id : String) : baseName? (Text.toLower id) =
    if '_' ∈ id.toList then some (Text.toLower (stem id)) else none := by
  unfold baseName? Text.toLower
  dsimp only
  rw [String.toList_ofList]
  by_cases h : '_' ∈ id.toList
  · obtain ⟨first, after, hid, hnone⟩ := List.eq_append_cons_of_mem h
    obtain ⟨small, hsmall⟩ := Text.lowerFrom_append [] first after
    have hstem : (stem id).toList = first := by
      rw [stem, hid, takeWhile_before hnone, String.toList_ofList]
    rw [if_pos h, hstem, hid, hsmall, takeWhile_before (Text.underscore_notMem_lowerFrom hnone)]
    simp
  · have hlower : '_' ∉ Text.lowerFrom [] id.toList := Text.underscore_notMem_lowerFrom h
    rw [if_neg h, if_neg (by simpa using hlower)]

/-- An id is, in lower case, the name of a client or one of its aliases. -/
def IsNamed (m : ExceptionMapper) (id : String) : Prop :=
  m.clients.contains (Text.toLower id) ∨ ∃ name, m.HasAlias name (Text.toLower id)

variable {m : ExceptionMapper} {id c suffix : String}

lemma nameOf?_eq_none_iff : m.nameOf? (Text.toLower id) = none ↔ ¬m.IsNamed id := by
  rw [nameOf?_eq_none, IsNamed, not_or, Bool.not_eq_true, not_exists]

instance (m : ExceptionMapper) (id : String) : Decidable (m.IsNamed id) :=
  decidable_of_iff (m.nameOf? (Text.toLower id) ≠ none) <| by
    rw [ne_eq, nameOf?_eq_none_iff, not_not]

lemma client?_of_isNamed (h : m.IsNamed id) : m.client? id = m.nameOf? (Text.toLower id) := by
  have hsome : m.nameOf? (Text.toLower id) ≠ none := fun hnone => nameOf?_eq_none_iff.mp hnone h
  obtain ⟨name, hname⟩ := Option.ne_none_iff_exists'.mp hsome
  rw [client?, hname]
  rfl

lemma client?_of_not_isNamed (h : ¬m.IsNamed id) (hunderscore : '_' ∈ id.toList) :
    m.client? id = m.nameOf? (Text.toLower (stem id)) := by
  rw [client?, nameOf?_eq_none_iff.mpr h, baseName?_toLower, if_pos hunderscore]
  rfl

lemma client?_suffixed (h : ¬m.IsNamed (c ++ "_" ++ suffix)) :
    m.client? (c ++ "_" ++ suffix) = m.nameOf? (Text.toLower (stem c)) := by
  have hunderscore : '_' ∈ (c ++ "_" ++ suffix).toList := by simp
  rw [client?_of_not_isNamed h hunderscore, stem_suffixed]

lemma classify_congr {other : String} (h : m.client? id = m.client? other) (message : String)
    (fork : Option Fork) : m.classify message id fork = m.classify message other fork := by
  rw [classify_eq, classify_eq, h]

/-- A suffix is put behind a name by which a client is known. If the whole is not such a name
too, it means what stands before the first underscore of the name, and messages are read
accordingly. So it means the client of the name if and only if that part of the name means this
client, as it does if the name has no underscore. -/
theorem classify_suffixed (m : ExceptionMapper) {c : String} (suffix : String)
    (hknown : m.IsNamed c) (hnew : ¬m.IsNamed (c ++ "_" ++ suffix)) :
    (m.client? (c ++ "_" ++ suffix) = m.client? c ↔
      m.IsNamed (stem c) ∧ m.client? (stem c) = m.client? c) ∧
    (∀ message fork, m.classify message (c ++ "_" ++ suffix) fork =
      if m.IsNamed (stem c) then m.classify message (stem c) fork else .unmapped) ∧
    ('_' ∉ c.toList → ∀ message fork,
      m.classify message (c ++ "_" ++ suffix) fork = m.classify message c fork) := by
  have hsuffixed : m.client? (c ++ "_" ++ suffix) = m.nameOf? (Text.toLower (stem c)) :=
    client?_suffixed hnew
  refine ⟨?_, fun message fork => ?_, fun hplain => classify_congr ?_⟩
  · by_cases hstem : m.IsNamed (stem c)
    · simp only [hsuffixed, client?_of_isNamed hstem, hstem, true_and]
    · have hnone : m.client? (c ++ "_" ++ suffix) = none := by
        rw [hsuffixed, nameOf?_eq_none_iff.mpr hstem]
      have hsome : m.client? c ≠ none := by
        rw [client?_of_isNamed hknown]
        exact fun h => nameOf?_eq_none_iff.mp h hknown
      simp only [hnone, hstem, false_and, iff_false]
      exact hsome.symm
  · by_cases hstem : m.IsNamed (stem c)
    · rw [if_pos hstem]
      exact classify_congr (hsuffixed.trans (client?_of_isNamed hstem).symm) message fork
    · rw [if_neg hstem, classify_eq, hsuffixed, nameOf?_eq_none_iff.mpr hstem]
  · rw [hsuffixed, stem_of_notMem hplain, client?_of_isNamed hknown]

/-- A table for Geth, one of whose other names has an underscore. -/
def underscoredDocument : String :=
  "geth:\n  aliases: [my_geth]\n  rules:\n    - substring: nonce too low\n" ++
  "      exception: TransactionException.NONCE_MISMATCH_TOO_LOW\n"

/-- What the table makes of a message by the names of the client, with and without a suffix. -/
def Suffixed (m : ExceptionMapper) : Prop :=
  m.IsNamed "geth" ∧ ¬m.IsNamed "geth_default" ∧ m.IsNamed "my_geth" ∧
    ¬m.IsNamed "my_geth_default" ∧
    m.classify "nonce too low" "geth" none = .mapped (.transaction .nonceMismatchTooLow) ∧
    m.classify "nonce too low" "my_geth" none = .mapped (.transaction .nonceMismatchTooLow) ∧
    m.classify "nonce too low" "my_geth_default" none = .unmapped

instance (m : ExceptionMapper) : Decidable (Suffixed m) := inferInstanceAs (Decidable (_ ∧ _))

lemma underscoredDocument_suffixed : ∃ m, ofYaml underscoredDocument = .ok m ∧ Suffixed m := by
  have hread : (ofYaml underscoredDocument).toOption.any (fun m => decide (Suffixed m)) = true := by
    decide +kernel
  cases hm : ofYaml underscoredDocument with
  | error fault =>
    rw [hm] at hread
    cases hread
  | ok m =>
    rw [hm, Except.toOption, Option.any_some] at hread
    exact ⟨m, rfl, of_decide_eq_true hread⟩

/-- The name of the client has no underscore of its own. -/
theorem classify_suffixed_geth : ∃ m, ofYaml underscoredDocument = .ok m ∧ m.IsNamed "geth" ∧
    ¬m.IsNamed ("geth" ++ "_" ++ "default") ∧
    m.classify "nonce too low" ("geth" ++ "_" ++ "default") none =
      .mapped (.transaction .nonceMismatchTooLow) := by
  obtain ⟨m, hm, hgeth, hnew, -, -, hclass, -⟩ := underscoredDocument_suffixed
  have hsuffixed : "geth" ++ "_" ++ "default" = "geth_default" := by decide +kernel
  rw [← hsuffixed] at hnew
  refine ⟨m, hm, hgeth, hnew, ?_⟩
  rw [(classify_suffixed m "default" hgeth hnew).2.2 (by decide +kernel), hclass]

/-- The alias has one, and with a suffix it is not known any more. -/
theorem classify_suffixed_unmapped : ∃ m, ofYaml underscoredDocument = .ok m ∧
    m.IsNamed "my_geth" ∧ ¬m.IsNamed "my_geth_default" ∧ '_' ∉ "default".toList ∧
    m.classify "nonce too low" "my_geth_default" none ≠
      m.classify "nonce too low" "my_geth" none := by
  obtain ⟨m, hm, -, -, hknown, hnew, -, hclass, hsuffixed⟩ := underscoredDocument_suffixed
  refine ⟨m, hm, hknown, hnew, by decide +kernel, ?_⟩
  rw [hclass, hsuffixed]
  decide

end ExceptionMapper

end ChainConformance
