import ChainConformance.Proofs.MapperMerge

/-!
# Orders of merging

Three mappers can be merged from the left or from the right. The tables that come of it may
name their aliases in different orders, and nothing that is asked of a mapper depends on that.
Nor does it count whether a mapper without tables has been merged in.
-/

namespace ChainConformance.ExceptionMapper

/-- Two mappers have the same clients, each with the same rules and the same aliases, whatever
the order of the aliases and however often each of them is named. -/
structure Agrees (m m' : ExceptionMapper) : Prop where
  contains (name : String) : m.clients.contains name = m'.clients.contains name
  rules (name : String) : m.rulesOf name = m'.rulesOf name
  aliases (name id : String) : m.HasAlias name id ↔ m'.HasAlias name id

lemma knows_eq (m : ExceptionMapper) (client : String) :
    m.knows client = (m.client? client).isSome := by
  rw [knows, table?_eq]
  cases hclient : m.client? client with
  | none => rfl
  | some name =>
    obtain ⟨t, ht⟩ := client?_held hclient
    simp [ht]

namespace Agrees

variable {m m' : ExceptionMapper}

/-- An alias belongs to the first client that has it in the order of names, which does not
depend on the order of the aliases of any client. -/
lemma nameOf?_eq (h : m.Agrees m') (id : String) : m.nameOf? id = m'.nameOf? id := by
  by_cases hid : m.clients.contains id
  · have hid' : m'.clients.contains id := by rwa [← h.contains]
    rw [nameOf?, nameOf?, if_pos hid, if_pos hid']
  · rw [Bool.not_eq_true] at hid
    have hid' : m'.clients.contains id = false := by rwa [← h.contains]
    refine Option.ext fun name => ?_
    rw [nameOf?_eq_alias hid, nameOf?_eq_alias hid']
    simp only [h.aliases]

lemma client?_eq (h : m.Agrees m') (client : String) : m.client? client = m'.client? client := by
  have hnames : m.nameOf? = m'.nameOf? := funext h.nameOf?_eq
  rw [client?, client?, hnames]

lemma classify_eq (h : m.Agrees m') (message client : String) (fork : Option Fork) :
    m.classify message client fork = m'.classify message client fork := by
  simp only [ExceptionMapper.classify_eq, h.client?_eq, h.rules]

lemma knows_eq (h : m.Agrees m') (client : String) : m.knows client = m'.knows client := by
  rw [ExceptionMapper.knows_eq, ExceptionMapper.knows_eq, h.client?_eq]

end Agrees

lemma merged_agrees_assoc (a b c : ExceptionMapper) :
    ((a.merged b).merged c).Agrees (a.merged (b.merged c)) where
  contains name := by simp only [contains_merged, Bool.or_assoc]
  rules name := by simp only [rulesOf_merged, List.append_assoc]
  aliases name id := by simp only [hasAlias_merged, or_assoc]

lemma not_hasAlias_empty (name id : String) : ¬empty.HasAlias name id := by
  rintro ⟨t, ht, -⟩
  cases ht

lemma merged_empty_agrees (a : ExceptionMapper) : (a.merged empty).Agrees a where
  contains name := by rw [contains_merged, show empty.clients.contains name = false from rfl,
    Bool.or_false]
  rules name := by rw [rulesOf_merged, show empty.rulesOf name = [] from rfl, List.nil_append]
  aliases name id := by rw [hasAlias_merged, or_iff_left (not_hasAlias_empty name id)]

lemma empty_merged_agrees (a : ExceptionMapper) : (empty.merged a).Agrees a where
  contains name := by rw [contains_merged, show empty.clients.contains name = false from rfl,
    Bool.false_or]
  rules name := by rw [rulesOf_merged, show empty.rulesOf name = [] from rfl, List.append_nil]
  aliases name id := by rw [hasAlias_merged, or_iff_right (not_hasAlias_empty name id)]

/-- Mappers merged from the left and from the right read every message alike and know the same
clients, and a mapper without tables changes neither, on whichever side it is merged in. -/
theorem classify_merged_assoc (a b c : ExceptionMapper) (message client : String)
    (fork : Option Fork) :
    ((a.merged b).merged c).classify message client fork =
      (a.merged (b.merged c)).classify message client fork ∧
    ((a.merged b).merged c).knows client = (a.merged (b.merged c)).knows client ∧
    (a.merged empty).classify message client fork = a.classify message client fork ∧
    (empty.merged a).classify message client fork = a.classify message client fork ∧
    (a.merged empty).knows client = a.knows client ∧
    (empty.merged a).knows client = a.knows client := by
  have hassoc := merged_agrees_assoc a b c
  have hright := merged_empty_agrees a
  have hleft := empty_merged_agrees a
  exact ⟨hassoc.classify_eq message client fork, hassoc.knows_eq client,
    hright.classify_eq message client fork, hleft.classify_eq message client fork,
    hright.knows_eq client, hleft.knows_eq client⟩

end ChainConformance.ExceptionMapper
