import ChainConformance.Exception.Mapper
import ChainConformance.Proofs.OrderedMaps

/-!
# Merged mappers

A client's table is found by a name, and a merged mapper has the tables of both mappers under
their names. Which client an id means can be another one in the merged mapper than in one of
the two. As long as the id means one client to both, merging puts rules in front and does
nothing else.
-/

namespace ChainConformance

lemma ClientTable.mem_aliases_extend (base extra : ClientTable) (id : String) :
    id ∈ (base.extend extra).aliases ↔ id ∈ base.aliases ∨ id ∈ extra.aliases := by
  unfold extend
  simp only
  generalize base.aliases = known
  induction extra.aliases generalizing known with
  | nil => simp
  | cons a rest ih =>
    rw [List.foldl_cons, ih]
    by_cases ha : known.contains a
    · have hmem : a ∈ known := by simpa using ha
      rw [if_pos ha, List.mem_cons]
      constructor
      · exact fun h => h.imp_right Or.inr
      · rintro (h | rfl | h)
        · exact Or.inl h
        · exact Or.inl hmem
        · exact Or.inr h
    · rw [if_neg ha, List.mem_append, List.mem_singleton, List.mem_cons, or_assoc]

namespace ExceptionMapper

/-- The name of the client that is known under a name: the client of that name, or else the
first one with that alias. -/
def nameOf? (m : ExceptionMapper) (id : String) : Option String :=
  if m.clients.contains id then some id
  else (m.clients.entries.find? fun e => e.2.aliases.contains id).map (·.1)

/-- The name of the client that an id means. -/
def client? (m : ExceptionMapper) (client : String) : Option String :=
  let id := Text.toLower client
  m.nameOf? id <|> (baseName? id).bind m.nameOf?

/-- The rules of the client with a name, none if there is no such client. -/
def rulesOf (m : ExceptionMapper) (name : String) : List MessageRule :=
  ((m.clients.get? name).map (·.rules)).getD []

def HasAlias (m : ExceptionMapper) (name id : String) : Prop :=
  ∃ t, m.clients.get? name = some t ∧ id ∈ t.aliases

/-- An id means the client with a name, if the mapper has that client, and nothing
otherwise. -/
def Means (m : ExceptionMapper) (client name : String) : Prop :=
  m.client? client = if m.clients.contains name then some name else none

variable {m base extra : ExceptionMapper} {client id name message : String} {fork : Option Fork}

lemma nameOf?_eq_alias (h : m.clients.contains id = false) :
    m.nameOf? id = some name ↔
      m.HasAlias name id ∧ ∀ other, m.HasAlias other id → Key.before other name = false := by
  unfold nameOf? HasAlias
  rw [h, if_neg Bool.false_ne_true, Option.map_eq_some_iff]
  constructor
  · rintro ⟨⟨key, t⟩, hfind, rfl⟩
    obtain ⟨hget, halias, hfirst⟩ := OrderedMap.find?_entries_eq_some.mp hfind
    refine ⟨⟨t, hget, by simpa using halias⟩, ?_⟩
    rintro other ⟨t', hget', halias'⟩
    exact hfirst other t' hget' (by simpa using halias')
  · rintro ⟨⟨t, hget, halias⟩, hfirst⟩
    refine ⟨(name, t), OrderedMap.find?_entries_eq_some.mpr ⟨hget, by simpa using halias, ?_⟩, rfl⟩
    intro other t' hget' halias'
    exact hfirst other ⟨t', hget', by simpa using halias'⟩

lemma nameOf?_eq_none :
    m.nameOf? id = none ↔ m.clients.contains id = false ∧ ∀ other, ¬m.HasAlias other id := by
  unfold nameOf? HasAlias
  by_cases h : m.clients.contains id
  · simp [h]
  · rw [if_neg h, Option.map_eq_none_iff, List.find?_eq_none]
    refine ⟨fun hnone => ⟨by simpa using h, ?_⟩, fun ⟨_, hnone⟩ e he halias => ?_⟩
    · rintro other ⟨t, hget, halias⟩
      exact hnone (other, t) (OrderedMap.mem_entries_iff.mpr hget) (by simpa using halias)
    · exact hnone e.1 ⟨e.2, OrderedMap.mem_entries_iff.mp he, by simpa using halias⟩

lemma named?_eq (id : String) : m.named? id = (m.nameOf? id).bind m.clients.get? := by
  unfold named? nameOf?
  by_cases h : m.clients.contains id
  · obtain ⟨t, ht⟩ := OrderedMap.contains_iff.mp h
    simp [h, ht]
  · have hnone : m.clients.get? id = none := by simpa [OrderedMap.contains] using h
    rw [if_neg h, hnone, OrderedMap.values, List.find?_map]
    change (m.clients.entries.find? fun e => e.2.aliases.contains id).map (·.2) = _
    cases hfind : m.clients.entries.find? fun e => e.2.aliases.contains id with
    | none => rfl
    | some e =>
      obtain ⟨hget, -⟩ := OrderedMap.find?_entries_eq_some.mp hfind
      simp [hget]

lemma nameOf?_held (h : m.nameOf? id = some name) : ∃ t, m.clients.get? name = some t := by
  by_cases hid : m.clients.contains id
  · rw [nameOf?, if_pos hid] at h
    cases h
    exact OrderedMap.contains_iff.mp hid
  · obtain ⟨⟨t, ht, -⟩, -⟩ := (nameOf?_eq_alias (by simpa using hid)).mp h
    exact ⟨t, ht⟩

lemma client?_eq_some : m.client? client = some name ↔
    m.nameOf? (Text.toLower client) = some name ∨ m.nameOf? (Text.toLower client) = none ∧
      ∃ short, baseName? (Text.toLower client) = some short ∧ m.nameOf? short = some name := by
  unfold client?
  cases hwhole : m.nameOf? (Text.toLower client) with
  | some whole => simp [hwhole]
  | none => simp [hwhole, Option.bind_eq_some_iff]

lemma client?_eq_none : m.client? client = none ↔
    m.nameOf? (Text.toLower client) = none ∧
      ∀ short, baseName? (Text.toLower client) = some short → m.nameOf? short = none := by
  unfold client?
  cases hwhole : m.nameOf? (Text.toLower client) with
  | some whole => simp [hwhole]
  | none => simp [hwhole, Option.bind_eq_none_iff]

lemma client?_held (h : m.client? client = some name) : ∃ t, m.clients.get? name = some t := by
  rcases client?_eq_some.mp h with h | ⟨_, short, _, h⟩ <;> exact nameOf?_held h

lemma table?_eq (client : String) : m.table? client = (m.client? client).bind m.clients.get? := by
  have hnamed : m.named? = fun id => (m.nameOf? id).bind m.clients.get? := funext named?_eq
  unfold table? client?
  rw [hnamed]
  cases hwhole : m.nameOf? (Text.toLower client) with
  | some whole =>
    obtain ⟨t, ht⟩ := nameOf?_held hwhole
    simp [ht, hwhole]
  | none => simp [hwhole, Option.bind_assoc]

lemma classify_eq (message client : String) (fork : Option Fork) :
    m.classify message client fork = match m.client? client with
      | some name => classifyBy (m.rulesOf name) message fork
      | none => .unmapped := by
  rw [classify, table?_eq]
  cases hclient : m.client? client with
  | none => rfl
  | some name =>
    obtain ⟨t, ht⟩ := client?_held hclient
    simp [rulesOf, ht]

lemma get?_merged (name : String) : (base.merged extra).clients.get? name =
    (extra.clients.get? name).elim (base.clients.get? name) fun t =>
      some (((base.clients.get? name).getD ⟨[], []⟩).extend t) :=
  OrderedMap.get?_foldl_insert
    (fun (known : Option ClientTable) (t : ClientTable) => (known.getD ⟨[], []⟩).extend t)
    extra.clients base.clients name

lemma contains_merged (name : String) : (base.merged extra).clients.contains name =
    (base.clients.contains name || extra.clients.contains name) := by
  simp only [OrderedMap.contains, get?_merged]
  cases extra.clients.get? name <;> simp

lemma rulesOf_merged (name : String) :
    (base.merged extra).rulesOf name = extra.rulesOf name ++ base.rulesOf name := by
  simp only [rulesOf, get?_merged]
  cases extra.clients.get? name <;> cases base.clients.get? name <;> simp [ClientTable.extend]

lemma hasAlias_merged : (base.merged extra).HasAlias name id ↔
    base.HasAlias name id ∨ extra.HasAlias name id := by
  simp only [HasAlias, get?_merged]
  cases extra.clients.get? name <;> cases base.clients.get? name <;>
    simp [ClientTable.mem_aliases_extend]

lemma nameOf?_merged_eq_none : (base.merged extra).nameOf? id = none ↔
    base.nameOf? id = none ∧ extra.nameOf? id = none := by
  simp only [nameOf?_eq_none, contains_merged, hasAlias_merged, Bool.or_eq_false_iff, not_or,
    forall_and]
  exact and_and_and_comm

lemma nameOf?_merged (h : (base.merged extra).nameOf? id = some name) :
    base.nameOf? id = some name ∨ extra.nameOf? id = some name := by
  by_cases hid : (base.merged extra).clients.contains id
  · rw [nameOf?, if_pos hid] at h
    rw [contains_merged, Bool.or_eq_true] at hid
    refine hid.imp (fun hbase => ?_) fun hextra => ?_
    · rw [nameOf?, if_pos hbase, h]
    · rw [nameOf?, if_pos hextra, h]
  · rw [Bool.not_eq_true] at hid
    obtain ⟨halias, hfirst⟩ := (nameOf?_eq_alias hid).mp h
    rw [contains_merged, Bool.or_eq_false_iff] at hid
    simp only [hasAlias_merged] at halias hfirst
    exact halias.imp
      (fun hbase => (nameOf?_eq_alias hid.1).mpr ⟨hbase, fun _ ha => hfirst _ (Or.inl ha)⟩)
      (fun hextra => (nameOf?_eq_alias hid.2).mpr ⟨hextra, fun _ ha => hfirst _ (Or.inr ha)⟩)

lemma client?_merged_eq_none : (base.merged extra).client? client = none ↔
    base.client? client = none ∧ extra.client? client = none := by
  simp only [client?_eq_none, nameOf?_merged_eq_none, imp_and, forall_and]
  exact and_and_and_comm

lemma client?_merged (h : (base.merged extra).client? client = some name) :
    base.client? client = some name ∨ extra.client? client = some name := by
  simp only [client?_eq_some] at h ⊢
  rcases h with h | ⟨hwhole, short, hshort, h⟩
  · exact (nameOf?_merged h).imp Or.inl Or.inl
  · obtain ⟨hbase, hextra⟩ := nameOf?_merged_eq_none.mp hwhole
    exact (nameOf?_merged h).imp (fun hname => Or.inr ⟨hbase, short, hshort, hname⟩)
      fun hname => Or.inr ⟨hextra, short, hshort, hname⟩

lemma Means.eq_of_client? {found : String} (h : m.Means client name)
    (hfound : m.client? client = some found) : m.clients.contains name = true ∧ found = name := by
  rw [Means, hfound] at h
  by_cases hheld : m.clients.contains name
  · rw [if_pos hheld] at h
    exact ⟨hheld, Option.some.inj h⟩
  · rw [if_neg hheld] at h
    cases h

lemma Means.not_contains (h : m.Means client name) (hnone : m.client? client = none) :
    m.clients.contains name = false := by
  rw [Means, hnone] at h
  by_cases hheld : m.clients.contains name
  · rw [if_pos hheld] at h
    cases h
  · exact Bool.eq_false_iff.mpr hheld

lemma Means.merged (hbase : base.Means client name) (hextra : extra.Means client name) :
    (base.merged extra).Means client name := by
  rw [Means, contains_merged]
  cases hclient : (base.merged extra).client? client with
  | none =>
    obtain ⟨hnobase, hnoextra⟩ := client?_merged_eq_none.mp hclient
    simp [hbase.not_contains hnobase, hextra.not_contains hnoextra]
  | some found =>
    rcases client?_merged hclient with h | h
    · obtain ⟨hheld, rfl⟩ := hbase.eq_of_client? h
      simp [hheld]
    · obtain ⟨hheld, rfl⟩ := hextra.eq_of_client? h
      simp [hheld]

lemma Means.classify_eq (h : m.Means client name) (message : String) (fork : Option Fork) :
    m.classify message client fork = classifyBy (m.rulesOf name) message fork := by
  rw [ExceptionMapper.classify_eq, h]
  by_cases hheld : m.clients.contains name
  · rw [if_pos hheld]
  · rw [if_neg hheld, rulesOf, OrderedMap.get?_eq_none_of_not_contains (by simpa using hheld)]
    rfl

lemma classifyBy_append (front back : List MessageRule) (message : String)
    (fork : Option Fork) : classifyBy (front ++ back) message fork =
      match classifyBy front message fork with
      | .mapped tag => .mapped tag
      | .unmapped => classifyBy back message fork := by
  simp only [classifyBy, List.find?_append]
  cases front.find? fun r => r.appliesTo fork && r.pattern.isMatch message <;> rfl

/-- A merged mapper tries the other mapper's rules for one client, and then its own for that
client. It takes an id for a client that one of the two takes it for, and knows no ids that
neither of them knows. Where an id means one client to both, a message that the other mapper
can map is mapped by it, and any other message is left to the first mapper. -/
theorem classify_merged (base extra : ExceptionMapper) (message client : String)
    (fork : Option Fork) :
    ((base.merged extra).classify message client fork =
      match (base.merged extra).client? client with
      | some name => classifyBy (extra.rulesOf name ++ base.rulesOf name) message fork
      | none => .unmapped) ∧
    (∀ name, (base.merged extra).client? client = some name →
      base.client? client = some name ∨ extra.client? client = some name) ∧
    ((base.merged extra).client? client = none ↔
      base.client? client = none ∧ extra.client? client = none) ∧
    ∀ name, base.Means client name → extra.Means client name →
      (base.merged extra).classify message client fork =
        match extra.classify message client fork with
        | .mapped tag => .mapped tag
        | .unmapped => base.classify message client fork := by
  refine ⟨?_, fun _ => client?_merged, client?_merged_eq_none, fun name hbase hextra => ?_⟩
  · rw [classify_eq]
    simp only [rulesOf_merged]
  · rw [(hbase.merged hextra).classify_eq, rulesOf_merged, classifyBy_append,
      hbase.classify_eq, hextra.classify_eq]

instance (m : ExceptionMapper) (client name : String) : Decidable (m.Means client name) :=
  inferInstanceAs (Decidable (_ = _))

def aliasedDocument : String :=
  "geth:\n  aliases: [go-ethereum]\n  rules:\n    - substring: nonce too low\n" ++
  "      exception: TransactionException.NONCE_MISMATCH_TOO_LOW\n"

def plainDocument : String :=
  "geth:\n  rules:\n    - substring: nonce too low\n" ++
  "      exception: TransactionException.NONCE_IS_MAX\n"

/-- What the two tables and the merged one make of a message, by both names of the client. -/
def Readings (base extra : ExceptionMapper) : Prop :=
  base.Means "geth" "geth" ∧ extra.Means "geth" "geth" ∧
    extra.classify "nonce too low" "geth" none = .mapped (.transaction .nonceIsMax) ∧
    base.classify "nonce too low" "go-ethereum" none =
      .mapped (.transaction .nonceMismatchTooLow) ∧
    extra.classify "nonce too low" "go-ethereum" none = .unmapped ∧
    (base.merged extra).classify "nonce too low" "go-ethereum" none =
      .mapped (.transaction .nonceIsMax)

instance (base extra : ExceptionMapper) : Decidable (Readings base extra) :=
  inferInstanceAs (Decidable (_ ∧ _))

lemma documents_readings : ∃ base extra, ofYaml aliasedDocument = .ok base ∧
    ofYaml plainDocument = .ok extra ∧ Readings base extra := by
  have hread : (match ofYaml aliasedDocument, ofYaml plainDocument with
      | .ok base, .ok extra => decide (Readings base extra)
      | _, _ => false) = true := by
    decide +kernel
  split at hread
  next base extra hbase hextra =>
    exact ⟨base, extra, hbase, hextra, of_decide_eq_true hread⟩
  next => cases hread

theorem classify_merged_geth : ∃ base extra, ofYaml aliasedDocument = .ok base ∧
    ofYaml plainDocument = .ok extra ∧ base.Means "geth" "geth" ∧ extra.Means "geth" "geth" ∧
    (base.merged extra).classify "nonce too low" "geth" none =
      .mapped (.transaction .nonceIsMax) := by
  obtain ⟨base, extra, hbase, hextra, hmeans, hmeans', hclass, -⟩ := documents_readings
  refine ⟨base, extra, hbase, hextra, hmeans, hmeans', ?_⟩
  rw [(classify_merged base extra _ _ _).2.2.2 "geth" hmeans hmeans', hclass]

/-- The alias means nothing to the table without it, and yet the rules of that table are in
front: a message that it does not map by that name is not left to the other table. -/
theorem classify_merged_alias : ∃ base extra, ofYaml aliasedDocument = .ok base ∧
    ofYaml plainDocument = .ok extra ∧
    extra.classify "nonce too low" "go-ethereum" none = .unmapped ∧
    (base.merged extra).classify "nonce too low" "go-ethereum" none ≠
      base.classify "nonce too low" "go-ethereum" none := by
  obtain ⟨base, extra, hbase, hextra, -, -, -, hfirst, hunmapped, hmerged⟩ := documents_readings
  refine ⟨base, extra, hbase, hextra, hunmapped, ?_⟩
  rw [hmerged, hfirst]
  decide

end ExceptionMapper

end ChainConformance
