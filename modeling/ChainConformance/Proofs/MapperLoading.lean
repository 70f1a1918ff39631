import ChainConformance.Proofs.MapperMerge
import ChainConformance.Proofs.Steps
import Mathlib.Data.List.Forall2

/-!
# Loading tables of messages

The entries of a document are kept by the names of their clients in lower case. Of several
entries for one client the one counts whose name is last in order, and of those with that name
the one that is written last: its rules are the client's table, and the rules of the others are
lost.
-/

namespace ChainConformance

open List (Forall₂)

lemma forall₂_getElem? {α β : Type} {R : α → β → Prop} {l : List α} {l' : List β}
    (h : Forall₂ R l l') {i : Nat} {b : β} (hb : l'[i]? = some b) :
    ∃ a, l[i]? = some a ∧ R a b := by
  obtain ⟨hi', rfl⟩ := List.getElem?_eq_some_iff.mp hb
  have hi : i < l.length := by
    rw [h.length_eq]
    exact hi'
  exact ⟨l[i], List.getElem?_eq_getElem hi, h.get hi hi'⟩

lemma Yaml.map?_eq {α : Type} (f : Yaml → Option α) (y : Yaml) : y.map? f =
    OrderedMap.ofList <$> y.entries?.bind fun es => es.mapM fun e => (e.1, ·) <$> f e.2 := by
  cases hentries : y.entries? with
  | none =>
    rw [map?, hentries]
    rfl
  | some entries =>
    rw [map?, hentries]
    exact OrderedMap.foldlM_insert (·.1) (fun e => f e.2) entries .empty

namespace ExceptionMapper

/-- The entries of a document of tables, as they stand in it. -/
def entriesOf? (d : Dialect) (content : String) : Option (List (String × WrittenTable)) := do
  (← (← d.document? content).entries?).mapM fun e => (e.1, ·) <$> writtenTable? e.2

/-- The rules are what the written ones make, one for one. -/
def WrittenTable.Makes (d : Dialect) (t : WrittenTable) (rules : List MessageRule) : Prop :=
  Forall₂ (fun written r => written.compile d = .ok r) t.rules rules

variable {d : Dialect}

lemma WrittenRule.of_compile {written : WrittenRule} {r : MessageRule}
    (h : written.compile d = .ok r) :
    written.messagePattern d = .ok r.pattern ∧ r.tag = written.tag := by
  obtain ⟨p, hp, h⟩ := bind_eq_ok.mp h
  split at h
  · split at h
    · cases h
    · cases h
      exact ⟨hp, rfl⟩
  · cases h
    exact ⟨hp, rfl⟩

lemma WrittenTable.Makes.tags {t : WrittenTable} {rules : List MessageRule}
    (h : t.Makes d rules) : rules.map (·.tag) = t.rules.map (·.tag) := by
  have htags : Forall₂ (fun a b => a = b) (t.rules.map (·.tag)) (rules.map (·.tag)) := by
    rw [List.forall₂_map_left_iff, List.forall₂_map_right_iff]
    exact h.imp fun _ _ hmade => (WrittenRule.of_compile hmade).2.symm
  exact (List.forall₂_eq_eq_eq ▸ htags).symm

lemma WrittenTable.makes_of_compile {t : WrittenTable} {client : String} {table : ClientTable}
    (h : t.compile d client = .ok table) : t.Makes d table.rules := by
  obtain ⟨rules, hrules, h⟩ := bind_eq_ok.mp h
  cases h
  refine (mapM_eq_ok.mp hrules).imp fun written r hmade => ?_
  cases hcompile : written.compile d with
  | error fault =>
    rw [hcompile] at hmade
    cases hmade
  | ok made =>
    rw [hcompile] at hmade
    cases hmade
    rfl

variable {content : String} {m : ExceptionMapper}

lemma exists_of_read (h : read d content = .ok m) : ∃ entries tables,
    entriesOf? d content = some entries ∧
    Forall₂ (fun e t => t.1 = Text.toLower e.1 ∧ e.2.compile d e.1 = .ok t.2)
      (OrderedMap.ofList entries).entries tables ∧
    m.clients = OrderedMap.ofList tables := by
  have hwritten : (d.document? content).bind (Yaml.map? writtenTable?) =
      OrderedMap.ofList <$> entriesOf? d content := by
    unfold entriesOf?
    cases d.document? content with
    | none => rfl
    | some y => exact Yaml.map?_eq writtenTable? y
  unfold read at h
  rw [hwritten] at h
  cases hentries : entriesOf? d content with
  | none =>
    rw [hentries] at h
    cases h
  | some entries =>
    rw [hentries] at h
    obtain ⟨written, hread, h⟩ := bind_eq_ok.mp h
    cases hread
    obtain ⟨clients, hclients, h⟩ := bind_eq_ok.mp h
    cases h
    rw [OrderedMap.foldlM_insert] at hclients
    obtain ⟨tables, htables, rfl⟩ := map_eq_ok.mp hclients
    refine ⟨entries, tables, rfl, (mapM_eq_ok.mp htables).imp fun e t hmade => ?_, rfl⟩
    obtain ⟨table, htable, rfl⟩ := map_eq_ok.mp hmade
    exact ⟨rfl, htable⟩

/-- There is another entry for the client of an entry: one whose name comes later in order, or
one with the same name further down. -/
def Replaced (entries : List (String × WrittenTable)) (i : Nat) (name : String) : Prop :=
  ∃ (j : Nat) (e : String × WrittenTable), entries[j]? = some e ∧
    Text.toLower e.1 = Text.toLower name ∧ (Key.before name e.1 = true ∨ e.1 = name ∧ i < j)

/-- The table that is consulted for the client of an entry has all rules of the entry, in their
order. -/
def Keeps (d : Dialect) (m : ExceptionMapper) (e : String × WrittenTable) : Prop :=
  ∃ table rules, m.table? e.1 = some table ∧ e.2.Makes d rules ∧ rules.Sublist table.rules

lemma eq_of_not_replaced {entries : List (String × WrittenTable)} {i j : Nat}
    {e e' : String × WrittenTable} (he : entries[i]? = some e) (he' : entries[j]? = some e')
    (hsame : Text.toLower e'.1 = Text.toLower e.1) (h : ¬Replaced entries i e.1)
    (h' : ¬Replaced entries j e'.1) : e' = e := by
  have hname : e'.1 = e.1 := by
    by_contra hne
    rcases Key.before_total _ _ hne with hlt | hlt
    · exact h' ⟨i, e, he, hsame.symm, Or.inl hlt⟩
    · exact h ⟨j, e', he', hsame, Or.inl hlt⟩
  have hplace : i = j := by
    rcases Nat.lt_trichotomy i j with hlt | heq | hlt
    · exact absurd ⟨j, e', he', hsame, Or.inr ⟨hname, hlt⟩⟩ h
    · exact heq
    · exact absurd ⟨i, e, he, hsame.symm, Or.inr ⟨hname.symm, hlt⟩⟩ h'
  rw [hplace, he'] at he
  exact Option.some.inj he

/-- For each client that a document has an entry for, one entry that is not replaced makes the
table. -/
lemma exists_not_replaced (h : read d content = .ok m) : ∃ entries,
    entriesOf? d content = some entries ∧ ∀ e ∈ entries, ∃ (j : Nat) (last : String × WrittenTable)
      (table : ClientTable), entries[j]? = some last ∧
        Text.toLower last.1 = Text.toLower e.1 ∧ ¬Replaced entries j last.1 ∧
        m.table? e.1 = some table ∧ last.2.Makes d table.rules := by
  obtain ⟨entries, tables, hentries, hmade, hclients⟩ := exists_of_read h
  refine ⟨entries, hentries, fun e he => ?_⟩
  obtain ⟨p, written, hp⟩ := OrderedMap.exists_place_ofList he
  obtain ⟨t, ht, hlower, -⟩ := forall₂_getElem? hmade.flip hp
  obtain ⟨table, hget⟩ := OrderedMap.exists_get?_ofList (List.mem_of_getElem? ht)
  rw [hlower] at hget
  have htable : m.table? e.1 = some table := by
    rw [table?, named?, hclients, hget]
    rfl
  -- it is made of the last name that is the client's in lower case, and of what is last there
  obtain ⟨q, hq, hlast⟩ := OrderedMap.get?_ofList_eq_some hget
  obtain ⟨last, hnamed, hname, hcompile⟩ := forall₂_getElem? hmade hq
  obtain ⟨j, hj, hdown⟩ := OrderedMap.get?_ofList_eq_some
    (OrderedMap.mem_entries_iff.mp (List.mem_of_getElem? hnamed))
  refine ⟨j, last, table, hj, hname.symm, ?_, htable, WrittenTable.makes_of_compile hcompile⟩
  rintro ⟨k, e', hk, hsame, hbefore | ⟨hspelt, hjk⟩⟩
  · obtain ⟨p', written', hp'⟩ := OrderedMap.exists_place_ofList (List.mem_of_getElem? hk)
    obtain ⟨t', ht', hlower', -⟩ := forall₂_getElem? hmade.flip hp'
    apply hlast p' t' (OrderedMap.lt_of_before hnamed hp' hbefore) ht'
    exact hlower'.trans (hsame.trans hname.symm)
  · exact hdown k e' hjk hk hspelt

/-- Loading keeps all rules of an entry that no other entry replaces, in every dialect. Entries
replace each other if the names of their clients are the same in lower case: then the table that
is consulted for any of these names is that of the one entry that is not replaced. -/
theorem read_keeps_unreplaced (h : read d content = .ok m) : ∃ entries,
    entriesOf? d content = some entries ∧
      ∀ (i : Nat) (e : String × WrittenTable), entries[i]? = some e →
        (¬Replaced entries i e.1 → Keeps d m e) ∧
        ∃ (j : Nat) (last : String × WrittenTable) (table : ClientTable),
          entries[j]? = some last ∧ Text.toLower last.1 = Text.toLower e.1 ∧
            ¬Replaced entries j last.1 ∧ m.table? e.1 = some table ∧
            last.2.Makes d table.rules := by
  obtain ⟨entries, hentries, hkept⟩ := exists_not_replaced h
  refine ⟨entries, hentries, fun i e he => ?_⟩
  obtain ⟨j, last, table, hj, hsame, hlast, htable, hmade⟩ := hkept e (List.mem_of_getElem? he)
  refine ⟨fun hnot => ?_, j, last, table, hj, hsame, hlast, htable, hmade⟩
  have hlasteq : last = e := eq_of_not_replaced he hj hsame hnot hlast
  exact ⟨table, table.rules, htable, hlasteq ▸ hmade, List.Sublist.refl _⟩

/-- Two entries whose names differ in case alone. -/
def twoSpellings : String :=
  "Geth:\n  rules:\n    - substring: nonce too low\n" ++
  "      exception: TransactionException.NONCE_MISMATCH_TOO_LOW\n" ++
  "geth:\n  rules:\n    - substring: gas limit reached\n" ++
  "      exception: TransactionException.GAS_ALLOWANCE_EXCEEDED\n"

def Spelt (m : ExceptionMapper) (entries : List (String × WrittenTable)) : Prop :=
  entries.map (fun e => (e.1, e.2.rules.map (·.tag))) =
      [("Geth", [.transaction .nonceMismatchTooLow]),
        ("geth", [.transaction .gasAllowanceExceeded])] ∧
    ((m.table? "Geth").map fun t => t.rules.map (·.tag)) =
      some [.transaction .gasAllowanceExceeded] ∧
    m.classify "nonce too low" "Geth" none = .unmapped

instance (m : ExceptionMapper) (entries : List (String × WrittenTable)) :
    Decidable (Spelt m entries) :=
  inferInstanceAs (Decidable (_ ∧ _))

lemma twoSpellings_spelt : ∃ m entries, ofYaml twoSpellings = .ok m ∧
    entriesOf? .own twoSpellings = some entries ∧ Spelt m entries := by
  have hread : (ofYaml twoSpellings).toOption.any (fun m =>
      (entriesOf? .own twoSpellings).any fun entries => decide (Spelt m entries)) = true := by
    decide +kernel
  cases hm : ofYaml twoSpellings with
  | error fault =>
    rw [hm] at hread
    cases hread
  | ok m =>
    rw [hm, Except.toOption, Option.any_some] at hread
    obtain ⟨entries, hentries, hspelt⟩ := (Option.any_eq_true _ _).mp hread
    exact ⟨m, entries, rfl, hentries, of_decide_eq_true hspelt⟩

/-- The name in small letters comes later in order, and its entry is kept. -/
theorem ofYaml_keeps_unreplaced_geth : ∃ m entries e, ofYaml twoSpellings = .ok m ∧
    entriesOf? .own twoSpellings = some entries ∧ entries[1]? = some e ∧ e.1 = "geth" ∧
    Keeps .own m e := by
  obtain ⟨m, entries, hm, hentries, hspelt, -, -⟩ := twoSpellings_spelt
  obtain ⟨found, hfound, hkept⟩ := read_keeps_unreplaced hm
  rw [hentries] at hfound
  cases hfound
  have hnames : entries.map (·.1) = ["Geth", "geth"] := by
    have hfst := congrArg (List.map Prod.fst) hspelt
    rw [List.map_map] at hfst
    exact hfst
  obtain ⟨upper, rest, rfl, hupper, hrest⟩ := List.map_eq_cons_iff.mp hnames
  obtain ⟨lower, rest', rfl, hlower, hnil⟩ := List.map_eq_cons_iff.mp hrest
  cases List.map_eq_nil_iff.mp hnil
  refine ⟨m, _, lower, hm, hentries, rfl, hlower, (hkept 1 lower rfl).1 ?_⟩
  rintro ⟨j, e, hj, -, hbefore | ⟨-, hlt⟩⟩
  · match j, hj with
    | 0, hj =>
      cases hj
      rw [hupper, hlower] at hbefore
      revert hbefore
      decide
    | 1, hj =>
      cases hj
      rw [Key.before_irrefl] at hbefore
      cases hbefore
  · have hlength := (List.getElem?_eq_some_iff.mp hj).1
    simp only [List.length_cons, List.length_nil] at hlength
    omega

/-- The rules of the entry whose name begins with a capital are lost, and a message that they
would map is not mapped. -/
theorem ofYaml_loses_replaced : ∃ m entries e, ofYaml twoSpellings = .ok m ∧
    entriesOf? .own twoSpellings = some entries ∧ e ∈ entries ∧ e.1 = "Geth" ∧ ¬Keeps .own m e ∧
    m.classify "nonce too low" e.1 none = .unmapped := by
  obtain ⟨m, entries, hm, hentries, hspelt, htable, hclassify⟩ := twoSpellings_spelt
  obtain ⟨upper, rest, rfl, hupper, -⟩ := List.map_eq_cons_iff.mp hspelt
  obtain ⟨hname, htags⟩ := Prod.mk.inj hupper
  refine ⟨m, _, upper, hm, hentries, List.mem_cons_self, hname, ?_, hname ▸ hclassify⟩
  rintro ⟨table, rules, hconsulted, hmade, hsub⟩
  rw [hname] at hconsulted
  rw [hconsulted] at htable
  have hkept : table.rules.map (·.tag) = [.transaction .gasAllowanceExceeded] :=
    Option.some.inj htable
  have hlost := hsub.map (·.tag)
  rw [hmade.tags, htags, hkept] at hlost
  revert hlost
  decide

end ExceptionMapper

end ChainConformance
