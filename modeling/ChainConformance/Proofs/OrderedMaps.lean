import ChainConformance.OrderedMap
import Mathlib.Data.List.Dedup
import Mathlib.Data.List.Induction
import Mathlib.Data.List.Perm.Basic
import Mathlib.Tactic.Common

/-!
# Laws of ordered maps

What a map answers after each way of changing it, and what its keys are.
-/

namespace ChainConformance.OrderedMap

variable {κ ν μ : Type} [Key κ] {m : OrderedMap κ ν}

lemma not_before {a b : κ} (h : Key.before a b = true) : ¬Key.before b a = true := by
  intro hback
  have hcycle := Key.before_trans h hback
  rw [Key.before_irrefl] at hcycle
  cases hcycle

lemma mem_keys_iff {k : κ} : k ∈ m.keys ↔ ∃ v, m.get? k = some v := by
  constructor
  · intro h
    obtain ⟨e, he, rfl⟩ := List.mem_map.mp h
    exact ⟨e.2, mem_entries_iff.mp he⟩
  · rintro ⟨v, hv⟩
    exact List.mem_map_of_mem (mem_entries_iff.mpr hv)

lemma contains_iff {k : κ} : m.contains k = true ↔ ∃ v, m.get? k = some v :=
  Option.isSome_iff_exists

lemma get?_eq_none_of_not_contains {k : κ} (h : m.contains k = false) : m.get? k = none := by
  simpa [contains] using h

lemma find_eq_none_iff {k : κ} {entries : List (κ × ν)} :
    find k entries = none ↔ k ∉ entries.map (·.1) := by
  induction entries with
  | nil => simp [find]
  | cons e rest ih =>
    obtain ⟨k', v⟩ := e
    by_cases hk : k = k'
    · simp [find, hk]
    · simp [find, hk, ih]

lemma find_eq_some_iff_of_nodup {k : κ} {v : ν} {entries : List (κ × ν)}
    (h : (entries.map (·.1)).Nodup) : find k entries = some v ↔ (k, v) ∈ entries := by
  induction entries with
  | nil => simp [find]
  | cons e rest ih =>
    obtain ⟨k', v'⟩ := e
    obtain ⟨hnew, hrest⟩ := List.nodup_cons.mp h
    by_cases hk : k = k'
    · subst hk
      have hmem : (k, v) ∉ rest := fun hmem => hnew (List.mem_map.mpr ⟨_, hmem, rfl⟩)
      simp [find, hmem, eq_comm]
    · simp [find, hk, ih hrest]

lemma find?_entries_eq_some {p : κ × ν → Bool} {k : κ} {v : ν} :
    m.entries.find? p = some (k, v) ↔ m.get? k = some v ∧ p (k, v) = true ∧
      ∀ k' v', m.get? k' = some v' → p (k', v') = true → Key.before k' k = false := by
  rw [List.find?_eq_some_iff_append]
  constructor
  · rintro ⟨hp, before, after, hentries, hbefore⟩
    have hsorted := m.sorted
    rw [hentries, List.pairwise_append, List.pairwise_cons] at hsorted
    refine ⟨mem_entries_iff.mp (by simp [hentries]), hp, fun k' v' hget hp' => ?_⟩
    have hmem := mem_entries_iff.mpr hget
    rw [hentries, List.mem_append, List.mem_cons] at hmem
    rcases hmem with hmem | heq | hmem
    · have hnot := hbefore _ hmem
      rw [hp'] at hnot
      cases hnot
    · rw [(Prod.mk.inj heq).1, Key.before_irrefl]
    · exact Bool.eq_false_iff.mpr (not_before (hsorted.2.1.1 _ hmem))
  · rintro ⟨hget, hp, hfirst⟩
    obtain ⟨before, after, hentries⟩ := List.append_of_mem (mem_entries_iff.mpr hget)
    refine ⟨hp, before, after, hentries, fun e he => ?_⟩
    have hsorted := m.sorted
    rw [hentries, List.pairwise_append] at hsorted
    have hmem : e ∈ m.entries := by simp [hentries, he]
    rw [Bool.not_eq_true', Bool.eq_false_iff]
    intro hpe
    have hlate := hfirst e.1 e.2 (mem_entries_iff.mp hmem) hpe
    rw [hsorted.2.2 e he _ List.mem_cons_self] at hlate
    cases hlate

lemma find_foldl_insert (f : Option ν → μ → ν) {entries : List (κ × μ)}
    (h : (entries.map (·.1)).Nodup) (m : OrderedMap κ ν) (k : κ) :
    (entries.foldl (fun m e => m.insert e.1 (f (m.get? e.1) e.2)) m).get? k =
      (find k entries).elim (m.get? k) fun v => some (f (m.get? k) v) := by
  induction entries generalizing m with
  | nil => rfl
  | cons e rest ih =>
    obtain ⟨k', v⟩ := e
    obtain ⟨hnew, hrest⟩ := List.nodup_cons.mp h
    rw [List.foldl_cons, ih hrest, find]
    by_cases hk : k = k'
    · subst hk
      simp [find_eq_none_iff.mpr hnew]
    · simp [hk]

lemma get?_foldl_insert (f : Option ν → μ → ν) (other : OrderedMap κ μ) (m : OrderedMap κ ν)
    (k : κ) : (other.entries.foldl (fun m e => m.insert e.1 (f (m.get? e.1) e.2)) m).get? k =
      (other.get? k).elim (m.get? k) fun v => some (f (m.get? k) v) :=
  find_foldl_insert f other.keys_nodup m k

@[simp] lemma get?_mapValues (f : ν → μ) (m : OrderedMap κ ν) (k : κ) :
    (m.mapValues f).get? k = (m.get? k).map f := by
  obtain ⟨entries, _⟩ := m
  change find k (entries.map _) = (find k entries).map f
  induction entries with
  | nil => rfl
  | cons e rest ih =>
    obtain ⟨k', v⟩ := e
    by_cases hk : k = k'
    · simp [find, hk]
    · simp only [List.map_cons, find, hk, if_false]
      exact ih (List.pairwise_cons.mp ‹_›).2

@[simp] lemma get?_filter (p : κ → ν → Bool) (m : OrderedMap κ ν) (k : κ) :
    (m.filter p).get? k = (m.get? k).filter (p k) := by
  refine Option.ext fun v => ?_
  rw [← mem_entries_iff, filter, List.mem_filter, mem_entries_iff, Option.filter_eq_some_iff]

lemma keys_sorted (m : OrderedMap κ ν) : m.keys.Pairwise fun a b => Key.before a b = true :=
  m.sorted.map _ fun _ _ h => h

lemma eq_of_sorted {l l' : List κ} (hl : l.Pairwise fun a b => Key.before a b = true)
    (hl' : l'.Pairwise fun a b => Key.before a b = true) (h : ∀ k, k ∈ l ↔ k ∈ l') : l = l' := by
  have hnodup : ∀ {l : List κ}, (l.Pairwise fun a b => Key.before a b = true) → l.Nodup := by
    refine fun hl => hl.imp fun {a b} hbefore heq => ?_
    rw [heq, Key.before_irrefl] at hbefore
    cases hbefore
  exact ((List.perm_ext_iff_of_nodup (hnodup hl) (hnodup hl')).mpr h).eq_of_pairwise
    (fun a b _ _ hab hba => absurd hba (not_before hab)) hl hl'

lemma lt_of_before {p q : Nat} {e e' : κ × ν} (he : m.entries[p]? = some e)
    (he' : m.entries[q]? = some e') (h : Key.before e.1 e'.1 = true) : p < q := by
  obtain ⟨hp, rfl⟩ := List.getElem?_eq_some_iff.mp he
  obtain ⟨hq, rfl⟩ := List.getElem?_eq_some_iff.mp he'
  by_contra hle
  rcases Nat.eq_or_lt_of_not_lt hle with rfl | hlt
  · rw [Key.before_irrefl] at h
    cases h
  · exact not_before h (List.pairwise_iff_getElem.mp m.sorted q p hq hp hlt)

lemma keys_eq_of_mem_iff {m' : OrderedMap κ μ} (h : ∀ k, k ∈ m.keys ↔ k ∈ m'.keys) :
    m.keys = m'.keys :=
  eq_of_sorted m.keys_sorted m'.keys_sorted h

lemma mem_unionKeys_iff {m' : OrderedMap κ μ} {k : κ} :
    k ∈ m.unionKeys m' ↔ (m.get? k).isSome ∨ (m'.get? k).isSome := by
  have hget := get?_foldl_insert (fun _ _ => ()) m' (m.mapValues fun _ => ()) k
  have hkeys : m.unionKeys m' = (m'.entries.foldl (fun m e => m.insert e.1 ())
      (m.mapValues fun _ => ())).keys := congrArg keys List.foldl_map
  rw [hkeys, mem_keys_iff, hget, get?_mapValues]
  cases m'.get? k <;> cases m.get? k <;> simp

lemma flatMap_eq_of_sorted {α : Type} {f : κ → List α} {l l' : List κ}
    (hl : l.Pairwise fun a b => Key.before a b = true)
    (hl' : l'.Pairwise fun a b => Key.before a b = true)
    (h : ∀ k, f k ≠ [] → k ∈ l ∧ k ∈ l') : l.flatMap f = l'.flatMap f := by
  have hfilter : ∀ l : List κ, (l.filter fun k => !(f k).isEmpty).flatMap f = l.flatMap f := by
    intro l
    induction l with
    | nil => rfl
    | cons k rest ih =>
      by_cases hk : f k = [] <;> simp [hk, ih]
  rw [← hfilter l, ← hfilter l', eq_of_sorted (hl.filter _) (hl'.filter _)]
  intro k
  simp only [List.mem_filter, Bool.not_eq_true', List.isEmpty_eq_false_iff]
  exact and_congr_left fun hk => iff_of_true (h k hk).1 (h k hk).2

lemma entries_nodup (m : OrderedMap κ ν) : m.entries.Nodup :=
  List.Nodup.of_map Prod.fst m.keys_nodup

lemma entries_perm {l : List (κ × ν)} (hl : l.Nodup)
    (h : ∀ k v, (k, v) ∈ l ↔ m.get? k = some v) : m.entries.Perm l :=
  (List.perm_ext_iff_of_nodup m.entries_nodup hl).mpr fun e =>
    mem_entries_iff.trans (h e.1 e.2).symm

lemma ext_get? {m' : OrderedMap κ ν} (h : ∀ k, m.get? k = m'.get? k) : m = m' := by
  have hentries : m.entries = m'.entries := by
    refine (entries_perm m'.entries_nodup fun k v => ?_).eq_of_pairwise
      (fun a b _ _ hab hba => absurd hba (not_before hab)) m.sorted m'.sorted
    rw [mem_entries_iff, h]
  obtain ⟨entries, _⟩ := m
  cases hentries
  rfl

@[simp] lemma get?_erase (m : OrderedMap κ ν) (k k' : κ) :
    (m.erase k).get? k' = if k' = k then none else m.get? k' := by
  refine Option.ext fun v => ?_
  rw [← mem_entries_iff, erase, List.mem_filter, mem_entries_iff]
  by_cases hk : k' = k <;> simp [hk]

lemma erase_of_absent {k : κ} (h : m.get? k = none) : (m.erase k).entries = m.entries := by
  refine List.filter_eq_self.mpr fun e he => ?_
  rw [decide_eq_true_iff]
  rintro rfl
  rw [mem_entries_iff.mp he] at h
  cases h

lemma nodup_cons_erase (m : OrderedMap κ ν) (k : κ) (v : ν) :
    ((k, v) :: (m.erase k).entries).Nodup := by
  refine List.nodup_cons.mpr ⟨fun hmem => ?_, entries_nodup _⟩
  simpa using mem_entries_iff.mp hmem

lemma entries_insert_perm (m : OrderedMap κ ν) (k : κ) (v : ν) :
    (m.insert k v).entries.Perm ((k, v) :: (m.erase k).entries) := by
  refine entries_perm (m.nodup_cons_erase k v) fun k' v' => ?_
  rw [List.mem_cons, mem_entries_iff, get?_erase, get?_insert, Prod.mk.injEq]
  by_cases hk : k' = k <;> simp [hk, eq_comm]

lemma size_insert {k : κ} (h : m.get? k = none) (v : ν) :
    (m.insert k v).size = m.size + 1 := by
  have hperm := (m.entries_insert_perm k v).length_eq
  rw [erase_of_absent h] at hperm
  exact hperm

lemma entries_erase_perm {k : κ} {v : ν} (h : m.get? k = some v) :
    m.entries.Perm ((k, v) :: (m.erase k).entries) := by
  refine entries_perm (m.nodup_cons_erase k v) fun k' v' => ?_
  rw [List.mem_cons, mem_entries_iff, get?_erase, Prod.mk.injEq]
  by_cases hk : k' = k <;> simp [hk, h, eq_comm]

lemma flatMap_values_insert {α : Type} (f : ν → List α) {k : κ} {v : ν} {added : List α}
    (h : f v = ((m.get? k).map f).getD [] ++ added) :
    ((m.insert k v).values.flatMap f).Perm (m.values.flatMap f ++ added) := by
  have hinsert := ((m.entries_insert_perm k v).map (·.2)).flatMap_right f
  refine hinsert.trans ?_
  rw [List.map_cons, List.flatMap_cons, h]
  cases hk : m.get? k with
  | none =>
    rw [erase_of_absent hk]
    exact List.perm_append_comm
  | some old =>
    have herase := ((entries_erase_perm hk).map (·.2)).flatMap_right f
    rw [List.map_cons, List.flatMap_cons] at herase
    change (f old ++ added ++ _).Perm _
    rw [List.append_assoc]
    refine (List.perm_append_comm.append_left _).trans ?_
    rw [← List.append_assoc]
    exact herase.symm.append_right added

lemma get?_ofList {l : List (κ × ν)} (h : (l.map (·.1)).Nodup) (k : κ) :
    (ofList l).get? k = find k l := by
  have hfold := find_foldl_insert (fun _ v => v) h (empty : OrderedMap κ ν) k
  rw [ofList, hfold]
  cases find k l <;> rfl

lemma get?_ofList_map (f : κ → ν) (keys : List κ) (k : κ) :
    (ofList (keys.map fun k => (k, f k))).get? k = if k ∈ keys then some (f k) else none := by
  have hfold : ∀ m : OrderedMap κ ν,
      ((keys.map fun k => (k, f k)).foldl (fun m e => m.insert e.1 e.2) m).get? k =
        if k ∈ keys then some (f k) else m.get? k := by
    induction keys with
    | nil => intro m; rfl
    | cons first rest ih =>
      intro m
      rw [List.map_cons, List.foldl_cons, ih, get?_insert]
      by_cases hk : k = first <;> simp [hk]
  exact hfold empty

lemma keys_ofList_perm (l : List (κ × ν)) : (ofList l).keys.Perm (l.map (·.1)).dedup := by
  refine (List.perm_ext_iff_of_nodup (keys_nodup _) (List.nodup_dedup _)).mpr fun k => ?_
  rw [List.mem_dedup, mem_keys_iff]
  have hfold : ∀ m : OrderedMap κ ν, (∃ v, (l.foldl (fun m e => m.insert e.1 e.2) m).get? k =
      some v) ↔ (∃ v, m.get? k = some v) ∨ k ∈ l.map (·.1) := by
    induction l with
    | nil => simp
    | cons e rest ih =>
      intro m
      rw [List.foldl_cons, ih, get?_insert, List.map_cons, List.mem_cons]
      by_cases hk : k = e.1 <;> simp [hk]
  have hempty := hfold empty
  simp only [get?_empty, reduceCtorEq, exists_false, false_or] at hempty
  exact hempty

lemma exists_get?_ofList {l : List (κ × ν)} {e : κ × ν} (he : e ∈ l) :
    ∃ v, (ofList l).get? e.1 = some v := by
  apply mem_keys_iff.mp
  rw [(keys_ofList_perm l).mem_iff, List.mem_dedup]
  exact List.mem_map_of_mem he

lemma exists_place_ofList {l : List (κ × ν)} {e : κ × ν} (he : e ∈ l) :
    ∃ (p : Nat) (v : ν), (ofList l).entries[p]? = some (e.1, v) := by
  obtain ⟨v, hv⟩ := exists_get?_ofList he
  obtain ⟨p, hp⟩ := List.mem_iff_getElem?.mp (mem_entries_iff.mpr hv)
  exact ⟨p, v, hp⟩

lemma get?_ofList_concat (l : List (κ × ν)) (last : κ × ν) (k : κ) :
    (ofList (l ++ [last])).get? k = if k = last.1 then some last.2 else (ofList l).get? k := by
  rw [ofList, List.foldl_append]
  exact get?_insert _ last.1 k last.2

/-- What the map of a list has under a key is the value of the last entry with this key. -/
lemma get?_ofList_eq_getLast? (l : List (κ × ν)) (k : κ) :
    (ofList l).get? k = ((l.filter fun e => k = e.1).getLast?).map (·.2) := by
  induction l using List.reverseRecOn with
  | nil => rfl
  | append_singleton l last ih =>
    rw [get?_ofList_concat, ih, List.filter_append]
    by_cases hk : k = last.1 <;> simp [hk]

lemma get?_ofList_eq_some {l : List (κ × ν)} {k : κ} {v : ν} (h : (ofList l).get? k = some v) :
    ∃ i : Nat, l[i]? = some (k, v) ∧ ∀ j e, i < j → l[j]? = some e → e.1 ≠ k := by
  induction l using List.reverseRecOn with
  | nil => cases h
  | append_singleton l last ih =>
    have hlt : ∀ {j : Nat} {e}, (l ++ [last])[j]? = some e → j < l.length + 1 := by
      intro j e hj
      simpa using (List.getElem?_eq_some_iff.mp hj).1
    rw [get?_ofList_concat] at h
    by_cases hk : k = last.1
    · rw [if_pos hk] at h
      refine ⟨l.length, ?_, fun j e hij hj => ?_⟩
      · rw [List.getElem?_concat_length, hk, ← Option.some.inj h]
      · have hj := hlt hj
        omega
    · rw [if_neg hk] at h
      obtain ⟨i, hi, hlast⟩ := ih h
      have hil := (List.getElem?_eq_some_iff.mp hi).1
      refine ⟨i, (List.getElem?_append_left hil).trans hi, fun j e hij hj => ?_⟩
      rcases Nat.lt_succ_iff_lt_or_eq.mp (hlt hj) with hjl | rfl
      · rw [List.getElem?_append_left hjl] at hj
        exact hlast j e hij hj
      · rw [List.getElem?_concat_length] at hj
        cases hj
        exact Ne.symm hk

lemma foldlM_insert {M : Type → Type} [Monad M] [LawfulMonad M] {α : Type} (key : α → κ)
    (f : α → M ν) (l : List α) (m : OrderedMap κ ν) :
    l.foldlM (fun m a => do return m.insert (key a) (← f a)) m =
      (fun entries => entries.foldl (fun m e => m.insert e.1 e.2) m) <$>
        l.mapM fun a => (key a, ·) <$> f a := by
  induction l generalizing m with
  | nil => rw [List.foldlM_nil, List.mapM_nil, map_pure, List.foldl_nil]
  | cons a rest ih =>
    simp only [List.foldlM_cons, List.mapM_cons, map_eq_pure_bind, bind_assoc, pure_bind,
      List.foldl_cons, ih]

lemma entries_ofList_perm {l : List (κ × ν)} (h : (l.map (·.1)).Nodup) :
    (ofList l).entries.Perm l := by
  refine entries_perm (.of_map _ h) fun k v => ?_
  rw [get?_ofList h, find_eq_some_iff_of_nodup h]

end ChainConformance.OrderedMap
