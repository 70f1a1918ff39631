import ChainConformance.Text.Order

/-!
# Ordered maps

A finite map held as the list of its entries in increasing order of their keys, each key
once. The order is part of the type, so that a map is determined by what `get?` answers
and two maps with the same entries are the same value.
-/

namespace ChainConformance

/-- Keys are compared by a strict order in which any two different keys are comparable. -/
class Key (κ : Type) where
  decEq : DecidableEq κ
  before : κ → κ → Bool
  before_irrefl : ∀ a, before a a = false
  before_trans : ∀ {a b c}, before a b → before b c → before a c
  before_total : ∀ a b, a ≠ b → before a b ∨ before b a

instance (priority := low) {κ : Type} [Key κ] : DecidableEq κ := Key.decEq

/-- Keys ordered by a number that tells them apart. -/
@[reducible] def Key.ofRank {κ : Type} [DecidableEq κ] (rank : κ → Nat)
    (rank_injective : ∀ a b, rank a = rank b → a = b) : Key κ where
  decEq := inferInstance
  before a b := rank a < rank b
  before_irrefl a := decide_eq_false (Nat.lt_irrefl (rank a))
  before_trans h h' := decide_eq_true (Nat.lt_trans (of_decide_eq_true h) (of_decide_eq_true h'))
  before_total a b h :=
    (Nat.lt_or_gt_of_ne (fun e => h (rank_injective a b e))).imp decide_eq_true decide_eq_true

instance : Key Nat := Key.ofRank id (fun _ _ h => h)

/-- Text is ordered by its characters, the first difference deciding. -/
instance : Key String where
  decEq := inferInstance
  before := Text.before
  before_irrefl := Text.before_irrefl
  before_trans := Text.before_trans
  before_total _ _ := Text.before_total

/-- The entries of a map in strictly increasing order of their keys. -/
structure OrderedMap (κ ν : Type) [Key κ] where
  entries : List (κ × ν)
  sorted : entries.Pairwise (fun a b => Key.before a.1 b.1 = true)

namespace OrderedMap

variable {κ ν μ : Type} [Key κ]

instance [DecidableEq ν] : DecidableEq (OrderedMap κ ν) := fun a b =>
  if h : a.entries = b.entries then
    isTrue (by cases a; cases b; simp_all)
  else isFalse (fun e => h (e ▸ rfl))

def empty : OrderedMap κ ν := ⟨[], .nil⟩

instance : Inhabited (OrderedMap κ ν) := ⟨empty⟩

def find (k : κ) : List (κ × ν) → Option ν
  | [] => none
  | (k', v) :: rest => if k = k' then some v else find k rest

def get? (m : OrderedMap κ ν) (k : κ) : Option ν := find k m.entries

def contains (m : OrderedMap κ ν) (k : κ) : Bool := (m.get? k).isSome

def keys (m : OrderedMap κ ν) : List κ := m.entries.map (·.1)

def values (m : OrderedMap κ ν) : List ν := m.entries.map (·.2)

def size (m : OrderedMap κ ν) : Nat := m.entries.length

def isEmpty (m : OrderedMap κ ν) : Bool := m.entries.isEmpty

/-- Puts an entry at its place in a sorted list, over an entry with the same key. -/
def place (k : κ) (v : ν) : List (κ × ν) → List (κ × ν)
  | [] => [(k, v)]
  | (k', v') :: rest =>
    if Key.before k k' then (k, v) :: (k', v') :: rest
    else if k = k' then (k, v) :: rest
    else (k', v') :: place k v rest

theorem mem_place {k : κ} {v : ν} {e : κ × ν} {l : List (κ × ν)} (h : e ∈ place k v l) :
    e = (k, v) ∨ e ∈ l := by
  induction l with
  | nil => simpa [place] using h
  | cons a rest ih =>
    obtain ⟨k', v'⟩ := a
    unfold place at h
    split at h
    · simpa using h
    · split at h
      · rcases List.mem_cons.1 h with h | h
        · exact Or.inl h
        · exact Or.inr (List.mem_cons_of_mem _ h)
      · rcases List.mem_cons.1 h with h | h
        · exact Or.inr (h ▸ List.mem_cons_self)
        · exact (ih h).imp_right (List.mem_cons_of_mem _)

theorem sorted_place (k : κ) (v : ν) {l : List (κ × ν)}
    (h : l.Pairwise (fun a b => Key.before a.1 b.1 = true)) :
    (place k v l).Pairwise (fun a b => Key.before a.1 b.1 = true) := by
  induction l with
  | nil => simp [place]
  | cons a rest ih =>
    obtain ⟨k', v'⟩ := a
    obtain ⟨hhead, htail⟩ := List.pairwise_cons.1 h
    unfold place
    split
    next hb =>
      refine List.pairwise_cons.2 ⟨fun e he => ?_, h⟩
      rcases List.mem_cons.1 he with rfl | he
      · exact hb
      · exact Key.before_trans hb (hhead e he)
    next hb =>
      split
      next heq =>
        subst heq
        exact List.pairwise_cons.2 ⟨hhead, htail⟩
      next hne =>
        refine List.pairwise_cons.2 ⟨fun e he => ?_, ih htail⟩
        rcases mem_place he with rfl | he
        · rcases Key.before_total k k' hne with h' | h'
          · exact absurd h' hb
          · exact h'
        · exact hhead e he

def insert (m : OrderedMap κ ν) (k : κ) (v : ν) : OrderedMap κ ν :=
  ⟨place k v m.entries, sorted_place k v m.sorted⟩

def erase (m : OrderedMap κ ν) (k : κ) : OrderedMap κ ν :=
  ⟨m.entries.filter (fun e => e.1 ≠ k), m.sorted.filter _⟩

def filter (m : OrderedMap κ ν) (p : κ → ν → Bool) : OrderedMap κ ν :=
  ⟨m.entries.filter (fun e => p e.1 e.2), m.sorted.filter _⟩

def mapValues (f : ν → μ) (m : OrderedMap κ ν) : OrderedMap κ μ :=
  ⟨m.entries.map (fun e => (e.1, f e.2)), m.sorted.map _ (fun _ _ h => h)⟩

/-- The map of a list of entries; of several entries with one key the last counts. -/
def ofList (l : List (κ × ν)) : OrderedMap κ ν :=
  l.foldl (fun m e => m.insert e.1 e.2) empty

@[simp] theorem find_place (k k' : κ) (v : ν) (l : List (κ × ν)) :
    find k' (place k v l) = if k' = k then some v else find k' l := by
  induction l with
  | nil => simp [place, find]
  | cons a rest ih =>
    obtain ⟨k₀, v₀⟩ := a
    unfold place
    split
    · simp [find]
    · split
      next h => subst h; by_cases hk : k' = k <;> simp [find, hk]
      next h =>
        by_cases hk : k' = k₀
        · subst hk; simp [find, Ne.symm h]
        · simp [find, hk, ih]

@[simp] theorem get?_insert (m : OrderedMap κ ν) (k k' : κ) (v : ν) :
    (m.insert k v).get? k' = if k' = k then some v else m.get? k' :=
  find_place k k' v m.entries

@[simp] theorem get?_empty (k : κ) : (empty : OrderedMap κ ν).get? k = none := rfl

theorem find_eq_some_iff {k : κ} {v : ν} {l : List (κ × ν)}
    (h : l.Pairwise (fun a b => Key.before a.1 b.1 = true)) :
    find k l = some v ↔ (k, v) ∈ l := by
  induction l with
  | nil => simp [find]
  | cons a rest ih =>
    obtain ⟨k', v'⟩ := a
    obtain ⟨hhead, htail⟩ := List.pairwise_cons.mp h
    rw [find, List.mem_cons]
    split
    next hk =>
      subst hk
      constructor
      · intro hv
        exact Or.inl (by rw [Option.some.inj hv])
      · rintro (heq | hmem)
        · rw [(Prod.mk.inj heq).2]
        · have hbefore := hhead _ hmem
          rw [Key.before_irrefl] at hbefore
          cases hbefore
    next hk =>
      rw [ih htail]
      refine ⟨Or.inr, fun hmem => hmem.resolve_left fun heq => hk (Prod.mk.inj heq).1⟩

theorem mem_entries_iff {m : OrderedMap κ ν} {k : κ} {v : ν} :
    (k, v) ∈ m.entries ↔ m.get? k = some v :=
  (find_eq_some_iff m.sorted).symm

theorem keys_nodup (m : OrderedMap κ ν) : m.keys.Nodup := by
  refine List.Pairwise.map _ (fun a b hbefore heq => ?_) m.sorted
  rw [heq, Key.before_irrefl] at hbefore
  cases hbefore

def unionKeys (a : OrderedMap κ ν) (b : OrderedMap κ μ) : List κ :=
  (b.keys.foldl (fun m k => m.insert k ()) (a.mapValues (fun _ => ()))).keys

end OrderedMap

end ChainConformance
