/-!
# The order of texts

Texts are ordered by their characters, the first difference deciding; a text stands before
every longer one that it begins. The order is strict and total.
-/

namespace ChainConformance.Text

def charsBefore : List Char → List Char → Bool
  | _, [] => false
  | [], _ :: _ => true
  | a :: as, b :: bs => a.toNat < b.toNat || (a == b && charsBefore as bs)

def before (s t : String) : Bool := charsBefore s.toList t.toList

theorem charsBefore_irrefl (cs : List Char) : charsBefore cs cs = false := by
  induction cs with
  | nil => rfl
  | cons c cs ih => simp [charsBefore, ih]

theorem charsBefore_trans {as bs cs : List Char} (h : charsBefore as bs)
    (h' : charsBefore bs cs) : charsBefore as cs := by
  induction as generalizing bs cs with
  | nil => cases bs <;> cases cs <;> simp_all [charsBefore]
  | cons a as ih =>
    cases bs with
    | nil => simp [charsBefore] at h
    | cons b bs =>
      cases cs with
      | nil => simp [charsBefore] at h'
      | cons c cs =>
        simp only [charsBefore, Bool.or_eq_true, decide_eq_true_eq, Bool.and_eq_true,
          beq_iff_eq] at h h' ⊢
        rcases h with h | ⟨rfl, h⟩
        · rcases h' with h' | ⟨rfl, _⟩
          · exact Or.inl (Nat.lt_trans h h')
          · exact Or.inl h
        · rcases h' with h' | ⟨rfl, h'⟩
          · exact Or.inl h'
          · exact Or.inr ⟨rfl, ih h h'⟩

theorem charsBefore_total {as bs : List Char} (h : as ≠ bs) :
    charsBefore as bs ∨ charsBefore bs as := by
  induction as generalizing bs with
  | nil => cases bs <;> simp_all [charsBefore]
  | cons a as ih =>
    cases bs with
    | nil => simp [charsBefore]
    | cons b bs =>
      simp only [charsBefore, Bool.or_eq_true, decide_eq_true_eq, Bool.and_eq_true, beq_iff_eq]
      by_cases e : a = b
      · subst e
        have : as ≠ bs := fun e => h (e ▸ rfl)
        simpa using ih this
      · have : a.toNat ≠ b.toNat := fun e' => e (Char.toNat_inj.1 e')
        omega

theorem before_irrefl (s : String) : before s s = false := charsBefore_irrefl _

theorem before_trans {s t u : String} (h : before s t) (h' : before t u) : before s u :=
  charsBefore_trans h h'

theorem before_total {s t : String} (h : s ≠ t) : before s t ∨ before t s :=
  charsBefore_total (fun e => h (String.toList_inj.1 e))

end ChainConformance.Text
