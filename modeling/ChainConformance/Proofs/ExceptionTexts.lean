import ChainConformance.Exception.Set
import ChainConformance.Proofs.HexCodec
import ChainConformance.Proofs.Steps
import Mathlib.Data.List.Nodup

/-!
# Texts of exception sets

The written forms of tags tell them apart, and no bar and no white space occurs in them. A set is
read from the texts that have the written forms of its tags between bars, in their order, with
white space around them and blank parts among them as they come. What is written of a set is
one of these texts.
-/

namespace ChainConformance

open List (Forall₂)

lemma exists_forall₂_iff {α β : Type} {R : α → β → Prop} {l : List α} :
    (∃ l', Forall₂ R l l') ↔ ∀ a ∈ l, ∃ b, R a b := by
  induction l with
  | nil => simp
  | cons a rest ih =>
    rw [List.forall_mem_cons, ← ih]
    constructor
    · rintro ⟨l', h⟩
      obtain ⟨b, rest', hfirst, hrest, -⟩ := List.forall₂_cons_left_iff.mp h
      exact ⟨⟨b, hfirst⟩, rest', hrest⟩
    · rintro ⟨⟨b, hfirst⟩, rest', hrest⟩
      exact ⟨b :: rest', .cons hfirst hrest⟩

lemma exists_of_forall₂ {α β : Type} {R : α → β → Prop} {l : List α} {l' : List β}
    (h : Forall₂ R l l') : ∀ a ∈ l, ∃ b ∈ l', R a b := by
  induction h with
  | nil => simp
  | cons hfirst _ ih =>
    intro a ha
    rcases List.mem_cons.mp ha with rfl | ha
    · exact ⟨_, List.mem_cons_self, hfirst⟩
    · obtain ⟨b, hb, hR⟩ := ih a ha
      exact ⟨b, List.mem_cons_of_mem _ hb, hR⟩

/-- A letter of a name: a letter or a digit of ASCII, or an underscore. -/
def isNameLetter (c : Char) : Bool :=
  let n := c.toNat
  (48 ≤ n && n ≤ 57) || (65 ≤ n && n ≤ 90) || n == 95 || (97 ≤ n && n ≤ 122)

/-- The letters of the names of all reasons of a list, which has every reason. They are letters of
names, and no two names have the same. -/
structure Naming {α : Type} (all : List α) (name : α → String) where
  spelled : List (List Char)
  spells : Forall₂ (fun r cs => name r = String.ofList cs) all spelled
  complete : ∀ r, r ∈ all
  nodup : spelled.Nodup
  letters : ∀ cs ∈ spelled, cs.all isNameLetter

namespace Naming

variable {α : Type} {all : List α} {name : α → String}

/-- The letters of a name as the digits of a number. Numbers are compared faster than texts. -/
def number (cs : List Char) : ℕ := cs.foldl (fun n c => 256 * n + c.toNat) 0

def distinct : List ℕ → Bool
  | [] => true
  | n :: rest => (rest.all fun m => !Nat.beq n m) && distinct rest

lemma nodup_of_distinct {ns : List ℕ} (h : distinct ns) : ns.Nodup := by
  induction ns with
  | nil => exact List.nodup_nil
  | cons n rest ih =>
    rw [distinct, Bool.and_eq_true, List.all_eq_true] at h
    refine List.nodup_cons.mpr ⟨fun hmem => ?_, ih h.2⟩
    simpa using h.1 n hmem

lemma nodup_of_distinct_numbers {spelled : List (List Char)}
    (h : distinct (spelled.map number)) : spelled.Nodup :=
  (nodup_of_distinct h).of_map

lemma injective (h : Naming all name) : Function.Injective name := by
  have hmap : all.map name = h.spelled.map String.ofList := by
    rw [← List.forall₂_eq_eq_eq, List.forall₂_map_left_iff, List.forall₂_map_right_iff]
    exact h.spells
  have hnodup : (all.map name).Nodup := by
    rw [hmap]
    exact h.nodup.map fun _ _ => String.ofList_injective
  exact fun r r' heq => List.inj_on_of_nodup_map hnodup (h.complete r) (h.complete r') heq

lemma name_letters (h : Naming all name) (r : α) :
    ∃ cs, name r = String.ofList cs ∧ cs.all isNameLetter := by
  obtain ⟨cs, hcs, hname⟩ := exists_of_forall₂ h.spells r (h.complete r)
  exact ⟨cs, hname, h.letters cs hcs⟩

end Naming

def TransactionException.naming : Naming all name where
  spelled := _
  spells := by
    dsimp only [all]
    repeat (apply Forall₂.cons; rfl)
    exact .nil
  complete r := by
    have hplace : all[r.ctorIdx]? = some r := by cases r <;> rfl
    exact List.mem_of_getElem? hplace
  nodup := Naming.nodup_of_distinct_numbers (by decide +kernel)
  letters := by decide +kernel

def BlockException.naming : Naming all name where
  spelled := _
  spells := by
    dsimp only [all]
    repeat (apply Forall₂.cons; rfl)
    exact .nil
  complete r := by
    have hplace : all[r.ctorIdx]? = some r := by cases r <;> rfl
    exact List.mem_of_getElem? hplace
  nodup := Naming.nodup_of_distinct_numbers (by decide +kernel)
  letters := by decide +kernel

def ContainerException.naming : Naming all name where
  spelled := _
  spells := by
    dsimp only [all]
    repeat (apply Forall₂.cons; rfl)
    exact .nil
  complete r := by
    have hplace : all[r.ctorIdx]? = some r := by cases r <;> rfl
    exact List.mem_of_getElem? hplace
  nodup := Naming.nodup_of_distinct_numbers (by decide +kernel)
  letters := by decide +kernel

namespace ExceptionTag

lemma mem_all (t : ExceptionTag) : t ∈ all := by
  simp only [all, List.mem_append, List.mem_map]
  cases t with
  | transaction r => exact .inl (.inl ⟨r, TransactionException.naming.complete r, rfl⟩)
  | block r => exact .inl (.inr ⟨r, BlockException.naming.complete r, rfl⟩)
  | container r => exact .inr ⟨r, ContainerException.naming.complete r, rfl⟩

lemma eq_of_parts {t t' : ExceptionTag} (hcategory : t.category = t'.category)
    (hreason : t.reason = t'.reason) : t = t' := by
  match t, t' with
  | transaction r, transaction r' =>
    exact congrArg transaction (TransactionException.naming.injective hreason)
  | block r, block r' => exact congrArg block (BlockException.naming.injective hreason)
  | container r, container r' =>
    exact congrArg container (ContainerException.naming.injective hreason)
  | transaction _, block _ | transaction _, container _ | block _, transaction _
  | block _, container _ | container _, transaction _ | container _, block _ =>
    simp [category] at hcategory

lemma category_letters (t : ExceptionTag) :
    ∃ cs, t.category = String.ofList cs ∧ cs.all isNameLetter := by
  cases t <;> exact ⟨_, rfl, by decide⟩

lemma reason_letters (t : ExceptionTag) :
    ∃ cs, t.reason = String.ofList cs ∧ cs.all isNameLetter := by
  cases t with
  | transaction r => exact TransactionException.naming.name_letters r
  | block r => exact BlockException.naming.name_letters r
  | container r => exact ContainerException.naming.name_letters r

lemma display_letters (t : ExceptionTag) : ∃ category reason : List Char,
    t.category = String.ofList category ∧ t.reason = String.ofList reason ∧
      t.display = String.ofList (category ++ '.' :: reason) ∧
      (∀ c ∈ category, isNameLetter c) ∧ ∀ c ∈ reason, isNameLetter c := by
  obtain ⟨category, hcategory, hletters⟩ := category_letters t
  obtain ⟨reason, hreason, hletters'⟩ := reason_letters t
  refine ⟨category, reason, hcategory, hreason, ?_, List.all_eq_true.mp hletters,
    List.all_eq_true.mp hletters'⟩
  rw [display, hcategory, hreason, ← String.toList_inj]
  simp

lemma display_injective : Function.Injective display := by
  intro t t' h
  obtain ⟨category, reason, hcategory, hreason, hdisplay, hletters, hletters'⟩ := display_letters t
  obtain ⟨category', reason', hcategory', hreason', hdisplay', -, -⟩ := display_letters t'
  have hpoint : '.' ∉ category := fun hmem => absurd (hletters _ hmem) (by decide)
  have hpoint' : '.' ∉ reason := fun hmem => absurd (hletters' _ hmem) (by decide)
  rw [hdisplay, hdisplay'] at h
  obtain ⟨rfl, -, rfl⟩ :=
    (List.append_cons_inj_of_notMem hpoint hpoint').mp (String.ofList_injective h)
  exact eq_of_parts (hcategory.trans hcategory'.symm) (hreason.trans hreason'.symm)

lemma not_blank_of_letter {c : Char} (h : c = '.' ∨ isNameLetter c) :
    Text.isBlank c = false ∧ c ≠ '|' := by
  have hrange : 46 ≤ c.toNat ∧ c.toNat ≤ 122 := by
    simp only [isNameLetter, Bool.or_eq_true, Bool.and_eq_true, decide_eq_true_eq, beq_iff_eq,
      ← Char.toNat_inj, Char.reduceToNat] at h
    omega
  constructor
  · simp only [Text.isBlank, Bool.or_eq_false_iff, Bool.and_eq_false_iff, decide_eq_false_iff_not,
      beq_eq_false_iff_ne]
    omega
  · rintro rfl
    exact absurd hrange (by decide)

lemma display_plain (t : ExceptionTag) :
    ∀ c ∈ t.display.toList, Text.isBlank c = false ∧ c ≠ '|' := by
  obtain ⟨category, reason, -, -, hdisplay, hletters, hletters'⟩ := display_letters t
  rw [hdisplay, String.toList_ofList]
  intro c hc
  apply not_blank_of_letter
  rcases List.mem_append.mp hc with hc | hc
  · exact .inr (hletters c hc)
  · rcases List.mem_cons.mp hc with rfl | hc
    · exact .inl rfl
    · exact .inr (hletters' c hc)

lemma display_not_blank (t : ExceptionTag) : Text.isBlankText t.display = false := by
  obtain ⟨category, reason, -, -, hdisplay, -, -⟩ := display_letters t
  have hpoint : '.' ∈ t.display.toList := by
    rw [hdisplay, String.toList_ofList]
    exact List.mem_append_right _ List.mem_cons_self
  exact List.all_eq_false.mpr ⟨'.', hpoint, by decide⟩

lemma trim_display (t : ExceptionTag) : Text.trim t.display = t.display := by
  rw [← String.ofList_toList (s := t.display)]
  exact Text.trim_of_not_blank fun c hc => (display_plain t c hc).1

lemma ofText?_eq_some {s : String} {t : ExceptionTag} :
    ofText? s = some t ↔ Text.trim s = t.display := by
  constructor
  · intro h
    have hfound := List.find?_some h
    exact (beq_iff_eq.mp hfound).symm
  · intro h
    have hsome : (ofText? s).isSome :=
      List.find?_isSome.mpr ⟨t, mem_all t, beq_iff_eq.mpr h.symm⟩
    obtain ⟨t', ht'⟩ := Option.isSome_iff_exists.mp hsome
    have hfound := List.find?_some ht'
    rw [ht', display_injective ((beq_iff_eq.mp hfound).trans h)]

end ExceptionTag

/-! ### Texts of sets -/

namespace ExceptionSet

def parts (s : String) : List String := (s.toList.splitOn '|').map String.ofList

def entries (s : String) : List String := (parts s).filter fun p => !Text.isBlankText p

lemma splitBars_eq (cs : List Char) : splitBars cs = cs.splitOn '|' := by
  induction cs with
  | nil => rfl
  | cons c rest ih =>
    rw [List.splitOn_eq_splitOnP, List.splitOnP_cons_eq_if_modifyHead,
      ← List.splitOn_eq_splitOnP, ← ih, splitBars]
    cases hrest : splitBars rest with
    | nil => exact absurd (ih.symm.trans hrest) (List.splitOn_ne_nil _ _)
    | cons piece pieces =>
      by_cases hc : c = '|'
      · simp [hc]
      · simp [hc]

lemma pieces_eq (s : String) : pieces s = entries s := by
  rw [pieces, entries, parts, splitBars_eq, List.filter_map]
  simp [Function.comp_def, Text.isBlankText]

lemma readTag_eq_ok {piece : String} {t : ExceptionTag} :
    readTag piece = .ok t ↔ Text.trim piece = t.display := by
  rw [readTag, ← ExceptionTag.ofText?_eq_some]
  cases ExceptionTag.ofText? piece <;> simp

lemma ofText_eq_ok {s : String} {set : ExceptionSet} : ofText s = .ok set ↔
    set.tags ≠ [] ∧ Forall₂ (fun p t => Text.trim p = t.display) (entries s) set.tags := by
  have hread : ∀ tags, (pieces s).mapM readTag = .ok tags ↔
      Forall₂ (fun p t => Text.trim p = t.display) (entries s) tags := by
    intro tags
    simp only [mapM_eq_ok, readTag_eq_ok, pieces_eq]
  rw [ofText, bind_eq_ok]
  constructor
  · rintro ⟨tags, htags, h⟩
    split at h
    · cases h
    next hsome =>
      cases h
      exact ⟨fun hnil => hsome (List.isEmpty_iff.mpr hnil), (hread _).mp htags⟩
  · rintro ⟨hsome, htags⟩
    exact ⟨set.tags, (hread _).mpr htags, if_neg fun hnil => hsome (List.isEmpty_iff.mp hnil)⟩

lemma parts_display {tags : List ExceptionTag} (h : tags ≠ []) :
    parts (display ⟨tags⟩) = tags.map ExceptionTag.display := by
  have hbars : (display ⟨tags⟩).toList =
      ['|'].intercalate (tags.map fun t => t.display.toList) := by
    rw [display, String.toList_intercalate, List.map_map]
    rfl
  have hnone : ∀ cs ∈ tags.map fun t => t.display.toList, '|' ∉ cs := by
    intro cs hcs hbar
    obtain ⟨t, -, rfl⟩ := List.mem_map.mp hcs
    exact (t.display_plain _ hbar).2 rfl
  rw [parts, hbars, List.splitOn_intercalate '|' hnone (by simpa using h), List.map_map]
  simp [Function.comp_def]

lemma entries_display {tags : List ExceptionTag} (h : tags ≠ []) :
    entries (display ⟨tags⟩) = tags.map ExceptionTag.display := by
  rw [entries, parts_display h, List.filter_eq_self]
  intro p hp
  obtain ⟨t, -, rfl⟩ := List.mem_map.mp hp
  simp [t.display_not_blank]

lemma ofText_display {tags : List ExceptionTag} (h : tags ≠ []) :
    ofText (display ⟨tags⟩) = .ok ⟨tags⟩ := by
  refine ofText_eq_ok.mpr ⟨h, ?_⟩
  rw [entries_display h, List.forall₂_map_left_iff, List.forall₂_same]
  exact fun t _ => t.trim_display

lemma exists_ofText_eq_ok {s : String} : (∃ set, ofText s = .ok set) ↔
    entries s ≠ [] ∧ ∀ p ∈ entries s, ∃ t : ExceptionTag, Text.trim p = t.display := by
  rw [← exists_forall₂_iff]
  constructor
  · rintro ⟨set, hset⟩
    obtain ⟨hsome, hentries⟩ := ofText_eq_ok.mp hset
    exact ⟨fun hnil => hsome (List.forall₂_nil_left_iff.mp (hnil ▸ hentries)), _, hentries⟩
  · rintro ⟨hsome, tags, htags⟩
    refine ⟨⟨tags⟩, ofText_eq_ok.mpr ⟨?_, htags⟩⟩
    rintro rfl
    exact hsome (List.forall₂_nil_right_iff.mp htags)

/-- The written forms of tags are all different, and a set with tags is read from what is written
of it. A text is read if and only if some part of it is not blank and each of these parts is,
without the white space around it, the category and the reason of a tag with a point between
them. What is read are these tags in their order, and it is read again from what is written of
it. -/
theorem ofText_reads : Function.Injective ExceptionTag.display ∧
    (∀ tags, tags ≠ [] → ofText (display ⟨tags⟩) = .ok ⟨tags⟩) ∧
    ∀ s, ((∃ set, ofText s = .ok set) ↔
        (∃ p ∈ parts s, ¬Text.isBlankText p) ∧
          ∀ p ∈ parts s, ¬Text.isBlankText p →
            ∃ t : ExceptionTag, Text.trim p = t.category ++ "." ++ t.reason) ∧
      ∀ set, ofText s = .ok set →
        Forall₂ (fun p (t : ExceptionTag) => Text.trim p = t.category ++ "." ++ t.reason)
          ((parts s).filter fun p => !Text.isBlankText p) set.tags ∧
        ofText set.display = .ok set := by
  refine ⟨ExceptionTag.display_injective, fun tags => ofText_display, fun s => ⟨?_, ?_⟩⟩
  · have hsome : entries s ≠ [] ↔ ∃ p, p ∈ entries s :=
      ⟨List.exists_mem_of_ne_nil _, fun ⟨_, hp⟩ => List.ne_nil_of_mem hp⟩
    rw [exists_ofText_eq_ok, hsome]
    simp only [entries, List.mem_filter, Bool.not_eq_true', Bool.not_eq_true, and_imp]
    rfl
  · intro set hset
    obtain ⟨hsome, hentries⟩ := ofText_eq_ok.mp hset
    exact ⟨hentries, ofText_display hsome⟩

theorem ofText_reads_spaced :
    let s := " TransactionException.NONCE_IS_MAX || BlockException.UNKNOWN_PARENT| "
    ∃ set, ofText s = .ok set ∧ set.tags = [.transaction .nonceIsMax, .block .unknownParent] ∧
      ofText set.display = .ok set := by
  intro s
  have hentries : entries s =
      [" TransactionException.NONCE_IS_MAX ", " BlockException.UNKNOWN_PARENT"] := by
    rw [← pieces_eq]
    decide +kernel
  have hread : ofText s = .ok ⟨[.transaction .nonceIsMax, .block .unknownParent]⟩ := by
    refine ofText_eq_ok.mpr ⟨List.cons_ne_nil _ _, ?_⟩
    rw [hentries]
    exact .cons (by decide +kernel) (.cons (by decide +kernel) .nil)
  exact ⟨_, hread, rfl, ((ofText_reads.2.2 s).2 _ hread).2⟩

end ExceptionSet

end ChainConformance
