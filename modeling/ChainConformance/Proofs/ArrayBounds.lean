import ChainConformance.Proofs.TokenRuns

/-!
# Arrays among other characters

An array is not part of a longer value that begins with a bracket and ends where the array ends,
nor of one that begins where it begins and ends with a bracket. So in a text with an array in it,
what reads from one bracket to the last one is the array or has nothing to do with it. For
brackets outside of texts this is a matter of counting. And no characters are scanned without
fault both from outside a text and from inside one, since each quote turns the one into the other.
-/

namespace ChainConformance.Json

namespace Mode

/-- The scanner is not stuck, and what is missing of a word are letters. -/
def Sound : Mode → Prop
  | word missing _ => ∀ c ∈ missing, c.isAlpha = true
  | stuck => False
  | _ => True

/-- The scanner is not in the middle of a text. -/
inductive Outside : Mode → Prop
  | between : Outside between
  | word {missing : List Char} {value : Json} (letters : ∀ c ∈ missing, c.isAlpha = true) :
      Outside (word missing value)
  | number (seen : List Char) : Outside (number seen)

lemma Outside.ofLetters {missing : List Char} {value : Json}
    (h : missing.all Char.isAlpha = true) : Outside (.word missing value) :=
  .word (List.all_eq_true.mp h)

/-- The scanner is in the middle of a text, but of no escape in it. -/
inductive Inside : Mode → Prop
  | text (seen : List Char) : Inside (text seen)
  | surrogate (seen : List Char) (high : Nat) : Inside (surrogate seen high)
  | damaged : Inside damaged

end Mode

open Mode (Sound Outside Inside)

lemma start_outside {c : Char} (hc : c ≠ '"') :
    .fault ∈ (start c).1 ∨ Outside (start c).2 := by
  let Stays (r : List Token × Mode) : Prop := .fault ∈ r.1 ∨ Outside r.2
  refine iteInduction (motive := Stays) (fun _ => .inr .between) fun _ => ?_
  refine iteInduction (motive := Stays) (fun _ => .inr .between) fun _ => ?_
  refine iteInduction (motive := Stays) (fun _ => .inr .between) fun _ => ?_
  refine iteInduction (motive := Stays) (fun _ => .inr .between) fun _ => ?_
  refine iteInduction (motive := Stays) (fun _ => .inr .between) fun _ => ?_
  refine iteInduction (motive := Stays) (fun _ => .inr .between) fun _ => ?_
  refine iteInduction (motive := Stays) (fun _ => .inr .between) fun _ => ?_
  refine iteInduction (motive := Stays) (fun hquote => absurd hquote hc) fun _ => ?_
  refine iteInduction (motive := Stays) (fun _ => .inr (.number _)) fun _ => ?_
  refine iteInduction (motive := Stays) (fun _ => .inr (.ofLetters (by decide))) fun _ => ?_
  refine iteInduction (motive := Stays) (fun _ => .inr (.ofLetters (by decide))) fun _ => ?_
  refine iteInduction (motive := Stays) (fun _ => .inr (.ofLetters (by decide))) fun _ => ?_
  exact .inl (List.mem_singleton_self _)

lemma step_word {missing : List Char} {value : Json} (letters : ∀ c ∈ missing, c.isAlpha = true)
    (c : Char) : .fault ∈ (step (.word missing value) c).1 ∨
      c.isAlpha = true ∧ Outside (step (.word missing value) c).2 := by
  match missing with
  | [] => exact .inl (List.mem_singleton_self _)
  | [m] =>
    by_cases hc : c = m
    · subst hc
      have hstep : step (.word [c] value) c = ([.literal value], .between) := if_pos rfl
      rw [hstep]
      exact .inr ⟨letters c (List.mem_singleton_self _), .between⟩
    · have hstep : step (.word [m] value) c = ([.fault], .stuck) := if_neg hc
      rw [hstep]
      exact .inl (List.mem_singleton_self _)
  | m :: m' :: rest =>
    obtain ⟨hm, hrest⟩ := List.forall_mem_cons.mp letters
    by_cases hc : c = m
    · have hstep : step (.word (m :: m' :: rest) value) c = ([], .word (m' :: rest) value) :=
        if_pos hc
      rw [hstep]
      exact .inr ⟨hc ▸ hm, .word hrest⟩
    · have hstep : step (.word (m :: m' :: rest) value) c = ([.fault], .stuck) := if_neg hc
      rw [hstep]
      exact .inl (List.mem_singleton_self _)

lemma step_outside {mode : Mode} (h : Outside mode) {c : Char} (hc : c ≠ '"') :
    .fault ∈ (step mode c).1 ∨ Outside (step mode c).2 := by
  cases h with
  | between => exact start_outside hc
  | word letters => exact (step_word letters c).imp_right And.right
  | number seen =>
    by_cases hnumber : isNumberChar c = true
    · have hstep : step (.number seen) c = ([], .number (c :: seen)) := if_pos hnumber
      rw [hstep]
      exact .inr (.number _)
    · have hstep : step (.number seen) c =
        (numberToken seen.reverse :: (start c).1, (start c).2) := if_neg hnumber
      rw [hstep]
      exact (start_outside hc).imp_left (List.mem_cons_of_mem _)

lemma step_outside_quote {mode : Mode} (h : Outside mode) :
    .fault ∈ (step mode '"').1 ∨ (step mode '"').2 = .text [] := by
  cases h with
  | between => exact .inr rfl
  | word letters => exact (step_word letters '"').imp_right fun h => absurd h.1 (by decide)
  | number seen => exact .inr rfl

lemma step_outside_backslash {mode : Mode} (h : Outside mode) :
    .fault ∈ (step mode '\\').1 := by
  cases h with
  | between => exact List.mem_singleton_self _
  | word letters => exact (step_word letters '\\').resolve_right fun h => absurd h.1 (by decide)
  | number seen => exact List.mem_cons_of_mem _ (List.mem_singleton_self _)

lemma stepDamaged_inside {c : Char} (hquote : c ≠ '"') (hslash : c ≠ '\\') :
    .fault ∈ (stepDamaged c).1 ∨ Inside (stepDamaged c).2 := by
  rw [stepDamaged, if_neg hquote, if_neg hslash]
  split
  · exact .inl (List.mem_singleton_self _)
  · exact .inr .damaged

lemma step_inside {mode : Mode} (h : Inside mode) {c : Char} (hquote : c ≠ '"')
    (hslash : c ≠ '\\') : .fault ∈ (step mode c).1 ∨ Inside (step mode c).2 := by
  cases h with
  | text seen =>
    rw [step, if_neg hquote, if_neg hslash]
    split
    · exact .inl (List.mem_singleton_self _)
    · exact .inr (.text _)
  | surrogate seen high =>
    rw [step, if_neg hslash]
    exact stepDamaged_inside hquote hslash
  | damaged => exact stepDamaged_inside hquote hslash

lemma step_inside_quote {mode : Mode} (h : Inside mode) : (step mode '"').2 = .between := by
  cases h <;> rfl

/-- No characters are scanned without fault both from outside a text and from inside one. -/
lemma fault_outside_or_inside {mode mode' : Mode} (h : Outside mode) (h' : Inside mode')
    (cs : List Char) : .fault ∈ tokens mode cs ∨ .fault ∈ tokens mode' cs := by
  -- The two change places with every quote, and one of them is inside at the end.
  induction cs generalizing mode mode' with
  | nil => cases h' <;> exact .inr (List.mem_singleton_self _)
  | cons c rest ih =>
    rw [tokens_cons, tokens_cons, List.mem_append, List.mem_append]
    by_cases hquote : c = '"'
    · subst hquote
      rcases step_outside_quote h with hfault | hinside
      · exact .inl (.inl hfault)
      · rw [hinside, step_inside_quote h']
        exact (ih .between (.text [])).symm.imp .inr .inr
    by_cases hslash : c = '\\'
    · subst hslash
      exact .inl (.inl (step_outside_backslash h))
    rcases step_outside h hquote with hfault | houtside
    · exact .inl (.inl hfault)
    rcases step_inside h' hquote hslash with hfault | hinside
    · exact .inr (.inl hfault)
    · exact (ih houtside hinside).imp .inr .inr

lemma Mode.Outside.sound {mode : Mode} (h : Outside mode) : mode.Sound := by
  cases h with
  | between => trivial
  | word letters => exact letters
  | number => trivial

lemma sound_afterUnicode (seen : List Char) (high : Option Nat) (code : Nat) :
    Sound (afterUnicode seen high code).2 := by
  cases high with
  | none =>
    rw [afterUnicode]
    split
    · trivial
    · split <;> trivial
  | some high =>
    rw [afterUnicode]
    split <;> trivial

lemma sound_stepDamaged (c : Char) :
    .fault ∈ (stepDamaged c).1 ∨ Sound (stepDamaged c).2 := by
  unfold stepDamaged
  split
  · exact .inr trivial
  · split
    · exact .inr trivial
    · split
      · exact .inl (List.mem_singleton_self _)
      · exact .inr trivial

lemma sound_stepDamagedEscape (c : Char) :
    .fault ∈ (stepDamagedEscape c).1 ∨ Sound (stepDamagedEscape c).2 := by
  unfold stepDamagedEscape
  split
  · exact .inr trivial
  · split
    · exact .inr trivial
    · exact .inl (List.mem_singleton_self _)

lemma step_sound {mode : Mode} (h : mode.Sound) (c : Char) :
    .fault ∈ (step mode c).1 ∨ Sound (step mode c).2 := by
  have houtside (ho : Outside mode) : .fault ∈ (step mode c).1 ∨ Sound (step mode c).2 := by
    by_cases hquote : c = '"'
    · subst hquote
      refine (step_outside_quote ho).imp_right fun htext => ?_
      rw [htext]
      trivial
    · exact (step_outside ho hquote).imp_right Mode.Outside.sound
  cases mode with
  | between => exact houtside .between
  | word missing value => exact houtside (.word h)
  | number seen => exact houtside (.number seen)
  | stuck => exact h.elim
  | text seen =>
    rw [step]
    split
    · exact .inr trivial
    · split
      · exact .inr trivial
      · split
        · exact .inl (List.mem_singleton_self _)
        · exact .inr trivial
  | escape seen =>
    rw [step]
    split
    · exact .inr trivial
    · split
      · exact .inr trivial
      · exact .inl (List.mem_singleton_self _)
  | unicode seen high missing code =>
    rw [step]
    split
    · exact .inl (List.mem_singleton_self _)
    · split
      · exact .inr (sound_afterUnicode _ _ _)
      · exact .inr trivial
  | surrogate seen high =>
    rw [step]
    split
    · exact .inr trivial
    · exact sound_stepDamaged c
  | surrogateEscape seen high =>
    rw [step]
    split
    · exact .inr trivial
    · exact sound_stepDamagedEscape c
  | damaged => exact sound_stepDamaged c
  | damagedEscape => exact sound_stepDamagedEscape c
  | damagedUnicode missing =>
    rw [step]
    split
    · exact .inl (List.mem_singleton_self _)
    · split <;> exact .inr trivial

lemma scan_sound {mode : Mode} (h : mode.Sound) (cs : List Char) :
    .fault ∈ (scan mode cs).1 ∨ Sound (scan mode cs).2 := by
  induction cs generalizing mode with
  | nil => exact .inr h
  | cons c rest ih =>
    rw [scan, List.mem_append]
    rcases step_sound h c with hfault | hsound
    · exact .inl (.inl hfault)
    · exact (ih hsound).imp_left .inr

lemma scan_between_sound (cs : List Char) :
    .fault ∈ (scan .between cs).1 ∨ Sound (scan .between cs).2 :=
  scan_sound Mode.Outside.between.sound cs

lemma step_open {mode : Mode} (h : mode.Sound) : .fault ∈ (step mode '[').1 ∨ mode = .between ∨
    (∃ seen, mode = .number seen) ∨ Inside mode := by
  cases mode with
  | between => exact .inr (.inl rfl)
  | word missing value =>
    exact .inl ((step_word h '[').resolve_right fun h => absurd h.1 (by decide))
  | number seen => exact .inr (.inr (.inl ⟨seen, rfl⟩))
  | text seen => exact .inr (.inr (.inr (.text seen)))
  | surrogate seen high => exact .inr (.inr (.inr (.surrogate seen high)))
  | damaged => exact .inr (.inr (.inr .damaged))
  | stuck => exact h.elim
  | escape | unicode | surrogateEscape | damagedEscape | damagedUnicode =>
    exact .inl (List.mem_singleton_self _)

lemma step_close {mode : Mode} (h : mode.Sound) : .fault ∈ tokens mode [']'] ∨
    ∃ ts, step mode ']' = (ts ++ [.closeArray], .between) := by
  cases mode with
  | between => exact .inr ⟨[], rfl⟩
  | word missing value =>
    refine .inl (List.mem_append_left _ (List.mem_append_left _ ?_))
    exact (step_word h ']').resolve_right fun h => absurd h.1 (by decide)
  | number seen => exact .inr ⟨[numberToken seen.reverse], rfl⟩
  | stuck => exact h.elim
  | text | escape | unicode | surrogate | surrogateEscape | damaged | damagedEscape
    | damagedUnicode => exact .inl (List.mem_singleton_self _)

/-! ### Values among other characters -/

namespace Machine

variable {m m' : Machine} {t : Token} {ts : List Token} {j : Json}

lemma not_mem_fault (h : m.run ts = some m') : .fault ∉ ts := by
  intro hfault
  rw [run_of_fault hfault] at h
  cases h

lemma begun_of_run_initial (h : initial.run (t :: ts) = some m) : m.Begun := by
  rw [run_cons] at h
  obtain ⟨first, hfirst, h⟩ := Option.bind_eq_some_iff.mp h
  refine Begun.run ?_ h
  cases moves_of_next? hfirst with
  | value j => exact begun_emit _ j
  | into => exact ⟨nofun, fun _ => rfl⟩
  | outOf _ inside => cases inside
  | along _ _ inside => cases inside
  | past named => cases named

lemma whole_of_run (h : initial.run ts = some m) (hresult : m.result = some j) :
    m.Begun ∧ m.frames = [] := by
  cases ts with
  | nil =>
    cases h
    cases hresult
  | cons t ts =>
    have hbegun := begun_of_run_initial h
    refine ⟨hbegun, ?_⟩
    by_contra hframes
    rw [hbegun.unfinished hframes] at hresult
    cases hresult

lemma allowsValue_emit (m : Machine) (j : Json) : (m.emit j).expect.allowsValue = false := by
  unfold emit
  split <;> rfl

lemma run_number_open (m : Machine) (seen : List Char) (ts : List Token) :
    m.run (numberToken seen :: .openArray :: ts) = none := by
  rw [run_cons, Option.bind_eq_none_iff]
  intro after hafter
  have hopen : after.next? .openArray = none := by
    unfold numberToken at hafter
    dsimp only at hafter
    split at hafter
    · simp only [next?, Option.ite_none_right_eq_some, Option.some.injEq] at hafter
      obtain ⟨-, rfl⟩ := hafter
      simp [next?, allowsValue_emit]
    · cases hafter
  rw [run_cons, hopen]
  rfl

lemma run_begun_unfinished {whole : Machine} (hwhole : initial.run (t :: ts) = some whole)
    (hresult : whole.result = some j) (hm : m.Begun) (h : m.run (t :: ts) = some m') :
    m'.result = none := by
  have hm' := hm.run h
  refine hm'.unfinished fun hframes' => ?_
  have hlevel := length_frames_run hwhole
  have hlevel' := length_frames_run h
  rw [(whole_of_run hwhole hresult).2] at hlevel
  rw [hframes'] at hlevel'
  have hframes : m.frames = [] := by
    have hinitial : initial.frames.length = 0 := rfl
    have hnone : ([] : List Frame).length = 0 := rfl
    apply List.eq_nil_of_length_eq_zero
    omega
  rw [run_cons, hm.next?_eq_none hframes] at h
  cases h

end Machine

open Machine

/-- An array is not read if there is an opening bracket in front of it, whatever stands
between. -/
theorem parse_behind_open {front array : List Char} {j : Json} (hfront : front.head? = some '[')
    (harray : array.head? = some '[') (h : parse (String.ofList array) = .ok j) (j' : Json) :
    parse (String.ofList (front ++ array)) ≠ .ok j' := by
  obtain ⟨front, rfl⟩ := List.head?_eq_some_iff.mp hfront
  obtain ⟨array, rfl⟩ := List.head?_eq_some_iff.mp harray
  obtain ⟨whole, hwhole, hresult⟩ := (parse_eq_ok_iff _ _).mp h
  intro hboth
  obtain ⟨after, hafter, hresult'⟩ := (parse_eq_ok_iff _ _).mp hboth
  rw [tokens_append, run_append] at hafter
  obtain ⟨m, hm, hafter⟩ := Option.bind_eq_some_iff.mp hafter
  have hsound := (scan_between_sound ('[' :: front)).resolve_left
    (not_mem_fault hm)
  rcases step_open hsound with hfault | hmode | ⟨seen, hmode⟩ | hinside
  · rw [tokens_cons] at hafter
    exact not_mem_fault hafter (List.mem_append_left _ hfault)
  · rw [hmode] at hafter
    rw [run_begun_unfinished hwhole hresult (begun_of_run_initial hm) hafter] at hresult'
    cases hresult'
  · rw [hmode] at hafter
    have hnone := run_number_open m seen.reverse (tokens .between array)
    rw [show tokens (.number seen) ('[' :: array) =
      numberToken seen.reverse :: .openArray :: tokens .between array from rfl, hnone] at hafter
    cases hafter
  · rcases fault_outside_or_inside .between hinside ('[' :: array) with hfault | hfault
    · exact not_mem_fault hwhole hfault
    · exact not_mem_fault hafter hfault

lemma tokens_close_ne_nil (cs : List Char) : tokens .between (cs ++ [']']) ≠ [] := by
  rw [tokens_append]
  rcases scan_between_sound cs with hfault | hsound
  · exact List.append_ne_nil_of_left_ne_nil (List.ne_nil_of_mem hfault) _
  · refine List.append_ne_nil_of_right_ne_nil _ ?_
    rcases step_close hsound with hfault | ⟨ts, hclose⟩
    · exact List.ne_nil_of_mem hfault
    · rw [tokens_cons, hclose]
      simp

/-- An array is not read if there is a closing bracket behind it, whatever stands between. -/
theorem parse_before_close {array behind : List Char} {j : Json}
    (harray : array.getLast? = some ']') (hbehind : behind.getLast? = some ']')
    (h : parse (String.ofList array) = .ok j) (j' : Json) :
    parse (String.ofList (array ++ behind)) ≠ .ok j' := by
  obtain ⟨array, rfl⟩ := List.getLast?_eq_some_iff.mp harray
  obtain ⟨behind, rfl⟩ := List.getLast?_eq_some_iff.mp hbehind
  obtain ⟨whole, hwhole, hresult⟩ := (parse_eq_ok_iff _ _).mp h
  obtain ⟨hbegun, hframes⟩ := whole_of_run hwhole hresult
  intro hboth
  obtain ⟨after, hafter, -⟩ := (parse_eq_ok_iff _ _).mp hboth
  rw [tokens_append] at hwhole
  have hnofault := not_mem_fault hwhole
  rw [List.mem_append, not_or] at hnofault
  have hsound := (scan_between_sound array).resolve_left hnofault.1
  obtain ⟨ts, hclose⟩ := (step_close hsound).resolve_left hnofault.2
  have hends : tokens (scan .between array).2 [']'] = ts ++ [.closeArray] := by
    rw [tokens_cons, hclose, tokens_nil]
    exact List.append_nil _
  have hgoes : tokens (scan .between array).2 (']' :: (behind ++ [']'])) =
      ts ++ [.closeArray] ++ tokens .between (behind ++ [']']) := by
    rw [tokens_cons, hclose]
  rw [hends] at hwhole
  rw [List.append_assoc, List.singleton_append, tokens_append, hgoes, ← List.append_assoc,
    run_append, hwhole, Option.bind_some] at hafter
  obtain ⟨t, us, htokens⟩ := List.exists_cons_of_ne_nil (tokens_close_ne_nil behind)
  rw [htokens, run_cons, hbegun.next?_eq_none hframes] at hafter
  cases hafter

end ChainConformance.Json
