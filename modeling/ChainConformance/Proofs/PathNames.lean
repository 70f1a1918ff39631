import ChainConformance.Path
import Mathlib.Data.List.TakeWhile
import Mathlib.Tactic.Common

/-!
# Names in paths

The last name of a path that is put together, and what is left of a name without its last
extension.
-/

namespace ChainConformance.Path

lemma splitSlashes_cons (c : Char) (rest : List Char) : ∃ piece pieces,
    splitSlashes rest = piece :: pieces ∧ splitSlashes (c :: rest) =
      if c = '/' then [] :: piece :: pieces else (c :: piece) :: pieces := by
  induction rest generalizing c with
  | nil => exact ⟨[], [], rfl, rfl⟩
  | cons c' rest ih =>
    obtain ⟨piece, pieces, -, hsplit⟩ := ih c'
    rw [splitSlashes.eq_def (c :: c' :: rest)]
    dsimp only
    rw [hsplit]
    split
    · exact ⟨[], piece :: pieces, rfl, rfl⟩
    · exact ⟨c' :: piece, pieces, rfl, rfl⟩

lemma splitSlashes_of_notMem {cs : List Char} (h : '/' ∉ cs) : splitSlashes cs = [cs] := by
  induction cs with
  | nil => rfl
  | cons c rest ih =>
    rw [List.mem_cons, not_or] at h
    rw [splitSlashes, ih h.2]
    exact if_neg (Ne.symm h.1)

lemma splitSlashes_append (before after : List Char) :
    splitSlashes (before ++ '/' :: after) = splitSlashes before ++ splitSlashes after := by
  induction before with
  | nil =>
    obtain ⟨piece, pieces, hafter, hsplit⟩ := splitSlashes_cons '/' after
    rw [List.nil_append, hsplit, hafter]
    rfl
  | cons c rest ih =>
    obtain ⟨piece, pieces, hrest, hsplit⟩ := splitSlashes_cons c rest
    obtain ⟨piece', pieces', hrest', hsplit'⟩ := splitSlashes_cons c (rest ++ '/' :: after)
    rw [ih, hrest, List.cons_append, List.cons.injEq] at hrest'
    obtain ⟨rfl, rfl⟩ := hrest'
    rw [List.cons_append, hsplit', hsplit]
    split <;> rfl

lemma lastName?_steps {cs name : List Char} {before : List (List Char)}
    (hsplit : splitSlashes cs = before ++ [name])
    (hname : stepOf name = some (.name (String.ofList name))) :
    lastName? (steps (String.ofList cs)) = some (String.ofList name) := by
  have hlast (l : List Step) (pieces : List (List Char)) :
      lastName? (l ++ (pieces ++ [name]).filterMap stepOf) = some (String.ofList name) := by
    rw [List.filterMap_append, List.filterMap_cons_some hname, lastName?]
    simp
  -- A name is neither empty nor a dot, so that what stands at the start is in front of it.
  have hfront {piece : List Char} {rest : List (List Char)} (hpiece : stepOf piece = none)
      (h : before ++ [name] = piece :: rest) : ∃ pieces, rest = pieces ++ [name] := by
    cases before with
    | nil =>
      obtain ⟨rfl, -⟩ := List.cons.inj h
      rw [hpiece] at hname
      cases hname
    | cons first pieces => exact ⟨pieces, (List.cons.inj h).2.symm⟩
  rw [steps, String.toList_ofList, hsplit]
  split
  next h => exact absurd h (by simp)
  next h =>
    obtain ⟨pieces, hrest⟩ := hfront rfl h
    exact absurd hrest (by simp)
  next rest _ h =>
    obtain ⟨pieces, rfl⟩ := hfront rfl h
    exact hlast [.root] pieces
  next rest h =>
    obtain ⟨pieces, rfl⟩ := hfront rfl h
    exact hlast [.here] pieces
  next => exact hlast [] before

lemma join_relative (directory : String) {path : String} (h : '/' ∉ path.toList) :
    join directory path = path ∨
      ∃ before, join directory path = String.ofList (before ++ '/' :: path.toList) := by
  have hrelative : "/".isPrefixOf path = false := by
    apply String.startsWith_string_eq_false_iff.mpr
    rintro ⟨rest, hrest⟩
    apply h
    rw [← hrest]
    exact List.mem_cons_self
  rw [join, hrelative, if_neg Bool.false_ne_true]
  by_cases hempty : directory.isEmpty
  · rw [hempty, Bool.true_or, if_pos rfl, String.isEmpty_iff.mp hempty, String.empty_append]
    exact .inl rfl
  · rw [Bool.not_eq_true] at hempty
    rw [hempty, Bool.false_or]
    right
    by_cases hends : directory.endsWith "/"
    · obtain ⟨before, hbefore⟩ := String.Slice.endsWith_string_iff.mp hends
      rw [String.copy_toSlice] at hbefore
      have hchars : (directory ++ path).toList = before ++ '/' :: path.toList := by
        rw [String.toList_append, ← hbefore, List.append_assoc]
        rfl
      refine ⟨before, ?_⟩
      rw [if_pos hends, ← hchars, String.ofList_toList]
    · have hchars : (directory ++ "/" ++ path).toList = directory.toList ++ '/' :: path.toList := by
        rw [String.toList_append, String.toList_append, List.append_assoc]
        rfl
      refine ⟨directory.toList, ?_⟩
      rw [if_neg hends, ← hchars, String.ofList_toList]

lemma lastName?_join (directory : String) {name : List Char} (hslash : '/' ∉ name)
    (hname : stepOf name = some (.name (String.ofList name))) :
    lastName? (steps (join directory (String.ofList name))) = some (String.ofList name) := by
  have hsplit : splitSlashes name = [] ++ [name] := splitSlashes_of_notMem hslash
  have hrelative : '/' ∉ (String.ofList name).toList := by rwa [String.toList_ofList]
  rcases join_relative directory hrelative with h | ⟨before, h⟩
  · rw [h]
    exact lastName?_steps hsplit hname
  · have hsplit' : splitSlashes (before ++ '/' :: name) = splitSlashes before ++ [name] := by
      rw [splitSlashes_append, hsplit, List.nil_append]
    rw [h, String.toList_ofList]
    exact lastName?_steps hsplit' hname

lemma splitExtension_append {stem extension : List Char} (hstem : stem ≠ [])
    (hextension : '.' ∉ extension) :
    splitExtension (String.ofList (stem ++ '.' :: extension)) =
      (String.ofList stem, some (String.ofList extension)) := by
  have hpoint : ∀ c ∈ extension.reverse, decide (c ≠ '.') = true := by
    intro c hc
    apply decide_eq_true
    rintro rfl
    exact hextension (List.mem_reverse.mp hc)
  obtain ⟨c, cs, hreverse⟩ := List.exists_cons_of_ne_nil (List.reverse_ne_nil_iff.mpr hstem)
  have hreversed : (stem ++ '.' :: extension).reverse =
      extension.reverse ++ '.' :: stem.reverse := by simp
  have htake : (extension.reverse ++ '.' :: stem.reverse).takeWhile (· ≠ '.') =
      extension.reverse := by
    rw [List.takeWhile_append_of_pos hpoint]
    simp
  have hdrop : (extension.reverse ++ '.' :: stem.reverse).dropWhile (· ≠ '.') =
      '.' :: stem.reverse := by
    rw [List.dropWhile_append_of_pos hpoint]
    simp
  have hback : (c :: cs).reverse = stem := by rw [← hreverse, List.reverse_reverse]
  simp only [splitExtension, String.toList_ofList, hreversed, htake, hdrop]
  rw [hreverse]
  dsimp only
  rw [hback, List.reverse_reverse]

lemma splitExtension_whole {name : String} (h : '.' ∉ name.toList.tail) :
    splitExtension name = (name, none) := by
  cases hname : name.toList with
  | nil => simp [splitExtension, hname]
  | cons c rest =>
    have hpoint : ∀ x ∈ rest.reverse, decide (x ≠ '.') = true := by
      intro x hx
      apply decide_eq_true
      rintro rfl
      rw [hname] at h
      exact h (List.mem_reverse.mp hx)
    have hdrop : (rest.reverse ++ [c]).dropWhile (· ≠ '.') = [c].dropWhile (· ≠ '.') :=
      List.dropWhile_append_of_pos hpoint
    simp only [splitExtension, hname, List.reverse_cons, hdrop]
    by_cases hc : c = '.' <;> simp [hc]

/-- What is left of a name without its last extension: what stands before its last point, or
the whole name if there is no point but at its start. -/
inductive IsStem (name stem : String) : Prop
  | cut (extension : List Char) (split : name.toList = stem.toList ++ '.' :: extension)
      (nonempty : stem.toList ≠ []) (last : '.' ∉ extension)
  | whole (plain : '.' ∉ name.toList.tail) (same : stem = name)

lemma IsStem.eq {name stem : String} (h : IsStem name stem) : (splitExtension name).1 = stem := by
  cases h with
  | cut extension split nonempty last =>
    rw [← String.ofList_toList (s := name), split, splitExtension_append nonempty last,
      String.ofList_toList]
  | whole plain same => rw [splitExtension_whole plain, same]

lemma isStem_splitExtension (name : String) : IsStem name (splitExtension name).1 := by
  by_cases hplain : '.' ∈ name.toList.tail
  · obtain ⟨c, rest, hname⟩ : ∃ c rest, name.toList = c :: rest := by
      apply List.exists_cons_of_ne_nil
      intro hempty
      rw [hempty] at hplain
      cases hplain
    rw [hname, List.tail_cons, ← List.mem_reverse] at hplain
    obtain ⟨after, before, hrest, hlast⟩ := List.eq_append_cons_of_mem hplain
    have hextension : '.' ∉ after.reverse := mt List.mem_reverse.mp hlast
    have hsplit : name.toList = (c :: before.reverse) ++ '.' :: after.reverse := by
      rw [hname, ← List.reverse_reverse rest, hrest]
      simp
    have hstem := splitExtension_append (List.cons_ne_nil c before.reverse) hextension
    rw [← hsplit, String.ofList_toList] at hstem
    rw [hstem]
    refine .cut after.reverse ?_ ?_ hextension
    · rw [String.toList_ofList, hsplit]
    · rw [String.toList_ofList]
      exact List.cons_ne_nil _ _
  · rw [splitExtension_whole hplain]
    exact .whole hplain rfl

lemma isStem_self_iff {name : String} : IsStem name name ↔ '.' ∉ name.toList.tail := by
  refine ⟨fun h => ?_, fun h => .whole h rfl⟩
  cases h with
  | cut extension split => simp at split
  | whole plain => exact plain

end ChainConformance.Path
