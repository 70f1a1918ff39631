import ChainConformance.Proofs.InlineGroups
import ChainConformance.Proofs.KeccakNumber
import ChainConformance.Proofs.RecordForms

/-!
# Keys of groups

A key tells the network, the environment and the state without its zero slots, unless there is
a collision of digests: the text that is digested can be read back.
-/

namespace ChainConformance

open Json

lemma toList_eq_data (bs : ByteArray) : bs.toList = bs.data.toList := by
  rw [ByteArray.toList, loop_toList]
  rfl

lemma bytesOfText_inj {s t : String} (h : bytesOfText s = bytesOfText t) : s = t := by
  rw [bytesOfText, bytesOfText, toList_eq_data, toList_eq_data] at h
  exact String.toByteArray_inj.mp (ByteArray.ext (Array.toList_inj.mp h))

@[simp] lemma Fork.ofJson_name (f : Fork) : ofJson (.text f.name) = .ok f := by
  cases f <;> rfl

/-- The text whose digest is the key of a group. -/
def groupText (network : Fork) (environment : Environment) (pre : Alloc) : Bytes :=
  bytesOfText (groupDocument network environment pre).toCompact

lemma groupText_eq (network : Fork) (environment : Environment) (pre : Alloc) :
    groupText network environment pre =
      (print (groupDocument network environment pre)).flatMap String.utf8EncodeChar :=
  toList_toUTF8 _

/-- Two texts that differ have one digest. -/
def Keccak.Collide (a b : Bytes) : Prop := a ≠ b ∧ keccak256 a = keccak256 b

variable {network network' : Fork} {environment environment' : Environment} {pre pre' : Alloc}

lemma reread_groupDocument :
    (groupDocument network environment pre).reread = groupDocument network environment pre := by
  apply reread_object
  simp only [List.forall_mem_cons]
  exact ⟨rfl, environment.reread_toJson, Alloc.reread_toJson _, List.forall_mem_nil _⟩

lemma groupDocument_inj
    (h : groupDocument network environment pre = groupDocument network' environment' pre') :
    network = network' ∧ environment = environment' ∧ pre.normalized = pre'.normalized := by
  simp only [groupDocument, Json.object.injEq, List.cons.injEq, Prod.mk.injEq, true_and,
    and_true] at h
  obtain ⟨hnetwork, henvironment, hpre⟩ := h
  have hfork : Function.Injective fun f : Fork => Json.text f.name :=
    form_injective Fork.ofJson_name
  exact ⟨hfork hnetwork, form_injective Environment.ofJson_toJson henvironment,
    form_injective Alloc.ofJson_toJson hpre⟩

lemma groupText_inj
    (h : groupText network environment pre = groupText network' environment' pre') :
    network = network' ∧ environment = environment' ∧ pre.normalized = pre'.normalized :=
  groupDocument_inj (toCompact_inj reread_groupDocument reread_groupDocument (bytesOfText_inj h))

/-- Keys are the same if and only if the networks, the environments and the states without
their zero slots are, unless the texts collide. -/
theorem groupKey_eq_iff (hfree : ¬Keccak.Collide (groupText network environment pre)
      (groupText network' environment' pre')) :
    groupKey network environment pre = groupKey network' environment' pre' ↔
      network = network' ∧ environment = environment' ∧ pre.normalized = pre'.normalized := by
  constructor
  · intro hkey
    apply groupText_inj
    by_contra hdiffers
    exact hfree ⟨hdiffers, hkey⟩
  · rintro ⟨rfl, rfl, hpre⟩
    exact groupKey_congr network environment hpre

def zeroEnvironment : Environment := ⟨.zero, 0, 0, 0, 0, none, none, none, none, none, []⟩

def slotted (slots : List (Word × Word)) : Alloc :=
  OrderedMap.empty.insert (.replicate 0xaa)
    { (default : Account) with balance := 10, storage := .ofList slots }

theorem groupKey_eq_iff_padded :
    ¬Keccak.Collide (groupText .cancun zeroEnvironment (slotted [(1, 1)]))
      (groupText .cancun zeroEnvironment (slotted [(1, 1), (2, 0)])) ∧
    ¬Keccak.Collide (groupText .cancun zeroEnvironment (slotted [(1, 1)]))
      (groupText .prague zeroEnvironment (slotted [(1, 1), (2, 0)])) ∧
    groupKey .cancun zeroEnvironment (slotted [(1, 1)]) =
      groupKey .cancun zeroEnvironment (slotted [(1, 1), (2, 0)]) ∧
    groupKey .cancun zeroEnvironment (slotted [(1, 1)]) ≠
      groupKey .prague zeroEnvironment (slotted [(1, 1), (2, 0)]) := by
  have hpadded : (slotted [(1, 1)]).normalized = (slotted [(1, 1), (2, 0)]).normalized := by
    decide
  have hsame : ¬Keccak.Collide (groupText .cancun zeroEnvironment (slotted [(1, 1)]))
      (groupText .cancun zeroEnvironment (slotted [(1, 1), (2, 0)])) := by
    rintro ⟨hdiffers, -⟩
    apply hdiffers
    simp only [groupText, groupDocument, hpadded]
  have hother : ¬Keccak.Collide (groupText .cancun zeroEnvironment (slotted [(1, 1)]))
      (groupText .prague zeroEnvironment (slotted [(1, 1), (2, 0)])) := by
    rintro ⟨-, hdigest⟩
    rw [FixedBytes.ext_iff, Keccak.keccak256_bytes, Keccak.keccak256_bytes, groupText_eq,
      groupText_eq] at hdigest
    revert hdigest
    decide +kernel
  refine ⟨hsame, hother, (groupKey_eq_iff hsame).mpr ⟨rfl, rfl, hpadded⟩, fun hkey => ?_⟩
  cases ((groupKey_eq_iff hother).mp hkey).1

end ChainConformance
