import ChainConformance.Group
import ChainConformance.State.Mismatch

/-!
# JSON forms

The types that are read from JSON and those that are written as JSON, each by its one form.
-/

namespace ChainConformance

/-- Types with a JSON form that is read. -/
class Json.Readable (α : Type) where
  read : Json → Json.Read α

/-- Types with a JSON form that is written. -/
class Json.Writable (α : Type) where
  toJson : α → Json

namespace Json

instance : Readable Json := ⟨readAny 1⟩
instance : Readable String := ⟨readText⟩
instance : Readable Bool := ⟨readBool⟩
instance : Readable Nat := ⟨readNatural⟩
instance : Readable UInt8 := ⟨readByte⟩
instance : Readable UInt64 := ⟨fun j => (readNatural j).map UInt64.ofNat⟩
instance : Readable Int := ⟨readIntegerIn .signed64⟩
instance : Readable Word := ⟨readWord⟩
instance {n : Nat} : Readable (FixedBytes n) := ⟨readFixed⟩
instance : Readable Bytes := ⟨readBytes⟩
instance : Readable Fork := ⟨Fork.ofJson⟩
instance : Readable ExceptionSet := ⟨ExceptionSet.ofJson⟩
instance : Readable Header := ⟨Header.ofJson⟩
instance : Readable Account := ⟨Account.ofJson⟩
instance : Readable Alloc := ⟨Alloc.ofJson⟩
instance : Readable AllocDiff := ⟨AllocDiff.ofJson⟩
instance : Readable ChainHead := ⟨ChainHead.ofJson⟩
instance : Readable Environment := ⟨Environment.ofJson⟩
instance : Readable PayloadEntry := ⟨PayloadEntry.ofJson⟩
instance : Readable Fixture := ⟨Fixture.ofJson⟩
instance : Readable Group := ⟨Group.ofJson⟩
instance {α : Type} [Readable α] : Readable (Option α) := ⟨readOption Readable.read⟩
instance (priority := low) {α : Type} [Readable α] : Readable (List α) :=
  ⟨readList Readable.read⟩

instance : Writable Json := ⟨fun j => j⟩
instance : Writable String := ⟨.text⟩
instance : Writable Bool := ⟨.bool⟩
instance : Writable Nat := ⟨fun n => .integer n⟩
instance : Writable Int := ⟨.integer⟩
instance : Writable UInt8 := ⟨fun n => .integer n.toNat⟩
instance : Writable UInt64 := ⟨fun n => .integer n.toNat⟩
instance : Writable Word := ⟨ofWord⟩
instance {n : Nat} : Writable (FixedBytes n) := ⟨ofFixed⟩
instance : Writable Bytes := ⟨ofBytes⟩
instance : Writable Fork := ⟨fun f => .text f.name⟩
instance : Writable ExceptionTag := ⟨fun t => .text t.display⟩
instance : Writable ExceptionSet := ⟨fun s => .text s.display⟩
instance : Writable Mismatch := ⟨fun m => .text m.display⟩
instance : Writable Header := ⟨Header.toJson⟩
instance : Writable Withdrawal := ⟨Withdrawal.toJson⟩
instance : Writable Account := ⟨Account.toJson⟩
instance : Writable Alloc := ⟨Alloc.toJson⟩
instance : Writable AllocDiff := ⟨AllocDiff.toJson⟩
instance : Writable ChainHead := ⟨ChainHead.toJson⟩
instance : Writable Environment := ⟨Environment.toJson⟩
instance {α : Type} [Writable α] : Writable (Option α) := ⟨ofOption Writable.toJson⟩
instance (priority := low) {α : Type} [Writable α] : Writable (List α) :=
  ⟨ofList Writable.toJson⟩

end Json

end ChainConformance
