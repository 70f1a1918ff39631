import ChainConformance.Proofs.RecordForms
import ChainConformance.Sample.Fixtures

/-!
# Parameters of payload calls

The version that a payload states must be the lowest one that the fork asks for and that has
room for the fields that are there. A call of this version then has all of these fields among
its parameters, from which they are read back. So the parameters tell the payloads apart that
pass the check, and the fields beside them.
-/

namespace ChainConformance

open Json FieldReader

lemma Withdrawal.ofJson_toJson (w : Withdrawal) : ofJson w.toJson = .ok w := by
  let fields := [("index", ofUInt64 w.index), ("validatorIndex", ofUInt64 w.validatorIndex),
    ("address", ofFixed w.address), ("amount", ofUInt64 w.amount)]
  have hnames : (fields.map (·.1)).Nodup := by
    change ["index", "validatorIndex", "address", "amount"].Nodup
    decide
  have hnumber (name : String) (n : UInt64) (h : (name, ofUInt64 n) ∈ fields) :
      (required name readUInt64).Gives fields n :=
    gives_required hnames h (readUInt64_ofUInt64 n)
  have haddress : (required "address" readFixed).Gives fields w.address :=
    gives_required hnames (by simp [fields]) (readFixed_ofFixed _)
  exact ((hnumber "index" _ (by simp [fields])).map mk
    |>.seq (hnumber "validatorIndex" _ (by simp [fields]))
    |>.seq haddress
    |>.seq (hnumber "amount" _ (by simp [fields]))).readRecord

namespace ExecutionPayload

def entries (p : ExecutionPayload) : List (String × Option Json) := [
  ("parentHash", some (ofFixed p.parentHash)),
  ("feeRecipient", some (ofFixed p.feeRecipient)),
  ("stateRoot", some (ofFixed p.stateRoot)),
  ("receiptsRoot", some (ofFixed p.receiptsRoot)),
  ("logsBloom", some (ofFixed p.logsBloom)),
  ("prevRandao", some (ofFixed p.prevRandao)),
  ("blockNumber", some (ofUInt64 p.number)),
  ("gasLimit", some (ofUInt64 p.gasLimit)),
  ("gasUsed", some (ofUInt64 p.gasUsed)),
  ("timestamp", some (ofUInt64 p.timestamp)),
  ("extraData", some (ofBytes p.extraData)),
  ("baseFeePerGas", some (ofWord p.baseFee)),
  ("blockHash", some (ofFixed p.blockHash)),
  ("transactions", some (ofList ofBytes p.transactions)),
  ("withdrawals", p.withdrawals.map (ofList Withdrawal.toJson)),
  ("blobGasUsed", p.blobGasUsed.map ofUInt64),
  ("excessBlobGas", p.excessBlobGas.map ofUInt64)]

lemma names_entries (p : ExecutionPayload) : (p.entries.map (·.1)).Nodup := by
  change ["parentHash", "feeRecipient", "stateRoot", "receiptsRoot", "logsBloom", "prevRandao",
    "blockNumber", "gasLimit", "gasUsed", "timestamp", "extraData", "baseFeePerGas", "blockHash",
    "transactions", "withdrawals", "blobGasUsed", "excessBlobGas"].Nodup
  decide

lemma ofJson_toJson (p : ExecutionPayload) : ofJson p.toJson = .ok p := by
  have hfixed {n : Nat} (name : String) (a : FixedBytes n)
      (h : (name, some (ofFixed a)) ∈ p.entries) :
      (required name readFixed).Gives (present p.entries) a :=
    gives_fixed p.names_entries h
  have hnumber (name : String) (n : UInt64) (h : (name, some (ofUInt64 n)) ∈ p.entries) :
      (required name readUInt64).Gives (present p.entries) n :=
    gives_present p.names_entries h (readUInt64_ofUInt64 n)
  have hoptionalNumber (name : String) (n : Option UInt64)
      (h : (name, n.map ofUInt64) ∈ p.entries) :
      (optional name readUInt64).Gives (present p.entries) n :=
    gives_optional p.names_entries h fun n => congrArg (Except.map some) (readUInt64_ofUInt64 n)
  have hextraData : (required "extraData" readBytes).Gives (present p.entries) p.extraData :=
    gives_present p.names_entries (by simp [entries]) (readBytes_ofBytes _)
  have hbaseFee : (required "baseFeePerGas" readWord).Gives (present p.entries) p.baseFee :=
    gives_word p.names_entries (by simp [entries])
  have htransactions : (required "transactions" (readList readBytes)).Gives (present p.entries)
      p.transactions :=
    gives_present p.names_entries (by simp [entries]) (readList_ofList readBytes_ofBytes _)
  have hwithdrawals : (optional "withdrawals" (readList Withdrawal.ofJson)).Gives
      (present p.entries) p.withdrawals := by
    have hmem : ("withdrawals", p.withdrawals.map (ofList Withdrawal.toJson)) ∈ p.entries := by
      simp [entries]
    exact gives_optional p.names_entries hmem fun ws =>
      congrArg (Except.map some) (readList_ofList Withdrawal.ofJson_toJson ws)
  exact ((hfixed "parentHash" _ (by simp [entries])).map mk
    |>.seq (hfixed "feeRecipient" _ (by simp [entries]))
    |>.seq (hfixed "stateRoot" _ (by simp [entries]))
    |>.seq (hfixed "receiptsRoot" _ (by simp [entries]))
    |>.seq (hfixed "logsBloom" _ (by simp [entries]))
    |>.seq (hfixed "prevRandao" _ (by simp [entries]))
    |>.seq (hnumber "blockNumber" _ (by simp [entries]))
    |>.seq (hnumber "gasLimit" _ (by simp [entries]))
    |>.seq (hnumber "gasUsed" _ (by simp [entries]))
    |>.seq (hnumber "timestamp" _ (by simp [entries]))
    |>.seq hextraData
    |>.seq hbaseFee
    |>.seq (hfixed "blockHash" _ (by simp [entries]))
    |>.seq htransactions
    |>.seq hwithdrawals
    |>.seq (hoptionalNumber "blobGasUsed" _ (by simp [entries]))
    |>.seq (hoptionalNumber "excessBlobGas" _ (by simp [entries]))).readRecord

end ExecutionPayload

namespace PayloadEntry

variable {e e' : PayloadEntry} {network network' : Fork}

lemma toNat_max (a b : UInt8) : (max a b).toNat = max a.toNat b.toNat := by
  have hmax : max a b = if a ≤ b then b else a := rfl
  rw [hmax, Nat.max_def]
  simp only [UInt8.le_iff_toNat_le]
  split <;> rfl

lemma isPostMerge_of_payloadVersion? {f : Fork} {required : UInt8}
    (h : f.payloadVersion? = some required) : f.isPostMerge = true := by
  by_contra hmerge
  rw [Fork.payloadVersion?, if_pos (by simpa using hmerge)] at h
  cases h

lemma checkVersion_eq_ok_iff (h : e.errorCode = none) :
    e.checkVersion network = .ok () ↔ ∃ required,
      (e.fork network).payloadVersion? = some required ∧
        e.version = max required e.fieldsVersion := by
  rw [checkVersion, h]
  cases (e.fork network).payloadVersion? with
  | none => simp
  | some required =>
    have hbounds : e.version = max required e.fieldsVersion ↔ ¬e.version < required ∧
        ¬e.version < e.fieldsVersion ∧ ¬max e.fieldsVersion required < e.version := by
      simp only [← UInt8.toNat_inj, UInt8.lt_iff_toNat_lt, toNat_max]
      omega
    simp only [Option.some.injEq, exists_eq_left', hbounds]
    grind

lemma fieldsVersion_le (h : e.errorCode = none) (hok : e.checkVersion network = .ok ()) :
    e.fieldsVersion ≤ e.version := by
  obtain ⟨required, -, hversion⟩ := (checkVersion_eq_ok_iff h).mp hok
  rw [UInt8.le_iff_toNat_le, hversion, toNat_max]
  exact Nat.le_max_right _ _

lemma three_le_fieldsVersion
    (h : e.blobVersionedHashes.isSome = true ∨ e.parentBeaconRoot.isSome = true) :
    3 ≤ e.fieldsVersion := by
  rw [fieldsVersion]
  split
  · decide
  · rw [if_pos (by simp [h])]
    decide

lemma four_le_fieldsVersion (h : e.executionRequests.isSome = true) : 4 ≤ e.fieldsVersion := by
  rw [fieldsVersion, if_pos h]
  decide

def ReadAt {α : Type} (params : List Json) (place : Nat) (f : Json → Read α) (a : α) : Prop :=
  ∃ j, params[place]? = some j ∧ f j = .ok a

/-- Parameters have the payload, and each of the fields beside it that is there. -/
structure CarriedBy (e : PayloadEntry) (params : List Json) : Prop where
  payload : ReadAt params 0 ExecutionPayload.ofJson e.payload
  versionedHashes : ∀ hashes ∈ e.blobVersionedHashes, ReadAt params 1 (readList readFixed) hashes
  beaconRoot : ∀ root ∈ e.parentBeaconRoot, ReadAt params 2 readFixed root
  requests : ∀ requests ∈ e.executionRequests, ReadAt params 3 (readList readBytes) requests

/-- Two entries have the same payload, and the same value of each of the fields beside it that
is there in both. -/
structure Matches (e e' : PayloadEntry) : Prop where
  payload : e.payload = e'.payload
  versionedHashes : ∀ a ∈ e.blobVersionedHashes, ∀ b ∈ e'.blobVersionedHashes, a = b
  beaconRoot : ∀ a ∈ e.parentBeaconRoot, ∀ b ∈ e'.parentBeaconRoot, a = b
  requests : ∀ a ∈ e.executionRequests, ∀ b ∈ e'.executionRequests, a = b

lemma ReadAt.unique {α : Type} {params : List Json} {place : Nat} {f : Json → Read α} {a b : α}
    (ha : ReadAt params place f a) (hb : ReadAt params place f b) : a = b := by
  obtain ⟨j, hj, hread⟩ := ha
  obtain ⟨j', hj', hread'⟩ := hb
  rw [hj] at hj'
  cases hj'
  rw [hread] at hread'
  exact Except.ok.inj hread'

lemma CarriedBy.matches {params : List Json} (h : e.CarriedBy params) (h' : e'.CarriedBy params) :
    e.Matches e' where
  payload := h.payload.unique h'.payload
  versionedHashes a ha b hb := (h.versionedHashes a ha).unique (h'.versionedHashes b hb)
  beaconRoot a ha b hb := (h.beaconRoot a ha).unique (h'.beaconRoot b hb)
  requests a ha b hb := (h.requests a ha).unique (h'.requests b hb)

lemma carriedBy_params (h : e.fieldsVersion ≤ e.version) : e.CarriedBy e.params where
  payload := ⟨e.payload.toJson, rfl, e.payload.ofJson_toJson⟩
  versionedHashes hashes hhashes := by
    have hthree : 3 ≤ e.version :=
      UInt8.le_trans (three_le_fieldsVersion (.inl (Option.isSome_of_mem hhashes))) h
    refine ⟨ofList ofFixed hashes, ?_, readList_ofList readFixed_ofFixed hashes⟩
    simp [params, hthree, Option.mem_def.mp hhashes]
  beaconRoot root hroot := by
    have hthree : 3 ≤ e.version :=
      UInt8.le_trans (three_le_fieldsVersion (.inr (Option.isSome_of_mem hroot))) h
    refine ⟨ofFixed root, ?_, readFixed_ofFixed root⟩
    simp [params, hthree, Option.mem_def.mp hroot]
  requests requests hrequests := by
    have hfour : 4 ≤ e.version :=
      UInt8.le_trans (four_le_fieldsVersion (Option.isSome_of_mem hrequests)) h
    have hthree : 3 ≤ e.version := UInt8.le_trans (by decide) hfour
    refine ⟨ofList ofBytes requests, ?_, readList_ofList readBytes_ofBytes requests⟩
    simp [params, hthree, hfour, Option.mem_def.mp hrequests]

/-- An entry that expects no error code passes the check if and only if its fork has an engine
interface and its version is the greater one of the fork's and that of its fields. Its payload
and the fields beside it are then read back from the parameters of its call, which therefore
are not those of any other entry that passes and has another payload, or another value in one
of these fields. -/
theorem checkVersion_params (e : PayloadEntry) (network : Fork) (h : e.errorCode = none) :
    (e.checkVersion network = .ok () ↔
      (e.fork network).isPostMerge = true ∧ ∃ required,
        (e.fork network).payloadVersion? = some required ∧
          e.version = max required e.fieldsVersion) ∧
    (e.checkVersion network = .ok () →
      e.CarriedBy e.params ∧
      ∀ (e' : PayloadEntry) (network' : Fork), e'.errorCode = none →
        e'.checkVersion network' = .ok () → e.params = e'.params → e.Matches e') := by
  refine ⟨?_, fun hok => ?_⟩
  · rw [checkVersion_eq_ok_iff h]
    constructor
    · rintro ⟨required, hfork, hversion⟩
      exact ⟨isPostMerge_of_payloadVersion? hfork, required, hfork, hversion⟩
    · exact And.right
  · have hcarried := carriedBy_params (fieldsVersion_le h hok)
    refine ⟨hcarried, fun e' network' h' hok' hparams => ?_⟩
    have hcarried' := carriedBy_params (fieldsVersion_le h' hok')
    rw [← hparams] at hcarried'
    exact hcarried.matches hcarried'

def requestsEntry : PayloadEntry :=
  let e := Sample.payload .zero (.replicate 0x11) 1 none
  { e with
    payload := { e.payload with timestamp := Fork.transitionTimestamp }
    version := 4
    executionRequests := some [[0x00], [0x01]] }

theorem checkVersion_params_prague :
    requestsEntry.errorCode = none ∧
    requestsEntry.checkVersion .cancunToPrague = .ok () ∧
    requestsEntry.CarriedBy requestsEntry.params := by
  have hnone : requestsEntry.errorCode = none := rfl
  obtain ⟨hversion, hcarried⟩ := checkVersion_params requestsEntry .cancunToPrague hnone
  have hok : requestsEntry.checkVersion .cancunToPrague = .ok () :=
    hversion.mpr ⟨by decide, 4, by decide, by decide⟩
  exact ⟨hnone, hok, (hcarried hok).1⟩

end PayloadEntry

end ChainConformance
