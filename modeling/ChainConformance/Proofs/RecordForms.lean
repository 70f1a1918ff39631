import ChainConformance.Group
import ChainConformance.Proofs.CompactText
import ChainConformance.Proofs.OrderedMaps
import ChainConformance.Proofs.ScalarForms
import ChainConformance.Proofs.Steps

/-!
# Records and maps in JSON

A record is read back from the object of its fields, of which those that are optional may be
left out, and a map from the object of its entries. States, environments and groups are read
back in this way, and so are the documents in which they are written.
-/

namespace ChainConformance

namespace Json

section Fields

variable {fields : List (String × Json)} {name : String} {j : Json}

def present (entries : List (String × Option Json)) : List (String × Json) :=
  entries.filterMap fun e => e.2.map fun v => (e.1, v)

lemma mem_present {entries : List (String × Option Json)} :
    (name, j) ∈ present entries ↔ (name, some j) ∈ entries := by
  simp [present, List.mem_filterMap]

lemma names_present (entries : List (String × Option Json)) :
    ((present entries).map (·.1)).Sublist (entries.map (·.1)) := by
  induction entries with
  | nil => exact List.Sublist.slnil
  | cons e rest ih =>
    obtain ⟨name, _ | v⟩ := e
    · exact ih.cons name
    · exact ih.cons_cons name

lemma filter_name_of_mem (hnames : (fields.map (·.1)).Nodup) (hmem : (name, j) ∈ fields) :
    (fields.filter fun e => [name].contains e.1) = [(name, j)] := by
  obtain ⟨before, after, rfl⟩ := List.append_of_mem hmem
  rw [List.map_append, List.map_cons, List.nodup_middle, List.nodup_cons] at hnames
  have hother : ∀ e ∈ before ++ after, [name].contains e.1 = false := by
    intro e he
    have hne : e.1 ≠ name := by
      intro heq
      apply hnames.1
      rw [← List.map_append]
      exact List.mem_map.mpr ⟨e, he, heq⟩
    simpa using hne
  have hnone : ∀ l, l ⊆ before ++ after → (l.filter fun e => [name].contains e.1) = [] := by
    intro l hl
    apply List.filter_eq_nil_iff.mpr
    intro e he
    rw [hother e (hl he)]
    exact Bool.false_ne_true
  rw [List.filter_append, hnone before (List.subset_append_left _ _), List.filter_cons,
    hnone after (List.subset_append_right _ _)]
  simp

end Fields

namespace FieldReader

variable {α β : Type} {fields : List (String × Json)} {name : String} {j : Json}

/-- What a reader makes of the fields of an object. -/
def Gives (r : FieldReader α) (fields : List (String × Json)) (a : α) : Prop :=
  r.ofFields fields = .ok a

lemma Gives.map {r : FieldReader α} {a : α} (h : r.Gives fields a) (f : α → β) :
    (f <$> r).Gives fields (f a) := by
  change (r.ofFields fields).map f = _
  rw [h]
  rfl

lemma Gives.seq {f : FieldReader (α → β)} {g : α → β} (hf : f.Gives fields g)
    {r : FieldReader α} {a : α} (hr : r.Gives fields a) : (f <*> r).Gives fields (g a) := by
  change both (f.ofFields fields) (r.ofFields fields) = _
  rw [hf, hr]
  rfl

lemma Gives.readRecord {r : FieldReader α} {a : α} (h : r.Gives fields a) :
    readRecord r (object fields) = .ok a := by
  change (r.ofFields fields).mapError (·.2) = _
  rw [h]
  rfl

lemma located_values (names : List String) (fields : List (String × Json)) :
    (located names fields).map (·.2) =
      (fields.filter fun e => names.contains e.1).map (·.2) := by
  have hplaces : fields = fields.zipIdx.map (·.1) := by rw [List.zipIdx_map_fst]
  conv_rhs => rw [hplaces]
  rw [located, List.map_map, List.filter_map, List.map_map]
  rfl

lemma gives_named {names : List String} {absent : Option α} {f : Json → Read α} {a : α}
    (h : (fields.filter fun e => names.contains e.1).map (·.2) = [j]) (hread : f j = .ok a) :
    (named names absent f).Gives fields a := by
  rw [← located_values] at h
  obtain ⟨⟨place, j'⟩, hlocated, rfl⟩ := List.map_eq_singleton_iff.mp h
  change single absent f fields.length (located names fields) = _
  simp only [hlocated, single, hread]

lemma gives_named_absent {names : List String} {f : Json → Read α} {a : α}
    (h : (fields.filter fun e => names.contains e.1) = []) :
    (named names (some a) f).Gives fields a := by
  have hlocated : located names fields = [] := by
    rw [← List.map_eq_nil_iff, located_values, h, List.map_nil]
  change single (some a) f fields.length (located names fields) = _
  rw [hlocated]
  rfl

lemma gives_required (hnames : (fields.map (·.1)).Nodup) (hmem : (name, j) ∈ fields)
    {f : Json → Read α} {a : α} (hread : f j = .ok a) : (required name f).Gives fields a := by
  apply gives_named _ hread
  rw [filter_name_of_mem hnames hmem, List.map_singleton]

lemma gives_defaulted (hnames : (fields.map (·.1)).Nodup) (hmem : (name, j) ∈ fields) {d : α}
    {f : Json → Read α} {a : α} (hread : f j = .ok a) :
    (defaulted name d f).Gives fields a := by
  apply gives_named _ hread
  rw [filter_name_of_mem hnames hmem, List.map_singleton]

lemma gives_optional {entries : List (String × Option Json)} {o : Option α} {form : α → Json}
    (hnames : (entries.map (·.1)).Nodup) (hmem : (name, o.map form) ∈ entries)
    {f : Json → Read α} (hread : ∀ a, readOption f (form a) = .ok (some a)) :
    (optional name f).Gives (present entries) o := by
  cases o with
  | none =>
    apply gives_named_absent
    apply List.filter_eq_nil_iff.mpr
    rintro ⟨name', j⟩ he hname
    obtain rfl : name' = name := by simpa using hname
    have heq := List.inj_on_of_nodup_map hnames (mem_present.mp he) hmem rfl
    cases heq
  | some a =>
    apply gives_named _ (hread a)
    rw [filter_name_of_mem (hnames.sublist (names_present entries)) (mem_present.mpr hmem),
      List.map_singleton]

section Scalars

variable {entries : List (String × Option Json)} (hnames : (entries.map (·.1)).Nodup)

include hnames

lemma gives_present {f : Json → Read α} {a : α} (hmem : (name, some j) ∈ entries)
    (hread : f j = .ok a) : (required name f).Gives (present entries) a :=
  gives_required (hnames.sublist (names_present entries)) (mem_present.mpr hmem) hread

lemma gives_word {w : Word} (hmem : (name, some (ofWord w)) ∈ entries) :
    (required name readWord).Gives (present entries) w :=
  gives_present hnames hmem (readWord_ofWord w)

lemma gives_fixed {n : Nat} {a : FixedBytes n} (hmem : (name, some (ofFixed a)) ∈ entries) :
    (required name readFixed).Gives (present entries) a :=
  gives_present hnames hmem (readFixed_ofFixed a)

lemma gives_optionalWord {w : Option Word} (hmem : (name, w.map ofWord) ∈ entries) :
    (optional name readWord).Gives (present entries) w :=
  gives_optional hnames hmem fun w => congrArg (Except.map some) (readWord_ofWord w)

lemma gives_optionalFixed {n : Nat} {a : Option (FixedBytes n)}
    (hmem : (name, a.map ofFixed) ∈ entries) :
    (optional name readFixed).Gives (present entries) a :=
  gives_optional hnames hmem fun a => congrArg (Except.map some) (readFixed_ofFixed a)

end Scalars

end FieldReader

lemma readNatural_integer {n : Nat} (h : n < UInt64.size) : readNatural (integer n) = .ok n := by
  have hsize : UInt64.size = 2 ^ 64 := rfl
  have hholds : Text.IntegerRange.natural64.holds n = true := by
    rw [Text.IntegerRange.holds, Bool.and_eq_true, decide_eq_true_iff, decide_eq_true_iff]
    change -(0 : Int) ≤ n ∧ (n : Int) ≤ (UInt64.size - 1 : Nat)
    omega
  rw [readNatural, readIntegerIn, if_pos hholds]
  rfl

lemma readList_ofList {α : Type} {form : α → Json} {f : Json → Read α}
    (h : ∀ a, f (form a) = .ok a) (l : List α) : readList f (ofList form l) = .ok l := by
  change (l.map form).mapM f = _
  induction l with
  | nil => rfl
  | cons a rest ih =>
    rw [List.map_cons, List.mapM_cons, h, ih]
    rfl

lemma readMap_ofMap {κ ν : Type} [Key κ] {name : κ → String} {key : String → Read κ}
    {form : ν → Json} {value : Json → Read ν} (hkey : ∀ k, key (name k) = .ok k)
    (hvalue : ∀ v, value (form v) = .ok v) (m : OrderedMap κ ν) :
    readMap key value (ofMap name form m) = .ok m := by
  have hfold : ∀ (entries : List (κ × ν)) (m : OrderedMap κ ν),
      (entries.map fun e => (name e.1, form e.2)).foldlM (fun m f => do
        let k ← key f.1
        let v ← value f.2
        return m.insert k v) m = Except.ok (entries.foldl (fun m e => m.insert e.1 e.2) m) := by
    intro entries
    induction entries with
    | nil => intro m; rfl
    | cons e rest ih =>
      intro m
      rw [List.map_cons, List.foldlM_cons, hkey, hvalue]
      exact ih _
  have hsame : OrderedMap.ofList m.entries = m :=
    OrderedMap.ext_get? fun k => OrderedMap.get?_ofList m.keys_nodup k
  exact (hfold m.entries .empty).trans (congrArg _ hsame)

lemma form_injective {α : Type} {form : α → Json} {f : Json → Read α}
    (h : ∀ a, f (form a) = .ok a) : Function.Injective form := by
  intro a b heq
  have hread := h a
  rw [heq, h] at hread
  exact (Except.ok.inj hread).symm

/-! ### Maps by names -/

section Names

variable {ν : Type} {value : Json → Read ν} {fields : List (String × Json)}
  {m : OrderedMap String ν}

/-- What is read under a name: of several fields with the name the last counts. -/
def readLast? (value : Json → Read ν) (fields : List (String × Json)) (name : String) :
    Option ν :=
  (fields.filter fun e => name = e.1).getLast?.bind fun e => (value e.2).toOption

lemma readLast?_concat (last : String × Json) (name : String) :
    readLast? value (fields ++ [last]) name =
      if name = last.1 then (value last.2).toOption else readLast? value fields name := by
  rw [readLast?, List.filter_append]
  by_cases hname : name = last.1 <;> simp [readLast?, hname]

lemma readLast?_filter (p : String → Bool) (name : String) :
    readLast? value (fields.filter fun e => p e.1) name =
      if p name then readLast? value fields name else none := by
  have hnamed : (fields.filter fun e => p e.1).filter (fun e => name = e.1) =
      (fields.filter fun e => name = e.1).filter fun _ => p name := by
    rw [List.filter_filter, List.filter_filter]
    refine List.filter_congr fun e _ => ?_
    by_cases hname : name = e.1
    · subst hname
      simp
    · simp [hname]
  rw [readLast?, hnamed]
  cases p name <;> simp [readLast?]

lemma readMap_damaged {κ : Type} [Key κ] {key : String → Read κ} {m : OrderedMap κ ν} :
    readMap key value (damaged fields) ≠ .ok m := by
  intro h
  obtain ⟨_, -, h⟩ := bind_eq_ok.mp h
  cases h

lemma readMap_concat (last : String × Json) :
    readMap (fun name => .ok name) value (object (fields ++ [last])) =
      readMap (fun name => .ok name) value (object fields) >>= fun m =>
        (value last.2).map (m.insert last.1) := by
  rw [readMap, readEntries, List.foldlM_append]
  refine congrArg (readMap (fun name => .ok name) value (object fields) >>= ·) (funext fun m => ?_)
  rw [List.foldlM_cons]
  cases value last.2 <;> rfl

lemma exists_readMap_iff : (∃ m, readMap (fun name => .ok name) value (object fields) = .ok m) ↔
    ∀ e ∈ fields, ∃ v, value e.2 = .ok v := by
  induction fields using List.reverseRecOn with
  | nil => exact iff_of_true ⟨.empty, rfl⟩ (List.forall_mem_nil _)
  | append_singleton fields last ih =>
    rw [readMap_concat, List.forall_mem_append, List.forall_mem_singleton, ← ih]
    constructor
    · rintro ⟨m, h⟩
      obtain ⟨front, hfront, h⟩ := bind_eq_ok.mp h
      obtain ⟨v, hv, -⟩ := map_eq_ok.mp h
      exact ⟨⟨front, hfront⟩, v, hv⟩
    · rintro ⟨⟨front, hfront⟩, v, hv⟩
      exact ⟨front.insert last.1 v, bind_eq_ok.mpr ⟨front, hfront, map_eq_ok.mpr ⟨v, hv, rfl⟩⟩⟩

lemma get?_readMap (h : readMap (fun name => .ok name) value (object fields) = .ok m)
    (name : String) : m.get? name = readLast? value fields name := by
  induction fields using List.reverseRecOn generalizing m with
  | nil =>
    cases h
    rfl
  | append_singleton fields last ih =>
    rw [readMap_concat] at h
    obtain ⟨front, hfront, h⟩ := bind_eq_ok.mp h
    obtain ⟨v, hv, rfl⟩ := map_eq_ok.mp h
    rw [OrderedMap.get?_insert, ih hfront, readLast?_concat, hv]
    rfl

end Names

lemma reread_array {items : List Json} (h : ∀ j ∈ items, j.reread = j) :
    (array items).reread = array items := by
  have hitems : rereadItems items = items := by
    induction items with
    | nil => rfl
    | cons j rest ih =>
      obtain ⟨hj, hrest⟩ := List.forall_mem_cons.mp h
      rw [rereadItems, hj, ih hrest]
  rw [reread, hitems]

lemma reread_object {fields : List (String × Json)} (h : ∀ e ∈ fields, e.2.reread = e.2) :
    (object fields).reread = object fields := by
  have hfields : rereadFields fields = fields := by
    induction fields with
    | nil => rfl
    | cons e rest ih =>
      obtain ⟨he, hrest⟩ := List.forall_mem_cons.mp h
      rw [rereadFields, he, ih hrest]
  rw [reread, hfields]

lemma reread_objectOf {entries : List (String × Option Json)}
    (h : ∀ e ∈ entries, ∀ j ∈ e.2, j.reread = j) :
    (objectOf entries).reread = objectOf entries := by
  apply reread_object
  intro e he
  exact h _ (mem_present.mp he) _ rfl

lemma reread_texts {entries : List (String × Option Json)}
    (h : ∀ e ∈ entries, ∀ j ∈ e.2, ∃ s, j = text s) :
    (objectOf entries).reread = objectOf entries := by
  refine reread_objectOf fun e he j hj => ?_
  obtain ⟨s, rfl⟩ := h e he j hj
  rfl

lemma reread_ofMap {κ ν : Type} [Key κ] (name : κ → String) {form : ν → Json}
    (h : ∀ v, (form v).reread = form v) (m : OrderedMap κ ν) :
    (ofMap name form m).reread = ofMap name form m := by
  apply reread_object
  intro e he
  obtain ⟨e, -, rfl⟩ := List.mem_map.mp he
  exact h e.2

lemma reread_natural {n : Nat} (h : n < UInt64.size) :
    (integer n).reread = integer n := by
  have hsize : UInt64.size = 2 ^ 64 := rfl
  rw [reread, ofReadInteger, if_pos (by omega)]

/-- A document is read if and only if its text is one value and this value is read. -/
lemma readDocument_eq_ok_iff {α : Type} {f : Json → Read α} {s : String} {a : α} :
    readDocument f s = .ok a ↔ ∃ j, parse s = .ok j ∧ f j = .ok a := by
  rw [readDocument]
  cases parse s with
  | ok j => simp
  | error before =>
    cases before with
    | none => simp
    | some before => cases hf : f before <;> simp [hf]

lemma readDocument_toCompact {α : Type} {f : Json → Read α} {j : Json} (h : j.reread = j) :
    readDocument f j.toCompact = f j := by
  rw [readDocument, parse_toCompact, h]

lemma toCompact_inj {j j' : Json} (h : j.reread = j) (h' : j'.reread = j')
    (heq : j.toCompact = j'.toCompact) : j = j' := by
  have hread := parse_toCompact j
  rw [heq, parse_toCompact, h, h'] at hread
  exact (Except.ok.inj hread).symm

end Json

open Json FieldReader

lemma Account.ofJson_toJson (a : Account) : ofJson a.toJson = .ok a := by
  let fields := [("balance", ofWord a.balance), ("code", ofBytes a.code),
    ("nonce", ofWord a.nonce), ("storage", ofMap Word.toHex ofWord a.storage)]
  have hnames : (fields.map (·.1)).Nodup := by
    change ["balance", "code", "nonce", "storage"].Nodup
    decide
  have hbalance : (defaulted "balance" 0 readWord).Gives fields a.balance :=
    gives_defaulted hnames (by simp [fields]) (readWord_ofWord _)
  have hcode : (defaulted "code" [] readBytes).Gives fields a.code :=
    gives_defaulted hnames (by simp [fields]) (readBytes_ofBytes _)
  have hnonce : (defaulted "nonce" 0 readWord).Gives fields a.nonce :=
    gives_defaulted hnames (by simp [fields]) (readWord_ofWord _)
  have hstorage : (defaulted "storage" .empty (readMap wordOfName readWord)).Gives fields
      a.storage :=
    gives_defaulted hnames (by simp [fields]) (readMap_ofMap readWord_ofWord readWord_ofWord _)
  exact ((((hbalance.map mk).seq hcode).seq hnonce).seq hstorage).readRecord

lemma Account.reread_toJson (a : Account) : a.toJson.reread = a.toJson := by
  apply reread_object
  simp only [List.forall_mem_cons]
  exact ⟨rfl, rfl, rfl, reread_ofMap _ (fun _ => rfl) _, List.forall_mem_nil _⟩

lemma Alloc.ofJson_toJson (s : Alloc) : ofJson s.toJson = .ok s :=
  readMap_ofMap readFixed_ofFixed Account.ofJson_toJson s

lemma Alloc.reread_toJson (s : Alloc) : s.toJson.reread = s.toJson :=
  reread_ofMap _ Account.reread_toJson s

namespace Environment

def entries (e : Environment) : List (String × Option Json) := [
  ("currentCoinbase", some (ofFixed e.coinbase)),
  ("currentGasLimit", some (ofWord e.gasLimit)),
  ("currentNumber", some (ofWord e.number)),
  ("currentTimestamp", some (ofWord e.timestamp)),
  ("currentDifficulty", some (ofWord e.difficulty)),
  ("currentRandom", e.random.map ofFixed),
  ("currentBaseFee", e.baseFee.map ofWord),
  ("currentExcessBlobGas", e.excessBlobGas.map ofWord),
  ("currentBlobGasUsed", e.blobGasUsed.map ofWord),
  ("parentBeaconBlockRoot", e.parentBeaconRoot.map ofFixed),
  ("extraData", some (ofBytes e.extraData))]

lemma names_entries (e : Environment) : (e.entries.map (·.1)).Nodup := by
  change ["currentCoinbase", "currentGasLimit", "currentNumber", "currentTimestamp",
    "currentDifficulty", "currentRandom", "currentBaseFee", "currentExcessBlobGas",
    "currentBlobGasUsed", "parentBeaconBlockRoot", "extraData"].Nodup
  decide

lemma ofJson_toJson (e : Environment) : ofJson e.toJson = .ok e := by
  have hnames := e.names_entries
  have hdifficulty : (defaulted "currentDifficulty" 0 readWord).Gives (present e.entries)
      e.difficulty :=
    gives_defaulted (hnames.sublist (names_present _)) (mem_present.mpr (by simp [entries]))
      (readWord_ofWord _)
  have hextraData : (defaulted "extraData" [] readBytes).Gives (present e.entries) e.extraData :=
    gives_defaulted (hnames.sublist (names_present _)) (mem_present.mpr (by simp [entries]))
      (readBytes_ofBytes _)
  have hcoinbase : (required "currentCoinbase" readFixed).Gives (present e.entries) e.coinbase :=
    gives_fixed hnames (by simp [entries])
  exact (hcoinbase.map mk
    |>.seq (gives_word hnames (by simp [entries]))
    |>.seq (gives_word hnames (by simp [entries]))
    |>.seq (gives_word hnames (by simp [entries]))
    |>.seq hdifficulty
    |>.seq (gives_optionalFixed hnames (by simp [entries]))
    |>.seq (gives_optionalWord hnames (by simp [entries]))
    |>.seq (gives_optionalWord hnames (by simp [entries]))
    |>.seq (gives_optionalWord hnames (by simp [entries]))
    |>.seq (gives_optionalFixed hnames (by simp [entries]))
    |>.seq hextraData).readRecord

lemma reread_toJson (e : Environment) : e.toJson.reread = e.toJson := by
  have htexts : ∀ f ∈ e.entries, ∀ j ∈ f.2, ∃ s, j = text s := by
    simp [entries, ofWord, ofFixed, ofBytes]
  exact reread_texts htexts

end Environment

namespace Header

def entries (h : Header) : List (String × Option Json) := [
  ("parentHash", some (ofFixed h.parentHash)),
  ("uncleHash", some (ofFixed h.unclesHash)),
  ("coinbase", some (ofFixed h.coinbase)),
  ("stateRoot", some (ofFixed h.stateRoot)),
  ("transactionsTrie", some (ofFixed h.transactionsRoot)),
  ("receiptTrie", some (ofFixed h.receiptsRoot)),
  ("bloom", some (ofFixed h.bloom)),
  ("difficulty", some (ofWord h.difficulty)),
  ("number", some (ofWord h.number)),
  ("gasLimit", some (ofWord h.gasLimit)),
  ("gasUsed", some (ofWord h.gasUsed)),
  ("timestamp", some (ofWord h.timestamp)),
  ("extraData", some (ofBytes h.extraData)),
  ("mixHash", some (ofFixed h.mixHash)),
  ("nonce", some (ofFixed h.nonce)),
  ("baseFeePerGas", h.baseFee.map ofWord),
  ("withdrawalsRoot", h.withdrawalsRoot.map ofFixed),
  ("blobGasUsed", h.blobGasUsed.map ofWord),
  ("excessBlobGas", h.excessBlobGas.map ofWord),
  ("parentBeaconBlockRoot", h.parentBeaconRoot.map ofFixed),
  ("requestsHash", h.requestsHash.map ofFixed),
  ("hash", h.statedHash.map ofFixed)]

lemma names_entries (h : Header) : (h.entries.map (·.1)).Nodup := by
  change ["parentHash", "uncleHash", "coinbase", "stateRoot", "transactionsTrie", "receiptTrie",
    "bloom", "difficulty", "number", "gasLimit", "gasUsed", "timestamp", "extraData", "mixHash",
    "nonce", "baseFeePerGas", "withdrawalsRoot", "blobGasUsed", "excessBlobGas",
    "parentBeaconBlockRoot", "requestsHash", "hash"].Nodup
  decide

lemma ofJson_toJson (h : Header) : ofJson h.toJson = .ok h := by
  have hnames := h.names_entries
  have hparentHash : (FieldReader.required "parentHash" readFixed).Gives (present h.entries)
      h.parentHash :=
    gives_fixed hnames (by simp [entries])
  have hextraData : (FieldReader.required "extraData" readBytes).Gives (present h.entries)
      h.extraData :=
    gives_present hnames (by simp [entries]) (readBytes_ofBytes _)
  exact (hparentHash.map mk
    |>.seq (gives_fixed hnames (by simp [entries]))
    |>.seq (gives_fixed hnames (by simp [entries]))
    |>.seq (gives_fixed hnames (by simp [entries]))
    |>.seq (gives_fixed hnames (by simp [entries]))
    |>.seq (gives_fixed hnames (by simp [entries]))
    |>.seq (gives_fixed hnames (by simp [entries]))
    |>.seq (gives_word hnames (by simp [entries]))
    |>.seq (gives_word hnames (by simp [entries]))
    |>.seq (gives_word hnames (by simp [entries]))
    |>.seq (gives_word hnames (by simp [entries]))
    |>.seq (gives_word hnames (by simp [entries]))
    |>.seq hextraData
    |>.seq (gives_fixed hnames (by simp [entries]))
    |>.seq (gives_fixed hnames (by simp [entries]))
    |>.seq (gives_optionalWord hnames (by simp [entries]))
    |>.seq (gives_optionalFixed hnames (by simp [entries]))
    |>.seq (gives_optionalWord hnames (by simp [entries]))
    |>.seq (gives_optionalWord hnames (by simp [entries]))
    |>.seq (gives_optionalFixed hnames (by simp [entries]))
    |>.seq (gives_optionalFixed hnames (by simp [entries]))
    |>.seq (gives_optionalFixed hnames (by simp [entries]))).readRecord

lemma reread_toJson (h : Header) : h.toJson.reread = h.toJson := by
  have htexts : ∀ f ∈ h.entries, ∀ j ∈ f.2, ∃ s, j = text s := by
    simp [entries, ofWord, ofFixed, ofBytes]
  exact reread_texts htexts

end Header

end ChainConformance
