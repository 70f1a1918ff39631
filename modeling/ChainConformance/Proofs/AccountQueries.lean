import ChainConformance.Proofs.CompactText
import ChainConformance.Proofs.WatchedRuns
import ChainConformance.Proofs.ReadBack
import ChainConformance.Proofs.ScalarForms

/-!
# Accounts over JSON-RPC

By JSON-RPC a client is asked for the balance, the nonce, the code and the slots of an account,
and not whether there is the account. One in which nothing is seen counts as none. A client that
holds what is expected, and says so, shows no difference but for the accounts that are expected
to exist and hold nothing.
-/

namespace ChainConformance

/-- The call keeps what holds of the state, is answered if it has the time for it, and has no
other answers than those of a kind. -/
structure Call.Yields {σ α : Type} (c : Call σ α) (I : σ → Prop) (P : α → Prop) : Prop where
  keeps : c.Keeps I
  answers {s : σ} (hs : I s) : ∃ a, (c none s).answer = some a
  only {limit : Option Nat} {s : σ} {a : α} (hs : I s) (h : (c limit s).answer = some a) : P a

namespace Call

variable {σ τ α β : Type} {I : σ → Prop} {P : α → Prop} {Q : β → Prop}

lemma yields_instantly {f : σ → α × σ} (h : ∀ s, I s → P (f s).1 ∧ I (f s).2) :
    (instantly f).Yields I P where
  keeps _ s hs := (h s hs).2
  answers {s} _ := ⟨(f s).1, rfl⟩
  only {_ s _} hs ha := Option.some.inj ha ▸ (h s hs).1

lemma yields_pure {a : α} (ha : P a) : (pure a : Call σ α).Yields I P :=
  yields_instantly fun _ hs => ⟨ha, hs⟩

lemma Yields.bind {c : Call σ α} {next : α → Call σ β} (first : c.Yields I P)
    (others : ∀ a, P a → (next a).Yields I Q) : (c >>= next).Yields I Q where
  keeps := first.keeps.bind_of (fun _ _ _ hs h => first.only hs h) fun a ha => (others a ha).keeps
  answers {s} hs := by
    obtain ⟨a, ha⟩ := first.answers hs
    rw [bind_answered ha]
    exact (others a (first.only hs ha)).answers (first.keeps none s hs)
  only {limit s b} hs h := by
    cases ha : (c limit s).answer with
    | none =>
      rw [bind_cut ha] at h
      cases h
    | some a =>
      rw [bind_answered ha] at h
      exact (others a (first.only hs ha)).only (first.keeps limit s hs) h

end Call

/-- The account at an address, one that holds nothing if there is none. -/
def Alloc.held (s : Alloc) (address : Address) : Account := (s.get? address).getD default

namespace RpcClient

open Json

def request (url : String) (token : Option String) (id : Nat) (method : String)
    (params : List Json) : HttpRequest where
  verb := "POST"
  url := url
  body := .json (document id method params)
  token := token

def Carries (body : String) (result : Json) : Prop :=
  Http.readBody RpcResponse.ofJson body = .ok ⟨result, none⟩

end RpcClient

section Servers

variable {ω : Type} (web : Web ω) (url : String) (secret : Option TokenSecret) (I : ω → Prop)

open RpcClient Json

/-- A server that answers the calls of a method with a result of the given kind, whatever their
numbers, if they come with a token for the secret. -/
def Web.Tells (method : String) (params : List Json) (meant : Json → Prop) : Prop :=
  ∀ id time, (web.send (request url (secret.map (·.tokenAt time)) id method params)).Yields I
    fun sent => ∃ r result, sent = .ok r ∧ r.status < 400 ∧ Carries r.body result ∧ meant result

/-- A server whose answers to what it is asked for accounts are read as what is so in the given
state. -/
structure Web.Serves (whole : Alloc) : Prop where
  balance (address : Address) : web.Tells url secret I "eth_getBalance"
    [ofFixed address, latest] (readWord · = .ok (whole.held address).balance)
  nonce (address : Address) : web.Tells url secret I "eth_getTransactionCount"
    [ofFixed address, latest] (readWord · = .ok (whole.held address).nonce)
  code (address : Address) : web.Tells url secret I "eth_getCode"
    [ofFixed address, latest] (readBytes · = .ok (whole.held address).code)
  slot (address : Address) (key : Word) : web.Tells url secret I "eth_getStorageAt"
    [ofFixed address, ofFixed (slotKey key), latest]
    (readFixed · = .ok (slotKey ((whole.held address).slot key)))
  clock : web.clock.Yields I fun _ => True

/-- A server and a client whose endpoint it is. -/
structure RpcClient.Meets (p : ω × RpcClient) : Prop where
  server : I p.1
  url : p.2.url = url
  secret : p.2.secret = secret

end Servers

def Account.seen (a : Account) (keys : List Word) : Account :=
  { a with storage := OrderedMap.ofList (keys.map fun key => (key, a.slot key)) }

def Account.visible? (a : Account) (keys : List Word) : Option Account :=
  if (a.seen keys).isEmpty then none else some (a.seen keys)

namespace RpcClient

open Json

variable {ω α β : Type} {web : Web ω} {url : String} {secret : Option TokenSecret}
  {I : ω → Prop} {whole : Alloc}

lemma yields_fetch {method : String} {params : List Json} {meant : Json → Prop}
    (h : web.Tells url secret I method params meant) (id : Nat) (time : UInt64) :
    (Http.fetch web (request url (secret.map (·.tokenAt time)) id method params)
      RpcResponse.ofJson).Yields I fun answer =>
        ∃ result, answer = .ok ⟨result, none⟩ ∧ meant result := by
  have hsend : (Http.send web (request url (secret.map (·.tokenAt time)) id method params)).Yields
      I fun sent => ∃ body result, sent = .ok body ∧ Carries body result ∧ meant result := by
    refine (h id time).bind ?_
    rintro _ ⟨r, result, rfl, hstatus, hbody, hmeant⟩
    exact Call.yields_pure ⟨r.body, result, if_neg (by omega), hbody, hmeant⟩
  refine hsend.bind ?_
  rintro _ ⟨body, result, rfl, hbody, hmeant⟩
  exact Call.yields_pure ⟨result, hbody, hmeant⟩

lemma yields_onWeb {c : Call ω α} {P : α → Prop} (h : c.Yields I P) :
    (onWeb c).Yields (Meets url secret I) P where
  keeps := h.keeps.inside (fun _ hp => hp.server) fun _ _ hp hw => ⟨hw, hp.url, hp.secret⟩
  answers hs := h.answers hs.server
  only hs ha := h.only hs.server ha

lemma yields_call (clock : web.clock.Yields I fun _ => True) {method : String}
    {params : List Json} {meant : Json → Prop}
    (h : web.Tells url secret I method params meant) {f : Json → Json.Read α} {a : α}
    (hread : ∀ result, meant result → f result = .ok a) :
    (call web method params f).run.Yields (Meets url secret I) (· = .ok a) := by
  unfold call
  rw [ExceptT.run_mk]
  refine (Call.yields_instantly fun _ hp => ⟨trivial, hp.server, hp.url, hp.secret⟩ :
    takeId.Yields (Meets url secret I) fun _ => True).bind fun id _ => ?_
  refine (Call.yields_instantly fun _ hp => ⟨hp, hp⟩ :
    Call.look.Yields (Meets url secret I) (Meets url secret I)).bind fun p hp => ?_
  have hsent (time : UInt64) :
      (onWeb (Http.fetch web (request url (secret.map (·.tokenAt time)) id method params)
          RpcResponse.ofJson) >>=
        fun answer => pure (answer >>= RpcResponse.read method f)).Yields (Meets url secret I)
          (· = .ok a) := by
    refine (yields_onWeb (yields_fetch h id time)).bind ?_
    rintro _ ⟨result, rfl, hmeant⟩
    refine Call.yields_pure ?_
    change (f result).mapError _ = _
    rw [hread result hmeant]
    rfl
  simp only [hp.url, hp.secret]
  cases secret with
  | none =>
    refine (Call.yields_pure (P := (· = none)) rfl).bind ?_
    rintro _ rfl
    exact hsent 0
  | some secret =>
    refine (yields_onWeb clock).bind fun time _ => ?_
    refine (Call.yields_pure (P := (· = some (secret.tokenAt time))) rfl).bind ?_
    rintro _ rfl
    exact hsent time

lemma yields_calls {x : Calls ω α} {next : α → Calls ω β} {a : α} {b : β}
    (first : x.run.Yields (Meets url secret I) (· = .ok a))
    (others : (next a).run.Yields (Meets url secret I) (· = .ok b)) :
    (x >>= next).run.Yields (Meets url secret I) (· = .ok b) := by
  rw [ExceptT.run_bind]
  refine first.bind ?_
  rintro _ rfl
  exact others

lemma yields_readSlots (serves : web.Serves url secret I whole) (address : Address)
    (keys : List Word) (read : Storage) :
    (readSlots web address keys read).run.Yields (Meets url secret I)
      (· = .ok (keys.foldl (fun s key => s.insert key ((whole.held address).slot key)) read)) := by
  induction keys generalizing read with
  | nil => exact Call.yields_pure rfl
  | cons key rest ih =>
    refine yields_calls (yields_call serves.clock (serves.slot address key) fun _ h => h) ?_
    rw [ofBigEndian_slotKey]
    exact ih _

lemma yields_readAccount (serves : web.Serves url secret I whole) (address : Address)
    (keys : List Word) : (readAccount web address keys).run.Yields (Meets url secret I)
      (· = .ok ((whole.held address).visible? keys)) := by
  refine yields_calls (yields_call serves.clock (serves.balance address) fun _ h => h) ?_
  refine yields_calls (yields_call serves.clock (serves.nonce address) fun _ h => h) ?_
  refine yields_calls (yields_call serves.clock (serves.code address) fun _ h => h) ?_
  refine yields_calls (yields_readSlots serves address keys .empty) ?_
  refine Call.yields_pure (congrArg Except.ok ?_)
  have hstorage : keys.foldl (fun s key => s.insert key ((whole.held address).slot key)) .empty =
      ((whole.held address).seen keys).storage := by
    rw [Account.seen, OrderedMap.ofList, List.foldl_map]
  rw [hstorage]
  rfl

end RpcClient

lemma EngineTarget.yields_readAccounts {σ : Type} {t : EngineTarget σ} {I : σ → Prop}
    {told : Address → List Word → Option Account}
    (h : ∀ address keys, (t.account address keys).Yields I (· = .ok (told address keys)))
    (asked : List (Address × Account)) (read : Alloc) :
    (t.readAccounts asked read).Yields I fun answer => ∃ observed, answer = .ok observed := by
  induction asked generalizing read with
  | nil => exact Call.yields_pure ⟨read, rfl⟩
  | cons e rest ih =>
    obtain ⟨address, account⟩ := e
    refine (h address account.storage.keys).bind ?_
    rintro _ rfl
    cases told address account.storage.keys with
    | none => exact ih read
    | some a => exact ih (read.insert address a)

lemma RpcClient.yields_readState {ω : Type} {web : Web ω} {url : String}
    {secret : Option TokenSecret} {I : ω → Prop} {whole : Alloc}
    (serves : web.Serves url secret I whole) (asked : Alloc) :
    ((target web).readState asked).Yields (Meets url secret I) fun answer =>
      ∃ observed, answer = .ok observed ∧ ∀ address, match asked.get? address with
        | some a => observed.get? address = (whole.held address).visible? a.storage.keys
        | none => observed.get? address = none := by
  have haccount (address : Address) (keys : List Word) :
      ((target web).account address keys).Yields (Meets url secret I)
        (· = .ok ((whole.held address).visible? keys)) := yields_readAccount serves address keys
  have hread := EngineTarget.yields_readAccounts haccount asked.entries .empty
  refine ⟨hread.keeps, hread.answers, fun {limit s answer} hs hanswer => ?_⟩
  obtain ⟨observed, rfl⟩ := hread.only hs hanswer
  refine ⟨observed, rfl, ?_⟩
  exact EngineTarget.readAccounts_gives
    (R := fun address keys told => told = (whole.held address).visible? keys)
    (fun hs h => Except.ok.inj ((haccount _ _).only hs h))
    (fun address keys limit _ hs => (haccount address keys).keeps limit _ hs)
    asked.keys_nodup (fun _ _ => rfl) hs hanswer

/-! ### Accounts that hold nothing -/

namespace Account

variable {a b : Account} {keys : List Word}

lemma Same.symm (h : a.Same b) : b.Same a := normalized_eq_iff.mp (normalized_eq_iff.mpr h).symm

lemma Same.trans {c : Account} (h : a.Same b) (h' : b.Same c) : a.Same c :=
  normalized_eq_iff.mp ((normalized_eq_iff.mpr h).trans (normalized_eq_iff.mpr h'))

lemma values_all_zero_iff : a.storage.values.all (· == 0) = true ↔ ∀ key, a.slot key = 0 := by
  rw [List.all_eq_true]
  constructor
  · intro h key
    rw [slot]
    cases hget : a.storage.get? key with
    | none => rfl
    | some value =>
      have hmem : (key, value) ∈ a.storage.entries := OrderedMap.mem_entries_iff.mpr hget
      exact beq_iff_eq.mp (h value (List.mem_map_of_mem (f := Prod.snd) hmem))
  · intro h value hvalue
    obtain ⟨⟨key, _⟩, hmem, rfl⟩ := List.mem_map.mp hvalue
    have hslot := h key
    rw [slot, OrderedMap.mem_entries_iff.mp hmem] at hslot
    exact beq_iff_eq.mpr hslot

lemma isEmpty_iff : a.isEmpty = true ↔ a.Same default := by
  rw [isEmpty, Bool.and_eq_true, Bool.and_eq_true, Bool.and_eq_true, values_all_zero_iff,
    beq_iff_eq, beq_iff_eq, List.isEmpty_iff]
  constructor
  · rintro ⟨⟨⟨hbalance, hnonce⟩, hcode⟩, hslot⟩
    exact ⟨hbalance, hcode, hnonce, hslot⟩
  · rintro ⟨hbalance, hcode, hnonce, hslot⟩
    exact ⟨⟨⟨hbalance, hnonce⟩, hcode⟩, hslot⟩

lemma Same.isEmpty_eq (h : a.Same b) : a.isEmpty = b.isEmpty := by
  rw [Bool.eq_iff_iff, isEmpty_iff, isEmpty_iff]
  exact ⟨h.symm.trans, h.trans⟩

lemma tells_seen (a : Account) (keys : List Word) : Tells keys a (a.seen keys) where
  balance := rfl
  code := rfl
  nonce := rfl
  slot key := by
    rw [slot, seen, OrderedMap.get?_ofList_map]
    split <;> rfl

lemma same_seen (h : ∀ key ∉ keys, a.slot key = 0) : a.Same (a.seen keys) :=
  ((a.tells_seen keys).same_iff h).mpr ⟨rfl, rfl, rfl, fun _ _ => rfl⟩

lemma visible?_default : (default : Account).visible? keys = none := by
  have hempty : (default : Account).Same ((default : Account).seen keys) :=
    same_seen fun _ _ => rfl
  exact if_pos (isEmpty_iff.mpr hempty.symm)

end Account

namespace Mismatch

variable {expected observed : Alloc}

lemma ofAddress_visible {address : Address} {e w : Account} {keys : List Word}
    (hexpected : expected.get? address = some e) (hsame : w.Same e)
    (hkeys : ∀ key ∉ keys, e.slot key = 0) (hobserved : observed.get? address = w.visible? keys) :
    ofAddress expected observed address = if e.isEmpty then [.missingAccount address] else [] := by
  have hseen : e.Same (w.seen keys) :=
    hsame.symm.trans (Account.same_seen fun key hkey => (hsame.slot key).trans (hkeys key hkey))
  unfold ofAddress
  rw [hexpected, hobserved, Account.visible?, ← hseen.isEmpty_eq]
  by_cases hempty : e.isEmpty
  · rw [if_pos hempty, if_pos hempty]
  · rw [if_neg hempty, if_neg hempty]
    exact ofAccounts_eq_nil_iff.mpr hseen

lemma ofStates_eq_missing {p : Address → Account → Bool}
    (h : ∀ address, ofAddress expected observed address =
      if (expected.get? address).any (p address) then [.missingAccount address] else []) :
    ofStates expected observed = (expected.filter p).keys.map .missingAccount := by
  have hkeys (address : Address) : address ∈ (expected.filter p).keys ↔
      (expected.get? address).any (p address) = true := by
    rw [OrderedMap.mem_keys_iff, OrderedMap.get?_filter]
    cases expected.get? address <;> simp [Option.filter_some]
  have hmissing : (expected.filter p).keys.map .missingAccount =
      (expected.filter p).keys.flatMap (ofAddress expected observed) := by
    rw [List.map_eq_flatMap]
    refine List.flatMap_congr fun address hmem => ?_
    rw [h, if_pos ((hkeys address).mp hmem)]
  rw [hmissing]
  refine OrderedMap.flatMap_eq_of_sorted (OrderedMap.keys_sorted _) (OrderedMap.keys_sorted _)
    fun address hne => ⟨mem_unionKeys_of_ofAddress hne, (hkeys address).mpr ?_⟩
  by_contra hnone
  rw [h, if_neg hnone] at hne
  exact hne rfl

end Mismatch

namespace Alloc

variable {pre expected : Alloc}

lemma slot_of_unasked {address : Address} {asked e : Account} {key : Word}
    (hasked : (pre.readingHint expected).get? address = some asked)
    (hexpected : expected.get? address = some e) (hkey : key ∉ asked.storage.keys) :
    e.slot key = 0 := by
  refine Account.slot_of_absent (Bool.eq_false_iff.mpr fun hpresent => hkey ?_)
  rw [← names_iff_mem_keys hasked, readingHint_names_iff]
  exact .inr ⟨e, hexpected, hpresent⟩

lemma ofAddress_of_visible (pre : Alloc) {whole observed : Alloc} (same : whole.Same expected)
    (hread : ∀ address, match (pre.readingHint expected).get? address with
      | some a => observed.get? address = (whole.held address).visible? a.storage.keys
      | none => observed.get? address = none) (address : Address) :
    Mismatch.ofAddress expected observed address =
      if (expected.get? address).any (·.isEmpty) then [.missingAccount address] else [] := by
  have hobserved := hread address
  have hsame := same address
  cases hasked : (pre.readingHint expected).get? address with
  | none =>
    have hboth := mt (isSome_get?_readingHint pre expected address).mpr (by simp [hasked])
    have hexpected : expected.get? address = none := by simpa using (not_or.mp hboth).2
    rw [hasked] at hobserved
    unfold Mismatch.ofAddress
    rw [hexpected, show observed.get? address = none from hobserved]
    rfl
  | some a =>
    rw [hasked] at hobserved
    change observed.get? address = _ at hobserved
    unfold held at hobserved
    generalize hexpected : expected.get? address = e at hsame
    generalize whole.get? address = w at hsame hobserved
    cases hsame with
    | none =>
      unfold Mismatch.ofAddress
      rw [hexpected, hobserved, Option.getD_none, Account.visible?_default]
      rfl
    | some hsame =>
      exact Mismatch.ofAddress_visible hexpected hsame
        (fun key hkey => slot_of_unasked hasked hexpected hkey) hobserved

end Alloc

/-! ### A server -/

namespace RpcClient

open Json

def resultOf? (whole : Alloc) : String → List Json → Option Json
  | "eth_getBalance", [address, _] =>
    (readFixed address).toOption.map fun a => ofWord (whole.held a).balance
  | "eth_getTransactionCount", [address, _] =>
    (readFixed address).toOption.map fun a => ofWord (whole.held a).nonce
  | "eth_getCode", [address, _] =>
    (readFixed address).toOption.map fun a => ofBytes (whole.held a).code
  | "eth_getStorageAt", [address, key, _] => do
    let a ← (readFixed address).toOption
    let k ← (readFixed (n := 32) key).toOption
    some (ofFixed (slotKey ((whole.held a).slot (BitVec.ofNat 256 (ofBigEndian k.bytes)))))
  | _, _ => none

def answer (id result : Json) : HttpResponse :=
  ⟨200, (object [("jsonrpc", .text "2.0"), ("id", id), ("result", result)]).toCompact⟩

/-- A server that holds a state, and knows no calls but those about accounts. -/
def stateServer (whole : Alloc) : Web Unit where
  send r := pure <| match r.body with
    | .json (.object [_, (_, id), (_, .text method), (_, .array params)]) =>
      match resultOf? whole method params with
      | some result => .ok (answer id result)
      | none => .error ("no method " ++ method)
    | _ => .error "no call"
  clock := pure 0

variable {whole : Alloc} {url : String} {secret : Option TokenSecret}

lemma stateServer_answers {method : String} {params : List Json} {result : Json}
    {meant : Json → Prop} (h : resultOf? whole method params = some result)
    (hreread : result.reread = result) (hmeant : meant result) :
    (stateServer whole).Tells url secret (fun _ => True) method params meant := by
  intro id time
  have hanswer : (stateServer whole).send
      (request url (secret.map (·.tokenAt time)) id method params) =
        pure (.ok (answer (.integer id) result)) := by
    simp only [stateServer, request, document, h]
  have hcarries : Carries (answer (.integer id) result).body result := by
    rw [Carries, answer, Http.readBody, readDocument, parse_toCompact]
    simp only [reread, rereadFields, hreread]
    rfl
  rw [hanswer]
  exact Call.yields_pure ⟨_, result, rfl, (by decide : 200 < 400), hcarries, hmeant⟩

lemma stateServer_serves (whole : Alloc) (url : String) (secret : Option TokenSecret) :
    (stateServer whole).Serves url secret (fun _ => True) whole where
  balance _ := stateServer_answers (by simp [resultOf?, Except.toOption]) rfl (readWord_ofWord _)
  nonce _ := stateServer_answers (by simp [resultOf?, Except.toOption]) rfl (readWord_ofWord _)
  code _ := stateServer_answers (by simp [resultOf?, Except.toOption]) rfl (readBytes_ofBytes _)
  slot _ _ := stateServer_answers (by simp [resultOf?, Except.toOption]) rfl (readFixed_ofFixed _)
  clock := Call.yields_pure trivial

end RpcClient

/-- A client that is asked over JSON-RPC, whose server says what is true of a state, is read back
with no difference from an expected state that is the same, but that each account which is expected
to exist and holds nothing is missed. In particular there is no difference at all if and only if
every account that is expected holds something. -/
theorem RpcClient.read_back_missing {ω : Type} {web : Web ω} {client : RpcClient} {I : ω → Prop}
    {whole : Alloc} (serves : web.Serves client.url client.secret I whole) (pre expected : Alloc)
    (same : whole.Same expected) {w : ω} (hw : I w) :
    (∃ answer, ((target web).readState (pre.readingHint expected) none (w, client)).answer =
      some answer) ∧
    ∀ limit answer, ((target web).readState (pre.readingHint expected) limit (w, client)).answer =
        some answer →
      ∃ observed, answer = .ok observed ∧ Mismatch.ofStates expected observed =
        (expected.filter fun _ a => a.isEmpty).keys.map .missingAccount := by
  have hread := yields_readState serves (pre.readingHint expected)
  have hmeets : Meets client.url client.secret I (w, client) := ⟨hw, rfl, rfl⟩
  refine ⟨hread.answers hmeets, fun limit answer hanswer => ?_⟩
  obtain ⟨observed, rfl, hvisible⟩ := hread.only hmeets hanswer
  have hmissing := Alloc.ofAddress_of_visible pre same hvisible
  exact ⟨observed, rfl, Mismatch.ofStates_eq_missing hmissing⟩

theorem RpcClient.read_back_one_missing :
    let whole : Alloc := OrderedMap.ofList
      [(.replicate 0xaa, { (default : Account) with balance := 1 }), (.replicate 0xcc, default)]
    let client : RpcClient := { url := "http://localhost:8545" }
    (stateServer whole).Serves client.url client.secret (fun _ => True) whole ∧
    whole.Same whole ∧
    ∃ observed, ((target (stateServer whole)).readState (Alloc.readingHint .empty whole) none
        ((), client)).answer = some (.ok observed) ∧
      Mismatch.ofStates whole observed = [.missingAccount (.replicate 0xcc)] := by
  intro whole client
  have serves := stateServer_serves whole client.url client.secret
  have same : whole.Same whole := Alloc.Same.refl whole
  obtain ⟨⟨answer, hanswer⟩, hread⟩ :=
    read_back_missing serves .empty whole same (w := ()) trivial
  obtain ⟨observed, rfl, hreport⟩ := hread none answer hanswer
  exact ⟨serves, same, observed, hanswer, hreport.trans (by decide)⟩

/-- A state in which an account holds nothing is read back from a server that holds this very
state, and there is a difference. -/
theorem RpcClient.read_back_empty_account :
    let whole : Alloc := OrderedMap.ofList [(.replicate 0xcc, default)]
    let client : RpcClient := { url := "http://localhost:8545" }
    (stateServer whole).Serves client.url client.secret (fun _ => True) whole ∧
    ∃ observed, ((target (stateServer whole)).readState (Alloc.readingHint .empty whole) none
        ((), client)).answer = some (.ok observed) ∧
      Mismatch.ofStates whole observed ≠ [] := by
  intro whole client
  have serves := stateServer_serves whole client.url client.secret
  have hread := yields_readState serves (Alloc.readingHint .empty whole)
  have hmeets : Meets client.url client.secret (fun _ => True) ((), client) :=
    ⟨trivial, rfl, rfl⟩
  obtain ⟨answer, hanswer⟩ := hread.answers hmeets
  obtain ⟨observed, rfl, hvisible⟩ := hread.only hmeets hanswer
  refine ⟨serves, observed, hanswer, fun hreport => ?_⟩
  have hsame := Mismatch.ofStates_eq_nil_iff.mp hreport (.replicate 0xcc)
  have hobserved : observed.get? (.replicate 0xcc) = (default : Account).visible? [] :=
    hvisible (.replicate 0xcc)
  rw [hobserved, Account.visible?_default] at hsame
  cases hsame

end ChainConformance
