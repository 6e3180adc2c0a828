import LayerMessaging.Proofs.Chain.SignedTransaction
import LayerMessaging.Proofs.Rpc.FirstValue

namespace LayerMessaging

open Rpc

def SignedTransaction.nonce? (raw : Bytes) : Option Nat := (decode? raw).map nonce

structure Ledger where
  mined : List Bytes
  /-- The transactions that a node accepted, each behind the hash that it answered. -/
  accepted : List (Hash × Bytes)

namespace Ledger

inductive Event where
  | called (e : Exchange)
  | mined (raw : Bytes)

def Event.call? : Event → Option Exchange
  | .called e => some e
  | .mined _ => none

def calls (events : List Event) : List Exchange := events.filterMap Event.call?

/-- The ledger behind a call: a transaction that was handed over and got a hash is accepted. -/
def record (ledger : Ledger) (e : Exchange) : Ledger :=
  match e.call with
  | .sendRawTransaction raw =>
    match e.value? (.sendRawTransaction raw) hash? with
    | some hash => { ledger with accepted := ledger.accepted ++ [(hash, raw)] }
    | none => ledger
  | _ => ledger

/-- What one event does to a ledger. Any transaction that has the next nonce may be mined at any
moment, or be left alone. -/
inductive Step (receipt? : Json → Option (Option Receipt)) (account : Address) :
    Ledger → Event → Ledger → Prop
  /-- The count that a node answers is that of the transactions that were mined, and it has a
  receipt only for one that was. -/
  | called {ledger : Ledger} {e : Exchange}
      (hcount : ∀ count, e.value? (.transactionCount account) (quantity? (Bytes.limit 8)) =
        some count → count = ledger.mined.length)
      (hreceipt : ∀ hash receipt, e.value? (.transactionReceipt hash) receipt? =
        some (some receipt) → ∀ raw, (hash, raw) ∈ ledger.accepted → raw ∈ ledger.mined) :
      Step receipt? account ledger (.called e) (ledger.record e)
  | mined {ledger : Ledger} {raw : Bytes}
      (hnonce : SignedTransaction.nonce? raw = some ledger.mined.length) :
      Step receipt? account ledger (.mined raw) { ledger with mined := ledger.mined ++ [raw] }

inductive History (receipt? : Json → Option (Option Receipt)) (account : Address) :
    Ledger → List Event → Ledger → Prop
  | nil {ledger : Ledger} : History receipt? account ledger [] ledger
  | cons {ledger ledger' ledger'' : Ledger} {event : Event} {events : List Event}
      (h : Step receipt? account ledger event ledger')
      (h' : History receipt? account ledger' events ledger'') :
      History receipt? account ledger (event :: events) ledger''

/-- The transactions were mined in the order of their nonces, from zero on. -/
def Ordered (ledger : Ledger) : Prop :=
  ∀ i raw, ledger.mined[i]? = some raw → SignedTransaction.nonce? raw = some i

def Used (ledger : Ledger) (nonce : Nat) : Prop :=
  ∃ raw ∈ ledger.mined, SignedTransaction.nonce? raw = some nonce

variable {receipt? : Json → Option (Option Receipt)} {account : Address}
  {ledger ledger' ledger'' : Ledger} {event : Event} {events events' : List Event} {e : Exchange}

theorem exists_of_calls_eq {front behind : List Exchange}
    (h : calls events = front ++ e :: behind) :
    ∃ before after, events = before ++ .called e :: after ∧ calls before = front ∧
      calls after = behind := by
  obtain ⟨before, rest, rfl, hbefore, hrest⟩ := List.filterMap_eq_append_iff.mp h
  obtain ⟨quiet, event, after, rfl, hquiet, hevent, hafter⟩ := List.filterMap_eq_cons_iff.mp hrest
  cases event with
  | mined raw => cases hevent
  | called e' =>
    cases hevent
    have hnone : quiet.filterMap Event.call? = [] := List.filterMap_eq_nil_iff.mpr hquiet
    refine ⟨before ++ quiet, after, ?_, ?_, hafter⟩
    · rw [List.append_assoc]
    · rw [calls, List.filterMap_append, hbefore, hnone, List.append_nil]

@[simp] theorem mined_record (ledger : Ledger) (e : Exchange) :
    (ledger.record e).mined = ledger.mined := by
  unfold record
  split
  · split <;> rfl
  · rfl

theorem accepted_record_grows (ledger : Ledger) (e : Exchange) :
    ledger.accepted <+: (ledger.record e).accepted := by
  unfold record
  split
  · split
    · exact List.prefix_append _ _
    · exact List.prefix_refl _
  · exact List.prefix_refl _

theorem mem_accepted_record {raw : Bytes} {hash : Hash} (hcall : e.call = .sendRawTransaction raw)
    (hhash : e.value? (.sendRawTransaction raw) hash? = some hash) :
    (hash, raw) ∈ (ledger.record e).accepted := by
  simp [record, hcall, hhash]

theorem Step.grows (h : Step receipt? account ledger event ledger') :
    ledger.mined <+: ledger'.mined ∧ ledger.accepted <+: ledger'.accepted := by
  cases h with
  | called =>
    rw [mined_record]
    exact ⟨List.prefix_refl _, accepted_record_grows _ _⟩
  | mined => exact ⟨List.prefix_append _ _, List.prefix_refl _⟩

theorem Step.ordered (h : Step receipt? account ledger event ledger') (hordered : ledger.Ordered) :
    ledger'.Ordered := by
  cases h with
  | called =>
    intro i raw hraw
    rw [mined_record] at hraw
    exact hordered i raw hraw
  | @mined raw' hnonce =>
    intro i raw hraw
    by_cases hi : i < ledger.mined.length
    · apply hordered i raw
      rwa [List.getElem?_append_left hi] at hraw
    · obtain ⟨hlast, rfl⟩ : i - ledger.mined.length = 0 ∧ raw' = raw := by
        simpa [List.getElem?_append_right (Nat.le_of_not_lt hi), List.getElem?_singleton]
          using hraw
      have hi' : i = ledger.mined.length := by omega
      rw [hi']
      exact hnonce

theorem History.grows (h : History receipt? account ledger events ledger') :
    ledger.mined <+: ledger'.mined ∧ ledger.accepted <+: ledger'.accepted := by
  induction h with
  | nil => exact ⟨List.prefix_refl _, List.prefix_refl _⟩
  | cons h _ ih =>
    obtain ⟨hmined, haccepted⟩ := h.grows
    exact ⟨hmined.trans ih.1, haccepted.trans ih.2⟩

theorem History.ordered (h : History receipt? account ledger events ledger')
    (hordered : ledger.Ordered) : ledger'.Ordered := by
  induction h with
  | nil => exact hordered
  | cons h _ ih => exact ih (h.ordered hordered)

theorem History.append_inv (h : History receipt? account ledger (events ++ events') ledger'') :
    ∃ ledger', History receipt? account ledger events ledger' ∧
      History receipt? account ledger' events' ledger'' := by
  induction events generalizing ledger with
  | nil => exact ⟨ledger, .nil, h⟩
  | cons event events ih =>
    cases h with
    | cons hstep h =>
      obtain ⟨ledger', hfront, hback⟩ := ih h
      exact ⟨ledger', .cons hstep hfront, hback⟩

theorem History.append (h : History receipt? account ledger events ledger')
    (h' : History receipt? account ledger' events' ledger'') :
    History receipt? account ledger (events ++ events') ledger'' := by
  induction h with
  | nil => exact h'
  | cons hstep _ ih => exact .cons hstep (ih h')

/-- A call in a run of events is answered from the ledger that the events before it left. -/
theorem History.called_inv
    (h : History receipt? account ledger (events ++ .called e :: events') ledger'') :
    ∃ ledger', History receipt? account ledger events ledger' ∧
      Step receipt? account ledger' (.called e) (ledger'.record e) ∧
      History receipt? account (ledger'.record e) events' ledger'' := by
  obtain ⟨ledger', hbefore, h⟩ := h.append_inv
  cases h with
  | cons hstep hafter =>
    cases hstep with
    | called hcount hreceipt => exact ⟨ledger', hbefore, .called hcount hreceipt, hafter⟩

theorem History.mined_eq (h : History receipt? account ledger events ledger')
    (hquiet : ∀ raw, .mined raw ∉ events) : ledger'.mined = ledger.mined := by
  induction h with
  | nil => rfl
  | cons h _ ih =>
    cases h with
    | called =>
      rw [ih fun raw hraw => hquiet raw (List.mem_cons_of_mem _ hraw), mined_record]
    | mined => exact absurd List.mem_cons_self (hquiet _)

/-- A count that is answered is that of the transactions that were mined before the answer. -/
theorem History.counted {ledger' : Ledger} {front behind : List Exchange} {count : Nat}
    (h : History receipt? account ledger events ledger')
    (hcalls : calls events = front ++ e :: behind)
    (hcount : e.value? (.transactionCount account) (quantity? (Bytes.limit 8)) = some count) :
    ∃ before after counted, events = before ++ .called e :: after ∧ calls after = behind ∧
      History receipt? account ledger before counted ∧ count = counted.mined.length ∧
      History receipt? account (counted.record e) after ledger' := by
  obtain ⟨before, after, rfl, -, hafter⟩ := exists_of_calls_eq hcalls
  obtain ⟨counted, hbefore, hstep, hrest⟩ := h.called_inv
  cases hstep with
  | called hcounted =>
    exact ⟨before, after, counted, rfl, hafter, hbefore, hcounted count hcount, hrest⟩

/-- A transaction that was accepted under a hash was mined once there is a receipt for the hash. -/
theorem History.mined_of_receipt {front behind : List Exchange} {raw : Bytes} {hash : Hash}
    {r : Exchange} {receipt : Receipt} (h : History receipt? account ledger events ledger')
    (hcalls : calls events = front ++ e :: behind) (hcall : e.call = .sendRawTransaction raw)
    (hhash : e.value? (.sendRawTransaction raw) hash? = some hash) (hr : r ∈ behind)
    (hreceipt : r.value? (.transactionReceipt hash) receipt? = some (some receipt)) :
    raw ∈ ledger'.mined := by
  obtain ⟨front', behind', rfl⟩ := List.append_of_mem hr
  obtain ⟨before, after, rfl, -, hafter⟩ := exists_of_calls_eq hcalls
  obtain ⟨ledger₁, -, -, h₁⟩ := h.called_inv
  obtain ⟨before', after', rfl, -, -⟩ := exists_of_calls_eq hafter
  obtain ⟨ledger₂, hbetween, hstep, h₂⟩ := h₁.called_inv
  -- The node that has the receipt has the transaction among the accepted ones.
  have haccepted : (hash, raw) ∈ ledger₂.accepted :=
    hbetween.grows.2.subset (mem_accepted_record hcall hhash)
  have hmined : raw ∈ ledger₂.mined := by
    cases hstep with
    | called _ hmined => exact hmined hash receipt hreceipt raw haccepted
  apply h₂.grows.1.subset
  rwa [mined_record]

/-- Nodes that always answer the present count and have no receipt leave everything unmined. -/
theorem exists_history_of_unmined {es : List Exchange}
    (hcount : ∀ e ∈ es, ∀ count, e.value? (.transactionCount account) (quantity? (Bytes.limit 8)) =
      some count → count = ledger.mined.length)
    (hreceipt : ∀ e ∈ es, ∀ hash receipt,
      e.value? (.transactionReceipt hash) receipt? ≠ some (some receipt)) :
    ∃ ledger', History receipt? account ledger (es.map .called) ledger' := by
  induction es generalizing ledger with
  | nil => exact ⟨ledger, .nil⟩
  | cons e es ih =>
    have hstep : Step receipt? account ledger (.called e) (ledger.record e) :=
      .called (hcount e List.mem_cons_self)
        fun hash receipt h => absurd h (hreceipt e List.mem_cons_self hash receipt)
    have hcount' : ∀ e' ∈ es, ∀ count,
        e'.value? (.transactionCount account) (quantity? (Bytes.limit 8)) = some count →
          count = (ledger.record e).mined.length := by
      intro e' he'
      rw [mined_record]
      exact hcount e' (List.mem_cons_of_mem e he')
    obtain ⟨ledger', h⟩ := ih hcount' fun e' he' => hreceipt e' (List.mem_cons_of_mem e he')
    exact ⟨ledger', .cons hstep h⟩

/-- The nonces of the mined transactions are the numbers below their count. -/
theorem Ordered.used_iff (h : ledger.Ordered) (nonce : Nat) :
    ledger.Used nonce ↔ nonce < ledger.mined.length := by
  constructor
  · rintro ⟨raw, hraw, hnonce⟩
    obtain ⟨i, hi⟩ := List.mem_iff_getElem?.mp hraw
    have hsame := h i raw hi
    rw [hnonce] at hsame
    obtain rfl : nonce = i := Option.some.inj hsame
    exact (List.getElem?_eq_some_iff.mp hi).1
  · intro hlt
    have hraw : ledger.mined[nonce]? = some ledger.mined[nonce] := List.getElem?_eq_getElem hlt
    exact ⟨_, List.getElem_mem hlt, h nonce _ hraw⟩

theorem Used.mono {nonce : Nat} (h : ledger.Used nonce) (hgrown : ledger.mined <+: ledger'.mined) :
    ledger'.Used nonce := by
  obtain ⟨raw, hraw, hnonce⟩ := h
  exact ⟨raw, hgrown.subset hraw, hnonce⟩

end Ledger

end LayerMessaging
