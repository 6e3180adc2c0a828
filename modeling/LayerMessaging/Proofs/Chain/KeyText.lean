import LayerMessaging.Proofs.Bytes.HexNumber
import LayerMessaging.Submission.Submitter

namespace LayerMessaging.Wallet

open Hex Secp256k1

/-- The markers that a key may have by its description: none, or `0x` once. -/
def describedMarkers : List (List Char) := [[], ['0', 'x']]

def furtherMarkers : List (List Char) := [['0', 'X'], ['0', 'x', '0', 'x'], ['0', 'x', '0', 'X']]

def keyMarkers : List (List Char) := describedMarkers ++ furtherMarkers

/-- Between blanks the text has the 64 digits of a number behind one of some markers. -/
def Spells (markers : List (List Char)) (text : String) (n : Nat) : Prop :=
  Marked markers 64 (Text.trimChars text.toList) n

def addressOf? (n : Nat) : Option Address :=
  if h : 0 < n ∧ n < order then some (address ⟨⟨n, h.1, h.2⟩, 0⟩) else none

variable {text : String} {n chainId : Nat} {cs : List Char} {key : SecretKey}

def unmarked : List Char → List Char
  | '0' :: 'x' :: rest => rest
  | cs => cs

/-- Behind `0x` stands what reading drops. -/
theorem append_mem_keyMarkers : ∀ marker ∈ dropped, ['0', 'x'] ++ marker ∈ keyMarkers := by decide

theorem mem_keyMarkers : ∀ marker ∈ dropped, marker ∈ keyMarkers := by decide

theorem unmarked_digits {digits : List Char} (h : ∀ c ∈ digits, Numeral.IsDigit 16 c) :
    unmarked digits = digits := by
  unfold unmarked
  split
  · have hx := h 'x' (by simp)
    exact absurd hx (by decide)
  · rfl

theorem marked_unmarked_iff : Marked dropped 64 (unmarked cs) n ↔ Marked keyMarkers 64 cs n := by
  constructor
  · intro h
    generalize hcs : unmarked cs = behind at h
    obtain ⟨hmarker, hcount, hdigits⟩ := h
    unfold unmarked at hcs
    split at hcs
    · subst hcs
      exact .behind (append_mem_keyMarkers _ hmarker) hcount hdigits
    · subst hcs
      exact .behind (mem_keyMarkers _ hmarker) hcount hdigits
  · rintro ⟨hmarker, hcount, hdigits⟩
    simp only [keyMarkers, describedMarkers, furtherMarkers, List.cons_append, List.nil_append,
      List.mem_cons, List.not_mem_nil, or_false] at hmarker
    have hread (marker : List Char) (hmarker : marker ∈ dropped) :=
      Marked.behind hmarker hcount hdigits
    rcases hmarker with rfl | rfl | rfl | rfl | rfl
    · rw [List.nil_append, unmarked_digits hdigits]
      exact hread [] (by decide)
    · exact hread [] (by decide)
    · exact hread ['0', 'X'] (by decide)
    · exact hread ['0', 'x'] (by decide)
    · exact hread ['0', 'X'] (by decide)

theorem readKey_eq (text : String) :
    readKey text =
      match decodeExact 32 (String.ofList (unmarked (Text.trimChars text.toList))) with
      | .error fault => .error (.hex fault)
      | .ok bytes =>
        match SecretKey.ofBytes? bytes with
        | some key => .ok key
        | none => .error .outOfRange := by
  unfold readKey unmarked
  generalize Text.trimChars text.toList = cs
  rfl

theorem ofBytes?_eq_some_iff {bytes : Bytes} :
    SecretKey.ofBytes? bytes = some key ↔ bytes.toNat = key.val := by
  unfold SecretKey.ofBytes?
  constructor
  · intro h
    split at h
    · cases h
      rfl
    · cases h
  · intro h
    rw [dif_pos (by rw [h]; exact ⟨key.pos, key.lt⟩)]
    cases key
    cases h
    rfl

/-- The key is the one whose number the text spells. -/
theorem readKey_eq_ok_iff : readKey text = .ok key ↔ Spells keyMarkers text key.val := by
  unfold Spells
  rw [← marked_unmarked_iff, show 64 = 2 * 32 from rfl, ← decodeExact_eq_ok_iff, readKey_eq]
  cases decodeExact 32 (String.ofList (unmarked (Text.trimChars text.toList))) with
  | error fault => simp
  | ok bytes =>
    simp only [Except.ok.injEq, exists_eq_left', ← ofBytes?_eq_some_iff]
    cases SecretKey.ofBytes? bytes <;> simp

theorem ofText_eq_ok_iff {wallet : Wallet} :
    ofText text chainId = .ok wallet ↔
      Spells keyMarkers text wallet.key.val ∧ wallet.chainId = chainId := by
  rw [← readKey_eq_ok_iff]
  unfold ofText
  obtain ⟨key, chainId'⟩ := wallet
  cases readKey text with
  | error fault => simp
  | ok key' => simp [eq_comm]

/-- A text is read exactly if it spells a number in the curve's range. -/
theorem exists_ofText_iff :
    (∃ wallet, ofText text chainId = .ok wallet) ↔
      ∃ n, Spells keyMarkers text n ∧ 0 < n ∧ n < order := by
  constructor
  · rintro ⟨wallet, h⟩
    exact ⟨_, (ofText_eq_ok_iff.mp h).1, wallet.key.pos, wallet.key.lt⟩
  · rintro ⟨n, hspells, hpos, hlt⟩
    exact ⟨⟨⟨n, hpos, hlt⟩, chainId⟩, ofText_eq_ok_iff.mpr ⟨hspells, rfl⟩⟩

/-- Why a text is no key does not depend on the chain. -/
theorem ofText_of_not_key (h : ¬∃ n, Spells keyMarkers text n ∧ 0 < n ∧ n < order) :
    ∃ reason, ∀ chainId, ofText text chainId = .error (.wallet reason) := by
  unfold ofText
  cases hread : readKey text with
  | ok key => exact absurd ⟨_, readKey_eq_ok_iff.mp hread, key.pos, key.lt⟩ h
  | error fault => exact ⟨_, fun _ => rfl⟩

/-- A text with a further marker has none of those described. -/
theorem Spells.not_described {n' : Nat} (h : Spells furtherMarkers text n) :
    ¬Spells describedMarkers text n' := by
  have hdisjoint : ∀ marker ∈ furtherMarkers, marker ∉ describedMarkers := by decide
  intro h'
  obtain ⟨-, marker, hfurther, hdescribed⟩ := Marked.unique h h'
  exact hdisjoint marker hfurther hdescribed

/-- The texts that are read although they are not as described. -/
theorem exists_ofText_not_described_iff :
    ((∃ wallet, ofText text chainId = .ok wallet) ∧ ∀ n, ¬Spells describedMarkers text n) ↔
      ∃ n, Spells furtherMarkers text n ∧ 0 < n ∧ n < order := by
  rw [exists_ofText_iff]
  constructor
  · rintro ⟨⟨n, hspells, hrange⟩, hnot⟩
    exact ⟨n, (marked_append_iff.mp hspells).resolve_left (hnot n), hrange⟩
  · rintro ⟨n, hspells, hrange⟩
    exact ⟨⟨n, marked_append_iff.mpr (.inr hspells), hrange⟩, fun _ => hspells.not_described⟩

theorem addressOf?_eq (wallet : Wallet) : addressOf? wallet.key.val = some wallet.address :=
  dif_pos ⟨wallet.key.pos, wallet.key.lt⟩

/-- What is no key is refused before any node is asked. -/
theorem connect_of_error {network : Rpc.Network} {settings : ChainSettings} {endpoint : Endpoint}
    {error : ChainError}
    (h : ofText endpoint.privateKey.text (settings.chainId.getD 0) = .error error)
    (world : Rpc.World) :
    (Submitter.connect network settings endpoint).run world = (.error error, world) := by
  unfold Submitter.connect
  rw [h]
  rfl

/-- A text is read as a key exactly if it spells a number in the curve's range. The address depends
on the number alone, whichever chain the wallet is bound to. Beyond the texts that have `0x` once at
most those with a further marker are read. Of any other text it is said that the wallet is at fault,
and connecting with it asks no node. -/
theorem key_texts_are_marked_digits (text : String) (chainId : Nat) :
    ((∃ wallet, ofText text chainId = .ok wallet) ↔
      ∃ n, Spells keyMarkers text n ∧ 0 < n ∧ n < order) ∧
    (∀ wallet n, ofText text chainId = .ok wallet → Spells keyMarkers text n →
      wallet.key.val = n ∧ wallet.chainId = chainId ∧ addressOf? n = some wallet.address ∧
        ∀ chainId', addressOf? n = some (wallet.withChainId chainId').address) ∧
    (((∃ wallet, ofText text chainId = .ok wallet) ∧ ∀ n, ¬Spells describedMarkers text n) ↔
      ∃ n, Spells furtherMarkers text n ∧ 0 < n ∧ n < order) ∧
    ((¬∃ n, Spells keyMarkers text n ∧ 0 < n ∧ n < order) →
      ∃ reason, ofText text chainId = .error (.wallet reason) ∧
        ∀ (network : Rpc.Network) (settings : ChainSettings) (endpoint : Endpoint)
          (world : Rpc.World), endpoint.privateKey.text = text →
            (Submitter.connect network settings endpoint).run world =
              (.error (.wallet reason), world)) := by
  refine ⟨exists_ofText_iff, fun wallet n hread hspells => ?_, exists_ofText_not_described_iff,
    fun hnot => ?_⟩
  · obtain ⟨hwallet, hchain⟩ := ofText_eq_ok_iff.mp hread
    obtain ⟨rfl, -⟩ := Marked.unique hwallet hspells
    exact ⟨rfl, hchain, wallet.addressOf?_eq, fun chainId' =>
      (wallet.withChainId chainId').addressOf?_eq⟩
  · obtain ⟨reason, hreason⟩ := ofText_of_not_key hnot
    refine ⟨reason, hreason chainId, fun network settings endpoint world htext => ?_⟩
    subst htext
    exact connect_of_error (hreason _) world

/-- A key behind two markers is read, although it is none by its description. -/
theorem key_behind_two_markers_is_read :
    let text := "0x0xac0974bec39a17e36ba4a6b4d238ff944bacb478cbed5efcae784d7bf4f2ff80"
    (∃ wallet, ofText text 1 = .ok wallet) ∧ ∀ n, ¬Spells describedMarkers text n := by
  intro text
  let digits := "ac0974bec39a17e36ba4a6b4d238ff944bacb478cbed5efcae784d7bf4f2ff80".toList
  have htrim : Text.trimChars text.toList = ['0', 'x', '0', 'x'] ++ digits := by decide +kernel
  have hdigits : ∀ c ∈ digits, Numeral.IsDigit 16 c := List.all_eq_true.mp (by decide +kernel)
  have hspells : Spells furtherMarkers text (Numeral.number 16 digits) := by
    unfold Spells
    rw [htrim]
    exact .behind (by decide) (by decide +kernel) hdigits
  exact exists_ofText_not_described_iff.mpr
    ⟨_, hspells, by decide +kernel, by decide +kernel⟩

end LayerMessaging.Wallet
