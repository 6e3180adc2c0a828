import LayerMessaging.Config.Basic
import LayerMessaging.Proofs.Text.Blank

namespace LayerMessaging

namespace Config

def urlOf? (text : String) : Option Url := (Url.parse (Text.trim text)).toOption

def urlsOf? (text : String) : Option (List Url) :=
  ((Text.splitChars (· = ',') text.toList).filter (! ·.all Text.isBlank)).mapM fun item =>
    urlOf? (String.ofList item)

def chainIdOf? (text : String) : Option Nat :=
  (Numeral.plain (Bytes.limit 8) (Text.trim text)).toOption

def addressOf? (text : String) : Option Address := (FixedBytes.ofHex (Text.trim text)).toOption

def wordOf? (text : String) : Option Uint256 := (Uint256.ofText (Text.trim text)).toOption

structure Field where
  key : String
  means : String → Bool

def Field.of {α : Type} (key : String) (meaning : String → Option α) : Field :=
  ⟨key, fun text => (meaning text).isSome⟩

theorem Field.of_map {α β : Type} (key : String) (meaning : String → Option α) (g : α → β) :
    Field.of key (fun text => (meaning text).map g) = Field.of key meaning := by
  unfold Field.of
  simp only [Option.isSome_map]

def endpointFields : List Field :=
  [.of rpcUrlKey urlOf?, .of failoverUrlsKey urlsOf?, .of chainIdKey chainIdOf?]

def targetFields : List Field :=
  [.of l1ContractKey addressOf?, .of l2ContractKey wordOf?, .of messageValueKey wordOf?]

def fields (requirement : Requirement) : List Field :=
  (if requirement.needsEndpoint then endpointFields else [])
    ++ (if requirement.needsTarget then targetFields else [])

def isBlankKey (lookup : Lookup) (key : String) : Bool := (lookup key).all Text.isBlankText

def requirableKeys : List String :=
  ["ETH_RPC_URL", "ACCOUNT_PRIVATE_KEY", "L1_CONTRACT_ADDRESS", "L2_CONTRACT_ADDRESS"]

def blankKeys (requirement : Requirement) (lookup : Lookup) : List String :=
  requirableKeys.filter fun key => decide (key ∈ requiredKeys requirement) && isBlankKey lookup key

def isMalformed (lookup : Lookup) (field : Field) : Bool :=
  (given lookup field.key).any fun text => !field.means text

def firstMalformed? (requirement : Requirement) (lookup : Lookup) : Option String :=
  ((fields requirement).find? (isMalformed lookup)).map Field.key

variable {lookup : Lookup} {key text : String}

theorem given_isNone : (given lookup key).isNone = isBlankKey lookup key := by
  unfold given isBlankKey
  cases lookup key with
  | none => rfl
  | some value =>
    rw [Option.filter_some, Option.all_some]
    cases Text.isBlankText value <;> rfl

theorem filter_requirableKeys (requirement : Requirement) :
    requirableKeys.filter (· ∈ requiredKeys requirement) = requiredKeys requirement := by
  cases requirement <;> decide

theorem missingKeys_eq (requirement : Requirement) (lookup : Lookup) :
    missingKeys requirement lookup = blankKeys requirement lookup := by
  unfold missingKeys blankKeys
  simp only [given_isNone, Bool.and_comm (decide _)]
  rw [← List.filter_filter, filter_requirableKeys]

theorem exists_given (h : isBlankKey lookup key = false) :
    ∃ text, given lookup key = some text := by
  rw [← given_isNone] at h
  cases hgiven : given lookup key with
  | none =>
    rw [hgiven] at h
    cases h
  | some text => exact ⟨text, rfl⟩

/-- The text of a key is read to what it means, or the key is reported. -/
structure ReadsAs {α : Type} (key : String) (meaning : Option α) (result : Except ConfigError α) :
    Prop where
  toOption_eq : result.toOption = meaning
  error_inv : ∀ e, result = .error e → ∃ reason, e = .invalidValue key reason

theorem readsAs_url (key text : String) : ReadsAs key (urlOf? text) (url key text) := by
  unfold url urlOf?
  cases Url.parse (Text.trim text) with
  | ok value => exact ⟨rfl, nofun⟩
  | error e => exact ⟨rfl, by rintro _ ⟨⟩; exact ⟨_, rfl⟩⟩

theorem readsAs_chainId (text : String) :
    ReadsAs chainIdKey (chainIdOf? text) (chainId text) := by
  unfold chainId chainIdOf?
  cases Numeral.plain (Bytes.limit 8) (Text.trim text) with
  | ok value => exact ⟨rfl, nofun⟩
  | error e => exact ⟨rfl, by rintro _ ⟨⟩; exact ⟨_, rfl⟩⟩

theorem readsAs_address (key text : String) :
    ReadsAs key (addressOf? text) (address key text) := by
  unfold address addressOf?
  cases (FixedBytes.ofHex (Text.trim text) : Except Hex.Error Address) with
  | ok value => exact ⟨rfl, nofun⟩
  | error e => exact ⟨rfl, by rintro _ ⟨⟩; exact ⟨_, rfl⟩⟩

theorem readsAs_word (key text : String) : ReadsAs key (wordOf? text) (word key text) := by
  unfold word wordOf?
  cases Uint256.ofText (Text.trim text) with
  | ok value => exact ⟨rfl, nofun⟩
  | error e => exact ⟨rfl, by rintro _ ⟨⟩; exact ⟨_, rfl⟩⟩

namespace ReadsAs

variable {α β : Type} {meaning : Option α} {result : Except ConfigError α}

theorem map (h : ReadsAs key meaning result) (g : α → β) :
    ReadsAs key (meaning.map g) (g <$> result) := by
  obtain ⟨rfl, herror⟩ := h
  cases result with
  | ok a => exact ⟨rfl, nofun⟩
  | error e =>
    obtain ⟨reason, rfl⟩ := herror e rfl
    exact ⟨rfl, by rintro _ ⟨⟩; exact ⟨reason, rfl⟩⟩

theorem mapM {g : α → Option β} {f : α → Except ConfigError β} (h : ∀ a, ReadsAs key (g a) (f a))
    (as : List α) : ReadsAs key (as.mapM g) (as.mapM f) := by
  induction as with
  | nil => exact ⟨rfl, nofun⟩
  | cons a as ih =>
    obtain ⟨hhead, herror⟩ := h a
    obtain ⟨htail, herror'⟩ := ih
    rw [List.mapM_cons, List.mapM_cons, ← hhead, ← htail]
    cases ha : f a with
    | error e =>
      obtain ⟨reason, rfl⟩ := herror e ha
      exact ⟨rfl, by rintro _ ⟨⟩; exact ⟨reason, rfl⟩⟩
    | ok b =>
      cases has : as.mapM f with
      | error e =>
        obtain ⟨reason, rfl⟩ := herror' e has
        exact ⟨rfl, by rintro _ ⟨⟩; exact ⟨reason, rfl⟩⟩
      | ok bs => exact ⟨rfl, nofun⟩

end ReadsAs

/-- Trimming an item changes nothing about its URL, and leaves nothing of a blank one. -/
theorem urls_eq (key text : String) :
    urls key text =
      ((Text.splitChars (· = ',') text.toList).filter (! ·.all Text.isBlank)).mapM fun item =>
        url key (String.ofList item) := by
  unfold urls
  dsimp only
  rw [List.filter_map, List.mapM_map]
  have hitems : (fun cs => !cs.isEmpty) ∘ Text.trimChars =
      fun cs : List Char => !cs.all Text.isBlank := by
    funext cs
    rw [Function.comp_apply, Bool.eq_iff_iff]
    simp [Text.trimChars_eq_nil_iff]
  have hurl (item : List Char) : url key (String.ofList (Text.trimChars item)) =
      url key (String.ofList item) := by
    unfold url Text.trim
    rw [String.toList_ofList, String.toList_ofList, Text.trimChars_trimChars]
  rw [hitems]
  simp only [Function.comp_def, hurl]

theorem readsAs_urls (key text : String) : ReadsAs key (urlsOf? text) (urls key text) := by
  rw [urls_eq]
  exact ReadsAs.mapM (fun item => readsAs_url key (String.ofList item)) _

end Config

open Config

/-- The endpoint is what the texts of its keys mean. -/
structure Endpoint.Names (endpoint : Endpoint) (lookup : Lookup) : Prop where
  rpcUrl : (given lookup rpcUrlKey).bind urlOf? = some endpoint.rpcUrl
  failoverUrls : (given lookup failoverUrlsKey).elim (some []) urlsOf? = some endpoint.failoverUrls
  chainId : (given lookup chainIdKey).elim (some none) (fun text => (chainIdOf? text).map some) =
    some endpoint.chainId
  privateKey : given lookup privateKeyKey = some endpoint.privateKey.text

/-- The contracts are what the texts of their keys mean; without one, the value is one. -/
structure Target.Names (target : Target) (lookup : Lookup) : Prop where
  l1Contract : (given lookup l1ContractKey).bind addressOf? = some target.l1Contract
  l2Contract : (given lookup l2ContractKey).bind wordOf? = some target.l2Contract
  messageValue : (given lookup messageValueKey).elim (some Uint256.one) wordOf? =
    some target.messageValue

/-- The parts that are required are there and no other, and they are what the texts mean. -/
structure Config.Names (config : Config) (requirement : Requirement) (lookup : Lookup) : Prop where
  endpoint_isSome : config.endpoint.isSome = requirement.needsEndpoint
  target_isSome : config.target.isSome = requirement.needsTarget
  endpoint : ∀ endpoint, config.endpoint = some endpoint → endpoint.Names lookup
  target : ∀ target, config.target = some target → target.Names lookup

namespace Config

/-- What reading some fields in order comes to: a value if none of them is malformed, and otherwise
a report of the first that is. -/
inductive Reads {α : Type} (lookup : Lookup) (fields : List Field) (P : α → Prop) :
    Except ConfigError α → Prop
  | ok {a : α} (hfields : fields.find? (isMalformed lookup) = none) (h : P a) :
      Reads lookup fields P (.ok a)
  | error {field : Field} {reason : String}
      (h : fields.find? (isMalformed lookup) = some field) :
      Reads lookup fields P (.error (.invalidValue field.key reason))

namespace Reads

variable {α β : Type} {lookup : Lookup} {fs gs : List Field} {P : α → Prop} {Q : β → Prop}
  {result : Except ConfigError α} {f : α → Except ConfigError β}

theorem pure {a : α} (h : P a) : Reads lookup [] P (.ok a) := .ok rfl h

/-- Fields are read behind others if none of those is malformed. -/
theorem bind (hresult : Reads lookup fs P result) (hf : ∀ a, P a → Reads lookup gs Q (f a)) :
    Reads lookup (fs ++ gs) Q (result >>= f) := by
  cases hresult with
  | @ok a hfields h =>
    have hrest := hf a h
    change Reads lookup (fs ++ gs) Q (f a)
    cases hb : f a with
    | ok b =>
      rw [hb] at hrest
      cases hrest with
      | ok hfields' h' => exact .ok (by rw [List.find?_append, hfields, hfields']; rfl) h'
    | error e =>
      rw [hb] at hrest
      cases hrest with
      | error h' => exact .error (by rw [List.find?_append, hfields, h']; rfl)
  | error h => exact .error (by rw [List.find?_append, h]; rfl)

theorem map {g : α → β} (hresult : Reads lookup fs P result) (hg : ∀ a, P a → Q (g a)) :
    Reads lookup fs Q (g <$> result) := by
  cases hresult with
  | ok hfields h => exact .ok hfields (hg _ h)
  | error h => exact .error h

theorem given {key text : String} {meaning : String → Option α}
    (hgiven : Config.given lookup key = some text) (h : ReadsAs key (meaning text) result) :
    Reads lookup [.of key meaning]
      (fun a => (Config.given lookup key).bind meaning = some a) result := by
  obtain ⟨hmeaning, herror⟩ := h
  have hmalformed : isMalformed lookup (.of key meaning) = !result.toOption.isSome := by
    unfold isMalformed Field.of
    rw [hgiven, Option.any_some, hmeaning]
  cases result with
  | ok a =>
    refine .ok (List.find?_cons_of_neg ?_) ?_
    · rw [hmalformed]
      exact Bool.false_ne_true
    · rw [hgiven, Option.bind_some, ← hmeaning]
      rfl
  | error e =>
    obtain ⟨reason, rfl⟩ := herror e rfl
    have hfind : [Field.of key meaning].find? (isMalformed lookup) = some (.of key meaning) :=
      List.find?_cons_of_pos hmalformed
    exact .error hfind

theorem optional {key : String} {default : α} {meaning : String → Option α}
    {read : String → Except ConfigError α} (h : ∀ text, ReadsAs key (meaning text) (read text))
    (hf : ∀ a, (Config.given lookup key).elim (some default) meaning = some a →
      Reads lookup gs Q (f a)) :
    Reads lookup ([.of key meaning] ++ gs) Q
      (match Config.given lookup key with
        | some text => read text >>= f
        | none => Pure.pure default >>= f) := by
  cases hgiven : Config.given lookup key with
  | some text =>
    refine (given hgiven (h text)).bind fun a ha => hf a ?_
    rw [hgiven] at ha ⊢
    exact ha
  | none =>
    have hwell : isMalformed lookup (.of key meaning) = false := by
      unfold isMalformed Field.of
      rw [hgiven]
      rfl
    have hdefault : Reads lookup [.of key meaning] (· = default) (.ok default) := by
      refine .ok (List.find?_cons_of_neg ?_) rfl
      rw [hwell]
      exact Bool.false_ne_true
    refine hdefault.bind fun a ha => hf a ?_
    rw [hgiven, ha]
    rfl

theorem part {needed : Bool} {f : Option α → Except ConfigError β}
    (h : needed = true → Reads lookup fs P result)
    (hf : ∀ a, a.isSome = needed → (∀ b, a = some b → P b) → Reads lookup gs Q (f a)) :
    Reads lookup ((if needed then fs else []) ++ gs) Q
      (if needed then (some <$> result) >>= f else Pure.pure none >>= f) := by
  cases needed with
  | true =>
    have hsome : Reads lookup fs (fun a => a.isSome = true ∧ ∀ b, a = some b → P b)
        (some <$> result) := by
      refine (h rfl).map fun a ha => ⟨rfl, ?_⟩
      rintro _ ⟨⟩
      exact ha
    exact hsome.bind fun a ha => hf a ha.1 ha.2
  | false => exact hf none rfl nofun

end Reads

theorem reads_endpoint (hurl : isBlankKey lookup rpcUrlKey = false)
    (hkey : isBlankKey lookup privateKeyKey = false) :
    Reads lookup endpointFields (fun endpoint => endpoint.Names lookup) (readEndpoint lookup) := by
  obtain ⟨urlText, hurl⟩ := exists_given hurl
  obtain ⟨keyText, hkey⟩ := exists_given hkey
  unfold readEndpoint
  rw [hurl, hkey, Option.getD_some, Option.getD_some]
  change Reads lookup ([.of rpcUrlKey urlOf?] ++ ([.of failoverUrlsKey urlsOf?]
    ++ ([.of chainIdKey chainIdOf?] ++ []))) _ _
  refine Reads.bind (Reads.given hurl (readsAs_url rpcUrlKey urlText)) fun rpcUrl hrpcUrl => ?_
  refine Reads.optional (readsAs_urls failoverUrlsKey) fun failoverUrls hfailoverUrls => ?_
  -- Without a text there is no chain id, so that a text means an optional one.
  rw [← Field.of_map chainIdKey chainIdOf? some]
  refine Reads.optional (fun text => (readsAs_chainId text).map some) fun chainId hchainId => ?_
  exact .pure ⟨hrpcUrl, hfailoverUrls, hchainId, hkey⟩

theorem reads_target (hl1 : isBlankKey lookup l1ContractKey = false)
    (hl2 : isBlankKey lookup l2ContractKey = false) :
    Reads lookup targetFields (fun target => target.Names lookup) (readTarget lookup) := by
  obtain ⟨l1Text, hl1⟩ := exists_given hl1
  obtain ⟨l2Text, hl2⟩ := exists_given hl2
  unfold readTarget
  rw [hl1, hl2, Option.getD_some, Option.getD_some]
  change Reads lookup ([.of l1ContractKey addressOf?] ++ ([.of l2ContractKey wordOf?]
    ++ ([.of messageValueKey wordOf?] ++ []))) _ _
  refine Reads.bind (Reads.given hl1 (readsAs_address l1ContractKey l1Text))
    fun l1Contract hl1Contract => ?_
  refine Reads.bind (Reads.given hl2 (readsAs_word l2ContractKey l2Text))
    fun l2Contract hl2Contract => ?_
  refine Reads.optional (readsAs_word messageValueKey) fun messageValue hmessageValue => ?_
  exact .pure ⟨hl1Contract, hl2Contract, hmessageValue⟩

theorem not_blank_of_blankKeys_eq_nil {requirement : Requirement}
    (h : blankKeys requirement lookup = []) (hkey : key ∈ requiredKeys requirement) :
    isBlankKey lookup key = false := by
  rw [← missingKeys_eq] at h
  have hgiven := List.filter_eq_nil_iff.mp h key hkey
  rw [given_isNone] at hgiven
  exact Bool.eq_false_iff.mpr hgiven

inductive Resolution (requirement : Requirement) (lookup : Lookup) :
    Except ConfigError Config → Prop
  | missing (h : blankKeys requirement lookup ≠ []) :
      Resolution requirement lookup (.error (.missingKeys (blankKeys requirement lookup)))
  | malformed {key reason : String} (hblank : blankKeys requirement lookup = [])
      (h : firstMalformed? requirement lookup = some key) :
      Resolution requirement lookup (.error (.invalidValue key reason))
  | resolved {config : Config} (hblank : blankKeys requirement lookup = [])
      (hwell : firstMalformed? requirement lookup = none)
      (h : config.Names requirement lookup) :
      Resolution requirement lookup (.ok config)

theorem reads_parts {requirement : Requirement} (h : blankKeys requirement lookup = []) :
    Reads lookup (fields requirement) (fun config : Config => config.Names requirement lookup) (do
      let endpoint ←
        if requirement.needsEndpoint then some <$> readEndpoint lookup else pure none
      let target ← if requirement.needsTarget then some <$> readTarget lookup else pure none
      return (⟨endpoint, target⟩ : Config)) := by
  have hendpoint (hneeded : requirement.needsEndpoint = true) :
      Reads lookup endpointFields (fun endpoint => endpoint.Names lookup)
        (readEndpoint lookup) := by
    apply reads_endpoint <;> apply not_blank_of_blankKeys_eq_nil h <;> unfold requiredKeys <;>
      rw [if_pos hneeded]
    · exact List.mem_append_left _ (List.mem_cons_self ..)
    · exact List.mem_append_left _ (List.mem_cons_of_mem _ (List.mem_cons_self ..))
  have htarget (hneeded : requirement.needsTarget = true) :
      Reads lookup targetFields (fun target => target.Names lookup) (readTarget lookup) := by
    apply reads_target <;> apply not_blank_of_blankKeys_eq_nil h <;> unfold requiredKeys <;>
      rw [if_pos hneeded]
    · exact List.mem_append_right _ (List.mem_cons_self ..)
    · exact List.mem_append_right _ (List.mem_cons_of_mem _ (List.mem_cons_self ..))
  refine Reads.part hendpoint fun endpoint hisSome hnames => ?_
  rw [← List.append_nil (if requirement.needsTarget = true then _ else _)]
  exact Reads.part htarget fun target hisSome' hnames' =>
    .pure ⟨hisSome, hisSome', hnames, hnames'⟩

theorem Reads.resolution {requirement : Requirement} {result : Except ConfigError Config}
    (hblank : blankKeys requirement lookup = [])
    (h : Reads lookup (fields requirement) (fun config => config.Names requirement lookup) result) :
    Resolution requirement lookup result := by
  cases h with
  | ok hwell hnames =>
    refine .resolved hblank ?_ hnames
    unfold firstMalformed?
    rw [hwell, Option.map_none]
  | error hfirst =>
    refine .malformed hblank ?_
    unfold firstMalformed?
    rw [hfirst, Option.map_some]

theorem resolution_ofLookup (requirement : Requirement) (lookup : Lookup) :
    Resolution requirement lookup (ofLookup requirement lookup) := by
  unfold ofLookup
  dsimp only
  rw [missingKeys_eq]
  by_cases hblank : blankKeys requirement lookup = []
  · rw [if_neg (not_not_intro hblank)]
    exact (reads_parts hblank).resolution hblank
  · rw [if_pos hblank]
    exact .missing hblank

/-- The keys that are looked at for a requirement: those that must be given, and those whose texts
are read. -/
def keys (requirement : Requirement) : List String :=
  requiredKeys requirement ++ (fields requirement).map Field.key

variable {lookup' : Lookup}

theorem given_congr (h : lookup key = lookup' key) : given lookup key = given lookup' key := by
  unfold given
  rw [h]

theorem readEndpoint_congr
    (h : ∀ key ∈ endpointKeys ++ endpointFields.map Field.key, lookup key = lookup' key) :
    readEndpoint lookup = readEndpoint lookup' := by
  unfold readEndpoint
  rw [given_congr (h rpcUrlKey (by decide)), given_congr (h failoverUrlsKey (by decide)),
    given_congr (h chainIdKey (by decide)), given_congr (h privateKeyKey (by decide))]

theorem readTarget_congr
    (h : ∀ key ∈ targetKeys ++ targetFields.map Field.key, lookup key = lookup' key) :
    readTarget lookup = readTarget lookup' := by
  unfold readTarget
  rw [given_congr (h l1ContractKey (by decide)), given_congr (h l2ContractKey (by decide)),
    given_congr (h messageValueKey (by decide))]

theorem missingKeys_congr {requirement : Requirement}
    (h : ∀ key ∈ requiredKeys requirement, lookup key = lookup' key) :
    missingKeys requirement lookup = missingKeys requirement lookup' := by
  apply List.filter_congr
  intro key hkey
  rw [given_congr (h key hkey)]

/-- Nothing but the keys that are looked at bears on a configuration. -/
theorem ofLookup_congr {requirement : Requirement}
    (h : ∀ key ∈ keys requirement, lookup key = lookup' key) :
    ofLookup requirement lookup = ofLookup requirement lookup' := by
  have hmissing : missingKeys requirement lookup = missingKeys requirement lookup' :=
    missingKeys_congr fun key hkey => h key (List.mem_append_left _ hkey)
  have hendpoint (hneeded : requirement.needsEndpoint = true) :
      readEndpoint lookup = readEndpoint lookup' := by
    refine readEndpoint_congr fun key hkey => h key ?_
    unfold keys requiredKeys fields
    rw [if_pos hneeded, if_pos hneeded]
    simp only [List.map_append, List.mem_append] at hkey ⊢
    exact hkey.imp .inl .inl
  have htarget (hneeded : requirement.needsTarget = true) :
      readTarget lookup = readTarget lookup' := by
    refine readTarget_congr fun key hkey => h key ?_
    unfold keys requiredKeys fields
    rw [if_pos hneeded, if_pos hneeded]
    simp only [List.map_append, List.mem_append] at hkey ⊢
    exact hkey.imp .inr .inr
  unfold ofLookup
  rw [hmissing]
  cases hneeded : requirement.needsEndpoint <;> cases hneeded' : requirement.needsTarget <;>
    simp only [hneeded, hneeded', hendpoint, htarget, Bool.false_eq_true, if_false, if_true]

end Config

end LayerMessaging
