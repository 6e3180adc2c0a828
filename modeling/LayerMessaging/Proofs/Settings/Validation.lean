import LayerMessaging.Config.Load
import LayerMessaging.Proofs.Number.Rounding

namespace LayerMessaging

/-- A double is not less than one exactly if it reaches one, unless it is no number. -/
theorem Binary64.ltOne_eq_false_iff {x : Binary64} (hnan : x.value ≠ .nan) :
    x.ltOne = false ↔ x.Reaches one := by
  refine ⟨fun h => reaches_one_of_ltOne h hnan, ?_⟩
  unfold ltOne
  rintro (hx | ⟨units, hx, hle⟩)
  · rw [hx]
  · rw [hx]
    simpa using hle

namespace Settings

inductive Rule where
  | rpcUrl
  | rpcTimeout
  | gasPriceMultiplier
  | gasLimitMultiplier
  | receiptTimeout
  | tool
  | script
  deriving DecidableEq

namespace Rule

def all : List Rule :=
  [.rpcUrl, .rpcTimeout, .gasPriceMultiplier, .gasLimitMultiplier, .receiptTimeout, .tool, .script]

def field : Rule → String
  | .rpcUrl => "blockchain.rpc_url"
  | .rpcTimeout => "blockchain.rpc_timeout_secs"
  | .gasPriceMultiplier => "blockchain.gas_price_multiplier"
  | .gasLimitMultiplier => "blockchain.gas_limit_multiplier"
  | .receiptTimeout => "blockchain.receipt_timeout_secs"
  | .tool => "deploy.forge_bin"
  | .script => "deploy.script"

def Holds (s : Settings) : Rule → Prop
  | .rpcUrl => ∃ url, Url.parse s.chain.rpcUrl = .ok url
  | .rpcTimeout => 0 < s.chain.rpcTimeout
  | .gasPriceMultiplier => s.chain.gasPriceMultiplier.Reaches Binary64.one
  | .gasLimitMultiplier => s.chain.gasLimitMultiplier.Reaches Binary64.one
  | .receiptTimeout => 0 < s.chain.receiptTimeout ∨ s.chain.waitForReceipt = false
  | .tool => ∃ c ∈ s.deploy.tool.toList, Text.isBlank c = false
  | .script => ':' ∈ s.deploy.script.toList

def message (s : Settings) : Rule → String
  | .rpcUrl => "invalid URL '" ++ s.chain.rpcUrl ++ "'"
  | .rpcTimeout => "must be greater than 0"
  | .gasPriceMultiplier => "must be >= 1.0, got " ++ s.chain.gasPriceMultiplier.text
  | .gasLimitMultiplier => "must be >= 1.0, got " ++ s.chain.gasLimitMultiplier.text
  | .receiptTimeout => "must be greater than 0 when waiting for receipts"
  | .tool => "must not be empty"
  | .script => "expected 'path:Contract', got '" ++ s.deploy.script ++ "'"

def violation (s : Settings) (rule : Rule) : Violation := ⟨rule.field, rule.message s⟩

/-- The settings with the fields of a rule taken from others. -/
def adopt (s t : Settings) : Rule → Settings
  | .rpcUrl => { s with chain := { s.chain with rpcUrl := t.chain.rpcUrl } }
  | .rpcTimeout => { s with chain := { s.chain with rpcTimeout := t.chain.rpcTimeout } }
  | .gasPriceMultiplier =>
    { s with chain := { s.chain with gasPriceMultiplier := t.chain.gasPriceMultiplier } }
  | .gasLimitMultiplier =>
    { s with chain := { s.chain with gasLimitMultiplier := t.chain.gasLimitMultiplier } }
  | .receiptTimeout =>
    { s with chain := { s.chain with
      waitForReceipt := t.chain.waitForReceipt
      receiptTimeout := t.chain.receiptTimeout } }
  | .tool => { s with deploy := { s.deploy with tool := t.deploy.tool } }
  | .script => { s with deploy := { s.deploy with script := t.deploy.script } }

def Separates (rule : Rule) (s t : Settings) : Prop := rule.adopt s t = t

/-- Whether a rule is found to hold. A multiplier that is no number passes. -/
def passes (s : Settings) : Rule → Bool
  | .rpcUrl => isUrl s.chain.rpcUrl
  | .rpcTimeout => s.chain.rpcTimeout ≠ 0
  | .gasPriceMultiplier => !s.chain.gasPriceMultiplier.ltOne
  | .gasLimitMultiplier => !s.chain.gasLimitMultiplier.ltOne
  | .receiptTimeout => !(s.chain.waitForReceipt && s.chain.receiptTimeout = 0)
  | .tool => !Text.isBlankText s.deploy.tool
  | .script => s.deploy.script.toList.contains ':'

end Rule

def reported (s : Settings) (rule : Rule) : List Violation :=
  s.violations.filter (·.field = rule.field)

variable {s t : Settings} {rule other : Rule}

theorem Rule.mem_all (rule : Rule) : rule ∈ Rule.all := by
  cases rule <;> decide

theorem Rule.field_injective : Function.Injective Rule.field := by
  intro rule other h
  cases rule <;> cases other <;> first | rfl | exact absurd h (by decide)

theorem isUrl_iff {text : String} : isUrl text = true ↔ ∃ url, Url.parse text = .ok url := by
  unfold isUrl
  cases Url.parse text with
  | ok url => simp
  | error e => simp

/-- A rule is found to hold exactly if it does, unless a multiplier is no number. -/
theorem Rule.passes_iff (hprice : s.chain.gasPriceMultiplier.value ≠ .nan)
    (hlimit : s.chain.gasLimitMultiplier.value ≠ .nan) :
    rule.passes s = true ↔ rule.Holds s := by
  cases rule with
  | rpcUrl => exact isUrl_iff
  | rpcTimeout => simp [passes, Holds, Nat.pos_iff_ne_zero]
  | gasPriceMultiplier =>
    unfold passes Holds
    rw [Bool.not_eq_true', Binary64.ltOne_eq_false_iff hprice]
  | gasLimitMultiplier =>
    unfold passes Holds
    rw [Bool.not_eq_true', Binary64.ltOne_eq_false_iff hlimit]
  | receiptTimeout =>
    unfold passes Holds
    cases s.chain.waitForReceipt <;> simp [Nat.pos_iff_ne_zero]
  | tool => simp [passes, Holds, Text.isBlankText]
  | script => simp [passes, Holds]

/-- What is checked of some rules in turn are the violations of those that do not pass. -/
theorem flatMap_check (s : Settings) (rules : List Rule) :
    rules.flatMap (fun rule => check (rule.passes s) rule.field (rule.message s)) =
      (rules.filter fun rule => !rule.passes s).map (·.violation s) := by
  induction rules with
  | nil => rfl
  | cons rule rules ih =>
    rw [List.flatMap_cons, ih, List.filter_cons]
    unfold check
    cases rule.passes s <;> rfl

theorem violations_eq (s : Settings) :
    s.violations = (Rule.all.filter fun rule => !rule.passes s).map (·.violation s) := by
  rw [← flatMap_check]
  unfold violations Rule.all
  simp only [List.flatMap_cons, List.flatMap_nil, List.append_nil, List.append_assoc]
  rfl

/-- Each rule is reported at a field of its own. -/
theorem reported_eq (s : Settings) (rule : Rule) :
    s.reported rule = if rule.passes s then [] else [rule.violation s] := by
  have hfield : (fun other : Rule => decide ((other.violation s).field = rule.field)) =
      fun other => other == rule := by
    funext other
    exact decide_eq_decide.mpr Rule.field_injective.eq_iff
  have hall : Rule.all.filter (· == rule) = [rule] := by
    cases rule <;> rfl
  unfold reported
  rw [violations_eq, List.filter_map]
  change List.map _ (List.filter
    (fun other : Rule => decide ((other.violation s).field = rule.field)) _) = _
  rw [hfield, List.filter_filter]
  simp only [Bool.and_comm (_ == rule)]
  rw [← List.filter_filter, hall, List.filter_cons]
  cases rule.passes s <;> rfl

/-- A rule sees nothing of the fields of another. -/
theorem Rule.passes_adopt (h : other ≠ rule) (s t : Settings) :
    other.passes (rule.adopt s t) = other.passes s ∧
      other.violation (rule.adopt s t) = other.violation s := by
  cases rule <;> cases other <;> first | exact absurd rfl h | exact ⟨rfl, rfl⟩

theorem reported_of_separates (h : rule.Separates s t) (hne : other ≠ rule) :
    t.reported other = s.reported other := by
  obtain ⟨hpasses, hviolation⟩ := Rule.passes_adopt hne s t
  rw [h] at hpasses hviolation
  rw [reported_eq, reported_eq, hpasses, hviolation]

theorem load_of_described {files : Files} {path content : String}
    (hread : files.readText path = .ok content) (h : ofText content = some s) :
    load files path =
      if s.violations = [] then .ok s else .error (.invalidSettings s.violations) := by
  unfold load
  rw [hread]
  simp only [h, pure, bind, Except.bind, Except.pure]
  rfl

theorem exists_described_of_load {files : Files} {path : String} (h : load files path = .ok s) :
    ∃ content, files.readText path = .ok content ∧ ofText content = some s := by
  unfold load at h
  cases hread : files.readText path with
  | error e =>
    rw [hread] at h
    cases h
  | ok content =>
    rw [hread] at h
    cases hsettings : ofText content with
    | none =>
      simp only [hsettings, pure, bind, Except.bind, Except.pure] at h
      cases h
    | some settings =>
      simp only [hsettings, pure, bind, Except.bind, Except.pure] at h
      split at h
      · cases h
        exact ⟨content, rfl, hsettings⟩
      · cases h

/-- Settings are loaded exactly if a file describes them and no rule is violated. -/
theorem load_eq_ok_iff {files : Files} {path : String} :
    load files path = .ok s ↔
      (∃ content, files.readText path = .ok content ∧ ofText content = some s) ∧
        s.violations = [] := by
  constructor
  · intro h
    obtain ⟨content, hread, hdescribed⟩ := exists_described_of_load h
    refine ⟨⟨content, hread, hdescribed⟩, ?_⟩
    rw [load_of_described hread hdescribed] at h
    split at h
    · assumption
    · cases h
  · rintro ⟨⟨content, hread, hdescribed⟩, hviolations⟩
    rw [load_of_described hread hdescribed, if_pos hviolations]

/-- Unless a multiplier is no number, nothing is reported exactly if every rule holds. What is
reported are the violations of the rules that do not hold, in the order of the rules and each once,
and it is the same at the field of a rule whatever the fields of another are. Settings that are
loaded from a file have no violation. -/
theorem every_violated_rule_is_reported (hprice : s.chain.gasPriceMultiplier.value ≠ .nan)
    (hlimit : s.chain.gasLimitMultiplier.value ≠ .nan) :
    (s.violations = [] ↔ ∀ rule : Rule, rule.Holds s) ∧
    (∃ broken : List Rule, broken.Sublist Rule.all ∧ (∀ rule, rule ∈ broken ↔ ¬rule.Holds s) ∧
      s.violations = broken.map (·.violation s)) ∧
    (∀ rule : Rule, (rule.Holds s → s.reported rule = []) ∧
      (¬rule.Holds s → s.reported rule = [rule.violation s])) ∧
    (∀ (rule other : Rule) (t : Settings), rule.Separates s t → other ≠ rule →
      t.reported other = s.reported other) ∧
    ∀ (files : Files) (path : String), load files path = .ok s → s.violations = [] := by
  have hbroken (rule : Rule) :
      rule ∈ (Rule.all.filter fun rule => !rule.passes s) ↔ ¬rule.Holds s := by
    rw [List.mem_filter, Bool.not_eq_true', ← Bool.not_eq_true, Rule.passes_iff hprice hlimit]
    exact and_iff_right rule.mem_all
  refine ⟨?_, ⟨_, List.filter_sublist, hbroken, violations_eq s⟩, fun rule => ?_,
    fun rule other t => reported_of_separates, fun files path h => (load_eq_ok_iff.mp h).2⟩
  · rw [violations_eq, List.map_eq_nil_iff, List.eq_nil_iff_forall_not_mem]
    simp only [hbroken, Classical.not_not]
  · rw [reported_eq, ← Rule.passes_iff hprice hlimit]
    exact ⟨fun h => if_pos h, fun h => if_neg h⟩

def thriceBroken : Settings where
  chain := { defaultChain with rpcTimeout := 0, gasPriceMultiplier := .ofMagnitude false 0 }
  deploy := { defaultDeploy with script := "Deploy.s.sol" }
  logLevel := defaultLogLevel

theorem thriceBroken_is_reported :
    thriceBroken.chain.gasPriceMultiplier.value ≠ .nan ∧
    thriceBroken.chain.gasLimitMultiplier.value ≠ .nan ∧
    (∃ broken : List Rule, broken.Sublist Rule.all ∧
      (∀ rule, rule ∈ broken ↔ ¬rule.Holds thriceBroken) ∧
      thriceBroken.violations = broken.map (·.violation thriceBroken)) ∧
    thriceBroken.violations =
      [⟨"blockchain.rpc_timeout_secs", "must be greater than 0"⟩,
       ⟨"blockchain.gas_price_multiplier", "must be >= 1.0, got 0"⟩,
       ⟨"deploy.script", "expected 'path:Contract', got 'Deploy.s.sol'"⟩] := by
  have hprice : thriceBroken.chain.gasPriceMultiplier.value ≠ .nan := by decide +kernel
  have hlimit : thriceBroken.chain.gasLimitMultiplier.value ≠ .nan := by decide +kernel
  exact ⟨hprice, hlimit, (every_violated_rule_is_reported hprice hlimit).2.1, by decide +kernel⟩

end Settings

end LayerMessaging
