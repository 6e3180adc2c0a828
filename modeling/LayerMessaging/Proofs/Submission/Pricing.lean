import LayerMessaging.Proofs.Command.Answering
import LayerMessaging.Proofs.Number.Rounding
import LayerMessaging.Settings.Decode

namespace LayerMessaging

open Rpc

namespace Pricing

variable {settings : ChainSettings} {n : Nat}

/-- Numbers of 53 bits are those with as many significant bits as a double. -/
theorem lt_two_mul_binade (h : n < Nat.pow 2 53) : n < 2 * Binary64.binade := by
  have hlimit : Nat.pow 2 53 = 2 * Binary64.binade := by decide
  rwa [hlimit] at h

theorem le_offeredPrice (h : settings.gasPriceMultiplier.ltOne = false)
    (hnan : settings.gasPriceMultiplier.value ≠ .nan) (hn : n < Nat.pow 2 53) :
    n ≤ offeredPrice settings n := by
  -- Zero times infinity is no number, but whatever is offered is not below zero.
  rcases Nat.eq_zero_or_pos n with rfl | hpos
  · exact Nat.zero_le _
  · have hplaces := lt_two_mul_binade hn
    have hlimit : Nat.pow 2 53 ≤ Bytes.limit 16 := by decide
    have hproduct := (Binary64.ofNat_reaches hplaces).mul hpos hplaces
      (Binary64.reaches_one_of_ltOne h hnan)
    exact hproduct.le_toNatBelow (Nat.lt_of_lt_of_le hn hlimit)

theorem le_offeredGas (h : settings.gasLimitMultiplier.ltOne = false)
    (hnan : settings.gasLimitMultiplier.value ≠ .nan) (hn : n < Nat.pow 2 53) :
    n ≤ offeredGas settings n := by
  rcases Nat.eq_zero_or_pos n with rfl | hpos
  · exact Nat.zero_le _
  · have hplaces := lt_two_mul_binade hn
    have hlimit : Nat.pow 2 53 ≤ Bytes.limit 8 := by decide
    have hproduct := (Binary64.ofNat_reaches hplaces).mul hpos hplaces
      (Binary64.reaches_one_of_ltOne h hnan)
    exact hproduct.le_ceilBelow (Nat.lt_of_lt_of_le hn hlimit)

theorem offeredPrice_nan (h : settings.gasPriceMultiplier.value = .nan) (n : Nat) :
    offeredPrice settings n = 0 :=
  Binary64.toNatBelow_nan (Binary64.value_mul_nan _ h) _

theorem offeredGas_nan (h : settings.gasLimitMultiplier.value = .nan) (n : Nat) :
    offeredGas settings n = 0 :=
  Binary64.ceilBelow_nan (Binary64.value_mul_nan _ h) _

end Pricing

namespace Settings

theorem check_eq_nil {holds : Bool} {field message : String} (h : check holds field message = []) :
    holds = true := by
  unfold check at h
  cases holds with
  | true => rfl
  | false => cases h

/-- Settings that satisfy every rule have no multiplier below one. -/
theorem ltOne_of_violations_eq_nil {settings : Settings} (h : settings.violations = []) :
    settings.chain.gasPriceMultiplier.ltOne = false ∧
      settings.chain.gasLimitMultiplier.ltOne = false := by
  unfold violations at h
  simp only [List.append_eq_nil_iff] at h
  obtain ⟨⟨⟨⟨⟨-, hprice⟩, hgas⟩, -⟩, -⟩, -⟩ := h
  exact ⟨by simpa using check_eq_nil hprice, by simpa using check_eq_nil hgas⟩

end Settings

theorem Config.applyTo_multipliers (config : Config) (settings : ChainSettings) :
    (config.applyTo settings).gasPriceMultiplier = settings.gasPriceMultiplier ∧
      (config.applyTo settings).gasLimitMultiplier = settings.gasLimitMultiplier := by
  unfold applyTo
  split <;> exact ⟨rfl, rfl⟩

namespace Submitter

variable {s : Submitter} {network : Network} {recipient : Address} {value : Uint256} {data : Bytes}
  {es : List Exchange}

/-- What is built offers a price and gas for what the nodes first answered. -/
theorem Preparation.offers {tx : Transaction}
    (h : s.Preparation network recipient value data es (.ok tx)) :
    ∃ price estimate, firstValue? .gasPrice (quantity? (Bytes.limit 16)) es = some price ∧
      firstValue? (.estimateGas ⟨some s.wallet.address, some recipient, some value, some data⟩)
        (quantity? (Bytes.limit 8)) es = some estimate ∧
      tx.gasPrice = Pricing.offeredPrice s.client.settings price ∧
      tx.gasLimit = Pricing.offeredGas s.client.settings estimate := by
  cases h with
  | @built es₁ es₂ es₃ nonce price estimate hnonce hprice _ hestimate =>
    refine ⟨price, estimate, ?_, ?_, by dsimp only, by dsimp only⟩
    · rw [firstValue?_append, firstValue?_append, hnonce.firstValue?_of_ne Call.noConfusion,
        hprice.firstValue?_eq]
      rfl
    · rw [firstValue?_append, firstValue?_append, hnonce.firstValue?_of_ne Call.noConfusion,
        hprice.firstValue?_of_ne Call.noConfusion, hestimate.firstValue?_eq]
      rfl

/-- Under accepted settings a transaction that is built offers at least the price and the gas that
the nodes first answered, if these have 53 bits at most, unless the multiplier is no number. With
such a multiplier, which is accepted, it offers none. -/
theorem build_offers_reported_unless_nan (settings : Settings)
    (haccepted : settings.violations = []) (config : Config) (s : Submitter)
    (hsettings : s.client.settings = config.applyTo settings.chain) (network : Network)
    (recipient : Address) (value : Uint256) (data : Bytes) :
    Leaves (s.build network recipient value data).run fun es result =>
      ∀ tx, result = .ok tx → ∃ price estimate,
        firstValue? .gasPrice (quantity? (Bytes.limit 16)) es = some price ∧
        firstValue? (.estimateGas ⟨some s.wallet.address, some recipient, some value, some data⟩)
          (quantity? (Bytes.limit 8)) es = some estimate ∧
        (settings.chain.gasPriceMultiplier.value ≠ .nan → price < Nat.pow 2 53 →
          price ≤ tx.gasPrice) ∧
        (settings.chain.gasLimitMultiplier.value ≠ .nan → estimate < Nat.pow 2 53 →
          estimate ≤ tx.gasLimit) ∧
        (settings.chain.gasPriceMultiplier.value = .nan → tx.gasPrice = 0) ∧
        (settings.chain.gasLimitMultiplier.value = .nan → tx.gasLimit = 0) := by
  refine (s.leaves_build network recipient value data).mono fun es result h => ?_
  rintro tx rfl
  obtain ⟨price, estimate, hprice, hestimate, hoffered, hgas⟩ := h.offers
  obtain ⟨hpriceRule, hgasRule⟩ := Settings.ltOne_of_violations_eq_nil haccepted
  obtain ⟨hpriceFactor, hgasFactor⟩ := config.applyTo_multipliers settings.chain
  rw [hsettings] at hoffered hgas
  rw [← hpriceFactor] at hpriceRule ⊢
  rw [← hgasFactor] at hgasRule ⊢
  refine ⟨price, estimate, hprice, hestimate, ?_, ?_, ?_, ?_⟩
  · intro hnan hlt
    rw [hoffered]
    exact Pricing.le_offeredPrice hpriceRule hnan hlt
  · intro hnan hlt
    rw [hgas]
    exact Pricing.le_offeredGas hgasRule hnan hlt
  · intro hnan
    rw [hoffered]
    exact Pricing.offeredPrice_nan hnan price
  · intro hnan
    rw [hgas]
    exact Pricing.offeredGas_nan hnan estimate

def reportingAnswer : Call → Json
  | .gasPrice => .string "0x3b9aca00"
  | .estimateGas _ => .string "0x186a0"
  | _ => .string "0x0"

def reportedTo (settings : Settings) : Submitter where
  client := ⟨⟨0, ⟨"http", some ⟨"", none, some (.name "node0"), none⟩, "/", none, none⟩⟩, [],
    settings.chain⟩
  wallet := ⟨⟨2, by decide, by decide⟩, 1⟩

theorem default_settings_offer_reported :
    Settings.default.violations = [] ∧
    (reportedTo Settings.default).client.settings =
      Config.empty.applyTo Settings.default.chain ∧
    Leaves ((reportedTo Settings.default).build (answering reportingAnswer) default Uint256.zero
      []).run fun es result =>
      ∀ tx, result = .ok tx → ∃ price estimate,
        firstValue? .gasPrice (quantity? (Bytes.limit 16)) es = some price ∧
        firstValue? (.estimateGas ⟨some (reportedTo Settings.default).wallet.address, some default,
          some Uint256.zero, some []⟩) (quantity? (Bytes.limit 8)) es = some estimate ∧
        (price < Nat.pow 2 53 → price ≤ tx.gasPrice) ∧
        (estimate < Nat.pow 2 53 → estimate ≤ tx.gasLimit) := by
  have haccepted : Settings.default.violations = [] := by decide +kernel
  have hprice : Settings.default.chain.gasPriceMultiplier.value ≠ .nan := by decide +kernel
  have hgas : Settings.default.chain.gasLimitMultiplier.value ≠ .nan := by decide +kernel
  refine ⟨haccepted, rfl, ?_⟩
  refine (build_offers_reported_unless_nan Settings.default haccepted Config.empty
    (reportedTo Settings.default) rfl (answering reportingAnswer) default Uint256.zero
    []).mono fun es result h tx hresult => ?_
  obtain ⟨price, estimate, hp, he, hple, hele, -, -⟩ := h tx hresult
  exact ⟨price, estimate, hp, he, hple hprice, hele hgas⟩

def nanText : String :=
  "[blockchain]\ngas_price_multiplier = nan\ngas_limit_multiplier = nan\n"

def nanSettings : Settings :=
  { Settings.default with
    chain := { Settings.defaultChain with
      gasPriceMultiplier := Binary64.nan false
      gasLimitMultiplier := Binary64.nan false } }

/-- A settings file with multipliers that are no numbers is accepted. With it a transaction is built
that offers no price and no gas, where nodes report one gwei and a hundred thousand units. -/
theorem accepted_nan_offers_nothing :
    Settings.ofText nanText = some nanSettings ∧ nanSettings.violations = [] ∧
    (reportedTo nanSettings).client.settings = Config.empty.applyTo nanSettings.chain ∧
    ∃ tx world, ((reportedTo nanSettings).build (answering reportingAnswer) default Uint256.zero
        []).run .start = (.ok tx, world) ∧
      firstValue? .gasPrice (quantity? (Bytes.limit 16)) world.trace = some 1000000000 ∧
      firstValue? (.estimateGas ⟨some (reportedTo nanSettings).wallet.address, some default,
        some Uint256.zero, some []⟩) (quantity? (Bytes.limit 8)) world.trace = some 100000 ∧
      tx.gasPrice = 0 ∧ tx.gasLimit = 0 := by
  have hcount : quantity? (Bytes.limit 8) (.string "0x0") = some 0 := by decide +kernel
  have hprice : quantity? (Bytes.limit 16) (.string "0x3b9aca00") = some 1000000000 := by
    decide +kernel
  have hestimate : quantity? (Bytes.limit 8) (.string "0x186a0") = some 100000 := by
    decide +kernel
  have hpriceNan : (reportedTo nanSettings).client.settings.gasPriceMultiplier.value = .nan := by
    decide +kernel
  have hgasNan : (reportedTo nanSettings).client.settings.gasLimitMultiplier.value = .nan := by
    decide +kernel
  have hcap : Pricing.checkCap (reportedTo nanSettings).client.settings 1000000000 = .ok () := by
    unfold Pricing.checkCap
    exact if_neg (by decide +kernel)
  refine ⟨by decide +kernel, by decide +kernel, rfl, _, _,
    build_answering hcount hprice hcap hestimate, ?_, ?_, ?_, ?_⟩
  · simp [firstValue?, Client.afterCalls, World.start, Client.value?_answered,
      reportingAnswer, hprice]
  · simp [firstValue?, Client.afterCalls, World.start, Client.value?_answered,
      reportingAnswer, hestimate]
  · dsimp only
    exact Pricing.offeredPrice_nan hpriceNan _
  · dsimp only
    exact Pricing.offeredGas_nan hgasNan _

end Submitter

end LayerMessaging
