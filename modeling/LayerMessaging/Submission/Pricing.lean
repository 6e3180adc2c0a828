import LayerMessaging.Chain.Error
import LayerMessaging.Settings.Basic

namespace LayerMessaging.Pricing

def gwei : Nat := 1000000000

def inGwei (price : Nat) : Nat := price / gwei

/-- Refuses a price of more whole gwei than the cap. The report has room for 64 bits. -/
def checkCap (settings : ChainSettings) (price : Nat) : Except ChainError Unit :=
  if settings.maxGasPriceGwei < inGwei price then
    .error (.gasPriceTooHigh (inGwei price % Bytes.limit 8) settings.maxGasPriceGwei)
  else .ok ()

/-- The offered price: the product, cut to whole wei. -/
def offeredPrice (settings : ChainSettings) (price : Nat) : Nat :=
  ((Binary64.ofNat price).mul settings.gasPriceMultiplier).toNatBelow (Bytes.limit 16)

/-- The offered gas: the product, with a part of a unit counted as a whole one. -/
def offeredGas (settings : ChainSettings) (estimate : Nat) : Nat :=
  ((Binary64.ofNat estimate).mul settings.gasLimitMultiplier).ceilBelow (Bytes.limit 8)

end LayerMessaging.Pricing
