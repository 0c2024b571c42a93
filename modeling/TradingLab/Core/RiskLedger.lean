import TradingLab.Persistence.Orders

/-!
# The risk configuration

`GlobalRiskConfig`, the limits that the Core passes to every reservation.
-/
namespace TradingLab

structure GlobalRiskConfigFields where
  globalMaxExposureMinorUnits : Int := 50000
  maxExposurePerSymbolMinorUnits : Int := 20000
  consolidatedDailyStopLossMinorUnits : Int := 10000
  maxConsecutiveLosses : Int := 3
  referenceCurrency : String := "USD"
deriving DecidableEq, Repr

/-- The checks, and the currency in capitals. -/
def GlobalRiskConfigFields.postInit (c : GlobalRiskConfigFields) :
    Except String GlobalRiskConfigFields := do
  check (0 < c.globalMaxExposureMinorUnits) "global_max_exposure_minor_units must be positive"
  check (0 < c.maxExposurePerSymbolMinorUnits)
    "max_exposure_per_symbol_minor_units must be positive"
  check (c.maxExposurePerSymbolMinorUnits ≤ c.globalMaxExposureMinorUnits)
    "max_exposure_per_symbol cannot exceed global_max_exposure"
  check (0 < c.consolidatedDailyStopLossMinorUnits)
    "consolidated_daily_stop_loss_minor_units must be positive"
  check (0 < c.maxConsecutiveLosses) "max_consecutive_losses must be positive"
  check (c.referenceCurrency.length = 3 ∧ c.referenceCurrency.toList.all isAlpha = true)
    "reference_currency must be a 3-letter ISO code"
  .ok { c with referenceCurrency := String.ofList (upperChars c.referenceCurrency.toList) }

/-- A configuration that `GlobalRiskConfig(...)` has accepted. -/
structure GlobalRiskConfig extends GlobalRiskConfigFields where
  accepted : ∃ given : GlobalRiskConfigFields, given.postInit = .ok toGlobalRiskConfigFields

namespace GlobalRiskConfig

theorem limits_pos (config : GlobalRiskConfig) : 0 < config.globalMaxExposureMinorUnits ∧
    0 < config.maxExposurePerSymbolMinorUnits := by
  obtain ⟨given, accepted⟩ := config.accepted
  simp only [GlobalRiskConfigFields.postInit, Except.bind_ok_iff, check_eq_ok] at accepted
  obtain ⟨_, globally, _, bySymbol, _, -, _, -, _, -, _, -, same⟩ := accepted
  rw [← Except.ok.inj same]
  exact ⟨globally, bySymbol⟩

def limits (config : GlobalRiskConfig) : ExposureLimits where
  globalMaxExposureMinorUnits := some config.globalMaxExposureMinorUnits
  maxExposurePerSymbolMinorUnits := some config.maxExposurePerSymbolMinorUnits
  referenceCurrency := some config.referenceCurrency

end GlobalRiskConfig

end TradingLab
