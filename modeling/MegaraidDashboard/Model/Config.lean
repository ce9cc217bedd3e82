import MegaraidDashboard.Model.Db.Retention

/-! # Settings

The fields that the modelled services read, with the checks of `validate_runtime_values` on them.
-/

namespace MegaraidDashboard

structure Settings extends Db.RetentionSettings where
  metricsIntervalSeconds : ℕ
  tempWarningCelsius : ℤ
  tempCriticalCelsius : ℤ
  tempHysteresisCelsius : ℤ
  rocTempWarningCelsius : ℤ
  rocTempCriticalCelsius : ℤ
  rocTempHysteresisCelsius : ℤ
  cvCapacitanceWarningPercent : ℤ
  telegramWarningConfirmMinutes : ℕ
  collectorStaleAlertMinutes : ℕ
  intervalPositive : 0 < metricsIntervalSeconds
  tempOrdered : tempWarningCelsius < tempCriticalCelsius
  tempHysteresisPositive : 1 ≤ tempHysteresisCelsius
  tempHysteresisSmall : tempHysteresisCelsius < tempWarningCelsius
  rocWarningRange : 40 ≤ rocTempWarningCelsius ∧ rocTempWarningCelsius ≤ 130
  rocCriticalRange : 40 ≤ rocTempCriticalCelsius ∧ rocTempCriticalCelsius ≤ 130
  rocOrdered : rocTempWarningCelsius < rocTempCriticalCelsius
  rocHysteresisPositive : 1 ≤ rocTempHysteresisCelsius
  rocHysteresisSmall : rocTempHysteresisCelsius < rocTempWarningCelsius
  capacitanceRange : 1 ≤ cvCapacitanceWarningPercent ∧ cvCapacitanceWarningPercent ≤ 100
  confirmPositive : 0 < telegramWarningConfirmMinutes
  stalePositive : 0 < collectorStaleAlertMinutes

/-- The default values. -/
def Settings.default : Settings where
  metricsRawRetentionDays := 30
  metricsHourlyRetentionDays := 365
  metricsIntervalSeconds := 300
  tempWarningCelsius := 55
  tempCriticalCelsius := 60
  tempHysteresisCelsius := 5
  rocTempWarningCelsius := 95
  rocTempCriticalCelsius := 105
  rocTempHysteresisCelsius := 5
  cvCapacitanceWarningPercent := 70
  telegramWarningConfirmMinutes := 15
  collectorStaleAlertMinutes := 15
  rawPositive := by decide
  hourlyPositive := by decide
  intervalPositive := by decide
  tempOrdered := by decide
  tempHysteresisPositive := by decide
  tempHysteresisSmall := by decide
  rocWarningRange := by decide
  rocCriticalRange := by decide
  rocOrdered := by decide
  rocHysteresisPositive := by decide
  rocHysteresisSmall := by decide
  capacitanceRange := by decide
  confirmPositive := by decide
  stalePositive := by decide

end MegaraidDashboard
