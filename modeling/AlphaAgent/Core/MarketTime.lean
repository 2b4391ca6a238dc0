import AlphaAgent.Core.Enums
import AlphaAgent.Core.Values

/-!
# Market-local time

The time zone of a market is given by its UTC offset at each instant, as a time
zone database has it.
-/

namespace AlphaAgent

/-- The UTC offset of each market's zone, in microseconds, at an instant. -/
abbrev MarketZones := Market → ℤ → ℤ

namespace MarketZones

variable (zones : MarketZones) (market : Market) (instant : ℤ)

/-- The wall clock of a market at an instant. -/
def wallClock : ℤ := instant + zones market instant

/-- The time of day of a market at an instant, in microseconds. -/
def localTime : ℤ := zones.wallClock market instant % microsecondsPerDay

/-- The day of a market at an instant. -/
def localDay : Day := zones.wallClock market instant / microsecondsPerDay

/-- Indian Standard Time, and Eastern Daylight Time for the US. -/
def summer : MarketZones
  | .india, _ => 19800 * 1000000
  | .us, _ => -14400 * 1000000

end MarketZones
end AlphaAgent
