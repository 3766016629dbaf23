import LatencyTest.Core.Task

/-!
The three source-time selections of Trade and TradeETH observations
(`SourceTimeMethodComparison`, `src/core.cpp`).
-/

namespace LatencyTest

/-- Latency samples selected by the three timestamp-filtering methods.
`negativeClamped` counts clamped latencies of the all, the per-series and the
global method, in this order. -/
structure SourceTimeMethodSnapshot where
  all : List Int := []
  perSeriesMonotonic : List Int := []
  globalMonotonic : List Int := []
  perSeriesRejected : Nat := 0
  globalRejected : Nat := 0
  negativeClamped : Fin 3 → Nat := fun _ => 0

/-- The accumulated selections, the last source time of every series and the
last one of the whole stream. -/
structure SourceTimeMethodComparison where
  data : SourceTimeMethodSnapshot := {}
  lastBySeries : Text → Option Int := fun _ => none
  lastGlobal : Option Int := none

namespace SourceTimeMethodComparison

def reset (_ : SourceTimeMethodComparison) : SourceTimeMethodComparison := {}

/-- The key of a series: event kind code and symbol. -/
def seriesKey (kind : EventKind) (symbol : Text) : Text := kind.code :: ':' :: symbol

/-- Counts a clamped latency of one method. -/
def clamp (latencyMs : Int) (method : Fin 3) (counts : Fin 3 → Nat) : Fin 3 → Nat :=
  if latencyMs < 0 then Function.update counts method (counts method + 1) else counts

/-- The update of the per-series selection. -/
def observeSeries (series : Text) (sourceTimeMs latencyMs latencyNs : Int)
    (methods : SourceTimeMethodComparison) : SourceTimeMethodComparison :=
  let advances := match methods.lastBySeries series with
    | none => true
    | some last => decide (sourceTimeMs > last)
  if advances then
    { methods with
      lastBySeries := Function.update methods.lastBySeries series (some sourceTimeMs)
      data := { methods.data with
        perSeriesMonotonic := methods.data.perSeriesMonotonic ++ [latencyNs]
        negativeClamped := clamp latencyMs 1 methods.data.negativeClamped } }
  else
    { methods with
      data := { methods.data with perSeriesRejected := methods.data.perSeriesRejected + 1 } }

/-- The update of the global selection. -/
def observeGlobal (sourceTimeMs latencyMs latencyNs : Int)
    (methods : SourceTimeMethodComparison) : SourceTimeMethodComparison :=
  let advances := match methods.lastGlobal with
    | none => true
    | some last => decide (sourceTimeMs > last)
  if advances then
    { methods with
      lastGlobal := some sourceTimeMs
      data := { methods.data with
        globalMonotonic := methods.data.globalMonotonic ++ [latencyNs]
        negativeClamped := clamp latencyMs 2 methods.data.negativeClamped } }
  else
    { methods with
      data := { methods.data with globalRejected := methods.data.globalRejected + 1 } }

/-- Adds one observation; non-positive source times are ignored. -/
def observe (methods : SourceTimeMethodComparison) (kind : EventKind) (symbol : Text)
    (sourceTimeMs observedAtNs : Int) : SourceTimeMethodComparison :=
  if sourceTimeMs ≤ 0 then methods
  else
    let observedAtMs := observedAtNs.tdiv 1000000
    let latencyMs := observedAtMs - sourceTimeMs
    let latencyNs := max 0 latencyMs * 1000000
    let methods := { methods with
      data := { methods.data with
        all := methods.data.all ++ [latencyNs]
        negativeClamped := clamp latencyMs 0 methods.data.negativeClamped } }
    observeGlobal sourceTimeMs latencyMs latencyNs
      (observeSeries (seriesKey kind symbol) sourceTimeMs latencyMs latencyNs methods)

end SourceTimeMethodComparison

end LatencyTest
