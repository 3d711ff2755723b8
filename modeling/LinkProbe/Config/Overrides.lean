import LinkProbe.Config

/-!
# Overrides

A layer of settings over a configuration: what the layer leaves open stays as it was.

* `Config.override_none`: a layer that leaves everything open changes nothing.
* `Config.override_above`: two layers act like the one that combines them.
* `Overrides.above_assoc`: combining is associative.
-/

namespace LinkProbe

/-- Settings of which each may be left open. -/
structure Overrides where
  host : Option String
  port : Option UInt16
  mode : Option Mode
  intervalMs : Option UInt64
  count : Option UInt64
  connectTimeoutMs : Option UInt64
  strictUtf8 : Option Bool
  readBufferSize : Option UInt64
deriving DecidableEq, Repr

namespace Overrides

/-- The layer that leaves everything open. -/
def none : Overrides where
  host := .none
  port := .none
  mode := .none
  intervalMs := .none
  count := .none
  connectTimeoutMs := .none
  strictUtf8 := .none
  readBufferSize := .none

/-- The layer `o` over the layer `lower`: what `o` leaves open is taken from below. -/
def above (o lower : Overrides) : Overrides where
  host := o.host.or lower.host
  port := o.port.or lower.port
  mode := o.mode.or lower.mode
  intervalMs := o.intervalMs.or lower.intervalMs
  count := o.count.or lower.count
  connectTimeoutMs := o.connectTimeoutMs.or lower.connectTimeoutMs
  strictUtf8 := o.strictUtf8.or lower.strictUtf8
  readBufferSize := o.readBufferSize.or lower.readBufferSize

theorem above_assoc (a b c : Overrides) : (a.above b).above c = a.above (b.above c) := by
  simp [above, Option.or_assoc]

end Overrides

namespace Config

/-- The configuration under a layer of overrides. -/
def override (c : Config) (o : Overrides) : Config where
  host := o.host.getD c.host
  port := o.port.getD c.port
  mode := o.mode.getD c.mode
  intervalMs := o.intervalMs.getD c.intervalMs
  count := o.count.or c.count
  connectTimeoutMs := o.connectTimeoutMs.or c.connectTimeoutMs
  strictUtf8 := o.strictUtf8.getD c.strictUtf8
  readBufferSize := o.readBufferSize.getD c.readBufferSize

theorem override_none (c : Config) : c.override .none = c := by
  simp [override, Overrides.none]

theorem override_above (c : Config) (o lower : Overrides) :
    c.override (o.above lower) = (c.override lower).override o := by
  simp [override, Overrides.above, Option.getD_or, Option.or_assoc]

end Config

end LinkProbe
