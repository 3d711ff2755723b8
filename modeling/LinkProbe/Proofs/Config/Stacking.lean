import LinkProbe.Config.Overrides
import Mathlib.Algebra.BigOperators.Group.List.Basic
import Mathlib.Algebra.Group.Action.Defs

/-!
# Layers over a configuration

Layers of overrides form a monoid, which acts on configurations: the upper layer of two wins in each
setting that it gives, and a setting that no layer gives stays as it was.

* `Config.Field`: the settings, one by one. `Config.value`, `Overrides.given`: what a configuration
  has for a setting, and what a layer gives.
* `Config.value_override`, `Overrides.given_above`: the rule, which is the same for all settings.
* `Config.override_all`: what any number of layers make of a configuration.
-/

namespace LinkProbe

/-! ## Settings one by one -/

namespace Config

/-- The settings of a configuration. -/
inductive Field where
  | host
  | port
  | mode
  | intervalMs
  | count
  | connectTimeoutMs
  | strictUtf8
  | readBufferSize
deriving DecidableEq, Repr

/-- What a layer can give for the setting. -/
def Field.Value : Field → Type
  | .host => String
  | .port => UInt16
  | .mode => Mode
  | .intervalMs | .count | .connectTimeoutMs | .readBufferSize => UInt64
  | .strictUtf8 => Bool

/-- What the configuration has for the setting; two settings may be without a value. -/
def value (c : Config) : (f : Field) → Option f.Value
  | .host => some c.host
  | .port => some c.port
  | .mode => some c.mode
  | .intervalMs => some c.intervalMs
  | .count => c.count
  | .connectTimeoutMs => c.connectTimeoutMs
  | .strictUtf8 => some c.strictUtf8
  | .readBufferSize => some c.readBufferSize

/-- Configurations with the same values are the same. -/
theorem eq_of_value {c d : Config} (h : ∀ f, c.value f = d.value f) : c = d := by
  obtain ⟨host, port, mode, intervalMs, count, connectTimeoutMs, strictUtf8, readBufferSize⟩ := c
  rw [Config.mk.injEq]
  exact ⟨Option.some.inj (h .host), Option.some.inj (h .port), Option.some.inj (h .mode),
    Option.some.inj (h .intervalMs), h .count, h .connectTimeoutMs,
    Option.some.inj (h .strictUtf8), Option.some.inj (h .readBufferSize)⟩

end Config

namespace Overrides

open Config (Field)

/-- What the layer gives for the setting. -/
def given (o : Overrides) : (f : Field) → Option f.Value
  | .host => o.host
  | .port => o.port
  | .mode => o.mode
  | .intervalMs => o.intervalMs
  | .count => o.count
  | .connectTimeoutMs => o.connectTimeoutMs
  | .strictUtf8 => o.strictUtf8
  | .readBufferSize => o.readBufferSize

/-- Layers that give the same are the same. -/
theorem eq_of_given {o p : Overrides} (h : ∀ f, o.given f = p.given f) : o = p := by
  obtain ⟨host, port, mode, intervalMs, count, connectTimeoutMs, strictUtf8, readBufferSize⟩ := o
  rw [Overrides.mk.injEq]
  exact ⟨h .host, h .port, h .mode, h .intervalMs, h .count, h .connectTimeoutMs, h .strictUtf8,
    h .readBufferSize⟩

@[simp] theorem given_none (f : Field) : Overrides.none.given f = .none := by cases f <;> rfl

@[simp] theorem given_above (o lower : Overrides) (f : Field) :
    (o.above lower).given f = (o.given f).or (lower.given f) := by
  cases f <;> rfl

end Overrides

/-- What a layer gives goes over what the configuration has. -/
@[simp] theorem Config.value_override (c : Config) (o : Overrides) (f : Config.Field) :
    (c.override o).value f = (o.given f).or (c.value f) := by
  cases f with
  | count | connectTimeoutMs => rfl
  | host | port | mode | intervalMs | strictUtf8 | readBufferSize => exact Option.or_some.symm

/-! ## The monoid and its action -/

/-- Layers are multiplied by laying the first over the second. -/
instance : Monoid Overrides where
  mul := Overrides.above
  mul_assoc := Overrides.above_assoc
  one := .none
  one_mul o := Overrides.eq_of_given fun f => by
    show (Overrides.above .none o).given f = o.given f
    simp
  mul_one o := Overrides.eq_of_given fun f => by
    show (o.above .none).given f = o.given f
    simp

/-- A layer acts on the configurations below it. -/
instance : MulAction Overrides Config where
  smul o c := c.override o
  one_smul := Config.override_none
  mul_smul o lower c := Config.override_above c o lower

namespace Config

open Overrides (given)

/-- After several layers a setting has what the last of them gives that gives anything. -/
theorem value_foldl (c : Config) (os : List Overrides) (f : Field) :
    (os.foldl override c).value f = (os.filterMap (given · f)).getLast?.or (c.value f) := by
  induction os generalizing c with
  | nil => rfl
  | cons o os ih =>
    rw [List.foldl_cons, ih, value_override, List.filterMap_cons]
    cases o.given f with
    | none => rfl
    | some v =>
      rw [List.getLast?_cons]
      cases (os.filterMap (given · f)).getLast? <;> rfl

/-- Layers one after the other act like their product. -/
theorem foldl_override (c : Config) (os : List Overrides) :
    os.foldl override c = os.reverse.prod • c := by
  induction os generalizing c with
  | nil => exact (one_smul Overrides c).symm
  | cons o os ih =>
    rw [List.foldl_cons, ih, List.reverse_cons, List.prod_append, List.prod_singleton, mul_smul]
    rfl

/-- A setting is without a value only if it was so and every layer leaves it open. -/
theorem value_foldl_eq_none {c : Config} {os : List Overrides} {f : Field} :
    (os.foldl override c).value f = .none ↔
      c.value f = .none ∧ ∀ o ∈ os, o.given f = .none := by
  rw [value_foldl, Option.or_eq_none_iff, List.getLast?_eq_none_iff, List.filterMap_eq_nil_iff,
    and_comm]

/-- **After any number of layers each setting has what the last layer gives that gives anything for
it, and the value from below if none does**; that says all about the configuration. Two layers act
like the one that prefers the upper in each setting, which makes a monoid of the layers, with the
empty layer as its one. No layer takes a number away. -/
theorem override_all (c : Config) (os : List Overrides) :
    (∀ d, d = os.foldl override c ↔
      ∀ f, d.value f = (os.filterMap (given · f)).getLast?.or (c.value f)) ∧
    (∀ lower upper : Overrides, (c.override lower).override upper = c.override (upper * lower) ∧
      ∀ f, (upper * lower).given f = (upper.given f).or (lower.given f)) ∧
    (∀ o p q : Overrides, o * p * q = o * (p * q)) ∧
    (∀ f, (1 : Overrides).given f = .none) ∧ c.override 1 = c ∧
    (∀ o : Overrides, 1 * o = o ∧ o * 1 = o) ∧
    os.foldl override c = c.override os.reverse.prod ∧
    (c.count ≠ .none → (os.foldl override c).count ≠ .none) ∧
    (c.connectTimeoutMs ≠ .none → (os.foldl override c).connectTimeoutMs ≠ .none) := by
  refine ⟨fun d => ⟨?_, fun h => ?_⟩, fun lower upper => ⟨?_, ?_⟩, mul_assoc, Overrides.given_none,
    override_none c, fun o => ⟨one_mul o, mul_one o⟩, foldl_override c os, mt fun h => ?_,
    mt fun h => ?_⟩
  · rintro rfl
    exact value_foldl c os
  · exact eq_of_value fun f => (h f).trans (value_foldl c os f).symm
  · exact (override_above c upper lower).symm
  · exact upper.given_above lower
  · exact (value_foldl_eq_none (f := .count).mp h).1
  · exact (value_foldl_eq_none (f := .connectTimeoutMs).mp h).1

/-- Of three layers over a configuration that stops after seven payloads, the second one sets the
number and the third one the time between them. -/
theorem override_all_stacked :
    let first := { Overrides.none with intervalMs := some 250, count := some 2 }
    let second := { Overrides.none with count := some 3 }
    let third := { Overrides.none with intervalMs := some 40, strictUtf8 := some true }
    let c := { standard with count := some 7 }
    [first, second, third].foldl override c =
        { standard with count := some 3, intervalMs := 40, strictUtf8 := true } ∧
      c.count ≠ .none ∧ ([first, second, third].foldl override c).count ≠ .none := by
  intro first second third c
  obtain ⟨hvalue, -, -, -, -, -, -, hcount, -⟩ := override_all c [first, second, third]
  exact ⟨((hvalue _).mpr fun f => by cases f <;> rfl).symm, by decide, hcount (by decide)⟩

end Config

end LinkProbe
