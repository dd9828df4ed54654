/-!
# Durations

A duration counts nanoseconds. Its text uses the largest unit of which there is at least one and
shows the rest as a decimal fraction without trailing zeros: `20ms`, `1.5s`, `999ns`.
-/

namespace SensorLog

/-- A span of time, in nanoseconds. -/
structure Duration where
  nanos : Nat
deriving DecidableEq, Repr

namespace Duration

/-- A whole number of milliseconds. -/
def ofMillis (n : Nat) : Duration :=
  ⟨n * 1000000⟩

/-- `n` units of `10 ^ places` nanoseconds each, with the rest as a fraction. -/
def inUnits (n places : Nat) (unit : String) : String :=
  let rest := Nat.toDigits 10 (n % Nat.pow 10 places)
  let padded := List.replicate (places - rest.length) '0' ++ rest
  let fraction := (padded.reverse.dropWhile (· == '0')).reverse
  let point := if n % Nat.pow 10 places = 0 then "" else "." ++ String.ofList fraction
  toString (n / Nat.pow 10 places) ++ point ++ unit

/-- The duration in its largest unit. -/
def text (d : Duration) : String :=
  if 1000000000 ≤ d.nanos then inUnits d.nanos 9 "s"
  else if 1000000 ≤ d.nanos then inUnits d.nanos 6 "ms"
  else if 1000 ≤ d.nanos then inUnits d.nanos 3 "µs"
  else inUnits d.nanos 0 "ns"

example : (ofMillis 1500).text = "1.5s" := by decide +kernel
example : (⟨123456789⟩ : Duration).text = "123.456789ms" := by decide +kernel
example : (⟨100000000001⟩ : Duration).text = "100.000000001s" := by decide +kernel

end Duration

end SensorLog
