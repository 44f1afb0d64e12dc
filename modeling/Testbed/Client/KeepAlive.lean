import Testbed.Client

/-!
# Keeping a server alive

While a session lasts, a cheap request at every full period keeps the server from idling out. A
failed one changes nothing; the end of the session ends them.
-/

namespace Testbed.Client.KeepAlive

/-- Milliseconds between two requests. -/
def period : Nat := 60000

/-- The times of the requests of a session from `start` to `stop`, up to the time `now`. -/
def times (period start stop now : Nat) : List Nat :=
  ((List.range ((min stop now - start) / period)).map fun n => start + (n + 1) * period).filter
    (· < stop)

variable {σ : Type} (c : Client) (send : Transport σ)

/-- One request, whatever comes of it. -/
def ping (s : σ) : σ := ((c.resolvableProperties send).run s).2

/-- `n` requests in a row. -/
def pings : Nat → σ → σ
  | 0, s => s
  | n + 1, s => pings n (ping c send s)

end Testbed.Client.KeepAlive
