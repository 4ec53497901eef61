/-!
# Cancelling a search

A search polls a token.  The token counts as cancelled once somebody has cancelled it or a poll
has found the clock at or past the deadline, and it stays so.  The clock moves on with every
reading; a signal may arrive during one of the readings.
-/

namespace CallChain

/-- A clock that moves on with every reading. -/
structure Clock where
  /-- What the next reading gives. -/
  now : Float := 0.0
  /-- What the reading after that gives, from the number of readings and the time of the last. -/
  next : Nat → Float → Float := fun _ time => time
  /-- How often it has been read. -/
  readings : Nat := 0
  /-- The reading during which a signal to stop arrives. -/
  signalAt : Option Nat := none

/-- A clock that moves by a tick with every reading. -/
def Clock.ticking (tick : Float) : Clock := { next := fun _ time => time + tick }

/-- What a reading of the clock gives. -/
structure Reading where
  time : Float
  signalled : Bool
  clock : Clock

/-- Reads the clock. -/
def Clock.read (c : Clock) : Reading where
  time := c.now
  signalled := c.signalAt == some (c.readings + 1)
  clock := { c with now := c.next (c.readings + 1) c.now, readings := c.readings + 1 }

/-- A number of seconds, as it was written. -/
inductive Seconds where
  | int (n : Int)
  | float (x : Float)

namespace Seconds

/-- The first whole number that is nearer to the next power of two than to the largest double. -/
def overflow : Nat := Nat.pow 2 1024 - Nat.pow 2 970

/-- The seconds as a double; there is none for whole numbers that are too large. -/
def toFloat? : Seconds → Option Float
  | .int n => if n.natAbs < overflow then some (Float.ofInt n) else none
  | .float x => some x

def isZero : Seconds → Bool
  | .int n => n == 0
  | .float x => x == 0.0

end Seconds

/-- A flag to stop, with an optional deadline. -/
structure CancelToken where
  cancelled : Bool := false
  deadline : Option Float := none

namespace CancelToken

/-- A token with a deadline some seconds from now; no time, or none at all, means no deadline.
There is no token with a deadline too large for the clock. -/
def create (timeout : Option Seconds) (clock : Clock) : Option CancelToken × Clock :=
  match timeout with
  | some seconds =>
    if seconds.isZero then (some {}, clock)
    else
      let reading := clock.read
      (seconds.toFloat?.map fun s => { deadline := some (reading.time + s) }, reading.clock)
  | none => (some {}, clock)

/-- Cancels the token. -/
def cancel (t : CancelToken) : CancelToken := { t with cancelled := true }

/-- Looks at the flag and, if it is not set, at the deadline; the answer is the flag of the new
token. -/
def poll (t : CancelToken) (clock : Clock) : CancelToken × Clock :=
  if t.cancelled then (t, clock)
  else match t.deadline with
    | none => (t, clock)
    | some deadline =>
      let reading := clock.read
      ({ t with cancelled := reading.signalled || decide (deadline ≤ reading.time) }, reading.clock)

/-- A token that polls as cancelled stays so. -/
theorem poll_of_cancelled {t : CancelToken} (hcancelled : t.cancelled = true) (clock : Clock) :
    t.poll clock = (t, clock) := by
  simp [poll, hcancelled]

end CancelToken

end CallChain
