/-!
# Cancellation

A search stops early when the flag of its token is raised or when the deadline
of its token has come. All tokens that derive from one another form a family and
share one flag; each has a deadline of its own, which deriving can only bring
forward. Time is counted in nanoseconds on a clock that ends some day.
-/

namespace Sudoku

/-- An instant of the clock, or a span between two, in nanoseconds. -/
abbrev Time := Nat

namespace Time

/-- The last instant of the clock, which counts seconds in 63 bits. -/
def last : Time := 0x8000000000000000 * 1000000000 - 1

/-- A span of whole seconds. -/
def seconds (count : Nat) : Time := count * 1000000000

/-- A span of whole milliseconds. -/
def milliseconds (count : Nat) : Time := count * 1000000

/-- The whole seconds of a span, and the nanoseconds beyond them. -/
def split (span : Time) : Nat × Nat := (span / 1000000000, span % 1000000000)

end Time

/-- A token of a family: the deadline that it adds to the flag of the family. -/
structure CancelToken where
  deadline : Option Time := none
  deriving DecidableEq

namespace CancelToken

/-- The token with a deadline, unless its own comes earlier. -/
def withDeadline (token : CancelToken) (deadline : Time) : CancelToken :=
  { deadline := some (token.deadline.elim deadline fun current => min current deadline) }

/-- The token with a deadline after the given span. A span that outlasts the
clock sets none. -/
def withTimeout (token : CancelToken) (now span : Time) : CancelToken :=
  if now + span ≤ Time.last then token.withDeadline (now + span) else token

/-- Whether the token counts as cancelled, given the flag of its family and the
time. -/
def isCancelled (token : CancelToken) (raised : Bool) (now : Time) : Bool :=
  raised || token.deadline.any fun deadline => decide (deadline ≤ now)

end CancelToken

/-- The tokens derived from one another, in the order they were made. -/
structure TokenFamily where
  raised : Bool := false
  tokens : List CancelToken := [{}]
  deriving DecidableEq

namespace TokenFamily

/-- A family of one token without a deadline, whose flag is down. -/
def new : TokenFamily := {}

/-- The token of the given number. -/
def token (family : TokenFamily) (number : Nat) : CancelToken :=
  family.tokens.getD number {}

/-- Add a token. -/
def add (family : TokenFamily) (token : CancelToken) : TokenFamily :=
  { family with tokens := family.tokens ++ [token] }

/-- Derive a token that is like another. -/
def clone (family : TokenFamily) (number : Nat) : TokenFamily :=
  family.add (family.token number)

/-- Derive a token with a deadline. -/
def withDeadline (family : TokenFamily) (number : Nat) (deadline : Time) : TokenFamily :=
  family.add ((family.token number).withDeadline deadline)

/-- Derive a token with a deadline after the given span. -/
def withTimeout (family : TokenFamily) (number : Nat) (now span : Time) : TokenFamily :=
  family.add ((family.token number).withTimeout now span)

/-- Cancel a token, which cancels its whole family. -/
def cancel (family : TokenFamily) (_number : Nat) : TokenFamily :=
  { family with raised := true }

/-- Whether the token of the given number counts as cancelled. -/
def isCancelled (family : TokenFamily) (number : Nat) (now : Time) : Bool :=
  (family.token number).isCancelled family.raised now

end TokenFamily

/-- What a search sees of the world: the time when it begins, and the flag of its
token and the clock at each of its steps. -/
structure Watch where
  start : Time
  raised : Nat → Bool
  clock : Nat → Time

namespace Watch

/-- A watch under which neither the flag nor the time changes. -/
def still (raised : Bool) (time : Time) : Watch where
  start := time
  raised _ := raised
  clock _ := time

/-- Whether a token counts as cancelled at a step. -/
def cancels (watch : Watch) (token : CancelToken) (step : Nat) : Bool :=
  token.isCancelled (watch.raised step) (watch.clock step)

end Watch

end Sudoku
