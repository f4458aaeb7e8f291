/-!
# Counting refusals

A drive may refuse requests for a while.  The driver counts refusals in a row, whatever they were
refusals of, and is alarmed by every so many of them.
-/

namespace SpindleDrive

/-- The refusals since the last answer or the last alarm, and how many make an alarm. -/
structure ExceptionCounter where
  count : Nat
  bound : Nat
  deriving DecidableEq, Repr

namespace ExceptionCounter

def ofBound (bound : Nat) : ExceptionCounter := ⟨0, bound⟩

/-- An answer that is no refusal starts the count again. -/
def clear (c : ExceptionCounter) : ExceptionCounter := { c with count := 0 }

/-- Counts a refusal and says whether the bound is reached, which starts the count again. -/
def record (c : ExceptionCounter) : Bool × ExceptionCounter :=
  if c.bound ≤ c.count + 1 then (true, c.clear)
  else (false, { c with count := c.count + 1 })

end ExceptionCounter

end SpindleDrive
