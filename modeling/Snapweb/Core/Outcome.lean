/-!
# How functions end

Go's `error` values, and what a call comes to that returns one.
-/

namespace Snapweb

/-- A Go `error`, known by its text. -/
abbrev Error := String

/-- How an operation ends.  One that panics, as it does when a `nil` record is used as if it were
one, gets no response: the HTTP server drops the connection. -/
inductive Outcome
  | ok
  | error (e : Error)
  | panic
  deriving DecidableEq, Repr

/-- The outcome of a function that returns an error value. -/
def Outcome.ofError : Option Error → Outcome
  | none => .ok
  | some e => .error e

end Snapweb
