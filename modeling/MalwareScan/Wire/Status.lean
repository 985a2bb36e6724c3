/-!
# Status codes

A scan call that fails does so with a status: a code and a text.
-/

namespace MalwareScan.Wire

/-- The codes with which a call can end. -/
inductive StatusCode where
  | ok
  | cancelled
  | unknown
  | invalidArgument
  | deadlineExceeded
  | notFound
  | alreadyExists
  | permissionDenied
  | resourceExhausted
  | failedPrecondition
  | aborted
  | outOfRange
  | unimplemented
  | internal
  | unavailable
  | dataLoss
  | unauthenticated
deriving DecidableEq, Repr

namespace StatusCode

/-- All codes, in the order of their numbers. -/
def all : List StatusCode := [
  ok, cancelled, unknown, invalidArgument, deadlineExceeded, notFound, alreadyExists,
  permissionDenied, resourceExhausted, failedPrecondition, aborted, outOfRange, unimplemented,
  internal, unavailable, dataLoss, unauthenticated]

/-- The number of a code. -/
def number (code : StatusCode) : Nat :=
  all.idxOf code

/-- The code with a number. A number without a code counts as `unknown`. -/
def ofNumber (n : Int) : StatusCode :=
  if n < 0 then unknown else all.getD n.toNat unknown

/-- A code is found by its number. -/
theorem ofNumber_number (code : StatusCode) : ofNumber code.number = code := by
  cases code <;> rfl

end StatusCode

/-- How a call ends. -/
structure Status where
  code : StatusCode
  text : String
deriving DecidableEq, Repr

end MalwareScan.Wire
