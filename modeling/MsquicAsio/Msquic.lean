/-
The parts of msquic's and Boost's vocabulary that the handles use: native
handles, status values, error codes and buffers.

msquic itself is not modelled.  What its calls return and which events it
delivers are inputs of every run; what it promises about them is stated by the
environments of the runs.
-/
import Mathlib.Data.List.Basic

set_option autoImplicit false

namespace MsquicAsio

/-- `HQUIC`, a native handle other than null. -/
abbrev Hquic := Nat

/-- `QUIC_STATUS` together with the answer of `QUIC_FAILED`.  No platform
counts the zero status as a failure. -/
structure QuicStatus where
  code : Int
  quicFailed : Bool
  nonzero : quicFailed = true → code ≠ 0
  deriving DecidableEq

namespace QuicStatus

def success : QuicStatus where
  code := 0
  quicFailed := false
  nonzero := by intro impossible; cases impossible

def failure : QuicStatus where
  code := -1
  quicFailed := true
  nonzero := by intro _ zero; cases zero

end QuicStatus

/-- The members of `net::error::basic_errors` that the handles assign. -/
inductive BasicError
  | connectionAborted
  | brokenPipe
  | shutDown
  | networkDown
  deriving DecidableEq

/-- `boost::system::error_code`: a value of the system category, one of the
basic errors, or the error with which a oneshot wait ends when no message can
come any more. -/
inductive ErrorCode
  | system (value : Int)
  | basic (error : BasicError)
  | oneshot
  deriving DecidableEq

namespace ErrorCode

def success : ErrorCode := .system 0

def failed : ErrorCode → Bool
  | .system value => decide (value ≠ 0)
  | .basic _ => true
  | .oneshot => true

/-- `ec.assign(Status, get_system_category())`. -/
def ofStatus (status : QuicStatus) : ErrorCode := .system status.code

@[simp] theorem failed_success : success.failed = false :=
  rfl

end ErrorCode

/-- The bytes that a `QUIC_BUFFER` of a RECEIVE event points at. -/
abbrev Buffer := List UInt8

def totalLength (buffs : List Buffer) : Nat :=
  buffs.flatten.length

end MsquicAsio
