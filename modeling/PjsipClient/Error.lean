/-
Errors, and the ways a callback can end the process (`error.rs`).

`get_error_as_result` turns a pjlib status into a result; the text that `pj_strerror` gives for a
status is left uninterpreted (`Message.pjStrerror`). The callbacks that pjsua calls report failure
by `ffi_assert!` and `ffi_assert_res`, which exit the process, or by a panic that unwinds into C.
-/

import Mathlib.Data.Int.Basic

namespace PjsipClient

/-- A pjlib status, `pj_status_t`. -/
abbrev PjStatus := Int

/-- The status `PJ_SUCCESS`. -/
def pjSuccess : PjStatus := 0

/-- The id `PJSUA_INVALID_ID`. -/
def pjsuaInvalidId : Int := -1

/-- An error text: one of the crate's own, or what `pj_strerror` says about a status. -/
inductive Message
  | text (text : String)
  | pjStrerror (code : PjStatus)
  deriving DecidableEq, Repr

structure PjsuaError where
  code : PjStatus
  message : Message
  deriving DecidableEq, Repr

/-- The conversion `From<pj_status_t>`. -/
def PjsuaError.ofStatus (code : PjStatus) : PjsuaError := ⟨code, .pjStrerror code⟩

def getErrorAsResult (code : PjStatus) : Except PjsuaError Unit :=
  if code = pjSuccess then .ok () else .error (.ofStatus code)

/-- A failed status is reported under its own code. -/
theorem getErrorAsResult_cases (code : PjStatus) :
    (code = pjSuccess ∧ getErrorAsResult code = .ok ()) ∨
      (code ≠ pjSuccess ∧ getErrorAsResult code = .error (.ofStatus code)) := by
  by_cases success : code = pjSuccess
  · exact Or.inl ⟨success, if_pos success⟩
  · exact Or.inr ⟨success, if_neg success⟩

/-! ### How a callback ends the process -/

/-- The assertions of the callbacks, by what they check. -/
inductive Assertion
  | rxDataNotNull
  | accountUserDataNotNull
  | invState
  | stateSent
  | callInfo
  | mediaStatus
  | mediaDataReceived
  | confPort
  | confConnect
  | getFrame
  | frameType
  | rawFrame
  deriving DecidableEq, Repr

/-- What stops a callback from returning. `exit` is a failed `ffi_assert!`; `panic` unwinds out of
the callback; the last two are accesses that Rust leaves undefined. -/
inductive Abort
  | exit (failed : Assertion)
  | panic
  | nullDereference
  | useAfterFree
  deriving DecidableEq, Repr

/-- What a callback gives if it returns. -/
abbrev Outcome (α : Type) := Except Abort α

variable {α ε : Type}

/-- The macro `ffi_assert!`. -/
def ffiAssert (check : Assertion) (condition : Bool) : Outcome Unit :=
  if condition then .ok () else .error (.exit check)

/-- `ffi_assert_res`: the value, or the end of the process. -/
def ffiAssertRes (check : Assertion) : Except ε α → Outcome α
  | .ok value => .ok value
  | .error _ => .error (.exit check)

/-- `Result::expect` in a callback. -/
def expect : Except ε α → Outcome α
  | .ok value => .ok value
  | .error _ => .error .panic

/-- A computation that can panic, in a callback. -/
def unwinds : Except ε α → Outcome α
  | .ok value => .ok value
  | .error _ => .error .panic

/-- `Option::unwrap` in a callback. -/
def unwrap : Option α → Outcome α
  | some value => .ok value
  | none => .error .panic

end PjsipClient
