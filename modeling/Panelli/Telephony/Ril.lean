import Panelli.Java
import Mathlib.Tactic.SplitIfs

open panelli.java

namespace panelli.telephony

/-- The requests the MTK class handles itself. -/
inductive RequestCode where
  | RIL_REQUEST_EMERGENCY_DIAL
  | RIL_REQUEST_SET_ECC_SERVICE_CATEGORY
  | RIL_REQUEST_DATA_REGISTRATION_STATE
  | RIL_REQUEST_SETUP_DATA_CALL
  | RIL_REQUEST_ALLOW_DATA
  | RIL_REQUEST_GET_SIM_STATUS
  | other (code : Int)
deriving DecidableEq

/-- A value written to a request parcel. Strings may be null. -/
inductive ParcelValue where
  | writeInt (value : Int)
  | writeString (value : Option JString)
  | writeByteArray (value : List UInt8)
deriving DecidableEq

/-- A message to answer a request with. -/
abbrev Message : Type := Nat

structure RILRequest where
  mSerial : Int
  mRequest : RequestCode
  mResult : Option Message
  mParcel : List ParcelValue
deriving DecidableEq

/-- The outstanding requests, each under its own serial. -/
structure RequestList where
  get : Int → Option RILRequest
  mSerial_of_get : ∀ serial rr, get serial = some rr → rr.mSerial = serial

def RequestList.remove (mRequestList : RequestList) (serial : Int) : RequestList where
  get other := if other = serial then none else mRequestList.get other
  mSerial_of_get other rr hget := by
    split_ifs at hget
    exact mRequestList.mSerial_of_get other rr hget

@[simp] theorem RequestList.remove_get_self (mRequestList : RequestList) (serial : Int) :
    (mRequestList.remove serial).get serial = none :=
  if_pos rfl

/-- A list with one request. -/
def RequestList.single (rr : RILRequest) : RequestList where
  get serial := if serial = rr.mSerial then some rr else none
  mSerial_of_get serial other hget := by
    split_ifs at hget with hserial
    rw [← Option.some.inj hget, hserial]

/-- The part of a decoded setup answer that is looked at. -/
structure DataCallResponse where
  cid : Int
deriving DecidableEq

/-- The object a reply carries. Those only the superclass decodes are not told apart. -/
inductive Response where
  | null
  | strings (response : List (Option JString))
  | dataCall (response : DataCallResponse)
  | superResponse (object : Nat)
deriving DecidableEq

/-- The exception a reply carries: one that was thrown, or the error of the reply. -/
inductive Failure where
  | thrown (thr : Throwable)
  | commandException (error : Int)
deriving DecidableEq

structure AsyncResult where
  result : Response
  exception : Option Failure
deriving DecidableEq

/-- A result sent to the target of a message. -/
structure Delivery where
  target : Message
  asyncResult : AsyncResult
deriving DecidableEq

end panelli.telephony
