import Panelli.Rtt.Elements
import Mathlib.Algebra.Order.Ring.Int

open panelli.netlink

namespace panelli.rtt

def RTT_ATTRIBUTE_RESULTS_COMPLETE : UInt16 := 30
def RTT_ATTRIBUTE_RESULTS_PER_TARGET : UInt16 := 31
def RTT_ATTRIBUTE_RESULT : UInt16 := 33

def MAX_RESULTS : Nat := 1024

/-- What a command does to the memory and to the rest of the HAL, in order. -/
inductive RttEffect where
  | memcpy (r : RttResult)
  | unregisterVendorHandler
  | on_rtt_results (id : Int) (num : Nat) (results : List (Option RttResult))
  | free (block : Nat)
  | releaseRef
deriving DecidableEq

/-- What C++ leaves undefined. -/
inductive RttFault where
  | nullVendorData
  | overrun
deriving DecidableEq

/-- A command with its results. The blocks of memory are numbered as they are asked for. -/
structure RttCommand where
  mId : Int
  mCompleted : UInt32
  currentIdx : Nat
  totalCnt : Nat
  rttResults : List (Option RttResult)
  mallocs : Nat
  registered : Bool
  log : List RttEffect

def RttCommand.new (id : Int) : RttCommand where
  mId := id
  mCompleted := 0
  currentIdx := 0
  totalCnt := 0
  rttResults := List.replicate MAX_RESULTS none
  mallocs := 0
  registered := true
  log := []

/-- The payload of an attribute. -/
def payload (it2 : Place) : List UInt8 := it2.nla_data.take it2.nla_len.toNat

namespace RttCommand

/-- The copy of the payload of an attribute is the next result. -/
def store (sizeof_wifi_rtt_result : Nat) (c : RttCommand) (it2 : Place) (beyond : List UInt8) : RttCommand :=
  let rtt_result := copyResult sizeof_wifi_rtt_result c.mallocs (payload it2) beyond
  { c with
    rttResults := c.rttResults.set c.currentIdx (some rtt_result)
    totalCnt := c.totalCnt + 1
    currentIdx := c.currentIdx + 1
    mallocs := c.mallocs + 1
    log := c.log ++ [.memcpy rtt_result] }

/-- A failed allocation completes the measurement. -/
def storeNull (c : RttCommand) : RttCommand :=
  { c with
    rttResults := c.rttResults.set c.currentIdx none
    mCompleted := 1
    mallocs := c.mallocs + 1 }

section

variable (sizeof_wifi_rtt_result : Nat) (malloc : Nat → Option (List UInt8))

/-- The loop over the attributes of a target. A block comes with what is behind
it in memory, and where there is none the loop ends. -/
def handleTarget : List Place → RttCommand → Except RttFault RttCommand
  | [], c => .ok c
  | it2 :: rest, c =>
    if it2.nla_type = RTT_ATTRIBUTE_RESULT then
      if c.currentIdx < MAX_RESULTS then
        match malloc c.mallocs with
        | some beyond => handleTarget rest (c.store sizeof_wifi_rtt_result it2 beyond)
        | none => .ok c.storeNull
      else .error .overrun
    else handleTarget rest c

/-- The body of the loop over the attributes of an event. -/
def handleAttr (c : RttCommand) (it : Place) : Except RttFault RttCommand :=
  if it.nla_type = RTT_ATTRIBUTE_RESULTS_COMPLETE then .ok { c with mCompleted := it.nla_get_u32 }
  else if it.nla_type = RTT_ATTRIBUTE_RESULTS_PER_TARGET then
    handleTarget sizeof_wifi_rtt_result malloc (places it) c
  else .ok c

/-- What a completed measurement does: the results are reported and freed, and the
command is released. -/
def complete (c : RttCommand) : RttCommand :=
  { c with
    registered := false
    rttResults := List.replicate c.currentIdx none ++ c.rttResults.drop c.currentIdx
    totalCnt := 0
    currentIdx := 0
    log := c.log ++ [.unregisterVendorHandler, .on_rtt_results c.mId c.totalCnt c.rttResults] ++
      ((c.rttResults.take c.currentIdx).filterMap id).map (fun r => .free r.block) ++ [.releaseRef] }

/-- An event that lacks the vendor data is noticed, but not skipped. -/
def handleEvent (c : RttCommand) (vendor_data : Option Place) : Except RttFault RttCommand :=
  match vendor_data with
  | none => .error .nullVendorData
  | some vendor_data => do
    let c ← (places vendor_data).foldlM (handleAttr sizeof_wifi_rtt_result malloc) c
    return if c.mCompleted ≠ 0 then c.complete else c

/-- Events come to the command as long as its handler is registered. -/
def dispatch (c : RttCommand) (vendor_data : Option Place) : Except RttFault RttCommand :=
  if c.registered then c.handleEvent sizeof_wifi_rtt_result malloc vendor_data else .ok c

def run (c : RttCommand) (events : List (Option Place)) : Except RttFault RttCommand :=
  events.foldlM (dispatch sizeof_wifi_rtt_result malloc) c

end

end RttCommand

/-- The number of results in a group. -/
def countResults (group : List Place) : Nat := group.countP (·.nla_type == RTT_ATTRIBUTE_RESULT)

/-- The number of results in an attribute of an event. -/
def resultsIn (it : Place) : Nat :=
  if it.nla_type = RTT_ATTRIBUTE_RESULTS_PER_TARGET then countResults (places it) else 0

/-- The attributes of an event. -/
def eventAttributes (vendor_data : Option Place) : List Place := vendor_data.elim [] places

/-- The number of results an event carries. -/
def resultsOf (vendor_data : Option Place) : Nat := ((eventAttributes vendor_data).map resultsIn).sum

end panelli.rtt
