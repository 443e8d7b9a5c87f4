import Panelli.WifiHal.GscanResult
import Panelli.WifiHal.ScanSetup

open panelli.netlink

namespace panelli.wifi_hal

def GSCAN_SUBCMD_GET_SCAN_RESULTS : UInt32 := 0x1004

def GSCAN_ATTRIBUTE_SCAN_RESULTS_COMPLETE : UInt16 := 21
def GSCAN_ATTRIBUTE_NUM_OF_RESULTS : UInt16 := 30
def GSCAN_ATTRIBUTE_FLUSH_RESULTS : UInt16 := 31
def GSCAN_ATTRIBUTE_SCAN_RESULTS : UInt16 := 32
def GSCAN_ATTRIBUTE_SCAN_ID : UInt16 := 33
def GSCAN_ATTRIBUTE_SCAN_FLAGS : UInt16 := 34
def GSCAN_ATTRIBUTE_CH_BUCKET_BITMASK : UInt16 := 36

/-- What the header of the framework fixes: the size of its scan result, and how
many of them one cached scan holds. -/
structure GscanHeader where
  sizeof_wifi_scan_result : Nat
  MAX_AP_CACHE_PER_SCAN : Nat

/-- One cached scan in the buffer of the caller. -/
structure CachedScanResults (hdr : GscanHeader) where
  scan_id : Int32
  flags : UInt8
  buckets_scanned : UInt32
  num_results : Int
  results : Vector WifiScanResult hdr.MAX_AP_CACHE_PER_SCAN

structure GetScanResultsCommand (hdr : GscanHeader) where
  mScans : List (CachedScanResults hdr)
  mMax : Nat
  mRetrieved : Nat
  mFlush : UInt8
  mCompleted : UInt8

/-- What was read of the attributes of a group so far. -/
structure ScanGroup where
  scan_id : Int32 := 0
  flags : UInt8 := 0
  num : Int := 0
  scan_ch_bucket_mask : UInt32 := 0

def put_u8 (attrtype : UInt16) (value : UInt8) : Assembly Unit := nla_put attrtype [value]

def GetScanResultsCommand.createRequest (mIface : Int32) (num : Nat) (flush : UInt8) : Assembly Unit := do
  WifiRequest.create mIface GOOGLE_OUI GSCAN_SUBCMD_GET_SCAN_RESULTS
  nested NL80211_ATTR_VENDOR_DATA do
    put_u32 GSCAN_ATTRIBUTE_NUM_OF_RESULTS (UInt32.ofNat num)
    put_u8 GSCAN_ATTRIBUTE_FLUSH_RESULTS flush

/-- The attributes of a group that are not scan results. -/
def ScanGroup.read (g : ScanGroup) (it2 : Place) : ScanGroup :=
  if it2.nla_type = GSCAN_ATTRIBUTE_SCAN_ID then { g with scan_id := it2.nla_get_u32.toInt32 }
  else if it2.nla_type = GSCAN_ATTRIBUTE_SCAN_FLAGS then { g with flags := it2.nla_get_u8 }
  else if it2.nla_type = GSCAN_ATTRIBUTE_NUM_OF_RESULTS then { g with num := it2.nla_get_u32.toInt32.toInt }
  else if it2.nla_type = GSCAN_ATTRIBUTE_CH_BUCKET_BITMASK then
    { g with scan_ch_bucket_mask := it2.nla_get_u32 }
  else g

/-- The count of a group cut to what an attribute holds and to what a scan can hold. -/
def ScanGroup.cut (hdr : GscanHeader) (g : ScanGroup) (it2 : Place) : ScanGroup :=
  { g with num := min (min g.num (it2.nla_len / hdr.sizeof_wifi_scan_result)) hdr.MAX_AP_CACHE_PER_SCAN }

/-- The scan result at an index of an attribute. -/
def resultAt (it2 : Place) (i : Nat) : GscanResult := .read (it2.nla_data.drop (i * SIZEOF_GSCAN_RESULT))

/-- A result of the caller's buffer after the driver's was copied to it. -/
def WifiScanResult.copy (old : WifiScanResult) (result : GscanResult) : WifiScanResult :=
  { convert_to_hal_result old result with ie_length := result.ie_length }

/-- A scan of the caller's buffer after a group was copied to it. -/
def CachedScanResults.copy {hdr : GscanHeader} (entry : CachedScanResults hdr) (g : ScanGroup) (it2 : Place) :
    CachedScanResults hdr where
  scan_id := g.scan_id
  flags := g.flags
  num_results := g.num
  buckets_scanned := g.scan_ch_bucket_mask
  results := Vector.ofFn fun i =>
    if (i.val : Int) < g.num then entry.results[i].copy (resultAt it2 i) else entry.results[i]

/-- A message of the kernel: its command and its vendor data attribute. -/
structure Reply where
  cmd : Int
  vendor_data : Option Place

/-- What happens to a request: the message for it, the replies, and how it ends. -/
structure Exchange where
  nlmsg_alloc : Option NlMsg
  replies : List Reply
  err : wifi_error

/-- What the caller gets, and how many requests were sent. -/
structure Executed (hdr : GscanHeader) where
  result : wifi_error
  command : GetScanResultsCommand hdr
  mNum : Option Nat
  sent : Nat

theorem appends_put_u8 (attrtype : UInt16) (value : UInt8) :
    Appends (put_u8 attrtype value) [⟨attrtype, [value]⟩] :=
  appends_nla_put attrtype [value]

theorem needs_put_u8 (attrtype : UInt16) (value : UInt8) : Needs (put_u8 attrtype value) 8 := by
  apply (needs_nla_put attrtype [value]).mono
  rw [List.length_singleton]
  decide

namespace GetScanResultsCommand

variable {hdr : GscanHeader}

/-- The loop over the attributes of a group. When the buffer is full, scan results end it. -/
def handleGroup : List Place → ScanGroup → GetScanResultsCommand hdr → GetScanResultsCommand hdr
  | [], _, c => c
  | it2 :: rest, g, c =>
    if it2.nla_type = GSCAN_ATTRIBUTE_SCAN_RESULTS ∧ g.num ≠ 0 then
      if c.mMax ≤ c.mRetrieved then c
      else
        handleGroup rest (g.cut hdr it2)
          { c with
            mScans := c.mScans.modify c.mRetrieved fun entry => entry.copy (g.cut hdr it2) it2
            mRetrieved := c.mRetrieved + 1 }
    else handleGroup rest (g.read it2) c

/-- The body of the loop over the attributes of the vendor data. -/
def handleAttr (c : GetScanResultsCommand hdr) (it : Place) : GetScanResultsCommand hdr :=
  if it.nla_type = GSCAN_ATTRIBUTE_SCAN_RESULTS_COMPLETE then { c with mCompleted := it.nla_get_u8 }
  else if GSCAN_ATTRIBUTE_NUM_OF_RESULTS ≤ it.nla_type ∧ it.nla_type ≤ GSCAN_ATTRIBUTE_CH_BUCKET_BITMASK then
    handleGroup (places it) {} c
  else c

def handleResponse (c : GetScanResultsCommand hdr) (reply : Reply) : GetScanResultsCommand hdr :=
  if reply.cmd = NL80211_CMD_VENDOR then
    match reply.vendor_data with
    | none => c
    | some vendor_data =>
      if vendor_data.nla_len = 0 then c else (places vendor_data.nla_data).foldl handleAttr c
  else c

/-- At most so many rounds of the loop in `execute`, from a round on. -/
def executeFrom (mIface : Int32) (kernel : Nat → Exchange) :
    Nat → Nat → GetScanResultsCommand hdr → Executed hdr
  | 0, i, c => ⟨WIFI_SUCCESS, c, some c.mRetrieved, i⟩
  | rounds + 1, i, c =>
    if c.mRetrieved < c.mMax then
      if ((kernel i).nlmsg_alloc.bind (createRequest mIface (c.mMax - c.mRetrieved) c.mFlush)).isSome then
        let c' := (kernel i).replies.foldl handleResponse c
        if (kernel i).err ≠ WIFI_SUCCESS then ⟨(kernel i).err, c', none, i + 1⟩
        else if c'.mRetrieved = c.mRetrieved ∨ c'.mCompleted ≠ 0 then
          ⟨WIFI_SUCCESS, c', some c'.mRetrieved, i + 1⟩
        else executeFrom mIface kernel rounds (i + 1) c'
      else ⟨WIFI_ERROR_OUT_OF_MEMORY, c, none, i⟩
    else ⟨WIFI_SUCCESS, c, some c.mRetrieved, i⟩

def execute (mIface : Int32) (kernel : Nat → Exchange) (c : GetScanResultsCommand hdr) : Executed hdr :=
  executeFrom mIface kernel 10 0 c

end GetScanResultsCommand

end panelli.wifi_hal
