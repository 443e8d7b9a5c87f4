import Panelli.Netlink.Message
import Panelli.WifiHal.Registry

open panelli.bytes panelli.netlink

namespace panelli.wifi_hal

def NL80211_ATTR_IFINDEX : UInt16 := 3
def NL80211_ATTR_VENDOR_ID : UInt16 := 195
def NL80211_ATTR_VENDOR_SUBCMD : UInt16 := 196
def NL80211_ATTR_VENDOR_DATA : UInt16 := 197

def GSCAN_SUBCMD_SET_CONFIG : UInt32 := 0x1001

def GSCAN_ATTRIBUTE_NUM_BUCKETS : UInt16 := 10
def GSCAN_ATTRIBUTE_BASE_PERIOD : UInt16 := 11
def GSCAN_ATTRIBUTE_BUCKETS_BAND : UInt16 := 12
def GSCAN_ATTRIBUTE_BUCKET_ID : UInt16 := 13
def GSCAN_ATTRIBUTE_BUCKET_PERIOD : UInt16 := 14
def GSCAN_ATTRIBUTE_BUCKET_NUM_CHANNELS : UInt16 := 15
def GSCAN_ATTRIBUTE_BUCKET_CHANNELS : UInt16 := 16
def GSCAN_ATTRIBUTE_REPORT_EVENTS : UInt16 := 24
def GSCAN_ATTRIBUTE_BUCKET_STEP_COUNT : UInt16 := 25
def GSCAN_ATTRIBUTE_BUCKET_MAX_PERIOD : UInt16 := 26

def WIFI_BAND_UNSPECIFIED : Int32 := 0
def WIFI_BAND_ABG : Int32 := 3
def WIFI_BAND_ABG_WITH_DFS : Int32 := 7

/-- One bucket of a scan. The array of channels holds as many as are counted. -/
structure WifiScanBucketSpec where
  bucket : Int32
  band : Int32
  period : Int32
  report_events : UInt8
  max_period : Int32
  step_count : Int32
  num_channels : Int32
  channels : List Int32
  channels_fit : num_channels.toInt ≤ channels.length

/-- The parameters of a scan. The array of buckets holds as many as are counted. -/
structure WifiScanCmdParams where
  base_period : Int32
  num_buckets : Int32
  buckets : List WifiScanBucketSpec
  buckets_fit : num_buckets.toInt ≤ buckets.length

def put_u32 (attrtype : UInt16) (value : UInt32) : Assembly Unit := nla_put attrtype (le32 value.toNat)

/-- `WifiRequest::create` of a vendor command, to an interface if there is one. -/
def WifiRequest.create (mIface : Int32) (id : Nat) (subcmd : UInt32) : Assembly Unit := do
  put_u32 NL80211_ATTR_VENDOR_ID (UInt32.ofNat id)
  put_u32 NL80211_ATTR_VENDOR_SUBCMD subcmd
  if mIface ≠ -1 then
    put_u32 NL80211_ATTR_IFINDEX mIface.toUInt32

/-- A band that is none is replaced by the default. -/
def validBand (band : Int32) : Int32 :=
  if band < WIFI_BAND_UNSPECIFIED ∨ band > WIFI_BAND_ABG_WITH_DFS then WIFI_BAND_ABG else band

/-- The channels that are sent of a bucket. -/
def WifiScanBucketSpec.sentChannels (b : WifiScanBucketSpec) : List Int32 :=
  b.channels.take b.num_channels.toInt.toNat

/-- The buckets that are sent of a scan. -/
def WifiScanCmdParams.sentBuckets (p : WifiScanCmdParams) : List WifiScanBucketSpec :=
  p.buckets.take p.num_buckets.toInt.toNat

/-- The body of the loop over the buckets. -/
def putBucket (b : WifiScanBucketSpec) : Assembly Unit := do
  put_u32 GSCAN_ATTRIBUTE_BUCKET_ID b.bucket.toUInt32
  put_u32 GSCAN_ATTRIBUTE_BUCKET_PERIOD b.period.toUInt32
  put_u32 GSCAN_ATTRIBUTE_BUCKETS_BAND (validBand b.band).toUInt32
  put_u32 GSCAN_ATTRIBUTE_BUCKET_STEP_COUNT b.step_count.toUInt32
  put_u32 GSCAN_ATTRIBUTE_BUCKET_MAX_PERIOD b.max_period.toUInt32
  put_u32 GSCAN_ATTRIBUTE_REPORT_EVENTS b.report_events.toUInt32
  put_u32 GSCAN_ATTRIBUTE_BUCKET_NUM_CHANNELS b.num_channels.toUInt32
  if b.num_channels ≠ 0 then
    nested GSCAN_ATTRIBUTE_BUCKET_CHANNELS
      (b.sentChannels.zipIdx.forM fun entry => put_u32 (UInt16.ofNat entry.2) entry.1.toUInt32)

/-- `ScanCommand::createSetupRequest`. Each bucket is typed by its index. -/
def createSetupRequest (mIface : Int32) (mParams : WifiScanCmdParams) : Assembly Unit := do
  WifiRequest.create mIface GOOGLE_OUI GSCAN_SUBCMD_SET_CONFIG
  nested NL80211_ATTR_VENDOR_DATA do
    put_u32 GSCAN_ATTRIBUTE_BASE_PERIOD mParams.base_period.toUInt32
    put_u32 GSCAN_ATTRIBUTE_NUM_BUCKETS mParams.num_buckets.toUInt32
    mParams.sentBuckets.zipIdx.forM fun entry => nested (UInt16.ofNat entry.2) (putBucket entry.1)

/-- A bucket as it is read back from its attributes. -/
structure BucketSetup where
  bucket : Int32
  period : Int32
  band : Int32
  step_count : Int32
  max_period : Int32
  report_events : UInt8
  channels : List Int32
deriving DecidableEq

/-- The parameters as they are read back from the attributes of the vendor data. -/
structure ScanSetup where
  base_period : Int32
  num_buckets : Int32
  buckets : List BucketSetup
deriving DecidableEq

def findU32 (attrtype : UInt16) (as : List Attr) : Option UInt32 :=
  (as.find? (·.nla_type == attrtype)).map Attr.nla_get_u32

def findData (attrtype : UInt16) (as : List Attr) : Option (List UInt8) :=
  (as.find? (·.nla_type == attrtype)).map Attr.data

def readBucket (as : List Attr) : Option BucketSetup := do
  return {
    bucket := (← findU32 GSCAN_ATTRIBUTE_BUCKET_ID as).toInt32
    period := (← findU32 GSCAN_ATTRIBUTE_BUCKET_PERIOD as).toInt32
    band := (← findU32 GSCAN_ATTRIBUTE_BUCKETS_BAND as).toInt32
    step_count := (← findU32 GSCAN_ATTRIBUTE_BUCKET_STEP_COUNT as).toInt32
    max_period := (← findU32 GSCAN_ATTRIBUTE_BUCKET_MAX_PERIOD as).toInt32
    report_events := (← findU32 GSCAN_ATTRIBUTE_REPORT_EVENTS as).toUInt8
    channels := ((as.find? (·.nla_type == GSCAN_ATTRIBUTE_BUCKET_CHANNELS)).map fun a =>
      (attrs a.data).map fun channel => channel.nla_get_u32.toInt32).getD [] }

def isScalar (a : Attr) : Bool :=
  a.nla_type == GSCAN_ATTRIBUTE_BASE_PERIOD || a.nla_type == GSCAN_ATTRIBUTE_NUM_BUCKETS

/-- The two scalars are found by their types, and what else there is are the buckets. -/
def readSetup (as : List Attr) : Option ScanSetup := do
  return {
    base_period := (← findU32 GSCAN_ATTRIBUTE_BASE_PERIOD as).toInt32
    num_buckets := (← findU32 GSCAN_ATTRIBUTE_NUM_BUCKETS as).toInt32
    buckets := ← (as.filter fun a => !isScalar a).mapM fun a => readBucket (attrs a.data) }

def WifiScanBucketSpec.requested (b : WifiScanBucketSpec) : BucketSetup where
  bucket := b.bucket
  period := b.period
  band := validBand b.band
  step_count := b.step_count
  max_period := b.max_period
  report_events := b.report_events
  channels := b.sentChannels

def WifiScanCmdParams.requested (p : WifiScanCmdParams) : ScanSetup where
  base_period := p.base_period
  num_buckets := p.num_buckets
  buckets := p.sentBuckets.map WifiScanBucketSpec.requested

/-- The attributes in the vendor data of a message. -/
def vendorData (bytes : List UInt8) : Option (List Attr) :=
  ((attrs bytes).find? (·.nla_type == NL80211_ATTR_VENDOR_DATA)).map fun a => attrs a.data

/-- The vendor data starts with the two scalars, and no bucket has the type of one. -/
def ScalarsApart (as : List Attr) : Prop :=
  ∀ scalar ∈ as.take 2, ∀ bucket ∈ as.drop 2, bucket.nla_type ≠ scalar.nla_type

/-- The message determines the parameters. -/
def DeterminesSetup (mParams : WifiScanCmdParams) (bytes : List UInt8) : Prop :=
  ∃ as, vendorData bytes = some as ∧ readSetup as = some mParams.requested ∧ ScalarsApart as

/-- An attribute that holds a number of 32 bits. -/
def u32Attr (attrtype : UInt16) (value : UInt32) : Attr := ⟨attrtype, le32 value.toNat⟩

def channelAttrs (channels : List Int32) : List Attr :=
  channels.zipIdx.map fun entry => u32Attr (UInt16.ofNat entry.2) entry.1.toUInt32

/-- The attributes of a bucket. -/
def bucketAttrs (b : WifiScanBucketSpec) : List Attr :=
  u32Attr GSCAN_ATTRIBUTE_BUCKET_ID b.bucket.toUInt32 ::
  u32Attr GSCAN_ATTRIBUTE_BUCKET_PERIOD b.period.toUInt32 ::
  u32Attr GSCAN_ATTRIBUTE_BUCKETS_BAND (validBand b.band).toUInt32 ::
  u32Attr GSCAN_ATTRIBUTE_BUCKET_STEP_COUNT b.step_count.toUInt32 ::
  u32Attr GSCAN_ATTRIBUTE_BUCKET_MAX_PERIOD b.max_period.toUInt32 ::
  u32Attr GSCAN_ATTRIBUTE_REPORT_EVENTS b.report_events.toUInt32 ::
  u32Attr GSCAN_ATTRIBUTE_BUCKET_NUM_CHANNELS b.num_channels.toUInt32 ::
  if b.sentChannels = [] then []
  else [⟨GSCAN_ATTRIBUTE_BUCKET_CHANNELS, encodeAll (channelAttrs b.sentChannels)⟩]

def bucketAttr (entry : WifiScanBucketSpec × Nat) : Attr :=
  ⟨UInt16.ofNat entry.2, encodeAll (bucketAttrs entry.1)⟩

/-- The attributes of the vendor data. -/
def setupAttrs (p : WifiScanCmdParams) : List Attr :=
  u32Attr GSCAN_ATTRIBUTE_BASE_PERIOD p.base_period.toUInt32 ::
  u32Attr GSCAN_ATTRIBUTE_NUM_BUCKETS p.num_buckets.toUInt32 :: p.sentBuckets.zipIdx.map bucketAttr

/-- The attributes that address the command. -/
def createAttrs (mIface : Int32) (id : Nat) (subcmd : UInt32) : List Attr :=
  u32Attr NL80211_ATTR_VENDOR_ID (UInt32.ofNat id) :: u32Attr NL80211_ATTR_VENDOR_SUBCMD subcmd ::
  if mIface ≠ -1 then [u32Attr NL80211_ATTR_IFINDEX mIface.toUInt32] else []

section

variable {b : WifiScanBucketSpec} {p : WifiScanCmdParams} {as : List Attr}

theorem appends_put_u32 (attrtype : UInt16) (value : UInt32) :
    Appends (put_u32 attrtype value) [u32Attr attrtype value] :=
  appends_nla_put attrtype (le32 value.toNat)

theorem appends_create (mIface : Int32) (id : Nat) (subcmd : UInt32) :
    Appends (WifiRequest.create mIface id subcmd) (createAttrs mIface id subcmd) := by
  refine appends_cons (appends_put_u32 _ _) fun _ => appends_cons (appends_put_u32 _ _) fun _ => ?_
  by_cases hiface : mIface ≠ -1
  · rw [if_pos hiface, if_pos hiface]
    exact appends_put_u32 _ _
  · rw [if_neg hiface, if_neg hiface]
    exact appends_pure _

theorem needs_put_u32 (attrtype : UInt16) (value : UInt32) : Needs (put_u32 attrtype value) 8 := by
  apply (needs_nla_put attrtype (le32 value.toNat)).mono
  rw [le32_length]
  decide

theorem needs_create (mIface : Int32) (id : Nat) (subcmd : UInt32) :
    Needs (WifiRequest.create mIface id subcmd) (8 + (8 + 8)) := by
  apply needs_bind (needs_put_u32 _ _)
  intro _
  apply needs_bind (needs_put_u32 _ _)
  intro _
  by_cases hiface : mIface ≠ -1
  · rw [if_pos hiface]
    exact needs_put_u32 _ _
  · rw [if_neg hiface]
    exact (needs_pure ()).mono (Nat.zero_le 8)

/-- The room that is enough for a bucket, and for a whole scan. -/
def WifiScanBucketSpec.room (b : WifiScanBucketSpec) : Nat := 7 * 8 + (NLA_HDRLEN + 8 * b.sentChannels.length)

def WifiScanCmdParams.room (p : WifiScanCmdParams) : Nat :=
  8 + (8 + 8) + (NLA_HDRLEN + (8 + (8 + (p.sentBuckets.map fun b => NLA_HDRLEN + b.room).sum)))

theorem needs_putBucket (b : WifiScanBucketSpec) : Needs (putBucket b) b.room := by
  have hchannels : Needs (b.sentChannels.zipIdx.forM fun entry =>
      put_u32 (UInt16.ofNat entry.2) entry.1.toUInt32) (8 * b.sentChannels.length) := by
    have hsum : (b.sentChannels.zipIdx.map fun _ => 8).sum = 8 * b.sentChannels.length := by
      rw [List.map_const', List.sum_replicate_nat, List.length_zipIdx, Nat.mul_comm]
    rw [← hsum]
    exact needs_forM fun entry => needs_put_u32 _ _
  have hlast : Needs (if b.num_channels ≠ 0 then
      nested GSCAN_ATTRIBUTE_BUCKET_CHANNELS
        (b.sentChannels.zipIdx.forM fun entry => put_u32 (UInt16.ofNat entry.2) entry.1.toUInt32)
      else pure ()) (NLA_HDRLEN + 8 * b.sentChannels.length) := by
    split
    · exact needs_nested _ hchannels
    · exact (needs_pure ()).mono (Nat.zero_le _)
  have hroom : b.room = 8 + (8 + (8 + (8 + (8 + (8 + (8 + (NLA_HDRLEN + 8 * b.sentChannels.length))))))) := by
    rw [WifiScanBucketSpec.room]
    omega
  rw [hroom]
  iterate 7
    apply needs_bind (needs_put_u32 _ _)
    intro _
  exact hlast

theorem needs_createSetupRequest (mIface : Int32) (p : WifiScanCmdParams) :
    Needs (createSetupRequest mIface p) p.room := by
  apply needs_bind (needs_create _ _ _)
  intro _
  apply needs_nested
  apply needs_bind (needs_put_u32 _ _)
  intro _
  apply needs_bind (needs_put_u32 _ _)
  intro _
  have hbuckets : (p.sentBuckets.map fun b => NLA_HDRLEN + b.room) =
      p.sentBuckets.zipIdx.map fun entry => NLA_HDRLEN + entry.1.room := by
    conv_lhs => rw [← List.zipIdx_map_fst 0 p.sentBuckets, List.map_map]
    rfl
  rw [hbuckets]
  exact needs_forM fun entry => needs_nested _ (needs_putBucket entry.1)

theorem keepsSize_create (mIface : Int32) (id : Nat) (subcmd : UInt32) :
    KeepsSize (WifiRequest.create mIface id subcmd) := by
  apply keepsSize_bind (keepsSize_nla_put _ _)
  intro _
  apply keepsSize_bind (keepsSize_nla_put _ _)
  intro _
  by_cases hiface : mIface ≠ -1
  · rw [if_pos hiface]
    exact keepsSize_nla_put _ _
  · rw [if_neg hiface]
    exact keepsSize_pure ()

/-- The attributes that address a command have three types. -/
theorem createAttrs_nla_type {mIface : Int32} {id : Nat} {subcmd : UInt32} {attrtype : UInt16}
    (hid : NL80211_ATTR_VENDOR_ID ≠ attrtype) (hsubcmd : NL80211_ATTR_VENDOR_SUBCMD ≠ attrtype)
    (hifindex : NL80211_ATTR_IFINDEX ≠ attrtype) :
    ∀ a ∈ createAttrs mIface id subcmd, a.nla_type ≠ attrtype := by
  intro a ha
  rw [createAttrs, List.mem_cons, List.mem_cons] at ha
  obtain rfl | rfl | ha := ha
  · exact hid
  · exact hsubcmd
  · split_ifs at ha
    · rw [List.mem_singleton.mp ha]
      exact hifindex
    · cases ha

/-- The vendor data is read back from a message that has it behind other attributes. -/
theorem vendorData_of_appends {step : Assembly Unit} {front as : List Attr} {r : Unit} {alloc msg : NlMsg}
    (hstep : Appends step (front ++ [⟨NL80211_ATTR_VENDOR_DATA, encodeAll as⟩]))
    (hfront : ∀ a ∈ front, a.nla_type ≠ NL80211_ATTR_VENDOR_DATA) (hempty : alloc.bytes = [])
    (hmsg : step alloc = some (r, msg)) :
    attrs msg.bytes = front ++ [⟨NL80211_ATTR_VENDOR_DATA, encodeAll as⟩] ∧ vendorData msg.bytes = some as ∧
      (encodeAll as).length < 65536 := by
  have hbytes := hstep alloc r msg hmsg
  rw [hempty, List.nil_append] at hbytes
  have hsmall := msg.bytes_length_lt
  rw [hbytes] at hsmall
  have hmem : ⟨NL80211_ATTR_VENDOR_DATA, encodeAll as⟩ ∈ front ++ [⟨NL80211_ATTR_VENDOR_DATA, encodeAll as⟩] :=
    List.mem_append_right _ List.mem_cons_self
  have hdata : (encodeAll as).length < 65536 := Nat.lt_of_le_of_lt (Attr.data_length_le hmem) hsmall
  have hnone : front.find? (·.nla_type == NL80211_ATTR_VENDOR_DATA) = none := by
    rw [List.find?_eq_none]
    intro a ha
    simpa using hfront a ha
  have hattrs : attrs msg.bytes = front ++ [⟨NL80211_ATTR_VENDOR_DATA, encodeAll as⟩] := by
    rw [hbytes, attrs_encodeAll_of_lt hsmall]
  refine ⟨hattrs, ?_, hdata⟩
  rw [vendorData, hattrs, List.find?_append, hnone, Option.none_or, List.find?_cons_of_pos (by simp),
    Option.map_some, attrs_encodeAll_of_lt hdata]

theorem sentChannels_eq_nil (hnone : b.num_channels = 0) : b.sentChannels = [] := by
  rw [WifiScanBucketSpec.sentChannels, hnone]
  rfl

theorem appends_putBucket (b : WifiScanBucketSpec) : Appends (putBucket b) (bucketAttrs b) := by
  refine appends_cons (appends_put_u32 _ _) fun _ => appends_cons (appends_put_u32 _ _) fun _ =>
    appends_cons (appends_put_u32 _ _) fun _ => appends_cons (appends_put_u32 _ _) fun _ =>
    appends_cons (appends_put_u32 _ _) fun _ => appends_cons (appends_put_u32 _ _) fun _ =>
    appends_cons (appends_put_u32 _ _) fun _ => ?_
  have hchannels : Appends (b.sentChannels.zipIdx.forM fun entry =>
      put_u32 (UInt16.ofNat entry.2) entry.1.toUInt32) (channelAttrs b.sentChannels) :=
    appends_forM fun entry => appends_put_u32 _ _
  by_cases hsent : b.sentChannels = []
  · rw [if_pos hsent]
    rw [hsent] at hchannels ⊢
    split_ifs
    · exact appends_nested_nil hchannels
    · exact appends_pure _
  · rw [if_neg hsent, if_pos fun hnone => hsent (sentChannels_eq_nil hnone)]
    apply appends_nested hchannels
    simpa [channelAttrs, List.zipIdx_eq_nil_iff] using hsent

/-- A request that succeeds consists of the address and the vendor data. -/
theorem appends_createSetupRequest (mIface : Int32) (p : WifiScanCmdParams) :
    Appends (createSetupRequest mIface p) (createAttrs mIface GOOGLE_OUI GSCAN_SUBCMD_SET_CONFIG ++
      [⟨NL80211_ATTR_VENDOR_DATA, encodeAll (setupAttrs p)⟩]) := by
  refine appends_bind (appends_create _ _ _) fun _ => appends_nested ?_ (List.cons_ne_nil _ _)
  refine appends_cons (appends_put_u32 _ _) fun _ => appends_cons (appends_put_u32 _ _) fun _ => ?_
  exact appends_forM fun entry => appends_nested (appends_putBucket entry.1) (List.cons_ne_nil _ _)

theorem findU32_cons (attrtype : UInt16) (value : UInt32) (as : List Attr) :
    findU32 attrtype (u32Attr attrtype value :: as) = some value := by
  simp [findU32, u32Attr]

theorem find?_cons_u32Attr {attrtype other : UInt16} {value : UInt32} (hne : other ≠ attrtype) :
    (u32Attr other value :: as).find? (·.nla_type == attrtype) = as.find? (·.nla_type == attrtype) := by
  simp [u32Attr, hne]

theorem findU32_cons_ne {attrtype other : UInt16} {value : UInt32} (hne : other ≠ attrtype) :
    findU32 attrtype (u32Attr other value :: as) = findU32 attrtype as := by
  rw [findU32, find?_cons_u32Attr hne, findU32]

/-- The channels are read back in order, whatever their types. -/
theorem channelAttrs_values (channels : List Int32) :
    (channelAttrs channels).map (fun channel => channel.nla_get_u32.toInt32) = channels := by
  rw [channelAttrs, List.map_map]
  have hvalue : ((fun channel : Attr => channel.nla_get_u32.toInt32) ∘ fun entry : Int32 × Nat =>
      u32Attr (UInt16.ofNat entry.2) entry.1.toUInt32) = Prod.fst := by
    funext entry
    rw [Function.comp_apply, u32Attr, nla_get_u32_le32]
    rfl
  rw [hvalue, List.zipIdx_map_fst]

theorem channels_mem_bucketAttrs (hsent : b.sentChannels ≠ []) :
    ⟨GSCAN_ATTRIBUTE_BUCKET_CHANNELS, encodeAll (channelAttrs b.sentChannels)⟩ ∈ bucketAttrs b := by
  simp only [bucketAttrs, if_neg hsent, List.mem_cons, true_or, or_true]

theorem find?_channels (hsmall : (encodeAll (bucketAttrs b)).length < 65536) :
    (((bucketAttrs b).find? (·.nla_type == GSCAN_ATTRIBUTE_BUCKET_CHANNELS)).map fun a =>
      (attrs a.data).map fun channel => channel.nla_get_u32.toInt32).getD [] = b.sentChannels := by
  by_cases hsent : b.sentChannels = []
  · rw [bucketAttrs, if_pos hsent, hsent]
    simp (disch := decide) only [find?_cons_u32Attr]
    rfl
  · have hchannels := Nat.lt_of_le_of_lt (Attr.data_length_le (channels_mem_bucketAttrs hsent)) hsmall
    rw [bucketAttrs, if_neg hsent]
    simp (disch := decide) only [find?_cons_u32Attr]
    simp only [List.find?_cons_of_pos, beq_self_eq_true, Option.map_some, Option.getD_some]
    rw [attrs_encodeAll_of_lt hchannels, channelAttrs_values]

/-- A bucket is read back from its attributes. -/
theorem readBucket_bucketAttrs (hsmall : (encodeAll (bucketAttrs b)).length < 65536) :
    readBucket (bucketAttrs b) = some b.requested := by
  unfold readBucket
  rw [find?_channels hsmall]
  unfold bucketAttrs
  simp (disch := decide) only [findU32_cons, findU32_cons_ne]
  simp [WifiScanBucketSpec.requested]

theorem sentBuckets_length (p : WifiScanCmdParams) : p.sentBuckets.length = p.num_buckets.toInt.toNat := by
  have hfit := p.buckets_fit
  rw [WifiScanCmdParams.sentBuckets, List.length_take]
  omega

/-- A bucket among the first ten has the type of no scalar. -/
theorem not_isScalar_of_lt {entry : WifiScanBucketSpec × Nat} (hlt : entry.2 < 10) :
    isScalar (bucketAttr entry) = false := by
  have hne : ∀ i < 10, UInt16.ofNat i ≠ 11 ∧ UInt16.ofNat i ≠ 10 := by decide
  simpa [isScalar, bucketAttr, GSCAN_ATTRIBUTE_BASE_PERIOD, GSCAN_ATTRIBUTE_NUM_BUCKETS] using hne entry.2 hlt

theorem index_lt {entry : WifiScanBucketSpec × Nat} (hentry : entry ∈ p.sentBuckets.zipIdx)
    (hten : p.num_buckets.toInt ≤ 10) : entry.2 < 10 := by
  have hlt := (List.mem_zipIdx' hentry).1
  rw [sentBuckets_length] at hlt
  omega

/-- With ten buckets at most, the attributes say what was asked for. -/
theorem readSetup_setupAttrs (hten : p.num_buckets.toInt ≤ 10)
    (hsmall : (encodeAll (setupAttrs p)).length < 65536) : readSetup (setupAttrs p) = some p.requested := by
  have hbuckets : (setupAttrs p).filter (fun a => !isScalar a) = p.sentBuckets.zipIdx.map bucketAttr := by
    have hbase : isScalar (u32Attr GSCAN_ATTRIBUTE_BASE_PERIOD p.base_period.toUInt32) = true := rfl
    have hnum : isScalar (u32Attr GSCAN_ATTRIBUTE_NUM_BUCKETS p.num_buckets.toUInt32) = true := rfl
    rw [setupAttrs, List.filter_cons_of_neg (by simp [hbase]), List.filter_cons_of_neg (by simp [hnum]),
      List.filter_eq_self]
    intro a ha
    obtain ⟨entry, hentry, rfl⟩ := List.mem_map.mp ha
    rw [not_isScalar_of_lt (index_lt hentry hten)]
    rfl
  have hsmallBuckets : (encodeAll (p.sentBuckets.zipIdx.map bucketAttr)).length < 65536 := by
    rw [setupAttrs, encodeAll_cons, encodeAll_cons, List.length_append, List.length_append] at hsmall
    omega
  have hread : (p.sentBuckets.zipIdx.map bucketAttr).mapM (fun a => readBucket (attrs a.data)) =
      some (p.sentBuckets.map WifiScanBucketSpec.requested) :=
    mapM_zipIdx_nests (fun _ => rfl) (fun _ => readBucket_bucketAttrs) hsmallBuckets
  unfold readSetup
  rw [hbuckets, hread, setupAttrs, findU32_cons, findU32_cons_ne (by decide), findU32_cons]
  rfl

/-- The types are apart exactly when there are ten buckets at most. -/
theorem scalarsApart_iff : ScalarsApart (setupAttrs p) ↔ p.num_buckets.toInt ≤ 10 := by
  constructor
  · intro hapart
    by_contra hmany
    have hten : 10 < p.sentBuckets.length := by
      rw [sentBuckets_length]
      omega
    have hmem : (p.sentBuckets[10], 10) ∈ p.sentBuckets.zipIdx := by
      simp [List.mem_zipIdx_iff_getElem?, hten]
    refine hapart (u32Attr GSCAN_ATTRIBUTE_NUM_BUCKETS p.num_buckets.toUInt32) (by simp [setupAttrs])
      (bucketAttr (p.sentBuckets[10], 10)) ?_ rfl
    exact List.mem_map_of_mem hmem
  · intro hten scalar hscalar bucket hbucket heq
    obtain ⟨entry, hentry, rfl⟩ := List.mem_map.mp hbucket
    have hnot := not_isScalar_of_lt (index_lt hentry hten)
    have hscalar : isScalar scalar = true := by
      obtain rfl | rfl : scalar = _ ∨ scalar = _ := by simpa [setupAttrs] using hscalar
      · rfl
      · rfl
    rw [isScalar, heq] at hnot
    rw [isScalar, hnot] at hscalar
    cases hscalar

/-- The vendor data of a message that succeeded. -/
theorem vendorData_createSetupRequest {mIface : Int32} {r : Unit} {alloc msg : NlMsg} (hempty : alloc.bytes = [])
    (hcreate : createSetupRequest mIface p alloc = some (r, msg)) :
    vendorData msg.bytes = some (setupAttrs p) ∧ (encodeAll (setupAttrs p)).length < 65536 := by
  obtain ⟨_, hdata⟩ := vendorData_of_appends (appends_createSetupRequest mIface p)
    (createAttrs_nla_type (by decide) (by decide) (by decide)) hempty hcreate
  exact hdata

/-- When a request succeeds, its message determines the parameters of the scan
exactly when there are ten buckets at most. -/
theorem createSetupRequest_determines_iff {mIface : Int32} {mParams : WifiScanCmdParams} {alloc msg : NlMsg}
    {r : Unit} (hempty : alloc.bytes = []) (hcreate : createSetupRequest mIface mParams alloc = some (r, msg)) :
    DeterminesSetup mParams msg.bytes ↔ mParams.num_buckets.toInt ≤ 10 := by
  obtain ⟨hdata, hsmall⟩ := vendorData_createSetupRequest hempty hcreate
  constructor
  · intro ⟨as, has, _, hapart⟩
    obtain rfl := Option.some.inj (hdata.symm.trans has)
    exact scalarsApart_iff.mp hapart
  · intro hten
    exact ⟨_, hdata, readSetup_setupAttrs hten hsmall, scalarsApart_iff.mpr hten⟩

end

/-- The buffer a message is allocated with: one page. -/
def nlmsg_alloc : NlMsg where
  nm_size := 4096
  bytes := []
  small := by decide
  room := by decide

/-- A bucket of the given channels, in an unknown band. -/
def sampleBucket (channels : List Int32) (hfit : (Int32.ofNat channels.length).toInt ≤ channels.length) :
    WifiScanBucketSpec where
  bucket := 0
  band := 9
  period := 10000
  report_events := 1
  max_period := 0
  step_count := 0
  num_channels := Int32.ofNat channels.length
  channels := channels
  channels_fit := hfit

def sampleScan (buckets : List WifiScanBucketSpec)
    (hfit : (Int32.ofNat buckets.length).toInt ≤ buckets.length) : WifiScanCmdParams where
  base_period := 5000
  num_buckets := Int32.ofNat buckets.length
  buckets := buckets
  buckets_fit := hfit

def oneBucket : WifiScanCmdParams := sampleScan [sampleBucket [2412, 2437] (by decide)] (by decide)

theorem createSetupRequest_determines_one :
    ∃ msg, createSetupRequest 3 oneBucket nlmsg_alloc = some ((), msg) ∧ DeterminesSetup oneBucket msg.bytes := by
  obtain ⟨r, msg, hcreate, _⟩ := needs_createSetupRequest 3 oneBucket nlmsg_alloc (by decide)
  exact ⟨msg, hcreate, (createSetupRequest_determines_iff rfl hcreate).mpr (by decide)⟩

def elevenBuckets : WifiScanCmdParams :=
  sampleScan (List.replicate 11 (sampleBucket [] (by decide))) (by decide)

/-- The eleventh bucket has the type of the number of buckets. -/
theorem createSetupRequest_eleven_not_determined :
    ∃ msg, createSetupRequest 3 elevenBuckets nlmsg_alloc = some ((), msg) ∧
      ¬ DeterminesSetup elevenBuckets msg.bytes := by
  obtain ⟨r, msg, hcreate, _⟩ := needs_createSetupRequest 3 elevenBuckets nlmsg_alloc (by decide)
  refine ⟨msg, hcreate, fun ⟨as, has, _, hapart⟩ => ?_⟩
  obtain rfl := Option.some.inj ((vendorData_createSetupRequest rfl hcreate).1.symm.trans has)
  exact absurd (scalarsApart_iff.mp hapart) (by decide)

end panelli.wifi_hal
