import Panelli.Parcel
import Panelli.CString

open panelli.bytes panelli.parcel
open panelli.cstring (CString)

namespace panelli.gui

def NO_ERROR : Int32 := 0
def PERMISSION_DENIED : Int32 := -1

/-- `IDumpTunnel::kickDump`: the status, and the text that was handed in as it is afterwards.
The second text may be missing. -/
abbrev KickDump : Type := List UInt8 → Option (List UInt8) → Int32 × List UInt8

/-- The name of the interface, in the two byte characters of a parcel. -/
def tunnelDescriptor : List UInt8 := ("DumpTunnel".toList.flatMap fun c => le16 c.toNat) ++ [0, 0]

/-- The case `DUMPTUNNEL_DUMP` of the stub: the status of the transaction and the reply. -/
def BnDumpTunnel.onTransact (kickDump : KickDump) (data : Parcel) : Int32 × Parcel :=
  let (checked, data) := checkInterface tunnelDescriptor data
  if checked then
    let (result, data) := readString8 data
    let (dumpPrefix, _) := readCString data
    let (ret, result) := kickDump result dumpPrefix
    (NO_ERROR, writeInt32 ret (writeString8 result []))
  else (PERMISSION_DENIED, [])

/-- A transaction that fails has a status of its own and no reply. -/
def transact (failure : Option Int32) (kickDump : KickDump) (data : Parcel) : Int32 × Parcel :=
  match failure with
  | some err => (err, [])
  | none => BnDumpTunnel.onTransact kickDump data

def BpDumpTunnel.kickDump (failure : Option Int32) (remote : KickDump) (policy : Int32) (result : List UInt8)
    (dumpPrefix : CString) : Int32 × List UInt8 :=
  let data := writeInterfaceToken policy tunnelDescriptor []
  let data := writeString8 result data
  let data := writeCString dumpPrefix.bytes data
  let (err, reply) := transact failure remote data
  if err ≠ NO_ERROR then (err, result)
  else
    let (result, reply) := readString8 reply
    let (err, _) := readInt32 reply
    (err, result)

/-- A call through the proxy is a call of the object behind it. -/
theorem kickDump_delivered {remote : KickDump} {policy : Int32} {result : List UInt8} {dumpPrefix : CString}
    (hresult : result.length < 0x7fffffff) (hreply : (remote result dumpPrefix.bytes).2.length < 0x7fffffff) :
    BpDumpTunnel.kickDump none remote policy result dumpPrefix = remote result dumpPrefix.bytes := by
  have hlen : tunnelDescriptor.length < 4294967296 := by decide
  have hstub : BnDumpTunnel.onTransact remote (writeCString dumpPrefix.bytes (writeString8 result
      (writeInterfaceToken policy tunnelDescriptor []))) =
        (NO_ERROR, writeInt32 (remote result dumpPrefix.bytes).1
          (writeString8 (remote result dumpPrefix.bytes).2 [])) := by
    have hprefix := readCString_append dumpPrefix.no_nul []
    rw [List.append_nil] at hprefix
    simp only [writeString8_eq, writeCString, write, List.append_assoc, BnDumpTunnel.onTransact,
      checkInterface_append hlen, if_true, readString8_append hresult, hprefix]
  have hread := readString8_append hreply (int32Bytes (remote result dumpPrefix.bytes).1)
  simp only [BpDumpTunnel.kickDump, transact, hstub, ne_eq, not_true_eq_false, if_false]
  simp only [writeInt32, writeString8_eq, List.nil_append, hread, readInt32_int32Bytes]

end panelli.gui
