import Panelli.Gui.DumpTunnel
import Panelli.KeyedVector
import Panelli.Printf
import Panelli.Runs

open panelli.bytes panelli.parcel panelli.runs panelli.keyedVector
open panelli.printf (digitsText decimalText fieldText)
open panelli.cstring (CString ascii strstr)

namespace panelli.gui

/-- An object in memory. -/
abbrev Address : Type := Nat

/-- `DumpTunnelHelper`: whether the library has the two functions. -/
structure DumpTunnelHelper where
  mRegDumpPtr : Bool
  mUnregDumpPtr : Bool

/-- `GuiExtMonitor<TYPE, ITEM>`, whose tunnel is named by its number. -/
structure GuiExtMonitor (ITEM : Type) [LinearOrder ITEM] where
  mIsRegistered : Bool
  mProcessName : List UInt8
  mDumpTunnel : Option Nat
  mItemList : KeyedVector ITEM Int32

/-- What the server keeps of the tunnels it has accepted. It is behind a library that is not part of
the source: a tunnel is taken back by the key it was registered by, and by no other. -/
structure Ledger (ω : Type) where
  empty : ω
  tunnel : ω → List UInt8 → Option Nat
  reg : ω → List UInt8 → Nat → ω
  unreg : ω → List UInt8 → ω
  tunnel_empty : ∀ key, tunnel empty key = none
  tunnel_reg : ∀ dumps key n, tunnel (reg dumps key n) key = some n
  tunnel_unreg : ∀ dumps key, tunnel (unreg dumps key) key = none
  tunnel_unreg_of_ne : ∀ dumps key other, other ≠ key → tunnel (unreg dumps other) key = tunnel dumps key

/-- A monitor, what the server keeps, and how many tunnels were made. -/
structure Process (ω ITEM : Type) [LinearOrder ITEM] where
  monitor : GuiExtMonitor ITEM
  dumps : ω
  tunnels : Nat

variable {ω ITEM : Type} [LinearOrder ITEM]

def DumpTunnelHelper.regDump (helper : DumpTunnelHelper) (ledger : Ledger ω) (accepts : Bool) (tunnel : Nat)
    (key : List UInt8) (dumps : ω) : Bool × ω :=
  if helper.mRegDumpPtr && accepts then (true, ledger.reg dumps key tunnel) else (false, dumps)

def DumpTunnelHelper.unregDump (helper : DumpTunnelHelper) (ledger : Ledger ω) (key : List UInt8) (dumps : ω) : ω :=
  if helper.mUnregDumpPtr then ledger.unreg dumps key else dumps

/-- `monitor`, with the key that `getKeyName` gives. -/
def GuiExtMonitor.monitor (helper : DumpTunnelHelper) (ledger : Ledger ω) (key : List UInt8) (accepts : Bool)
    (item : ITEM) (p : Process ω ITEM) : Process ω ITEM :=
  let m := { p.monitor with mItemList := p.monitor.mItemList.add item 0 }
  if m.mIsRegistered then { p with monitor := m }
  else
    let m := { m with mDumpTunnel := some p.tunnels }
    let (registered, dumps) := helper.regDump ledger accepts p.tunnels key p.dumps
    ⟨if registered then { m with mIsRegistered := true } else m, dumps, p.tunnels + 1⟩

def GuiExtMonitor.unmonitor (item : ITEM) (p : Process ω ITEM) : Process ω ITEM :=
  { p with monitor := { p.monitor with mItemList := p.monitor.mItemList.removeItem item } }

/-- The destructor, with the key that `getKeyName` gives there. -/
def GuiExtMonitor.destroy (helper : DumpTunnelHelper) (ledger : Ledger ω) (key : List UInt8) (p : Process ω ITEM) :
    Process ω ITEM :=
  if p.monitor.mIsRegistered then
    { p with monitor := { p.monitor with mIsRegistered := false }, dumps := helper.unregDump ledger key p.dumps }
  else p

/-- A call of a monitor. The server accepts a tunnel or not. -/
inductive Call (ITEM : Type) where
  | monitor (item : ITEM) (accepts : Bool)
  | unmonitor (item : ITEM)

/-- The calls hold the lock of the monitor, one after the other. -/
def callStep (helper : DumpTunnelHelper) (ledger : Ledger ω) (key : List UInt8) (p : Process ω ITEM) :
    Call ITEM → Process ω ITEM
  | .monitor item accepts => GuiExtMonitor.monitor helper ledger key accepts item p
  | .unmonitor item => GuiExtMonitor.unmonitor item p

/-- What a monitor is for: a set of the items that are watched. -/
def watchStep (watched : Finset ITEM) : Call ITEM → Finset ITEM
  | .monitor item _ => insert item watched
  | .unmonitor item => watched.erase item

/-- Whether the server would accept the tunnel of a call. -/
def Call.accepts : Call ITEM → Bool
  | .monitor _ accepts => accepts
  | .unmonitor _ => false

section

variable {helper : DumpTunnelHelper} {ledger : Ledger ω} {key : List UInt8} {p : Process ω ITEM}

theorem monitor_of_registered (hregistered : p.monitor.mIsRegistered = true) (accepts : Bool) (item : ITEM) :
    GuiExtMonitor.monitor helper ledger key accepts item p =
      { p with monitor := { p.monitor with mItemList := p.monitor.mItemList.add item 0 } } := by
  simp only [GuiExtMonitor.monitor, hregistered, if_true]

theorem monitor_of_unregistered (hregistered : p.monitor.mIsRegistered = false) (accepts : Bool) (item : ITEM) :
    GuiExtMonitor.monitor helper ledger key accepts item p =
      ⟨⟨helper.mRegDumpPtr && accepts, p.monitor.mProcessName, some p.tunnels, p.monitor.mItemList.add item 0⟩,
        if helper.mRegDumpPtr && accepts then ledger.reg p.dumps key p.tunnels else p.dumps, p.tunnels + 1⟩ := by
  simp only [GuiExtMonitor.monitor, hregistered, DumpTunnelHelper.regDump, Bool.false_eq_true, if_false]
  split
  · next h => simp [h]
  · next h => simp [h]

theorem monitor_mItemList (accepts : Bool) (item : ITEM) :
    (GuiExtMonitor.monitor helper ledger key accepts item p).monitor.mItemList = p.monitor.mItemList.add item 0 := by
  cases hregistered : p.monitor.mIsRegistered with
  | false => rw [monitor_of_unregistered hregistered]
  | true => rw [monitor_of_registered hregistered]

/-- The list of a monitor has the items that are watched. -/
def Watches (p : Process ω ITEM) (watched : Finset ITEM) : Prop :=
  ∀ item, item ∈ p.monitor.mItemList.keys ↔ item ∈ watched

theorem Watches.step {watched : Finset ITEM} (hwatches : Watches p watched) (call : Call ITEM) :
    Watches (callStep helper ledger key p call) (watchStep watched call) := by
  intro item
  cases call with
  | monitor other accepts =>
    rw [callStep, monitor_mItemList, KeyedVector.mem_keys_add, hwatches item, watchStep, Finset.mem_insert]
  | unmonitor other =>
    rw [callStep, GuiExtMonitor.unmonitor, KeyedVector.mem_keys_removeItem, hwatches item, watchStep,
      Finset.mem_erase]

theorem Watches.run {watched : Finset ITEM} (hwatches : Watches p watched) (calls : List (Call ITEM)) :
    Watches (run (callStep helper ledger key) p calls) (run watchStep watched calls) := by
  induction calls generalizing p watched with
  | nil => exact hwatches
  | cons call calls ih =>
    rw [run_cons, run_cons]
    exact ih (hwatches.step call)

/-- The tunnel of the monitor is registered, or none. -/
structure Registration (ledger : Ledger ω) (key : List UInt8) (p : Process ω ITEM) : Prop where
  some : p.monitor.mIsRegistered = true →
    ∃ tunnel, ledger.tunnel p.dumps key = some tunnel ∧ p.monitor.mDumpTunnel = some tunnel
  none : p.monitor.mIsRegistered = false → ledger.tunnel p.dumps key = none

theorem Registration.step (hregistration : Registration ledger key p) (call : Call ITEM) :
    Registration ledger key (callStep helper ledger key p call) := by
  cases call with
  | unmonitor item => exact ⟨hregistration.some, hregistration.none⟩
  | monitor item accepts =>
    rw [callStep]
    cases hregistered : p.monitor.mIsRegistered with
    | true =>
      rw [monitor_of_registered hregistered]
      exact ⟨hregistration.some, hregistration.none⟩
    | false =>
      rw [monitor_of_unregistered hregistered]
      cases haccepted : helper.mRegDumpPtr && accepts with
      | true => exact ⟨fun _ => ⟨p.tunnels, ledger.tunnel_reg p.dumps key p.tunnels, rfl⟩, Bool.noConfusion⟩
      | false => exact ⟨Bool.noConfusion, fun _ => hregistration.none hregistered⟩

theorem Registration.run (hregistration : Registration ledger key p) (calls : List (Call ITEM)) :
    Registration ledger key (run (callStep helper ledger key) p calls) :=
  run_induction (fun _ call hp => hp.step call) hregistration calls

theorem Registration.tunnel_isSome_iff (hregistration : Registration ledger key p) :
    (ledger.tunnel p.dumps key).isSome = true ↔ p.monitor.mIsRegistered = true := by
  cases hregistered : p.monitor.mIsRegistered with
  | false => simp [hregistration.none hregistered]
  | true =>
    obtain ⟨tunnel, htunnel, _⟩ := hregistration.some hregistered
    simp [htunnel]

theorem registered_callStep (p : Process ω ITEM) (call : Call ITEM) :
    (callStep helper ledger key p call).monitor.mIsRegistered =
      (p.monitor.mIsRegistered || helper.mRegDumpPtr && call.accepts) := by
  cases call with
  | unmonitor item => simp [callStep, GuiExtMonitor.unmonitor, Call.accepts]
  | monitor item accepts =>
    rw [callStep, Call.accepts]
    cases hregistered : p.monitor.mIsRegistered with
    | true => rw [monitor_of_registered hregistered, hregistered, Bool.true_or]
    | false => rw [monitor_of_unregistered hregistered, Bool.false_or]

/-- A monitor is registered once the server has accepted one of its tunnels. -/
theorem registered_run (p : Process ω ITEM) (calls : List (Call ITEM)) :
    (run (callStep helper ledger key) p calls).monitor.mIsRegistered =
      (p.monitor.mIsRegistered || helper.mRegDumpPtr && calls.any Call.accepts) := by
  induction calls generalizing p with
  | nil => simp
  | cons call calls ih =>
    rw [run_cons, ih, registered_callStep, List.any_cons, Bool.and_or_distrib_left, Bool.or_assoc]

/-- A destructor that gives another key takes nothing back. -/
theorem tunnel_destroy {destructorKey : List UInt8} (hother : destructorKey ≠ key) :
    ledger.tunnel (GuiExtMonitor.destroy helper ledger destructorKey p).dumps key = ledger.tunnel p.dumps key := by
  unfold GuiExtMonitor.destroy DumpTunnelHelper.unregDump
  split_ifs
  · exact ledger.tunnel_unreg_of_ne p.dumps key destructorKey hother
  · rfl
  · rfl

end

/-- `%p` -/
def pointerText (p : Address) : List UInt8 := ascii "0x" ++ digitsText 16 p

/-- `fgets` for a buffer of a size. -/
def fgets (size : Nat) (file : List UInt8) : List UInt8 :=
  let line := file.takeWhile (· ≠ 10)
  (if line.length < file.length then line ++ [10] else line).take (size - 1)

/-- `getProcessName`, from the file of the command line if it can be opened. Of an empty file
nothing is read, and the buffer is not initialised. -/
def getProcessName (file : Option (List UInt8)) : Option (List UInt8) :=
  match file with
  | none => some (ascii "unknownProcess")
  | some [] => none
  | some file => some ((fgets 64 file).takeWhile (· ≠ 0))

/-- A monitor of the objects with a reference count, at its address. -/
structure RefBaseMonitor (ω : Type) where
  this : Address
  mIsTracking : Bool
  process : Process ω Address

/-- `property_get`, for the value of the property if there is one. An empty value counts as none. -/
def property_get (value : Option (List UInt8)) (default : List UInt8) : List UInt8 :=
  match value with
  | none | some [] => default
  | some value => value

/-- `String8::find`. In an empty string nothing is found. -/
def String8.find (string other : List UInt8) : Option Nat :=
  if string.length = 0 then none else (strstr string other).map fun rest => string.length - rest.length

/-- The constructor. A process is tracked when its name contains the text of `debug.rb.dump`. -/
def RefBaseMonitor.new (ledger : Ledger ω) (this : Address) (file property : Option (List UInt8)) :
    Option (RefBaseMonitor ω) :=
  (getProcessName file).map fun name =>
    ⟨this, (String8.find name (property_get property (ascii "Mary had a little lamb"))).isSome,
      ⟨⟨false, name, none, .empty⟩, ledger.empty, 0⟩⟩

/-- The name of the process is not in this key. -/
def RefBaseMonitor.getKeyName (m : RefBaseMonitor ω) : List UInt8 := ascii "RB-" ++ pointerText m.this

/-- `getKeyName` of the base class, as `IMPLEMENT_META_GUIEXTMONITOR` defines it. -/
def RefBaseMonitor.baseKeyName (pid : Nat) (m : RefBaseMonitor ω) : List UInt8 :=
  ascii "RB-[" ++ decimalText pid ++ ascii ":" ++ m.process.monitor.mProcessName ++ ascii "]"

def RefBaseMonitor.call (helper : DumpTunnelHelper) (ledger : Ledger ω) (m : RefBaseMonitor ω) (call : Call Address) :
    RefBaseMonitor ω :=
  { m with process := callStep helper ledger m.getKeyName m.process call }

/-- The destructor of the base class runs when the object is no `RefBaseMonitor` any more. -/
def RefBaseMonitor.destroy (helper : DumpTunnelHelper) (ledger : Ledger ω) (pid : Nat) (m : RefBaseMonitor ω) :
    RefBaseMonitor ω :=
  { m with process := GuiExtMonitor.destroy helper ledger (m.baseKeyName pid) m.process }

def RefBaseMonitor.head (m : RefBaseMonitor ω) : List UInt8 :=
  ascii "\t  [" ++ fieldText 32 8 (pointerText m.this) ++ ascii "]    RefCnt   " ++ m.process.monitor.mProcessName ++
    ascii (if m.mIsTracking then " <- tracking\n" else "\n") ++ ascii "\t  -----------------------\n"

/-- The line of an item. -/
def itemLine (strongCount : Address → Int32) (entry : Address × Nat) : List UInt8 :=
  ascii "\t   " ++ fieldText 32 2 (decimalText entry.2) ++ ascii ") " ++ fieldText 32 8 (pointerText entry.1) ++
    ascii " " ++ fieldText 32 4 (decimalText (strongCount entry.1).toInt) ++ ascii "\n"

def RefBaseMonitor.tail : List UInt8 := ascii "\t*****************************************************\n"

def RefBaseMonitor.dump (strongCount : Address → Int32) (m : RefBaseMonitor ω) : KickDump := fun result _ =>
  let result := result ++ m.head
  let result := m.process.monitor.mItemList.keys.zipIdx.foldl
    (fun result entry => result ++ itemLine strongCount entry) result
  (NO_ERROR, result ++ RefBaseMonitor.tail)

section

variable {helper : DumpTunnelHelper} {ledger : Ledger ω} {m : RefBaseMonitor ω}
  {this : Address} {file property : Option (List UInt8)}

theorem new_process (hnew : RefBaseMonitor.new ledger this file property = some m) :
    Watches m.process ∅ ∧ Registration ledger m.getKeyName m.process ∧ m.process.monitor.mIsRegistered = false := by
  obtain ⟨name, _, rfl⟩ := Option.map_eq_some_iff.mp hnew
  exact ⟨fun item => by simp [KeyedVector.keys_empty], ⟨Bool.noConfusion, fun _ => ledger.tunnel_empty _⟩, rfl⟩

theorem callStep_mProcessName {key : List UInt8} (p : Process ω Address) (call : Call Address) :
    (callStep helper ledger key p call).monitor.mProcessName = p.monitor.mProcessName := by
  cases call with
  | unmonitor item => rfl
  | monitor item accepts =>
    rw [callStep]
    cases hregistered : p.monitor.mIsRegistered with
    | false => rw [monitor_of_unregistered hregistered]
    | true => rw [monitor_of_registered hregistered]

/-- The calls of a monitor change its process only, and not the name of that. -/
theorem run_call (m : RefBaseMonitor ω) (calls : List (Call Address)) :
    (run (RefBaseMonitor.call helper ledger) m calls).process =
        run (callStep helper ledger m.getKeyName) m.process calls ∧
      (run (RefBaseMonitor.call helper ledger) m calls).getKeyName = m.getKeyName ∧
        (run (RefBaseMonitor.call helper ledger) m calls).head = m.head := by
  induction calls generalizing m with
  | nil => exact ⟨rfl, rfl, rfl⟩
  | cons call calls ih =>
    obtain ⟨hprocess, hkey, hhead⟩ := ih (m.call helper ledger call)
    have hname : (m.call helper ledger call).head = m.head := by
      rw [RefBaseMonitor.head, RefBaseMonitor.head, RefBaseMonitor.call, callStep_mProcessName]
    exact ⟨hprocess, hkey, hhead.trans hname⟩

/-- The key of the derived class goes on with a zero where that of the base class has a bracket. -/
theorem baseKeyName_ne (pid : Nat) (m other : RefBaseMonitor ω) : m.baseKeyName pid ≠ other.getKeyName := by
  intro hsame
  have hbracket : (ascii "RB-[")[3]? = some 91 := by decide
  have hzero : (ascii "RB-" ++ ascii "0x")[3]? = some 48 := by decide
  have hbase : (m.baseKeyName pid)[3]? = some 91 := by
    simp only [RefBaseMonitor.baseKeyName, List.append_assoc]
    rw [List.getElem?_append_left (by decide), hbracket]
  have hderived : (other.getKeyName)[3]? = some 48 := by
    rw [RefBaseMonitor.getKeyName, pointerText, ← List.append_assoc, List.getElem?_append_left (by decide), hzero]
  rw [hsame, hderived] at hbase
  cases hbase

/-- The text of a monitor that watches these items. -/
def RefBaseMonitor.listing (m : RefBaseMonitor ω) (strongCount : Address → Int32) (watched : Finset Address) :
    List UInt8 :=
  m.head ++ watched.sort.zipIdx.flatMap (itemLine strongCount) ++ RefBaseMonitor.tail

theorem dump_listing {watched : Finset Address} (hwatches : Watches m.process watched)
    (strongCount : Address → Int32) (result : List UInt8) (dumpPrefix : Option (List UInt8)) :
    m.dump strongCount result dumpPrefix = (NO_ERROR, result ++ m.listing strongCount watched) := by
  simp only [RefBaseMonitor.dump, KeyedVector.keys_eq_sort hwatches, List.foldl_append_eq_append,
    RefBaseMonitor.listing, List.flatMap_def, List.append_assoc]

end

/-- Whatever items were handed to a monitor and taken back, in any order, a dump through the proxy
of its tunnel adds the list of those that are watched then, by their addresses. -/
theorem remote_dump_lists_watched (helper : DumpTunnelHelper) (ledger : Ledger ω) (this : Address)
    (file property : Option (List UInt8)) (m : RefBaseMonitor ω)
    (hnew : RefBaseMonitor.new ledger this file property = some m) (calls : List (Call Address))
    (strongCount : Address → Int32) (policy : Int32) (result : List UInt8) (dumpPrefix : CString)
    (hlength : (result ++ m.listing strongCount (run watchStep ∅ calls)).length < 0x7fffffff) :
    BpDumpTunnel.kickDump none ((run (RefBaseMonitor.call helper ledger) m calls).dump strongCount) policy result
        dumpPrefix =
      (NO_ERROR, result ++ m.listing strongCount (run watchStep ∅ calls)) := by
  obtain ⟨hprocess, _, hhead⟩ : _ ∧ _ ∧ (run (RefBaseMonitor.call helper ledger) m calls).head = _ := run_call m calls
  have hwatches : Watches (run (RefBaseMonitor.call helper ledger) m calls).process (run watchStep ∅ calls) := by
    rw [hprocess]
    exact (new_process hnew).1.run calls
  have hdump : ∀ dumpPrefix, (run (RefBaseMonitor.call helper ledger) m calls).dump strongCount result dumpPrefix =
      (NO_ERROR, result ++ m.listing strongCount (run watchStep ∅ calls)) := by
    intro dumpPrefix
    rw [dump_listing hwatches, RefBaseMonitor.listing, hhead, RefBaseMonitor.listing]
  have hresult : result.length < 0x7fffffff := by
    rw [List.length_append] at hlength
    omega
  have hreply : ((run (RefBaseMonitor.call helper ledger) m calls).dump strongCount result dumpPrefix.bytes).2.length <
      0x7fffffff := by
    rw [hdump]
    exact hlength
  exact (kickDump_delivered hresult hreply).trans (hdump _)

/-- The destructor of a monitor takes no tunnel back: the key it gives is not the one that the tunnel
was registered by. One is left exactly if the server has accepted one. -/
theorem destructor_leaves_tunnel (helper : DumpTunnelHelper) (ledger : Ledger ω) (this : Address)
    (file property : Option (List UInt8)) (m : RefBaseMonitor ω)
    (hnew : RefBaseMonitor.new ledger this file property = some m) (calls : List (Call Address)) (pid : Nat) :
    (ledger.tunnel ((run (RefBaseMonitor.call helper ledger) m calls).destroy helper ledger pid).process.dumps
        m.getKeyName).isSome = true ↔
      helper.mRegDumpPtr = true ∧ ∃ call ∈ calls, call.accepts = true := by
  obtain ⟨hprocess, hkey, _⟩ : _ ∧ _ ∧ (run (RefBaseMonitor.call helper ledger) m calls).head = _ := run_call m calls
  obtain ⟨_, hregistration, hunregistered⟩ := new_process hnew
  generalize hafter : run (RefBaseMonitor.call helper ledger) m calls = after at hprocess hkey ⊢
  have hafterRegistration : Registration ledger m.getKeyName after.process := by
    rw [hprocess]
    exact hregistration.run calls
  have hregistered : after.process.monitor.mIsRegistered = (helper.mRegDumpPtr && calls.any Call.accepts) := by
    rw [hprocess, registered_run, hunregistered, Bool.false_or]
  rw [RefBaseMonitor.destroy, tunnel_destroy (baseKeyName_ne pid after m), hafterRegistration.tunnel_isSome_iff,
    hregistered, Bool.and_eq_true, List.any_eq_true]

/-- A server that keeps the tunnels by their keys. -/
def byKey : Ledger (List UInt8 → Option Nat) where
  empty _ := none
  tunnel dumps key := dumps key
  reg dumps key n := Function.update dumps key (some n)
  unreg dumps key := Function.update dumps key none
  tunnel_empty _ := rfl
  tunnel_reg _ _ _ := Function.update_self _ _ _
  tunnel_unreg _ _ := Function.update_self _ _ _
  tunnel_unreg_of_ne _ _ _ hne := Function.update_of_ne hne.symm _ _

/-- A monitor of the camera server, whose second tunnel is accepted. -/
def sampleCalls : List (Call Address) := [.monitor 16 false, .monitor 8 true, .unmonitor 16, .monitor 32 true]

def sampleFile : Option (List UInt8) := some (ascii "cameraserver" ++ [0])

def sampleMonitor : RefBaseMonitor (List UInt8 → Option Nat) :=
  ⟨64, false, ⟨⟨false, ascii "cameraserver", none, .empty⟩, fun _ => none, 0⟩⟩

theorem remote_dump_lists_watched_sample :
    BpDumpTunnel.kickDump none ((run (RefBaseMonitor.call ⟨true, true⟩ byKey) sampleMonitor sampleCalls).dump
      fun _ => 1) 0 [] ⟨[], by decide⟩ = (NO_ERROR, sampleMonitor.listing (fun _ => 1) {8, 32}) := by
  have hwatched : run watchStep ∅ sampleCalls = ({8, 32} : Finset Address) := by decide
  have hlength : ([] ++ sampleMonitor.listing (fun _ => 1) (run watchStep ∅ sampleCalls)).length < 0x7fffffff := by
    have hsort : ({8, 32} : Finset Address).sort = [8, 32] := by
      apply (Finset.sortedLT_sort _).eq_of_mem_iff (by decide)
      simp
    rw [hwatched, RefBaseMonitor.listing, hsort]
    decide +kernel
  rw [← hwatched]
  exact remote_dump_lists_watched ⟨true, true⟩ byKey 64 sampleFile none sampleMonitor rfl sampleCalls (fun _ => 1) 0
    [] ⟨[], by decide⟩ hlength

theorem destructor_leaves_tunnel_sample :
    (byKey.tunnel ((run (RefBaseMonitor.call ⟨true, true⟩ byKey) sampleMonitor sampleCalls).destroy ⟨true, true⟩ byKey
      1).process.dumps sampleMonitor.getKeyName).isSome = true :=
  (destructor_leaves_tunnel ⟨true, true⟩ byKey 64 sampleFile none sampleMonitor rfl sampleCalls 1).mpr
    ⟨rfl, _, List.mem_cons_of_mem _ List.mem_cons_self, rfl⟩

end panelli.gui
