import Panelli.Blocks
import Panelli.Runs
import Panelli.WifiHal.Interfaces

open panelli.blocks panelli.cstring panelli.runs

namespace panelli.wifi_hal

namespace lifecycle

/-- What becomes of a netlink socket: whether it is allocated, and connected. -/
structure SocketResult where
  allocated : Bool
  connected : Bool

/-- The answers of the system to `wifi_initialize`. -/
structure InitSystem where
  hal_info : Bool
  cmd_sock : SocketResult
  event_sock : SocketResult
  genl_ctrl_resolve : Int
  event_cb : Bool
  cmd : Bool
  net : System

/-- The fields of a `hal_info` that point to memory, and where it is itself. The table of
interfaces comes with those that it lists, which are as many as are counted. -/
structure HalInfo where
  info : Address
  cmd_sock : Option Address
  event_sock : Option Address
  event_cb : Option Address
  cmd : Option Address
  interfaces : Option (Address × List Address)

/-- The sizes of a `nl_sock`, which is not the HAL's, and on 32 bits of what is. -/
def SIZEOF_NL_SOCK : Nat := 64
def SIZEOF_HAL_INFO : Nat := 68
def SIZEOF_CB_INFO : Nat := 20
def SIZEOF_CMD_INFO : Nat := 8
def SIZEOF_POINTER : Nat := 4

def DEFAULT_EVENT_CB_SIZE : Nat := 64
def DEFAULT_CMD_SIZE : Nat := 64

/-- A `hal_info` that was set to zero. -/
def HalInfo.zero (info : Address) : HalInfo := ⟨info, none, none, none, none, none⟩

def wifi_create_nl_socket (sock : SocketResult) (b : Blocks) : Option Address × Blocks :=
  match b.malloc sock.allocated SIZEOF_NL_SOCK with
  | (none, b) => (none, b)
  | (some p, b) => if sock.connected then (some p, b) else (none, b.free (some p))

/-- One round of the second pass: the interface that is stored, and the heap. The name is
copied behind the handle, with its terminator. -/
def listInterface (table : Address) (n : Nat) (de : Entry) (st : List Address × Blocks) : List Address × Blocks :=
  if de.d_name.bytes.head? = some 46 then st
  else if is_wifi_interface de.d_name.bytes ∧ st.1.length < n then
    match st.2.malloc de.malloc (SIZEOF_INTERFACE_INFO [0, 0, 0, 0]) with
    | (none, b) => (st.1, b)
    | (some ifinfo, b) =>
      let b := b.access ifinfo SIZEOF_POINTER (de.d_name.bytes.length + 1)
      (st.1 ++ [ifinfo], b.access table (SIZEOF_POINTER * st.1.length) SIZEOF_POINTER)
  else st

def wifi_init_interfaces (sys : System) (info : HalInfo) (b : Blocks) : HalInfo × Blocks :=
  match sys.first with
  | none => (info, b)
  | some first =>
    let n := countInterfaces first
    match sys.second with
    | none => (info, b)
    | some second =>
      match b.malloc sys.malloc (SIZEOF_POINTER * n) with
      | (none, b) => (info, b)
      | (some table, b) =>
        let (listed, b) := second.foldl (fun st de => listInterface table n de st) ([], b)
        ({ info with interfaces := some (table, listed) }, b)

def wifi_internal_cleanup (info : HalInfo) (b : Blocks) : Blocks :=
  let b := match info.interfaces with
    | none => b
    | some (table, listed) => (b.freeAll listed).free (some table)
  let b := b.free info.event_cb
  let b := b.free info.cmd
  let b := b.free info.cmd_sock
  let b := b.free info.event_sock
  b.free (some info.info)

/-- What `wifi_initialize` returns, what `*handle` is afterwards, and the heap. -/
structure InitResult where
  error : wifi_error
  handle : Option HalInfo
  blocks : Blocks

/-- A failure after `hal_info` was allocated. -/
def failed (error : wifi_error) (info : HalInfo) (b : Blocks) : InitResult :=
  ⟨error, none, wifi_internal_cleanup info b⟩

/-- The rest of `wifi_initialize` from the allocation of `cmd` on. The groups of events
that are joined do not matter to memory, and neither does whether the interfaces are found. -/
def initCmd (sys : InitSystem) (info : HalInfo) (b : Blocks) : InitResult :=
  match b.malloc sys.cmd (SIZEOF_CMD_INFO * DEFAULT_CMD_SIZE) with
  | (none, b) => failed WIFI_ERROR_OUT_OF_MEMORY info b
  | (some cmd, b) =>
    let (info, b) := wifi_init_interfaces sys.net { info with cmd := some cmd } b
    ⟨WIFI_SUCCESS, some info, b⟩

/-- The rest from the allocation of `event_cb` on. -/
def initEventCb (sys : InitSystem) (info : HalInfo) (b : Blocks) : InitResult :=
  match b.malloc sys.event_cb (SIZEOF_CB_INFO * DEFAULT_EVENT_CB_SIZE) with
  | (none, b) => failed WIFI_ERROR_OUT_OF_MEMORY info b
  | (some event_cb, b) => initCmd sys { info with event_cb := some event_cb } b

/-- The rest from the event socket on. -/
def initEventSock (sys : InitSystem) (info : HalInfo) (b : Blocks) : InitResult :=
  match wifi_create_nl_socket sys.event_sock b with
  | (none, b) => failed WIFI_ERROR_UNKNOWN info b
  | (some event_sock, b) =>
    let info := { info with event_sock := some event_sock }
    if sys.genl_ctrl_resolve < 0 then failed WIFI_ERROR_UNKNOWN info b else initEventCb sys info b

/-- The rest from the command socket on. -/
def initCmdSock (sys : InitSystem) (info : HalInfo) (b : Blocks) : InitResult :=
  match wifi_create_nl_socket sys.cmd_sock b with
  | (none, b) => failed WIFI_ERROR_UNKNOWN info b
  | (some cmd_sock, b) => initEventSock sys { info with cmd_sock := some cmd_sock } b

def wifi_initialize (sys : InitSystem) (b : Blocks) : InitResult :=
  match b.malloc sys.hal_info SIZEOF_HAL_INFO with
  | (none, b) => ⟨WIFI_ERROR_OUT_OF_MEMORY, none, b⟩
  | (some info, b) => initCmdSock sys (.zero info) b

/-- The blocks that a `hal_info` points to, and itself. -/
def HalInfo.owned (info : HalInfo) : List Address :=
  info.interfaces.elim [] (fun (table, listed) => listed ++ [table]) ++ (info.event_cb.toList ++
    (info.cmd.toList ++ (info.cmd_sock.toList ++ (info.event_sock.toList ++ [info.info]))))

/-- An error leaves nothing behind, and what success leaves is all in the handle. -/
def InitResult.AllOrNothing (base : Address → Option Nat) (r : InitResult) : Prop :=
  (r.error ≠ WIFI_SUCCESS → r.handle = none ∧ r.blocks.size = base ∧ r.blocks.misused = false) ∧
    (r.error = WIFI_SUCCESS → ∃ info, r.handle = some info ∧ Owns base info.owned r.blocks)

/-- One life of the HAL: it is initialised, and cleaned up if there is a handle. -/
def session (b : Blocks) (sys : InitSystem) : Blocks :=
  let r := wifi_initialize sys b
  r.handle.elim r.blocks fun info => wifi_internal_cleanup info r.blocks

/-- No interface has a longer name than the kernel allows. -/
def NamesFit (sys : System) : Prop := ∀ de ∈ sys.second.getD [], de.d_name.bytes.length ≤ 15

section

variable {base : Address → Option Nat} {b : Blocks} {info : HalInfo} {ps : List Address} {n : Nat} {table : Address}

/-- A socket that is not connected is freed again. -/
theorem owns_create_nl_socket (howns : Owns base ps b) (sock : SocketResult) :
    Owns base ((wifi_create_nl_socket sock b).1.toList ++ ps) (wifi_create_nl_socket sock b).2 := by
  have hmalloc := howns.malloc sock.allocated SIZEOF_NL_SOCK
  unfold wifi_create_nl_socket
  cases halloc : b.malloc sock.allocated SIZEOF_NL_SOCK with
  | mk p b' =>
    rw [halloc] at hmalloc
    cases p with
    | none => exact hmalloc
    | some p =>
      dsimp only
      split_ifs
      · exact hmalloc
      · exact Owns.free hmalloc

/-- Everything that a `hal_info` points to is freed, each block once. -/
theorem owns_internal_cleanup (howns : Owns base info.owned b) : Owns base [] (wifi_internal_cleanup info b) := by
  unfold HalInfo.owned at howns
  unfold wifi_internal_cleanup
  apply Owns.free (p := info.info)
  apply Owns.free_toList
  apply Owns.free_toList
  apply Owns.free_toList
  apply Owns.free_toList
  cases hinterfaces : info.interfaces with
  | none =>
    rw [hinterfaces] at howns
    exact howns
  | some interfaces =>
    rw [hinterfaces, Option.elim_some, List.append_assoc] at howns
    exact Owns.free (Owns.freeAll howns)

/-- What is freed by a failure is all there was. -/
theorem allOrNothing_failed (howns : Owns base info.owned b) {error : wifi_error} (herror : error ≠ WIFI_SUCCESS) :
    (failed error info b).AllOrNothing base := by
  have hnone := owns_internal_cleanup howns
  refine ⟨fun _ => ⟨rfl, hnone.size_eq, hnone.well_used⟩, ?_⟩
  intro hsuccess
  exact absurd hsuccess herror

/-- Each interface that is listed has a slot of the table, and memory for its name. -/
theorem owns_listInterface {rest : List Address} {de : Entry} {st : List Address × Blocks}
    (howns : Owns base (st.1 ++ table :: rest) st.2) (htable : st.2.size table = some (SIZEOF_POINTER * n))
    (hname : de.d_name.bytes.length ≤ 15) :
    Owns base ((listInterface table n de st).1 ++ table :: rest) (listInterface table n de st).2 ∧
      (listInterface table n de st).2.size table = some (SIZEOF_POINTER * n) := by
  unfold listInterface
  split_ifs with hhidden hslot
  · exact ⟨howns, htable⟩
  · have hmalloc := howns.malloc de.malloc (SIZEOF_INTERFACE_INFO [0, 0, 0, 0])
    have hkept := Blocks.malloc_size_of_live htable de.malloc (SIZEOF_INTERFACE_INFO [0, 0, 0, 0])
    have hsize := Blocks.malloc_size st.2 de.malloc (SIZEOF_INTERFACE_INFO [0, 0, 0, 0])
    cases halloc : st.2.malloc de.malloc (SIZEOF_INTERFACE_INFO [0, 0, 0, 0]) with
    | mk ifinfo b' =>
      rw [halloc] at hmalloc hkept hsize
      cases ifinfo with
      | none => exact ⟨hmalloc, hkept⟩
      | some ifinfo =>
        have hstored : b'.Holds ifinfo SIZEOF_POINTER (de.d_name.bytes.length + 1) := by
          refine ⟨_, hsize ifinfo rfl, ?_⟩
          simp only [SIZEOF_POINTER, SIZEOF_INTERFACE_INFO, List.length_cons, List.length_nil]
          omega
        have hlisted : b'.Holds table (SIZEOF_POINTER * st.1.length) SIZEOF_POINTER := by
          refine ⟨_, hkept, ?_⟩
          simp only [SIZEOF_POINTER]
          omega
        dsimp only
        rw [Blocks.access_of_holds hstored, Blocks.access_of_holds hlisted]
        have hperm : (ifinfo :: (st.1 ++ table :: rest)).Perm (st.1 ++ ifinfo :: table :: rest) :=
          List.perm_middle.symm
        refine ⟨Owns.perm ?_ hmalloc, hkept⟩
        rw [List.append_assoc]
        exact hperm
  · exact ⟨howns, htable⟩

/-- The second pass lists the interfaces it owns. -/
theorem owns_listInterfaces {rest : List Address} {listing : List Entry} (st : List Address × Blocks)
    (howns : Owns base (st.1 ++ table :: rest) st.2) (htable : st.2.size table = some (SIZEOF_POINTER * n))
    (hnames : ∀ de ∈ listing, de.d_name.bytes.length ≤ 15) :
    Owns base ((listing.foldl (fun st de => listInterface table n de st) st).1 ++ table :: rest)
      (listing.foldl (fun st de => listInterface table n de st) st).2 := by
  induction listing generalizing st with
  | nil => exact howns
  | cons de listing ih =>
    obtain ⟨hde, hlisting⟩ := List.forall_mem_cons.mp hnames
    obtain ⟨hnext, hkept⟩ := owns_listInterface howns htable hde
    exact ih _ hnext hkept hlisting

theorem owns_init_interfaces {sys : System} (hnames : NamesFit sys) (info : HalInfo)
    (howns : Owns base info.owned b) (hnone : info.interfaces = none) :
    Owns base (wifi_init_interfaces sys info b).1.owned (wifi_init_interfaces sys info b).2 := by
  unfold wifi_init_interfaces
  cases hfirst : sys.first with
  | none => exact howns
  | some first =>
    cases hsecond : sys.second with
    | none => exact howns
    | some second =>
      have hmalloc := howns.malloc sys.malloc (SIZEOF_POINTER * countInterfaces first)
      have hsize := Blocks.malloc_size b sys.malloc (SIZEOF_POINTER * countInterfaces first)
      dsimp only
      cases halloc : b.malloc sys.malloc (SIZEOF_POINTER * countInterfaces first) with
      | mk interfaces b' =>
        rw [halloc] at hmalloc hsize
        cases interfaces with
        | none => exact hmalloc
        | some table =>
          rw [HalInfo.owned, hnone] at hmalloc
          rw [NamesFit, hsecond] at hnames
          have hlisted := owns_listInterfaces ([], b') hmalloc (hsize table rfl) hnames
          simpa [HalInfo.owned] using hlisted

theorem allOrNothing_initCmd {sys : InitSystem} (hnames : NamesFit sys.net) {p cmd_sock event_sock event_cb : Address}
    (howns : Owns base [event_cb, cmd_sock, event_sock, p] b) :
    (initCmd sys ⟨p, some cmd_sock, some event_sock, some event_cb, none, none⟩ b).AllOrNothing base := by
  have hmalloc := howns.malloc sys.cmd (SIZEOF_CMD_INFO * DEFAULT_CMD_SIZE)
  unfold initCmd
  cases halloc : b.malloc sys.cmd (SIZEOF_CMD_INFO * DEFAULT_CMD_SIZE) with
  | mk cmd b' =>
    rw [halloc] at hmalloc
    cases cmd with
    | none => exact allOrNothing_failed hmalloc (by decide)
    | some cmd =>
      have hswapped : Owns base [event_cb, cmd, cmd_sock, event_sock, p] b' :=
        Owns.perm (List.Perm.swap _ _ _) hmalloc
      have hlisted := owns_init_interfaces hnames
        ⟨p, some cmd_sock, some event_sock, some event_cb, some cmd, none⟩ hswapped rfl
      exact ⟨fun herror => absurd rfl herror, fun _ => ⟨_, rfl, hlisted⟩⟩

theorem allOrNothing_initEventCb {sys : InitSystem} (hnames : NamesFit sys.net) {p cmd_sock event_sock : Address}
    (howns : Owns base [cmd_sock, event_sock, p] b) :
    (initEventCb sys ⟨p, some cmd_sock, some event_sock, none, none, none⟩ b).AllOrNothing base := by
  have hmalloc := howns.malloc sys.event_cb (SIZEOF_CB_INFO * DEFAULT_EVENT_CB_SIZE)
  unfold initEventCb
  cases halloc : b.malloc sys.event_cb (SIZEOF_CB_INFO * DEFAULT_EVENT_CB_SIZE) with
  | mk event_cb b' =>
    rw [halloc] at hmalloc
    cases event_cb with
    | none => exact allOrNothing_failed hmalloc (by decide)
    | some event_cb => exact allOrNothing_initCmd hnames hmalloc

theorem allOrNothing_initEventSock {sys : InitSystem} (hnames : NamesFit sys.net) {p cmd_sock : Address}
    (howns : Owns base [cmd_sock, p] b) :
    (initEventSock sys ⟨p, some cmd_sock, none, none, none, none⟩ b).AllOrNothing base := by
  have hcreate := owns_create_nl_socket howns sys.event_sock
  unfold initEventSock
  cases hsock : wifi_create_nl_socket sys.event_sock b with
  | mk event_sock b' =>
    rw [hsock] at hcreate
    cases event_sock with
    | none => exact allOrNothing_failed hcreate (by decide)
    | some event_sock =>
      have hswapped : Owns base [cmd_sock, event_sock, p] b' := Owns.perm (List.Perm.swap _ _ _) hcreate
      dsimp only
      split_ifs
      · exact allOrNothing_failed hswapped (by decide)
      · exact allOrNothing_initEventCb hnames hswapped

/-- Whatever fails, `wifi_initialize` leaves the heap as it was, or all that it has
allocated to the handle. -/
theorem allOrNothing_initialize {sys : InitSystem} (hnames : NamesFit sys.net) (hused : b.misused = false) :
    InitResult.AllOrNothing b.size <| wifi_initialize sys b := by
  have hmalloc := (Owns.start hused).malloc sys.hal_info SIZEOF_HAL_INFO
  unfold wifi_initialize
  cases halloc : b.malloc sys.hal_info SIZEOF_HAL_INFO with
  | mk p b' =>
    rw [halloc] at hmalloc
    cases p with
    | none =>
      have herror : WIFI_ERROR_OUT_OF_MEMORY ≠ WIFI_SUCCESS := by decide
      exact ⟨fun _ => ⟨rfl, hmalloc.size_eq, hmalloc.well_used⟩, fun hsuccess => absurd hsuccess herror⟩
    | some p =>
      have hcreate := owns_create_nl_socket hmalloc sys.cmd_sock
      dsimp only
      unfold initCmdSock
      cases hsock : wifi_create_nl_socket sys.cmd_sock b' with
      | mk cmd_sock b'' =>
        rw [hsock] at hcreate
        cases cmd_sock with
        | none => exact allOrNothing_failed hcreate (by decide)
        | some cmd_sock => exact allOrNothing_initEventSock hnames hcreate

/-- A life of the HAL leaves the heap as it was. -/
theorem session_releases {sys : InitSystem} (hnames : NamesFit sys.net) (hused : b.misused = false) :
    (session b sys).size = b.size ∧ (session b sys).misused = false := by
  obtain ⟨hfailed, hsucceeded⟩ := allOrNothing_initialize hnames hused
  unfold session
  dsimp only
  generalize wifi_initialize sys b = r at hfailed hsucceeded ⊢
  by_cases herror : r.error = WIFI_SUCCESS
  · obtain ⟨info, hhandle, howns⟩ := hsucceeded herror
    have hnone := owns_internal_cleanup howns
    rw [hhandle]
    exact ⟨hnone.size_eq, hnone.well_used⟩
  · obtain ⟨hhandle, hsize, hmisused⟩ := hfailed herror
    rw [hhandle]
    exact ⟨hsize, hmisused⟩

/-- However often the HAL is initialised and cleaned up and whatever fails, nothing stays
behind, and no block is freed twice or left by an access. -/
theorem sessions_release {systems : List InitSystem} (hnames : ∀ sys ∈ systems, NamesFit sys.net)
    (hused : b.misused = false) :
    (run session b systems).size = b.size ∧ (run session b systems).misused = false := by
  induction systems generalizing b with
  | nil => exact ⟨rfl, hused⟩
  | cons sys systems ih =>
    obtain ⟨hsys, hsystems⟩ := List.forall_mem_cons.mp hnames
    obtain ⟨hsize, hmisused⟩ := session_releases hsys hused
    rw [run_cons, ← hsize]
    exact ih hsystems hmisused

/-- A round lists an interface where a slot is filled in. -/
theorem listInterface_length {sys : System} {handle : List UInt8} {de : Entry} {st : List Address × Blocks}
    {filling : Filling} (hi : st.1.length = filling.i) :
    (listInterface table n de st).1.length = (fillSlot sys handle n de filling).i := by
  unfold listInterface fillSlot
  rw [hi]
  split_ifs with hhidden hslot hmalloc
  · exact hi
  · have hrefused : de.malloc = false := by simpa using hmalloc
    rw [hrefused, Blocks.malloc_refused]
    exact hi
  · have hgranted : de.malloc = true := by simpa using hmalloc
    rw [hgranted]
    simp [Blocks.malloc, hi]
  · exact hi

theorem listInterfaces_length {sys : System} {handle : List UInt8} (listing : List Entry)
    {st : List Address × Blocks} {filling : Filling} (hi : st.1.length = filling.i) :
    (listing.foldl (fun st de => listInterface table n de st) st).1.length =
      (fillSlots sys handle n listing filling).i := by
  induction listing generalizing st filling with
  | nil => exact hi
  | cons de listing ih => exact ih (listInterface_length hi)

/-- As many interfaces are listed as are counted. -/
theorem listed_length (sys : System) (handle : List UInt8) (hnone : info.interfaces = none) (b : Blocks) :
    ((wifi_init_interfaces sys info b).1.interfaces.elim 0 fun interfaces => interfaces.2.length) =
      (wifi_hal.wifi_init_interfaces sys handle .zero).2.num_interfaces := by
  unfold wifi_init_interfaces wifi_hal.wifi_init_interfaces
  cases sys.first with
  | none => simp [hnone, InterfaceFields.zero]
  | some first =>
    cases sys.second with
    | none => simp [hnone, InterfaceFields.zero]
    | some second =>
      cases hmalloc : sys.malloc with
      | false => simp [hnone, InterfaceFields.zero]
      | true =>
        have hempty : Filling.Holds ⟨0, fun _ => none⟩ sys handle (countInterfaces first) [] := holds_empty _
        have hholds := fillSlots_holds hempty second
        have hi := hholds.i_eq
        have hle := hholds.le
        have hnum : ∀ i ≤ countInterfaces first,
            (if i < countInterfaces first then i else countInterfaces first) = i := by
          intro i hi
          split_ifs
          · rfl
          · omega
        simp only [Bool.not_true, Bool.false_eq_true, if_false]
        rw [hnum _ (hi ▸ hle)]
        exact listInterfaces_length second rfl

end

def wlan0 : CString := ⟨ascii "wlan0", by decide +kernel⟩

/-- A system where everything succeeds but the allocation of the table of commands. -/
def initSystem (cmd : Bool) : InitSystem where
  hal_info := true
  cmd_sock := ⟨true, true⟩
  event_sock := ⟨true, true⟩
  genl_ctrl_resolve := 21
  event_cb := true
  cmd := cmd
  net := ⟨some [wlan0], some [⟨wlan0, true⟩], true, fun _ => 7⟩

theorem sessions_release_failed_and_done :
    (run session Blocks.empty [initSystem false, initSystem true]).size = Blocks.empty.size ∧
      (run session Blocks.empty [initSystem false, initSystem true]).misused = false := by
  refine sessions_release ?_ rfl
  intro sys hsys de hde
  obtain rfl | rfl : sys = initSystem false ∨ sys = initSystem true := by simpa using hsys
  · obtain rfl : de = ⟨wlan0, true⟩ := by simpa [initSystem] using hde
    decide +kernel
  · obtain rfl : de = ⟨wlan0, true⟩ := by simpa [initSystem] using hde
    decide +kernel

end lifecycle

end panelli.wifi_hal
