import Panelli.Table

open panelli.table

namespace panelli.wifi_hal

/-- Error codes are C integers. The negative ones come from the HAL header,
which the device tree does not carry. -/
abbrev wifi_error : Type := Int

abbrev WIFI_SUCCESS : wifi_error := 0
abbrev WIFI_ERROR_INVALID_ARGS : wifi_error := -5
abbrev WIFI_ERROR_NOT_SUPPORTED : wifi_error := -3
abbrev WIFI_ERROR_OUT_OF_MEMORY : wifi_error := -9

abbrev NL80211_CMD_VENDOR : Int := 103
abbrev GOOGLE_OUI : Nat := 0x001A11
abbrev DEFAULT_EVENT_CB_SIZE : Nat := 64
abbrev DEFAULT_CMD_SIZE : Nat := 64

/-- Address of a command object. -/
abbrev Ptr : Type := Nat

/-- An event callback. Every entry of the HAL calls `WifiCommand::event_handler`,
so the function pointer is not kept. -/
structure cb_info where
  nl_cmd : Int
  vendor_id : Nat
  vendor_subcmd : Int
  cb_arg : Option Ptr
deriving DecidableEq

structure cmd_info where
  id : Int
  cmd : Ptr
deriving DecidableEq

/-- The two registries of the HAL handle: `event_cb` with its count and
allocation, and `cmd` with its count and allocation. -/
@[ext] structure hal_info where
  event_cb : Table cb_info
  cmd : Table cmd_info

/-- The entries `wifi_unregister_vendor_handler` and the dispatcher look for. -/
def cb_info.isVendorHandler (id : Nat) (subcmd : Int) (entry : cb_info) : Bool :=
  entry.nl_cmd == NL80211_CMD_VENDOR && entry.vendor_id == id && entry.vendor_subcmd == subcmd

theorem cb_info.isVendorHandler_iff {id : Nat} {subcmd : Int} {entry : cb_info} :
    entry.isVendorHandler id subcmd = true ↔
      entry.nl_cmd = NL80211_CMD_VENDOR ∧ entry.vendor_id = id ∧ entry.vendor_subcmd = subcmd := by
  simp [cb_info.isVendorHandler, and_assoc]

def wifi_register_vendor_handler (info : hal_info) (id : Nat) (subcmd : Int) (arg : Option Ptr) :
    wifi_error × hal_info :=
  if info.event_cb.HasRoom then
    (WIFI_SUCCESS, { info with event_cb := info.event_cb.push ⟨NL80211_CMD_VENDOR, id, subcmd, arg⟩ })
  else
    (WIFI_ERROR_OUT_OF_MEMORY, info)

/-- Removes the first entry for the vendor event, whichever command it belongs to. -/
def wifi_unregister_vendor_handler (info : hal_info) (id : Nat) (subcmd : Int) : hal_info :=
  { info with event_cb := info.event_cb.remove (cb_info.isVendorHandler id subcmd) }

def wifi_register_cmd (info : hal_info) (id : Int) (cmd : Ptr) : wifi_error × hal_info :=
  if info.cmd.HasRoom then
    (WIFI_SUCCESS, { info with cmd := info.cmd.push ⟨id, cmd⟩ })
  else
    (WIFI_ERROR_OUT_OF_MEMORY, info)

/-- Removes the first entry with the given id and returns its command. -/
def wifi_unregister_cmd (info : hal_info) (id : Int) : Option Ptr × hal_info :=
  match info.cmd.entries.find? (·.id == id) with
  | some entry => (some entry.cmd, { info with cmd := info.cmd.remove (·.id == id) })
  | none => (none, info)

def wifi_get_cmd (info : hal_info) (id : Int) : Option Ptr :=
  (info.cmd.entries.find? (·.id == id)).map cmd_info.cmd

/-- The registries `wifi_initialize` sets up. -/
def hal_info.initial : hal_info :=
  ⟨Table.empty DEFAULT_EVENT_CB_SIZE, Table.empty DEFAULT_CMD_SIZE⟩

/-- A failed registration leaves the table as it was, so both outcomes are a push. -/
theorem wifi_register_vendor_handler_snd (info : hal_info) (id : Nat) (subcmd : Int) (arg : Option Ptr) :
    (wifi_register_vendor_handler info id subcmd arg).2 =
      { info with event_cb := info.event_cb.push ⟨NL80211_CMD_VENDOR, id, subcmd, arg⟩ } := by
  unfold wifi_register_vendor_handler
  split
  · rfl
  · rename_i hfull
    rw [Table.push_of_full hfull]

theorem wifi_register_cmd_snd (info : hal_info) (id : Int) (cmd : Ptr) :
    (wifi_register_cmd info id cmd).2 = { info with cmd := info.cmd.push ⟨id, cmd⟩ } := by
  unfold wifi_register_cmd
  split
  · rfl
  · rename_i hfull
    rw [Table.push_of_full hfull]

theorem wifi_unregister_cmd_fst (info : hal_info) (id : Int) :
    (wifi_unregister_cmd info id).1 = wifi_get_cmd info id := by
  unfold wifi_unregister_cmd wifi_get_cmd
  split
  · rename_i hfind
    rw [hfind, Option.map_some]
  · rename_i hfind
    rw [hfind, Option.map_none]

/-- An id that is not found has no match to remove either. -/
theorem wifi_unregister_cmd_snd (info : hal_info) (id : Int) :
    (wifi_unregister_cmd info id).2 = { info with cmd := info.cmd.remove (·.id == id) } := by
  unfold wifi_unregister_cmd
  split
  · rfl
  · rename_i hnone
    have hkeep : info.cmd.remove (·.id == id) = info.cmd :=
      Table.ext (List.eraseP_of_forall_not (List.find?_eq_none.mp hnone)) rfl
    rw [hkeep]

theorem wifi_get_cmd_eq_none {info : hal_info} {id : Int} :
    wifi_get_cmd info id = none ↔ ∀ entry ∈ info.cmd.entries, entry.id ≠ id := by
  simp [wifi_get_cmd]

/-- The command found under an id heads the entries with that id. -/
theorem wifi_get_cmd_eq_some {info : hal_info} {id : Int} {cmd : Ptr} :
    wifi_get_cmd info id = some cmd ↔
      info.cmd.entries.find? (·.id == id) = some ⟨id, cmd⟩ := by
  simp only [wifi_get_cmd, Option.map_eq_some_iff]
  constructor
  · rintro ⟨⟨entryId, entryCmd⟩, hfind, rfl⟩
    have hid : entryId = id := by simpa using List.find?_some hfind
    rw [hfind, hid]
  · intro hfind
    exact ⟨_, hfind, rfl⟩

end panelli.wifi_hal
