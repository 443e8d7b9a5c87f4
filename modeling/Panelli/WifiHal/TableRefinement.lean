import Panelli.Runs
import Panelli.Slots
import Panelli.WifiHal.Registry

open panelli.runs panelli.slots panelli.table

namespace panelli.wifi_hal

/-- An entry of `event_cb` with its function. -/
@[ext] structure cb_slot extends cb_info where
  cb_func : Ptr
deriving DecidableEq

/-- The entry is one for vendor events. -/
def cb_slot.isVendor (entry : cb_slot) : Bool := entry.nl_cmd == NL80211_CMD_VENDOR

/-- Both tables of the HAL handle in memory. -/
structure hal_tables where
  event_cb : Slots cb_slot
  cmd : Slots cmd_info

namespace hal_tables

/-- The tables that `wifi_initialize` sets up, in memory that is not initialised. -/
def fresh (event_cb : Nat → cb_slot) (cmd : Nat → cmd_info) : hal_tables :=
  ⟨Slots.fresh event_cb DEFAULT_EVENT_CB_SIZE, Slots.fresh cmd DEFAULT_CMD_SIZE⟩

/-- The body of both functions that register a handler. -/
def addHandler (info : hal_tables) (entry : cb_slot) : wifi_error × hal_tables :=
  if hroom : info.event_cb.num < info.event_cb.alloc then
    (WIFI_SUCCESS, { info with event_cb := info.event_cb.append entry hroom })
  else (WIFI_ERROR_OUT_OF_MEMORY, info)

def wifi_register_handler (info : hal_tables) (cmd : Int) (func : Ptr) (arg : Option Ptr) :
    wifi_error × hal_tables :=
  info.addHandler { nl_cmd := cmd, vendor_id := 0, vendor_subcmd := 0, cb_func := func, cb_arg := arg }

def wifi_register_vendor_handler (info : hal_tables) (id : Nat) (subcmd : Int) (func : Ptr) (arg : Option Ptr) :
    wifi_error × hal_tables :=
  info.addHandler {
    nl_cmd := NL80211_CMD_VENDOR, vendor_id := id, vendor_subcmd := subcmd, cb_func := func, cb_arg := arg }

/-- The loop of both functions that remove a handler. -/
def removeHandler (info : hal_tables) (found : cb_slot → Bool) : hal_tables :=
  let num := info.event_cb.num
  { info with event_cb := info.event_cb.removeFrom found (fun i => num - i - 1) 0 num }

def wifi_unregister_handler (info : hal_tables) (cmd : Int) : hal_tables :=
  if cmd = NL80211_CMD_VENDOR then info else info.removeHandler (·.nl_cmd == cmd)

def wifi_unregister_vendor_handler (info : hal_tables) (id : Nat) (subcmd : Int) : hal_tables :=
  info.removeHandler fun entry =>
    entry.nl_cmd == NL80211_CMD_VENDOR && entry.vendor_id == id && entry.vendor_subcmd == subcmd

def wifi_register_cmd (info : hal_tables) (id : Int) (cmd : Ptr) : wifi_error × hal_tables :=
  if hroom : info.cmd.num < info.cmd.alloc then
    (WIFI_SUCCESS, { info with cmd := info.cmd.append ⟨id, cmd⟩ hroom })
  else (WIFI_ERROR_OUT_OF_MEMORY, info)

/-- The loop of both overloads of `wifi_unregister_cmd`, which moves one entry more. -/
def removeCmd (info : hal_tables) (found : cmd_info → Bool) : hal_tables :=
  let num := info.cmd.num
  { info with cmd := info.cmd.removeFrom found (fun i => num - i) 0 num }

def wifi_get_cmd (info : hal_tables) (id : Int) : Option Ptr :=
  (info.cmd.findFrom (·.id == id) 0 info.cmd.num).map cmd_info.cmd

def wifi_unregister_cmd (info : hal_tables) (id : Int) : Option Ptr × hal_tables :=
  ((info.cmd.findFrom (·.id == id) 0 info.cmd.num).map cmd_info.cmd, info.removeCmd (·.id == id))

/-- `wifi_unregister_cmd` for a command. -/
def wifi_unregister_cmd_pointer (info : hal_tables) (cmd : Ptr) : hal_tables := info.removeCmd (·.cmd == cmd)

end hal_tables

/-- A call of one of the functions for the tables. -/
inductive TableCall where
  | register_handler (cmd : Int) (func : Ptr) (arg : Option Ptr)
  | register_vendor_handler (id : Nat) (subcmd : Int) (func : Ptr) (arg : Option Ptr)
  | unregister_handler (cmd : Int)
  | unregister_vendor_handler (id : Nat) (subcmd : Int)
  | register_cmd (id : Int) (cmd : Ptr)
  | get_cmd (id : Int)
  | unregister_cmd (id : Int)
  | unregister_cmd_pointer (cmd : Ptr)

/-- What a call returns. -/
inductive TableResult where
  | error (result : wifi_error)
  | cmd (pointer : Option Ptr)
  | void
deriving DecidableEq

/-- A call on the tables in memory. -/
def hal_tables.call (info : hal_tables) : TableCall → TableResult × hal_tables
  | .register_handler cmd func arg =>
    let (result, info) := info.wifi_register_handler cmd func arg
    (.error result, info)
  | .register_vendor_handler id subcmd func arg =>
    let (result, info) := info.wifi_register_vendor_handler id subcmd func arg
    (.error result, info)
  | .unregister_handler cmd => (.void, info.wifi_unregister_handler cmd)
  | .unregister_vendor_handler id subcmd => (.void, info.wifi_unregister_vendor_handler id subcmd)
  | .register_cmd id cmd =>
    let (result, info) := info.wifi_register_cmd id cmd
    (.error result, info)
  | .get_cmd id => (.cmd (info.wifi_get_cmd id), info)
  | .unregister_cmd id =>
    let (pointer, info) := info.wifi_unregister_cmd id
    (.cmd pointer, info)
  | .unregister_cmd_pointer cmd => (.void, info.wifi_unregister_cmd_pointer cmd)

/-- What the tables stand for: two lists of limited length. -/
structure hal_lists where
  event_cb : Table cb_slot
  cmd : Table cmd_info

namespace hal_lists

def empty : hal_lists := ⟨Table.empty 64, Table.empty 64⟩

/-- The plain entries for a command, and the vendor entries for an event. -/
def plainMatch (cmd : Int) (entry : cb_slot) : Bool := !entry.isVendor && entry.nl_cmd == cmd

def vendorMatch (id : Nat) (subcmd : Int) (entry : cb_slot) : Bool :=
  entry.isVendor && (entry.vendor_id == id && entry.vendor_subcmd == subcmd)

/-- Registering appends, unless the list is full. -/
def registered {α : Type} (list : Table α) : TableResult :=
  .error (if list.HasRoom then WIFI_SUCCESS else WIFI_ERROR_OUT_OF_MEMORY)

/-- The command of the first match. -/
def firstCmd (lists : hal_lists) (id : Int) : TableResult :=
  .cmd ((lists.cmd.entries.find? (·.id == id)).map cmd_info.cmd)

/-- A call on the lists. -/
def call (lists : hal_lists) : TableCall → TableResult × hal_lists
  | .register_handler cmd func arg =>
    (registered lists.event_cb, { lists with event_cb := lists.event_cb.push ⟨⟨cmd, 0, 0, arg⟩, func⟩ })
  | .register_vendor_handler id subcmd func arg =>
    (registered lists.event_cb,
      { lists with event_cb := lists.event_cb.push ⟨⟨NL80211_CMD_VENDOR, id, subcmd, arg⟩, func⟩ })
  | .unregister_handler cmd => (.void, { lists with event_cb := lists.event_cb.remove (plainMatch cmd) })
  | .unregister_vendor_handler id subcmd =>
    (.void, { lists with event_cb := lists.event_cb.remove (vendorMatch id subcmd) })
  | .register_cmd id cmd => (registered lists.cmd, { lists with cmd := lists.cmd.push ⟨id, cmd⟩ })
  | .get_cmd id => (lists.firstCmd id, lists)
  | .unregister_cmd id => (lists.firstCmd id, { lists with cmd := lists.cmd.remove (·.id == id) })
  | .unregister_cmd_pointer cmd => (.void, { lists with cmd := lists.cmd.remove (·.cmd == cmd) })

end hal_lists

/-- An array has the elements of a list, with room for 64 in both. -/
structure Implements {α : Type} (slots : Slots α) (list : Table α) : Prop where
  contents : slots.contents = list.entries
  alloc : slots.alloc = list.alloc
  capacity : list.alloc = 64

/-- Both tables are those of the lists. -/
structure hal_tables.Refines (info : hal_tables) (lists : hal_lists) : Prop where
  event_cb : Implements info.event_cb lists.event_cb
  cmd : Implements info.cmd lists.cmd

/-- A call that removes entries of one kind leaves those of the other, in order. -/
def KeepsOtherKind (before after : hal_tables) : TableCall → Prop
  | .unregister_handler _ =>
    after.event_cb.contents.filter (·.isVendor) = before.event_cb.contents.filter (·.isVendor)
  | .unregister_vendor_handler _ _ =>
    after.event_cb.contents.filter (!·.isVendor) = before.event_cb.contents.filter (!·.isVendor)
  | _ => True

section

variable {α : Type} {slots : Slots α} {list : Table α} {info : hal_tables} {lists : hal_lists}

theorem Implements.hasRoom_iff (himplements : Implements slots list) :
    slots.num < slots.alloc ↔ list.HasRoom := by
  rw [Table.HasRoom, ← himplements.contents, contents_length, himplements.alloc]

theorem implements_fresh (cell : Nat → α) : Implements (Slots.fresh cell 64) (Table.empty 64) :=
  ⟨contents_fresh cell 64, rfl, rfl⟩

/-- Appending to the array with room is a push. -/
theorem Implements.append (himplements : Implements slots list) (a : α) (hroom : slots.num < slots.alloc) :
    Implements (slots.append a hroom) (list.push a) := by
  constructor
  · rw [contents_append, himplements.contents, Table.push_of_room (himplements.hasRoom_iff.mp hroom)]
  · rw [append_alloc, himplements.alloc, Table.push_alloc]
  · rw [Table.push_alloc, himplements.capacity]

/-- So is leaving the array without room as it is. -/
theorem Implements.full (himplements : Implements slots list) (a : α) (hfull : ¬ slots.num < slots.alloc) :
    Implements slots (list.push a) := by
  rwa [Table.push_of_full fun hroom => hfull (himplements.hasRoom_iff.mpr hroom)]

/-- A loop that moves at least what is behind the match removes it from the list. -/
theorem Implements.remove (himplements : Implements slots list) {found : α → Bool} {moved : Nat → Nat}
    (hmoved : ∀ k, slots.num - k - 1 ≤ moved k) :
    Implements (slots.removeFrom found moved 0 slots.num) (list.remove found) := by
  constructor
  · rw [contents_removeFrom_all found slots hmoved, himplements.contents, Table.remove_entries]
  · rw [removeFrom_alloc, himplements.alloc, Table.remove_alloc]
  · rw [Table.remove_alloc, himplements.capacity]

theorem Implements.findFrom (himplements : Implements slots list) (found : α → Bool) :
    slots.findFrom found 0 slots.num = list.entries.find? found := by
  rw [findFrom_contents, himplements.contents]

theorem hal_tables.Refines.removeHandler (hrefines : info.Refines lists) (found : cb_slot → Bool) :
    (info.removeHandler found).Refines { lists with event_cb := lists.event_cb.remove found } :=
  ⟨hrefines.event_cb.remove fun _ => Nat.le_refl _, hrefines.cmd⟩

theorem hal_tables.Refines.removeCmd (hrefines : info.Refines lists) (found : cmd_info → Bool) :
    (info.removeCmd found).Refines { lists with cmd := lists.cmd.remove found } :=
  ⟨hrefines.event_cb, hrefines.cmd.remove fun _ => Nat.sub_le _ _⟩

theorem hal_tables.Refines.addHandler (hrefines : info.Refines lists) (entry : cb_slot) :
    TableResult.error (info.addHandler entry).1 = hal_lists.registered lists.event_cb ∧
      (info.addHandler entry).2.Refines { lists with event_cb := lists.event_cb.push entry } := by
  have hiff := hrefines.event_cb.hasRoom_iff
  unfold hal_tables.addHandler hal_lists.registered
  split_ifs with hroom hlist hlist
  · exact ⟨rfl, hrefines.event_cb.append entry hroom, hrefines.cmd⟩
  · exact absurd (hiff.mp hroom) hlist
  · exact absurd (hiff.mpr hlist) hroom
  · exact ⟨rfl, hrefines.event_cb.full entry hroom, hrefines.cmd⟩

theorem hal_tables.Refines.register_cmd (hrefines : info.Refines lists) (id : Int) (cmd : Ptr) :
    TableResult.error (info.wifi_register_cmd id cmd).1 = hal_lists.registered lists.cmd ∧
      (info.wifi_register_cmd id cmd).2.Refines { lists with cmd := lists.cmd.push ⟨id, cmd⟩ } := by
  have hiff := hrefines.cmd.hasRoom_iff
  unfold hal_tables.wifi_register_cmd hal_lists.registered
  split_ifs with hroom hlist hlist
  · exact ⟨rfl, hrefines.event_cb, hrefines.cmd.append _ hroom⟩
  · exact absurd (hiff.mp hroom) hlist
  · exact absurd (hiff.mpr hlist) hroom
  · exact ⟨rfl, hrefines.event_cb, hrefines.cmd.full _ hroom⟩

theorem plainMatch_vendor (entry : cb_slot) : ¬ hal_lists.plainMatch NL80211_CMD_VENDOR entry := by
  simp [hal_lists.plainMatch, cb_slot.isVendor]

theorem plainMatch_eq {cmd : Int} (hne : cmd ≠ NL80211_CMD_VENDOR) :
    hal_lists.plainMatch cmd = fun entry => entry.nl_cmd == cmd := by
  funext entry
  by_cases hcmd : entry.nl_cmd = cmd
  · simp [hal_lists.plainMatch, cb_slot.isVendor, hcmd, hne]
  · simp [hal_lists.plainMatch, hcmd]

/-- A plain removal looks for plain entries only: for the vendor command it is refused. -/
theorem hal_tables.Refines.unregister_handler (hrefines : info.Refines lists) (cmd : Int) :
    (info.wifi_unregister_handler cmd).Refines
      { lists with event_cb := lists.event_cb.remove (hal_lists.plainMatch cmd) } := by
  unfold hal_tables.wifi_unregister_handler
  split_ifs with hvendor
  · subst hvendor
    have hkeep : lists.event_cb.remove (hal_lists.plainMatch NL80211_CMD_VENDOR) = lists.event_cb :=
      Table.ext (List.eraseP_of_forall_not fun entry _ => plainMatch_vendor entry) rfl
    rwa [hkeep]
  · rw [plainMatch_eq hvendor]
    exact hrefines.removeHandler _

theorem hal_tables.Refines.unregister_vendor_handler (hrefines : info.Refines lists) (id : Nat) (subcmd : Int) :
    (info.wifi_unregister_vendor_handler id subcmd).Refines
      { lists with event_cb := lists.event_cb.remove (hal_lists.vendorMatch id subcmd) } := by
  have hmatch : hal_lists.vendorMatch id subcmd = fun entry =>
      entry.nl_cmd == NL80211_CMD_VENDOR && entry.vendor_id == id && entry.vendor_subcmd == subcmd := by
    funext entry
    rw [hal_lists.vendorMatch, cb_slot.isVendor, Bool.and_assoc]
  rw [hmatch]
  exact hrefines.removeHandler _

theorem hal_tables.Refines.get_cmd (hrefines : info.Refines lists) (id : Int) :
    TableResult.cmd (info.wifi_get_cmd id) = lists.firstCmd id := by
  rw [hal_tables.wifi_get_cmd, hrefines.cmd.findFrom, hal_lists.firstCmd]

/-- A call returns the same on the tables as on the lists, and they stay in step. -/
theorem hal_tables.Refines.call (hrefines : info.Refines lists) (call : TableCall) :
    (info.call call).1 = (lists.call call).1 ∧ (info.call call).2.Refines (lists.call call).2 := by
  cases call with
  | register_handler cmd func arg => exact hrefines.addHandler _
  | register_vendor_handler id subcmd func arg => exact hrefines.addHandler _
  | unregister_handler cmd => exact ⟨rfl, hrefines.unregister_handler cmd⟩
  | unregister_vendor_handler id subcmd => exact ⟨rfl, hrefines.unregister_vendor_handler id subcmd⟩
  | register_cmd id cmd => exact hrefines.register_cmd id cmd
  | get_cmd id => exact ⟨hrefines.get_cmd id, hrefines⟩
  | unregister_cmd id => exact ⟨hrefines.get_cmd id, hrefines.removeCmd _⟩
  | unregister_cmd_pointer cmd => exact ⟨rfl, hrefines.removeCmd _⟩

theorem refines_fresh (event_cb : Nat → cb_slot) (cmd : Nat → cmd_info) :
    (hal_tables.fresh event_cb cmd).Refines hal_lists.empty :=
  ⟨implements_fresh event_cb, implements_fresh cmd⟩

theorem hal_tables.Refines.keepsOtherKind (hrefines : info.Refines lists) (call : TableCall) :
    KeepsOtherKind info (info.call call).2 call := by
  have hbefore := hrefines.event_cb.contents
  have hafter := (hrefines.call call).2.event_cb.contents
  cases call with
  | unregister_handler cmd =>
    change ((info.call _).2.event_cb.contents).filter _ = _
    rw [hafter, hbefore]
    apply filter_eraseP_of_disjoint
    intro entry hplain hvendor
    simp [hal_lists.plainMatch, hvendor] at hplain
  | unregister_vendor_handler id subcmd =>
    change ((info.call _).2.event_cb.contents).filter _ = _
    rw [hafter, hbefore]
    apply filter_eraseP_of_disjoint
    intro entry hvendor hplain
    simp only [hal_lists.vendorMatch, Bool.and_eq_true] at hvendor
    simp [hvendor.1] at hplain
  | _ => trivial

end

/-- After any calls on fresh tables these are the two lists on which the calls append and
remove, all results were the same, and no removal takes an entry of the other kind. -/
theorem table_calls_refine (event_cb : Nat → cb_slot) (cmd : Nat → cmd_info) (calls : List TableCall) :
    (answers hal_tables.call (.fresh event_cb cmd) calls).1 = (answers hal_lists.call .empty calls).1 ∧
      (answers hal_tables.call (.fresh event_cb cmd) calls).2.Refines (answers hal_lists.call .empty calls).2 ∧
      ∀ call, KeepsOtherKind (answers hal_tables.call (.fresh event_cb cmd) calls).2
        ((answers hal_tables.call (.fresh event_cb cmd) calls).2.call call).2 call := by
  obtain ⟨hresults, hrefines⟩ := answers_simulation
    (fun (info : hal_tables) (lists : hal_lists) call (hrefines : info.Refines lists) => hrefines.call call)
    (refines_fresh event_cb cmd) calls
  exact ⟨hresults, hrefines, fun call => hrefines.keepsOtherKind call⟩

/-- The lists without the functions of the handlers, which are all the same in the HAL. -/
def hal_lists.registry (lists : hal_lists) : hal_info where
  event_cb := {
    entries := lists.event_cb.entries.map (·.tocb_info)
    alloc := lists.event_cb.alloc
    entries_le := by rw [List.length_map]; exact lists.event_cb.entries_le }
  cmd := lists.cmd

section

variable (lists : hal_lists)

theorem registry_register_vendor_handler (id : Nat) (subcmd : Int) (func : Ptr) (arg : Option Ptr) :
    (lists.call (.register_vendor_handler id subcmd func arg)).2.registry =
      (wifi_register_vendor_handler lists.registry id subcmd arg).2 := by
  have hiff : lists.registry.event_cb.HasRoom ↔ lists.event_cb.HasRoom := by
    rw [Table.HasRoom, hal_lists.registry, List.length_map]
  rw [wifi_register_vendor_handler_snd]
  apply hal_info.ext
  · by_cases hroom : lists.event_cb.HasRoom
    · apply Table.ext
      · rw [Table.push_of_room (hiff.mpr hroom)]
        change (lists.event_cb.push _).entries.map _ = _
        rw [Table.push_of_room hroom, List.map_append]
        rfl
      · rw [Table.push_alloc]
        change (lists.event_cb.push _).alloc = lists.event_cb.alloc
        rw [Table.push_alloc]
    · have hfull : (lists.call (.register_vendor_handler id subcmd func arg)).2 = lists := by
        change { lists with event_cb := lists.event_cb.push _ } = lists
        rw [Table.push_of_full hroom]
      rw [Table.push_of_full fun h => hroom (hiff.mp h), hfull]
  · rfl

theorem registry_unregister_vendor_handler (id : Nat) (subcmd : Int) :
    (lists.call (.unregister_vendor_handler id subcmd)).2.registry =
      wifi_unregister_vendor_handler lists.registry id subcmd := by
  have hmatch : (fun entry : cb_slot => cb_info.isVendorHandler id subcmd entry.tocb_info) =
      hal_lists.vendorMatch id subcmd := by
    funext entry
    rw [cb_info.isVendorHandler, hal_lists.vendorMatch, cb_slot.isVendor, Bool.and_assoc]
  apply hal_info.ext
  · apply Table.ext
    · change (lists.event_cb.entries.eraseP _).map _ = (lists.event_cb.entries.map _).eraseP _
      rw [List.eraseP_map, ← hmatch]
      rfl
    · rfl
  · rfl

theorem registry_register_cmd (id : Int) (cmd : Ptr) :
    (lists.call (.register_cmd id cmd)).2.registry = (wifi_register_cmd lists.registry id cmd).2 := by
  rw [wifi_register_cmd_snd]
  rfl

theorem registry_unregister_cmd (id : Int) :
    (lists.call (.unregister_cmd id)).2.registry = (wifi_unregister_cmd lists.registry id).2 := by
  rw [wifi_unregister_cmd_snd]
  rfl

theorem registry_get_cmd (id : Int) :
    (lists.call (.get_cmd id)).1 = .cmd (wifi_get_cmd lists.registry id) := rfl

end

end panelli.wifi_hal
