import Panelli.Access
import Panelli.WifiHal.Registry
import Mathlib.Data.Nat.Find

open panelli.table panelli.access

namespace panelli.wifi_hal

/-- The command table in memory: `cmd` also tells what is behind the entries that are
allocated. -/
@[ext] structure cmd_table where
  cmd : Nat → cmd_info
  num_cmd : Nat
  alloc_cmd : Nat
  num_cmd_le : num_cmd ≤ alloc_cmd

namespace cmd_table

/-- The registry that the entries in use are. -/
def registry (t : cmd_table) : Table cmd_info where
  entries := (List.range t.num_cmd).map t.cmd
  alloc := t.alloc_cmd
  entries_le := by rw [List.length_map, List.length_range]; exact t.num_cmd_le

/-- A move of entries. Offsets and sizes of ranges are in entries here. -/
def memmove (dst src n : Nat) (cmd : Nat → cmd_info) : Access (Nat → cmd_info) := do
  touch ⟨src, n⟩
  writeAll [⟨dst, n⟩]
  return fun k => if dst ≤ k ∧ k < dst + n then cmd (k - dst + src) else cmd k

/-- The table when the entry at `i` is removed: what is behind the entries moves, too. -/
def removeAt (t : cmd_table) (i : Nat) : cmd_table where
  cmd := fun k => if i ≤ k ∧ k < i + (t.num_cmd - i) then t.cmd (k - i + (i + 1)) else t.cmd k
  num_cmd := t.num_cmd - 1
  alloc_cmd := t.alloc_cmd
  num_cmd_le := Nat.le_trans (Nat.sub_le _ _) t.num_cmd_le

/-- The loop of both overloads from entry `i` on, with so many entries left. -/
def unregister (found : cmd_info → Bool) (t : cmd_table) (i : Nat) : Nat → Access (Option cmd_info × cmd_table)
  | 0 => return (none, t)
  | left + 1 => do
    touch ⟨i, 1⟩
    if found (t.cmd i) then
      let cmd ← memmove i (i + 1) (t.num_cmd - i) t.cmd
      return (some (t.cmd i), { t.removeAt i with cmd := cmd })
    else unregister found t (i + 1) left

/-- `wifi_unregister_cmd` for an id. -/
def wifi_unregister_cmd (t : cmd_table) (id : Int) : Access (Option Ptr × cmd_table) := do
  let (entry, t) ← unregister (·.id == id) t 0 t.num_cmd
  return (entry.map cmd_info.cmd, t)

/-- `wifi_unregister_cmd` for a command, whose id is only logged. -/
def wifi_unregister_cmd_pointer (t : cmd_table) (cmd : Ptr) : Access cmd_table := do
  let (_, t) ← unregister (·.cmd == cmd) t 0 t.num_cmd
  return t

/-- Only entries that are allocated were read and written. -/
def InTable (t : cmd_table) (accesses : Accesses) : Prop :=
  ∀ r ∈ accesses.reads ++ accesses.writes, r.Within t.alloc_cmd

/-- Nothing that is found is in the table, or the table is not full. -/
def MovesInside (t : cmd_table) (found : cmd_info → Bool) : Prop :=
  t.registry.HasRoom ∨ ∀ entry ∈ t.registry.entries, ¬ found entry

section

variable {found : cmd_info → Bool} {t : cmd_table} {i j left : Nat} (s : Accesses)

/-- The reads of a scan, one entry each. -/
def scanned (i n : Nat) : List Range := (List.range' i n).map fun k => ⟨k, 1⟩

@[simp] theorem scanned_zero (i : Nat) : scanned i 0 = [] := rfl

theorem scanned_succ (i n : Nat) : scanned i (n + 1) = ⟨i, 1⟩ :: scanned (i + 1) n := by
  rw [scanned, List.range'_succ, List.map_cons]
  rfl

theorem scanned_within {n len : Nat} (hlen : i + n ≤ len) : ∀ r ∈ scanned i n, r.Within len := by
  intro r hr
  obtain ⟨k, hk, rfl⟩ := List.mem_map.mp hr
  have hlt := List.mem_range'_1.mp hk
  apply Or.inr
  dsimp only
  omega

/-- Where nothing is found, each entry is read. -/
theorem unregister_of_none (hnone : ∀ k, i ≤ k → k < i + left → ¬ found (t.cmd k)) :
    unregister found t i left s = ((none, t), { s with reads := s.reads ++ scanned i left }) := by
  induction left generalizing i s with
  | zero =>
    rw [scanned_zero, List.append_nil]
    rfl
  | succ left ih =>
    have hi := hnone i (Nat.le_refl i) (by omega)
    have hrest := ih (i := i + 1) { s with reads := s.reads ++ [⟨i, 1⟩] }
      fun k hk hlt => hnone k (by omega) (by omega)
    rw [unregister, if_neg hi, bind_apply]
    refine hrest.trans ?_
    rw [scanned_succ, List.append_assoc, List.singleton_append]

/-- The first entry that is found is removed: the move reads one entry more than the
table has behind it. -/
theorem unregister_of_first (hi : i ≤ j) (hj : j < i + left) (hfound : found (t.cmd j))
    (hfirst : ∀ k, i ≤ k → k < j → ¬ found (t.cmd k)) :
    unregister found t i left s = ((some (t.cmd j), t.removeAt j),
      { s with
        reads := s.reads ++ scanned i (j + 1 - i) ++ [⟨j + 1, t.num_cmd - j⟩]
        writes := s.writes ++ [⟨j, t.num_cmd - j⟩] }) := by
  induction left generalizing i s with
  | zero => omega
  | succ left ih =>
    obtain rfl | hlt := Nat.eq_or_lt_of_le hi
    · have hone : i + 1 - i = 0 + 1 := by omega
      rw [unregister, if_pos hfound, hone, scanned_succ, scanned_zero]
      rfl
    · have hrest := ih { s with reads := s.reads ++ [⟨i, 1⟩] } hlt (by omega)
        fun k hk hkj => hfirst k (by omega) hkj
      have hcount : j + 1 - i = j + 1 - (i + 1) + 1 := by omega
      rw [unregister, if_neg (hfirst i (Nat.le_refl i) hlt), bind_apply]
      refine hrest.trans ?_
      rw [hcount, scanned_succ, List.append_assoc s.reads, List.singleton_append]

theorem mem_registry {entry : cmd_info} :
    entry ∈ t.registry.entries ↔ ∃ k < t.num_cmd, t.cmd k = entry := by
  simp [registry]

theorem registry_length (t : cmd_table) : t.registry.entries.length = t.num_cmd := by
  rw [registry, List.length_map, List.length_range]

/-- A scan of the table finds nothing, or there is a first entry that it finds. -/
theorem first_or_none (found : cmd_info → Bool) (t : cmd_table) :
    (∀ k < t.num_cmd, ¬ found (t.cmd k)) ∨
      ∃ j < t.num_cmd, found (t.cmd j) ∧ ∀ k < j, ¬ found (t.cmd k) := by
  by_cases hsome : ∃ j, j < t.num_cmd ∧ found (t.cmd j)
  · obtain ⟨hlt, hfound⟩ := Nat.find_spec hsome
    refine Or.inr ⟨Nat.find hsome, hlt, hfound, fun k hk hk' => ?_⟩
    exact Nat.find_min hsome hk ⟨Nat.lt_trans hk hlt, hk'⟩
  · exact Or.inl fun k hk hk' => hsome ⟨k, hk, hk'⟩

/-- Whatever it reads behind the entries, a removal leaves the entries that a removal
from the registry leaves. -/
theorem registry_removeAt (hj : j < t.num_cmd) (hfound : found (t.cmd j))
    (hfirst : ∀ k < j, ¬ found (t.cmd k)) : (t.removeAt j).registry = t.registry.remove found := by
  have hidx : t.registry.entries.findIdx? found = some j := by
    rw [List.findIdx?_eq_some_iff_getElem]
    refine ⟨by rwa [registry_length], by simpa [registry] using hfound, fun k hk => ?_⟩
    simpa [registry] using hfirst k hk
  apply Table.ext
  · rw [Table.remove_entries, List.eraseP_eq_eraseIdx, hidx]
    apply List.ext_getElem
    · rw [List.length_eraseIdx_of_lt (by rwa [registry_length]), registry_length, registry_length]
      rfl
    · intro k hk _
      have hk' : k < t.num_cmd - 1 := by rwa [registry_length] at hk
      rw [List.getElem_eraseIdx]
      by_cases hkj : k < j
      · have hbefore : ¬ (j ≤ k ∧ k < j + (t.num_cmd - j)) := by omega
        simp [registry, removeAt, hkj, hbefore]
      · have hmoved : j ≤ k ∧ k < j + (t.num_cmd - j) := by omega
        have hsource : k - j + (j + 1) = k + 1 := by omega
        simp [registry, removeAt, hkj, hmoved, hsource]
  · rfl

/-- The loop removes what is found from the registry. -/
theorem unregister_registry (found : cmd_info → Bool) (t : cmd_table) :
    (unregister found t 0 t.num_cmd s).1.1 = t.registry.entries.find? found ∧
      (unregister found t 0 t.num_cmd s).1.2.registry = t.registry.remove found := by
  obtain hnone | ⟨j, hj, hfound, hfirst⟩ := first_or_none found t
  · have hall : ∀ entry ∈ t.registry.entries, ¬ found entry := by
      intro entry hentry
      obtain ⟨k, hk, rfl⟩ := mem_registry.mp hentry
      exact hnone k hk
    rw [unregister_of_none s fun k _ hk => hnone k (by omega)]
    exact ⟨(List.find?_eq_none.mpr hall).symm, Table.ext (List.eraseP_of_forall_not hall).symm rfl⟩
  · rw [unregister_of_first s (Nat.zero_le j) (by omega) hfound fun k _ hk => hfirst k hk]
    refine ⟨?_, registry_removeAt hj hfound hfirst⟩
    symm
    rw [List.find?_eq_some_iff_getElem]
    refine ⟨hfound, j, by rwa [registry_length], by simp [registry], fun k hk => ?_⟩
    simpa [registry] using hfirst k hk

/-- The accesses are inside of the table exactly if nothing is moved or the table is
not full. -/
theorem unregister_inTable_iff (found : cmd_info → Bool) (t : cmd_table) :
    t.InTable (unregister found t 0 t.num_cmd {}).2 ↔ t.MovesInside found := by
  have hle := t.num_cmd_le
  obtain hnone | ⟨j, hj, hfound, hfirst⟩ := first_or_none found t
  · have hscan : t.InTable (unregister found t 0 t.num_cmd {}).2 := by
      rw [unregister_of_none {} fun k _ hk => hnone k (by omega)]
      have hscanned : 0 + t.num_cmd ≤ t.alloc_cmd := by omega
      intro r hr
      exact scanned_within hscanned r (by simpa using hr)
    have hmoves : t.MovesInside found := by
      apply Or.inr
      intro entry hentry
      obtain ⟨k, hk, rfl⟩ := mem_registry.mp hentry
      exact hnone k hk
    exact ⟨fun _ => hmoves, fun _ => hscan⟩
  · rw [unregister_of_first {} (Nat.zero_le j) (by omega) hfound fun k _ hk => hfirst k hk]
    constructor
    · intro hin
      have hsource : Range.Within ⟨j + 1, t.num_cmd - j⟩ t.alloc_cmd := hin _ (by simp)
      have hbound := hsource.le (by dsimp only; omega)
      apply Or.inl
      rw [Table.HasRoom, registry_length]
      change t.num_cmd < t.alloc_cmd
      dsimp only at hbound
      omega
    · rintro (hroom | hnone)
      · rw [Table.HasRoom, registry_length] at hroom
        have hroom' : t.num_cmd < t.alloc_cmd := hroom
        intro r hr
        simp only [List.nil_append, List.append_assoc, List.mem_append, List.mem_singleton] at hr
        obtain hr | rfl | rfl := hr
        · exact scanned_within (by omega) r hr
        · apply Or.inr
          dsimp only
          omega
        · apply Or.inr
          dsimp only
          omega
      · exact absurd hfound (hnone _ (mem_registry.mpr ⟨j, hj, rfl⟩))

end

/-- With the table of the handle, the overload for an id does what it is to do. -/
theorem wifi_unregister_cmd_registry (t : cmd_table) (id : Int) (event_cb : Table cb_info) :
    ((t.wifi_unregister_cmd id {}).1.1, hal_info.mk event_cb (t.wifi_unregister_cmd id {}).1.2.registry) =
      panelli.wifi_hal.wifi_unregister_cmd ⟨event_cb, t.registry⟩ id := by
  obtain ⟨hentry, hregistry⟩ := unregister_registry {} (·.id == id) t
  apply Prod.ext
  · rw [wifi_unregister_cmd_fst]
    exact congrArg (Option.map cmd_info.cmd) hentry
  · rw [wifi_unregister_cmd_snd]
    exact congrArg (hal_info.mk event_cb) hregistry

theorem wifi_unregister_cmd_inTable_iff (t : cmd_table) (id : Int) :
    t.InTable (t.wifi_unregister_cmd id {}).2 ↔ t.MovesInside (·.id == id) :=
  unregister_inTable_iff (·.id == id) t

theorem wifi_unregister_cmd_pointer_inTable_iff (t : cmd_table) (cmd : Ptr) :
    t.InTable (t.wifi_unregister_cmd_pointer cmd {}).2 ↔ t.MovesInside (·.cmd == cmd) :=
  unregister_inTable_iff (·.cmd == cmd) t

/-- Both overloads keep inside of the table exactly if what they look for is not in it
or the table is not full. -/
theorem unregister_cmd_inTable_iff (t : cmd_table) :
    (∀ id, t.InTable (t.wifi_unregister_cmd id {}).2 ↔ t.MovesInside (·.id == id)) ∧
      ∀ cmd, t.InTable (t.wifi_unregister_cmd_pointer cmd {}).2 ↔ t.MovesInside (·.cmd == cmd) :=
  ⟨t.wifi_unregister_cmd_inTable_iff, t.wifi_unregister_cmd_pointer_inTable_iff⟩

/-- A table with every entry in use, as `wifi_initialize` allocates it. -/
def full : cmd_table := ⟨fun i => ⟨i, i⟩, DEFAULT_CMD_SIZE, DEFAULT_CMD_SIZE, Nat.le_refl _⟩

theorem full_not_movesInside {found : cmd_info → Bool} (hfound : found ⟨63, 63⟩) :
    ¬ full.MovesInside found := by
  rintro (hroom | hnone)
  · rw [Table.HasRoom, registry_length] at hroom
    exact absurd hroom (Nat.lt_irrefl _)
  · exact hnone ⟨63, 63⟩ (mem_registry.mpr ⟨63, by decide, rfl⟩) hfound

/-- The removal of the last entry of a full table reads the one behind it. -/
theorem full_reads_behind :
    ¬ full.InTable (full.wifi_unregister_cmd 63 {}).2 ∧
      ¬ full.InTable (full.wifi_unregister_cmd_pointer 63 {}).2 :=
  ⟨fun hin => full_not_movesInside (by decide) ((full.wifi_unregister_cmd_inTable_iff 63).mp hin),
    fun hin => full_not_movesInside (by decide) ((full.wifi_unregister_cmd_pointer_inTable_iff 63).mp hin)⟩

end cmd_table

end panelli.wifi_hal
