import Panelli.WifiHal.WellFormed
import Panelli.WifiHal.Registered

open panelli.table panelli.runs

namespace panelli.wifi_hal

/-- The stop functions that end every request of their kind when given `-1`. -/
def StopApi.stopsAll (api : StopApi) (id : Int) : Bool :=
  api.usesTemporary id && api != .wifi_rtt_range_cancel

/-- The requests a stop call is meant to end. -/
def StopApi.Stops (api : StopApi) (id : Int) (cmd : WifiCommand) : Prop :=
  cmd.cls = api.cls ∧ (api.stopsAll id ∨ cmd.mId = id)

instance (api : StopApi) (id : Int) (cmd : WifiCommand) : Decidable (api.Stops id cmd) :=
  inferInstanceAs (Decidable (_ ∧ _))

/-- The HAL together with what its callers know: the commands of the requests
that were started successfully and have not been stopped or completed since. -/
structure Tracked where
  hal : Hal
  active : List Ptr

def Tracked.initial : Tracked := ⟨Hal.initial, []⟩

/-- A blacklist is set once its call returns, so its request never stays active. -/
def Tracked.activeAfter (t : Tracked) : Action → List Ptr
  | .start api id k =>
    if (api.call id k t.hal).1 = WIFI_SUCCESS ∧ api ≠ .wifi_set_bssid_blacklist
    then t.hal.next :: t.active else t.active
  | .stop api id _ => t.active.filter fun cmd => ¬ api.Stops id (t.hal.obj cmd)
  | .event msg => t.active.filter fun cmd => ¬ (t.hal.handlerFor msg = some cmd ∧ t.hal.Completes cmd msg)

def Tracked.step (t : Tracked) (act : Action) : Tracked := ⟨wifi_hal.step t.hal act, t.activeAfter act⟩

/-- The command table lists active requests only, and is empty when there are none. -/
structure OnlyActive (t : Tracked) : Prop where
  entry_active : ∀ entry ∈ t.hal.info.cmd.entries, entry.cmd ∈ t.active
  empty_of_inactive : t.active = [] → t.hal.info.cmd.entries = []

theorem onlyActive_iff {t : Tracked} :
    OnlyActive t ↔ ∀ entry ∈ t.hal.info.cmd.entries, entry.cmd ∈ t.active := by
  refine ⟨OnlyActive.entry_active, fun hentry => ⟨hentry, fun hnone => ?_⟩⟩
  refine List.eq_nil_iff_forall_not_mem.mpr fun entry hmem => ?_
  have hactive := hentry entry hmem
  rw [hnone] at hactive
  exact List.not_mem_nil hactive

/-- The registries are in order and active requests have addresses. -/
structure TrackedOk (t : Tracked) : Prop where
  registry : RegistryOk t.hal
  active_lt : ∀ cmd ∈ t.active, cmd < t.hal.next

theorem TrackedOk.initial : TrackedOk Tracked.initial := ⟨RegistryOk.initial, by simp [Tracked.initial]⟩

/-- The command table does not keep the command of a request that failed, was
set once and for all, was stopped, or completed. -/
def RemovesEnded (t : Tracked) : Action → Prop
  | .start api id k => ¬ t.hal.info.cmd.HasRoom ∨
    ((api.cls.start k).1 = WIFI_SUCCESS ∧ api ≠ .wifi_set_bssid_blacklist) ∨
    (api.rollsBack ∧ (api.cls.start k).1 ≠ WIFI_SUCCESS ∧ wifi_get_cmd t.hal.info id = none)
  | .stop api id _ => ∀ entry ∈ t.hal.info.cmd.entries, api.Stops id (t.hal.obj entry.cmd) →
    ¬ api.usesTemporary id ∧ wifi_get_cmd t.hal.info id = some entry.cmd
  | .event msg => ∀ entry ∈ t.hal.info.cmd.entries, t.hal.handlerFor msg = some entry.cmd →
    t.hal.Completes entry.cmd msg → wifi_get_cmd t.hal.info entry.id = some entry.cmd

theorem step_next_le (h : Hal) (act : Action) : h.next ≤ (step h act).next := by
  cases act with
  | start api id k =>
    change h.next ≤ (api.call id k h).2.next
    rw [StartApi.call_next]
    exact Nat.le_succ h.next
  | stop api id k =>
    change h.next ≤ (api.call id k h).2.next
    by_cases hid : api.usesTemporary id
    · obtain ⟨tempId, order, _, heq⟩ := StopApi.call_of_temporary hid k h
      rw [heq]
      exact Nat.le_succ h.next
    · rw [StopApi.call_of_not_temporary hid]
      cases hget : wifi_get_cmd h.info id with
      | none => rw [wifi_cancel_cmd_of_none hget]
      | some cmd =>
        obtain ⟨order, _, heq⟩ := wifi_cancel_cmd_of_some hget k
        rw [heq]
        exact Nat.le_refl h.next
  | event msg =>
    change h.next ≤ (internal_valid_message_handler msg h).next
    unfold internal_valid_message_handler
    split <;> simp

theorem TrackedOk.step {t : Tracked} (hok : TrackedOk t) (act : Action) : TrackedOk (t.step act) := by
  refine ⟨hok.registry.step act, fun cmd hactive => ?_⟩
  have hle := step_next_le t.hal act
  have hold : cmd ∈ t.active → cmd < (wifi_hal.step t.hal act).next :=
    fun hmem => Nat.lt_of_lt_of_le (hok.active_lt cmd hmem) hle
  change cmd ∈ t.activeAfter act at hactive
  cases act with
  | start api id k =>
    simp only [Tracked.activeAfter] at hactive
    split at hactive
    · obtain rfl | hmem := List.mem_cons.mp hactive
      · exact Nat.lt_of_lt_of_eq (Nat.lt_succ_self _) (api.call_next id k t.hal).symm
      · exact hold hmem
    · exact hold hactive
  | stop api id k => exact hold (List.mem_of_mem_filter hactive)
  | event msg => exact hold (List.mem_of_mem_filter hactive)

/-- A start leaves its own command in the command table when there is room and
the undo does not find it. -/
theorem StartApi.mem_call_cmd_iff {h : Hal} (hok : RegistryOk h) (api : StartApi) (id : Int) (k : Kernel) :
    ⟨id, h.next⟩ ∈ (api.call id k h).2.info.cmd.entries ↔ h.info.cmd.HasRoom ∧
      ¬ (api.rollsBack ∧ (api.cls.start k).1 ≠ WIFI_SUCCESS ∧ wifi_get_cmd h.info id = none) := by
  rw [StartApi.call_cmd]
  split
  · rename_i hundo
    have hpushed := @RegistryOk.mem_remove_cmd _ (hok.startCommand api.cls id k) id ⟨id, h.next⟩
    rw [startCommand_eq] at hpushed
    rw [hpushed, mem_push_cmd_iff hok]
    refine and_congr_right fun hroom => ?_
    rw [ne_eq, get_pushed_cmd_iff hok id hroom]
    simp [hundo]
  · rename_i hkeep
    rw [mem_push_cmd_iff hok]
    exact ⟨fun hroom => ⟨hroom, fun ⟨hapi, hfail, _⟩ => hkeep ⟨hapi, hfail⟩⟩, And.left⟩

theorem start_onlyActive_iff {t : Tracked} (hok : TrackedOk t) (honly : OnlyActive t) (api : StartApi)
    (id : Int) (k : Kernel) : OnlyActive (t.step (.start api id k)) ↔ RemovesEnded t (.start api id k) := by
  have hfresh : t.hal.next ∉ t.active := fun hmem => Nat.lt_irrefl _ (hok.active_lt _ hmem)
  have hnew := api.mem_call_cmd_iff hok.registry id k
  rw [onlyActive_iff]
  change (∀ entry ∈ (api.call id k t.hal).2.info.cmd.entries, entry.cmd ∈ t.activeAfter (.start api id k)) ↔ _
  simp only [Tracked.activeAfter, RemovesEnded, StartApi.call_fst]
  by_cases hsuccess : (api.cls.start k).1 = WIFI_SUCCESS ∧ api ≠ .wifi_set_bssid_blacklist
  · rw [if_pos hsuccess]
    refine iff_of_true (fun entry hentry => ?_) (Or.inr (Or.inl hsuccess))
    obtain hold | rfl := StartApi.mem_of_mem_call_cmd hentry
    · exact List.mem_cons_of_mem _ (honly.entry_active entry hold)
    · exact List.mem_cons_self
  · rw [if_neg hsuccess]
    constructor
    · intro hall
      have hgone : ¬ (⟨id, t.hal.next⟩ : cmd_info) ∈ (api.call id k t.hal).2.info.cmd.entries :=
        fun hmem => hfresh (hall _ hmem)
      rw [hnew, not_and, not_not] at hgone
      by_cases hroom : t.hal.info.cmd.HasRoom
      · exact Or.inr (Or.inr (hgone hroom))
      · exact Or.inl hroom
    · intro hremoved entry hentry
      obtain hold | rfl := StartApi.mem_of_mem_call_cmd hentry
      · exact honly.entry_active entry hold
      · obtain ⟨hroom, hkept⟩ := hnew.mp hentry
        obtain hfull | hcontradiction | hundone := hremoved
        · exact absurd hroom hfull
        · exact absurd hcontradiction hsuccess
        · exact absurd hundone hkept

theorem stop_onlyActive_iff {t : Tracked} (hok : TrackedOk t) (honly : OnlyActive t) (api : StopApi)
    (id : Int) (k : Kernel) : OnlyActive (t.step (.stop api id k)) ↔ RemovesEnded t (.stop api id k) := by
  rw [onlyActive_iff]
  change (∀ entry ∈ (api.call id k t.hal).2.info.cmd.entries, entry.cmd ∈ t.activeAfter (.stop api id k)) ↔
    ∀ entry ∈ t.hal.info.cmd.entries, api.Stops id (t.hal.obj entry.cmd) →
      ¬ api.usesTemporary id ∧ wifi_get_cmd t.hal.info id = some entry.cmd
  have hkept : ∀ entry, entry ∈ (api.call id k t.hal).2.info.cmd.entries ↔ entry ∈ t.hal.info.cmd.entries ∧
      ¬ (¬ api.usesTemporary id ∧ wifi_get_cmd t.hal.info id = some entry.cmd) := by
    intro entry
    rw [StopApi.call_cmd]
    split
    · rename_i hid
      simp [hid]
    · rename_i hid
      rw [hok.registry.mem_remove_cmd]
      simp [hid]
  simp only [hkept, Tracked.activeAfter, List.mem_filter, decide_eq_true_eq]
  constructor
  · intro hall entry hentry hstops
    by_contra hleft
    exact (hall entry ⟨hentry, hleft⟩).2 hstops
  · rintro hremoved entry ⟨hentry, hleft⟩
    exact ⟨honly.entry_active entry hentry, fun hstops => hleft (hremoved entry hentry hstops)⟩

theorem event_onlyActive_iff {t : Tracked} (hok : TrackedOk t) (honly : OnlyActive t) (msg : EventMsg) :
    OnlyActive (t.step (.event msg)) ↔ RemovesEnded t (.event msg) := by
  rw [onlyActive_iff]
  change (∀ entry ∈ (internal_valid_message_handler msg t.hal).info.cmd.entries,
      entry.cmd ∈ t.activeAfter (.event msg)) ↔
    ∀ entry ∈ t.hal.info.cmd.entries, t.hal.handlerFor msg = some entry.cmd →
      t.hal.Completes entry.cmd msg → wifi_get_cmd t.hal.info entry.id = some entry.cmd
  simp only [Tracked.activeAfter, List.mem_filter, decide_eq_true_eq]
  cases hfor : t.hal.handlerFor msg with
  | none =>
    rw [event_of_none hfor]
    exact iff_of_true (fun entry hentry => ⟨honly.entry_active entry hentry, by simp⟩) (by simp)
  | some cmd =>
    rw [event_cmd hfor]
    by_cases hcompletes : t.hal.Completes cmd msg
    · simp only [if_pos hcompletes, hok.registry.mem_remove_cmd]
      constructor
      · rintro hall entry hentry ⟨⟩ _
        rw [← hok.registry.cmd_id entry hentry]
        by_contra hleft
        exact (hall entry ⟨hentry, hleft⟩).2 ⟨rfl, hcompletes⟩
      · rintro hremoved entry ⟨hentry, hleft⟩
        refine ⟨honly.entry_active entry hentry, ?_⟩
        rintro ⟨⟨⟩, _⟩
        rw [hok.registry.cmd_id entry hentry] at hleft
        exact hleft (hremoved entry hentry rfl hcompletes)
    · rw [if_neg hcompletes]
      refine iff_of_true (fun entry hentry => ⟨honly.entry_active entry hentry, ?_⟩) ?_
      · rintro ⟨⟨⟩, hdone⟩
        exact hcompletes hdone
      · rintro entry _ ⟨⟩ hdone
        exact absurd hdone hcompletes

/-- The command table lists active requests only throughout a run exactly when
every action of it removes the commands of the requests it ends. -/
theorem run_onlyActive_iff (acts : List Action) :
    StatesHold Tracked.step OnlyActive Tracked.initial acts ↔
      StepsHold Tracked.step RemovesEnded Tracked.initial acts := by
  refine statesHold_iff_stepsHold (I := TrackedOk) ?_ ?_ TrackedOk.initial ?_ acts
  · intro t act hok honly
    cases act with
    | start api id k => exact start_onlyActive_iff hok honly api id k
    | stop api id k => exact stop_onlyActive_iff hok honly api id k
    | event msg => exact event_onlyActive_iff hok honly msg
  · exact fun t act hok _ _ => hok.step act
  · exact onlyActive_iff.mpr (by simp [Tracked.initial, Hal.initial, hal_info.initial, Table.empty])

/-- A cancelled measurement keeps its entry in the command table. -/
theorem rtt_cancel_keeps_entry :
    ¬ ∀ acts, StatesHold Tracked.step OnlyActive Tracked.initial acts := by
  intro hall
  have honly := (hall [.start .wifi_rtt_range_request 1 .ok, .stop .wifi_rtt_range_cancel 1 .ok]).final
  have hempty := honly.empty_of_inactive (by decide +kernel)
  revert hempty
  decide +kernel

end panelli.wifi_hal
