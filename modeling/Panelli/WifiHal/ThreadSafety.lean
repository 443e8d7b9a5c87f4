import Panelli.WifiHal.Threads

open panelli.table panelli.runs

namespace panelli.wifi_hal

open WIFI_VENDOR_EVENT HandlerCall

/-- The references in-flight dispatches hold on a command. -/
def EventThread.holds (event : EventThread) (cmd : Ptr) : Nat := if event.cmd = some cmd then 1 else 0

theorem EventThread.holds_le (event : EventThread) (cmd : Ptr) : event.holds cmd ≤ 1 := by
  unfold EventThread.holds
  split <;> omega

/-- The registries or the API thread own the first reference of the command,
which therefore was not deleted. -/
def Machine.Owned (m : Machine) (cmd : Ptr) : Prop :=
  (m.hal.obj cmd).mRefs = m.event.holds cmd + 1 ∧ (m.hal.obj cmd).deletes = 0

/-- Nobody owns the command: only dispatches hold it, and it is deleted once
they do not. -/
def Machine.Disowned (m : Machine) (cmd : Ptr) : Prop :=
  (m.hal.obj cmd).mRefs = m.event.holds cmd ∧ (m.hal.obj cmd).deletes + m.event.holds cmd = 1

/-- The invariant of the two threads: each command is owned or not, everything
the registries and the API thread name is owned, a command under cancellation
left the tables, and every event has one handler. -/
structure MachineOk (m : Machine) : Prop where
  registry : RegistryOk m.hal
  counted : ∀ cmd < m.hal.next, m.Owned cmd ∨ m.Disowned cmd
  registered : ∀ entry ∈ m.hal.info.cmd.entries, m.Owned entry.cmd
  handled : ∀ entry ∈ m.hal.info.event_cb.entries, ∀ cmd, entry.cb_arg = some cmd → m.Owned cmd
  api_owned : ∀ cmd, m.api.cmd = some cmd → m.Owned cmd
  api_unregistered : ∀ cmd, m.api.cmd = some cmd → ∀ entry ∈ m.hal.info.cmd.entries, entry.cmd ≠ cmd
  api_cancelled : ∀ cmd, m.api = .cancelled cmd →
    ∀ entry ∈ m.hal.info.event_cb.entries, entry.cb_arg ≠ some cmd
  event_lt : ∀ cmd, m.event.cmd = some cmd → cmd < m.hal.next
  one_handler : ∀ event, ∀ entry ∈ m.hal.info.event_cb.entries, ∀ entry' ∈ m.hal.info.event_cb.entries,
    isHandlerOf event entry → isHandlerOf event entry' → entry = entry'

theorem MachineOk.initial : MachineOk Machine.initial where
  registry := RegistryOk.initial
  counted := by simp [Machine.initial, Hal.initial]
  registered := by simp [Machine.initial, Hal.initial, hal_info.initial, Table.empty]
  handled := by simp [Machine.initial, Hal.initial, hal_info.initial, Table.empty]
  api_owned := by simp [Machine.initial, ApiThread.cmd]
  api_unregistered := by simp [Machine.initial, ApiThread.cmd]
  api_cancelled := by simp [Machine.initial]
  event_lt := by simp [Machine.initial, EventThread.cmd]
  one_handler := by simp [Machine.initial, Hal.initial, hal_info.initial, Table.empty]

/-- A command a dispatch holds was not deleted, owned or not. -/
theorem MachineOk.held_alive {m : Machine} (hok : MachineOk m) {cmd : Ptr} (hheld : m.event.cmd = some cmd) :
    (m.hal.obj cmd).deletes = 0 := by
  obtain ⟨_, hdeletes⟩ | ⟨_, hdeletes⟩ := hok.counted cmd (hok.event_lt cmd hheld)
  · exact hdeletes
  · simp only [EventThread.holds, if_pos hheld] at hdeletes
    omega

theorem MachineOk.target_owned {m : Machine} (hok : MachineOk m) {cmd found : Ptr} {msg : EventMsg}
    (htarget : m.hal.completionTarget cmd msg = some found) :
    m.hal.Completes cmd msg ∧ wifi_get_cmd m.hal.info (m.hal.obj cmd).mId = some found ∧ m.Owned found := by
  unfold Hal.completionTarget at htarget
  split at htarget
  · have hmem := List.mem_of_find?_eq_some (wifi_get_cmd_eq_some.mp htarget)
    exact ⟨‹_›, htarget, hok.registered _ hmem⟩
  · cases htarget

theorem MachineOk.safe {m : Machine} (hok : MachineOk m) : Safe m where
  deleted_once cmd hlt := by
    obtain ⟨_, hdeletes⟩ | ⟨_, hdeletes⟩ := hok.counted cmd hlt <;> omega
  held_alive cmd hheld := hok.held_alive hheld
  lookup_alive msg cmd hfor := by
    obtain ⟨entry, hmem, _, harg⟩ := Hal.handlerFor_eq_some hfor
    exact (hok.handled entry hmem cmd harg).2
  target_alive cmd msg found _ htarget := (hok.target_owned htarget).2.2.2

/-- A handler of an event is the first one of that event. -/
theorem MachineOk.find_handler {m : Machine} (hok : MachineOk m) {event : WIFI_VENDOR_EVENT} {entry : cb_info}
    (hentry : entry ∈ m.hal.info.event_cb.entries) (hhandles : isHandlerOf event entry) :
    m.hal.info.event_cb.entries.find? (isHandlerOf event) = some entry := by
  cases hfind : m.hal.info.event_cb.entries.find? (isHandlerOf event) with
  | none => exact absurd hhandles (List.find?_eq_none.mp hfind entry hentry)
  | some first =>
    rw [hok.one_handler event entry hentry first (List.mem_of_find?_eq_some hfind) hhandles
      (List.find?_some hfind)]

/-- The parts of the invariant that only depend on which entries are left. -/
theorem MachineOk.of_sublist {m m' : Machine} (hok : MachineOk m) (hnext : m'.hal.next = m.hal.next)
    (hcmd : m'.hal.info.cmd.entries.Sublist m.hal.info.cmd.entries)
    (hcb : m'.hal.info.event_cb.entries.Sublist m.hal.info.event_cb.entries)
    (hcls : ∀ p, (m'.hal.obj p).cls = (m.hal.obj p).cls) (hid : ∀ p, (m'.hal.obj p).mId = (m.hal.obj p).mId)
    (hcounted : ∀ cmd < m.hal.next, m'.Owned cmd ∨ m'.Disowned cmd)
    (hregistered : ∀ entry ∈ m'.hal.info.cmd.entries, m.Owned entry.cmd → m'.Owned entry.cmd)
    (hhandled : ∀ entry ∈ m'.hal.info.event_cb.entries, ∀ cmd, entry.cb_arg = some cmd →
      m.Owned cmd → m'.Owned cmd)
    (hapi : ∀ cmd, m'.api.cmd = some cmd → m'.Owned cmd ∧
      ∀ entry ∈ m'.hal.info.cmd.entries, entry.cmd ≠ cmd)
    (hcancelled : ∀ cmd, m'.api = .cancelled cmd →
      ∀ entry ∈ m'.hal.info.event_cb.entries, entry.cb_arg ≠ some cmd)
    (hevent : ∀ cmd, m'.event.cmd = some cmd → cmd < m.hal.next) : MachineOk m' where
  registry := hok.registry.of_sublist hnext hcmd hcb hcls hid
  counted cmd hlt := hcounted cmd (hnext ▸ hlt)
  registered entry hentry := hregistered entry hentry (hok.registered entry (hcmd.subset hentry))
  handled entry hentry cmd harg :=
    hhandled entry hentry cmd harg (hok.handled entry (hcb.subset hentry) cmd harg)
  api_owned cmd hcmd := (hapi cmd hcmd).1
  api_unregistered cmd hcmd := (hapi cmd hcmd).2
  api_cancelled := hcancelled
  event_lt cmd hcmd := hnext.symm ▸ hevent cmd hcmd
  one_handler event entry hentry entry' hentry' :=
    hok.one_handler event entry (hcb.subset hentry) entry' (hcb.subset hentry')

/-- Handlers of a new command for events without a handler leave one handler an event. -/
theorem MachineOk.one_handler_of_new {m : Machine} (hok : MachineOk m) {entries : List cb_info} {cmd : Ptr}
    (hnew : ∀ entry ∈ entries, entry ∈ m.hal.info.event_cb.entries ∨ ∃ event, entry = handler cmd event ∧
      ∀ old ∈ m.hal.info.event_cb.entries, ¬ isHandlerOf event old)
    (event : WIFI_VENDOR_EVENT) : ∀ entry ∈ entries, ∀ entry' ∈ entries,
      isHandlerOf event entry → isHandlerOf event entry' → entry = entry' := by
  intro entry hentry entry' hentry' hhandles hhandles'
  obtain hmem | ⟨own, rfl, hnone⟩ := hnew entry hentry <;>
    obtain hmem' | ⟨own', rfl, hnone'⟩ := hnew entry' hentry'
  · exact hok.one_handler event entry hmem entry' hmem' hhandles hhandles'
  · rw [isHandlerOf_handler.mp hhandles'] at hnone'
    exact absurd hhandles (hnone' entry hmem)
  · rw [isHandlerOf_handler.mp hhandles] at hnone
    exact absurd hhandles' (hnone entry' hmem')
  · rw [isHandlerOf_handler.mp hhandles, isHandlerOf_handler.mp hhandles']

/-- Entries and objects of the API calls that create a command: what exists
stays, and entries that appear are handlers or an entry of the new command. -/
theorem MachineOk.of_new {m : Machine} {h' : Hal} (hok : MachineOk m) (hidle : m.api = .idle)
    (hregistry : RegistryOk h') (hnext : h'.next = m.hal.next + 1)
    (hobj : ∀ p < m.hal.next, h'.obj p = m.hal.obj p)
    (hnew : (h'.obj m.hal.next).mRefs = 1 ∧ (h'.obj m.hal.next).deletes = 0 ∨
      (h'.obj m.hal.next).mRefs = 0 ∧ (h'.obj m.hal.next).deletes = 1)
    (hcmd : ∀ entry ∈ h'.info.cmd.entries, entry ∈ m.hal.info.cmd.entries ∨
      entry.cmd = m.hal.next ∧ (h'.obj m.hal.next).mRefs = 1)
    (hcb : ∀ entry ∈ h'.info.event_cb.entries, entry ∈ m.hal.info.event_cb.entries ∨
      (h'.obj m.hal.next).mRefs = 1 ∧ ∃ event, entry = handler m.hal.next event ∧
        ∀ old ∈ m.hal.info.event_cb.entries, ¬ isHandlerOf event old) :
    MachineOk { m with hal := h' } := by
  have hholds : m.event.holds m.hal.next = 0 :=
    if_neg fun hheld => Nat.lt_irrefl _ (hok.event_lt m.hal.next hheld)
  have hnewOwned : (h'.obj m.hal.next).mRefs = 1 → ({ m with hal := h' } : Machine).Owned m.hal.next := by
    intro hone
    refine ⟨by simp [hholds, hone], ?_⟩
    change (h'.obj m.hal.next).deletes = 0
    omega
  have hold : ∀ p < m.hal.next, m.Owned p → ({ m with hal := h' } : Machine).Owned p := by
    intro p hp howned
    simpa only [Machine.Owned, hobj p hp] using howned
  refine ⟨hregistry, fun cmd hlt => ?_, fun entry hentry => ?_, fun entry hentry cmd harg => ?_,
    ?_, ?_, ?_, fun cmd hcmd => ?_, ?_⟩
  · obtain hlt | rfl := Nat.lt_succ_iff_lt_or_eq.mp (hnext ▸ hlt)
    · simpa only [Machine.Owned, Machine.Disowned, hobj cmd hlt] using hok.counted cmd hlt
    · obtain ⟨hone, _⟩ | ⟨hzero, hdeleted⟩ := hnew
      · exact Or.inl (hnewOwned hone)
      · exact Or.inr ⟨by simp [hholds, hzero], by simp [hholds, hdeleted]⟩
  · obtain hmem | ⟨hself, hone⟩ := hcmd entry hentry
    · exact hold _ (hok.registry.cmd_lt entry hmem) (hok.registered entry hmem)
    · exact hself ▸ hnewOwned hone
  · obtain hmem | ⟨hone, event, rfl, _⟩ := hcb entry hentry
    · exact hold _ ((hok.registry.handler_of_cb_arg hmem harg).1) (hok.handled entry hmem cmd harg)
    · exact Option.some.inj harg ▸ hnewOwned hone
  · simp [hidle, ApiThread.cmd]
  · simp [hidle, ApiThread.cmd]
  · simp [hidle]
  · exact Nat.lt_of_lt_of_eq (Nat.lt_succ_of_lt (hok.event_lt cmd hcmd)) hnext.symm
  · exact hok.one_handler_of_new fun entry hentry => (hcb entry hentry).imp_right And.right

theorem MachineOk.start {m : Machine} (hok : MachineOk m) (api : StartApi) (id : Int) (k : Kernel)
    (hadmissible : Admissible m (.start api id k)) : MachineOk (m.step (.start api id k)) := by
  cases hapi : m.api with
  | unregistered cmd => simpa only [Machine.step, hapi] using hok
  | cancelled cmd => simpa only [Machine.step, hapi] using hok
  | idle =>
    simp only [Machine.step, hapi]
    have hnew : (api.call id k m.hal).2.obj m.hal.next = ⟨api.cls, id, 1, 0, 0⟩ := by
      rw [StartApi.call_obj, Hal.new_obj_self]
    refine hapi ▸ hok.of_new hapi (hok.registry.step (.start api id k)) (api.call_next id k m.hal) ?_ ?_ ?_ ?_
    · intro p hp
      rw [StartApi.call_obj, m.hal.new_obj_of_lt api.cls id hp]
    · simp [hnew]
    · intro entry hentry
      refine (StartApi.mem_of_mem_call_cmd hentry).imp (fun hmem => hmem) fun heq => ?_
      rw [heq]
      exact ⟨rfl, by rw [hnew]⟩
    · intro entry hentry
      rw [StartApi.call_event_cb] at hentry
      refine (mem_runCalls_start hentry).imp (fun hmem => hmem) ?_
      rintro ⟨event, hevent, rfl⟩
      refine ⟨by rw [hnew], event, rfl, fun old hmem hhandles => ?_⟩
      obtain ⟨owner, _, event', hevent', rfl⟩ := hok.registry.cb_handler old hmem
      obtain ⟨_, hdisjoint⟩ := hadmissible owner (Or.inr ⟨_, hmem, rfl⟩)
      exact hdisjoint event hevent (isHandlerOf_handler.mp hhandles ▸ hevent')

theorem MachineOk.stopTemporary {m : Machine} (hok : MachineOk m) (api : StopApi) (id : Int) (k : Kernel) :
    MachineOk (m.step (.stopTemporary api id k)) := by
  cases hapi : m.api with
  | unregistered cmd => simpa only [Machine.step, hapi] using hok
  | cancelled cmd => simpa only [Machine.step, hapi] using hok
  | idle =>
    simp only [Machine.step, hapi]
    split
    · rename_i hid
      obtain ⟨tempId, order, _, heq⟩ := StopApi.call_of_temporary hid k m.hal
      have hregistry := hok.registry.step (.stop api id k)
      rw [heq]
      refine hapi ▸ hok.of_new hapi (heq ▸ hregistry) rfl ?_ ?_ ?_ ?_
      · intro p hp
        have hne : p ≠ m.hal.next := Nat.ne_of_lt hp
        simp [cancelTemporary, Hal.releaseRef, Hal.new, hne]
      · simp [cancelTemporary]
      · exact fun entry hentry => Or.inl (by simpa [cancelTemporary] using hentry)
      · exact fun entry hentry => Or.inl ((unregister_sublist m.hal.next m.hal.info order).subset hentry)
    · exact hok

theorem MachineOk.unregister {m : Machine} (hok : MachineOk m) (id : Int) :
    MachineOk (m.step (.unregister id)) := by
  have hfst := wifi_unregister_cmd_fst m.hal.info id
  have hsnd := wifi_unregister_cmd_snd m.hal.info id
  cases hapi : m.api with
  | unregistered cmd => simpa only [Machine.step, hapi] using hok
  | cancelled cmd => simpa only [Machine.step, hapi] using hok
  | idle =>
    rcases hunregister : wifi_unregister_cmd m.hal.info id with ⟨_ | cmd, info⟩
    · simpa only [Machine.step, hapi, hunregister] using hok
    · simp only [Machine.step, hapi, hunregister]
      rw [hunregister] at hfst hsnd
      dsimp only at hfst hsnd
      subst hsnd
      have hmem := List.mem_of_find?_eq_some (wifi_get_cmd_eq_some.mp hfst.symm)
      refine hok.of_sublist rfl List.eraseP_sublist (List.Sublist.refl _) (fun _ => rfl) (fun _ => rfl)
        hok.counted (fun _ _ howned => howned) (fun _ _ _ _ howned => howned) ?_ ?_ hok.event_lt
      · rintro _ ⟨⟩
        refine ⟨hok.registered _ hmem, fun entry hentry heq => ?_⟩
        exact (hok.registry.mem_remove_cmd.mp hentry).2 (heq ▸ hfst.symm)
      · rintro _ ⟨⟩

/-- With one handler an event, a cancel leaves no handler of its command. -/
theorem MachineOk.cancel {m : Machine} (hok : MachineOk m) (k : Kernel) : MachineOk (m.step (.cancel k)) := by
  cases hapi : m.api with
  | idle => simpa only [Machine.step, hapi] using hok
  | cancelled cmd => simpa only [Machine.step, hapi] using hok
  | unregistered cmd =>
    simp only [Machine.step, hapi, Hal.cancel]
    obtain ⟨order, horder, hcalls⟩ := (m.hal.obj cmd).cls.cancel_calls k
    have hapiCmd : m.api.cmd = some cmd := by rw [hapi]; rfl
    rw [hcalls]
    refine hok.of_sublist rfl (by simp) (unregister_sublist cmd m.hal.info order) (fun _ => rfl)
      (fun _ => rfl) hok.counted (fun _ _ howned => howned) (fun _ _ _ _ howned => howned) ?_ ?_ hok.event_lt
    · rintro _ ⟨⟩
      refine ⟨hok.api_owned cmd hapiCmd, fun entry hentry => ?_⟩
      exact hok.api_unregistered cmd hapiCmd entry (by simpa using hentry)
    · rintro _ ⟨⟩
      have hnodup : order.Nodup := horder.nodup_iff.mpr (m.hal.obj cmd).cls.events_nodup
      intro entry hentry harg
      obtain ⟨hmem, hkept⟩ := (mem_unregister_entries hok.registry.cb_nodup hnodup).mp hentry
      obtain ⟨_, event, hevent, rfl⟩ := hok.registry.handler_of_cb_arg hmem harg
      exact hkept event (horder.mem_iff.mpr hevent) (hok.find_handler hmem (isHandlerOf_handler.mpr rfl))

theorem MachineOk.release {m : Machine} (hok : MachineOk m) : MachineOk (m.step .release) := by
  cases hapi : m.api with
  | idle => simpa only [Machine.step, hapi] using hok
  | unregistered cmd => simpa only [Machine.step, hapi] using hok
  | cancelled cmd =>
    simp only [Machine.step, hapi]
    have hapiCmd : m.api.cmd = some cmd := by rw [hapi]; rfl
    obtain ⟨hrefs, hdeletes⟩ := hok.api_owned cmd hapiCmd
    have hother : ∀ p ≠ cmd, m.Owned p →
        ({ m with hal := m.hal.releaseRef cmd, api := .idle } : Machine).Owned p := by
      intro p hp howned
      simpa [Machine.Owned, hp] using howned
    refine hok.of_sublist rfl (List.Sublist.refl _) (List.Sublist.refl _) (by simp) (by simp) ?_ ?_ ?_ ?_ ?_
      hok.event_lt
    · intro p hlt
      by_cases hp : p = cmd
      · subst hp
        right
        simp only [Machine.Disowned, Hal.releaseRef_mRefs, Hal.releaseRef_deletes, if_true, true_and, hrefs,
          hdeletes]
        refine ⟨by omega, ?_⟩
        have := m.event.holds_le p
        split <;> omega
      · simpa [Machine.Owned, Machine.Disowned, hp] using hok.counted p hlt
    · exact fun entry hentry => hother entry.cmd (hok.api_unregistered cmd hapiCmd entry hentry)
    · intro entry hentry p harg
      apply hother p
      rintro rfl
      exact hok.api_cancelled p hapi entry hentry harg
    · rintro _ ⟨⟩
    · rintro _ ⟨⟩

/-- Taking the dispatched command's reference keeps who owns what. -/
theorem MachineOk.lookup {m : Machine} (hok : MachineOk m) (msg : EventMsg) :
    MachineOk (m.step (.lookup msg)) := by
  cases hevent : m.event with
  | held cmd msg' => simpa only [Machine.step, hevent] using hok
  | handled cmd => simpa only [Machine.step, hevent] using hok
  | idle =>
    cases hfor : m.hal.handlerFor msg with
    | none => simpa only [Machine.step, hevent, hfor] using hok
    | some cmd =>
      simp only [Machine.step, hevent, hfor]
      have hholds : ∀ p, m.event.holds p = 0 := fun p => by simp [hevent, EventThread.holds, EventThread.cmd]
      have howned : ∀ p, m.Owned p →
          ({ m with hal := m.hal.addRef cmd, event := .held cmd msg } : Machine).Owned p := by
        rintro p ⟨hrefs, hdeletes⟩
        rw [hholds] at hrefs
        by_cases hp : p = cmd
        · subst hp
          simp [Machine.Owned, EventThread.holds, EventThread.cmd, hrefs, hdeletes]
        · have hne : cmd ≠ p := fun heq => hp heq.symm
          simp [Machine.Owned, EventThread.holds, EventThread.cmd, hp, hne, hrefs, hdeletes]
      obtain ⟨entry, hmem, _, harg⟩ := Hal.handlerFor_eq_some hfor
      have hcmdOwned := hok.handled entry hmem cmd harg
      refine hok.of_sublist rfl (List.Sublist.refl _) (List.Sublist.refl _) (by simp) (by simp) ?_
        (fun entry _ => howned entry.cmd) (fun _ _ p _ => howned p) ?_ hok.api_cancelled ?_
      · intro p hlt
        obtain hp | ⟨hrefs, hdeletes⟩ := hok.counted p hlt
        · exact Or.inl (howned p hp)
        · rw [hholds] at hrefs hdeletes
          have hne : p ≠ cmd := by
            rintro rfl
            have := hcmdOwned.2
            omega
          right
          simpa [Machine.Disowned, EventThread.holds, EventThread.cmd, hne, hne.symm, hrefs] using hdeletes
      · exact fun p hp => ⟨howned p (hok.api_owned p hp), hok.api_unregistered p hp⟩
      · rintro _ ⟨⟩
        exact (hok.registry.handler_of_cb_arg hmem harg).1

theorem MachineOk.releaseDispatched {m : Machine} (hok : MachineOk m) :
    MachineOk (m.step .releaseDispatched) := by
  cases hevent : m.event with
  | idle => simpa only [Machine.step, hevent] using hok
  | held cmd msg => simpa only [Machine.step, hevent] using hok
  | handled cmd =>
    simp only [Machine.step, hevent]
    have hself : m.event.holds cmd = 1 := by simp [hevent, EventThread.holds, EventThread.cmd]
    have hother : ∀ p ≠ cmd, m.event.holds p = 0 := fun p hp => by
      simp [hevent, EventThread.holds, EventThread.cmd, hp.symm]
    have hidle : ∀ p, EventThread.idle.holds p = 0 := fun p => rfl
    have howned : ∀ p, m.Owned p →
        ({ m with hal := m.hal.releaseRef cmd, event := .idle } : Machine).Owned p := by
      rintro p ⟨hrefs, hdeletes⟩
      by_cases hp : p = cmd
      · subst hp
        rw [hself] at hrefs
        simp [Machine.Owned, hidle, hrefs, hdeletes]
      · rw [hother p hp] at hrefs
        simp [Machine.Owned, hidle, hp, hrefs, hdeletes]
    refine hok.of_sublist rfl (List.Sublist.refl _) (List.Sublist.refl _) (by simp) (by simp) ?_
      (fun entry _ => howned entry.cmd) (fun _ _ p _ => howned p) ?_ hok.api_cancelled ?_
    · intro p hlt
      obtain hp | ⟨hrefs, hdeletes⟩ := hok.counted p hlt
      · exact Or.inl (howned p hp)
      · right
        by_cases hp : p = cmd
        · subst hp
          rw [hself] at hrefs hdeletes
          have hzero : (m.hal.obj p).deletes = 0 := by omega
          simp [Machine.Disowned, hidle, hrefs, hzero]
        · rw [hother p hp] at hrefs hdeletes
          simpa [Machine.Disowned, hidle, hp, hrefs] using hdeletes
    · exact fun p hp => ⟨howned p (hok.api_owned p hp), hok.api_unregistered p hp⟩
    · rintro _ ⟨⟩

/-- The target of a completion is not in the command table any more. -/
theorem MachineOk.registered_ne_target {m : Machine} (hok : MachineOk m) {cmd : Ptr} {msg : EventMsg} :
    ∀ entry ∈ (m.hal.handleEvent cmd msg).info.cmd.entries,
      m.hal.completionTarget cmd msg ≠ some entry.cmd := by
  intro entry hentry htarget
  obtain ⟨hcompletes, hget, _⟩ := hok.target_owned htarget
  rw [Hal.handleEvent_cmd, if_pos hcompletes] at hentry
  exact (hok.registry.mem_remove_cmd.mp hentry).2 hget

/-- Nor has it a handler left, when it completes itself. -/
theorem MachineOk.handled_ne_target {m : Machine} (hok : MachineOk m) (hitself : CompletesItself m .handle)
    {cmd : Ptr} {msg : EventMsg} (hevent : m.event = .held cmd msg) :
    ∀ entry ∈ (m.hal.handleEvent cmd msg).info.event_cb.entries, ∀ p, entry.cb_arg = some p →
      m.hal.completionTarget cmd msg ≠ some p := by
  intro entry hentry p harg htarget
  obtain ⟨hcompletes, _, _⟩ := hok.target_owned htarget
  rw [Hal.handleEvent_event_cb, if_pos hcompletes] at hentry
  obtain ⟨hmem, hkept⟩ := (mem_eraseP_iff hok.registry.cb_nodup).mp hentry
  by_cases hself : p = cmd
  · subst hself
    obtain rfl := hok.registry.eq_rtt_handler hcompletes hmem harg
    exact hkept (hok.find_handler hmem (isHandlerOf_handler.mpr rfl))
  · exact hkept (hitself cmd msg hevent p htarget hself entry hmem harg)

/-- A command the API thread took out of the table is not found by a completion. -/
theorem MachineOk.api_ne_target {m : Machine} (hok : MachineOk m) {cmd p : Ptr} {msg : EventMsg}
    (hapi : m.api.cmd = some p) : m.hal.completionTarget cmd msg ≠ some p := by
  intro htarget
  obtain ⟨_, hget, _⟩ := hok.target_owned htarget
  have hmem := List.mem_of_find?_eq_some (wifi_get_cmd_eq_some.mp hget)
  exact hok.api_unregistered p hapi _ hmem rfl

/-- A completion gives up the owned reference of its target, which must have no
other handler left. -/
theorem MachineOk.handle {m : Machine} (hok : MachineOk m) (hitself : CompletesItself m .handle) :
    MachineOk (m.step .handle) := by
  cases hevent : m.event with
  | idle => simpa only [Machine.step, hevent] using hok
  | handled cmd => simpa only [Machine.step, hevent] using hok
  | held cmd msg =>
    simp only [Machine.step, hevent]
    have hholds : ∀ p, (EventThread.handled cmd).holds p = m.event.holds p := fun p => by rw [hevent]; rfl
    have hother : ∀ p, m.hal.completionTarget cmd msg ≠ some p →
        (m.Owned p → ({ m with hal := m.hal.handleEvent cmd msg, event := .handled cmd } : Machine).Owned p) ∧
        (m.Disowned p →
          ({ m with hal := m.hal.handleEvent cmd msg, event := .handled cmd } : Machine).Disowned p) := by
      intro p hp
      simp [Machine.Owned, Machine.Disowned, Hal.handleEvent_mRefs, Hal.handleEvent_deletes, hholds, hp]
    have hcmdSub := m.hal.handleEvent_cmd_sublist cmd msg
    have hcbSub := m.hal.handleEvent_event_cb_sublist cmd msg
    refine hok.of_sublist (by simp) hcmdSub hcbSub (by simp) (by simp) ?_
      (fun entry hentry => (hother entry.cmd (hok.registered_ne_target entry hentry)).1)
      (fun entry hentry p harg => (hother p (hok.handled_ne_target hitself hevent entry hentry p harg)).1)
      ?_ ?_ ?_
    · intro p hlt
      by_cases htarget : m.hal.completionTarget cmd msg = some p
      · obtain ⟨_, _, hrefs, hdeletes⟩ := hok.target_owned htarget
        right
        simp only [Machine.Disowned, Hal.handleEvent_mRefs, Hal.handleEvent_deletes, hholds, htarget, if_true,
          true_and, hrefs, hdeletes]
        have := m.event.holds_le p
        refine ⟨by omega, ?_⟩
        split <;> omega
      · exact (hok.counted p hlt).imp (hother p htarget).1 (hother p htarget).2
    · intro p hp
      exact ⟨(hother p (hok.api_ne_target hp)).1 (hok.api_owned p hp),
        fun entry hentry => hok.api_unregistered p hp entry (hcmdSub.subset hentry)⟩
    · exact fun p hp entry hentry => hok.api_cancelled p hp entry (hcbSub.subset hentry)
    · rintro _ ⟨⟩
      exact hok.event_lt cmd (by rw [hevent]; rfl)

/-- A completion that frees another command with a handler left is unsafe: the
next event for that handler is dispatched to the freed command. -/
theorem MachineOk.handle_unsafe {m : Machine} (hok : MachineOk m) (hother : ¬ CompletesItself m .handle) :
    ¬ Safe (m.step .handle) := by
  simp only [CompletesItself, not_forall] at hother
  obtain ⟨cmd, msg, hevent, found, htarget, hne, entry, hentry, harg, hfind⟩ := hother
  obtain ⟨hcompletes, _, hrefs, hdeletes⟩ := hok.target_owned htarget
  obtain ⟨_, event, _, rfl⟩ := hok.registry.handler_of_cb_arg hentry harg
  intro hsafe
  simp only [Machine.step, hevent] at hsafe
  have hholds : m.event.holds found = 0 := by simp [hevent, EventThread.holds, EventThread.cmd, hne.symm]
  have hleft : handler found event ∈ (m.hal.handleEvent cmd msg).info.event_cb.entries := by
    rw [Hal.handleEvent_event_cb, if_pos hcompletes]
    exact (mem_eraseP_iff hok.registry.cb_nodup).mpr ⟨hentry, hfind⟩
  have hfirst : (m.hal.handleEvent cmd msg).info.event_cb.entries.find? (isHandlerOf event) =
      some (handler found event) := by
    have hsub := (m.hal.handleEvent_event_cb_sublist cmd msg).subset
    cases hfound : (m.hal.handleEvent cmd msg).info.event_cb.entries.find? (isHandlerOf event) with
    | none => exact absurd (isHandlerOf_handler.mpr rfl) (List.find?_eq_none.mp hfound _ hleft)
    | some first =>
      rw [hok.one_handler event first (hsub (List.mem_of_find?_eq_some hfound)) _ hentry
        (List.find?_some hfound) (isHandlerOf_handler.mpr rfl)]
  have hfor : (m.hal.handleEvent cmd msg).handlerFor (.vendor event none) = some found := by
    have haccepts : cb_info.accepts (.vendor event none) (handler found event) = true := by
      simp [cb_info.accepts, EventMsg.vendor, handler]
    rw [Hal.handlerFor, accepts_eq_isHandlerOf haccepts, hfirst]
    rfl
  have halive := hsafe.lookup_alive _ _ hfor
  rw [Hal.handleEvent_deletes, if_pos ⟨htarget, by rw [hrefs, hholds]; rfl⟩] at halive
  omega

/-- In a run of admissible steps the dispatcher never touches a freed command,
and nothing is freed twice or while it is held, exactly when no completion frees
another command that still has a handler. -/
theorem run_safe_iff {acts : List ThreadAction}
    (hadmissible : StepsHold Machine.step Admissible Machine.initial acts) :
    StatesHold Machine.step Safe Machine.initial acts ↔
      StepsHold Machine.step CompletesItself Machine.initial acts := by
  refine statesHold_iff_of_admissible (I := MachineOk) (fun _ hok => hok.safe) ?_ ?_ MachineOk.initial hadmissible
  · intro m act hok hadm hitself
    cases act with
    | start api id k => exact hok.start api id k hadm
    | stopTemporary api id k => exact hok.stopTemporary api id k
    | unregister id => exact hok.unregister id
    | cancel k => exact hok.cancel k
    | release => exact hok.release
    | lookup msg => exact hok.lookup msg
    | handle => exact hok.handle hitself
    | releaseDispatched => exact hok.releaseDispatched
  · intro m act hok _ hother
    cases act with
    | handle => exact hok.handle_unsafe hother
    | _ => exact absurd trivial hother

/-- Anything may be started while no request is registered. -/
theorem admissible_of_empty {m : Machine} (hcmd : m.hal.info.cmd.entries = [])
    (hcb : m.hal.info.event_cb.entries = []) (act : ThreadAction) : Admissible m act := by
  cases act with
  | start api id k =>
    intro cmd hregistered
    simp [Machine.RegisteredCmd, hcmd, hcb] at hregistered
  | _ => trivial

/-- Cancelling a measurement while its completion is being dispatched is safe. -/
theorem cancel_during_completion_safe : StatesHold Machine.step Safe Machine.initial
    [.start .wifi_rtt_range_request 1 .ok, .lookup (.vendor RTT_EVENT_COMPLETE (some 1)), .unregister 1,
      .cancel .ok, .release, .handle, .releaseDispatched] := by
  have hadmissible : StepsHold Machine.step Admissible Machine.initial
      [.start .wifi_rtt_range_request 1 .ok, .lookup (.vendor RTT_EVENT_COMPLETE (some 1)), .unregister 1,
        .cancel .ok, .release, .handle, .releaseDispatched] :=
    ⟨admissible_of_empty rfl rfl _, trivial, trivial, trivial, trivial, trivial, trivial, trivial⟩
  refine (run_safe_iff hadmissible).mpr ⟨trivial, trivial, trivial, trivial, trivial, ?_, trivial, trivial⟩
  intro cmd msg hevent found htarget
  cases hevent
  have hnone : (none : Option Ptr) = some found := htarget
  cases hnone

/-- When the id is used again in between, the completion frees the new request. -/
theorem completion_frees_other_request : ¬ ∀ acts, StepsHold Machine.step Admissible Machine.initial acts →
    StatesHold Machine.step Safe Machine.initial acts := by
  intro hall
  have hsafe := (hall [.start .wifi_rtt_range_request 1 .ok, .lookup (.vendor RTT_EVENT_COMPLETE (some 1)),
    .unregister 1, .cancel .ok, .release, .start .wifi_start_gscan 1 .ok, .handle]
    ⟨admissible_of_empty rfl rfl _, trivial, trivial, trivial, trivial, admissible_of_empty rfl rfl _, trivial,
      trivial⟩).final
  have halive := hsafe.lookup_alive (.vendor GSCAN_EVENT_SCAN_RESULTS_AVAILABLE none) 1 (by decide +kernel)
  revert halive
  decide +kernel

end panelli.wifi_hal
