import Panelli.Runs
import Panelli.Table
import Panelli.Telephony.Ril
import Mathlib.Data.List.Perm.Subperm

open panelli.table panelli.runs panelli.java

namespace panelli.telephony

/-- The array `dataCallCids`. A slot is free while its value is negative. -/
abbrev DataCallCids : Type := Fin 5 → Int

def DataCallCids.initial : DataCallCids := fun _ => -1

/-- The slots the loops `for (int i=0; i < 4; i++)` visit. The fifth is never used. -/
def visited : List (Fin 5) := [0, 1, 2, 3]

theorem visited_lt : ∀ i ∈ visited, i.val < 4 := by decide

/-- Where a search for the first free slot stops. -/
def DataCallCids.firstFree (cids : DataCallCids) : Option (Fin 5) := visited.find? fun i => cids i < 0

/-- The interface id a setup request is sent, `0` when no slot is free. -/
def DataCallCids.interfaceId (cids : DataCallCids) : Nat :=
  match cids.firstFree with
  | some i => i + 1
  | none => 0

/-- The arguments of `setupDataCall` but for the result message. -/
structure SetupArguments where
  radioTechnology : Int
  profile : Int
  apn : Option JString
  user : Option JString
  password : Option JString
  authType : Int
  protocol : Option JString
deriving DecidableEq

/-- What `setupDataCall` writes. The addition is one of 32 bit integers. -/
def setupDataCall (cids : DataCallCids) (args : SetupArguments) : List ParcelValue :=
  [.writeInt 8,
    .writeString (some (decimal ((args.radioTechnology + 2).bmod 0x100000000))),
    .writeString (some (decimal args.profile)),
    .writeString args.apn,
    .writeString args.user,
    .writeString args.password,
    .writeString (some (decimal args.authType)),
    .writeString args.protocol,
    .writeString (some (decimal cids.interfaceId))]

def deactivateDataCall (cids : DataCallCids) (cid : Int) : DataCallCids :=
  match visited.find? fun i => cids i == cid with
  | some i => Function.update cids i (-1)
  | none => cids

/-- What `fetchCidFromDataCall` does with the cid it decoded. -/
def storeCid (cids : DataCallCids) (cid : Int) : DataCallCids :=
  if cid ≥ 0 then
    match cids.firstFree with
    | some i => Function.update cids i cid
    | none => cids
  else cids

theorem DataCallCids.firstFree_eq_some {cids : DataCallCids} {i : Fin 5} (hfree : cids.firstFree = some i) :
    i ∈ visited ∧ cids i < 0 := by
  have hlt := List.find?_some hfree
  exact ⟨List.mem_of_find?_eq_some hfree, by simpa using hlt⟩

theorem DataCallCids.firstFree_eq_none {cids : DataCallCids} (hfull : cids.firstFree = none) :
    ∀ i ∈ visited, 0 ≤ cids i := by
  intro i hi
  have hnot := List.find?_eq_none.mp hfull i hi
  simpa using hnot

/-- Storing a cid changes nothing exactly when it is negative or no slot is free. -/
theorem storeCid_eq_self_iff {cids : DataCallCids} {cid : Int} :
    storeCid cids cid = cids ↔ cid < 0 ∨ cids.firstFree = none := by
  unfold storeCid
  by_cases hcid : cid ≥ 0
  · rw [if_pos hcid]
    cases hfree : cids.firstFree with
    | none => simp
    | some i =>
      have hneg := (DataCallCids.firstFree_eq_some hfree).2
      simp only [Function.update_eq_self_iff, reduceCtorEq, or_false]
      omega
  · rw [if_neg hcid]
    exact iff_of_true rfl (Or.inl (Int.not_le.mp hcid))

theorem DataCallCids.interfaceId_of_free {cids : DataCallCids} {i : Fin 5} (hfree : cids.firstFree = some i) :
    cids.interfaceId = i + 1 := by
  rw [interfaceId, hfree]

/-- A data call with the serial of its setup request, what the request sent, and the
interface id that comes last in it. -/
structure DataCall where
  serial : Nat
  sent : List ParcelValue
  interfaceId : Nat
  sent_interfaceId : sent.getLast? = some (.writeString (some (decimal interfaceId)))

/-- The data call that `setupDataCall` requests. -/
def DataCall.setup (serial : Nat) (cids : DataCallCids) (args : SetupArguments) : DataCall where
  serial
  sent := setupDataCall cids args
  interfaceId := cids.interfaceId
  sent_interfaceId := rfl

/-- An answer to a setup request. A failure may still carry data, from which a
cid is decoded. -/
inductive SetupAnswer where
  | success (cid : Int)
  | failure (cid : Option Int)
deriving DecidableEq

/-- The slots together with the data calls of the phone: those still waiting for
their answer, and those connected under a cid. -/
structure DataSession where
  dataCallCids : DataCallCids
  nextSerial : Nat
  pending : List DataCall
  active : List (DataCall × Int)

def DataSession.initial : DataSession := ⟨.initial, 0, [], []⟩

def DataSession.calls (s : DataSession) : List DataCall := s.pending ++ s.active.map Prod.fst

inductive DataAction where
  | setupDataCall (args : SetupArguments)
  | answer (serial : Nat) (answer : SetupAnswer)
  | deactivateDataCall (cid : Int)

def SetupAnswer.store (cids : DataCallCids) : SetupAnswer → DataCallCids
  | .success cid => storeCid cids cid
  | .failure (some cid) => storeCid cids cid
  | .failure none => cids

/-- The connected calls after an answer to `call`. -/
def SetupAnswer.connect (active : List (DataCall × Int)) (call : DataCall) :
    SetupAnswer → List (DataCall × Int)
  | .success cid => (call, cid) :: active
  | .failure _ => active

def DataSession.step (s : DataSession) : DataAction → DataSession
  | .setupDataCall args =>
    { s with nextSerial := s.nextSerial + 1,
             pending := .setup s.nextSerial s.dataCallCids args :: s.pending }
  | .answer serial answer =>
    match s.pending.find? (·.serial == serial) with
    | some call =>
      { s with dataCallCids := answer.store s.dataCallCids,
               pending := s.pending.eraseP (·.serial == serial),
               active := answer.connect s.active call }
    | none => s
  | .deactivateDataCall cid =>
    { s with dataCallCids := deactivateDataCall s.dataCallCids cid,
             active := s.active.filter (·.2 ≠ cid) }

/-- At most four data calls are pending or active. -/
def AtMostFour (s : DataSession) : Prop := s.calls.length ≤ 4

instance (s : DataSession) : Decidable (AtMostFour s) := inferInstanceAs (Decidable (_ ≤ _))

/-- Data calls with different interface ids in `1..4`. -/
structure DistinctIds (calls : List DataCall) : Prop where
  nodup : (calls.map DataCall.interfaceId).Nodup
  in_range : ∀ call ∈ calls, 1 ≤ call.interfaceId ∧ call.interfaceId ≤ 4

/-- The interface id names the first free slot. -/
def DataCall.HasFirstFree (call : DataCall) (cids : DataCallCids) : Prop :=
  ∃ i ∈ cids.firstFree, call.interfaceId = i + 1

instance (call : DataCall) (cids : DataCallCids) : Decidable (call.HasFirstFree cids) :=
  inferInstanceAs (Decidable (∃ i ∈ cids.firstFree, _ = _))

/-- The answer keeps the slots in step with the data calls: a success carries a
new cid and finds the slot of its request free first, a failure stores nothing. -/
def SetupAnswer.KeepsSlots (cids : DataCallCids) (call : DataCall) : SetupAnswer → Prop
  | .success cid => 0 ≤ cid ∧ (∀ i ∈ visited, cids i ≠ cid) ∧ call.HasFirstFree cids
  | .failure decoded => ∀ cid ∈ decoded, cid < 0 ∨ cids.firstFree = none

instance (cids : DataCallCids) (call : DataCall) : ∀ answer : SetupAnswer,
    Decidable (answer.KeepsSlots cids call)
  | .success _ => inferInstanceAs (Decidable (_ ∧ _ ∧ _))
  | .failure decoded => inferInstanceAs (Decidable (∀ cid ∈ decoded, cid < 0 ∨ cids.firstFree = none))

/-- So does an action when, besides, a request is only sent while no pending one
has the first free slot. -/
def KeepsSlots (s : DataSession) : DataAction → Prop
  | .setupDataCall _ => ∀ call ∈ s.pending, ¬ call.HasFirstFree s.dataCallCids
  | .answer serial answer => ∀ call ∈ s.pending.find? (·.serial == serial),
    answer.KeepsSlots s.dataCallCids call
  | .deactivateDataCall _ => True

instance (s : DataSession) : ∀ act, Decidable (KeepsSlots s act)
  | .setupDataCall _ => inferInstanceAs (Decidable (∀ call ∈ s.pending, ¬ _))
  | .answer serial answer => inferInstanceAs (Decidable (∀ call ∈ s.pending.find? (·.serial == serial),
    answer.KeepsSlots s.dataCallCids call))
  | .deactivateDataCall _ => isTrue trivial

/-- Losing or reordering calls keeps their ids distinct. -/
theorem DistinctIds.of_subperm {calls calls' : List DataCall} (hsub : calls'.Subperm calls)
    (hdistinct : DistinctIds calls) : DistinctIds calls' := by
  obtain ⟨kept, hperm, hkept⟩ := hsub
  refine ⟨?_, fun call hcall => hdistinct.in_range call (hkept.subset (hperm.mem_iff.mpr hcall))⟩
  exact (hperm.map _).nodup_iff.mp (hdistinct.nodup.sublist (hkept.map _))

/-- Slots and data calls agree: an active call has the slot of its id, a pending
one has it reserved, and no slot is taken by anything else. -/
structure SlotsOk (s : DataSession) : Prop where
  distinct : DistinctIds s.calls
  active_slot : ∀ entry ∈ s.active, 0 ≤ entry.2 ∧
    ∃ i ∈ visited, entry.1.interfaceId = i + 1 ∧ s.dataCallCids i = entry.2
  pending_slot : ∀ call ∈ s.pending, ∃ i ∈ visited, call.interfaceId = i + 1 ∧ s.dataCallCids i < 0
  slot_active : ∀ i ∈ visited, 0 ≤ s.dataCallCids i → ∃ entry ∈ s.active, entry.1.interfaceId = i + 1
  cid_once : ∀ i ∈ visited, ∀ j ∈ visited, 0 ≤ s.dataCallCids i → s.dataCallCids i = s.dataCallCids j → i = j

theorem SlotsOk.initial : SlotsOk DataSession.initial := by
  refine ⟨⟨?_, ?_⟩, ?_, ?_, ?_, ?_⟩ <;> simp [DataSession.initial, DataSession.calls, DataCallCids.initial]

/-- A cid that no slot has is in one slot after it is stored, and so is any other one. -/
theorem update_cid_once {cids : DataCallCids} {cid : Int} {i : Fin 5} (hfresh : ∀ j ∈ visited, cids j ≠ cid)
    (honce : ∀ j ∈ visited, ∀ k ∈ visited, 0 ≤ cids j → cids j = cids k → j = k) :
    ∀ j ∈ visited, ∀ k ∈ visited, 0 ≤ Function.update cids i cid j →
      Function.update cids i cid j = Function.update cids i cid k → j = k := by
  intro j hj k hk hpos heq
  by_cases hji : j = i <;> by_cases hki : k = i
  · rw [hji, hki]
  · rw [hji, Function.update_self, Function.update_of_ne hki] at heq
    exact absurd heq.symm (hfresh k hk)
  · rw [hki, Function.update_self, Function.update_of_ne hji] at heq
    exact absurd heq (hfresh j hj)
  · rw [Function.update_of_ne hji] at heq hpos
    rw [Function.update_of_ne hki] at heq
    exact honce j hj k hk hpos heq

/-- With a place left among the four calls some slot is free. -/
theorem SlotsOk.firstFree {s : DataSession} (hok : SlotsOk s) (hroom : s.calls.length < 4) :
    ∃ i, s.dataCallCids.firstFree = some i := by
  cases hfree : s.dataCallCids.firstFree with
  | some i => exact ⟨i, rfl⟩
  | none =>
    have hfull := DataCallCids.firstFree_eq_none hfree
    have hsubset : [1, 2, 3, 4] ⊆ s.calls.map DataCall.interfaceId := by
      have hid : ∀ i ∈ visited, i.val + 1 ∈ s.calls.map DataCall.interfaceId := by
        intro i hi
        obtain ⟨entry, hentry, heq⟩ := hok.slot_active i hi (hfull i hi)
        rw [← heq]
        exact List.mem_map_of_mem (List.mem_append_right _ (List.mem_map_of_mem hentry))
      have hall : visited.map (fun i : Fin 5 => i.val + 1) ⊆ s.calls.map DataCall.interfaceId := by
        intro id hmem
        obtain ⟨i, hi, rfl⟩ := List.mem_map.mp hmem
        exact hid i hi
      exact hall
    have hlength := (List.subperm_of_subset (by decide) hsubset).length_le
    rw [List.length_map] at hlength
    have : [1, 2, 3, 4].length = 4 := rfl
    omega

theorem SlotsOk.setup {s : DataSession} (hok : SlotsOk s) (args : SetupArguments)
    (hroom : AtMostFour (s.step (.setupDataCall args))) (hkeeps : KeepsSlots s (.setupDataCall args)) :
    SlotsOk (s.step (.setupDataCall args)) := by
  have hlength : s.calls.length < 4 := hroom
  obtain ⟨i, hfree⟩ := hok.firstFree hlength
  obtain ⟨hvisited, hneg⟩ := DataCallCids.firstFree_eq_some hfree
  have hid : s.dataCallCids.interfaceId = i + 1 := DataCallCids.interfaceId_of_free hfree
  have hlt := visited_lt i hvisited
  have hnew : ∀ call ∈ s.calls, call.interfaceId ≠ s.dataCallCids.interfaceId := by
    intro call hcall heq
    obtain hpending | hactive := List.mem_append.mp hcall
    · exact hkeeps call hpending ⟨i, hfree, heq.trans hid⟩
    · obtain ⟨entry, hentry, rfl⟩ := List.mem_map.mp hactive
      obtain ⟨hcid, j, _, hj, hslot⟩ := hok.active_slot entry hentry
      have hsame : j.val = i.val := by omega
      rw [Fin.ext hsame] at hslot
      omega
  refine ⟨⟨?_, ?_⟩, hok.active_slot, ?_, hok.slot_active, hok.cid_once⟩
  · refine List.nodup_cons.mpr ⟨fun hmem => ?_, hok.distinct.nodup⟩
    obtain ⟨call, hcall, heq⟩ := List.mem_map.mp hmem
    exact hnew call hcall heq
  · refine List.forall_mem_cons.mpr ⟨?_, hok.distinct.in_range⟩
    change 1 ≤ s.dataCallCids.interfaceId ∧ s.dataCallCids.interfaceId ≤ 4
    omega
  · exact List.forall_mem_cons.mpr ⟨⟨i, hvisited, hid, hneg⟩, hok.pending_slot⟩

/-- Deactivating frees the one slot of the cid, if it has one, and no other. -/
theorem deactivateDataCall_slot {cids : DataCallCids}
    (honce : ∀ i ∈ visited, ∀ j ∈ visited, 0 ≤ cids i → cids i = cids j → i = j) (cid : Int) {i : Fin 5}
    (hi : i ∈ visited) :
    (0 ≤ deactivateDataCall cids cid i ↔ 0 ≤ cids i ∧ cids i ≠ cid) ∧
      (0 ≤ deactivateDataCall cids cid i → deactivateDataCall cids cid i = cids i) := by
  unfold deactivateDataCall
  cases hfind : visited.find? fun j => cids j == cid with
  | none =>
    have hne : cids i ≠ cid := by simpa using List.find?_eq_none.mp hfind i hi
    simp [hne]
  | some j =>
    have hj : cids j = cid := by simpa using List.find?_some hfind
    by_cases hij : i = j
    · subst hij
      simp [hj]
    · have hne : 0 ≤ cids i → cids i ≠ cid := fun hpos heq =>
        hij (honce i hi j (List.mem_of_find?_eq_some hfind) hpos (heq.trans hj.symm))
      simp only [Function.update_of_ne hij, implies_true, and_true]
      exact ⟨fun hpos => ⟨hpos, hne hpos⟩, And.left⟩

theorem SlotsOk.deactivate {s : DataSession} (hok : SlotsOk s) (cid : Int) :
    SlotsOk (s.step (.deactivateDataCall cid)) := by
  refine ⟨?_, ?_, ?_, ?_, ?_⟩
  · refine hok.distinct.of_subperm (List.Sublist.subperm ?_)
    exact (List.Sublist.refl _).append (List.filter_sublist.map _)
  · intro entry hentry
    obtain ⟨hmem, hne⟩ := List.mem_filter.mp hentry
    obtain ⟨hcid, i, hi, hid, hslot⟩ := hok.active_slot entry hmem
    obtain ⟨hiff, hsame⟩ := deactivateDataCall_slot hok.cid_once cid hi
    have hpos := hiff.mpr ⟨hslot.symm ▸ hcid, hslot.symm ▸ by simpa using hne⟩
    exact ⟨hcid, i, hi, hid, (hsame hpos).trans hslot⟩
  · intro call hcall
    obtain ⟨i, hi, hid, hneg⟩ := hok.pending_slot call hcall
    refine ⟨i, hi, hid, ?_⟩
    by_contra hpos
    have hold := ((deactivateDataCall_slot hok.cid_once cid hi).1.mp (Int.not_lt.mp hpos)).1
    omega
  · intro i hi hpos
    obtain ⟨hold, hne⟩ := (deactivateDataCall_slot hok.cid_once cid hi).1.mp hpos
    obtain ⟨entry, hentry, hid⟩ := hok.slot_active i hi hold
    obtain ⟨_, j, _, hid', hslot⟩ := hok.active_slot entry hentry
    have hsame : j.val = i.val := by omega
    rw [Fin.ext hsame] at hslot
    exact ⟨entry, List.mem_filter.mpr ⟨hentry, by simpa [← hslot] using hne⟩, hid⟩
  · intro i hi j hj hpos heq
    obtain ⟨hiffi, hsamei⟩ := deactivateDataCall_slot hok.cid_once cid hi
    obtain ⟨_, hsamej⟩ := deactivateDataCall_slot hok.cid_once cid hj
    have hposj : 0 ≤ deactivateDataCall s.dataCallCids cid j := Int.le_trans hpos (Int.le_of_eq heq)
    apply hok.cid_once i hi j hj (hiffi.mp hpos).1
    rw [← hsamei hpos, ← hsamej hposj]
    exact heq

/-- No two pending calls have the same slot reserved. -/
theorem SlotsOk.pending_ne {s : DataSession} (hok : SlotsOk s) {call other : DataCall} {serial : Nat}
    (hfind : s.pending.find? (·.serial == serial) = some call)
    (hother : other ∈ s.pending.eraseP (·.serial == serial)) : other.interfaceId ≠ call.interfaceId := by
  have hids : (s.pending.map DataCall.interfaceId).Nodup :=
    hok.distinct.nodup.sublist ((List.sublist_append_left _ _).map _)
  have hnotin := (List.nodup_cons.mp (((perm_cons_eraseP hfind).map _).nodup_iff.mp hids)).1
  exact fun hsame => hnotin (List.mem_map.mpr ⟨other, hother, hsame⟩)

/-- The slots and calls after a success found its slot free first. -/
theorem step_success {s : DataSession} {call : DataCall} {serial : Nat} {cid : Int} {i : Fin 5}
    (hfind : s.pending.find? (·.serial == serial) = some call) (hcid : 0 ≤ cid)
    (hfree : s.dataCallCids.firstFree = some i) : s.step (.answer serial (.success cid)) = { s with
      dataCallCids := Function.update s.dataCallCids i cid,
      pending := s.pending.eraseP (·.serial == serial), active := (call, cid) :: s.active } := by
  simp only [DataSession.step, hfind, SetupAnswer.store, storeCid, if_pos hcid, hfree, SetupAnswer.connect]

/-- A success that keeps the slots in step fills the slot of its own request. -/
theorem SlotsOk.success {s : DataSession} (hok : SlotsOk s) {call : DataCall} {serial : Nat} {cid : Int}
    (hfind : s.pending.find? (·.serial == serial) = some call)
    (hkeeps : (SetupAnswer.success cid).KeepsSlots s.dataCallCids call) :
    SlotsOk (s.step (.answer serial (.success cid))) := by
  obtain ⟨hcid, hfresh, hown⟩ := hkeeps
  obtain ⟨i, hi, hid, hneg⟩ := hok.pending_slot call (List.mem_of_find?_eq_some hfind)
  have hfree : s.dataCallCids.firstFree = some i := by
    obtain ⟨j, hj, hown⟩ := hown
    have hsame : j.val = i.val := by omega
    rwa [Fin.ext hsame] at hj
  rw [step_success hfind hcid hfree]
  refine ⟨?_, ?_, ?_, ?_, ?_⟩
  · refine hok.distinct.of_subperm (List.Perm.subperm ?_)
    exact List.perm_middle.trans ((perm_cons_eraseP hfind).symm.append_right _)
  · refine List.forall_mem_cons.mpr ⟨⟨hcid, i, hi, hid, Function.update_self _ _ _⟩, fun entry hentry => ?_⟩
    obtain ⟨hpos, j, hj, hid', hslot⟩ := hok.active_slot entry hentry
    have hne : j ≠ i := by
      rintro rfl
      omega
    exact ⟨hpos, j, hj, hid', (Function.update_of_ne hne _ _).trans hslot⟩
  · intro other hother
    obtain ⟨j, hj, hid', hfree'⟩ := hok.pending_slot other (List.eraseP_subset hother)
    have hne : j ≠ i := by
      rintro rfl
      exact hok.pending_ne hfind hother (hid'.trans hid.symm)
    exact ⟨j, hj, hid', Int.lt_of_le_of_lt (Int.le_of_eq (Function.update_of_ne hne _ _)) hfree'⟩
  · intro j hj hpos
    dsimp only at hpos ⊢
    by_cases hji : j = i
    · exact ⟨(call, cid), List.mem_cons_self, hji ▸ hid⟩
    · rw [Function.update_of_ne hji] at hpos
      obtain ⟨entry, hentry, hid'⟩ := hok.slot_active j hj hpos
      exact ⟨entry, List.mem_cons_of_mem _ hentry, hid'⟩
  · exact update_cid_once hfresh hok.cid_once

theorem SlotsOk.failure {s : DataSession} (hok : SlotsOk s) {call : DataCall} {serial : Nat}
    {decoded : Option Int} (hfind : s.pending.find? (·.serial == serial) = some call)
    (hkeeps : (SetupAnswer.failure decoded).KeepsSlots s.dataCallCids call) :
    SlotsOk (s.step (.answer serial (.failure decoded))) := by
  have hstore : (SetupAnswer.failure decoded).store s.dataCallCids = s.dataCallCids := by
    cases decoded with
    | none => rfl
    | some cid => exact storeCid_eq_self_iff.mpr (hkeeps cid rfl)
  have hstep : s.step (.answer serial (.failure decoded)) =
      { s with pending := s.pending.eraseP (·.serial == serial) } := by
    simp only [DataSession.step, hfind, hstore, SetupAnswer.connect]
  rw [hstep]
  refine ⟨?_, hok.active_slot, ?_, hok.slot_active, hok.cid_once⟩
  · refine hok.distinct.of_subperm (List.Sublist.subperm ?_)
    exact List.eraseP_sublist.append (List.Sublist.refl _)
  · exact fun call hcall => hok.pending_slot call (List.eraseP_subset hcall)

/-- Slots and calls stay in agreement. -/
theorem SlotsOk.step {s : DataSession} (hok : SlotsOk s) (act : DataAction) (hfour : AtMostFour (s.step act))
    (hkeeps : KeepsSlots s act) : SlotsOk (s.step act) := by
  cases act with
  | setupDataCall args => exact hok.setup args hfour hkeeps
  | deactivateDataCall cid => exact hok.deactivate cid
  | answer serial answer =>
    cases hfind : s.pending.find? (·.serial == serial) with
    | none => simpa only [DataSession.step, hfind] using hok
    | some call =>
      cases answer with
      | success cid => exact hok.success hfind (hkeeps call hfind)
      | failure decoded => exact hok.failure hfind (hkeeps call hfind)

/-- As long as slots and calls are kept in step, any four calls pending or active
at the same time have different interface ids in `1..4`. -/
theorem run_distinctIds {acts : List DataAction}
    (hfour : StatesHold DataSession.step AtMostFour DataSession.initial acts)
    (hkeeps : StepsHold DataSession.step KeepsSlots DataSession.initial acts) :
    StatesHold DataSession.step (fun s => DistinctIds s.calls) DataSession.initial acts := by
  have hsteps := stepsHold_and.mpr ⟨hfour.stepsHold, hkeeps⟩
  have hok : StatesHold DataSession.step SlotsOk DataSession.initial acts :=
    statesHold_of_stepsHold (fun s act hok hboth => hok.step act hboth.1 hboth.2) SlotsOk.initial hsteps
  exact hok.mono fun s hs => hs.distinct

/-- A request that leaves every argument empty. -/
def SetupArguments.empty : SetupArguments := ⟨0, 0, none, none, none, 0, none⟩

theorem answered_in_turn_distinctIds :
    StatesHold DataSession.step (fun s => DistinctIds s.calls) DataSession.initial
      [.setupDataCall .empty, .answer 0 (.success 5), .setupDataCall .empty, .answer 1 (.success 7),
        .deactivateDataCall 5, .setupDataCall .empty, .answer 2 (.failure none)] :=
  run_distinctIds (by decide) (by decide)

/-- Two requests without an answer in between are both sent the first id. -/
theorem two_requests_same_id : ¬ ∀ acts,
    StatesHold DataSession.step AtMostFour DataSession.initial acts →
      StatesHold DataSession.step (fun s => DistinctIds s.calls) DataSession.initial acts := by
  intro hall
  have hdistinct := (hall [.setupDataCall .empty, .setupDataCall .empty] (by decide)).final
  have hnodup := hdistinct.nodup
  revert hnodup
  decide

end panelli.telephony
