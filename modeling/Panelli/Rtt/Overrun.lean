import Panelli.Runs
import Panelli.Rtt.Command

open panelli.netlink
open panelli.runs (foldlM_cons_eq_ok)

namespace panelli.rtt

/-- The completion flag after an attribute, when no allocation fails. -/
def completedAfter (flag : UInt32) (it : Place) : UInt32 :=
  if it.nla_type = RTT_ATTRIBUTE_RESULTS_COMPLETE then it.nla_get_u32 else flag

/-- The completion flag an event leaves, when no allocation fails. -/
def completedBy (vendor_data : Option Place) : UInt32 := (eventAttributes vendor_data).foldl completedAfter 0

/-- The events up to the one that completes the measurement, or lacks the vendor
data, carry at most so many results. -/
def CarryAtMost : Nat → List (Option Place) → Prop
  | _, [] => True
  | n, event :: events =>
    resultsOf event ≤ n ∧ (event.isSome → completedBy event = 0 → CarryAtMost (n - resultsOf event) events)

open RttCommand

section

variable {size n : Nat} {malloc : Nat → Option (List UInt8)} {c c' : RttCommand} {it it2 : Place}
  {group as : List Place} {vendor_data : Option Place} {events : List (Option Place)} {flag : UInt32}

theorem handleTarget_of_result (hresult : it2.nla_type = RTT_ATTRIBUTE_RESULT)
    (hroom : c.currentIdx < MAX_RESULTS) :
    handleTarget size malloc (it2 :: group) c = (malloc c.mallocs).elim (.ok c.storeNull)
      fun beyond => handleTarget size malloc group (c.store size it2 beyond) := by
  rw [handleTarget, if_pos hresult, if_pos hroom]
  cases malloc c.mallocs with
  | none => rfl
  | some beyond => rfl

theorem handleTarget_of_full (hresult : it2.nla_type = RTT_ATTRIBUTE_RESULT)
    (hfull : ¬ c.currentIdx < MAX_RESULTS) : handleTarget size malloc (it2 :: group) c = .error .overrun := by
  rw [handleTarget, if_pos hresult, if_neg hfull]

theorem handleTarget_of_other (hother : it2.nla_type ≠ RTT_ATTRIBUTE_RESULT) :
    handleTarget size malloc (it2 :: group) c = handleTarget size malloc group c := by
  rw [handleTarget, if_neg hother]

theorem countResults_of_result (hresult : it2.nla_type = RTT_ATTRIBUTE_RESULT) :
    countResults (it2 :: group) = countResults group + 1 :=
  List.countP_cons_of_pos (beq_iff_eq.mpr hresult)

theorem countResults_of_other (hother : it2.nla_type ≠ RTT_ATTRIBUTE_RESULT) :
    countResults (it2 :: group) = countResults group :=
  List.countP_cons_of_neg (fun h => hother (beq_iff_eq.mp h))

/-- What a command may come to with so many more results: no more than these are
counted, and it stays as it was about its handler. -/
structure Grown (c : RttCommand) (n : Nat) (c' : RttCommand) : Prop where
  currentIdx : c'.currentIdx ≤ c.currentIdx + n
  registered : c'.registered = c.registered

theorem handleTarget_grown (hroom : c.currentIdx + countResults group ≤ MAX_RESULTS) :
    ∃ c', handleTarget size malloc group c = .ok c' ∧ Grown c (countResults group) c' ∧
      (c'.mCompleted = 0 → c.mCompleted = 0) := by
  induction group generalizing c with
  | nil => exact ⟨c, rfl, ⟨Nat.le_refl _, rfl⟩, id⟩
  | cons it2 group ih =>
    by_cases hresult : it2.nla_type = RTT_ATTRIBUTE_RESULT
    · rw [countResults_of_result hresult] at hroom ⊢
      rw [handleTarget_of_result hresult (by omega)]
      cases malloc c.mallocs with
      | none =>
        refine ⟨c.storeNull, rfl, ⟨Nat.le_add_right _ _, rfl⟩, fun hzero => ?_⟩
        cases hzero
      | some beyond =>
        have hidx : (c.store size it2 beyond).currentIdx = c.currentIdx + 1 := rfl
        obtain ⟨c', hok, hgrown, hzero⟩ := ih (c := c.store size it2 beyond) (by omega)
        have hle := hgrown.currentIdx
        exact ⟨c', hok, ⟨by omega, hgrown.registered⟩, hzero⟩
    · rw [countResults_of_other hresult] at hroom ⊢
      rw [handleTarget_of_other hresult]
      exact ih hroom

theorem handleAttr_of_complete (hcomplete : it.nla_type = RTT_ATTRIBUTE_RESULTS_COMPLETE) :
    handleAttr size malloc c it = .ok { c with mCompleted := it.nla_get_u32 } := if_pos hcomplete

theorem handleAttr_of_target (htarget : it.nla_type = RTT_ATTRIBUTE_RESULTS_PER_TARGET) :
    handleAttr size malloc c it = handleTarget size malloc (places it) c := by
  rw [handleAttr, if_neg (by rw [htarget]; decide), if_pos htarget]

theorem handleAttr_of_other (hcomplete : it.nla_type ≠ RTT_ATTRIBUTE_RESULTS_COMPLETE)
    (htarget : it.nla_type ≠ RTT_ATTRIBUTE_RESULTS_PER_TARGET) : handleAttr size malloc c it = .ok c := by
  rw [handleAttr, if_neg hcomplete, if_neg htarget]

theorem completedAfter_of_complete (hcomplete : it.nla_type = RTT_ATTRIBUTE_RESULTS_COMPLETE) :
    completedAfter flag it = it.nla_get_u32 := if_pos hcomplete

theorem completedAfter_of_ne (hcomplete : it.nla_type ≠ RTT_ATTRIBUTE_RESULTS_COMPLETE) :
    completedAfter flag it = flag := if_neg hcomplete

theorem target_ne_complete (htarget : it.nla_type = RTT_ATTRIBUTE_RESULTS_PER_TARGET) :
    it.nla_type ≠ RTT_ATTRIBUTE_RESULTS_COMPLETE := by
  rw [htarget]
  decide

theorem handleAttr_grown (hroom : c.currentIdx + resultsIn it ≤ MAX_RESULTS)
    (hflag : c.mCompleted = 0 → flag = 0) :
    ∃ c', handleAttr size malloc c it = .ok c' ∧ Grown c (resultsIn it) c' ∧
      (c'.mCompleted = 0 → completedAfter flag it = 0) := by
  by_cases hcomplete : it.nla_type = RTT_ATTRIBUTE_RESULTS_COMPLETE
  · rw [handleAttr_of_complete hcomplete, completedAfter_of_complete hcomplete]
    exact ⟨_, rfl, ⟨Nat.le_add_right _ _, rfl⟩, id⟩
  · rw [completedAfter_of_ne hcomplete]
    by_cases htarget : it.nla_type = RTT_ATTRIBUTE_RESULTS_PER_TARGET
    · rw [resultsIn, if_pos htarget] at hroom ⊢
      rw [handleAttr_of_target htarget]
      obtain ⟨c', hok, hgrown, hzero⟩ := handleTarget_grown hroom
      exact ⟨c', hok, hgrown, fun h => hflag (hzero h)⟩
    · rw [handleAttr_of_other hcomplete htarget]
      exact ⟨c, rfl, ⟨Nat.le_add_right _ _, rfl⟩, hflag⟩

theorem Grown.trans {m : Nat} {c'' : RttCommand} (hfirst : Grown c n c') (hsecond : Grown c' m c'') :
    Grown c (n + m) c'' := by
  have hle := hfirst.currentIdx
  have hle' := hsecond.currentIdx
  exact ⟨by omega, hsecond.registered.trans hfirst.registered⟩

/-- The attributes of an event fit when their results do, and if they do not
complete the measurement, no failed allocation does. -/
theorem foldlM_handleAttr_grown (hroom : c.currentIdx + (as.map resultsIn).sum ≤ MAX_RESULTS)
    (hflag : c.mCompleted = 0 → flag = 0) :
    ∃ c', as.foldlM (handleAttr size malloc) c = .ok c' ∧ Grown c (as.map resultsIn).sum c' ∧
      (c'.mCompleted = 0 → as.foldl completedAfter flag = 0) := by
  induction as generalizing c flag with
  | nil => exact ⟨c, rfl, ⟨Nat.le_refl _, rfl⟩, hflag⟩
  | cons it as ih =>
    rw [List.map_cons, List.sum_cons] at hroom ⊢
    have hfirst : c.currentIdx + resultsIn it ≤ MAX_RESULTS := by omega
    obtain ⟨mid, hmid, hgrown, hzero⟩ := handleAttr_grown hfirst hflag
    have hle := hgrown.currentIdx
    obtain ⟨c', hok, hgrown', hzero'⟩ := ih (c := mid) (by omega) hzero
    exact ⟨c', foldlM_cons_eq_ok.mpr ⟨mid, hmid, hok⟩, hgrown.trans hgrown', hzero'⟩

/-- A command without a handler gets no events. -/
theorem run_of_unregistered (hgone : c.registered = false) : run size malloc c events = .ok c := by
  induction events with
  | nil => rfl
  | cons event events ih =>
    have hdispatch : dispatch size malloc c event = .ok c := by
      rw [dispatch, hgone]
      rfl
    rw [run, List.foldlM_cons, hdispatch]
    exact ih

/-- An event whose attributes are handled completes the measurement or leaves it open. -/
theorem dispatch_of_handled {attr : Place} (hregistered : c.registered = true)
    (hhandled : (places attr).foldlM (handleAttr size malloc) c = .ok c') :
    dispatch size malloc c (some attr) = .ok (if c'.mCompleted ≠ 0 then c'.complete else c') := by
  rw [dispatch, if_pos hregistered, handleEvent]
  simp only [hhandled, bind, Except.bind, pure, Except.pure]

theorem dispatch_of_fault {attr : Place} {fault : RttFault} (hregistered : c.registered = true)
    (hfault : (places attr).foldlM (handleAttr size malloc) c = .error fault) :
    dispatch size malloc c (some attr) = .error fault := by
  rw [dispatch, if_pos hregistered, handleEvent]
  simp only [hfault, bind, Except.bind]

theorem dispatch_of_none (hregistered : c.registered = true) :
    dispatch size malloc c none = .error .nullVendorData := by
  rw [dispatch, if_pos hregistered, handleEvent]

theorem run_cons_of_ok {event : Option Place} (hdispatch : dispatch size malloc c event = .ok c') :
    run size malloc c (event :: events) = run size malloc c' events := by
  rw [run, List.foldlM_cons, hdispatch]
  rfl

theorem run_cons_of_error {event : Option Place} {fault : RttFault}
    (hdispatch : dispatch size malloc c event = .error fault) :
    run size malloc c (event :: events) = .error fault := by
  rw [run, List.foldlM_cons, hdispatch]
  rfl

/-- Events that carry no more results than there is room for never overrun the
array, whatever allocations fail: only an event without the vendor data ends a run. -/
theorem run_fault_of_carryAtMost {fault : RttFault} (hregistered : c.registered = true)
    (hidx : c.currentIdx + n ≤ MAX_RESULTS) (hzero : c.mCompleted = 0) (hcarry : CarryAtMost n events)
    (hfault : run size malloc c events = .error fault) : fault = .nullVendorData ∧ none ∈ events := by
  induction events generalizing c n with
  | nil => cases hfault
  | cons event events ih =>
    obtain ⟨hle, hlater⟩ := hcarry
    cases event with
    | none =>
      rw [run_cons_of_error (dispatch_of_none hregistered)] at hfault
      exact ⟨(Except.error.inj hfault).symm, List.mem_cons_self⟩
    | some attr =>
      have hroom : c.currentIdx + ((places attr).map resultsIn).sum ≤ MAX_RESULTS :=
        Nat.le_trans (Nat.add_le_add_left hle _) hidx
      obtain ⟨c', hhandled, hgrown, hflag⟩ := foldlM_handleAttr_grown hroom fun _ => rfl
      rw [run_cons_of_ok (dispatch_of_handled hregistered hhandled)] at hfault
      by_cases hcompleted : c'.mCompleted = 0
      · rw [if_neg (not_not.mpr hcompleted)] at hfault
        have hgrownIdx : c'.currentIdx ≤ c.currentIdx + resultsOf (some attr) := hgrown.currentIdx
        obtain ⟨hnull, hmem⟩ := ih (hgrown.registered.trans hregistered) (by omega) hcompleted
          (hlater rfl (hflag hcompleted)) hfault
        exact ⟨hnull, List.mem_cons_of_mem _ hmem⟩
      · rw [if_pos hcompleted, run_of_unregistered rfl] at hfault
        cases hfault

/-- Memory that is always there. -/
def mallocAll : Nat → Option (List UInt8) := fun _ => some []

/-- What a command comes to with exactly so many more results, all stored. -/
structure Filled (c : RttCommand) (n : Nat) (flag : UInt32) (c' : RttCommand) : Prop where
  currentIdx : c'.currentIdx = c.currentIdx + n
  le : c'.currentIdx ≤ MAX_RESULTS
  registered : c'.registered = c.registered
  mCompleted : c'.mCompleted = flag

/-- With memory for all, the results of a group are stored, or overrun the array. -/
theorem handleTarget_of_granted (hgranted : ∀ n, (malloc n).isSome) (hle : c.currentIdx ≤ MAX_RESULTS) :
    (∃ c', handleTarget size malloc group c = .ok c' ∧ Filled c (countResults group) c.mCompleted c') ∨
      handleTarget size malloc group c = .error .overrun := by
  induction group generalizing c with
  | nil => exact Or.inl ⟨c, rfl, rfl, hle, rfl, rfl⟩
  | cons it2 group ih =>
    by_cases hresult : it2.nla_type = RTT_ATTRIBUTE_RESULT
    · rw [countResults_of_result hresult]
      by_cases hroom : c.currentIdx < MAX_RESULTS
      · obtain ⟨beyond, hbeyond⟩ := Option.isSome_iff_exists.mp (hgranted c.mallocs)
        rw [handleTarget_of_result hresult hroom, hbeyond, Option.elim_some]
        have hidx : (c.store size it2 beyond).currentIdx = c.currentIdx + 1 := rfl
        obtain ⟨c', hok, hfilled⟩ | hfault := ih (c := c.store size it2 beyond) (by omega)
        · have hcount := hfilled.currentIdx
          exact Or.inl ⟨c', hok, by omega, hfilled.le, hfilled.registered, hfilled.mCompleted⟩
        · exact Or.inr hfault
      · exact Or.inr (handleTarget_of_full hresult hroom)
    · rw [countResults_of_other hresult, handleTarget_of_other hresult]
      exact ih hle

theorem handleAttr_of_granted (hgranted : ∀ n, (malloc n).isSome) (hle : c.currentIdx ≤ MAX_RESULTS) :
    (∃ c', handleAttr size malloc c it = .ok c' ∧
        Filled c (resultsIn it) (completedAfter c.mCompleted it) c') ∨
      handleAttr size malloc c it = .error .overrun := by
  by_cases htarget : it.nla_type = RTT_ATTRIBUTE_RESULTS_PER_TARGET
  · rw [handleAttr_of_target htarget, resultsIn, if_pos htarget,
      completedAfter_of_ne (target_ne_complete htarget)]
    exact handleTarget_of_granted hgranted hle
  · rw [resultsIn, if_neg htarget]
    by_cases hcomplete : it.nla_type = RTT_ATTRIBUTE_RESULTS_COMPLETE
    · rw [handleAttr_of_complete hcomplete, completedAfter_of_complete hcomplete]
      exact Or.inl ⟨_, rfl, rfl, hle, rfl, rfl⟩
    · rw [handleAttr_of_other hcomplete htarget, completedAfter_of_ne hcomplete]
      exact Or.inl ⟨c, rfl, rfl, hle, rfl, rfl⟩

theorem foldlM_of_granted (hgranted : ∀ n, (malloc n).isSome) (hle : c.currentIdx ≤ MAX_RESULTS) :
    (∃ c', as.foldlM (handleAttr size malloc) c = .ok c' ∧
        Filled c (as.map resultsIn).sum (as.foldl completedAfter c.mCompleted) c') ∨
      as.foldlM (handleAttr size malloc) c = .error .overrun := by
  induction as generalizing c with
  | nil => exact Or.inl ⟨c, rfl, rfl, hle, rfl, rfl⟩
  | cons it as ih =>
    rw [List.map_cons, List.sum_cons, List.foldlM_cons, List.foldl_cons]
    obtain ⟨mid, hmid, hfirst⟩ | hfault := @handleAttr_of_granted size malloc c it hgranted hle
    · have hcount := hfirst.currentIdx
      rw [hmid, ← hfirst.mCompleted]
      obtain ⟨c', hok, hfilled⟩ | hfault := ih hfirst.le
      · have hcount' := hfilled.currentIdx
        exact Or.inl ⟨c', hok, by omega, hfilled.le, hfilled.registered.trans hfirst.registered,
          hfilled.mCompleted⟩
      · exact Or.inr hfault
    · rw [hfault]
      exact Or.inr rfl

/-- With memory for all, events that do not overrun the array carry no more
results than there is room for. -/
theorem carryAtMost_of_run (hregistered : c.registered = true) (hidx : c.currentIdx + n = MAX_RESULTS)
    (hzero : c.mCompleted = 0) (hsafe : run size mallocAll c events ≠ .error .overrun) :
    CarryAtMost n events := by
  induction events generalizing c n with
  | nil => trivial
  | cons event events ih =>
    cases event with
    | none => exact ⟨Nat.zero_le n, fun hsome => by cases hsome⟩
    | some attr =>
      have hle : c.currentIdx ≤ MAX_RESULTS := by omega
      obtain ⟨c', hhandled, hfilled⟩ | hfault := @foldlM_of_granted size mallocAll c (places attr) (fun _ => rfl) hle
      · have hcount : c'.currentIdx = c.currentIdx + resultsOf (some attr) := hfilled.currentIdx
        have hbound := hfilled.le
        refine ⟨by omega, fun _ hflag => ?_⟩
        have hopen : c'.mCompleted = 0 := by
          rw [hfilled.mCompleted, hzero]
          exact hflag
        rw [run_cons_of_ok (dispatch_of_handled hregistered hhandled), if_neg (not_not.mpr hopen)] at hsafe
        exact ih (hfilled.registered.trans hregistered) (by omega) hopen hsafe
      · exact absurd (run_cons_of_error (dispatch_of_fault hregistered hfault)) hsafe

/-- No write is made behind the array of results, whichever allocations fail, if
and only if the events up to the one that completes the measurement carry no more
results than the array holds. -/
theorem run_inBounds_iff (sizeof_wifi_rtt_result : Nat) (id : Int) (events : List (Option Place)) :
    (∀ malloc, run sizeof_wifi_rtt_result malloc (.new id) events ≠ .error .overrun) ↔
      CarryAtMost MAX_RESULTS events := by
  constructor
  · intro hsafe
    exact carryAtMost_of_run rfl (Nat.zero_add _) rfl (hsafe mallocAll)
  · intro hcarry malloc hfault
    have hidx : (RttCommand.new id).currentIdx + MAX_RESULTS ≤ MAX_RESULTS := Nat.le_of_eq (Nat.zero_add _)
    cases (run_fault_of_carryAtMost rfl hidx rfl hcarry hfault).1

/-- Events with a result each carry as many as there are events. -/
theorem le_of_carryAtMost_replicate {count : Nat} (hone : resultsOf vendor_data = 1)
    (hsome : vendor_data.isSome) (hopen : completedBy vendor_data = 0)
    (hcarry : CarryAtMost n (List.replicate count vendor_data)) : count ≤ n := by
  induction count generalizing n with
  | zero => exact Nat.zero_le n
  | succ count ih =>
    obtain ⟨hle, hlater⟩ := hcarry
    have hrest := ih (hlater hsome hopen)
    omega

end

/-- An event with one target that has one result. -/
def oneResult : Place :=
  Attr.encode ⟨0, Attr.encode ⟨RTT_ATTRIBUTE_RESULTS_PER_TARGET, Attr.encode ⟨RTT_ATTRIBUTE_RESULT, [0]⟩⟩⟩

/-- One event too many, and a result is written behind the array. -/
theorem run_overruns :
    run 128 mallocAll (.new 1) (List.replicate 1025 (some oneResult)) = .error .overrun := by
  by_contra hsafe
  have hcarry : CarryAtMost MAX_RESULTS (List.replicate 1025 (some oneResult)) :=
    carryAtMost_of_run rfl (Nat.zero_add _) rfl hsafe
  have hle := le_of_carryAtMost_replicate (by decide +kernel) rfl (by decide +kernel) hcarry
  exact absurd hle (by decide)

end panelli.rtt
