import Panelli.Rtt.Overrun

open panelli.netlink
open panelli.runs (foldlM_cons_eq_ok foldlM_induction)

namespace panelli.rtt

open RttCommand

/-- The array of results with copies at its start. -/
def resultArray (copied : List RttResult) : List (Option RttResult) :=
  copied.map some ++ List.replicate (MAX_RESULTS - copied.length) none

/-- What a completed measurement does: it reports all copies at once, and then
frees each of them. -/
def delivery (request : Int) (copied : List RttResult) : List RttEffect :=
  [.unregisterVendorHandler, .on_rtt_results request copied.length (resultArray copied)] ++
    copied.map (fun r => .free r.block) ++ [.releaseRef]

/-- The payloads of the results in a group. -/
def payloadsFrom (group : List Place) : List (List UInt8) :=
  (group.filter (·.nla_type == RTT_ATTRIBUTE_RESULT)).map payload

def payloadsIn (it : Place) : List (List UInt8) :=
  if it.nla_type = RTT_ATTRIBUTE_RESULTS_PER_TARGET then payloadsFrom (places it) else []

/-- The payloads of the results that an event carries, in order of arrival. -/
def payloadsOf (vendor_data : Option Place) : List (List UInt8) :=
  (eventAttributes vendor_data).flatMap payloadsIn

/-- The events that the command gets when no allocation fails. -/
def upToCompletion : List (Option Place) → List (Option Place)
  | [] => []
  | event :: events => event :: if completedBy event = 0 then upToCompletion events else []

/-- A command has copied results that arrived, all of them if no allocation fails, each to
a block of its own, and if the measurement is completed, they were reported once and freed
after that. -/
structure DeliversOnce (malloc : Nat → Option (List UInt8)) (request : Int) (events : List (Option Place))
    (c : RttCommand) (copied : List RttResult) : Prop where
  arrival : (copied.map RttResult.bytes).Sublist (events.flatMap payloadsOf)
  all : (∀ n, (malloc n).isSome) → copied.map RttResult.bytes = (upToCompletion events).flatMap payloadsOf
  blocks : (copied.map RttResult.block).Nodup
  log : c.log = copied.map .memcpy ++ if c.mCompleted = 0 then [] else delivery request copied

/-- Whatever attributes of an event were handled, the two counters agree. -/
def CountersAgree (size : Nat) (malloc : Nat → Option (List UInt8)) (c : RttCommand) : Prop :=
  ∀ (as group : List Place) (c₁ c₂ : RttCommand), as.foldlM (handleAttr size malloc) c = .ok c₁ →
    handleTarget size malloc group c₁ = .ok c₂ → c₁.totalCnt = c₁.currentIdx ∧ c₂.totalCnt = c₂.currentIdx

/-- A command that still takes events has copied results and done nothing else. -/
structure Collecting (request : Int) (c : RttCommand) (copied : List RttResult) : Prop where
  mId : c.mId = request
  le : copied.length ≤ MAX_RESULTS
  currentIdx : c.currentIdx = copied.length
  totalCnt : c.totalCnt = copied.length
  rttResults : c.rttResults = resultArray copied
  log : c.log = copied.map .memcpy
  fresh : ∀ r ∈ copied, r.block < c.mallocs
  blocks : (copied.map RttResult.block).Nodup

section

variable {size : Nat} {malloc : Nat → Option (List UInt8)} {c c' : RttCommand} {it it2 : Place}
  {group as : List Place} {vendor_data : Option Place} {events : List (Option Place)}
  {copied : List RttResult} {r : RttResult} {request : Int}

theorem exists_room (hroom : copied.length < MAX_RESULTS) : ∃ more, MAX_RESULTS - copied.length = more + 1 :=
  ⟨MAX_RESULTS - copied.length - 1, (Nat.sub_add_cancel (by omega)).symm⟩

theorem resultArray_set (hroom : copied.length < MAX_RESULTS) :
    (resultArray copied).set copied.length (some r) = resultArray (copied ++ [r]) := by
  obtain ⟨more, hmore⟩ := exists_room hroom
  have hless : MAX_RESULTS - (copied ++ [r]).length = more := by
    rw [List.length_append, List.length_singleton]
    omega
  rw [resultArray, resultArray, hless, hmore]
  simp [List.set_append_right, List.replicate_succ]

theorem resultArray_set_none (hroom : copied.length < MAX_RESULTS) :
    (resultArray copied).set copied.length none = resultArray copied := by
  obtain ⟨more, hmore⟩ := exists_room hroom
  rw [resultArray, hmore]
  simp [List.set_append_right, List.replicate_succ]

/-- The next copy goes behind the others, to a new block. -/
theorem Collecting.store (hcollecting : Collecting request c copied) (hroom : c.currentIdx < MAX_RESULTS)
    (it2 : Place) (beyond : List UInt8) : Collecting request (c.store size it2 beyond)
      (copied ++ [copyResult size c.mallocs (payload it2) beyond]) := by
  have hlength := hcollecting.currentIdx
  constructor
  · exact hcollecting.mId
  · rw [List.length_append, List.length_singleton]
    omega
  · simp only [RttCommand.store, hcollecting.currentIdx, List.length_append, List.length_singleton]
  · simp only [RttCommand.store, hcollecting.totalCnt, List.length_append, List.length_singleton]
  · simp only [RttCommand.store, hcollecting.rttResults, hlength]
    exact resultArray_set (by omega)
  · simp only [RttCommand.store, hcollecting.log, List.map_append, List.map_cons, List.map_nil]
  · intro r hr
    obtain hold | hnew := List.mem_append.mp hr
    · exact Nat.lt_succ_of_lt (hcollecting.fresh r hold)
    · rw [List.mem_singleton.mp hnew]
      exact Nat.lt_succ_self _
  · rw [List.map_append, List.nodup_append]
    refine ⟨hcollecting.blocks, List.pairwise_singleton _ _, fun block hold block' hnew => ?_⟩
    obtain ⟨r, hr, rfl⟩ := List.mem_map.mp hold
    rw [List.map_singleton, List.mem_singleton] at hnew
    have hless := hcollecting.fresh r hr
    rw [hnew]
    exact Nat.ne_of_lt hless

/-- A failed allocation leaves the copies as they are. -/
theorem Collecting.storeNull (hcollecting : Collecting request c copied) (hroom : c.currentIdx < MAX_RESULTS) :
    Collecting request c.storeNull copied := by
  have hlength := hcollecting.currentIdx
  refine ⟨hcollecting.mId, hcollecting.le, hlength, hcollecting.totalCnt, ?_, hcollecting.log, fun r hr => ?_,
    hcollecting.blocks⟩
  · simp only [RttCommand.storeNull, hcollecting.rttResults, hlength]
    exact resultArray_set_none (by omega)
  · exact Nat.lt_succ_of_lt (hcollecting.fresh r hr)

/-- A command goes on collecting: its copies are those before and new ones of
payloads that arrived. -/
structure Collects (request : Int) (c : RttCommand) (copied : List RttResult) (arrived : List (List UInt8))
    (c' : RttCommand) (copied' : List RttResult) : Prop where
  collecting : Collecting request c' copied'
  more : ∃ more, copied' = copied ++ more ∧ (more.map RttResult.bytes).Sublist arrived
  registered : c'.registered = c.registered

theorem Collecting.collects (hcollecting : Collecting request c copied) (arrived : List (List UInt8)) :
    Collects request c copied arrived c copied :=
  ⟨hcollecting, ⟨[], (List.append_nil _).symm, List.nil_sublist _⟩, rfl⟩

theorem Collects.trans {arrived arrived' : List (List UInt8)} {copied' copied'' : List RttResult}
    {c'' : RttCommand} (hfirst : Collects request c copied arrived c' copied')
    (hsecond : Collects request c' copied' arrived' c'' copied'') :
    Collects request c copied (arrived ++ arrived') c'' copied'' := by
  obtain ⟨more, rfl, hmore⟩ := hfirst.more
  obtain ⟨more', rfl, hmore'⟩ := hsecond.more
  refine ⟨hsecond.collecting, ⟨more ++ more', List.append_assoc _ _ _, ?_⟩,
    hsecond.registered.trans hfirst.registered⟩
  rw [List.map_append]
  exact hmore.append hmore'

theorem payloadsFrom_of_result (hresult : it2.nla_type = RTT_ATTRIBUTE_RESULT) :
    payloadsFrom (it2 :: group) = payload it2 :: payloadsFrom group := by
  have hkept : (it2.nla_type == RTT_ATTRIBUTE_RESULT) = true := beq_iff_eq.mpr hresult
  rw [payloadsFrom, List.filter_cons, if_pos hkept, List.map_cons, payloadsFrom]

theorem payloadsFrom_of_other (hother : it2.nla_type ≠ RTT_ATTRIBUTE_RESULT) :
    payloadsFrom (it2 :: group) = payloadsFrom group := by
  have hdropped : ¬ (it2.nla_type == RTT_ATTRIBUTE_RESULT) = true := fun h => hother (beq_iff_eq.mp h)
  rw [payloadsFrom, List.filter_cons, if_neg hdropped, payloadsFrom]

theorem payloadsIn_length (it : Place) : (payloadsIn it).length = resultsIn it := by
  rw [payloadsIn, resultsIn]
  split_ifs
  · rw [payloadsFrom, List.length_map, countResults, List.countP_eq_length_filter]
  · rfl

theorem payloadsOf_length (vendor_data : Option Place) : (payloadsOf vendor_data).length = resultsOf vendor_data := by
  rw [payloadsOf, resultsOf, List.length_flatMap, List.map_congr_left fun it _ => payloadsIn_length it]

theorem Collecting.handleTarget (hcollecting : Collecting request c copied)
    (hok : handleTarget size malloc group c = .ok c') :
    ∃ copied', Collects request c copied (payloadsFrom group) c' copied' := by
  induction group generalizing c copied with
  | nil =>
    obtain rfl := Except.ok.inj hok
    exact ⟨copied, hcollecting.collects _⟩
  | cons it2 group ih =>
    by_cases hresult : it2.nla_type = RTT_ATTRIBUTE_RESULT
    · by_cases hroom : c.currentIdx < MAX_RESULTS
      · rw [handleTarget_of_result hresult hroom] at hok
        rw [payloadsFrom_of_result hresult]
        cases hmalloc : malloc c.mallocs with
        | none =>
          rw [hmalloc] at hok
          obtain rfl := Except.ok.inj hok
          exact ⟨copied, hcollecting.storeNull hroom, ⟨[], (List.append_nil _).symm, List.nil_sublist _⟩, rfl⟩
        | some beyond =>
          rw [hmalloc] at hok
          have hstored : Collects request c copied [payload it2] (c.store size it2 beyond) _ :=
            ⟨hcollecting.store hroom it2 beyond, ⟨_, rfl, List.Sublist.refl _⟩, rfl⟩
          obtain ⟨copied', hrest⟩ := ih hstored.collecting hok
          exact ⟨copied', hstored.trans hrest⟩
      · rw [handleTarget_of_full hresult hroom] at hok
        cases hok
    · rw [handleTarget_of_other hresult] at hok
      rw [payloadsFrom_of_other hresult]
      exact ih hcollecting hok

theorem Collecting.handleAttr (hcollecting : Collecting request c copied)
    (hok : handleAttr size malloc c it = .ok c') :
    ∃ copied', Collects request c copied (payloadsIn it) c' copied' := by
  by_cases htarget : it.nla_type = RTT_ATTRIBUTE_RESULTS_PER_TARGET
  · rw [handleAttr_of_target htarget] at hok
    rw [payloadsIn, if_pos htarget]
    exact hcollecting.handleTarget hok
  · rw [payloadsIn, if_neg htarget]
    by_cases hcomplete : it.nla_type = RTT_ATTRIBUTE_RESULTS_COMPLETE
    · rw [handleAttr_of_complete hcomplete] at hok
      obtain rfl := Except.ok.inj hok
      obtain ⟨hid, hle, hidx, htotal, harray, hlog, hfresh, hblocks⟩ := hcollecting
      exact ⟨copied, ⟨hid, hle, hidx, htotal, harray, hlog, hfresh, hblocks⟩,
        ⟨[], (List.append_nil _).symm, List.nil_sublist _⟩, rfl⟩
    · rw [handleAttr_of_other hcomplete htarget] at hok
      obtain rfl := Except.ok.inj hok
      exact ⟨copied, hcollecting.collects _⟩

theorem Collecting.foldlM (hcollecting : Collecting request c copied)
    (hok : as.foldlM (RttCommand.handleAttr size malloc) c = .ok c') :
    ∃ copied', Collects request c copied (as.flatMap payloadsIn) c' copied' := by
  induction as generalizing c copied with
  | nil =>
    obtain rfl := Except.ok.inj hok
    exact ⟨copied, hcollecting.collects _⟩
  | cons it as ih =>
    obtain ⟨mid, hmid, hok⟩ := foldlM_cons_eq_ok.mp hok
    obtain ⟨copiedMid, hfirst⟩ := hcollecting.handleAttr hmid
    obtain ⟨copied', hrest⟩ := ih hfirst.collecting hok
    exact ⟨copied', hfirst.trans hrest⟩

/-- A completed measurement reports the copies and frees them. -/
theorem Collecting.complete_log (hcollecting : Collecting request c copied) :
    c.complete.log = copied.map .memcpy ++ delivery request copied := by
  have htaken : ((resultArray copied).take copied.length).filterMap id = copied := by
    rw [resultArray, List.take_left' (List.length_map _), List.filterMap_map]
    exact List.filterMap_some
  simp only [RttCommand.complete, delivery, hcollecting.mId, hcollecting.log, hcollecting.totalCnt,
    hcollecting.rttResults, hcollecting.currentIdx, htaken, List.append_assoc]

/-- A command collects results, or its measurement is completed and they were delivered. -/
inductive Phase (request : Int) (c : RttCommand) (copied : List RttResult) : Prop where
  | collecting (hopen : c.mCompleted = 0) (hregistered : c.registered = true)
      (hcollecting : Collecting request c copied)
  | done (hcompleted : c.mCompleted ≠ 0) (hgone : c.registered = false) (hcounters : c.totalCnt = c.currentIdx)
      (hblocks : (copied.map RttResult.block).Nodup)
      (hlog : c.log = copied.map .memcpy ++ delivery request copied)

theorem Phase.blocks (hphase : Phase request c copied) : (copied.map RttResult.block).Nodup := by
  cases hphase with
  | collecting hopen hregistered hcollecting => exact hcollecting.blocks
  | done hcompleted hgone hcounters hblocks hlog => exact hblocks

theorem Phase.counters (hphase : Phase request c copied) : c.totalCnt = c.currentIdx := by
  cases hphase with
  | collecting hopen hregistered hcollecting =>
    rw [hcollecting.totalCnt, hcollecting.currentIdx]
  | done hcompleted hgone hcounters hblocks hlog => exact hcounters

theorem Phase.log (hphase : Phase request c copied) :
    c.log = copied.map .memcpy ++ if c.mCompleted = 0 then [] else delivery request copied := by
  cases hphase with
  | collecting hopen hregistered hcollecting =>
    rw [if_pos hopen, hcollecting.log, List.append_nil]
  | done hcompleted hgone hcounters hblocks hlog => rw [if_neg hcompleted, hlog]

/-- When no allocation fails, the results of an event are all copied. -/
theorem Collecting.all {more : List RttResult} {attr : Place} (hgranted : ∀ n, (malloc n).isSome)
    (hcollecting : Collecting request c copied) (hafter : Collecting request c' (copied ++ more))
    (hmore : (more.map RttResult.bytes).Sublist (payloadsOf (some attr)))
    (hok : (places attr).foldlM (RttCommand.handleAttr size malloc) c = .ok c') :
    more.map RttResult.bytes = payloadsOf (some attr) ∧
      c'.mCompleted = (places attr).foldl completedAfter c.mCompleted := by
  have hle : c.currentIdx ≤ MAX_RESULTS := by
    rw [hcollecting.currentIdx]
    exact hcollecting.le
  obtain ⟨filled, hhandled, hfilled⟩ | hfault := @foldlM_of_granted size malloc c (places attr) hgranted hle
  · obtain rfl := Except.ok.inj (hok.symm.trans hhandled)
    refine ⟨hmore.eq_of_length ?_, hfilled.mCompleted⟩
    have hcount : c'.currentIdx = c.currentIdx + resultsOf (some attr) := hfilled.currentIdx
    have hbefore := hcollecting.currentIdx
    have hnow := hafter.currentIdx
    rw [List.length_append] at hnow
    rw [List.length_map, payloadsOf_length]
    omega
  · rw [hfault] at hok
    cases hok

/-- The next event is collected, or completes the measurement. -/
theorem Collecting.dispatch (hopen : c.mCompleted = 0) (hregistered : c.registered = true)
    (hcollecting : Collecting request c copied) (hok : dispatch size malloc c vendor_data = .ok c') :
    ∃ more, Phase request c' (copied ++ more) ∧ (more.map RttResult.bytes).Sublist (payloadsOf vendor_data) ∧
      ((∀ n, (malloc n).isSome) → more.map RttResult.bytes = payloadsOf vendor_data ∧
        (c'.mCompleted = 0 ↔ completedBy vendor_data = 0)) := by
  cases vendor_data with
  | none =>
    rw [dispatch_of_none hregistered] at hok
    cases hok
  | some attr =>
    cases hhandled : (places attr).foldlM (RttCommand.handleAttr size malloc) c with
    | error fault =>
      rw [dispatch_of_fault hregistered hhandled] at hok
      cases hok
    | ok mid =>
      obtain ⟨copied', hcollects⟩ := hcollecting.foldlM hhandled
      obtain ⟨more, rfl, hmore⟩ := hcollects.more
      have hall : (∀ n, (malloc n).isSome) → more.map RttResult.bytes = payloadsOf (some attr) ∧
          mid.mCompleted = completedBy (some attr) := by
        intro hgranted
        obtain ⟨hbytes, hflag⟩ := hcollecting.all hgranted hcollects.collecting hmore hhandled
        rw [hopen] at hflag
        exact ⟨hbytes, hflag⟩
      rw [dispatch_of_handled hregistered hhandled] at hok
      obtain rfl := Except.ok.inj hok
      by_cases hstill : mid.mCompleted = 0
      · rw [if_neg (not_not.mpr hstill)]
        refine ⟨more, .collecting hstill (hcollects.registered.trans hregistered) hcollects.collecting, hmore,
          fun hgranted => ⟨(hall hgranted).1, ?_⟩⟩
        rw [(hall hgranted).2]
      · rw [if_pos hstill]
        refine ⟨more, .done hstill rfl rfl hcollects.collecting.blocks hcollects.collecting.complete_log, hmore,
          fun hgranted => ⟨(hall hgranted).1, ?_⟩⟩
        rw [← (hall hgranted).2, RttCommand.complete]

/-- Events are collected up to the one that completes the measurement. -/
theorem Collecting.run (hopen : c.mCompleted = 0) (hregistered : c.registered = true)
    (hcollecting : Collecting request c copied) (hok : run size malloc c events = .ok c') :
    ∃ more, Phase request c' (copied ++ more) ∧
      (more.map RttResult.bytes).Sublist (events.flatMap payloadsOf) ∧
      ((∀ n, (malloc n).isSome) → more.map RttResult.bytes = (upToCompletion events).flatMap payloadsOf) := by
  induction events generalizing c copied with
  | nil =>
    obtain rfl := Except.ok.inj hok
    refine ⟨[], ?_, List.nil_sublist _, fun _ => rfl⟩
    rw [List.append_nil]
    exact .collecting hopen hregistered hcollecting
  | cons event events ih =>
    obtain ⟨mid, hdispatch, hlater⟩ := foldlM_cons_eq_ok.mp hok
    obtain ⟨more, hphase, hmore, hall⟩ := hcollecting.dispatch hopen hregistered hdispatch
    rw [List.flatMap_cons, upToCompletion, List.flatMap_cons]
    cases hphase with
    | collecting hopen hregistered hnext =>
      obtain ⟨more', hphase', hmore', hall'⟩ := ih hopen hregistered hnext hlater
      refine ⟨more ++ more', ?_, ?_, fun hgranted => ?_⟩
      · rw [← List.append_assoc]
        exact hphase'
      · rw [List.map_append]
        exact hmore.append hmore'
      · obtain ⟨hbytes, hflag⟩ := hall hgranted
        rw [List.map_append, hbytes, hall' hgranted, if_pos (hflag.mp hopen)]
    | done hcompleted hgone hcounters hblocks hlog =>
      obtain rfl := Except.ok.inj ((run_of_unregistered hgone).symm.trans hlater)
      refine ⟨more, .done hcompleted hgone hcounters hblocks hlog, ?_, fun hgranted => ?_⟩
      · exact hmore.trans (List.sublist_append_left _ _)
      · obtain ⟨hbytes, hflag⟩ := hall hgranted
        rw [hbytes, if_neg fun h => hcompleted (hflag.mpr h), List.flatMap_nil, List.append_nil]

theorem collecting_new (request : Int) : Collecting request (.new request) [] :=
  ⟨rfl, Nat.zero_le _, rfl, rfl, rfl, rfl, fun _ hr => absurd hr List.not_mem_nil, List.nodup_nil⟩

theorem handleTarget_counters (hcounters : c.totalCnt = c.currentIdx)
    (hok : RttCommand.handleTarget size malloc group c = .ok c') : c'.totalCnt = c'.currentIdx := by
  induction group generalizing c with
  | nil =>
    obtain rfl := Except.ok.inj hok
    exact hcounters
  | cons it2 group ih =>
    by_cases hresult : it2.nla_type = RTT_ATTRIBUTE_RESULT
    · by_cases hroom : c.currentIdx < MAX_RESULTS
      · rw [handleTarget_of_result hresult hroom] at hok
        cases hmalloc : malloc c.mallocs with
        | none =>
          rw [hmalloc] at hok
          obtain rfl := Except.ok.inj hok
          exact hcounters
        | some beyond =>
          rw [hmalloc] at hok
          exact ih (congrArg Nat.succ hcounters) hok
      · rw [handleTarget_of_full hresult hroom] at hok
        cases hok
    · rw [handleTarget_of_other hresult] at hok
      exact ih hcounters hok

theorem handleAttr_counters (hcounters : c.totalCnt = c.currentIdx)
    (hok : RttCommand.handleAttr size malloc c it = .ok c') : c'.totalCnt = c'.currentIdx := by
  by_cases htarget : it.nla_type = RTT_ATTRIBUTE_RESULTS_PER_TARGET
  · rw [handleAttr_of_target htarget] at hok
    exact handleTarget_counters hcounters hok
  · by_cases hcomplete : it.nla_type = RTT_ATTRIBUTE_RESULTS_COMPLETE
    · rw [handleAttr_of_complete hcomplete] at hok
      obtain rfl := Except.ok.inj hok
      exact hcounters
    · rw [handleAttr_of_other hcomplete htarget] at hok
      obtain rfl := Except.ok.inj hok
      exact hcounters

theorem countersAgree (hcounters : c.totalCnt = c.currentIdx) : CountersAgree size malloc c := by
  intro as group c₁ c₂ hattrs hgroup
  have hfirst : c₁.totalCnt = c₁.currentIdx :=
    foldlM_induction (I := fun c => c.totalCnt = c.currentIdx) (fun _ _ _ => handleAttr_counters) hcounters
      hattrs
  exact ⟨hfirst, handleTarget_counters hfirst hgroup⟩

theorem carryAtMost_of_sum {n : Nat} (hsum : (events.map resultsOf).sum ≤ n) : CarryAtMost n events := by
  induction events generalizing n with
  | nil => trivial
  | cons event events ih =>
    rw [List.map_cons, List.sum_cons] at hsum
    exact ⟨by omega, fun _ _ => ih (by omega)⟩

/-- A completed command stays as it is. -/
theorem run_append_of_done {later : List (Option Place)} (hok : run size malloc c events = .ok c')
    (hgone : c'.registered = false) : run size malloc c (events ++ later) = .ok c' := by
  rw [run, List.foldlM_append]
  have hbind : (events.foldlM (RttCommand.dispatch size malloc) c >>= fun s =>
      later.foldlM (RttCommand.dispatch size malloc) s) = run size malloc c' later := by
    rw [run] at hok
    rw [hok]
    rfl
  rw [hbind, run_of_unregistered hgone]

/-- Events that carry no more results than the array holds are collected, and as
soon as the measurement is completed, its results are reported once, and freed once
after that. The counters agree throughout. -/
theorem run_deliversOnce (sizeof_wifi_rtt_result : Nat) (malloc : Nat → Option (List UInt8)) (id : Int)
    (events : List (Option Place)) (hfew : (events.map resultsOf).sum ≤ MAX_RESULTS) :
    (∀ fault, run sizeof_wifi_rtt_result malloc (.new id) events = .error fault →
        fault = .nullVendorData ∧ none ∈ events) ∧
      ∀ c, run sizeof_wifi_rtt_result malloc (.new id) events = .ok c →
        (∃ copied, DeliversOnce malloc id events c copied) ∧ CountersAgree sizeof_wifi_rtt_result malloc c ∧
          (c.mCompleted ≠ 0 → ∀ later,
            run sizeof_wifi_rtt_result malloc (.new id) (events ++ later) = .ok c) := by
  have hidx : (RttCommand.new id).currentIdx + MAX_RESULTS ≤ MAX_RESULTS := Nat.le_of_eq (Nat.zero_add _)
  refine ⟨fun fault hfault => run_fault_of_carryAtMost rfl hidx rfl (carryAtMost_of_sum hfew) hfault,
    fun c hok => ?_⟩
  obtain ⟨copied, hphase, harrival, hall⟩ := Collecting.run rfl rfl (collecting_new id) hok
  rw [List.nil_append] at hphase
  refine ⟨⟨copied, harrival, hall, hphase.blocks, hphase.log⟩, countersAgree hphase.counters,
    fun hcompleted later => ?_⟩
  cases hphase with
  | collecting hopen hregistered hcollecting => exact absurd hopen hcompleted
  | done hcompleted hgone hcounters hblocks hlog => exact run_append_of_done hok hgone

end

/-- An event with a result and the completion flag. -/
def completingEvent : Place :=
  Attr.encode ⟨0, encodeAll [⟨RTT_ATTRIBUTE_RESULTS_PER_TARGET, Attr.encode ⟨RTT_ATTRIBUTE_RESULT, [7]⟩⟩,
    ⟨RTT_ATTRIBUTE_RESULTS_COMPLETE, [1, 0, 0, 0]⟩]⟩

theorem run_completing_deliversOnce :
    ∃ c, run 128 mallocAll (.new 1) [some completingEvent] = .ok c ∧ c.mCompleted = 1 ∧
      ∃ copied, DeliversOnce mallocAll 1 [some completingEvent] c copied := by
  have hcompleted : (run 128 mallocAll (.new 1) [some completingEvent]).toOption.map mCompleted = some 1 := by
    decide +kernel
  have hdelivers := (run_deliversOnce 128 mallocAll 1 [some completingEvent] (by decide +kernel)).2
  obtain ⟨c, hok, hflag⟩ := Option.map_eq_some_iff.mp hcompleted
  cases hrun : run 128 mallocAll (.new 1) [some completingEvent] with
  | error fault =>
    rw [hrun] at hok
    cases hok
  | ok final =>
    rw [hrun] at hok
    obtain rfl := Option.some.inj hok
    exact ⟨final, rfl, hflag, (hdelivers final hrun).1⟩

end panelli.rtt
