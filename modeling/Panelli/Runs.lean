import Mathlib.Data.List.Basic

namespace panelli.runs

variable {S A : Type} (step : S → A → S)

/-- The state a deterministic system is in after a finite list of actions. -/
def run (start : S) (acts : List A) : S := acts.foldl step start

@[simp] theorem run_nil (start : S) : run step start [] = start := rfl

@[simp] theorem run_cons (start : S) (act : A) (acts : List A) :
    run step start (act :: acts) = run step (step start act) acts := rfl

@[simp] theorem run_append (start : S) (before after : List A) :
    run step start (before ++ after) = run step (run step start before) after :=
  List.foldl_append

/-- `P` holds at the start and after every action of the list. -/
def StatesHold (P : S → Prop) : S → List A → Prop
  | start, [] => P start
  | start, act :: acts => P start ∧ StatesHold P (step start act) acts

/-- Every action of the list is taken in a state where `C` allows it. -/
def StepsHold (C : S → A → Prop) : S → List A → Prop
  | _, [] => True
  | start, act :: acts => C start act ∧ StepsHold C (step start act) acts

instance StepsHold.decidable {C : S → A → Prop} [∀ s a, Decidable (C s a)] :
    ∀ (start : S) (acts : List A), Decidable (StepsHold step C start acts)
  | _, [] => isTrue trivial
  | start, act :: acts =>
    have : Decidable (StepsHold step C (step start act) acts) := StepsHold.decidable (step start act) acts
    inferInstanceAs (Decidable (C start act ∧ StepsHold step C (step start act) acts))

instance StatesHold.decidable {P : S → Prop} [DecidablePred P] :
    ∀ (start : S) (acts : List A), Decidable (StatesHold step P start acts)
  | start, [] => inferInstanceAs (Decidable (P start))
  | start, act :: acts =>
    have : Decidable (StatesHold step P (step start act) acts) := StatesHold.decidable (step start act) acts
    inferInstanceAs (Decidable (P start ∧ StatesHold step P (step start act) acts))

variable {step}

/-- An invariant kept by every action holds after any run. -/
theorem run_induction {I : S → Prop} (hstep : ∀ s a, I s → I (step s a))
    {start : S} (hstart : I start) (acts : List A) : I (run step start acts) := by
  induction acts generalizing start with
  | nil => exact hstart
  | cons act acts ih => exact ih (hstep start act hstart)

/-- Holding throughout a run is holding after each of its prefixes. -/
theorem statesHold_iff_prefixes {P : S → Prop} {start : S} {acts : List A} :
    StatesHold step P start acts ↔ ∀ before, before <+: acts → P (run step start before) := by
  induction acts generalizing start with
  | nil => simp [StatesHold]
  | cons act acts ih =>
    rw [StatesHold, ih]
    constructor
    · rintro ⟨hnow, hlater⟩ before hprefix
      obtain rfl | ⟨rest, rfl, hrest⟩ := List.prefix_cons_iff.mp hprefix
      · exact hnow
      · exact hlater rest hrest
    · intro hall
      refine ⟨hall [] (List.nil_prefix), fun before hprefix => ?_⟩
      exact hall (act :: before) (List.cons_prefix_cons.mpr ⟨rfl, hprefix⟩)

theorem StatesHold.final {P : S → Prop} {start : S} {acts : List A}
    (h : StatesHold step P start acts) : P (run step start acts) :=
  statesHold_iff_prefixes.mp h acts List.prefix_rfl

theorem StatesHold.head {P : S → Prop} {start : S} {acts : List A}
    (h : StatesHold step P start acts) : P start :=
  statesHold_iff_prefixes.mp h [] List.nil_prefix

theorem StatesHold.mono {P Q : S → Prop} (hPQ : ∀ s, P s → Q s) {start : S} {acts : List A}
    (h : StatesHold step P start acts) : StatesHold step Q start acts :=
  statesHold_iff_prefixes.mpr fun before hprefix => hPQ _ (statesHold_iff_prefixes.mp h before hprefix)

/-- What holds throughout a run holds after each of its steps. -/
theorem StatesHold.stepsHold {P : S → Prop} {start : S} {acts : List A}
    (h : StatesHold step P start acts) : StepsHold step (fun s a => P (step s a)) start acts := by
  induction acts generalizing start with
  | nil => trivial
  | cons act acts ih => exact ⟨h.2.head, ih h.2⟩

/-- Actions that may come in any state hold throughout a run. -/
theorem stepsHold_of_forall {C : S → A → Prop} {acts : List A} (hall : ∀ act ∈ acts, ∀ s, C s act) (start : S) :
    StepsHold step C start acts := by
  induction acts generalizing start with
  | nil => trivial
  | cons act acts ih =>
    obtain ⟨hfirst, hrest⟩ := List.forall_mem_cons.mp hall
    exact ⟨hfirst start, ih hrest (step start act)⟩

@[simp] theorem stepsHold_append {C : S → A → Prop} {start : S} {before after : List A} :
    StepsHold step C start (before ++ after) ↔
      StepsHold step C start before ∧ StepsHold step C (run step start before) after := by
  induction before generalizing start with
  | nil => simp [StepsHold]
  | cons act before ih => simp only [List.cons_append, StepsHold, ih, run_cons, and_assoc]

/-- Allowed steps are the conjunction of two conditions exactly when each
condition allows all of them. -/
theorem stepsHold_and {C D : S → A → Prop} {start : S} {acts : List A} :
    StepsHold step (fun s a => C s a ∧ D s a) start acts ↔
      StepsHold step C start acts ∧ StepsHold step D start acts := by
  induction acts generalizing start with
  | nil => simp [StepsHold]
  | cons act acts ih =>
    simp only [StepsHold, ih]
    tauto

/-- An invariant kept by every allowed step holds throughout a run of allowed steps. -/
theorem statesHold_of_stepsHold {I : S → Prop} {C : S → A → Prop}
    (hstep : ∀ s a, I s → C s a → I (step s a)) {start : S} (hstart : I start) {acts : List A}
    (hsteps : StepsHold step C start acts) : StatesHold step I start acts := by
  induction acts generalizing start with
  | nil => exact hstart
  | cons act acts ih => exact ⟨hstart, ih (hstep start act hstart hsteps.1) hsteps.2⟩

/-- When `C` decides, in each good state, whether the next state is good, a
whole run stays good exactly when all of its steps satisfy `C`. The auxiliary
invariant `I` only has to survive steps from good states to good states. -/
theorem statesHold_iff_stepsHold {I P : S → Prop} {C : S → A → Prop}
    (hexact : ∀ s a, I s → P s → (P (step s a) ↔ C s a))
    (hkeep : ∀ s a, I s → P s → P (step s a) → I (step s a))
    {start : S} (hI : I start) (hP : P start) (acts : List A) :
    StatesHold step P start acts ↔ StepsHold step C start acts := by
  induction acts generalizing start with
  | nil => simp [StatesHold, StepsHold, hP]
  | cons act acts ih =>
    rw [StatesHold, StepsHold, ← hexact start act hI hP]
    constructor
    · rintro ⟨_, hrest⟩
      have hnext : P (step start act) := hrest.head
      exact ⟨hnext, (ih (hkeep start act hI hP hnext) hnext).mp hrest⟩
    · rintro ⟨hnext, hrest⟩
      exact ⟨hP, (ih (hkeep start act hI hP hnext) hnext).mpr hrest⟩

/-- The same when the steps themselves are to be good, too. -/
theorem statesHold_and_stepsHold_iff {I P : S → Prop} {Q C : S → A → Prop}
    (hexact : ∀ s a, I s → P s → (P (step s a) ∧ Q s a ↔ C s a)) (hkeep : ∀ s a, I s → I (step s a))
    {start : S} (hI : I start) (hP : P start) (acts : List A) :
    StatesHold step P start acts ∧ StepsHold step Q start acts ↔ StepsHold step C start acts := by
  induction acts generalizing start with
  | nil => simp [StatesHold, StepsHold, hP]
  | cons act acts ih =>
    rw [StatesHold, StepsHold, StepsHold, ← hexact start act hI hP]
    constructor
    · rintro ⟨⟨_, hstates⟩, hgood, hsteps⟩
      exact ⟨⟨hstates.head, hgood⟩, (ih (hkeep start act hI) hstates.head).mp ⟨hstates, hsteps⟩⟩
    · rintro ⟨⟨hnext, hgood⟩, hrest⟩
      obtain ⟨hstates, hsteps⟩ := (ih (hkeep start act hI) hnext).mpr hrest
      exact ⟨⟨hP, hstates⟩, hgood, hsteps⟩

/-- The same for runs of admissible actions, when the good states are those an
invariant implies and `C` decides whether the invariant survives. -/
theorem statesHold_iff_of_admissible {I P : S → Prop} {D C : S → A → Prop} (hgood : ∀ s, I s → P s)
    (hkeep : ∀ s a, I s → D s a → C s a → I (step s a))
    (hfail : ∀ s a, I s → D s a → ¬ C s a → ¬ P (step s a))
    {start : S} (hI : I start) {acts : List A} (hadmissible : StepsHold step D start acts) :
    StatesHold step P start acts ↔ StepsHold step C start acts := by
  induction acts generalizing start with
  | nil => simp [StatesHold, StepsHold, hgood start hI]
  | cons act acts ih =>
    obtain ⟨hD, hrest⟩ := hadmissible
    rw [StatesHold, StepsHold]
    constructor
    · rintro ⟨_, hstates⟩
      have hC : C start act := by
        by_contra hnot
        exact hfail start act hI hD hnot hstates.head
      exact ⟨hC, (ih (hkeep start act hI hD hC) hrest).mp hstates⟩
    · rintro ⟨hC, hsteps⟩
      exact ⟨hgood start hI, (ih (hkeep start act hI hD hC) hrest).mpr hsteps⟩

/-- When a forbidden step leads to a state that no later step repairs, a run
that does not end in such a state takes allowed steps only. -/
theorem stepsHold_of_final {D : S → Prop} {C : S → A → Prop} (hbreak : ∀ s a, ¬ C s a → D (step s a))
    (hkeep : ∀ s a, D s → D (step s a)) {start : S} {acts : List A} (hend : ¬ D (run step start acts)) :
    StepsHold step C start acts := by
  induction acts generalizing start with
  | nil => trivial
  | cons act acts ih =>
    refine ⟨?_, ih hend⟩
    by_contra hnot
    exact hend (run_induction hkeep (hbreak start act hnot) acts)

section

variable {E : Type} {attempt : S → A → Except E S} {start final : S} {act : A} {acts : List A}

/-- A run of fallible actions succeeds when the first one does and so do the others after it. -/
theorem foldlM_cons_eq_ok : (act :: acts).foldlM attempt start = .ok final ↔
    ∃ mid, attempt start act = .ok mid ∧ acts.foldlM attempt mid = .ok final := by
  rw [List.foldlM_cons]
  cases attempt start act with
  | error e => simp [bind, Except.bind]
  | ok mid => simp [bind, Except.bind]

/-- An invariant kept by every successful action holds after a successful run. -/
theorem foldlM_induction {I : S → Prop} (hstep : ∀ s a s', I s → attempt s a = .ok s' → I s')
    (hstart : I start) (hok : acts.foldlM attempt start = .ok final) : I final := by
  induction acts generalizing start with
  | nil =>
    obtain rfl := Except.ok.inj hok
    exact hstart
  | cons act acts ih =>
    obtain ⟨mid, hfirst, hrest⟩ := foldlM_cons_eq_ok.mp hok
    exact ih (hstep start act mid hstart hfirst) hrest

end

section

variable {O : Type} {attempt : S → A → Option S} {observe : S → O} {start final : S} {acts : List A}

/-- A part of the state that every successful action changes as `next` says is changed so by a run. -/
theorem observe_of_foldlM_eq_some {next : O → A → O}
    (hstep : ∀ s a s', attempt s a = some s' → observe s' = next (observe s) a)
    (hrun : acts.foldlM attempt start = some final) : observe final = run next (observe start) acts := by
  induction acts generalizing start with
  | nil =>
    obtain rfl := Option.some.inj hrun
    rfl
  | cons act acts ih =>
    rw [List.foldlM_cons] at hrun
    obtain ⟨mid, hfirst, hrest⟩ := Option.bind_eq_some_iff.mp hrun
    rw [run_cons, ← hstep start act mid hfirst]
    exact ih hrest

/-- A part of the state that may be missing, and then stays so. -/
theorem run_option_map {next : O → A → O} (o : Option O) (acts : List A) :
    run (fun o act => o.map (next · act)) o acts = o.map (run next · acts) := by
  induction acts generalizing o with
  | nil => exact Option.map_id_apply.symm
  | cons act acts ih =>
    rw [run_cons, ih, Option.map_map]
    rfl

/-- A part of the state that actions either set or keep is as the last action left it that sets it. -/
theorem observe_run (observe : S → O) {I : S → Prop} {sets : A → Option O} (hkeep : ∀ s a, I s → I (step s a))
    (hstep : ∀ s a, I s → observe (step s a) = (sets a).getD (observe s)) (hstart : I start) (acts : List A) :
    observe (run step start acts) = (acts.filterMap sets).getLastD (observe start) := by
  induction acts generalizing start with
  | nil => rfl
  | cons act acts ih =>
    rw [run_cons, ih (hkeep start act hstart), hstep start act hstart]
    cases hset : sets act with
    | none => rw [List.filterMap_cons_none hset, Option.getD_none]
    | some value => rw [List.filterMap_cons_some hset, List.getLastD_cons, Option.getD_some]

end

/-- A list of steps each of which just has a value has these values. -/
theorem mapM_eq_pure_map {M : Type → Type} [Monad M] [LawfulMonad M] {B : Type} {attempt : A → M B}
    {value : A → B} {acts : List A} (hall : ∀ act ∈ acts, attempt act = pure (value act)) :
    acts.mapM attempt = pure (acts.map value) := by
  induction acts with
  | nil => exact List.mapM_nil
  | cons act acts ih =>
    have hfirst := hall act List.mem_cons_self
    have hrest := ih fun other hother => hall other (List.mem_cons_of_mem _ hother)
    rw [List.mapM_cons, hfirst, hrest, pure_bind, pure_bind, List.map_cons]

section

variable {E B : Type} {attempt : A → Except E B} {acts : List A}

/-- Each step of a list that succeeds does. -/
theorem ok_of_mapM_eq_ok {results : List B} (hok : acts.mapM attempt = .ok results) :
    ∀ act ∈ acts, ∃ result, attempt act = .ok result := by
  induction acts generalizing results with
  | nil => simp
  | cons act acts ih =>
    rw [List.mapM_cons] at hok
    cases hfirst : attempt act with
    | error e =>
      rw [hfirst] at hok
      cases hok
    | ok result =>
      cases hrest : acts.mapM attempt with
      | error e =>
        rw [hfirst, hrest] at hok
        cases hok
      | ok rest =>
        intro other hother
        obtain rfl | hother := List.mem_cons.mp hother
        · exact ⟨result, hfirst⟩
        · exact ih hrest other hother

end

section

variable {T O : Type}

/-- The outputs of a system that answers each action, and the state it ends in. -/
def answers (answer : S → A → O × S) : S → List A → List O × S
  | start, [] => ([], start)
  | start, act :: acts =>
    let (out, next) := answer start act
    let (outs, final) := answers answer next acts
    (out :: outs, final)

variable {answer : S → A → O × S} {answer' : T → A → O × T}

/-- A relation that each action keeps, with the same answer on both sides, is one between
the ends of any run, and all answers are the same. -/
theorem answers_simulation {R : S → T → Prop}
    (hstep : ∀ s t act, R s t → (answer s act).1 = (answer' t act).1 ∧ R (answer s act).2 (answer' t act).2)
    {start : S} {start' : T} (hstart : R start start') (acts : List A) :
    (answers answer start acts).1 = (answers answer' start' acts).1 ∧
      R (answers answer start acts).2 (answers answer' start' acts).2 := by
  induction acts generalizing start start' with
  | nil => exact ⟨rfl, hstart⟩
  | cons act acts ih =>
    obtain ⟨hout, hnext⟩ := hstep start start' act hstart
    obtain ⟨houts, hfinal⟩ := ih hnext
    refine ⟨?_, hfinal⟩
    rw [answers, answers]
    simp only [hout, houts]

end

end panelli.runs
