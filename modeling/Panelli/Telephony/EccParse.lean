import Panelli.Table
import Panelli.Telephony.Conditions

open panelli.java panelli.table

namespace panelli.telephony

def ECC_ENTRY_TAG : JString := "EccEntry".toList

def ECC_ATTR : JString := "Ecc".toList

def CATEGORY_ATTR : JString := "Category".toList

def CONDITION_ATTR : JString := "Condition".toList

/-- What the parser finds in the file, tags with their attributes. -/
inductive XmlEvent where
  | START_TAG (name : JString) (attributes : List (JString × JString))
  | END_TAG (name : JString)
  | other
deriving DecidableEq

/-- What the platform makes of the file: the parser, which may be null, what opening and
closing the file throws, and the events up to the end of the document or to what is
thrown instead of another one. -/
structure EccFile (ε : Type) where
  newPullParser : Except ε Bool
  setInput : Except ε Unit
  events : List XmlEvent
  next : Except ε Unit
  close : Except ε Unit

def EccEntry.setAttribute (record : EccEntry) (attr : JString × JString) : EccEntry :=
  if attr.1 = ECC_ATTR then { record with mEcc := attr.2 }
  else if attr.1 = CATEGORY_ATTR then { record with mCategory := attr.2 }
  else if attr.1 = CONDITION_ATTR then { record with mCondition := attr.2 }
  else record

/-- One turn of the loop over the events. The record stays when it is added. -/
def parseEvent (state : List EccEntry × Option EccEntry) : XmlEvent → List EccEntry × Option EccEntry
  | .START_TAG name attributes =>
    if name = ECC_ENTRY_TAG then (state.1, some (attributes.foldl EccEntry.setAttribute ⟨[], [], []⟩)) else state
  | .END_TAG name => if name = ECC_ENTRY_TAG then (state.1 ++ state.2.toList, state.2) else state
  | .other => state

def emergencyCTAList : List JString := ["120".toList, "122".toList, "110".toList, "119".toList]

def ctaRecord (emergencyNum : JString) : EccEntry := ⟨emergencyNum, ['0'], ECC_FOR_MMI⟩

/-- The record takes the place of the first entry for its number, or is added. -/
def overlayNumber (table : List EccEntry) (emergencyNum : JString) : List EccEntry :=
  match table.findIdx? fun eccEntry => eccEntry.mEcc = emergencyNum with
  | some nIndex => table.set nIndex (ctaRecord emergencyNum)
  | none => table ++ [ctaRecord emergencyNum]

section

variable {ε : Type}

/-- The `try` block of `parseEccList`. -/
def tryParse (sIsCtaSet : Bool) (file : EccFile ε) : EStateM ε (List EccEntry) Unit := do
  if ← MonadExcept.ofExcept file.newPullParser then
    MonadExcept.ofExcept file.setInput
    modify fun table => (file.events.foldl parseEvent (table, none)).1
    MonadExcept.ofExcept file.next
    MonadExcept.ofExcept file.close
    if sIsCtaSet then
      modify fun table => emergencyCTAList.foldl overlayNumber table

/-- The parse of the file. What is thrown is only printed. -/
def parseEccList (sIsCtaSet : Bool) (file : EccFile ε) : EStateM ε (List EccEntry) Unit := do
  set ([] : List EccEntry)
  tryCatch (tryParse sIsCtaSet file) fun _ => pure ()

/-- The static initialisation of `MtkEccList`. -/
def staticInit (props : Properties) (file : EccFile ε) : EStateM ε (List EccEntry) Unit :=
  parseEccList (['1'] == props "ro.mtk_cta_set") file

end

/-- The entry that a tag opens. -/
def XmlEvent.entry : XmlEvent → Option EccEntry
  | .START_TAG name attributes =>
    if name = ECC_ENTRY_TAG then some (attributes.foldl EccEntry.setAttribute ⟨[], [], []⟩) else none
  | _ => none

/-- The entry that was opened last. -/
def openEntry (events : List XmlEvent) : Option EccEntry := events.reverse.findSome? XmlEvent.entry

/-- The entries of a file, in the order of the tags that end them. -/
def parsedEntries (events : List XmlEvent) : List EccEntry :=
  (List.range events.length).filterMap fun i =>
    if events[i]? = some (.END_TAG ECC_ENTRY_TAG) then openEntry (events.take i) else none

/-- The entries that are parsed of a file: none if it cannot be opened. -/
def EccFile.parsed {ε : Type} (file : EccFile ε) : List EccEntry :=
  match file.newPullParser, file.setInput with
  | .ok true, .ok () => parsedEntries file.events
  | _, _ => []

/-- The file is there, and it is read to the end of the document and closed. -/
structure EccFile.Completes {ε : Type} (file : EccFile ε) : Prop where
  newPullParser : file.newPullParser = .ok true
  setInput : file.setInput = .ok ()
  next : file.next = .ok ()
  close : file.close = .ok ()

/-- The first entry for each of the numbers is as it is to be. -/
def CtaFirst (table : List EccEntry) : Prop :=
  ∀ emergencyNum ∈ emergencyCTAList, ∃ eccEntry, table.find? (·.mEcc = emergencyNum) = some eccEntry ∧
    eccEntry.mCategory = ['0'] ∧ eccEntry.mCondition = ECC_FOR_MMI

/-- The numbers are in the table as they are to be, and so are the entries for others. -/
structure CtaOverlaid (parsed table : List EccEntry) : Prop where
  first : CtaFirst table
  others : table.filter (·.mEcc ∉ emergencyCTAList) = parsed.filter (·.mEcc ∉ emergencyCTAList)

section

variable {ε : Type} {file : EccFile ε} {table : List EccEntry} {sIsCtaSet : Bool}

theorem openEntry_concat (events : List XmlEvent) (event : XmlEvent) :
    openEntry (events ++ [event]) = event.entry.or (openEntry events) := by
  rw [openEntry, List.reverse_append, List.reverse_singleton, List.singleton_append, List.findSome?_cons]
  cases event.entry <;> rfl

theorem parsedEntries_concat (events : List XmlEvent) (event : XmlEvent) :
    parsedEntries (events ++ [event]) = parsedEntries events ++
      if event = .END_TAG ECC_ENTRY_TAG then (openEntry events).toList else [] := by
  have hbefore : ∀ i ∈ List.range events.length,
      (if (events ++ [event])[i]? = some (.END_TAG ECC_ENTRY_TAG) then
        openEntry ((events ++ [event]).take i) else none) =
      if events[i]? = some (.END_TAG ECC_ENTRY_TAG) then openEntry (events.take i) else none := by
    intro i hi
    have hlt := List.mem_range.mp hi
    rw [List.getElem?_append_left hlt, List.take_append_of_le_length (Nat.le_of_lt hlt)]
  rw [parsedEntries, List.length_append, List.length_singleton, List.range_succ, List.filterMap_append,
    List.filterMap_congr hbefore]
  congr 1
  simp only [List.filterMap_cons, List.filterMap_nil, List.getElem?_concat_length, List.take_left,
    Option.some.injEq]
  split_ifs with hend
  · cases openEntry events <;> rfl
  · rfl

/-- The loop adds the entries of the file to the table. -/
theorem foldl_parseEvent (events : List XmlEvent) :
    events.foldl parseEvent ([], none) = (parsedEntries events, openEntry events) := by
  induction events using List.reverseRecOn with
  | nil => rfl
  | append_singleton events event ih =>
    rw [List.foldl_append, ih, List.foldl_cons, List.foldl_nil, parsedEntries_concat, openEntry_concat]
    cases event with
    | START_TAG name attributes =>
      by_cases hname : name = ECC_ENTRY_TAG
      · simp [parseEvent, XmlEvent.entry, hname]
      · simp [parseEvent, XmlEvent.entry, hname]
    | END_TAG name =>
      by_cases hname : name = ECC_ENTRY_TAG
      · simp [parseEvent, XmlEvent.entry, hname]
      · simp [parseEvent, XmlEvent.entry, hname]
    | other => simp [parseEvent, XmlEvent.entry]

theorem overlayNumber_eq_putKey (table : List EccEntry) (emergencyNum : JString) :
    overlayNumber table emergencyNum = putKey EccEntry.mEcc (ctaRecord emergencyNum) table := by
  have hput : putKey EccEntry.mEcc (ctaRecord emergencyNum) table =
      ((table.findIdx? fun eccEntry => eccEntry.mEcc = emergencyNum).map fun nIndex =>
        table.set nIndex (ctaRecord emergencyNum)).getD (table ++ [ctaRecord emergencyNum]) :=
    putKey_eq_findIdx? (ctaRecord emergencyNum) table
  rw [hput, overlayNumber]
  cases table.findIdx? fun eccEntry => eccEntry.mEcc = emergencyNum <;> rfl

theorem overlay_eq_foldl_putKey (table : List EccEntry) : emergencyCTAList.foldl overlayNumber table =
    (emergencyCTAList.map ctaRecord).foldl (fun table record => putKey EccEntry.mEcc record table) table := by
  rw [List.foldl_map]
  congr 1
  funext table emergencyNum
  exact overlayNumber_eq_putKey table emergencyNum

/-- The overlay does what it is to do with any table. -/
theorem overlay_ctaOverlaid (table : List EccEntry) :
    CtaOverlaid table (emergencyCTAList.foldl overlayNumber table) := by
  rw [overlay_eq_foldl_putKey]
  constructor
  · intro emergencyNum hnum
    have hrecord := List.mem_map_of_mem (f := ctaRecord) hnum
    have hkeys : ((emergencyCTAList.map ctaRecord).map EccEntry.mEcc).Nodup := by decide
    exact ⟨ctaRecord emergencyNum, find?_foldl_putKey hkeys hrecord, rfl, rfl⟩
  · have hothers := @filter_foldl_putKey EccEntry JString _ EccEntry.mEcc
      (fun emergencyNum => emergencyNum ∉ emergencyCTAList) (emergencyCTAList.map ctaRecord) (by decide) table
    exact hothers

/-- A parse that completes is followed by the overlay. -/
theorem tryParse_of_completes (hcompletes : file.Completes) :
    tryParse true file [] = .ok () (emergencyCTAList.foldl overlayNumber file.parsed) := by
  obtain ⟨hparser, hinput, hnext, hclose⟩ := hcompletes
  have hparsed : file.parsed = (file.events.foldl parseEvent ([], none)).1 := by
    rw [foldl_parseEvent, EccFile.parsed, hparser, hinput]
  rw [tryParse, hparser, hinput, hnext, hclose, hparsed]
  rfl

/-- One that does not leaves what was parsed so far. -/
theorem tryParse_of_not_completes (hfails : ¬ file.Completes) :
    tryParse sIsCtaSet file [] = .ok () file.parsed ∨
      ∃ thrown, tryParse sIsCtaSet file [] = .error thrown file.parsed := by
  obtain ⟨parser, input, events, next, close⟩ := file
  have hparsed := congrArg Prod.fst (foldl_parseEvent events)
  dsimp only at hparsed
  match parser, input, next, close with
  | .error thrown, _, _, _ => exact Or.inr ⟨thrown, rfl⟩
  | .ok false, _, _, _ => exact Or.inl rfl
  | .ok true, .error thrown, _, _ => exact Or.inr ⟨thrown, rfl⟩
  | .ok true, .ok (), .error thrown, _ => exact Or.inr ⟨thrown, congrArg (EStateM.Result.error thrown) hparsed⟩
  | .ok true, .ok (), .ok (), .error thrown =>
    exact Or.inr ⟨thrown, congrArg (EStateM.Result.error thrown) hparsed⟩
  | .ok true, .ok (), .ok (), .ok () => exact absurd ⟨rfl, rfl, rfl, rfl⟩ hfails

theorem parseEccList_of_completes (hcompletes : file.Completes) :
    parseEccList true file table = .ok () (emergencyCTAList.foldl overlayNumber file.parsed) := by
  have hclear : (set ([] : List EccEntry) : EStateM ε (List EccEntry) PUnit) table = .ok .unit [] := rfl
  exact (bind_of_ok hclear).trans (tryCatch_of_ok (tryParse_of_completes hcompletes))

theorem parseEccList_of_not_completes (hfails : ¬ file.Completes) :
    parseEccList sIsCtaSet file table = .ok () file.parsed := by
  have hclear : (set ([] : List EccEntry) : EStateM ε (List EccEntry) PUnit) table = .ok .unit [] := rfl
  apply (bind_of_ok hclear).trans
  obtain hok | ⟨thrown, herror⟩ := @tryParse_of_not_completes ε file sIsCtaSet hfails
  · exact tryCatch_of_ok hok
  · exact tryCatch_of_error herror

end

/-- With the set for CTA, the numbers are in the table as they are to be exactly if the
parse completes or the entries before its end have them as they are to be. -/
theorem staticInit_ctaOverlaid_iff {ε : Type} {props : Properties} (hset : props "ro.mtk_cta_set" = ['1'])
    (file : EccFile ε) : (∃ table, staticInit props file [] = .ok () table ∧ CtaOverlaid file.parsed table) ↔
      file.Completes ∨ CtaFirst file.parsed := by
  rw [staticInit, hset]
  by_cases hcompletes : file.Completes
  · refine ⟨fun _ => Or.inl hcompletes, fun _ => ?_⟩
    exact ⟨_, parseEccList_of_completes hcompletes, overlay_ctaOverlaid _⟩
  · constructor
    · rintro ⟨table, hinit, hoverlaid⟩
      cases (parseEccList_of_not_completes hcompletes).symm.trans hinit
      exact Or.inr hoverlaid.first
    · rintro (habsurd | hfirst)
      · exact absurd habsurd hcompletes
      · exact ⟨_, parseEccList_of_not_completes hcompletes, hfirst, rfl⟩

/-- The properties of a phone for CTA. -/
def ctaProperties : Properties := Function.update (fun _ => []) "ro.mtk_cta_set" ['1']

/-- A file with an entry for 112 and one for 120. -/
def sampleFile : EccFile Throwable where
  newPullParser := .ok true
  setInput := .ok ()
  events := [
    .START_TAG ECC_ENTRY_TAG [(ECC_ATTR, "112".toList), (CATEGORY_ATTR, ['0']), (CONDITION_ATTR, ['1'])],
    .END_TAG ECC_ENTRY_TAG, .other,
    .START_TAG ECC_ENTRY_TAG [(ECC_ATTR, "120".toList), (CATEGORY_ATTR, ['4']), (CONDITION_ATTR, ['0'])],
    .END_TAG ECC_ENTRY_TAG]
  next := .ok ()
  close := .ok ()

theorem sampleFile_ctaOverlaid : ∃ table, staticInit ctaProperties sampleFile [] = .ok () table ∧
    CtaOverlaid sampleFile.parsed table :=
  (staticInit_ctaOverlaid_iff rfl sampleFile).mpr (Or.inl ⟨rfl, rfl, rfl, rfl⟩)

/-- The same file when it is missing. -/
def missingFile : EccFile Throwable := { sampleFile with setInput := .error .RuntimeException }

/-- Without a file, the table stays empty. -/
theorem missingFile_not_ctaOverlaid : staticInit ctaProperties missingFile [] = .ok () [] ∧
    ¬ ∃ table, staticInit ctaProperties missingFile [] = .ok () table ∧ CtaOverlaid missingFile.parsed table := by
  refine ⟨rfl, ?_⟩
  rintro ⟨table, hinit, hoverlaid⟩
  obtain rfl : [] = table := (EStateM.Result.ok.inj hinit).2
  obtain ⟨eccEntry, hfind, _⟩ := hoverlaid.first "120".toList (by decide)
  cases hfind

end panelli.telephony
