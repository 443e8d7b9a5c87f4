import Panelli.Telephony.EccUpdate
import Panelli.Telephony.Ril

open panelli.java

namespace panelli.telephony

/-- The category the network list or the customised table gives a number. The
network entries are those of `mHashMapForNetworkEccCategory` in the order its
`keySet` yields them. -/
def getServiceCategoryFromEcc (mCustomizedEccList : List EccEntry) (network : List (JString × Int))
    (number : JString) : Except Throwable Int :=
  match network.find? fun entry => eccMatches entry.1 number with
  | some entry => pure entry.2
  | none =>
    match mCustomizedEccList.find? fun eccEntry => eccMatches eccEntry.mEcc number with
    | some eccEntry => parseInt eccEntry.mCategory
    | none => pure 0

structure UUSInfo where
  uusType : Int
  uusDcs : Int
  uusData : List UInt8
deriving DecidableEq

/-- What `dial` does with an address: send requests, or leave it to the superclass. -/
inductive Dialled where
  | emergency (requests : List RILRequest)
  | superDial
deriving DecidableEq

/-- The user-to-user information as `dial` writes it. -/
def writeUusInfo : Option UUSInfo → List ParcelValue
  | none => [.writeInt 0]
  | some uusInfo =>
    [.writeInt 1, .writeInt uusInfo.uusType, .writeInt uusInfo.uusDcs, .writeByteArray uusInfo.uusData]

/-- The two requests of an emergency call, with the serials from `sSerial` on. -/
def emergencyRequests (sSerial : Int) (serviceCategory : Int) (address : JString) (clirMode : Int)
    (uusInfo : Option UUSInfo) (result : Option Message) : List RILRequest :=
  [⟨sSerial, .RIL_REQUEST_SET_ECC_SERVICE_CATEGORY, none, [.writeInt 1, .writeInt serviceCategory]⟩,
    ⟨sSerial + 1, .RIL_REQUEST_EMERGENCY_DIAL, result,
      [.writeString (some address), .writeInt clirMode, .writeInt 0] ++ writeUusInfo uusInfo⟩]

/-- A null address is not an emergency number. -/
def dial (extractNetworkPortionAlt : JString → JString)
    (keySet : List (JString × Int) → List (JString × Int)) (mCustomizedEccList : List EccEntry)
    (props : Properties) (sSerial : Int) (address : Option JString) (clirMode : Int)
    (uusInfo : Option UUSInfo) (result : Option Message) : Except Throwable Dialled :=
  match address with
  | none => pure .superDial
  | some address => do
    if ← isEmergencyNumberExt extractNetworkPortionAlt mCustomizedEccList props (some address) then
      let network ← networkEccCategory (props "ril.ecc.service.category.list")
      let serviceCategory ← getServiceCategoryFromEcc mCustomizedEccList (keySet network) address
      return .emergency (emergencyRequests sSerial serviceCategory address clirMode uusInfo result)
    else
      return .superDial

/-- The category a list of requests sets. -/
def sentCategory (requests : List RILRequest) : Option Int :=
  requests.findSome? fun rr =>
    match rr.mRequest, rr.mParcel with
    | .RIL_REQUEST_SET_ECC_SERVICE_CATEGORY, [.writeInt _, .writeInt serviceCategory] => some serviceCategory
    | _, _ => none

@[simp] theorem sentCategory_emergencyRequests (sSerial serviceCategory : Int) (address : JString)
    (clirMode : Int) (uusInfo : Option UUSInfo) (result : Option Message) :
    sentCategory (emergencyRequests sSerial serviceCategory address clirMode uusInfo result) =
      some serviceCategory := rfl

/-- The category belongs to the number: a network entry for the number has it; or,
with no network entry for the number, the first table entry for it has; or it is
zero and nothing is listed for the number. -/
def BelongsTo (table : List EccEntry) (network : List (JString × Int)) (n : JString) (category : Int) : Prop :=
  (∃ entry ∈ network, eccMatches entry.1 n ∧ entry.2 = category) ∨
    ((∀ entry ∈ network, ¬ eccMatches entry.1 n) ∧
      (match table.find? fun eccEntry => eccMatches eccEntry.mEcc n with
        | some eccEntry => parseInt eccEntry.mCategory = .ok category
        | none => category = 0))

/-- The first entry the unstripped address matches has a category of the number. -/
def SpellingKeepsCategory (table : List EccEntry) (network : List (JString × Int)) (address n : JString) : Prop :=
  match network.find? fun entry => eccMatches entry.1 address with
  | some entry => BelongsTo table network n entry.2
  | none =>
    match table.find? fun eccEntry => eccMatches eccEntry.mEcc address with
    | some eccEntry => ∃ category, parseInt eccEntry.mCategory = .ok category ∧ BelongsTo table network n category
    | none => BelongsTo table network n 0

section

variable {table : List EccEntry} {network keys : List (JString × Int)} {address n : JString}

/-- Where stripping changes no listed number, an address it does change is sent
with category zero, whatever number it is. -/
theorem spellingKeepsCategory_iff_of_stripped {extractNetworkPortionAlt : JString → JString}
    (hnetwork : ∀ entry ∈ keys, ∀ x, eccMatches entry.1 x → extractNetworkPortionAlt x = x)
    (htable : ∀ eccEntry ∈ table, ∀ x, eccMatches eccEntry.mEcc x → extractNetworkPortionAlt x = x)
    (hchanged : extractNetworkPortionAlt address ≠ address) :
    SpellingKeepsCategory table keys address n ↔ BelongsTo table keys n 0 := by
  have hnoNetwork : keys.find? (fun entry => eccMatches entry.1 address) = none :=
    List.find?_eq_none.mpr fun entry hmem hmatches => hchanged (hnetwork entry hmem address hmatches)
  have hnoTable : table.find? (fun eccEntry => eccMatches eccEntry.mEcc address) = none :=
    List.find?_eq_none.mpr fun eccEntry hmem hmatches => hchanged (htable eccEntry hmem address hmatches)
  simp only [SpellingKeepsCategory, hnoNetwork, hnoTable]

/-- The order of the keys does not matter for what belongs to a number. -/
theorem belongsTo_of_perm {category : Int} (hperm : keys.Perm network) :
    BelongsTo table keys n category ↔ BelongsTo table network n category := by
  simp only [BelongsTo, hperm.mem_iff]

/-- The category looked up for a number belongs to it. -/
theorem getServiceCategoryFromEcc_belongsTo {category : Int}
    (hcategory : getServiceCategoryFromEcc table network n = .ok category) :
    BelongsTo table network n category := by
  unfold getServiceCategoryFromEcc at hcategory
  cases hnetwork : network.find? fun entry => eccMatches entry.1 n with
  | some entry =>
    rw [hnetwork] at hcategory
    have hmatches := List.find?_some hnetwork
    exact Or.inl ⟨entry, List.mem_of_find?_eq_some hnetwork, hmatches, Except.ok.inj hcategory⟩
  | none =>
    rw [hnetwork] at hcategory
    refine Or.inr ⟨List.find?_eq_none.mp hnetwork, ?_⟩
    cases htable : table.find? fun eccEntry => eccMatches eccEntry.mEcc n with
    | some eccEntry =>
      rw [htable] at hcategory
      exact hcategory
    | none =>
      rw [htable] at hcategory
      exact (Except.ok.inj hcategory).symm

/-- The category looked up for one spelling belongs to a number exactly when the
entry that spelling matches keeps the category. -/
theorem getServiceCategoryFromEcc_belongsTo_iff {category : Int}
    (hcategory : getServiceCategoryFromEcc table network address = .ok category) :
    BelongsTo table network n category ↔ SpellingKeepsCategory table network address n := by
  unfold getServiceCategoryFromEcc at hcategory
  unfold SpellingKeepsCategory
  cases hnetwork : network.find? fun entry => eccMatches entry.1 address with
  | some entry =>
    rw [hnetwork] at hcategory
    rw [← Except.ok.inj hcategory]
  | none =>
    rw [hnetwork] at hcategory
    dsimp only at hcategory ⊢
    cases htable : table.find? fun eccEntry => eccMatches eccEntry.mEcc address with
    | some eccEntry =>
      rw [htable] at hcategory
      dsimp only at hcategory ⊢
      simp only [hcategory, Except.ok.injEq, exists_eq_left']
    | none =>
      rw [htable] at hcategory
      rw [← Except.ok.inj hcategory]

/-- The emergency path sends the category looked up for the address as dialled. -/
theorem dial_emergency {extractNetworkPortionAlt : JString → JString}
    {keySet : List (JString × Int) → List (JString × Int)} {props : Properties} {sSerial clirMode : Int}
    {uusInfo : Option UUSInfo} {result : Option Message} {requests : List RILRequest}
    (hnetwork : networkEccCategory (props "ril.ecc.service.category.list") = .ok network)
    (hdial : dial extractNetworkPortionAlt keySet table props sSerial (some address) clirMode uusInfo result =
      .ok (.emergency requests)) :
    ∃ category, getServiceCategoryFromEcc table (keySet network) address = .ok category ∧
      sentCategory requests = some category := by
  cases hcheck : isEmergencyNumberExt extractNetworkPortionAlt table props (some address) with
  | error thrown =>
    simp only [dial, hcheck, bind, Except.bind] at hdial
    cases hdial
  | ok emergency =>
    cases emergency with
    | false =>
      simp only [dial, hcheck, bind, Except.bind] at hdial
      cases hdial
    | true =>
      cases hcategory : getServiceCategoryFromEcc table (keySet network) address with
      | error thrown =>
        simp only [dial, hcheck, hnetwork, hcategory, bind, Except.bind, if_true] at hdial
        cases hdial
      | ok category =>
        simp only [dial, hcheck, hnetwork, hcategory, bind, Except.bind, if_true, pure, Except.pure] at hdial
        cases hdial
        exact ⟨category, rfl, sentCategory_emergencyRequests _ _ _ _ _ _⟩

/-- On the emergency path the category sent belongs to the stripped number exactly
when stripping changes nothing or the entry the address matches as dialled has
a category of the number. -/
theorem dial_category_belongsTo_iff {extractNetworkPortionAlt : JString → JString}
    {keySet : List (JString × Int) → List (JString × Int)} (hkeySet : ∀ map, (keySet map).Perm map)
    {props : Properties} {sSerial clirMode : Int} {uusInfo : Option UUSInfo} {result : Option Message}
    {requests : List RILRequest}
    (hnetwork : networkEccCategory (props "ril.ecc.service.category.list") = .ok network)
    (hdial : dial extractNetworkPortionAlt keySet table props sSerial (some address) clirMode uusInfo result =
      .ok (.emergency requests)) :
    (∃ category, sentCategory requests = some category ∧
      BelongsTo table network (extractNetworkPortionAlt address) category) ↔
    extractNetworkPortionAlt address = address ∨
      SpellingKeepsCategory table (keySet network) address (extractNetworkPortionAlt address) := by
  obtain ⟨category, hcategory, hsent⟩ := dial_emergency hnetwork hdial
  have hbelongs : (∃ category', sentCategory requests = some category' ∧
      BelongsTo table network (extractNetworkPortionAlt address) category') ↔
        BelongsTo table (keySet network) (extractNetworkPortionAlt address) category := by
    simp only [hsent, Option.some.injEq, exists_eq_left', belongsTo_of_perm (hkeySet network)]
  rw [hbelongs, ← getServiceCategoryFromEcc_belongsTo_iff hcategory]
  refine ⟨Or.inr, ?_⟩
  rintro (hsame | hkeeps)
  · rw [hsame]
    exact getServiceCategoryFromEcc_belongsTo hcategory
  · exact hkeeps

end

/-- A table whose only entry has a category. -/
def policeTable : List EccEntry := [⟨['1', '1', '0'], ['1'], ['1']⟩]

/-- Stripping that only drops dashes and blanks. -/
def stripDashes (number : JString) : JString := number.filter fun c => c != '-' && c != ' '

theorem plain_110_category : ∃ category,
    sentCategory (emergencyRequests 0 1 ['1', '1', '0'] 0 none none) = some category ∧
      BelongsTo policeTable [] (stripDashes ['1', '1', '0']) category :=
  (@dial_category_belongsTo_iff policeTable [] ['1', '1', '0'] stripDashes id (fun _ => List.Perm.refl _)
    (fun _ => []) 0 0 none none _ rfl (by decide +kernel)).mpr (Or.inl rfl)

/-- The address 1-10 is recognised as 110 and sent with category zero. -/
theorem dashed_110_category : ¬ ∀ keySet : List (JString × Int) → List (JString × Int),
    (∀ map, (keySet map).Perm map) → ∀ table props sSerial address clirMode uusInfo result network requests,
      networkEccCategory (props "ril.ecc.service.category.list") = .ok network →
      dial stripDashes keySet table props sSerial (some address) clirMode uusInfo result =
        .ok (.emergency requests) →
      ∃ category, sentCategory requests = some category ∧
        BelongsTo table network (stripDashes address) category := by
  intro hall
  obtain ⟨category, hsent, hbelongs⟩ := hall id (fun _ => List.Perm.refl _) policeTable (fun _ => [])
    0 ['1', '-', '1', '0'] 0 none none [] (emergencyRequests 0 0 ['1', '-', '1', '0'] 0 none none) rfl
    (by decide +kernel)
  obtain rfl : 0 = category := Option.some.inj hsent
  obtain ⟨entry, hentry, _⟩ | ⟨_, hcategory⟩ := hbelongs
  · exact List.not_mem_nil hentry
  · have hzero : parseInt ['1'] = .ok 0 := hcategory
    revert hzero
    decide +kernel

end panelli.telephony
