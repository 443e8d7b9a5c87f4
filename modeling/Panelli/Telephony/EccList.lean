import Panelli.Java
import Mathlib.Logic.Function.Basic

open panelli.java

namespace panelli.telephony

/-- A row of the customised emergency number table. -/
structure EccEntry where
  mEcc : JString
  mCategory : JString
  mCondition : JString
deriving DecidableEq

def ECC_NO_SIM : JString := ['0']

/-- The system properties. One that was never set reads as the empty string. -/
abbrev Properties : Type := String → JString

/-- `SystemProperties.set`, which refuses the values `accepts` rejects. -/
def Properties.set (accepts : JString → Bool) (key : String) (value : JString) :
    EStateM Throwable Properties Unit := fun props =>
  if accepts value then .ok () (Function.update props key value) else .error .IllegalArgumentException props

/-- A limit on the length of a value, as the platform has one. -/
def fitsProperty (value : JString) : Bool := value.length ≤ 91

/-- The comparison every scan makes: the listed number, with or without a plus. -/
def eccMatches (emergencyNum number : JString) : Bool :=
  emergencyNum == number || emergencyNum ++ ['+'] == number

/-- `HashMap.put`. -/
def put (map : List (JString × Int)) (key : JString) (value : Int) : List (JString × Int) :=
  if map.any (·.1 == key) then map.map fun entry => if entry.1 == key then (key, value) else entry
  else map ++ [(key, value)]

/-- One element of the network list: a number and its category. Others are skipped. -/
def putNetworkEcc (map : List (JString × Int)) (strEccCategory : JString) :
    Except Throwable (List (JString × Int)) :=
  if strEccCategory.isEmpty then pure map
  else match split ',' strEccCategory with
    | [number, category] => do return put map number (← parseInt category)
    | _ => pure map

/-- The map `mHashMapForNetworkEccCategory` rebuilt from its property. -/
def networkEccCategory (strEccCategoryList : JString) : Except Throwable (List (JString × Int)) :=
  if strEccCategoryList.isEmpty then pure []
  else (split ';' strEccCategoryList).foldlM putNetworkEcc []

/-- The scan of one SIM list. -/
def simListMatches (numbers number : JString) : Bool :=
  !numbers.isEmpty && (split ',' numbers).any (eccMatches · number)

/-- The scan of the customised table. -/
def customizedMatches (mCustomizedEccList : List EccEntry) (bSIMInserted : Bool) (number : JString) : Bool :=
  if bSIMInserted then
    mCustomizedEccList.any fun eccEntry =>
      eccEntry.mCondition != ECC_NO_SIM && eccMatches eccEntry.mEcc number
  else mCustomizedEccList.any fun eccEntry => eccMatches eccEntry.mEcc number

/-- Whether a number is an emergency number. The stripping of its separators is
the platform's. -/
def isEmergencyNumberExt (extractNetworkPortionAlt : JString → JString) (mCustomizedEccList : List EccEntry)
    (props : Properties) (number : Option JString) : Except Throwable Bool :=
  match number with
  | none => pure false
  | some number => do
    let number := extractNetworkPortionAlt number
    let network ← networkEccCategory (props "ril.ecc.service.category.list")
    if network.any fun entry => eccMatches entry.1 number then
      return true
    if simListMatches (props "ril.ecclist") number then
      return true
    if simListMatches (props "ril.ecclist1") number then
      return true
    let bSIMInserted := !(props "ril.ecclist").isEmpty || !(props "ril.ecclist1").isEmpty
    return customizedMatches mCustomizedEccList bSIMInserted number

/-- The numbers that are published whether or not a SIM is present. -/
def fixedList (mCustomizedEccList : List EccEntry) : List JString :=
  (mCustomizedEccList.filter (·.mCondition != ECC_NO_SIM)).map EccEntry.mEcc

/-- The numbers that are only published for an empty list. -/
def fixedListNoSim (mCustomizedEccList : List EccEntry) : List JString :=
  (mCustomizedEccList.filter fun eccEntry =>
    eccEntry.mCondition == ECC_NO_SIM && !eccEntry.mEcc.isEmpty).map EccEntry.mEcc

/-- `removeAll` followed by `addAll`. -/
def removeAddAll (l added : List JString) : List JString := l.filter (· ∉ added) ++ added

/-- The list published for a SIM whose property was `numbers`. -/
def simList (mCustomizedEccList : List EccEntry) (numbers : JString) : List JString :=
  let simList := (split ',' numbers).filter (!·.isEmpty)
  let simList := removeAddAll simList (fixedList mCustomizedEccList)
  if numbers.isEmpty then removeAddAll simList (fixedListNoSim mCustomizedEccList) else simList

/-- The value published for the SIM of a property. -/
def Properties.listFor (props : Properties) (mCustomizedEccList : List EccEntry) (key : String) : JString :=
  join ',' (simList mCustomizedEccList (props key))

/-- The part of the update that is made for each SIM. -/
def publishSimList (accepts : JString → Bool) (mCustomizedEccList : List EccEntry) (key : String) :
    EStateM Throwable Properties Unit := do
  let props ← get
  Properties.set accepts key (props.listFor mCustomizedEccList key)

def updateEmergencyNumbersProperty (accepts : JString → Bool) (mCustomizedEccList : List EccEntry) :
    EStateM Throwable Properties Unit := do
  publishSimList accepts mCustomizedEccList "ril.ecclist"
  publishSimList accepts mCustomizedEccList "ril.ecclist1"

/-- Both lists of the update are accepted as property values. -/
def Properties.Publishable (props : Properties) (accepts : JString → Bool)
    (mCustomizedEccList : List EccEntry) : Prop :=
  accepts (props.listFor mCustomizedEccList "ril.ecclist") ∧
    accepts (props.listFor mCustomizedEccList "ril.ecclist1")

instance (props : Properties) (accepts : JString → Bool) (mCustomizedEccList : List EccEntry) :
    Decidable (props.Publishable accepts mCustomizedEccList) := inferInstanceAs (Decidable (_ ∧ _))

/-- The properties after both SIM lists were published. -/
def Properties.published (props : Properties) (mCustomizedEccList : List EccEntry) : Properties :=
  Function.update (Function.update props "ril.ecclist" (props.listFor mCustomizedEccList "ril.ecclist"))
    "ril.ecclist1" (props.listFor mCustomizedEccList "ril.ecclist1")

section

variable {accepts : JString → Bool} {mCustomizedEccList : List EccEntry} {props : Properties} {key : String}

theorem publishSimList_of_accepts (haccepts : accepts (props.listFor mCustomizedEccList key)) :
    publishSimList accepts mCustomizedEccList key props =
      .ok () (Function.update props key (props.listFor mCustomizedEccList key)) :=
  if_pos haccepts

theorem publishSimList_of_refused (hrefused : ¬ accepts (props.listFor mCustomizedEccList key)) :
    publishSimList accepts mCustomizedEccList key props = .error .IllegalArgumentException props :=
  if_neg hrefused

/-- Publishing for the first SIM does not change what is published for the second. -/
theorem listFor_update_of_ne {key' : String} {value : JString} (hne : key' ≠ key) :
    Properties.listFor (Function.update props key value) mCustomizedEccList key' =
      props.listFor mCustomizedEccList key' := by
  rw [Properties.listFor, Properties.listFor, Function.update_of_ne hne]

/-- The update publishes both lists when both are accepted. -/
theorem updateEmergencyNumbersProperty_of_publishable
    (hpublishable : props.Publishable accepts mCustomizedEccList) :
    updateEmergencyNumbersProperty accepts mCustomizedEccList props =
      .ok () (props.published mCustomizedEccList) := by
  have hsecond := @listFor_update_of_ne mCustomizedEccList props "ril.ecclist" "ril.ecclist1"
    (props.listFor mCustomizedEccList "ril.ecclist") (by decide)
  apply (bind_of_ok (publishSimList_of_accepts hpublishable.1)).trans
  rw [publishSimList_of_accepts (hsecond ▸ hpublishable.2), hsecond]
  rfl

/-- Otherwise it throws, with the first list published if that one was accepted. -/
theorem updateEmergencyNumbersProperty_of_not_publishable
    (hrefused : ¬ props.Publishable accepts mCustomizedEccList) :
    ∃ props', updateEmergencyNumbersProperty accepts mCustomizedEccList props =
      .error .IllegalArgumentException props' := by
  by_cases hfirst : accepts (props.listFor mCustomizedEccList "ril.ecclist")
  · have hsecond : ¬ accepts (props.listFor mCustomizedEccList "ril.ecclist1") := fun h => hrefused ⟨hfirst, h⟩
    rw [← @listFor_update_of_ne mCustomizedEccList props "ril.ecclist" "ril.ecclist1"
      (props.listFor mCustomizedEccList "ril.ecclist") (by decide)] at hsecond
    exact ⟨_, (bind_of_ok (publishSimList_of_accepts hfirst)).trans (publishSimList_of_refused hsecond)⟩
  · exact ⟨props, bind_of_error (publishSimList_of_refused hfirst)⟩

end

end panelli.telephony
