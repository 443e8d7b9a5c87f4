import Panelli.Access

open panelli.access

namespace panelli.wpa_supplicant

def ENOBUFS : Int := 105

def NL80211_TESTMODE_STATISTICS : Nat := 0x10

/-- What a test mode message meets: whether it can be allocated, whether so many bytes can be put
into it, and the result of sending its data, with the payloads of the replies. -/
structure Nl80211 (α : Type) where
  nlmsg_alloc : Bool
  puts : Nat → Bool
  send_and_recv_msgs : α → Int × List (List UInt8)

/-- What comes of a test mode message: its result, the replies and whether the handler of the
statistics gets them, what was sent, and the ranges of the data that were read. -/
structure Testmode (α : Type) where
  ret : Int
  replies : List (List UInt8)
  statistics : Bool
  sent : List α
  reads : List Range

variable {α : Type}

def wpa_driver_nl80211_testmode (nl80211 : Nl80211 α) (index data_len : Nat) (data : α) : Testmode α :=
  if !nl80211.nlmsg_alloc then ⟨-1, [], false, [], []⟩
  else if !nl80211.puts data_len then ⟨-ENOBUFS, [], false, [], []⟩
  else
    let (ret, replies) := nl80211.send_and_recv_msgs data
    -- the handler of the statistics gets the pointer that the parameters end with
    if index &&& 0xFFFFFF = NL80211_TESTMODE_STATISTICS then
      ⟨ret, replies, true, [data], [⟨0, data_len⟩, ⟨0, 4⟩, ⟨24, 4⟩]⟩
    else ⟨ret, replies, false, [data], [⟨0, data_len⟩, ⟨0, 4⟩]⟩

section

variable {nl80211 : Nl80211 α} {index data_len : Nat} {data : α}

/-- A message that cannot be made reads and sends nothing. -/
theorem testmode_of_not_made (hmade : ¬ (nl80211.nlmsg_alloc = true ∧ nl80211.puts data_len = true)) :
    (wpa_driver_nl80211_testmode nl80211 index data_len data).ret < 0 ∧
      (wpa_driver_nl80211_testmode nl80211 index data_len data).sent = [] ∧
        (wpa_driver_nl80211_testmode nl80211 index data_len data).reads = [] := by
  unfold wpa_driver_nl80211_testmode
  cases halloc : nl80211.nlmsg_alloc with
  | false => exact ⟨(by decide : (-1 : Int) < 0), rfl, rfl⟩
  | true =>
    have hputs : nl80211.puts data_len = false := Bool.eq_false_iff.mpr fun h => hmade ⟨halloc, h⟩
    rw [hputs]
    exact ⟨(by decide : -ENOBUFS < 0), rfl, rfl⟩

/-- A message that can be made is sent. -/
theorem testmode_of_made (halloc : nl80211.nlmsg_alloc = true) (hputs : nl80211.puts data_len = true) :
    wpa_driver_nl80211_testmode nl80211 index data_len data =
      ⟨(nl80211.send_and_recv_msgs data).1, (nl80211.send_and_recv_msgs data).2,
        decide (index &&& 0xFFFFFF = NL80211_TESTMODE_STATISTICS), [data],
        if index &&& 0xFFFFFF = NL80211_TESTMODE_STATISTICS then [⟨0, data_len⟩, ⟨0, 4⟩, ⟨24, 4⟩]
        else [⟨0, data_len⟩, ⟨0, 4⟩]⟩ := by
  unfold wpa_driver_nl80211_testmode
  rw [halloc, hputs]
  by_cases hindex : index &&& 0xFFFFFF = NL80211_TESTMODE_STATISTICS
  · simp [hindex]
  · simp [hindex]

end

end panelli.wpa_supplicant
