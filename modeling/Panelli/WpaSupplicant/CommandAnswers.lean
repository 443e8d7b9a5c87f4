import Panelli.WpaSupplicant.CommandState

open panelli.cstring panelli.printf

namespace panelli.wpa_supplicant.driver_cmd

/-- What is documented of the functions whose results are returned: 0, or a negative error. -/
structure Found.Documented (found : Found) : Prop where
  sent : ∀ data, (found.send_and_recv_msgs data).1 ≤ 0
  flags : ∀ up, found.linux_set_iface_flags up ≤ 0

/-- There is no answer but an error or 0, or the answer is the string in the buffer, as a whole. -/
def Answered (ret : Int) (buf : Block) (size : Nat) : Prop := ret ≤ 0 ∨ ret = (stringOf buf).length ∧ ret < size

section

variable {limit : Nat} {options : BuildOption → Bool} {d : Driver} {found : Found} {request : Request} {out : Outcome}
  {branch : Branch} {cmd text : List UInt8} {buf : Block} {ret : Int} {size : Nat}

theorem answered_of_nonpos (hret : ret ≤ 0) : Answered ret buf size := .inl hret

theorem answered_failure : Answered (-1) buf size := .inl (by decide)

theorem answered_zero : Answered 0 buf size := .inl (Int.le_refl 0)

/-- A text that fits is answered as a whole. -/
theorem answered_of_snprintf (hnul : 0 ∉ text) (hfits : text.length < size) :
    Answered text.length (snprintf buf 0 size text) size := by
  right
  rw [stringOf_snprintf hnul hfits]
  exact ⟨rfl, Int.ofNat_lt.mpr hfits⟩

theorem hexText_length (v : UInt8) : (hexText 2 v.toNat).length = 2 := by
  have hall : ∀ n < 256, (hexText 2 n).length = 2 := by decide +kernel
  exact hall v.toNat v.toNat_lt

theorem macText_length (addr : Vector UInt8 6) : (sta.macText addr).length = 17 := by
  have hwidth : ∀ text ∈ addr.toList.map fun byte => hexText 2 byte.toNat, text.length = 2 := by
    intro text htext
    obtain ⟨byte, _, rfl⟩ := List.mem_map.mp htext
    exact hexText_length byte
  rw [sta.macText, colons_length hwidth, List.length_map, Vector.length_toList]

theorem set_country_nonpos (outside : Outside) (alpha2_arg : List UInt8) :
    wpa_driver_mediatek_set_country outside alpha2_arg ≤ 0 := by
  unfold wpa_driver_mediatek_set_country
  split_ifs
  · decide
  · dsimp only
    split_ifs
    · omega
    · omega

theorem testmode_nonpos (hfound : found.Documented) (data : Block) :
    (testmode found data).ret ≤ 0 := by
  unfold testmode
  by_cases hmade : found.nlmsg_alloc = true ∧ found.puts data.length = true
  · rw [testmode_of_made hmade.1 hmade.2]
    exact hfound.sent data
  · exact Int.le_of_lt (testmode_of_not_made hmade).1

theorem get_sta_statistics_answered (hwaddr_aton : List UInt8 → Option (Vector UInt8 6))
    (send_and_recv_msgs : sta.SendAndRecv) (addr : List UInt8) (buf : Block) :
    Answered (sta.wpa_driver_get_sta_statistics hwaddr_aton send_and_recv_msgs addr buf buf.length).1
      (sta.wpa_driver_get_sta_statistics hwaddr_aton send_and_recv_msgs addr buf buf.length).2 buf.length := by
  unfold sta.wpa_driver_get_sta_statistics
  cases hwaddr_aton addr with
  | none => exact answered_failure
  | some sta_addr =>
    dsimp only
    split_ifs
    · exact answered_failure
    · generalize (sta.wpas_get_sta_statistics send_and_recv_msgs sta_addr .zero).2 = s
      obtain ⟨hblock, hret⟩ := sta.print_sta_statistics_spec s buf
      dsimp only
      rw [hblock, hret]
      split_ifs with hfits
      · exact answered_of_snprintf (sta.text_no_nul s) hfits
      · exact answered_zero

theorem set_capability_nonpos (p2p : P2p) (cmd : List UInt8) : (p2p_set_capability p2p cmd).1 ≤ 0 := by
  unfold p2p_set_capability
  split_ifs
  · exact Int.le_refl 0
  · exact Int.neg_nonpos_of_nonneg (Int.zero_le_ofNat 1)
  · exact Int.le_refl 0

/-- A private command is answered with one of two short lines. -/
theorem issue_answered (hroom : 5 < buf.length) {priv_cmd : Option android_wifi_priv_cmd}
    (hout : issue limit d found cmd priv_cmd buf = some out) : Answered out.ret out.buf buf.length := by
  obtain ⟨issued, _, rfl⟩ := Option.map_eq_some_iff.mp hout
  have hlength : (List.replicate buf.length (some (0 : UInt8))).length = buf.length := List.length_replicate
  dsimp only
  rw [hlength]
  generalize List.replicate buf.length (some (0 : UInt8)) = zeros
  have hfail : (5 : Int) = (ascii "FAIL\n").length := rfl
  have hok : (3 : Int) = (ascii "OK\n").length := rfl
  split
  · dsimp only [Outcome.returned]
    rw [hfail]
    exact answered_of_snprintf (by decide) hroom
  · have hanswer : stringOf (snprintf zeros 0 buf.length (ascii "OK\n")) = ascii "OK\n" :=
      stringOf_snprintf (by decide) (Nat.lt_of_le_of_lt (by decide) hroom)
    dsimp only [Outcome.returned]
    rw [hanswer, hok, ite_self]
    exact answered_of_snprintf (by decide) (Nat.lt_of_le_of_lt (by decide) hroom)

theorem get_capability_answered (hroom : 17 < buf.length) (p2p : P2p) (cmd : List UInt8) :
    Answered (p2p_get_capability p2p cmd buf).1 (p2p_get_capability p2p cmd buf).2 buf.length := by
  unfold p2p_get_capability
  split_ifs
  · apply answered_of_snprintf
    · exact capabilityText_no_nul p2p.dev_capab
    · exact Nat.lt_of_le_of_lt (capabilityText_length_le p2p.dev_capab) hroom
  · exact answered_failure
  · exact answered_zero

theorem handle_answered (hroom : 28 < request.buf.length) (hfound : request.found.Documented)
    (hout : handle limit d request branch = some out) : Answered out.ret out.buf request.buf.length := by
  cases branch with
  | GET_STA_STATISTICS =>
    obtain rfl := Option.some.inj hout
    exact get_sta_statistics_answered request.found.hwaddr_aton (sendStatistics request.found)
      (request.cmd.bytes.drop 19) request.buf
  | MACADDR =>
    obtain rfl := Option.some.inj hout
    have hmac := macText_length request.found.own_addr
    apply answered_of_snprintf
    · rw [List.mem_append, List.mem_append]
      rintro ((hmem | hmem) | hmem)
      · exact absurd hmem (by decide)
      · exact (sta.oneLine_macText _).1 hmem
      · exact absurd hmem (by decide)
    · rw [List.length_append, List.length_append, hmac]
      exact hroom
  | COUNTRY =>
    simp only [handle] at hout
    split_ifs at hout
    · obtain rfl := Option.some.inj hout
      exact answered_zero
    · obtain rfl := Option.some.inj hout
      exact answered_zero
    · obtain rfl := Option.some.inj hout
      exact answered_of_nonpos (set_country_nonpos _ _)
  | start =>
    obtain rfl := Option.some.inj hout
    exact answered_of_nonpos (hfound.flags true)
  | stop =>
    obtain rfl := Option.some.inj hout
    exact answered_of_nonpos (hfound.flags false)
  | rxfilter length offset =>
    cases hidx : strtol0 (request.cmd.bytes.drop length) with
    | none =>
      simp only [handle, hidx] at hout
      obtain rfl := Option.some.inj hout
      exact answered_failure
    | some idx =>
      simp only [handle, hidx] at hout
      obtain rfl := Option.some.inj hout
      exact answered_zero
  | smt_rate =>
    cases hidx : strtol0 (request.cmd.bytes.drop 8) with
    | none =>
      simp only [handle, hidx] at hout
      obtain rfl := Option.some.inj hout
      exact answered_failure
    | some idx =>
      simp only [handle, hidx] at hout
      obtain rfl := Option.some.inj hout
      exact answered_zero
  | STA_BLOCK | STA_UNBLOCK =>
    obtain rfl := Option.some.inj hout
    dsimp only [Outcome.returned]
    split_ifs
    · exact answered_failure
    · exact answered_zero
  | p2p_get_cap =>
    cases hp2p : d.p2p with
    | none =>
      simp only [handle, hp2p] at hout
      obtain rfl := Option.some.inj hout
      exact answered_failure
    | some p2p =>
      simp only [handle, hp2p] at hout
      obtain rfl := Option.some.inj hout
      exact get_capability_answered (by omega) p2p _
  | p2p_set_cap =>
    cases hp2p : d.p2p with
    | none =>
      simp only [handle, hp2p] at hout
      obtain rfl := Option.some.inj hout
      exact answered_failure
    | some p2p =>
      simp only [handle, hp2p] at hout
      obtain rfl := Option.some.inj hout
      exact answered_of_nonpos (set_capability_nonpos p2p _)
  | MIRACAST =>
    simp only [handle] at hout
    exact issue_answered (by omega) hout
  | SETSUSPENDMODE | transparent =>
    simp only [handle] at hout
    obtain ⟨issued, hissued, rfl⟩ := Option.map_eq_some_iff.mp hout
    have hanswered : Answered issued.ret issued.buf request.buf.length := issue_answered (by omega) hissued
    exact hanswered
  | p2p_use_mcc =>
    cases hp2p : d.p2p with
    | none =>
      simp only [handle, hp2p] at hout
      cases hout
    | some p2p =>
      simp only [handle, hp2p] at hout
      obtain rfl := Option.some.inj hout
      exact answered_failure
  | mtk_rx_packet_filter =>
    cases hparams : mtk_rx_packet_filter request.cmd.bytes with
    | none =>
      simp only [handle, hparams] at hout
      obtain rfl := Option.some.inj hout
      exact answered_failure
    | some params =>
      simp only [handle, hparams] at hout
      obtain rfl := Option.some.inj hout
      exact answered_of_nonpos (testmode_nonpos hfound _)
  | POWERMODE | getpower | get_rts_threshold | set_rts_threshold =>
    obtain rfl := Option.some.inj hout
    exact answered_failure
  | sw_cmd | btcoex | set_band | set_scan_loading =>
    obtain rfl := Option.some.inj hout
    exact answered_zero

end

theorem refusing_documented : refusing.Documented := ⟨fun _ => Int.le_refl 0, fun _ => Int.le_refl 0⟩

/-- The address is the longest answer that is not checked against the size of the buffer. -/
theorem macaddr_answer (limit : Nat) (options : BuildOption → Bool) (n : Nat) : ∃ request out,
    request.buf.length = n ∧ request.found.Documented ∧
      wpa_driver_nl80211_driver_cmd limit options fresh request = some out ∧ out.ret = 28 := by
  have hsingle : commands.filter (·.branch = .MACADDR) = [⟨none, .strncmp (ascii "MACADDR") 7, .MACADDR⟩] := by
    decide +kernel
  have hbranch : selected options (ascii "MACADDR") = .MACADDR := (selected_eq_iff_of_none hsingle).mpr (by decide)
  have hmac := macText_length refusing.own_addr
  let request : Request := ⟨⟨ascii "MACADDR", by decide⟩, Block.fresh n, refusing⟩
  let text := ascii "Macaddr = " ++ sta.macText refusing.own_addr ++ ascii "\n"
  refine ⟨request, Outcome.returned fresh (snprintf request.buf 0 request.buf.length text) text.length,
    List.length_replicate, refusing_documented, ?_, ?_⟩
  · rw [wpa_driver_nl80211_driver_cmd, hbranch]
    rfl
  · have hlength : text.length = 28 := by
      rw [List.length_append, List.length_append, hmac]
      rfl
    rw [Outcome.returned, hlength]
    rfl

/-- Whatever the command and the state, an answer is an error or 0, or it is the length of the string in
the buffer, exactly for buffers of more than 28 bytes. -/
theorem answered_iff_room (limit : Nat) (options : BuildOption → Bool) (n : Nat) :
    (∀ d request out, request.buf.length = n → request.found.Documented →
      wpa_driver_nl80211_driver_cmd limit options d request = some out → Answered out.ret out.buf n) ↔ 28 < n := by
  constructor
  · intro hall
    obtain ⟨request, out, hlength, hfound, hout, hret⟩ := macaddr_answer limit options n
    obtain hnone | ⟨_, hfits⟩ := hall fresh request out hlength hfound hout
    · omega
    · omega
  · rintro hroom d request out rfl hfound hout
    exact handle_answered hroom hfound hout

end panelli.wpa_supplicant.driver_cmd
