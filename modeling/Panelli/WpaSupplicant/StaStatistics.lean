import Panelli.WpaSupplicant.StaReport
import Panelli.Printf
import Panelli.KeyValueLines

open panelli.cstring panelli.netlink panelli.printf panelli.keyValueLines

namespace panelli.wpa_supplicant.sta

/-- `%d` for a number without a sign. -/
def unsignedText (v : UInt32) : List UInt8 := decimalText v.toInt32.toInt

/-- `MACSTR` -/
def macText (addr : Vector UInt8 6) : List UInt8 := colons (addr.toList.map fun byte => hexText 2 byte.toNat)

/-- `%d:%d:%d:%d` -/
def quadText (counts : Vector UInt32 4) : List UInt8 := colons (counts.toList.map unsignedText)

/-- `%.1f` for a number of halves. -/
def rateText (halves : UInt16) : List UInt8 :=
  decimalText (halves.toNat / 2 : Nat) ++ if halves % 2 = 0 then ascii ".0" else ascii ".5"

/-- A call of `os_snprintf`: its text, and the element of `reserved` that it is given. -/
structure PrintCall where
  text : List UInt8
  reserved : Option Nat

namespace wpa_driver_sta_statistics_s

/-- The lines in front of the reserved bytes. -/
def front (s : wpa_driver_sta_statistics_s) : List Entry := [
  (ascii "sta_addr", macText s.addr),
  (ascii "link_score", unsignedText s.link_score),
  (ascii "per", decimalText s.per.toNat),
  (ascii "rssi", decimalText s.rssi.toInt),
  (ascii "phy", ascii "0x" ++ HEXText 8 s.phy_mode.toNat),
  (ascii "rate", rateText s.tx_rate),
  (ascii "total_cnt", unsignedText s.tx_total_cnt),
  (ascii "threshold_cnt", unsignedText s.tx_exc_threshold_cnt),
  (ascii "fail_cnt", unsignedText s.tx_fail_cnt),
  (ascii "timeout_cnt", unsignedText s.tx_timeout_cnt),
  (ascii "apt", unsignedText s.tx_avg_process_time),
  (ascii "aat", unsignedText s.tx_avg_air_time),
  (ascii "TC_buf_full_cnt", quadText s.tc_buf_full_cnt),
  (ascii "TC_sta_que_len", quadText s.tc_que_len),
  (ascii "TC_avg_que_len", quadText s.tc_avg_que_len),
  (ascii "TC_cur_que_len", quadText s.tc_cur_que_len),
  (ascii "flag", ascii "0x" ++ HEXText 8 s.flag.toNat)]

/-- The loop over sixteen of the reserved bytes. -/
def reservedCalls (s : wpa_driver_sta_statistics_s) (first : Nat) : List PrintCall :=
  (((s.reserved.toList.drop first).take 16).zipIdx first).flatMap fun byte =>
    ⟨HEXText 2 byte.1.toNat, some byte.2⟩ :: if (byte.2 + 1) % 4 = 0 then [⟨ascii " ", some byte.2⟩] else []

/-- The calls of `print_sta_statistics`. The loops end with one that is given the element they
have not reached. -/
def calls (s : wpa_driver_sta_statistics_s) : List PrintCall :=
  s.front.map (fun e => ⟨line e, none⟩) ++
    (⟨ascii "reserved0=", none⟩ :: s.reservedCalls 0 ++ [⟨ascii "\n", some 16⟩]) ++
    (⟨ascii "reserved1=", none⟩ :: s.reservedCalls 16 ++ [⟨ascii "\n", some 32⟩]) ++ [⟨ascii "====\n", none⟩]

end wpa_driver_sta_statistics_s

def print_sta_statistics (sta_stats : wpa_driver_sta_statistics_s) (buf : Block) (buflen : Nat) : Printed :=
  printAll buflen (sta_stats.calls.map (·.text)) 0 buf

/-- The elements of `reserved` that are read. -/
def reservedReads (sta_stats : wpa_driver_sta_statistics_s) (buf : Block) (buflen : Nat) : List Nat :=
  (sta_stats.calls.take (print_sta_statistics sta_stats buf buflen).calls).filterMap (·.reserved)

/-- The station is asked for by the address that was given. `wpas_p2p_get_sta_mac` finds no other. -/
def wpa_driver_get_sta_statistics (hwaddr_aton : List UInt8 → Option (Vector UInt8 6))
    (send_and_recv_msgs : SendAndRecv) (addr : List UInt8) (buf : Block) (buflen : Nat) : Int × Block :=
  match hwaddr_aton addr with
  | none => (-1, buf)
  | some sta_addr =>
    let (result, sta_statistics) := wpas_get_sta_statistics send_and_recv_msgs sta_addr .zero
    if result < 0 then (-1, buf)
    else
      let printed := print_sta_statistics sta_statistics buf buflen
      (printed.ret, printed.block)

/-! The text is read back line by line. -/

def readUnsigned (text : List UInt8) : UInt32 := (Int32.ofInt (readDecimal text)).toUInt32

/-- The elements of an array, of a list that has them all. -/
def readVector {α : Type} (n : Nat) (d : α) (l : List α) : Vector α n := Vector.ofFn fun i : Fin n => l.getD i.val d

def readMac (text : List UInt8) : Vector UInt8 6 :=
  readVector 6 0 ((text.splitOn 58).map fun digits => UInt8.ofNat (readHex digits))

def readQuad (text : List UInt8) : Vector UInt32 4 := readVector 4 0 ((text.splitOn 58).map readUnsigned)

/-- The word behind `0x`. -/
def readWord (text : List UInt8) : UInt32 := UInt32.ofNat (readHex (text.drop 2))

/-- The halves in front of the point, and behind it. -/
def readRate (text : List UInt8) : UInt16 :=
  UInt16.ofNat (2 * (readDecimal (text.takeWhile (· ≠ 46))).toNat + if text.getLast? = some 53 then 1 else 0)

def readReserved (text : List UInt8) : List UInt8 := readPairs (text.filter (· ≠ 32))

/-- The statistics that a text is printed from. -/
def readStatistics (text : List UInt8) : Option wpa_driver_sta_statistics_s := do
  let es := parse text
  let addr ← es.lookup (ascii "sta_addr")
  let link_score ← es.lookup (ascii "link_score")
  let per ← es.lookup (ascii "per")
  let rssi ← es.lookup (ascii "rssi")
  let phy ← es.lookup (ascii "phy")
  let rate ← es.lookup (ascii "rate")
  let total_cnt ← es.lookup (ascii "total_cnt")
  let threshold_cnt ← es.lookup (ascii "threshold_cnt")
  let fail_cnt ← es.lookup (ascii "fail_cnt")
  let timeout_cnt ← es.lookup (ascii "timeout_cnt")
  let apt ← es.lookup (ascii "apt")
  let aat ← es.lookup (ascii "aat")
  let buf_full ← es.lookup (ascii "TC_buf_full_cnt")
  let sta_que ← es.lookup (ascii "TC_sta_que_len")
  let avg_que ← es.lookup (ascii "TC_avg_que_len")
  let cur_que ← es.lookup (ascii "TC_cur_que_len")
  let flag ← es.lookup (ascii "flag")
  let reserved0 ← es.lookup (ascii "reserved0")
  let reserved1 ← es.lookup (ascii "reserved1")
  some {
    addr := readMac addr
    flag := readWord flag
    link_score := readUnsigned link_score
    per := UInt8.ofNat (readDecimal per).toNat
    rssi := Int32.ofInt (readDecimal rssi)
    phy_mode := readWord phy
    tx_rate := readRate rate
    tx_total_cnt := readUnsigned total_cnt
    tx_exc_threshold_cnt := readUnsigned threshold_cnt
    tx_avg_process_time := readUnsigned apt
    tx_fail_cnt := readUnsigned fail_cnt
    tx_timeout_cnt := readUnsigned timeout_cnt
    tx_avg_air_time := readUnsigned aat
    tc_buf_full_cnt := readQuad buf_full
    tc_que_len := readQuad sta_que
    tc_avg_que_len := readQuad avg_que
    tc_cur_que_len := readQuad cur_que
    reserved := readVector 32 0 (readReserved reserved0 ++ readReserved reserved1) }

namespace wpa_driver_sta_statistics_s

/-- The whole text. -/
def text (s : wpa_driver_sta_statistics_s) : List UInt8 := (s.calls.map (·.text)).flatten

/-- The text of sixteen reserved bytes. -/
def reservedText (s : wpa_driver_sta_statistics_s) (first : Nat) : List UInt8 :=
  (((s.reserved.toList.drop first).take 16).zipIdx first).flatMap fun byte =>
    HEXText 2 byte.1.toNat ++ if (byte.2 + 1) % 4 = 0 then ascii " " else []

def entries (s : wpa_driver_sta_statistics_s) : List Entry :=
  s.front ++ [(ascii "reserved0", s.reservedText 0), (ascii "reserved1", s.reservedText 16), ([], ascii "===")]

end wpa_driver_sta_statistics_s

section

variable {s : wpa_driver_sta_statistics_s}

theorem reservedCalls_text (s : wpa_driver_sta_statistics_s) (first : Nat) :
    ((s.reservedCalls first).map (·.text)).flatten = s.reservedText first := by
  rw [wpa_driver_sta_statistics_s.reservedCalls, List.map_flatMap, ← List.flatMap_id, List.flatMap_assoc]
  apply List.flatMap_congr
  intro byte _
  split
  · simp
  · simp

theorem text_eq_render (s : wpa_driver_sta_statistics_s) : s.text = render s.entries := by
  have hfront : ((s.front.map fun e => PrintCall.mk (line e) none).map (·.text)).flatten = render s.front := by
    rw [List.map_map, render, List.flatMap_def]
    rfl
  have hfirst : ascii "reserved0=" = ascii "reserved0" ++ [61] := rfl
  have hsecond : ascii "reserved1=" = ascii "reserved1" ++ [61] := rfl
  have hlast : ascii "====\n" = line ([], ascii "===") := rfl
  have hend : ascii "\n" = [10] := rfl
  rw [wpa_driver_sta_statistics_s.text, wpa_driver_sta_statistics_s.calls, wpa_driver_sta_statistics_s.entries]
  simp only [List.map_append, List.flatten_append, List.map_cons, List.flatten_cons, List.map_nil, List.flatten_nil,
    hfront, reservedCalls_text, hfirst, hsecond, hlast, hend, render, List.flatMap_append, List.flatMap_cons,
    List.flatMap_nil]
  simp only [line, List.append_assoc, List.cons_append, List.nil_append, List.append_nil]

/-- The sixteen bytes are read back without the spaces between them. -/
theorem readReserved_text (s : wpa_driver_sta_statistics_s) (first : Nat) :
    readReserved (s.reservedText first) = (s.reserved.toList.drop first).take 16 := by
  have hgroup : ∀ p ∈ ((s.reserved.toList.drop first).take 16).zipIdx first,
      (HEXText 2 p.1.toNat ++ if (p.2 + 1) % 4 = 0 then ascii " " else []).filter (· ≠ 32) = HEXText 2 p.1.toNat := by
    intro p _
    have hspace : ∀ b ∈ HEXText 2 p.1.toNat, decide (b ≠ 32) = true :=
      fun b hb => decide_eq_true (plain_HEXText hb).2.2.1
    rw [List.filter_append, List.filter_eq_self.mpr hspace]
    split
    · exact List.append_nil _
    · exact List.append_nil _
  rw [readReserved, wpa_driver_sta_statistics_s.reservedText, List.filter_flatMap, List.flatMap_congr hgroup]
  have hbytes := List.zipIdx_map_fst first ((s.reserved.toList.drop first).take 16)
  rw [← List.flatMap_map Prod.fst (fun byte : UInt8 => HEXText 2 byte.toNat), hbytes, readPairs_flatMap]

theorem oneLine_unsignedText (v : UInt32) : OneLine (unsignedText v) :=
  oneLine_of_plain fun _ hb => plain_decimalText hb

theorem oneLine_macText (addr : Vector UInt8 6) : OneLine (macText addr) := by
  apply oneLine_colons
  intro text htext
  obtain ⟨byte, _, rfl⟩ := List.mem_map.mp htext
  exact oneLine_of_plain fun _ hb => plain_hexText hb

theorem oneLine_quadText (counts : Vector UInt32 4) : OneLine (quadText counts) := by
  apply oneLine_colons
  intro text htext
  obtain ⟨count, _, rfl⟩ := List.mem_map.mp htext
  exact oneLine_unsignedText count

theorem oneLine_word (v : UInt32) : OneLine (ascii "0x" ++ HEXText 8 v.toNat) :=
  OneLine.append (by decide) (oneLine_of_plain fun _ hb => plain_HEXText hb)

theorem oneLine_rateText (halves : UInt16) : OneLine (rateText halves) := by
  apply OneLine.append
  · exact oneLine_of_plain fun _ hb => plain_decimalText hb
  · split
    · decide
    · decide

theorem oneLine_reservedText (s : wpa_driver_sta_statistics_s) (first : Nat) : OneLine (s.reservedText first) := by
  have hspace : ∀ i : Nat, OneLine (if (i + 1) % 4 = 0 then ascii " " else []) := by
    intro i
    split
    · decide
    · decide
  have hgroup : ∀ p : UInt8 × Nat, OneLine (HEXText 2 p.1.toNat ++ if (p.2 + 1) % 4 = 0 then ascii " " else []) :=
    fun p => OneLine.append (oneLine_of_plain fun _ hb => plain_HEXText hb) (hspace p.2)
  constructor
  · intro hb
    obtain ⟨p, _, hmem⟩ := List.mem_flatMap.mp hb
    exact (hgroup p).1 hmem
  · intro hb
    obtain ⟨p, _, hmem⟩ := List.mem_flatMap.mp hb
    exact (hgroup p).2 hmem

theorem entries_oneLine (s : wpa_driver_sta_statistics_s) : ∀ e ∈ s.entries, OneLine e.2 := by
  simp only [wpa_driver_sta_statistics_s.entries, wpa_driver_sta_statistics_s.front, List.cons_append, List.nil_append,
    List.forall_mem_cons]
  refine ⟨oneLine_macText _, oneLine_unsignedText _, oneLine_of_plain fun _ hb => plain_decimalText hb,
    oneLine_of_plain fun _ hb => plain_decimalText hb, oneLine_word _, oneLine_rateText _, oneLine_unsignedText _,
    oneLine_unsignedText _, oneLine_unsignedText _, oneLine_unsignedText _, oneLine_unsignedText _,
    oneLine_unsignedText _, oneLine_quadText _, oneLine_quadText _, oneLine_quadText _, oneLine_quadText _,
    oneLine_word _, oneLine_reservedText s 0, oneLine_reservedText s 16, by decide, ?_⟩
  intro e he
  cases he

/-- The keys of the lines. The last line has none. -/
def statisticsKeys : List (List UInt8) :=
  ["sta_addr", "link_score", "per", "rssi", "phy", "rate", "total_cnt", "threshold_cnt", "fail_cnt", "timeout_cnt",
    "apt", "aat", "TC_buf_full_cnt", "TC_sta_que_len", "TC_avg_que_len", "TC_cur_que_len", "flag", "reserved0",
    "reserved1", ""].map ascii

theorem entries_keys (s : wpa_driver_sta_statistics_s) : s.entries.map Prod.fst = statisticsKeys := rfl

theorem statisticsKeys_sound : statisticsKeys.Nodup ∧ ∀ key ∈ statisticsKeys, IsKey key ∧ 0 ∉ key := by decide +kernel

theorem isKey_of_mem_entries {e : Entry} (he : e ∈ s.entries) : IsKey e.1 ∧ 0 ∉ e.1 :=
  statisticsKeys_sound.2 e.1 (entries_keys s ▸ List.mem_map_of_mem he)

theorem text_no_nul (s : wpa_driver_sta_statistics_s) : 0 ∉ s.text := by
  rw [text_eq_render]
  apply not_mem_render
  · decide
  · exact fun e he => ⟨(isKey_of_mem_entries he).2, (entries_oneLine s e he).1⟩

/-- Every value is found by its key. -/
theorem lookup_text (s : wpa_driver_sta_statistics_s) : ∀ e ∈ s.entries, (parse s.text).lookup e.1 = some e.2 := by
  intro e he
  rw [text_eq_render, (parse_render_eq_iff fun e he => (isKey_of_mem_entries he).1).mpr fun e he =>
    (entries_oneLine s e he).2]
  exact lookup_of_mem (entries_keys s ▸ statisticsKeys_sound.1) he

theorem readSigned_decimalText (v : Int32) : Int32.ofInt (readDecimal (decimalText v.toInt)) = v := by
  have hmin := v.le_toInt
  have hmax := v.toInt_lt
  rw [readDecimal_decimalText (by simpa [LONG_MIN] using hmin) (by unfold LONG_MAX; omega), Int32.ofInt_toInt]

theorem readUnsigned_unsignedText (v : UInt32) : readUnsigned (unsignedText v) = v := by
  rw [readUnsigned, unsignedText, readSigned_decimalText, UInt32.toUInt32_toInt32]

theorem readByte_decimalText (v : UInt8) : UInt8.ofNat (readDecimal (decimalText v.toNat)).toNat = v := by
  have hlt := v.toNat_lt
  rw [readDecimal_decimalText (by unfold LONG_MIN; omega) (by unfold LONG_MAX; omega), Int.toNat_natCast,
    UInt8.ofNat_toNat]

theorem readWord_word (v : UInt32) : readWord (ascii "0x" ++ HEXText 8 v.toNat) = v := by
  have hprefix : (ascii "0x").length = 2 := rfl
  rw [readWord, List.drop_left' hprefix, readHex_HEXText, UInt32.ofNat_toNat]

theorem readRate_rateText (halves : UInt16) : readRate (rateText halves) = halves := by
  have hlt := halves.toNat_lt
  have hmod : halves % 2 = 0 ↔ halves.toNat % 2 = 0 := by
    rw [← UInt16.toNat_inj, UInt16.toNat_mod]
    rfl
  have hpoint : ∀ b ∈ decimalText (halves.toNat / 2 : Nat), decide (b ≠ 46) = true :=
    fun b hb => decide_eq_true (plain_decimalText hb).2.2.2.2
  have hvalue : readDecimal (decimalText (halves.toNat / 2 : Nat)) = (halves.toNat / 2 : Nat) :=
    readDecimal_decimalText (by unfold LONG_MIN; omega) (by unfold LONG_MAX; omega)
  have hzero : ascii ".0" = [46, 48] := rfl
  have hfive : ascii ".5" = [46, 53] := rfl
  rw [readRate, rateText, ← UInt16.toNat_inj, UInt16.toNat_ofNat']
  generalize decimalText (halves.toNat / 2 : Nat) = whole at hpoint hvalue ⊢
  split
  · next heven =>
    have := hmod.mp heven
    rw [hzero, List.takeWhile_append_of_pos hpoint]
    simp [hvalue]
    omega
  · next hodd =>
    have := mt hmod.mpr hodd
    rw [hfive, List.takeWhile_append_of_pos hpoint]
    simp [hvalue]
    omega

theorem readVector_toList {α : Type} {n : Nat} (d : α) (v : Vector α n) : readVector n d v.toList = v := by
  ext i hi
  simp [readVector]

theorem readMac_macText (addr : Vector UInt8 6) : readMac (macText addr) = addr := by
  have hplain : ∀ text ∈ addr.toList.map fun byte => hexText 2 byte.toNat, ∀ b ∈ text, Plain b := by
    intro text htext b hb
    obtain ⟨byte, _, rfl⟩ := List.mem_map.mp htext
    exact plain_hexText hb
  have hbytes : (fun digits => UInt8.ofNat (readHex digits)) ∘ (fun byte : UInt8 => hexText 2 byte.toNat) = id := by
    funext byte
    simp [readHex_hexText]
  have hne : addr.toList.map (fun byte => hexText 2 byte.toNat) ≠ [] := by simp
  rw [readMac, macText, splitOn_colons hplain hne, List.map_map, hbytes, List.map_id, readVector_toList]

theorem readQuad_quadText (counts : Vector UInt32 4) : readQuad (quadText counts) = counts := by
  have hplain : ∀ text ∈ counts.toList.map unsignedText, ∀ b ∈ text, Plain b := by
    intro text htext b hb
    obtain ⟨count, _, rfl⟩ := List.mem_map.mp htext
    exact plain_decimalText hb
  have hcounts : readUnsigned ∘ unsignedText = id := funext readUnsigned_unsignedText
  have hne : counts.toList.map unsignedText ≠ [] := by simp
  rw [readQuad, quadText, splitOn_colons hplain hne, List.map_map, hcounts, List.map_id, readVector_toList]

/-- The statistics are read back from their text. -/
theorem readStatistics_text (s : wpa_driver_sta_statistics_s) : readStatistics s.text = some s := by
  have hlookup := lookup_text s
  have hreserved : readReserved (s.reservedText 0) ++ readReserved (s.reservedText 16) = s.reserved.toList := by
    have hrest : (s.reserved.toList.drop 16).take 16 = s.reserved.toList.drop 16 := List.take_of_length_le (by simp)
    rw [readReserved_text, readReserved_text, hrest, List.drop_zero, List.take_append_drop]
  simp only [wpa_driver_sta_statistics_s.entries, wpa_driver_sta_statistics_s.front, List.cons_append, List.nil_append,
    List.forall_mem_cons] at hlookup
  obtain ⟨haddr, hscore, hper, hrssi, hphy, hrate, htotal, hthreshold, hfail, htimeout, hapt, haat, hfull, hsta, havg,
    hcur, hflag, hfirst, hsecond, _⟩ := hlookup
  unfold readStatistics
  simp only [haddr, hscore, hper, hrssi, hphy, hrate, htotal, hthreshold, hfail, htimeout, hapt, haat, hfull, hsta,
    havg, hcur, hflag, hfirst, hsecond, Option.bind_eq_bind, Option.bind_some, hreserved,
    readMac_macText, readUnsigned_unsignedText, readByte_decimalText, readSigned_decimalText, readWord_word,
    readQuad_quadText, readRate_rateText, readVector_toList]

/-- What `print_sta_statistics` leaves in its buffer. -/
theorem print_sta_statistics_spec (s : wpa_driver_sta_statistics_s) (buf : Block) :
    (print_sta_statistics s buf buf.length).block = snprintf buf 0 buf.length s.text ∧
      (print_sta_statistics s buf buf.length).ret = if s.text.length < buf.length then s.text.length else 0 := by
  have hcalls : ∃ text texts, s.calls.map (·.text) = text :: texts := ⟨_, _, rfl⟩
  obtain ⟨text, texts, hcalls⟩ := hcalls
  obtain ⟨hblock, hret⟩ := printAll_cons texts text (Nat.zero_le buf.length) (Nat.le_refl buf.length)
  rw [print_sta_statistics, wpa_driver_sta_statistics_s.text, hcalls]
  rw [Nat.sub_zero] at hblock
  rw [Nat.zero_add] at hret
  exact ⟨hblock, hret⟩

/-- The calls in front of the last two are given elements that are there. -/
theorem reserved_front (s : wpa_driver_sta_statistics_s) : ∃ pre : List PrintCall,
    s.calls = pre ++ [⟨ascii "\n", some 32⟩, ⟨ascii "====\n", none⟩] ∧ pre ≠ [] ∧
      ∀ c ∈ pre, ∀ i ∈ c.reserved, i < 32 := by
  have hloop : ∀ first, ∀ c ∈ s.reservedCalls first, ∀ i ∈ c.reserved, i < first + 16 := by
    intro first c hc i hi
    obtain ⟨byte, hbyte, hc⟩ := List.mem_flatMap.mp hc
    have hlt : byte.2 < first + 16 := by
      have hbound := List.snd_lt_add_of_mem_zipIdx hbyte
      rw [List.length_take] at hbound
      omega
    obtain rfl | hspace := List.mem_cons.mp hc
    · cases hi
      exact hlt
    · split at hspace
      · rw [List.mem_singleton.mp hspace] at hi
        cases hi
        exact hlt
      · cases hspace
  refine ⟨s.front.map (fun e => ⟨line e, none⟩) ++
    (⟨ascii "reserved0=", none⟩ :: s.reservedCalls 0 ++ [⟨ascii "\n", some 16⟩]) ++
    (⟨ascii "reserved1=", none⟩ :: s.reservedCalls 16), ?_, ?_, ?_⟩
  · rw [wpa_driver_sta_statistics_s.calls]
    simp only [List.append_assoc, List.cons_append, List.nil_append]
  · simp
  · intro c hc i hi
    simp only [List.mem_append, List.mem_cons, List.mem_map, List.not_mem_nil, or_false] at hc
    obtain (⟨e, _, rfl⟩ | (rfl | hfirst) | rfl) | rfl | hsecond := hc
    · cases hi
    · cases hi
    · have := hloop 0 c hfirst i hi
      omega
    · cases hi
      omega
    · cases hi
    · exact hloop 16 c hsecond i hi

theorem text_length {pre : List PrintCall}
    (hcalls : s.calls = pre ++ [⟨ascii "\n", some 32⟩, ⟨ascii "====\n", none⟩]) :
    s.text.length = (pre.map (·.text)).flatten.length + 6 := by
  rw [wpa_driver_sta_statistics_s.text, hcalls, List.map_append, List.flatten_append, List.length_append]
  rfl

/-- The element behind the end of `reserved` is read where all but the last six bytes of the text
have fitted into the buffer. -/
theorem reserved_read_past_iff (s : wpa_driver_sta_statistics_s) (buf : Block) :
    (∃ i ∈ reservedReads s buf buf.length, 32 ≤ i) ↔ s.text.length < buf.length + 6 := by
  obtain ⟨pre, hcalls, hne, hfront⟩ := reserved_front s
  have hreached : pre.length < (print_sta_statistics s buf buf.length).calls ↔ s.text.length < buf.length + 6 := by
    have hpre : (pre.map (·.text)).length = pre.length := List.length_map _
    have hpos : pre.length ≠ 0 := fun h => hne (List.length_eq_zero_iff.mp h)
    rw [print_sta_statistics, lt_calls_iff, hcalls, List.map_append, List.take_left' hpre, text_length hcalls,
      List.length_append, hpre, Nat.zero_add]
    simp only [List.map_cons, List.map_nil, List.length_cons, List.length_nil]
    omega
  rw [reservedReads, ← hreached, hcalls, List.take_append]
  generalize (print_sta_statistics s buf buf.length).calls = made
  constructor
  · rintro ⟨i, hi, hbehind⟩
    by_contra hnot
    have hrest : made - pre.length = 0 := by omega
    rw [hrest, List.take_zero, List.append_nil] at hi
    obtain ⟨c, hc, hread⟩ := List.mem_filterMap.mp hi
    have := hfront c (List.mem_of_mem_take hc) i hread
    omega
  · intro hmade
    obtain ⟨k, hk⟩ : ∃ k, made - pre.length = k + 1 := ⟨made - pre.length - 1, by omega⟩
    rw [hk, List.take_succ_cons]
    refine ⟨32, List.mem_filterMap.mpr ⟨⟨ascii "\n", some 32⟩, ?_, rfl⟩, Nat.le_refl 32⟩
    exact List.mem_append_right _ List.mem_cons_self

end

/-- A report of a station that has sent nothing. -/
def quietStation : StaReport :=
  ⟨Vector.replicate 6 2, 0, 100, 0, 120, 0, 13, 0, 0, 0, 0, 0, 0, Vector.replicate 4 0, Vector.replicate 4 0,
    Vector.replicate 4 0, Vector.replicate 4 0, Vector.replicate 32 0⟩

end panelli.wpa_supplicant.sta
