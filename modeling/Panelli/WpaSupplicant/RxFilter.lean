import Panelli.WpaSupplicant.DriverCmd

open panelli.cstring

namespace panelli.wpa_supplicant

def NL80211_TESTMODE_RXFILTER : Nat := 103

structure wpa_driver_rx_filter_params where
  index : Nat
  buflen : Nat
  Ipv4FilterHigh : Nat
  Ipv4FilterLow : Nat
  Ipv6FilterHigh : Nat
  Ipv6FilterLow : Nat
  SnapFilterHigh : Nat
  SnapFilterLow : Nat
deriving DecidableEq

def SIZEOF_RX_FILTER_PARAMS : Nat := 32

/-- The field that is read of eight characters. -/
def readFilter (cmd : List UInt8) (pos : Nat) : Nat := toU32 (strtol 16 ((cmd.drop pos).take 8))

/-- What the branch for `mtk_rx_packet_filter` sends to the driver, if anything. -/
def mtk_rx_packet_filter (cmd : List UInt8) : Option wpa_driver_rx_filter_params :=
  let pos := 21
  if cmd.length ≠ 71 then none
  else some {
    index := NL80211_TESTMODE_RXFILTER ||| TESTMODE_VERSION
    buflen := SIZEOF_RX_FILTER_PARAMS
    Ipv4FilterHigh := readFilter cmd pos
    Ipv4FilterLow := readFilter cmd (pos + 8)
    Ipv6FilterHigh := readFilter cmd (pos + 8 + 9)
    Ipv6FilterLow := readFilter cmd (pos + 8 + 9 + 8)
    SnapFilterHigh := readFilter cmd (pos + 8 + 9 + 8 + 9)
    SnapFilterLow := readFilter cmd (pos + 8 + 9 + 8 + 9 + 8) }

/-- A mask of 64 bits as it is written, with 16 digits. -/
structure HexMask where
  digits : List UInt8
  length_eq : digits.length = 16
  isDigit : ∀ b ∈ digits, IsDigit 16 b

def HexMask.value (mask : HexMask) : Nat := digitsValue 16 mask.digits

def HexMask.high (mask : HexMask) : List UInt8 := mask.digits.take 8

def HexMask.low (mask : HexMask) : List UInt8 := mask.digits.drop 8

/-- The command with three masks. -/
def filterCommand (ipv4 ipv6 snap : HexMask) : List UInt8 :=
  ascii "mtk_rx_packet_filter " ++ ipv4.digits ++ [32] ++ ipv6.digits ++ [32] ++ snap.digits

/-- The fields make up the masks. -/
structure Reconstructs (params : wpa_driver_rx_filter_params) (ipv4 ipv6 snap : HexMask) : Prop where
  ipv4 : params.Ipv4FilterHigh * 2 ^ 32 + params.Ipv4FilterLow = ipv4.value
  ipv6 : params.Ipv6FilterHigh * 2 ^ 32 + params.Ipv6FilterLow = ipv6.value
  snap : params.SnapFilterHigh * 2 ^ 32 + params.SnapFilterLow = snap.value

/-- The command is recognised, and the masks reach the driver. -/
def FiltersExactly (options : BuildOption → Bool) (ipv4 ipv6 snap : HexMask) : Prop :=
  selected options (filterCommand ipv4 ipv6 snap) = .mtk_rx_packet_filter ∧
    ∃ params, mtk_rx_packet_filter (filterCommand ipv4 ipv6 snap) = some params ∧
      Reconstructs params ipv4 ipv6 snap

/-- Neither half of a mask has its highest bit set. -/
def HexMask.HalvesFit (mask : HexMask) : Prop := mask.value / 2 ^ 32 < 2 ^ 31 ∧ mask.value % 2 ^ 32 < 2 ^ 31

section

variable {mask ipv4 ipv6 snap : HexMask} {pre post : List UInt8}

/-- So many digits of a number, the last ones. -/
def hexDigits (value : Nat) : Nat → List UInt8
  | 0 => []
  | n + 1 => hexDigits (value / 16) n ++ [UInt8.ofNat (if value % 16 < 10 then 48 + value % 16 else 87 + value % 16)]

theorem hexDigits_spec (value n : Nat) : (hexDigits value n).length = n ∧
    (∀ b ∈ hexDigits value n, IsDigit 16 b) ∧ digitsValue 16 (hexDigits value n) = value % 16 ^ n := by
  have hdigit : ∀ v < 16, digitValue (UInt8.ofNat (if v < 10 then 48 + v else 87 + v)) = some v := by
    decide +kernel
  induction n generalizing value with
  | zero => exact ⟨rfl, fun b hb => absurd hb List.not_mem_nil, (Nat.mod_one value).symm⟩
  | succ n ih =>
    obtain ⟨hlength, hdigits, hvalue⟩ := ih (value / 16)
    have hlast := hdigit (value % 16) (Nat.mod_lt _ (by decide))
    refine ⟨?_, ?_, ?_⟩
    · rw [hexDigits, List.length_append, hlength, List.length_singleton]
    · intro b hb
      obtain hb | hb := List.mem_append.mp hb
      · exact hdigits b hb
      · rw [List.mem_singleton.mp hb]
        exact ⟨value % 16, hlast, Nat.mod_lt _ (by decide)⟩
    · rw [hexDigits, digitsValue_concat, hvalue, hlast, Option.getD_some, Nat.pow_succ, Nat.mul_comm (16 ^ n),
        Nat.mod_mul, Nat.add_comm]

/-- Every mask of 64 bits can be written. -/
theorem exists_hexMask {value : Nat} (hvalue : value < 2 ^ 64) : ∃ mask : HexMask, mask.value = value := by
  obtain ⟨hlength, hdigits, hmod⟩ := hexDigits_spec value 16
  refine ⟨⟨hexDigits value 16, hlength, hdigits⟩, ?_⟩
  rw [HexMask.value, hmod]
  exact Nat.mod_eq_of_lt hvalue

theorem HexMask.high_length (mask : HexMask) : mask.high.length = 8 := by
  rw [high, List.length_take, mask.length_eq]
  rfl

theorem HexMask.low_length (mask : HexMask) : mask.low.length = 8 := by
  rw [low, List.length_drop, mask.length_eq]

theorem HexMask.value_eq (mask : HexMask) :
    mask.value = digitsValue 16 mask.high * 2 ^ 32 + digitsValue 16 mask.low := by
  have hsplit := digitsValue_append 16 mask.high mask.low
  rw [mask.low_length, high, low, List.take_append_drop] at hsplit
  exact hsplit

theorem HexMask.high_isDigit (mask : HexMask) : ∀ b ∈ mask.high, IsDigit 16 b :=
  fun b hb => mask.isDigit b (List.mem_of_mem_take hb)

theorem HexMask.low_isDigit (mask : HexMask) : ∀ b ∈ mask.low, IsDigit 16 b :=
  fun b hb => mask.isDigit b (List.mem_of_mem_drop hb)

/-- The value of half a mask is one of 32 bits. -/
theorem half_lt {half : List UInt8} (hlength : half.length = 8) (hdigits : ∀ b ∈ half, IsDigit 16 b) :
    digitsValue 16 half < 2 ^ 32 := by
  have hlt := digitsValue_lt hdigits
  rwa [hlength] at hlt

/-- Half a mask is read up to the limit of a `long`. -/
theorem toU32_strtol {half : List UInt8} (hdigits : ∀ b ∈ half, IsDigit 16 b) :
    toU32 (strtol 16 half) = min 0x7FFFFFFF (digitsValue 16 half) := by
  rw [strtol_digits (Nat.le_refl 16) hdigits, toU32, LONG_MAX]
  omega

/-- The fields that are read where a mask is written. -/
theorem readFilter_mask {cmd : List UInt8} {pos : Nat} (hcmd : cmd = pre ++ (mask.digits ++ post))
    (hpre : pre.length = pos) :
    readFilter cmd pos = min 0x7FFFFFFF (digitsValue 16 mask.high) ∧
      readFilter cmd (pos + 8) = min 0x7FFFFFFF (digitsValue 16 mask.low) := by
  have hdrop : cmd.drop pos = mask.high ++ (mask.low ++ post) := by
    rw [hcmd, List.drop_left' hpre, ← List.append_assoc, HexMask.high, HexMask.low, List.take_append_drop]
  have hhigh : (cmd.drop pos).take 8 = mask.high := by
    rw [hdrop, List.take_left' mask.high_length]
  have hlow : (cmd.drop (pos + 8)).take 8 = mask.low := by
    rw [← List.drop_drop, hdrop, List.drop_left' mask.high_length, List.take_left' mask.low_length]
  rw [readFilter, hhigh, toU32_strtol mask.high_isDigit, readFilter, hlow, toU32_strtol mask.low_isDigit]
  exact ⟨rfl, rfl⟩

/-- Both halves up to the limit make up the mask exactly if they are below it. -/
theorem reconstruct_iff (mask : HexMask) :
    min 0x7FFFFFFF (digitsValue 16 mask.high) * 2 ^ 32 + min 0x7FFFFFFF (digitsValue 16 mask.low) = mask.value ↔
      mask.HalvesFit := by
  have hhigh := half_lt mask.high_length mask.high_isDigit
  have hlow := half_lt mask.low_length mask.low_isDigit
  rw [HexMask.HalvesFit, mask.value_eq]
  omega

theorem filterCommand_length (ipv4 ipv6 snap : HexMask) : (filterCommand ipv4 ipv6 snap).length = 71 := by
  have htext : (ascii "mtk_rx_packet_filter ").length = 21 := by decide
  simp only [filterCommand, List.length_append, htext, ipv4.length_eq, ipv6.length_eq, snap.length_eq,
    List.length_singleton]

/-- The slices of the command line up with the halves of the masks. -/
theorem mtk_rx_packet_filter_eq (ipv4 ipv6 snap : HexMask) :
    mtk_rx_packet_filter (filterCommand ipv4 ipv6 snap) = some {
      index := NL80211_TESTMODE_RXFILTER ||| TESTMODE_VERSION
      buflen := SIZEOF_RX_FILTER_PARAMS
      Ipv4FilterHigh := min 0x7FFFFFFF (digitsValue 16 ipv4.high)
      Ipv4FilterLow := min 0x7FFFFFFF (digitsValue 16 ipv4.low)
      Ipv6FilterHigh := min 0x7FFFFFFF (digitsValue 16 ipv6.high)
      Ipv6FilterLow := min 0x7FFFFFFF (digitsValue 16 ipv6.low)
      SnapFilterHigh := min 0x7FFFFFFF (digitsValue 16 snap.high)
      SnapFilterLow := min 0x7FFFFFFF (digitsValue 16 snap.low) } := by
  have htext : (ascii "mtk_rx_packet_filter ").length = 21 := by decide
  have hipv4 : filterCommand ipv4 ipv6 snap =
      ascii "mtk_rx_packet_filter " ++ (ipv4.digits ++ ([32] ++ ipv6.digits ++ [32] ++ snap.digits)) := by
    simp only [filterCommand, List.append_assoc]
  have hipv6 : filterCommand ipv4 ipv6 snap =
      (ascii "mtk_rx_packet_filter " ++ ipv4.digits ++ [32]) ++ (ipv6.digits ++ ([32] ++ snap.digits)) := by
    simp only [filterCommand, List.append_assoc]
  have hsnap : filterCommand ipv4 ipv6 snap =
      (ascii "mtk_rx_packet_filter " ++ ipv4.digits ++ [32] ++ ipv6.digits ++ [32]) ++ (snap.digits ++ []) := by
    simp only [filterCommand, List.append_assoc, List.append_nil]
  have hbefore6 : (ascii "mtk_rx_packet_filter " ++ ipv4.digits ++ [32]).length = 21 + 8 + 9 := by
    simp only [List.length_append, htext, ipv4.length_eq, List.length_singleton]
  have hbeforeS : (ascii "mtk_rx_packet_filter " ++ ipv4.digits ++ [32] ++ ipv6.digits ++ [32]).length =
      21 + 8 + 9 + 8 + 9 := by
    simp only [List.length_append, htext, ipv4.length_eq, ipv6.length_eq, List.length_singleton]
  obtain ⟨h4h, h4l⟩ := readFilter_mask hipv4 htext
  obtain ⟨h6h, h6l⟩ := readFilter_mask hipv6 hbefore6
  obtain ⟨hsh, hsl⟩ := readFilter_mask hsnap hbeforeS
  have hlength : ¬ (filterCommand ipv4 ipv6 snap).length ≠ 71 := not_not.mpr (filterCommand_length ipv4 ipv6 snap)
  rw [mtk_rx_packet_filter, if_neg hlength, h4h, h4l, h6h, h6l, hsh, hsl]

/-- The command starts with what is compared for the branch. -/
theorem selected_filterCommand (options : BuildOption → Bool) (ipv4 ipv6 snap : HexMask) :
    selected options (filterCommand ipv4 ipv6 snap) = .mtk_rx_packet_filter := by
  have htext : ((ascii "mtk_rx_packet_filter ").map tolower).length = 21 := by decide
  have hselected : selected options (filterCommand ipv4 ipv6 snap) = .mtk_rx_packet_filter ↔
      (Comparison.strncasecmp (ascii "mtk_rx_packet_filter ") 21).holds (filterCommand ipv4 ipv6 snap) :=
    selected_eq_iff_of_none (by decide +kernel)
  apply hselected.mpr
  simp only [Comparison.holds, filterCommand, List.append_assoc, List.map_append]
  rw [List.take_left' htext, List.take_of_length_le (Nat.le_of_eq htext)]
  exact beq_self_eq_true _

end

/-- The masks reach the driver exactly if no half of them has its highest bit set. -/
theorem mtk_rx_packet_filter_exact_iff (options : BuildOption → Bool) (ipv4 ipv6 snap : HexMask) :
    FiltersExactly options ipv4 ipv6 snap ↔ ipv4.HalvesFit ∧ ipv6.HalvesFit ∧ snap.HalvesFit := by
  rw [FiltersExactly, and_iff_right (selected_filterCommand options ipv4 ipv6 snap), mtk_rx_packet_filter_eq,
    ← reconstruct_iff ipv4, ← reconstruct_iff ipv6, ← reconstruct_iff snap]
  constructor
  · rintro ⟨params, hparams, hreconstructs⟩
    obtain rfl := Option.some.inj hparams
    exact ⟨hreconstructs.ipv4, hreconstructs.ipv6, hreconstructs.snap⟩
  · rintro ⟨h4, h6, hs⟩
    exact ⟨_, rfl, h4, h6, hs⟩

/-- The mask `0000000080000000`, and the one that is 0. -/
def bit31 : HexMask := ⟨ascii "0000000080000000", by decide, by decide +kernel⟩

def noBits : HexMask := ⟨ascii "0000000000000000", by decide, by decide +kernel⟩

/-- Bit 31 of a mask is not sent: all bits below it are. -/
theorem bit31_not_exact : bit31.value = 0x80000000 ∧
    ((mtk_rx_packet_filter (filterCommand bit31 noBits noBits)).map
      wpa_driver_rx_filter_params.Ipv4FilterLow) = some 0x7FFFFFFF ∧
    ∀ options, ¬ FiltersExactly options bit31 noBits noBits := by
  have hvalue : bit31.value = 0x80000000 := by decide +kernel
  have hparams : (mtk_rx_packet_filter (filterCommand bit31 noBits noBits)).map
      wpa_driver_rx_filter_params.Ipv4FilterLow = some 0x7FFFFFFF := by decide +kernel
  refine ⟨hvalue, hparams, ?_⟩
  rintro options ⟨_, params, hsent, hreconstructs⟩
  rw [hsent, Option.map_some] at hparams
  have hipv4 := hreconstructs.ipv4
  rw [Option.some.inj hparams, hvalue] at hipv4
  omega

end panelli.wpa_supplicant
