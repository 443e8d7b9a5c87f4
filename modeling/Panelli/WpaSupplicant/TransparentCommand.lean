import Panelli.WpaSupplicant.DriverCmd
import Panelli.WpaSupplicant.Testmode

open panelli.access panelli.bytes panelli.cstring

namespace panelli.wpa_supplicant

def PRIV_CMD_SIZE : Nat := 512

def NL80211_TESTMODE_STR_CMD : Nat := 102

/-- `sizeof(struct wpa_driver_test_mode_info)`. -/
def SIZEOF_TEST_MODE_INFO : Nat := 8

structure android_wifi_priv_cmd where
  buf : List UInt8
  used_len : Int
  total_len : Int
deriving DecidableEq

/-- The index and the length in the header of a command that is passed on. -/
def transparentIndex : Nat := NL80211_TESTMODE_STR_CMD ||| TESTMODE_VERSION

def transparentBuflen (cmd : List UInt8) : Nat := toU32 (SIZEOF_TEST_MODE_INFO + cmd.length)

/-- The buffer of the last branch, once it is filled. -/
def transparentBuffer (cmd : List UInt8) : Block :=
  let buffer := Block.fresh 100
  let buffer := buffer.put 0 (le32 transparentIndex)
  let buffer := buffer.put 4 (le32 (transparentBuflen cmd))
  buffer.put SIZEOF_TEST_MODE_INFO (strncpy cmd (100 - SIZEOF_TEST_MODE_INFO))

/-- The ranges of the buffer that the test mode message reads. It is only made where it can be
allocated and so many bytes can be put into it. -/
def messageReads (puts : Nat → Bool) (data_len : Nat) : List Range :=
  (wpa_driver_nl80211_testmode ⟨true, puts, fun _ => (0, [])⟩ transparentIndex data_len ()).reads

/-- The private command that is issued, unless the copy into it is too long. -/
def privateCommand (cmd : List UInt8) : Option android_wifi_priv_cmd :=
  let cmd_len := toInt cmd.length
  let cmd_len := if cmd_len ≥ PRIV_CMD_SIZE then (PRIV_CMD_SIZE : Int) - 1 else cmd_len
  let copied := toU32 (cmd_len + 1)
  if copied ≤ PRIV_CMD_SIZE then
    some {
      buf := overwrite (List.replicate PRIV_CMD_SIZE 0) ((cmd ++ [0]).take copied)
      used_len := cmd_len + 1
      total_len := PRIV_CMD_SIZE }
  else none

/-- What is done with a command that is not recognised: the buffer and what is read of
it, and the private command. -/
structure Transparent where
  buffer : Block
  reads : List Range
  priv_cmd : Option android_wifi_priv_cmd

def passedOn (puts : Nat → Bool) (cmd : List UInt8) : Transparent where
  buffer := transparentBuffer cmd
  reads := messageReads puts (transparentBuflen cmd)
  priv_cmd := privateCommand cmd

def transparent (options : BuildOption → Bool) (puts : Nat → Bool) (cmd : CString) : Option Transparent :=
  if selected options cmd.bytes = .transparent then some (passedOn puts cmd.bytes) else none

/-- The buffer holds the start of a command as a string, which the length used is for. -/
structure android_wifi_priv_cmd.Holds (priv_cmd : android_wifi_priv_cmd) (cmd text : List UInt8) : Prop where
  start : text <+: cmd
  terminated : text ++ [0] <+: priv_cmd.buf
  used_len : priv_cmd.used_len = text.length + 1
  le_size : priv_cmd.used_len ≤ PRIV_CMD_SIZE

/-- Only what was written is read, and the private command is well formed. -/
structure Transparent.Framed (sent : Transparent) (cmd : List UInt8) : Prop where
  initialised : ∀ r ∈ sent.reads, sent.buffer.Initialised r.offset r.size
  terminated : ∃ priv_cmd ∈ sent.priv_cmd, ∃ text, priv_cmd.Holds cmd text

/-- The command fits into the buffer behind the header, or no message is made of it. -/
def FitsMessage (puts : Nat → Bool) (cmd : List UInt8) : Prop :=
  cmd.length ≤ 92 ∨ puts (SIZEOF_TEST_MODE_INFO + cmd.length) = false

section

variable {puts : Nat → Bool} {cmd text : List UInt8} {data_len : Nat}

/-- The whole buffer is written: `strncpy` fills it up. -/
theorem transparentBuffer_eq (cmd : List UInt8) :
    transparentBuffer cmd = (le32 transparentIndex ++ le32 (transparentBuflen cmd) ++ strncpy cmd 92).map some := by
  have hfresh : Block.fresh 100 = ([] : List UInt8).map some ++ Block.fresh 100 := rfl
  have hrest : strncpy cmd (100 - SIZEOF_TEST_MODE_INFO) = strncpy cmd 92 := rfl
  have hfull : 100 - (le32 transparentIndex).length - (le32 (transparentBuflen cmd)).length -
      (strncpy cmd 92).length = 0 := by
    rw [strncpy_length]
    rfl
  unfold transparentBuffer
  dsimp only
  rw [hfresh, hrest, Block.put_fresh (by rfl), Block.put_fresh (by rfl), Block.put_fresh (by rfl), hfull,
    List.nil_append]
  exact List.append_nil _

theorem transparentBuffer_initialised_iff {offset size : Nat} :
    (transparentBuffer cmd).Initialised offset size ↔ size = 0 ∨ offset + size ≤ 100 := by
  have hlength : (le32 transparentIndex ++ le32 (transparentBuflen cmd) ++ strncpy cmd 92).length = 100 := by
    rw [List.length_append, List.length_append, strncpy_length]
    rfl
  rw [Block.initialised_iff_of_map_some (transparentBuffer_eq cmd), hlength]

theorem transparentBuflen_eq (hlength : cmd.length < PRIV_CMD_SIZE) :
    transparentBuflen cmd = SIZEOF_TEST_MODE_INFO + cmd.length := by
  simp only [transparentBuflen, toU32, SIZEOF_TEST_MODE_INFO, PRIV_CMD_SIZE] at *
  omega

/-- A message reads the data, and the index in it. -/
theorem messageReads_of_puts (hputs : puts data_len = true) : messageReads puts data_len = [⟨0, data_len⟩, ⟨0, 4⟩] := by
  have hindex : ¬ transparentIndex &&& 0xFFFFFF = NL80211_TESTMODE_STATISTICS := by decide
  rw [messageReads, testmode_of_made rfl hputs, if_neg hindex]

/-- Only what was written is read, exactly if the command fits. -/
theorem reads_initialised_iff (hlength : cmd.length < PRIV_CMD_SIZE) :
    (∀ r ∈ messageReads puts (transparentBuflen cmd), (transparentBuffer cmd).Initialised r.offset r.size) ↔
      FitsMessage puts cmd := by
  rw [transparentBuflen_eq hlength, FitsMessage]
  cases hputs : puts (SIZEOF_TEST_MODE_INFO + cmd.length) with
  | false =>
    have hnone : messageReads puts (SIZEOF_TEST_MODE_INFO + cmd.length) = [] :=
      (testmode_of_not_made fun h => Bool.noConfusion (hputs.symm.trans h.2)).2.2
    rw [hnone]
    exact ⟨fun _ => Or.inr rfl, fun _ r hr => absurd hr List.not_mem_nil⟩
  | true =>
    rw [messageReads_of_puts hputs, List.forall_mem_cons, List.forall_mem_singleton, transparentBuffer_initialised_iff,
      transparentBuffer_initialised_iff]
    dsimp only [SIZEOF_TEST_MODE_INFO]
    simp only [Bool.true_eq_false, or_false]
    omega

/-- What the private command is, where the command is short enough for all of it. -/
theorem privateCommand_eq (hlength : cmd.length < PRIV_CMD_SIZE) :
    privateCommand cmd = some {
      buf := overwrite (List.replicate PRIV_CMD_SIZE 0) (cmd ++ [0])
      used_len := cmd.length + 1
      total_len := PRIV_CMD_SIZE } := by
  have hlt : cmd.length < 512 := hlength
  have hint : toInt cmd.length = cmd.length := by
    unfold toInt
    rw [Int.bmod_def]
    omega
  have hkept : ¬ (cmd.length : Int) ≥ (PRIV_CMD_SIZE : Nat) := by
    dsimp only [PRIV_CMD_SIZE]
    omega
  have hcopied : toU32 (cmd.length + 1) = cmd.length + 1 := by
    rw [toU32]
    omega
  have hall : (cmd ++ [0]).take (cmd.length + 1) = cmd ++ [0] := by
    apply List.take_of_length_le
    rw [List.length_append, List.length_singleton]
  unfold privateCommand
  simp only [hint, if_neg hkept, hcopied, hall, if_pos (Nat.succ_le_of_lt hlength)]

theorem privateCommand_holds (hlength : cmd.length < PRIV_CMD_SIZE) :
    ∃ priv_cmd ∈ privateCommand cmd, ∃ text, priv_cmd.Holds cmd text := by
  refine ⟨_, privateCommand_eq hlength, cmd, List.prefix_rfl, List.prefix_append _ _, rfl, ?_⟩
  exact Int.ofNat_le.mpr (Nat.succ_le_of_lt hlength)

/-- The buffer of a private command starts with the bytes that were copied. -/
theorem privateCommand_inv {priv_cmd : android_wifi_priv_cmd} (hpriv : priv_cmd ∈ privateCommand cmd) :
    toU32 priv_cmd.used_len ≤ PRIV_CMD_SIZE ∧ (cmd ++ [0]).take (toU32 priv_cmd.used_len) <+: priv_cmd.buf := by
  unfold privateCommand at hpriv
  dsimp only at hpriv
  split_ifs at hpriv with hlong hcopied hcopied
  · obtain rfl := Option.some.inj hpriv
    exact ⟨hcopied, List.prefix_append _ _⟩
  · cases hpriv
  · obtain rfl := Option.some.inj hpriv
    exact ⟨hcopied, List.prefix_append _ _⟩
  · cases hpriv

/-- A terminator within what was copied is the one of the command, which then is short. -/
theorem length_lt_of_holds (hnul : 0 ∉ cmd) {priv_cmd : android_wifi_priv_cmd}
    (hpriv : priv_cmd ∈ privateCommand cmd) (hholds : priv_cmd.Holds cmd text) : cmd.length < PRIV_CMD_SIZE := by
  obtain ⟨hcopied, hstart⟩ := privateCommand_inv hpriv
  obtain ⟨_, hterminated, hused, hle⟩ := hholds
  have hsize : toU32 priv_cmd.used_len = text.length + 1 := by
    rw [hused, toU32]
    dsimp only [PRIV_CMD_SIZE] at hle
    omega
  rw [hsize] at hcopied hstart
  by_contra hlong
  -- the terminator is a byte that was copied, which is one of the command
  have htaken : (cmd ++ [0]).take (text.length + 1) = cmd.take (text.length + 1) :=
    List.take_append_of_le_length (by omega)
  rw [htaken] at hstart
  have hlength : (text ++ [0]).length = (cmd.take (text.length + 1)).length := by
    rw [List.length_append, List.length_singleton, List.length_take, Nat.min_eq_left (by omega)]
  have heq := (List.prefix_of_prefix_length_le hterminated hstart (Nat.le_of_eq hlength)).eq_of_length hlength
  apply hnul
  apply List.mem_of_mem_take (i := text.length + 1)
  rw [← heq]
  exact List.mem_append_right _ (List.mem_singleton_self 0)

/-- The private command is well formed exactly for commands that fit with a terminator. -/
theorem privateCommand_holds_iff (hnul : 0 ∉ cmd) :
    (∃ priv_cmd ∈ privateCommand cmd, ∃ text, priv_cmd.Holds cmd text) ↔ cmd.length < PRIV_CMD_SIZE := by
  refine ⟨?_, privateCommand_holds⟩
  rintro ⟨priv_cmd, hpriv, text, hholds⟩
  exact length_lt_of_holds hnul hpriv hholds

theorem passedOn_framed_iff (hnul : 0 ∉ cmd) :
    (passedOn puts cmd).Framed cmd ↔ cmd.length < PRIV_CMD_SIZE ∧ FitsMessage puts cmd := by
  constructor
  · rintro ⟨hinitialised, hterminated⟩
    dsimp only [passedOn] at hinitialised hterminated
    have hlength := (privateCommand_holds_iff hnul).mp hterminated
    exact ⟨hlength, (reads_initialised_iff hlength).mp hinitialised⟩
  · rintro ⟨hlength, hfits⟩
    constructor
    · exact (reads_initialised_iff hlength).mpr hfits
    · dsimp only [passedOn]
      exact privateCommand_holds hlength

end

/-- A command that is not recognised is framed well exactly if it is short enough for the
private command, and for the test mode message if there is one. -/
theorem transparent_framed_iff (options : BuildOption → Bool) (puts : Nat → Bool) (cmd : CString)
    (hunknown : selected options cmd.bytes = .transparent) :
    (∃ sent ∈ transparent options puts cmd, sent.Framed cmd.bytes) ↔
      cmd.bytes.length < PRIV_CMD_SIZE ∧ FitsMessage puts cmd.bytes := by
  rw [transparent, if_pos hunknown, ← passedOn_framed_iff cmd.no_nul]
  constructor
  · rintro ⟨sent, hsent, hframed⟩
    obtain rfl := Option.some.inj hsent
    exact hframed
  · exact fun hframed => ⟨_, rfl, hframed⟩

/-- The command that stops the scans in batches, with all options. -/
theorem batching_framed :
    ∃ sent ∈ transparent (fun _ => true) (fun _ => true) ⟨ascii "WLS_BATCHING STOP", by decide⟩,
      sent.Framed (ascii "WLS_BATCHING STOP") := by
  have hunknown : selected (fun _ => true) (ascii "WLS_BATCHING STOP") = .transparent :=
    selected_transparent_of_head (b := 119) (by decide +kernel) (by decide +kernel)
  exact (transparent_framed_iff _ _ ⟨_, by decide⟩ hunknown).mpr ⟨by decide, Or.inl (by decide)⟩

/-- So many letters. -/
def letters (n : Nat) : CString := ⟨List.replicate n 65, fun hmem => by cases List.eq_of_mem_replicate hmem⟩

/-- The message of 93 letters reads a byte behind the buffer, and 512 letters are not
terminated in the private command. -/
theorem letters_not_framed :
    (∃ sent ∈ transparent (fun _ => true) (fun _ => true) (letters 93), ¬ sent.Framed (letters 93).bytes) ∧
      ∃ sent ∈ transparent (fun _ => true) (fun _ => true) (letters 512), ¬ sent.Framed (letters 512).bytes := by
  have hunknown : ∀ n, selected (fun _ => true) (letters (n + 1)).bytes = .transparent :=
    fun n => selected_transparent_of_head (b := 97) rfl (by decide +kernel)
  constructor
  · refine ⟨_, if_pos (hunknown 92), ?_⟩
    rw [passedOn_framed_iff (letters 93).no_nul]
    rintro ⟨_, hfits | hfits⟩
    · exact absurd hfits (by decide)
    · cases hfits
  · refine ⟨_, if_pos (hunknown 511), ?_⟩
    rw [passedOn_framed_iff (letters 512).no_nul]
    rintro ⟨hlength, _⟩
    have h : (letters 512).bytes.length = 512 := List.length_replicate
    rw [h] at hlength
    exact Nat.lt_irrefl _ hlength

end panelli.wpa_supplicant
