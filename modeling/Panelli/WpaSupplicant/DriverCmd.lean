import Panelli.CString

open panelli.cstring

namespace panelli.wpa_supplicant

/-- What the file can be built with. -/
inductive BuildOption where
  | CONFIG_HOTSPOT_MGR_SUPPORT
  | CONFIG_MTK_WFD_SINK
  | CONFIG_MTK_SCC_MCC
  | CONFIG_MTK_STAGE_SCAN
deriving DecidableEq

/-- The branches of `wpa_driver_nl80211_driver_cmd`, those that send a software command
with its address and data. The last one is for commands that no comparison holds for. -/
inductive Branch where
  | POWERMODE
  | GET_STA_STATISTICS
  | MACADDR
  | COUNTRY
  | start
  | stop
  | getpower
  | get_rts_threshold
  | set_rts_threshold
  | rxfilter (length offset : Nat)
  | sw_cmd (adr dat : Nat)
  | btcoex
  | smt_rate
  | STA_BLOCK
  | STA_UNBLOCK
  | p2p_get_cap
  | p2p_set_cap
  | MIRACAST
  | p2p_use_mcc
  | set_band (adr : Nat)
  | set_scan_loading
  | SETSUSPENDMODE
  | mtk_rx_packet_filter
  | transparent
deriving DecidableEq

/-- A branch with its comparison, and the option it is only built with. -/
structure Command where
  requires : Option BuildOption
  test : Comparison
  branch : Branch
deriving DecidableEq

/-- All branches in the order of their comparisons. -/
def commands : List Command := [
  ⟨none, .strncasecmp (ascii "POWERMODE ") 10, .POWERMODE⟩,
  ⟨none, .strncasecmp (ascii "GET_STA_STATISTICS ") 19, .GET_STA_STATISTICS⟩,
  ⟨none, .strncmp (ascii "MACADDR") 7, .MACADDR⟩,
  ⟨none, .strncasecmp (ascii "COUNTRY") 7, .COUNTRY⟩,
  ⟨none, .strcasecmp (ascii "start"), .start⟩,
  ⟨none, .strcasecmp (ascii "stop"), .stop⟩,
  ⟨none, .strncasecmp (ascii "getpower") 8, .getpower⟩,
  ⟨none, .strncasecmp (ascii "get-rts-threshold") 17, .get_rts_threshold⟩,
  ⟨none, .strncasecmp (ascii "set-rts-threshold") 17, .set_rts_threshold⟩,
  ⟨none, .strncasecmp (ascii "rxfilter-add") 12, .rxfilter 12 0x00900200⟩,
  ⟨none, .strncasecmp (ascii "rxfilter-remove") 15, .rxfilter 15 0x00900300⟩,
  ⟨none, .strncasecmp (ascii "rxfilter-stop") 13, .sw_cmd 0x9F000000 0x00900000⟩,
  ⟨none, .strncasecmp (ascii "rxfilter-start") 14, .sw_cmd 0x9F000000 0x00900100⟩,
  ⟨none, .strcasecmp (ascii "btcoexscan-start"), .btcoex⟩,
  ⟨none, .strcasecmp (ascii "btcoexscan-stop"), .btcoex⟩,
  ⟨none, .strncasecmp (ascii "btcoexmode") 10, .btcoex⟩,
  ⟨none, .strncasecmp (ascii "smt-rate") 8, .smt_rate⟩,
  ⟨none, .strncasecmp (ascii "smt-test-on") 11, .sw_cmd 0xFFFF1234 0⟩,
  ⟨none, .strncasecmp (ascii "smt-test-off") 12, .sw_cmd 0xFFFF1235 0⟩,
  ⟨none, .strncasecmp (ascii "smt-test-scan-on") 16, .sw_cmd 0xFFFF1260 0⟩,
  ⟨none, .strncasecmp (ascii "smt-test-scan-off") 17, .sw_cmd 0xFFFF1261 0⟩,
  ⟨none, .strncasecmp (ascii "smt-test-roam-on") 16, .sw_cmd 0xFFFF1262 0⟩,
  ⟨none, .strncasecmp (ascii "smt-test-roam-off") 17, .sw_cmd 0xFFFF1263 0⟩,
  ⟨none, .strncasecmp (ascii "smt-test-cam-on") 15, .sw_cmd 0xFFFF1264 0⟩,
  ⟨none, .strncasecmp (ascii "smt-test-cam-off") 16, .sw_cmd 0xFFFF1265 0⟩,
  ⟨none, .strncasecmp (ascii "smt-test-bcn-on") 15, .sw_cmd 0xFFFF1266 0⟩,
  ⟨none, .strncasecmp (ascii "smt-test-bcn-off") 16, .sw_cmd 0xFFFF1267 0⟩,
  ⟨none, .strncasecmp (ascii "smt-test-power-on") 17, .sw_cmd 0xFFFF1268 0⟩,
  ⟨none, .strncasecmp (ascii "smt-test-power-off") 18, .sw_cmd 0xFFFF1269 0⟩,
  ⟨none, .strncasecmp (ascii "smt-test-fifo-on") 16, .sw_cmd 0xFFFF1270 0⟩,
  ⟨none, .strncasecmp (ascii "smt-test-fifo-off") 17, .sw_cmd 0xFFFF1271 0⟩,
  ⟨some .CONFIG_HOTSPOT_MGR_SUPPORT, .strncmp (ascii "STA-BLOCK ") 10, .STA_BLOCK⟩,
  ⟨some .CONFIG_HOTSPOT_MGR_SUPPORT, .strncmp (ascii "STA-UNBLOCK ") 12, .STA_UNBLOCK⟩,
  ⟨some .CONFIG_MTK_WFD_SINK, .strncmp (ascii "p2p_get_cap ") 12, .p2p_get_cap⟩,
  ⟨some .CONFIG_MTK_WFD_SINK, .strncmp (ascii "p2p_set_cap ") 12, .p2p_set_cap⟩,
  ⟨some .CONFIG_MTK_WFD_SINK, .strncmp (ascii "MIRACAST ") 9, .MIRACAST⟩,
  ⟨some .CONFIG_MTK_SCC_MCC, .strncasecmp (ascii "p2p_use_mcc=") 12, .p2p_use_mcc⟩,
  ⟨some .CONFIG_MTK_STAGE_SCAN, .strncasecmp (ascii "set_band_dual") 13, .set_band 0xFFFF1250⟩,
  ⟨some .CONFIG_MTK_STAGE_SCAN, .strncasecmp (ascii "set_band_2g4") 12, .set_band 0xFFFF1251⟩,
  ⟨some .CONFIG_MTK_STAGE_SCAN, .strncasecmp (ascii "set_band_5g") 11, .set_band 0xFFFF1252⟩,
  ⟨some .CONFIG_MTK_STAGE_SCAN, .strncasecmp (ascii "set_scan_loading") 16, .set_scan_loading⟩,
  ⟨none, .strncasecmp (ascii "SETSUSPENDMODE ") 15, .SETSUSPENDMODE⟩,
  ⟨none, .strncasecmp (ascii "mtk_rx_packet_filter ") 21, .mtk_rx_packet_filter⟩]

/-- The branch is there with these options. -/
def Command.Built (options : BuildOption → Bool) (command : Command) : Prop :=
  ∀ option ∈ command.requires, options option

instance (options : BuildOption → Bool) (command : Command) : Decidable (command.Built options) :=
  inferInstanceAs (Decidable (∀ option ∈ command.requires, _))

/-- The first branch whose comparison holds for a command. -/
def selected (options : BuildOption → Bool) (cmd : List UInt8) : Branch :=
  match (commands.filter (·.Built options)).find? (·.test.holds cmd) with
  | some command => command.branch
  | none => .transparent

/-- The version of a test mode message, in the upper bits of its index. -/
def TESTMODE_VERSION : Nat := 0x01 <<< 24

/-- A `long` that is stored in a field of 32 bits without a sign. -/
def toU32 (value : Int) : Nat := (value % 0x100000000).toNat

/-- A number without a sign that is stored in an `int`. -/
def toInt (n : Nat) : Int := (n : Int).bmod 0x100000000

section

variable {options : BuildOption → Bool} {cmd : List UInt8} {command : Command} {branch : Branch}

theorem built_of_none (hnone : command.requires = none) : command.Built options := by
  intro option hoption
  rw [hnone] at hoption
  cases hoption

theorem built_iff_of_some {option : BuildOption} (hsome : command.requires = some option) :
    command.Built options ↔ options option := by
  rw [Command.Built, hsome]
  exact ⟨fun hall => hall option rfl, fun hoption other hother => Option.some.inj hother ▸ hoption⟩

/-- No two comparisons hold for one command, so their order does not matter. -/
theorem commands_pairwise (cmd : List UInt8) :
    commands.Pairwise fun a b => a.test.holds cmd → ¬ b.test.holds cmd := by
  have hclash : commands.Pairwise fun a b => clash a.test.start b.test.start := by decide +kernel
  exact hclash.imp fun hab ha => Comparison.not_holds_of_clash hab ha

theorem find?_commands_iff : (commands.filter (·.Built options)).find? (·.test.holds cmd) = some command ↔
    command ∈ commands ∧ command.Built options ∧ command.test.holds cmd := by
  have hpairwise := (commands_pairwise cmd).filter (·.Built options)
  rw [find?_eq_some_iff_of_pairwise hpairwise, List.mem_filter, decide_eq_true_eq, and_assoc]

theorem branch_ne_transparent : ∀ command ∈ commands, command.branch ≠ .transparent := by decide +kernel

/-- A command is transparent exactly if no comparison holds for it. -/
theorem selected_transparent_iff : selected options cmd = .transparent ↔
    ∀ command ∈ commands, command.Built options → ¬ command.test.holds cmd := by
  unfold selected
  cases hfind : (commands.filter (·.Built options)).find? (·.test.holds cmd) with
  | some command =>
    obtain ⟨hmem, hbuilt, hholds⟩ := find?_commands_iff.mp hfind
    constructor
    · exact fun heq => absurd heq (branch_ne_transparent command hmem)
    · exact fun hnone => absurd hholds (hnone command hmem hbuilt)
  | none =>
    refine ⟨fun _ command hmem hbuilt hholds => ?_, fun _ => rfl⟩
    rw [find?_commands_iff.mpr ⟨hmem, hbuilt, hholds⟩] at hfind
    cases hfind

/-- The comparisons only hold for commands that start with one of these letters. -/
theorem selected_transparent_of_head {b : UInt8} (hhead : (cmd.map tolower).head? = some b)
    (hother : b ∉ ascii "bcgmprs") : selected options cmd = .transparent := by
  have hletters : ∀ command ∈ commands, command.test.start ≠ [] ∧
      ∀ letter ∈ command.test.start.take 1, letter ∈ ascii "bcgmprs" := by
    decide +kernel
  apply selected_transparent_iff.mpr
  intro command hmem _ hholds
  obtain ⟨hne, hletter⟩ := hletters command hmem
  obtain ⟨rest, hrest⟩ := Comparison.isPrefix_of_holds hholds
  obtain ⟨first, tail, hstart⟩ := List.exists_cons_of_ne_nil hne
  rw [← hrest, hstart, List.cons_append, List.head?_cons] at hhead
  apply hother
  apply hletter
  rw [hstart, ← Option.some.inj hhead]
  exact List.mem_singleton_self first

/-- A branch with a single comparison is the one for a command exactly if it is built and
the comparison holds. -/
theorem selected_eq_iff (hsingle : commands.filter (·.branch = branch) = [command]) :
    selected options cmd = branch ↔ command.Built options ∧ command.test.holds cmd := by
  have hfiltered : ∀ other, other ∈ commands ∧ other.branch = branch ↔ other = command := by
    intro other
    have hother : other ∈ commands.filter (·.branch = branch) ↔ other = command := by
      rw [hsingle, List.mem_singleton]
    rwa [List.mem_filter, decide_eq_true_eq] at hother
  obtain ⟨hmem, rfl⟩ := (hfiltered command).mpr rfl
  unfold selected
  cases hfind : (commands.filter (·.Built options)).find? (·.test.holds cmd) with
  | some other =>
    obtain ⟨hother, hbuilt, hholds⟩ := find?_commands_iff.mp hfind
    constructor
    · intro heq
      obtain rfl := (hfiltered other).mp ⟨hother, heq⟩
      exact ⟨hbuilt, hholds⟩
    · rintro ⟨hbuilt', hholds'⟩
      rw [find?_commands_iff.mpr ⟨hmem, hbuilt', hholds'⟩] at hfind
      rw [Option.some.inj hfind]
  | none =>
    constructor
    · exact fun heq => absurd heq.symm (branch_ne_transparent command hmem)
    · rintro ⟨hbuilt', hholds'⟩
      rw [find?_commands_iff.mpr ⟨hmem, hbuilt', hholds'⟩] at hfind
      cases hfind

theorem selected_eq_iff_of_none {test : Comparison}
    (hsingle : commands.filter (·.branch = branch) = [⟨none, test, branch⟩]) :
    selected options cmd = branch ↔ test.holds cmd := by
  rw [selected_eq_iff hsingle]
  exact and_iff_right (built_of_none rfl)

theorem selected_eq_iff_of_some {test : Comparison} {option : BuildOption}
    (hsingle : commands.filter (·.branch = branch) = [⟨some option, test, branch⟩]) :
    selected options cmd = branch ↔ options option ∧ test.holds cmd := by
  rw [selected_eq_iff hsingle, built_iff_of_some rfl]

end

end panelli.wpa_supplicant
