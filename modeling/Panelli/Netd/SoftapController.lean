import Panelli.Printf
import Panelli.KeyValueLines

open panelli.cstring panelli.printf panelli.keyValueLines

namespace panelli.netd

/-- What `setSoftap` comes to: it refuses the arguments, reads one that is not there, or has the
text of the configuration. -/
inductive SoftapResult where
  | missingArguments
  | readsPast
  | config (wbuf : List UInt8)

/-- The channel, from the property if it is set. -/
def softapChannel (AP_CHANNEL_DEFAULT : Int) (ap_channel : CString) (argv : List CString) : Option Int :=
  let given := if ap_channel.bytes ≠ [] then some ap_channel else argv[5]?
  given.map fun text => if atoi text.bytes ≤ 0 then AP_CHANNEL_DEFAULT else atoi text.bytes

/-- The lines in front of the SSID. -/
def softapFront : List Entry := [
  (ascii "interface", ascii "ap0"),
  (ascii "driver", ascii "nl80211"),
  (ascii "ctrl_interface", ascii "/data/misc/wifi/hostapd")]

/-- The lines for the channel and the broadcasts. -/
def channelLines (channel : Int) (hidden : Bool) : List Entry := [
  (ascii "channel", decimalText channel),
  (ascii "ieee80211n", ascii "1"),
  (ascii "hw_mode", if channel ≤ 14 then ascii "g" else ascii "a"),
  (ascii "ignore_broadcast_ssid", if hidden then ascii "1" else ascii "0"),
  (ascii "wowlan_triggers", ascii "any")]

def deviceLines : List Entry := [
  (ascii "device_name", ascii "AndroidAP"),
  (ascii "manufacturer", ascii "MediaTek Inc."),
  (ascii "model_name", ascii "MTK Wireless Model"),
  (ascii "model_number", ascii "66xx"),
  (ascii "serial_number", ascii "1.0"),
  (ascii "device_type", ascii "10-0050F204-5")]

/-- The lines for a hotspot manager, if there is the number of stations that may connect. -/
def hotspotLines (argv : List CString) : List Entry :=
  match argv[9]? with
  | none => []
  | some stations => [
    (ascii "max_num_sta", decimalText (atoi stations.bytes)),
    (ascii "eap_server", ascii "1"),
    (ascii "wps_state", ascii "2"),
    (ascii "config_methods", ascii "display physical_display push_button")]

/-- The lines behind the SSID. -/
def softapBack (channel : Int) (hidden : Bool) (argv : List CString) : List Entry :=
  channelLines channel hidden ++ hotspotLines argv ++ deviceLines

/-- `setSoftap` as far as the text of the configuration. Whether the network is hidden is read of
`argv[4]`. -/
def setSoftap (AP_CHANNEL_DEFAULT : Int) (ap_channel : CString) (hidden : CString → Bool) (argv : List CString) :
    SoftapResult :=
  match argv with
  | _ :: _ :: _ :: ssid :: broadcast :: _ =>
    match softapChannel AP_CHANNEL_DEFAULT ap_channel argv with
    | none => .readsPast
    | some channel =>
      .config (render (softapFront ++ (ascii "ssid", ssid.bytes) :: softapBack channel (hidden broadcast) argv))
  | _ => .missingArguments

section

variable {AP_CHANNEL_DEFAULT : Int} {ap_channel : CString} {hidden : CString → Bool} {argv : List CString}

theorem softapChannel_eq_none_iff :
    softapChannel AP_CHANNEL_DEFAULT ap_channel argv = none ↔ argv.length ≤ 5 ∧ ap_channel.bytes = [] := by
  simp only [softapChannel, Option.map_eq_none_iff]
  split
  · next hset => simp [hset]
  · next hunset => simp [not_not.mp hunset]

/-- The one argument that `setSoftap` may read behind the last is the channel. -/
theorem setSoftap_readsPast_iff :
    setSoftap AP_CHANNEL_DEFAULT ap_channel hidden argv = .readsPast ↔ argv.length = 5 ∧ ap_channel.bytes = [] := by
  match argv with
  | [] | [_] | [_, _] | [_, _, _] | [_, _, _, _] => simp [setSoftap]
  | command :: op :: iface :: ssid :: broadcast :: rest =>
    have hnone : softapChannel AP_CHANNEL_DEFAULT ap_channel (command :: op :: iface :: ssid :: broadcast :: rest) =
        none ↔ _ := softapChannel_eq_none_iff
    have hlength : (command :: op :: iface :: ssid :: broadcast :: rest).length ≤ 5 ↔
        (command :: op :: iface :: ssid :: broadcast :: rest).length = 5 := by
      simp only [List.length_cons]
      omega
    rw [← hlength, ← hnone, setSoftap]
    cases softapChannel AP_CHANNEL_DEFAULT ap_channel (command :: op :: iface :: ssid :: broadcast :: rest) with
    | none => simp
    | some channel => simp

/-- What a configuration is made of. -/
theorem setSoftap_config {wbuf : List UInt8}
    (hconfig : setSoftap AP_CHANNEL_DEFAULT ap_channel hidden argv = .config wbuf) {ssid : CString}
    (hssid : argv[3]? = some ssid) : ∃ channel broadcast,
      softapChannel AP_CHANNEL_DEFAULT ap_channel argv = some channel ∧ argv[4]? = some broadcast ∧
        wbuf = render (softapFront ++ (ascii "ssid", ssid.bytes) :: softapBack channel (hidden broadcast) argv) := by
  unfold setSoftap at hconfig
  split at hconfig
  · next command op iface name broadcast rest =>
    cases hssid
    split at hconfig
    · cases hconfig
    · next channel hchannel =>
      cases hconfig
      exact ⟨channel, broadcast, hchannel, rfl, rfl⟩
  · cases hconfig

/-- The lines around the SSID are read back whatever they are set to. -/
theorem softap_lines (channel : Int) (broadcast : Bool) (argv : List CString) :
    (∀ e ∈ softapFront, IsKey e.1 ∧ 10 ∉ e.2) ∧ ∀ e ∈ softapBack channel broadcast argv, IsKey e.1 ∧ 10 ∉ e.2 := by
  have hnumber : ∀ n : Int, 10 ∉ decimalText n := fun n => (oneLine_of_plain fun _ hb => plain_decimalText hb).2
  have hmode : 10 ∉ (if channel ≤ 14 then ascii "g" else ascii "a") := by
    split
    · decide
    · decide
  have hbroadcast : 10 ∉ (if broadcast then ascii "1" else ascii "0") := by
    cases broadcast with
    | false => decide
    | true => decide
  have hchannel : ∀ e ∈ channelLines channel broadcast, IsKey e.1 ∧ 10 ∉ e.2 := by
    simp only [channelLines, List.forall_mem_cons]
    refine ⟨⟨by decide, hnumber channel⟩, by decide, ⟨by decide, hmode⟩, ⟨by decide +kernel, hbroadcast⟩, by decide, ?_⟩
    exact List.forall_mem_nil _
  have hhotspot : ∀ e ∈ hotspotLines argv, IsKey e.1 ∧ 10 ∉ e.2 := by
    unfold hotspotLines
    split
    · exact List.forall_mem_nil _
    · simp only [List.forall_mem_cons]
      refine ⟨⟨by decide, hnumber _⟩, by decide, by decide, by decide +kernel, ?_⟩
      exact List.forall_mem_nil _
  have hfixed : (∀ e ∈ softapFront, IsKey e.1 ∧ 10 ∉ e.2) ∧ ∀ e ∈ deviceLines, IsKey e.1 ∧ 10 ∉ e.2 := by decide +kernel
  refine ⟨hfixed.1, ?_⟩
  simp only [softapBack, List.forall_mem_append]
  exact ⟨⟨hchannel, hhotspot⟩, hfixed.2⟩

/-- What is read of the configuration are the lines that were meant where the SSID is one line, and
where it goes on behind the end of one, whatever that says is read as well. -/
theorem softap_config_read {wbuf : List UInt8}
    (hconfig : setSoftap AP_CHANNEL_DEFAULT ap_channel hidden argv = .config wbuf) {ssid broadcast : CString}
    (hssid : argv[3]? = some ssid) (hbroadcast : argv[4]? = some broadcast) : ∃ channel,
      softapChannel AP_CHANNEL_DEFAULT ap_channel argv = some channel ∧
        (10 ∉ ssid.bytes → parse wbuf =
          softapFront ++ (ascii "ssid", ssid.bytes) :: softapBack channel (hidden broadcast) argv) ∧
        ∀ name rest, 10 ∉ name → ssid.bytes = name ++ 10 :: rest → parse wbuf =
          softapFront ++ (ascii "ssid", name) :: parse rest ++ softapBack channel (hidden broadcast) argv := by
  obtain ⟨channel, given, hchannel, hgiven, rfl⟩ := setSoftap_config hconfig hssid
  obtain rfl : given = broadcast := Option.some.inj (hgiven.symm.trans hbroadcast)
  obtain ⟨hfront, hback⟩ := softap_lines channel (hidden given) argv
  have hkeys : ∀ e ∈ softapFront ++ (ascii "ssid", ssid.bytes) :: softapBack channel (hidden given) argv,
      IsKey e.1 := by
    simp only [List.forall_mem_append, List.forall_mem_cons]
    exact ⟨fun e he => (hfront e he).1, by decide, fun e he => (hback e he).1⟩
  have hparse : parse (render (softapFront ++ (ascii "ssid", ssid.bytes) :: softapBack channel (hidden given) argv)) =
      softapFront ++ (read (ascii "ssid", ssid.bytes) ++ softapBack channel (hidden given) argv) := by
    rw [parse_render hkeys, List.flatMap_append, List.flatMap_cons, flatMap_read fun e he => (hfront e he).2,
      flatMap_read fun e he => (hback e he).2]
  refine ⟨channel, hchannel, ?_, ?_⟩
  · intro hline
    rw [hparse, read_of_line hline]
    rfl
  · intro name rest hname hlines
    rw [hparse, hlines, read_of_lines hname]
    simp only [List.cons_append, List.append_assoc]

end

/-- A network whose name goes on with a line that allows every station. -/
def openNetwork : List CString := [
  ⟨ascii "softap", by decide⟩, ⟨ascii "set", by decide⟩, ⟨ascii "softap0", by decide⟩,
  ⟨ascii "name\nauth_algs=1", by decide +kernel⟩, ⟨ascii "broadcast", by decide⟩, ⟨ascii "6", by decide⟩]

theorem softap_config_read_open : ∃ wbuf channel,
    setSoftap 6 ⟨[], by decide⟩ (fun _ => false) openNetwork = .config wbuf ∧
      parse wbuf = softapFront ++ (ascii "ssid", ascii "name") :: [(ascii "auth_algs", ascii "1")] ++
        softapBack channel false openNetwork := by
  have hconfig : setSoftap 6 ⟨[], by decide⟩ (fun _ => false) openNetwork = .config (render (softapFront ++
      (ascii "ssid", ascii "name\nauth_algs=1") :: softapBack 6 false openNetwork)) := rfl
  obtain ⟨channel, _, _, hlines⟩ := softap_config_read hconfig rfl rfl
  exact ⟨_, channel, hconfig, hlines (ascii "name") (ascii "auth_algs=1") (by decide) rfl⟩

end panelli.netd
