import Panelli.Descriptors
import Panelli.Printf
import Mathlib.Tactic.SplitIfs

open panelli.cstring panelli.descriptors panelli.printf panelli.runs

namespace panelli.netd

/-- How the system answers what a call asks of it, where no answer is an error. -/
structure System where
  socket : Bool
  setsockopt : Bool
  connect : Bool
  fdopen : Bool
  fprintf : Bool
  fputc : Bool
  fflush : Bool
  response : List UInt8
  ioctl : Int

/-- What is asked of a driver. -/
inductive Driven where
  | killsock (appuid errorNum : Int)
  | txqstate (ifr_name : List UInt8) (ifru_ivalue : Int)
  | ccmnicfg (ifr_name : List UInt8) (ifru_ivalue : Int)
deriving DecidableEq

/-- What a call comes to. Of a request that was not sent as a whole nothing is told. -/
structure Outcome where
  ret : Int
  fds : Finset Nat
  sent : Option (List UInt8)
  rcv_buf : Block
  driven : Option Driven

/-- A call that ends without a message. -/
def Outcome.ended (ret : Int) (fds : Finset Nat) : Outcome := ⟨ret, fds, none, [], none⟩

/-- A socket that is connected to netd. -/
def ifc_netd_sock_init (sys : System) (fds : Finset Nat) : Option Nat × Finset Nat :=
  if !sys.socket then (none, fds)
  else
    let ifc_netd_sock := lowest fds
    if !sys.setsockopt then (none, (opened fds).erase ifc_netd_sock)
    else if !sys.connect then (none, (opened fds).erase ifc_netd_sock)
    else (some ifc_netd_sock, opened fds)

/-- The response in its buffer, whose last byte is set behind it. -/
def received (response : List UInt8) : Block :=
  ((Block.fresh 24).put 0 (response.take 20)).put 23 [0]

/-- What the calls to netd have in common: all but the text of the request. -/
def ask (request : List UInt8) (sys : System) (fds : Finset Nat) : Outcome :=
  match ifc_netd_sock_init sys fds with
  | (none, fds) => .ended (-1) fds
  | (some netd_sock, fds) =>
    if netd_sock ≤ 0 then .ended (-1) fds
    else if !sys.fdopen then .ended (-1) fds
    else
      -- From here on `fclose` closes the socket.
      if !sys.fprintf then .ended (-1) (fds.erase netd_sock)
      else if !sys.fputc || !sys.fflush then .ended (-1) (fds.erase netd_sock)
      else ⟨0, fds.erase netd_sock, some (request ++ [0]), received sys.response, none⟩

def ifc_set_throttle (ifname : CString) (rxKbps txKbps : Int) : System → Finset Nat → Outcome :=
  ask (decimalText 1 ++ ascii " interface setthrottle " ++ ifname.bytes ++ 32 :: decimalText rxKbps ++
    32 :: decimalText txKbps)

def ifc_set_fwmark_rule (ifname : CString) (mark add : Int) : System → Finset Nat → Outcome :=
  let op := if add ≠ 0 then ascii "add" else ascii "remove"
  ask (decimalText 2 ++ ascii " network fwmark " ++ op ++ 32 :: ifname.bytes ++ 32 :: decimalText mark)

def ifc_set_nsiot_firewall (flag : Int) : System → Finset Nat → Outcome :=
  let op := if flag ≠ 0 then ascii "set_nsiot_firewall" else ascii "clear_nsiot_firewall"
  ask (decimalText 2 ++ ascii " firewall " ++ op ++ [32])

def ifc_reset_connection_by_uid (uid error : Int) (sys : System) (fds : Finset Nat) : Outcome :=
  if !sys.socket then .ended (-1) fds
  else if uid < 0 then .ended (-1) ((opened fds).erase (lowest fds))
  else ⟨sys.ioctl, (opened fds).erase (lowest fds), none, [], some (.killsock uid error)⟩

def IFNAMSIZ : Nat := 16

def ifc_set_txq_state (ifname : CString) (state : Int) (sys : System) (fds : Finset Nat) : Outcome :=
  let ifr_name := (strncpy ifname.bytes IFNAMSIZ).set (IFNAMSIZ - 1) 0
  if !sys.socket then .ended (-1) fds
  else ⟨sys.ioctl, (opened fds).erase (lowest fds), none, [], some (.txqstate ifr_name state)⟩

/-- The name is put into the request by a function of the library that was there before. -/
def ifc_ccmni_md_cfg (ifc_init_ifr : CString → List UInt8) (ifname : CString) (md_id : Int) (sys : System)
    (fds : Finset Nat) : Outcome :=
  if !sys.socket then .ended (-1) fds
  else
    let ret := if sys.ioctl < 0 then -1 else 0
    ⟨ret, (opened fds).erase (lowest fds), none, [], some (.ccmnicfg (ifc_init_ifr ifname) md_id)⟩

inductive Call where
  | throttle (ifname : CString) (rxKbps txKbps : Int)
  | fwmark_rule (ifname : CString) (mark add : Int)
  | nsiot_firewall (flag : Int)
  | reset_connection_by_uid (uid error : Int)
  | txq_state (ifname : CString) (state : Int)
  | ccmni_md_cfg (ifname : CString) (md_id : Int)

def call (ifc_init_ifr : CString → List UInt8) : Call → System → Finset Nat → Outcome
  | .throttle ifname rxKbps txKbps => ifc_set_throttle ifname rxKbps txKbps
  | .fwmark_rule ifname mark add => ifc_set_fwmark_rule ifname mark add
  | .nsiot_firewall flag => ifc_set_nsiot_firewall flag
  | .reset_connection_by_uid uid error => ifc_reset_connection_by_uid uid error
  | .txq_state ifname state => ifc_set_txq_state ifname state
  | .ccmni_md_cfg ifname md_id => ifc_ccmni_md_cfg ifc_init_ifr ifname md_id

/-- The open descriptors behind a call. -/
def descriptors (ifc_init_ifr : CString → List UInt8) (fds : Finset Nat) (act : Call × System) : Finset Nat :=
  (call ifc_init_ifr act.1 act.2 fds).fds

/-- What a call tells netd, where the last argument of some is just a truth value. -/
inductive Told where
  | throttle (ifname : List UInt8) (rxKbps txKbps : Int)
  | fwmark (ifname : List UInt8) (mark : Int) (add : Bool)
  | firewall (set : Bool)

def Call.told : Call → Option Told
  | .throttle ifname rxKbps txKbps => some (.throttle ifname.bytes rxKbps txKbps)
  | .fwmark_rule ifname mark add => some (.fwmark ifname.bytes mark (add ≠ 0))
  | .nsiot_firewall flag => some (.firewall (flag ≠ 0))
  | .reset_connection_by_uid _ _ | .txq_state _ _ | .ccmni_md_cfg _ _ => none

/-- The kinds of requests. -/
inductive Heading where
  | setthrottle
  | fwmark (add : Bool)
  | firewall (set : Bool)

def Heading.text : Heading → List UInt8
  | .setthrottle => decimalText 1 ++ ascii " interface setthrottle "
  | .fwmark add => decimalText 2 ++ ascii " network fwmark " ++ if add then ascii "add" else ascii "remove"
  | .firewall set =>
    decimalText 2 ++ ascii " firewall " ++ if set then ascii "set_nsiot_firewall" else ascii "clear_nsiot_firewall"

def Told.heading : Told → Heading
  | .throttle _ _ _ => .setthrottle
  | .fwmark _ _ add => .fwmark add
  | .firewall set => .firewall set

/-- What is said of it. -/
def Told.arguments : Told → List UInt8
  | .throttle ifname rxKbps txKbps => ifname ++ 32 :: decimalText rxKbps ++ 32 :: decimalText txKbps
  | .fwmark ifname mark _ => 32 :: ifname ++ 32 :: decimalText mark
  | .firewall _ => [32]

/-- The text of a request. -/
def Told.text (told : Told) : List UInt8 := told.heading.text ++ told.arguments

/-- A call that gets a socket that netd took. -/
def connects (act : Call × System) : Bool :=
  act.1.told.isSome && act.2.socket && act.2.setsockopt && act.2.connect

/-- The sockets for which there is no stream. -/
def unstreamed (acts : List (Call × System)) : Nat := acts.countP fun act => connects act && !act.2.fdopen

/-- The sockets that are left open if at first descriptor 0 is free: the first socket gets it,
and is taken for none. -/
def leftFromZero : List (Call × System) → Nat
  | [] => 0
  | act :: acts => if connects act then unstreamed acts + 1 else leftFromZero acts

/-- The sockets that a run of calls leaves open. -/
def leftOpen (fds : Finset Nat) (acts : List (Call × System)) : Nat :=
  if 0 ∈ fds then unstreamed acts else leftFromZero acts

section

variable {ifc_init_ifr : CString → List UInt8} {sys : System} {fds : Finset Nat} {request : List UInt8}

theorem ifc_netd_sock_init_eq : ifc_netd_sock_init sys fds =
    if sys.socket && sys.setsockopt && sys.connect then (some (lowest fds), opened fds) else (none, fds) := by
  cases hsocket : sys.socket with
  | false => simp [ifc_netd_sock_init, hsocket]
  | true =>
    cases hsetsockopt : sys.setsockopt with
    | false => simp [ifc_netd_sock_init, hsocket, hsetsockopt, erase_opened]
    | true =>
      cases hconnect : sys.connect with
      | false => simp [ifc_netd_sock_init, hsocket, hsetsockopt, hconnect, erase_opened]
      | true => simp [ifc_netd_sock_init, hsocket, hsetsockopt, hconnect]

/-- A request for netd without a socket, with a socket that it leaves open because that is 0 or has
no stream, and with a socket that it closes, whether it was sent as a whole or not. -/
theorem ask_eq : ask request sys fds =
    if !(sys.socket && sys.setsockopt && sys.connect) then .ended (-1) fds
    else if decide (0 ∉ fds) || !sys.fdopen then .ended (-1) (opened fds)
    else if sys.fprintf && sys.fputc && sys.fflush then ⟨0, fds, some (request ++ [0]), received sys.response, none⟩
    else .ended (-1) fds := by
  rw [ask, ifc_netd_sock_init_eq]
  cases hconnected : sys.socket && sys.setsockopt && sys.connect with
  | false => rfl
  | true =>
    simp only [if_true, Nat.le_zero, lowest_eq_zero_iff, Bool.not_true, Bool.false_eq_true, if_false]
    by_cases hzero : 0 ∈ fds
    · rw [if_neg (not_not.mpr hzero)]
      cases sys.fdopen with
      | false => simp
      | true => cases sys.fprintf <;> cases sys.fputc <;> cases sys.fflush <;> simp [erase_opened, hzero]
    · simp [hzero]

theorem ask_fds : (ask request sys fds).fds =
    if sys.socket && sys.setsockopt && sys.connect && (decide (0 ∉ fds) || !sys.fdopen) then opened fds else fds := by
  rw [ask_eq]
  cases sys.socket && sys.setsockopt && sys.connect with
  | false => rfl
  | true =>
    cases decide (0 ∉ fds) || !sys.fdopen with
    | true => rfl
    | false => cases sys.fprintf && sys.fputc && sys.fflush <;> rfl

theorem ask_sent : (ask request sys fds).sent =
    if (sys.socket && sys.setsockopt && sys.connect) && decide (0 ∈ fds) && sys.fdopen && sys.fprintf && sys.fputc &&
        sys.fflush then some (request ++ [0]) else none := by
  rw [ask_eq]
  cases sys.socket && sys.setsockopt && sys.connect with
  | false => rfl
  | true =>
    by_cases hzero : 0 ∈ fds
    · cases sys.fdopen with
      | false => simp [Outcome.ended, hzero]
      | true => cases sys.fprintf <;> cases sys.fputc <;> cases sys.fflush <;> simp [Outcome.ended, hzero]
    · simp [Outcome.ended, hzero]

/-- A call to netd is the request for what it tells. -/
theorem call_of_told {c : Call} {told : Told} (htold : c.told = some told) :
    call ifc_init_ifr c sys fds = ask told.text sys fds := by
  cases c with
  | throttle ifname rxKbps txKbps =>
    cases htold
    simp [call, ifc_set_throttle, Told.text, Told.heading, Heading.text, Told.arguments]
  | fwmark_rule ifname mark add =>
    cases htold
    simp [call, ifc_set_fwmark_rule, Told.text, Told.heading, Heading.text, Told.arguments]
  | nsiot_firewall flag =>
    cases htold
    simp [call, ifc_set_nsiot_firewall, Told.text, Told.heading, Heading.text, Told.arguments]
  | reset_connection_by_uid => cases htold
  | txq_state => cases htold
  | ccmni_md_cfg => cases htold

/-- The other calls close what they open, and send netd nothing. -/
theorem call_of_untold {c : Call} (huntold : c.told = none) :
    (call ifc_init_ifr c sys fds).fds = fds ∧ (call ifc_init_ifr c sys fds).sent = none := by
  cases c with
  | throttle => cases huntold
  | fwmark_rule => cases huntold
  | nsiot_firewall => cases huntold
  | reset_connection_by_uid uid error =>
    simp only [call, ifc_reset_connection_by_uid]
    split_ifs
    · exact ⟨rfl, rfl⟩
    · exact ⟨erase_opened, rfl⟩
    · exact ⟨erase_opened, rfl⟩
  | txq_state ifname state =>
    simp only [call, ifc_set_txq_state]
    split_ifs
    · exact ⟨rfl, rfl⟩
    · exact ⟨erase_opened, rfl⟩
  | ccmni_md_cfg ifname md_id =>
    simp only [call, ifc_ccmni_md_cfg]
    split_ifs
    · exact ⟨rfl, rfl⟩
    · exact ⟨erase_opened, rfl⟩
    · exact ⟨erase_opened, rfl⟩

theorem descriptors_eq (act : Call × System) : descriptors ifc_init_ifr fds act =
    if connects act && (decide (0 ∉ fds) || !act.2.fdopen) then opened fds else fds := by
  obtain ⟨c, sys⟩ := act
  cases htold : c.told with
  | none => simp [descriptors, call_of_untold htold, connects, htold]
  | some told => simp [descriptors, call_of_told htold, ask_fds, connects, htold]

/-- Once 0 is open, only a socket without a stream is left open. -/
theorem run_of_zero_mem (hzero : 0 ∈ fds) (acts : List (Call × System)) :
    run (descriptors ifc_init_ifr) fds acts = opened^[unstreamed acts] fds := by
  refine run_eq_iterate (I := (0 ∈ ·)) (fun fds _ => zero_mem_opened) (fun fds act hmem => ?_) hzero acts
  rw [descriptors_eq]
  simp [hmem]

/-- Whatever is called and however the system answers, the descriptors that are open after a run
are those that were open before and the lowest that were not, one for each socket that it leaves open. -/
theorem run_left_open (fds : Finset Nat) (acts : List (Call × System)) :
    run (descriptors ifc_init_ifr) fds acts = opened^[leftOpen fds acts] fds := by
  by_cases hzero : 0 ∈ fds
  · rw [leftOpen, if_pos hzero]
    exact run_of_zero_mem hzero acts
  · rw [leftOpen, if_neg hzero]
    induction acts with
    | nil => rfl
    | cons act acts ih =>
      rw [run_cons, descriptors_eq, leftFromZero]
      cases hconnects : connects act with
      | false => exact ih
      | true =>
        have hfirst : (if true && (decide (0 ∉ fds) || !act.2.fdopen) then opened fds else fds) = opened fds := by
          simp [hzero]
        rw [if_pos rfl, Function.iterate_succ_apply, hfirst]
        exact run_of_zero_mem zero_mem_opened acts

/-- What netd is sent is what the call tells, if the system plays along and 0 is not free. -/
theorem call_sent (c : Call) : (call ifc_init_ifr c sys fds).sent =
    if connects (c, sys) && decide (0 ∈ fds) && sys.fdopen && sys.fprintf && sys.fputc && sys.fflush then
      c.told.map (·.text ++ [0])
    else none := by
  cases htold : c.told with
  | none => simp [call_of_untold htold]
  | some told => simp [call_of_told htold, ask_sent, connects, htold]

theorem received_eq {text : List UInt8} (hshort : text.length ≤ 20) :
    ((Block.fresh 24).put 0 text).put 23 [0] =
      text.map some ++ none :: (Block.fresh (22 - text.length) ++ [some 0]) := by
  have hfront : (text.map some ++ List.replicate (22 - text.length + 1) none).length = 23 := by
    rw [List.length_append, List.length_map, List.length_replicate]
    omega
  have hfirst : (Block.fresh 24).put 0 text =
      text.map some ++ List.replicate (22 - text.length + 1) none ++ [none] := by
    have hlength : 24 - text.length = (22 - text.length + 1) + 1 := by omega
    rw [List.append_assoc, ← List.replicate_succ', ← hlength, Block.put, Block.fresh, List.drop_replicate, Nat.zero_add,
      List.take_zero, List.nil_append]
  have hend : (text.map some ++ List.replicate (22 - text.length + 1) none ++ [none]).drop 24 = [] := by
    apply List.drop_of_length_le
    rw [List.length_append, hfront]
    exact Nat.le_refl 24
  rw [hfirst, Block.put, List.take_left' hfront, List.length_singleton, hend, List.append_nil, List.replicate_succ,
    List.append_assoc]
  rfl

/-- The log of a response goes on into bytes that were never written, unless the first 20 bytes
have the end of a string. -/
theorem response_logged_iff (response : List UInt8) :
    none ∉ (received response).takeWhile (· ≠ some 0) ↔ 0 ∈ response.take 20 := by
  rw [received, received_eq (List.length_take_le 20 response)]
  constructor
  · intro hlogged
    by_contra hopen
    have hall : ∀ byte ∈ (response.take 20).map some, decide (byte ≠ some 0) := by
      intro byte hbyte
      obtain ⟨b, hb, rfl⟩ := List.mem_map.mp hbyte
      rw [decide_eq_true_eq]
      rintro hzero
      rw [Option.some.inj hzero] at hb
      exact hopen hb
    apply hlogged
    rw [List.takeWhile_append_of_pos hall]
    simp
  · intro hend hmem
    have hstops : ¬ ∀ byte ∈ (response.take 20).map some, decide (byte ≠ some 0) = true := by
      intro hall
      have hzero := hall (some 0) (List.mem_map_of_mem hend)
      simp at hzero
    rw [List.takeWhile_append, if_neg] at hmem
    · obtain ⟨b, _, hnone⟩ := List.mem_map.mp (List.takeWhile_subset _ hmem)
      cases hnone
    · intro hlength
      exact hstops (List.takeWhile_eq_self_iff.mp ((List.takeWhile_prefix _).eq_of_length hlength))

end

section

variable {a b c d : List UInt8}

/-- The last blank of a text is found. -/
theorem blank_inj (hb : 32 ∉ b) (hd : 32 ∉ d) (heq : a ++ 32 :: b = c ++ 32 :: d) : a = c ∧ b = d := by
  obtain ⟨between, rfl, hrest⟩ | ⟨between, rfl, hrest⟩ := List.append_eq_append_iff.mp heq
  · cases between with
    | nil =>
      obtain rfl := List.cons.inj hrest |>.2
      exact ⟨(List.append_nil a).symm, rfl⟩
    | cons first between =>
      obtain ⟨_, rfl⟩ := List.cons.inj hrest
      exact absurd (List.mem_append_right between List.mem_cons_self) hb
  · cases between with
    | nil =>
      obtain rfl := List.cons.inj hrest |>.2
      exact ⟨List.append_nil c, rfl⟩
    | cons first between =>
      obtain ⟨_, rfl⟩ := List.cons.inj hrest
      exact absurd (List.mem_append_right between List.mem_cons_self) hd

theorem decimalText_no_blank (v : Int) : 32 ∉ decimalText v := fun hmem => (plain_decimalText hmem).2.2.1 rfl

/-- No two kinds of requests start the same. -/
theorem heading_clash {heading heading' : Heading} (hne : heading ≠ heading') : clash heading.text heading'.text := by
  cases heading with
  | setthrottle =>
    cases heading' with
    | setthrottle => exact absurd rfl hne
    | fwmark add => cases add <;> decide
    | firewall set => cases set <;> decide
  | fwmark add =>
    cases heading' with
    | setthrottle => cases add <;> decide
    | fwmark add' => cases add <;> cases add' <;> first | exact absurd rfl hne | decide
    | firewall set => cases add <;> cases set <;> decide
  | firewall set =>
    cases heading' with
    | setthrottle => cases set <;> decide
    | fwmark add => cases set <;> cases add <;> decide
    | firewall set' => cases set <;> cases set' <;> first | exact absurd rfl hne | decide

/-- From its text it is known what a request tells, even if the name of the interface has blanks. -/
theorem text_injective : Function.Injective Told.text := by
  intro told told' heq
  have hheading : told.heading = told'.heading := by
    by_contra hne
    have hprefix : told'.heading.text <+: told.text := heq ▸ List.prefix_append _ _
    exact not_prefix_of_clash (heading_clash hne) (List.prefix_append _ _) hprefix
  rw [Told.text, Told.text, hheading] at heq
  have harguments := List.append_cancel_left heq
  cases told with
  | throttle ifname rxKbps txKbps =>
    cases told' with
    | throttle ifname' rxKbps' txKbps' =>
      obtain ⟨hfront, htx⟩ := blank_inj (decimalText_no_blank _) (decimalText_no_blank _) harguments
      obtain ⟨rfl, hrx⟩ := blank_inj (decimalText_no_blank _) (decimalText_no_blank _) hfront
      rw [decimalText_injective hrx, decimalText_injective htx]
    | fwmark => cases hheading
    | firewall => cases hheading
  | fwmark ifname mark add =>
    cases told' with
    | throttle => cases hheading
    | fwmark ifname' mark' add' =>
      obtain ⟨hname, hmark⟩ := blank_inj (decimalText_no_blank _) (decimalText_no_blank _) harguments
      obtain rfl := (List.cons.inj hname).2
      obtain rfl := Heading.fwmark.inj hheading
      rw [decimalText_injective hmark]
    | firewall => cases hheading
  | firewall set =>
    cases told' with
    | throttle => cases hheading
    | fwmark => cases hheading
    | firewall set' => rw [Heading.firewall.inj hheading]

end

/-- Two calls send netd the same bytes just if they tell it the same. -/
theorem sent_eq_iff_told {ifc_init_ifr : CString → List UInt8} {c c' : Call} {sys sys' : System} {fds fds' : Finset Nat}
    (hsent : (call ifc_init_ifr c sys fds).sent.isSome) (hsent' : (call ifc_init_ifr c' sys' fds').sent.isSome) :
    (call ifc_init_ifr c sys fds).sent = (call ifc_init_ifr c' sys' fds').sent ↔ c.told = c'.told := by
  have hwhole : ∀ {c : Call} {sys : System} {fds : Finset Nat}, (call ifc_init_ifr c sys fds).sent.isSome →
      (call ifc_init_ifr c sys fds).sent = c.told.map (·.text ++ [0]) := by
    intro c sys fds hsome
    rw [call_sent] at hsome ⊢
    split_ifs at hsome ⊢
    · rfl
    · cases hsome
  rw [hwhole hsent, hwhole hsent']
  constructor
  · intro heq
    exact Option.map_injective (fun told told' htext => text_injective (List.append_cancel_right htext)) heq
  · exact congrArg _

/-- A system that refuses nothing. -/
def willing : System := ⟨true, true, true, true, true, true, true, ascii "200 1 0", 0⟩

def oneWord : Call := .throttle ⟨ascii "ccmni0", by decide⟩ 1 2

def twoWords : Call := .throttle ⟨ascii "ccmni0 1", by decide⟩ 1 2

theorem sent_eq_iff_told_blank :
    (call (·.bytes) oneWord willing {0}).sent ≠ (call (·.bytes) twoWords willing {0}).sent := by
  have hsent : (call (·.bytes) oneWord willing {0}).sent.isSome := by
    rw [call_sent]
    rfl
  have hsent' : (call (·.bytes) twoWords willing {0}).sent.isSome := by
    rw [call_sent]
    rfl
  rw [Ne, sent_eq_iff_told hsent hsent']
  exact fun htold => absurd (Told.throttle.inj (Option.some.inj htold)).1 (by decide)

end panelli.netd
