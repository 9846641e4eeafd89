import CrazyIvan.App.IvanUtils

/-!
What a sender of the event stream does with the event of a datagram.

* `SenderConfig`: what the run rests on outside the source: how an address is
  understood, what the system does for the socket, and the two ciphers.
* `runSender`: the run of the source, with the devices of the cache as a parameter.
  It returns what is sent, and to which endpoint.
* `runSender_event`, `runSender_line`: the run on an event with a newline and on
  one without.
* `forwarded_iff`: the events that are passed on untouched to every device of
  their scene, and the texts without a newline on which nothing is done.
-/

namespace CrazyIvan

open Lines

/-- Address and port of a device. -/
abbrev Endpoint := String × ℤ

inductive IpAddress where
  | v4 (bits : BitVec 32)
  | v6 (bits : BitVec 128)
deriving DecidableEq, Repr

/-- `boost::asio::ip::udp::endpoint`. -/
structure UdpEndpoint where
  address : IpAddress
  port : BitVec 16
deriving DecidableEq, Repr

/-- The ciphers of an encrypted stream; either can throw. -/
structure Ciphers where
  encryptString : String → Except String String
  decryptString : String → Except String String

/-- What a sender is set up with: the addresses that are understood, whether the two ciphers,
which are built in any case, and the socket can be had (`opens`), whether the system takes what
is sent at each turn of a run, and the ciphers if the stream is encrypted. -/
structure SenderConfig where
  fromString : String → Option IpAddress
  opens : Bool := true
  sends : ℕ → UdpEndpoint → String → Bool := fun _ _ _ => true
  ciphers : Option Ciphers := none

/-- The endpoint of a device: the port is converted to an `unsigned short`. -/
def SenderConfig.endpoint (cfg : SenderConfig) (device : Endpoint) : Option UdpEndpoint :=
  (cfg.fromString device.1).map fun address => ⟨address, BitVec.ofInt 16 device.2⟩

/-- `socket.send_to`, on a socket that was opened with `udp::v4()`. An error is put in `err`,
which is not looked at. -/
def SenderConfig.socketSend (cfg : SenderConfig) (turn : ℕ) (remoteEndpoint : UdpEndpoint)
    (text : String) : List (UdpEndpoint × String) :=
  match remoteEndpoint.address with
  | .v4 _ => if cfg.sends turn remoteEndpoint text then [(remoteEndpoint, text)] else []
  | .v6 _ => []

/-- The devices of a scene that is in the cache. -/
def getDevices (cache : String → Option (List Endpoint)) (sceneKey : String) :
    Except Fail (List Endpoint) :=
  match cache sceneKey with
  | some devices => .ok devices
  | none => .error (.exn "Unknown Key")

/-- The text up to the first NUL. -/
def cString (event : String) : String := String.ofList (event.toList.takeWhile (· ≠ '\x00'))

section Run

variable (cfg : SenderConfig) (cache : String → Option (List Endpoint))

/-- Send the second line to a device. An exception is logged. -/
def sendTo (eventItems : List String) (turn : ℕ) (device : Endpoint) :
    Except Fail (List (UdpEndpoint × String)) :=
  match cfg.endpoint device with
  | some remoteEndpoint => do
      let item ← orUndefined eventItems[1]?
      match cfg.ciphers with
      | some c =>
          match c.encryptString item with
          | .ok encrypted => pure (cfg.socketSend turn remoteEndpoint encrypted)
          | .error _ => pure []
      | none => pure (cfg.socketSend turn remoteEndpoint item)
  | none => pure []

/-- The run of a sender. -/
def runSender (event : String) : Except Fail (List (UdpEndpoint × String)) := do
  let eventString := cString event
  let text ← match cfg.ciphers with
    | some c => (c.decryptString eventString).mapError .exn
    | none => pure eventString
  let eventItems := splitFromIndex text '\n' 0
  if cfg.opens then do
    let sceneKey ← orUndefined eventItems[0]?
    let foundDevices ← getDevices cache sceneKey
    let sent ← foundDevices.zipIdx.mapM fun device => sendTo cfg eventItems device.2 device.1
    pure sent.flatten
  else .error (.exn "open")

end Run

/-! ### Texts as lists of lines -/

lemma takeWhile_nul {s : String} (h : '\x00' ∉ s.toList) : cString s = s := by
  rw [cString, takeWhile_eq_self h, String.ofList_toList]

lemma newline_notMem_cString {s : String} (h : '\n' ∉ s.toList) : '\n' ∉ (cString s).toList := by
  rw [cString, String.toList_ofList]
  exact fun hmem => h ((List.takeWhile_sublist _).subset hmem)

/-- One line, or none. -/
lemma splitFromIndex_line {s : String} (h : '\n' ∉ s.toList) :
    splitFromIndex s '\n' 0 = if s = "" then [] else [s] := by
  rw [splitFromIndex_eq, List.drop_zero]
  split
  · next hs => rw [hs]; rfl
  · next hs =>
      rw [lines_last (by simpa using hs) h, List.map_singleton, String.ofList_toList]

/-- The line in front of a newline. -/
lemma splitFromIndex_newline {k p : String} (h : '\n' ∉ k.toList) :
    splitFromIndex (k ++ "\n" ++ p) '\n' 0 = k :: splitFromIndex p '\n' 0 := by
  have htoList : (k ++ "\n" ++ p).toList = k.toList ++ '\n' :: p.toList := by simp
  rw [splitFromIndex_eq, splitFromIndex_eq, List.drop_zero, List.drop_zero, htoList,
    lines_line h, List.map_cons, String.ofList_toList]

/-! ### Unencrypted events -/

section Plain

variable {cfg : SenderConfig} {cache : String → Option (List Endpoint)}

/-- Nothing is sent, and nothing without meaning is done. -/
def SendsNothing (r : Except Fail (List (UdpEndpoint × String))) : Prop :=
  r ≠ .error .undefined ∧ ∀ sent, r = .ok sent → sent = []

/-- What is sent is the text, once to the address and port of each device. -/
def SentToEach (cfg : SenderConfig) (devices : List Endpoint) (text : String)
    (r : Except Fail (List (UdpEndpoint × String))) : Prop :=
  ∃ sent, r = .ok sent ∧
    sent.map (fun x => (some x.1.address, (x.1.port.toNat : ℤ), x.2)) =
      devices.map fun d => (cfg.fromString d.1, d.2, text)

/-- A device whose address is one of IPv4 and whose port is one of UDP, and a text that the
system takes for it at its turn. -/
def Reachable (cfg : SenderConfig) (text : String) (device : Endpoint × ℕ) : Prop :=
  (0 ≤ device.1.2 ∧ device.1.2 < 2 ^ 16) ∧ ∃ bits, cfg.fromString device.1.1 = some (.v4 bits) ∧
    cfg.sends device.2 ⟨.v4 bits, BitVec.ofInt 16 device.1.2⟩ text = true

/-- What is sent to one device for a line. -/
def sentFor (cfg : SenderConfig) (item : String) (device : Endpoint × ℕ) :
    List (UdpEndpoint × String) :=
  (cfg.endpoint device.1).elim [] fun e => cfg.socketSend device.2 e item

lemma length_sentFor_le (item : String) (device : Endpoint × ℕ) :
    (sentFor cfg item device).length ≤ 1 := by
  rw [sentFor]
  cases cfg.endpoint device.1 with
  | none => exact Nat.zero_le _
  | some e =>
      rw [Option.elim_some, SenderConfig.socketSend]
      split
      · split <;> simp
      · exact Nat.zero_le _

/-- The port of an endpoint is that of the device, if it is one of UDP. -/
lemma toNat_ofInt_iff (port : ℤ) :
    ((BitVec.ofInt 16 port).toNat : ℤ) = port ↔ 0 ≤ port ∧ port < 2 ^ 16 := by
  rw [BitVec.toNat_ofInt]
  omega

/-- A device that can be reached is sent the line, and no other device is. -/
lemma sentFor_iff (item text : String) (device : Endpoint × ℕ) :
    (sentFor cfg item device).map (fun x => (some x.1.address, (x.1.port.toNat : ℤ), x.2)) =
        [(cfg.fromString device.1.1, device.1.2, text)] ↔
      item = text ∧ Reachable cfg text device := by
  rw [sentFor, SenderConfig.endpoint, Reachable]
  cases haddress : cfg.fromString device.1.1 with
  | none => simp
  | some address =>
      cases address with
      | v6 bits => simp [SenderConfig.socketSend]
      | v4 bits =>
          rw [Option.map_some, Option.elim_some, SenderConfig.socketSend]
          dsimp only
          split
          · next hsends =>
              simp only [List.map_cons, List.map_nil, List.cons.injEq, and_true, Prod.mk.injEq,
                toNat_ofInt_iff, true_and]
              constructor
              · rintro ⟨hport, rfl⟩
                exact ⟨rfl, hport, bits, rfl, hsends⟩
              · rintro ⟨rfl, hport, -⟩
                exact ⟨hport, rfl⟩
          · next hsends =>
              refine iff_of_false (by simp) ?_
              rintro ⟨rfl, -, bits', hbits, hsends'⟩
              obtain rfl : bits = bits' := by simpa using hbits
              exact hsends hsends'

/-- Lists of one element at most, put together, make one element for each only if none is
empty. -/
lemma flatMap_eq_map_iff {α β : Type} {f : α → List β} (g : α → β) (hf : ∀ a, (f a).length ≤ 1)
    (l : List α) : l.flatMap f = l.map g ↔ ∀ a ∈ l, f a = [g a] := by
  have hlength : ∀ l : List α, (l.flatMap f).length ≤ l.length := by
    intro l
    induction l with
    | nil => exact Nat.zero_le _
    | cons a l ih =>
        rw [List.flatMap_cons, List.length_append, List.length_cons]
        have ha := hf a
        omega
  induction l with
  | nil => simp
  | cons a l ih =>
      rw [List.flatMap_cons, List.map_cons, List.forall_mem_cons]
      rcases hfa : f a with _ | ⟨b, _ | ⟨c, bs⟩⟩
      · refine iff_of_false (fun h => ?_) (by simp)
        have hl := hlength l
        rw [List.nil_append] at h
        rw [h, List.length_cons, List.length_map] at hl
        omega
      · rw [List.singleton_append, List.cons.injEq]
        exact and_congr (by simp) ih
      · have ha := hf a
        simp [hfa] at ha

/-- A line is sent to each device as the text exactly if it is the text and reaches them. -/
lemma sentToEach_iff (item text : String) (devices : List Endpoint) :
    SentToEach cfg devices text (.ok (devices.zipIdx.flatMap (sentFor cfg item))) ↔
      ∀ device ∈ devices.zipIdx, item = text ∧ Reachable cfg text device := by
  have hmap : (devices.map fun d => (cfg.fromString d.1, d.2, text)) =
      devices.zipIdx.map fun device => (cfg.fromString device.1.1, device.1.2, text) := by
    conv_lhs => rw [← List.zipIdx_map_fst 0 devices, List.map_map]
    rfl
  have hall := flatMap_eq_map_iff (fun device : Endpoint × ℕ =>
    (cfg.fromString device.1.1, device.1.2, text))
    (f := fun device => (sentFor cfg item device).map fun x =>
      (some x.1.address, (x.1.port.toNat : ℤ), x.2))
    (fun device => by rw [List.length_map]; exact length_sentFor_le item device) devices.zipIdx
  simp only [sentFor_iff] at hall
  rw [SentToEach, hmap, ← hall, ← List.map_flatMap]
  exact ⟨by rintro ⟨_, ⟨rfl⟩, h⟩; exact h, fun h => ⟨_, rfl, h⟩⟩

/-- The first line of a payload is what is sent. -/
lemma mapM_sendTo (hplain : cfg.ciphers = none) (items : List String) {devices : List Endpoint}
    (hvalid : ∀ d ∈ devices, (cfg.fromString d.1).isSome) :
    (devices.zipIdx.mapM fun device => sendTo cfg items device.2 device.1) =
      match items[1]? with
      | some item => .ok (devices.zipIdx.map (sentFor cfg item))
      | none => if devices = [] then .ok [] else .error .undefined := by
  cases hitem : items[1]? with
  | some item =>
      refine mapM_eq_ok_iff.mpr (List.forall₂_map_right_iff.mpr (List.forall₂_same.mpr
        fun device _ => ?_))
      rw [sendTo, sentFor]
      cases cfg.endpoint device.1 with
      | none => rfl
      | some e => simp only [hitem, orUndefined, bind_of_ok, hplain]; rfl
  | none =>
      cases devices with
      | nil => rfl
      | cons d ds =>
          obtain ⟨address, haddress⟩ := Option.isSome_iff_exists.mp (hvalid d (by simp))
          rw [List.zipIdx_cons, List.mapM_cons, sendTo, SenderConfig.endpoint, haddress, hitem]
          rfl

section Texts

variable (hplain : cfg.ciphers = none)
  (hvalid : ∀ k devices, cache k = some devices → ∀ d ∈ devices, (cfg.fromString d.1).isSome)

include hplain hvalid

/-- The run on a scene key and a payload. -/
lemma runSender_event {k p : String} {devices : List Endpoint} (hk : cache k = some devices)
    (hline : '\n' ∉ k.toList) (hnul : '\x00' ∉ (k ++ "\n" ++ p).toList) :
    runSender cfg cache (k ++ "\n" ++ p) =
      if cfg.opens then
        match (splitFromIndex p '\n' 0)[0]? with
        | some item => .ok (devices.zipIdx.flatMap (sentFor cfg item))
        | none => if devices = [] then .ok [] else .error .undefined
      else .error (.exn "open") := by
  have hsend := mapM_sendTo hplain (k :: splitFromIndex p '\n' 0) (hvalid k devices hk)
  rw [List.getElem?_cons_succ] at hsend
  simp only [runSender, takeWhile_nul hnul, hplain, pure_eq_ok, bind_of_ok,
    splitFromIndex_newline hline, List.getElem?_cons_zero, orUndefined, getDevices, hk, hsend]
  cases (splitFromIndex p '\n' 0)[0]? with
  | some item => simp only [bind_of_ok, List.flatMap_def]
  | none => by_cases hd : devices = [] <;> simp [hd, bind_of_ok, bind_of_error]

/-- The run on a text that is a single line up to the first NUL. -/
lemma runSender_line {event : String} (hline : '\n' ∉ (cString event).toList) :
    runSender cfg cache event =
      if cfg.opens then
        if cString event = "" then .error .undefined
        else match cache (cString event) with
          | none => .error (.exn "Unknown Key")
          | some devices => if devices = [] then .ok [] else .error .undefined
      else .error (.exn "open") := by
  simp only [runSender, hplain, pure_eq_ok, bind_of_ok, splitFromIndex_line hline]
  refine if_congr Iff.rfl ?_ rfl
  split
  · rfl
  · rw [List.getElem?_cons_zero, orUndefined, bind_of_ok, getDevices]
    cases hk : cache (cString event) with
    | none => rfl
    | some devices =>
        have hsend := mapM_sendTo hplain [cString event] (hvalid _ devices hk)
        rw [List.getElem?_cons_succ] at hsend
        simp only [bind_of_ok, hsend, List.getElem?_nil]
        split <;> rfl

end Texts

/-- The ciphers and the socket can be had, and the payload goes to nobody, or is one line that
reaches every device; of a scene key with a NUL only the part in front of it is looked up, which
must be a scene with nobody too. -/
def Untouched (cfg : SenderConfig) (cache : String → Option (List Endpoint)) (k p : String)
    (devices : List Endpoint) : Prop :=
  cfg.opens = true ∧
    if '\x00' ∈ k.toList then
      devices = [] ∧ cString k ≠ "" ∧ cache (cString k) = some []
    else devices = [] ∨
      (p ≠ "" ∧ '\n' ∉ p.toList) ∧ ∀ device ∈ devices.zipIdx, Reachable cfg p device

/-- The ciphers or the socket cannot be had, or the text up to the first NUL is not empty, and no
scene with devices. -/
def Harmless (cfg : SenderConfig) (cache : String → Option (List Endpoint)) (event : String) :
    Prop :=
  cfg.opens = true →
    cString event ≠ "" ∧ ∀ devices, cache (cString event) = some devices → devices = []

section Forwarded

variable (hplain : cfg.ciphers = none)
  (hvalid : ∀ k devices, cache k = some devices → ∀ d ∈ devices, (cfg.fromString d.1).isSome)

include hplain hvalid

/-- With a NUL in the scene key, the payload is cut off with the end of the key. -/
lemma runSender_cut_iff {k p : String} {devices : List Endpoint} (hline : '\n' ∉ k.toList)
    (hknul : '\x00' ∈ k.toList) (hopens : cfg.opens = true) :
    SentToEach cfg devices p (runSender cfg cache (k ++ "\n" ++ p)) ↔
      devices = [] ∧ cString k ≠ "" ∧ cache (cString k) = some [] := by
  have hcut : cString (k ++ "\n" ++ p) = cString k := by
    obtain ⟨pre, post, heq, hpre⟩ := List.eq_append_cons_of_mem hknul
    have htoList : (k ++ "\n" ++ p).toList = pre ++ '\x00' :: (post ++ '\n' :: p.toList) := by
      rw [String.toList_append, String.toList_append, heq]
      simp
    rw [cString, cString, htoList, heq, takeWhile_line hpre, takeWhile_line hpre]
  have hcutline : '\n' ∉ (cString (k ++ "\n" ++ p)).toList := by
    rw [hcut]
    exact newline_notMem_cString hline
  rw [runSender_line hplain hvalid hcutline, hcut, if_pos hopens, SentToEach]
  by_cases hempty : cString k = ""
  · simp [hempty]
  · rw [if_neg hempty]
    cases hc : cache (cString k) with
    | none => simp
    | some found =>
        by_cases hfound : found = []
        · subst hfound
          cases devices <;> simp [hempty]
        · simp [hfound]

/-- Without one, a payload of one line is sent, and of another payload the first line. -/
lemma runSender_event_iff {k p : String} {devices : List Endpoint} (hk : cache k = some devices)
    (hline : '\n' ∉ k.toList) (hknul : '\x00' ∉ k.toList) (hnul : '\x00' ∉ p.toList)
    (hopens : cfg.opens = true) :
    SentToEach cfg devices p (runSender cfg cache (k ++ "\n" ++ p)) ↔
      devices = [] ∨
        (p ≠ "" ∧ '\n' ∉ p.toList) ∧ ∀ device ∈ devices.zipIdx, Reachable cfg p device := by
  rw [runSender_event hplain hvalid (p := p) hk hline (by simp [hknul, hnul]), if_pos hopens]
  obtain hp | ⟨first, rest, hfirst, heq⟩ := exists_line '\n' p.toList
  · rw [splitFromIndex_line hp]
    by_cases hempty : p = ""
    · rw [if_pos hempty, List.getElem?_nil]
      by_cases hd : devices = []
      · simp [hd, SentToEach]
      · simp [hd, hempty, SentToEach]
    · rw [if_neg hempty, List.getElem?_cons_zero]
      refine (sentToEach_iff p p devices).trans ?_
      simp only [hempty, hp, ne_eq, not_false_eq_true, and_self, true_and]
      exact ⟨.inr, fun h => h.elim (by rintro rfl; simp) id⟩
  · have hp : p = String.ofList first ++ "\n" ++ String.ofList rest := by
      rw [← String.toList_inj, heq]
      simp
    have hmem : '\n' ∈ p.toList := by simp [heq]
    have hne : String.ofList first ≠ p := by
      rintro rfl
      rw [String.toList_ofList] at hmem
      exact hfirst hmem
    have hsplit : (splitFromIndex p '\n' 0)[0]? = some (String.ofList first) := by
      rw [hp, splitFromIndex_newline (by simpa using hfirst)]
      rfl
    rw [hsplit]
    refine (sentToEach_iff _ p devices).trans ?_
    simp only [hne, false_and, hmem, not_true_eq_false, and_false, or_false]
    cases devices with
    | nil => simp
    | cons d ds => exact iff_of_false (fun h => h (d, 0) (by simp [List.zipIdx_cons])) (by simp)

/-- A text that is a single line. -/
lemma sendsNothing_iff {event : String} (hline : '\n' ∉ event.toList) :
    SendsNothing (runSender cfg cache event) ↔ Harmless cfg cache event := by
  rw [runSender_line hplain hvalid (newline_notMem_cString hline), Harmless]
  by_cases hopens : cfg.opens = true
  · rw [if_pos hopens, forall_prop_of_true hopens]
    by_cases hempty : cString event = ""
    · simp [hempty, SendsNothing]
    · rw [if_neg hempty]
      cases hc : cache (cString event) with
      | none => simp [SendsNothing, hempty]
      | some devices => by_cases hd : devices = [] <;> simp [SendsNothing, hempty, hd]
  · rw [if_neg hopens]
    exact iff_of_true ⟨by simp, by simp⟩ fun h => absurd h hopens

end Forwarded

/-- A payload reaches every device of its scene, once and as it is, exactly if it is
untouched; and a text without a newline has no effect exactly if it is harmless. -/
theorem forwarded_iff (hplain : cfg.ciphers = none)
    (hvalid : ∀ k devices, cache k = some devices →
      ∀ d ∈ devices, (cfg.fromString d.1).isSome) :
    (∀ k p devices, cache k = some devices → '\n' ∉ k.toList → '\x00' ∉ p.toList →
      (SentToEach cfg devices p (runSender cfg cache (k ++ "\n" ++ p)) ↔
        Untouched cfg cache k p devices)) ∧
    ∀ event, '\n' ∉ event.toList →
      (SendsNothing (runSender cfg cache event) ↔ Harmless cfg cache event) := by
  refine ⟨fun k p devices hk hline hnul => ?_, fun event hline =>
    sendsNothing_iff hplain hvalid hline⟩
  rw [Untouched]
  by_cases hopens : cfg.opens = true
  · rw [and_iff_right hopens]
    split
    · next hknul => exact runSender_cut_iff hplain hvalid hline hknul hopens
    · next hknul => exact runSender_event_iff hplain hvalid hk hline hknul hnul hopens
  · refine iff_of_false ?_ fun h => hopens h.1
    rintro ⟨sent, hsent, -⟩
    rw [runSender, hplain] at hsent
    simp [hopens, pure_eq_ok, bind_of_ok] at hsent

end Plain

/-- Two scenes: one with a device, and one with a device of IPv6 and one without a port. -/
def lobby (k : String) : Option (List Endpoint) :=
  if k = "lobby" then some [("10.0.0.1", 5000)]
  else if k = "studio" then some [("::1", 5000), ("10.0.0.1", 999999)]
  else none

def lobbyConfig : SenderConfig where
  fromString address :=
    if address = "10.0.0.1" then some (.v4 0x0A000001)
    else if address = "::1" then some (.v6 1)
    else none

lemma lobby_valid : ∀ k devices, lobby k = some devices →
    ∀ d ∈ devices, (lobbyConfig.fromString d.1).isSome := by
  intro k devices hk
  rw [lobby] at hk
  split_ifs at hk
  · obtain rfl := Option.some.inj hk
    decide
  · obtain rfl := Option.some.inj hk
    decide

/-- A payload of two lines is cut; of two devices one gets nothing, and what is for the other
goes to another port; and without a newline a line is read that is not there. -/
theorem forwarded_twoLines :
    ¬ SentToEach lobbyConfig [("10.0.0.1", 5000)] "first\nsecond"
        (runSender lobbyConfig lobby ("lobby" ++ "\n" ++ "first\nsecond")) ∧
      runSender lobbyConfig lobby ("studio" ++ "\n" ++ "first")
        = .ok [(⟨.v4 0x0A000001, 16959⟩, "first")] ∧
      ¬ SendsNothing (runSender lobbyConfig lobby "lobby") := by
  have hnoline : runSender lobbyConfig lobby "lobby" = .error .undefined := by
    rw [runSender_line rfl lobby_valid (by decide)]
    decide
  have hlobby : runSender lobbyConfig lobby ("lobby" ++ "\n" ++ "first\nsecond")
      = .ok [(⟨.v4 0x0A000001, 5000⟩, "first")] := by
    rw [runSender_event rfl lobby_valid (k := "lobby") rfl (by decide) (by decide),
      splitFromIndex_eq]
    decide
  refine ⟨?_, ?_, fun h => h.1 hnoline⟩
  · rw [hlobby]
    rintro ⟨_, ⟨rfl⟩, h⟩
    revert h
    decide
  · rw [runSender_event rfl lobby_valid (k := "studio") rfl (by decide) (by decide),
      splitFromIndex_eq]
    decide

theorem forwarded_oneLine :
    SentToEach lobbyConfig [("10.0.0.1", 5000)] "first"
      (runSender lobbyConfig lobby ("lobby" ++ "\n" ++ "first")) :=
  ((forwarded_iff rfl lobby_valid).1 "lobby" "first" _ rfl (by decide) (by decide)).mpr
    ⟨rfl, .inr ⟨by decide, by
      intro device hdevice
      obtain rfl := List.mem_singleton.mp hdevice
      exact ⟨by decide, _, rfl, rfl⟩⟩⟩

end CrazyIvan
