import OmniTun.Foundation.Endpoints
import OmniTun.Network.HolePunch
import OmniTun.Network.StunGrammar
import OmniTun.Network.Topology

/-! How the client tells the kind of NAT it is behind from two binding requests, and what a hole
punch reports of it. -/

namespace OmniTun.Network.NatDetection

open OmniTun.Foundation Numerals NetAddress Networks Endpoints Transition Stun HolePunch

structure STUNClient where
  serverAddr : Bytes

inductive DetectError
  | parseServerAddress (err : AddrError)
  | parseServerPort (port : Bytes)
  | serverNotAvailable (err : Bytes)
  | mappedAddress (err : AddrError)
  deriving DecidableEq

/-! The kinds of addresses that are local. -/

def isLoopback (ip : Bytes) : Bool :=
  match to4 ip with
  | some ip4 => ip4.head? = some 127
  | none => ipEqual ip (List.replicate 15 0 ++ [1])

def isPrivate (ip : Bytes) : Bool :=
  match to4 ip with
  | some ip4 =>
    ip4[0]? = some 10 ∨ ip4[0]? = some 172 ∧ ip4[1]?.map (· &&& 0xf0) = some 16 ∨
      ip4[0]? = some 192 ∧ ip4[1]? = some 168
  | none => ip.length = 16 ∧ ip[0]?.map (· &&& 0xfe) = some 0xfc

def isLinkLocalUnicast (ip : Bytes) : Bool :=
  match to4 ip with
  | some ip4 => ip4[0]? = some 169 ∧ ip4[1]? = some 254
  | none => ip.length = 16 ∧ ip[0]? = some 0xfe ∧ ip[1]?.map (· &&& 0xc0) = some 0x80

/-- `interfaces` are the addresses of the host's own networks, if they can be had. -/
def isLocalIP (interfaces : Option (List Bytes)) (ip : Bytes) : Bool :=
  isLoopback ip || isPrivate ip || isLinkLocalUnicast ip ||
    (interfaces.getD []).any (ipEqual · ip)

def isLocalAddress (interfaces : Option (List Bytes)) (host : Bytes) : Bool :=
  match parseIP host with
  | none => false
  | some ip => isLocalIP interfaces ip

abbrev Detection := NATType × Bytes × Option DetectError

def classify (interfaces : Option (List Bytes)) (mappedAddr : Bytes) : Detection :=
  match splitHostPort mappedAddr with
  | .error err => (.natUnknown, mappedAddr, some (.mappedAddress err))
  | .ok (host, _) =>
    if isLocalAddress interfaces host then (.natOpen, mappedAddr, none)
    else (.natFullCone, mappedAddr, none)

def detectFromSingleResponse (interfaces : Option (List Bytes)) (mappedAddr : Bytes) : Detection :=
  classify interfaces mappedAddr

def detectOpenOrFullCone (interfaces : Option (List Bytes)) (mappedAddr : Bytes) : Detection :=
  classify interfaces mappedAddr

def nextPort (port : ℤ) : ℤ := (port + 1).bmod (2 ^ 64)

/-- `first` and `second` are what the two requests meet; the client dials what its `serverAddr` is
at the time. -/
def detectNATType (interfaces : Option (List Bytes)) (c : STUNClient) (first second : Exchange) :
    Option (Detection × STUNClient) :=
  match splitHostPort c.serverAddr with
  | .error err => some ((.natUnknown, [], some (.parseServerAddress err)), c)
  | .ok (host, portStr) =>
    match atoi portStr with
    | none => some ((.natUnknown, [], some (.parseServerPort portStr)), c)
    | some port =>
      match getMappedAddress c.serverAddr first with
      | none => none
      | some (.error err) => some ((.natSymmetric, [], some (.serverNotAvailable err)), c)
      | some (.ok primaryAddr) =>
        let altAddr := joinHostPort host (intNumeral (nextPort port))
        match getMappedAddress altAddr second with
        | none => none
        | some secondary =>
          let c := { c with serverAddr := joinHostPort host portStr }
          match secondary with
          | .error _ => some (detectFromSingleResponse interfaces primaryAddr, c)
          | .ok secondaryAddr =>
            if primaryAddr = secondaryAddr then
              some (detectOpenOrFullCone interfaces primaryAddr, c)
            else some ((.natSymmetric, primaryAddr, none), c)

structure PunchResult where
  success : Bool
  localAddr : Bytes
  remoteAddr : Bytes
  natType : NATType
  duration : ℤ
  fallbackUsed : Bool

inductive PunchFailure
  | unknownNatType
  | simultaneousOpen (err : PunchError)

def punch (detected : Detection) (localPort : ℤ) (remoteAddr : Bytes)
    (opened : Except PunchError Unit) (duration : ℤ) : PunchResult × Option PunchFailure :=
  let (natType, publicAddr) :=
    match detected with
    | (_, _, some _) => (NATType.natSymmetric, ascii "0.0.0.0:0")
    | (natType, publicAddr, none) => (natType, publicAddr)
  let localAddrStr :=
    if publicAddr = [] then ascii "0.0.0.0:" ++ intNumeral localPort else publicAddr
  if natType = .natUnknown then
    (⟨false, [], [], natType, duration, true⟩, some .unknownNatType)
  else
    match opened with
    | .error err =>
      (⟨false, localAddrStr, remoteAddr, natType, duration, true⟩, some (.simultaneousOpen err))
    | .ok () => (⟨true, localAddrStr, remoteAddr, natType, duration, false⟩, none)

/-! What the requests were answered with. -/

def Answers (e : Exchange) (ip : Bytes) (port : ℕ) : Prop :=
  e.dialErr = none ∧ e.writeErr = none ∧ e.deadlineErr = none ∧
    ∃ datagram, e.read = .ok datagram ∧ Reports (datagram.take 2048) ip port

lemma getMappedAddress_iff (serverAddr : Bytes) (e : Exchange) :
    ∃ res, getMappedAddress serverAddr e = some res ∧
      ∀ addr, res = .ok addr ↔ ∃ ip port, Answers e ip port ∧ addr = hostPort ip port := by
  unfold getMappedAddress
  split
  next err hd => exact ⟨_, rfl, fun addr => by simp [Answers, hd]⟩
  next hd =>
    split
    next err hw => exact ⟨_, rfl, fun addr => by simp [Answers, hw]⟩
    next hw =>
      split
      next err hl => exact ⟨_, rfl, fun addr => by simp [Answers, hl]⟩
      next hl =>
        split
        next err hr => exact ⟨_, rfl, fun addr => by simp [Answers, hr]⟩
        next datagram hr =>
          obtain ⟨res, hres, hiff⟩ := parseXorMappedAddress_iff (datagram.take 2048)
          refine ⟨res.mapError StunError.error, by rw [hres]; rfl, fun addr => ?_⟩
          have hok : res.mapError StunError.error = .ok addr ↔ res = .ok addr := by
            cases res <;> simp [Except.mapError]
          rw [hok, hiff]
          simp [Answers, hd, hw, hl, hr]

lemma Answers.isAddress {e : Exchange} {ip : Bytes} {port : ℕ} (h : Answers e ip port) :
    IsAddress ip := by
  obtain ⟨-, -, -, datagram, -, hr⟩ := h
  exact hr.isAddress

/-! Addresses in either form. -/

lemma isLocalAddress_ipString {interfaces : Option (List Bytes)} {ip ip16 : Bytes}
    (ha : IsAddress ip) (h : to16 ip = some ip16) :
    isLocalAddress interfaces (ipString ip) = isLocalIP interfaces ip16 := by
  rw [isLocalAddress, parseIP_ipString ha, h]

lemma classify_hostPort {interfaces : Option (List Bytes)} {ip ip16 : Bytes} {port : ℕ}
    (ha : IsAddress ip) (h : to16 ip = some ip16) :
    classify interfaces (hostPort ip port) =
      (if isLocalIP interfaces ip16 then .natOpen else .natFullCone, hostPort ip port, none) := by
  rw [classify, splitHostPort_hostPort ha]
  simp only [isLocalAddress_ipString ha h]
  split_ifs <;> rfl

lemma ipString_eq_of_to16 {a b : Bytes} (ha : IsAddress a) (hb : IsAddress b)
    (h : to16 a = to16 b) : ipString a = ipString b := by
  have h4 : ∀ x, IsAddress x → to4 x = (to16 x).bind to4 := by
    intro x hx
    cases hx4 : to4 x with
    | some x4 =>
      have hlen := to4_length hx4
      rw [to16_of_to4 hx4]
      simp [to4, v4InV6Prefix, hlen]
    | none =>
      have hlen := length_of_to4 hx hx4
      have h16 : to16 x = some x := by
        unfold to16
        rw [if_neg (by omega), if_pos hlen]
      rw [h16, Option.bind_some, hx4]
  have heq : to4 a = to4 b := by rw [h4 a ha, h4 b hb, h]
  cases hx : to4 a with
  | some x => exact ipString_congr ha hb heq (by simp [hx])
  | none =>
    have hla := length_of_to4 ha hx
    have hlb := length_of_to4 hb (heq ▸ hx)
    unfold to16 at h
    rw [if_neg (by omega), if_pos hla, if_neg (by omega), if_pos hlb] at h
    rw [Option.some.inj h]

lemma hostPort_eq_iff {a b : Bytes} {m n : ℕ} (ha : IsAddress a) (hb : IsAddress b) :
    hostPort a m = hostPort b n ↔ to16 a = to16 b ∧ m = n := by
  constructor
  · exact hostPort_inj ha hb
  · rintro ⟨h, rfl⟩
    rw [hostPort, hostPort, ipString_eq_of_to16 ha hb h]

/-! Detections. -/

def Dialable (serverAddr : Bytes) : Prop :=
  ∃ host portStr port, splitHostPort serverAddr = .ok (host, portStr) ∧ atoi portStr = some port

def Differs (second : Exchange) (ip : Bytes) (port : ℕ) : Prop :=
  ∃ ip' port', Answers second ip' port' ∧ ¬ (to16 ip = to16 ip' ∧ port = port')

open Classical in
structure Verdict (interfaces : Option (List Bytes)) (serverAddr : Bytes) (first second : Exchange)
    (res : Detection) : Prop where
  unknown : ¬ Dialable serverAddr → res.1 = .natUnknown ∧ res.2.1 = [] ∧ res.2.2 ≠ none
  unanswered : Dialable serverAddr → (¬ ∃ ip port, Answers first ip port) →
    res.1 = .natSymmetric ∧ res.2.1 = [] ∧ res.2.2 ≠ none
  answered : Dialable serverAddr → ∀ ip ip16 port, to16 ip = some ip16 → Answers first ip port →
    res = (if Differs second ip port then .natSymmetric
      else if isLocalIP interfaces ip16 then .natOpen else .natFullCone, hostPort ip port, none)

lemma detect_exact (interfaces : Option (List Bytes)) (c : STUNClient) (first second : Exchange) :
    ∃ res c', detectNATType interfaces c first second = some (res, c') ∧
      splitHostPort c'.serverAddr = splitHostPort c.serverAddr ∧
      Verdict interfaces c.serverAddr first second res := by
  unfold detectNATType
  split
  next err hs =>
    have hno : ¬ Dialable c.serverAddr := by simp [Dialable, hs]
    exact ⟨_, c, rfl, rfl, fun _ => by simp, fun h => absurd h hno, fun h => absurd h hno⟩
  next host portStr hs =>
    split
    next hp =>
      have hno : ¬ Dialable c.serverAddr := by
        rintro ⟨host', portStr', port, hs', hp'⟩
        rw [hs] at hs'
        obtain ⟨-, rfl⟩ := Prod.mk.inj (Except.ok.inj hs')
        simp [hp] at hp'
      exact ⟨_, c, rfl, rfl, fun _ => by simp, fun h => absurd h hno, fun h => absurd h hno⟩
    next port hp =>
      have hyes : Dialable c.serverAddr := ⟨host, portStr, port, hs, hp⟩
      obtain ⟨primary, hprimary, hfirst⟩ := getMappedAddress_iff c.serverAddr first
      rw [hprimary]
      cases primary with
      | error err =>
        refine ⟨_, c, rfl, rfl, fun h => absurd hyes h, fun _ _ => by simp, ?_⟩
        intro _ ip _ port _ ha
        cases (hfirst (hostPort ip port)).mpr ⟨ip, port, ha, rfl⟩
      | ok primaryAddr =>
        obtain ⟨ip₀, port₀, ha₀, rfl⟩ := (hfirst primaryAddr).mp rfl
        obtain ⟨secondary, hsecondary, hsecond⟩ :=
          getMappedAddress_iff (joinHostPort host (intNumeral (nextPort port))) second
        simp only [hsecondary]
        have hjoin : splitHostPort (joinHostPort host portStr) = splitHostPort c.serverAddr :=
          (splitHostPort_join_split hs).trans hs.symm
        -- every address the first request reports has the text of the one that was read
        have hsame : ∀ ip port, Answers first ip port → hostPort ip port = hostPort ip₀ port₀ :=
          fun ip port ha => (Except.ok.inj ((hfirst _).mpr ⟨ip, port, ha, rfl⟩)).symm
        cases secondary with
        | error err =>
          refine ⟨_, _, rfl, hjoin, fun h => absurd hyes h,
            fun _ h => absurd ⟨ip₀, port₀, ha₀⟩ h, fun _ ip ip16 port h16 ha => ?_⟩
          have hno : ¬ Differs second ip port := by
            rintro ⟨ip', port', ha', -⟩
            cases (hsecond (hostPort ip' port')).mpr ⟨ip', port', ha', rfl⟩
          rw [detectFromSingleResponse, ← hsame ip port ha, classify_hostPort ha.isAddress h16,
            if_neg hno]
        | ok secondaryAddr =>
          obtain ⟨ip₁, port₁, ha₁, rfl⟩ := (hsecond secondaryAddr).mp rfl
          have hdiffers : ∀ ip port, Answers first ip port →
              (Differs second ip port ↔ hostPort ip₀ port₀ ≠ hostPort ip₁ port₁) := by
            intro ip port ha
            rw [← hsame ip port ha]
            constructor
            · rintro ⟨ip', port', ha', hne⟩ heq
              have htext := Except.ok.inj ((hsecond _).mpr ⟨ip', port', ha', rfl⟩)
              rw [htext] at heq
              exact hne ((hostPort_eq_iff ha.isAddress ha'.isAddress).mp heq)
            · intro hne
              refine ⟨ip₁, port₁, ha₁, fun h => hne ?_⟩
              exact (hostPort_eq_iff ha.isAddress ha₁.isAddress).mpr h
          dsimp only
          split_ifs with heq
          · refine ⟨_, _, rfl, hjoin, fun h => absurd hyes h,
              fun _ h => absurd ⟨ip₀, port₀, ha₀⟩ h, fun _ ip ip16 port h16 ha => ?_⟩
            rw [detectOpenOrFullCone, ← hsame ip port ha, classify_hostPort ha.isAddress h16,
              if_neg ((hdiffers ip port ha).not.mpr (not_not.mpr heq))]
          · refine ⟨_, _, rfl, hjoin, fun h => absurd hyes h,
              fun _ h => absurd ⟨ip₀, port₀, ha₀⟩ h, fun _ ip ip16 port h16 ha => ?_⟩
            rw [if_pos ((hdiffers ip port ha).mpr heq), hsame ip port ha]

/-! Runs of detections, and the punch after one. -/

def step (interfaces : Option (List Bytes)) (c : STUNClient) (e : Exchange × Exchange) :
    Option STUNClient :=
  (detectNATType interfaces c e.1 e.2).map Prod.snd

/-- What a punch reports: the outcome of the simultaneous open whatever the detection gave, and the
address that the server reported if it reported one. -/
structure Report (serverAddr : Bytes) (first : Exchange) (remoteAddr : Bytes)
    (opened : Except PunchError Unit) (res : PunchResult × Option PunchFailure) : Prop where
  success : res.1.success = true ↔ opened = .ok ()
  fallback : res.1.fallbackUsed = !res.1.success
  failure : res.2 = match opened with
    | .error err => some (.simultaneousOpen err)
    | .ok () => none
  remote : res.1.remoteAddr = remoteAddr
  natType : res.1.natType = .natOpen ∨ res.1.natType = .natFullCone ∨ res.1.natType = .natSymmetric
  answered : Dialable serverAddr → ∀ ip port, Answers first ip port →
    res.1.localAddr = hostPort ip port
  unanswered : (¬ Dialable serverAddr ∨ ¬ ∃ ip port, Answers first ip port) →
    res.1.natType = .natSymmetric ∧ res.1.localAddr = ascii "0.0.0.0:0"

lemma dialable_congr {a b : Bytes} (h : splitHostPort a = splitHostPort b) :
    Dialable a ↔ Dialable b := by
  simp only [Dialable, h]

lemma hostPort_ne_nil (ip : Bytes) (port : ℕ) : hostPort ip port ≠ [] := by
  unfold hostPort joinHostPort
  split_ifs <;> simp [ascii]

lemma exists_to16 {ip : Bytes} (h : IsAddress ip) : ∃ ip16, to16 ip = some ip16 := by
  unfold to16
  rcases h with h | h <;> simp [h]

lemma Verdict.report {interfaces : Option (List Bytes)} {serverAddr : Bytes}
    {first second : Exchange} {res : Detection}
    (hv : Verdict interfaces serverAddr first second res) (localPort : ℤ) (remoteAddr : Bytes)
    (opened : Except PunchError Unit) (duration : ℤ) :
    Report serverAddr first remoteAddr opened (punch res localPort remoteAddr opened duration) := by
  classical
  by_cases hans : Dialable serverAddr ∧ ∃ ip port, Answers first ip port
  · obtain ⟨hd, ip, port, ha⟩ := hans
    obtain ⟨ip16, h16⟩ := exists_to16 ha.isAddress
    have hres := hv.answered hd ip ip16 port h16 ha
    have htext : ∀ ip' port', Answers first ip' port' → hostPort ip port = hostPort ip' port' := by
      intro ip' port' ha'
      obtain ⟨ip16', h16'⟩ := exists_to16 ha'.isAddress
      have hres' := hv.answered hd ip' ip16' port' h16' ha'
      rw [hres] at hres'
      exact (Prod.mk.inj (Prod.mk.inj hres').2).1
    have hne := hostPort_ne_nil ip port
    have hno : ¬ (¬ Dialable serverAddr ∨ ¬ ∃ ip port, Answers first ip port) := by
      rintro (h | h)
      · exact h hd
      · exact h ⟨ip, port, ha⟩
    rw [hres]
    generalize hkind : (if Differs second ip port then NATType.natSymmetric
      else if isLocalIP interfaces ip16 then .natOpen else .natFullCone) = kind
    have hkinds : kind = .natOpen ∨ kind = .natFullCone ∨ kind = .natSymmetric := by
      rw [← hkind]
      split_ifs <;> simp
    have hknown : kind ≠ .natUnknown := by
      rintro rfl
      simp at hkinds
    have hpunch : punch (kind, hostPort ip port, none) localPort remoteAddr opened duration =
        match opened with
        | .error err => (⟨false, hostPort ip port, remoteAddr, kind, duration, true⟩,
            some (.simultaneousOpen err))
        | .ok () => (⟨true, hostPort ip port, remoteAddr, kind, duration, false⟩, none) := by
      simp only [punch, if_neg hne, if_neg hknown]
    rw [hpunch]
    cases opened with
    | error err =>
      exact ⟨by simp, rfl, rfl, rfl, hkinds, fun _ => htext, fun h => absurd h hno⟩
    | ok u =>
      exact ⟨by simp, rfl, rfl, rfl, hkinds, fun _ => htext, fun h => absurd h hno⟩
  · have herr : ∃ err, res.2.2 = some err := by
      apply Option.ne_none_iff_exists'.mp
      by_cases hd : Dialable serverAddr
      · exact (hv.unanswered hd fun ha => hans ⟨hd, ha⟩).2.2
      · exact (hv.unknown hd).2.2
    obtain ⟨err, herr⟩ := herr
    obtain ⟨kind, addr, e⟩ := res
    dsimp only at herr
    subst herr
    have hpunch : punch (kind, addr, some err) localPort remoteAddr opened duration =
        match opened with
        | .error err => (⟨false, ascii "0.0.0.0:0", remoteAddr, .natSymmetric, duration, true⟩,
            some (.simultaneousOpen err))
        | .ok () => (⟨true, ascii "0.0.0.0:0", remoteAddr, .natSymmetric, duration, false⟩, none) :=
      rfl
    rw [hpunch]
    cases opened with
    | error err =>
      exact ⟨by simp, rfl, rfl, rfl, by simp, fun hd ip port ha => absurd ⟨hd, ip, port, ha⟩ hans,
        fun _ => ⟨rfl, rfl⟩⟩
    | ok u =>
      exact ⟨by simp, rfl, rfl, rfl, by simp, fun hd ip port ha => absurd ⟨hd, ip, port, ha⟩ hans,
        fun _ => ⟨rfl, rfl⟩⟩

/-- However many detections came before and whatever they met, the next one is made of the same
server and judges the NAT by the addresses that the two responses report, and a punch that follows
reports its own outcome whatever the detection said. -/
theorem detection_exact (interfaces : Option (List Bytes)) (c : STUNClient)
    (es : List (Exchange × Exchange)) (first second : Exchange) :
    ∃ c' res c'', run (step interfaces) c es = some c' ∧
      detectNATType interfaces c' first second = some (res, c'') ∧
      splitHostPort c''.serverAddr = splitHostPort c.serverAddr ∧
      Verdict interfaces c.serverAddr first second res ∧
      ∀ localPort remoteAddr opened duration, Report c.serverAddr first remoteAddr opened
        (punch res localPort remoteAddr opened duration) := by
  have hrun : ∃ c', run (step interfaces) c es = some c' ∧
      splitHostPort c'.serverAddr = splitHostPort c.serverAddr := by
    induction es generalizing c with
    | nil => exact ⟨c, rfl, rfl⟩
    | cons e es ih =>
      obtain ⟨res, c₁, hd, hsame, -⟩ := detect_exact interfaces c e.1 e.2
      obtain ⟨c', hr, hsame'⟩ := ih c₁
      refine ⟨c', ?_, hsame'.trans hsame⟩
      simpa [step, hd] using hr
  obtain ⟨c', hr, hsame⟩ := hrun
  obtain ⟨res, c'', hd, hsame', hv⟩ := detect_exact interfaces c' first second
  have hdial := dialable_congr hsame
  have hv' : Verdict interfaces c.serverAddr first second res :=
    ⟨fun h => hv.unknown (hdial.not.mpr h), fun h => hv.unanswered (hdial.mpr h),
      fun h => hv.answered (hdial.mpr h)⟩
  exact ⟨c', res, c'', hr, hd, hsame'.trans hsame, hv', hv'.report⟩

end OmniTun.Network.NatDetection
