import OmniTun.Control.StartTunnel
import OmniTun.Foundation.NetAddress
import OmniTun.Foundation.Separator

/-! The address of the local service: how the command reads it, and what the tunnel dials. -/

namespace OmniTun.Client.LocalAddress

open OmniTun.Foundation NetAddress Numerals Separator

def colon : UInt8 := 58

def splitHostPort (input : Bytes) : Except Bytes (Bytes × Bytes) :=
  match lastIndex colon input with
  | none => .error (ascii "no port separator found")
  | some colonIdx => .ok (input.take colonIdx, input.drop (colonIdx + 1))

def parseHostPort (input : Bytes) : Except Bytes (Bytes × ℤ) :=
  if ¬ input.contains colon then
    match atoi input with
    | none => .error (ascii "invalid port: " ++ input)
    | some port => .ok (ascii "127.0.0.1", port)
  else
    match splitHostPort input with
    | .error err => .error err
    | .ok (host, portStr) =>
      match atoi portStr with
      | none => .error (ascii "invalid port: " ++ portStr)
      | some port => .ok (host, port)

structure TunnelConnection (κ σ : Type*) extends Control.TunnelConnection κ σ where
  relayAddr : Bytes
  localHost : Bytes
  localPort : ℤ

variable {κ σ ω ρ : Type*}

def newTunnelConnection (tunnelID relayAddr token localHost : Bytes) (localPort : ℤ) :
    TunnelConnection κ σ where
  toTunnelConnection := Control.StartTunnel.newTunnelConnection tunnelID token
  relayAddr := relayAddr
  localHost := localHost
  localPort := localPort

namespace TunnelConnection

def localAddr (tc : TunnelConnection κ σ) : Bytes :=
  joinHostPort tc.localHost (intNumeral tc.localPort)

def dialTimeout : ℤ := 10 * 10 ^ 9

/-- `forward` is what the two loops make of the local connection. -/
def forwardLoop (dial : Bytes → Bytes → ℤ → Option ω) (forward : TunnelConnection κ σ → ω → ρ)
    (tc : TunnelConnection κ σ) : Option ρ :=
  let localAddr := joinHostPort tc.localHost (intNumeral tc.localPort)
  match dial (ascii "tcp") localAddr dialTimeout with
  | none => none
  | some localConn => some (forward tc localConn)

end TunnelConnection

open TunnelConnection

/-! What is asked of an address and of a port. -/

variable (ω ρ) in
structure Uses (tc : TunnelConnection κ σ) (addr : Bytes) : Prop where
  localAddr : tc.localAddr = addr
  dial : ∀ (dial : Bytes → Bytes → ℤ → Option ω) (forward : TunnelConnection κ σ → ω → ρ),
    tc.forwardLoop dial forward = (dial (ascii "tcp") addr dialTimeout).map (forward tc)

variable (κ σ ω ρ) in
def RoundTrips (host : Bytes) (port : ℕ) : Prop :=
  ∃ localHost localPort,
    parseHostPort (joinHostPort host (natNumeral port)) = .ok (localHost, localPort) ∧
    ∀ tunnelID relayAddr token,
      Uses ω ρ
        (newTunnelConnection tunnelID relayAddr token localHost localPort : TunnelConnection κ σ)
        (joinHostPort host (natNumeral port))

def portText (input : Bytes) : Bytes :=
  match lastIndex colon input with
  | none => input
  | some colonIdx => input.drop (colonIdx + 1)

def IsPort (text : Bytes) : Prop := ∃ n, Denotes text n ∧ 1 ≤ n ∧ n ≤ 65535

def RejectsBadPort (input : Bytes) : Prop :=
  ¬ IsPort (portText input) → ∃ err, parseHostPort input = .error err

section Parsing

variable {input host text : Bytes}

def hostText (input : Bytes) : Bytes :=
  match lastIndex colon input with
  | none => ascii "127.0.0.1"
  | some colonIdx => input.take colonIdx

lemma parseHostPort_eq (input : Bytes) : parseHostPort input =
    match atoi (portText input) with
    | none => .error (ascii "invalid port: " ++ portText input)
    | some port => .ok (hostText input, port) := by
  cases h : lastIndex colon input with
  | none =>
    have hmem : ¬ input.contains colon = true := by
      simpa using lastIndex_eq_none_iff.mp h
    simp only [parseHostPort, portText, hostText, h, if_pos hmem]
  | some colonIdx =>
    have hmem : ¬ ¬ input.contains colon = true := by
      intro hmem
      rw [lastIndex_eq_none_iff.mpr (by simpa using hmem)] at h
      cases h
    simp only [parseHostPort, splitHostPort, portText, hostText, h, if_neg hmem]

lemma parseHostPort_append {port : ℤ} (hcolon : colon ∉ text) (h : atoi text = some port) :
    parseHostPort (host ++ colon :: text) = .ok (host, port) := by
  have hlast := lastIndex_append (s := host) hcolon
  have htext : portText (host ++ colon :: text) = text := by
    simp only [portText, hlast]
    simp
  have hhost : hostText (host ++ colon :: text) = host := by
    simp only [hostText, hlast]
    simp
  rw [parseHostPort_eq, htext, h, hhost]

lemma parseHostPort_eq_error {err : Bytes} : parseHostPort input = .error err ↔
    atoi (portText input) = none ∧ ascii "invalid port: " ++ portText input = err := by
  rw [parseHostPort_eq]
  cases atoi (portText input) with
  | none => simp
  | some port => simp

lemma parseHostPort_fails_iff :
    (∃ err, parseHostPort input = .error err) ↔ atoi (portText input) = none := by
  simp [parseHostPort_eq_error]

lemma isPort_iff : IsPort text ↔ ∃ n, atoi text = some n ∧ 1 ≤ n ∧ n ≤ 65535 := by
  constructor
  · rintro ⟨n, hd, hl, hu⟩
    exact ⟨n, atoi_eq_some_iff.mpr ⟨hd, by omega, by omega⟩, hl, hu⟩
  · rintro ⟨n, h, hl, hu⟩
    exact ⟨n, (atoi_eq_some_iff.mp h).1, hl, hu⟩

lemma rejectsBadPort_iff : RejectsBadPort input ↔
    ∀ n, Denotes (portText input) n → -2 ^ 63 ≤ n → n < 2 ^ 63 → 1 ≤ n ∧ n ≤ 65535 := by
  rw [RejectsBadPort, parseHostPort_fails_iff, isPort_iff]
  constructor
  · intro h n hd hl hu
    have hn := atoi_eq_some_iff.mpr ⟨hd, hl, hu⟩
    by_contra hport
    have hnone := h fun ⟨m, hm, hrange⟩ => hport (Option.some.inj (hn.symm.trans hm) ▸ hrange)
    rw [hn] at hnone
    cases hnone
  · intro h hport
    by_contra hsome
    obtain ⟨n, hn⟩ := Option.ne_none_iff_exists'.mp hsome
    obtain ⟨hd, hl, hu⟩ := atoi_eq_some_iff.mp hn
    exact hport ⟨n, hn, h n hd hl hu⟩

end Parsing

section Printing

variable {host : Bytes} {port : ℕ}

def hostPart (host : Bytes) : Bytes := if colon ∈ host then 91 :: (host ++ [93]) else host

lemma hostPart_colon (h : colon ∈ host) : hostPart host = 91 :: (host ++ [93]) := if_pos h

lemma hostPart_plain (h : colon ∉ host) : hostPart host = host := if_neg h

lemma joinHostPort_eq (host port : Bytes) :
    joinHostPort host port = hostPart host ++ colon :: port := by
  by_cases h : colon ∈ host
  · have hc : host.contains 58 = true := List.contains_iff_mem.mpr h
    rw [joinHostPort, if_pos hc, hostPart_colon h]
    simp [ascii, colon]
  · have hc : ¬ host.contains 58 = true := mt List.contains_iff_mem.mp h
    rw [joinHostPort, if_neg hc, hostPart_plain h]
    simp [ascii, colon]

lemma hostPart_hostPart_iff : hostPart (hostPart host) = hostPart host ↔ colon ∉ host := by
  constructor
  · intro heq h
    have hmem : colon ∈ 91 :: (host ++ [93]) := by simp [h]
    rw [hostPart_colon h, hostPart_colon hmem] at heq
    have hlen := congrArg List.length heq
    simp only [List.length_cons, List.length_append, List.length_nil] at hlen
    omega
  · intro h
    rw [hostPart_plain h, hostPart_plain h]

lemma parseHostPort_joinHostPort (host : Bytes) (hu : port ≤ 65535) :
    parseHostPort (joinHostPort host (natNumeral port)) = .ok (hostPart host, (port : ℤ)) := by
  rw [joinHostPort_eq]
  apply parseHostPort_append
  · exact fun h => (natNumeral_plain h).2.1 rfl
  · exact atoi_natNumeral (by omega)

lemma intNumeral_natCast (n : ℕ) : intNumeral n = natNumeral n := by
  rw [intNumeral, if_neg (by omega), Int.natAbs_natCast]

lemma uses_iff {tc : TunnelConnection κ σ} {addr : Bytes} :
    Uses ω ρ tc addr ↔ tc.localAddr = addr := by
  constructor
  · exact Uses.localAddr
  · rintro rfl
    refine ⟨rfl, fun dial forward => ?_⟩
    simp only [forwardLoop, localAddr]
    cases dial (ascii "tcp") (joinHostPort tc.localHost (intNumeral tc.localPort)) dialTimeout with
    | none => rfl
    | some localConn => rfl

lemma roundTrips_iff (hu : port ≤ 65535) : RoundTrips κ σ ω ρ host port ↔ colon ∉ host := by
  have hparse := parseHostPort_joinHostPort host hu
  have haddr : ∀ tunnelID relayAddr token,
      (newTunnelConnection tunnelID relayAddr token (hostPart host) port :
        TunnelConnection κ σ).localAddr = hostPart (hostPart host) ++ colon :: natNumeral port := by
    intro tunnelID relayAddr token
    rw [← joinHostPort_eq, ← intNumeral_natCast]
    rfl
  rw [← hostPart_hostPart_iff]
  constructor
  · rintro ⟨localHost, localPort, hp, huses⟩
    obtain ⟨rfl, rfl⟩ := Prod.mk.inj (Except.ok.inj (hparse.symm.trans hp))
    have h := (huses [] [] []).localAddr
    rw [haddr, joinHostPort_eq] at h
    exact List.append_cancel_right h
  · intro h
    refine ⟨hostPart host, port, hparse, fun tunnelID relayAddr token => uses_iff.mpr ?_⟩
    rw [haddr, h, joinHostPort_eq]

lemma ip_roundTrips_iff {ip : Bytes} (ha : IsAddress ip) (hu : port ≤ 65535) :
    RoundTrips κ σ ω ρ (ipString ip) port ↔ to4 ip ≠ none := by
  rw [roundTrips_iff hu, ne_eq, ← colon_mem_ipString ha]
  rfl

end Printing

variable (κ σ ω ρ) in
theorem local_address_iff (host : Bytes) {port : ℕ} (hu : port ≤ 65535) (input : Bytes) :
    (RoundTrips κ σ ω ρ host port ↔ colon ∉ host) ∧
    (RejectsBadPort input ↔
      ∀ n, Denotes (portText input) n → -2 ^ 63 ≤ n → n < 2 ^ 63 → 1 ≤ n ∧ n ≤ 65535) :=
  ⟨roundTrips_iff hu, rejectsBadPort_iff⟩

theorem local_address_ipv4 :
    RoundTrips Unit Unit Unit Unit (ascii "127.0.0.1") 3000 ∧
      RejectsBadPort (ascii "localhost:https") := by
  obtain ⟨hround, hreject⟩ := local_address_iff Unit Unit Unit Unit (ascii "127.0.0.1")
    (show 3000 ≤ 65535 by omega) (ascii "localhost:https")
  refine ⟨hround.mpr (by decide), hreject.mpr fun n hd hl hu => ?_⟩
  have hnone : atoi (portText (ascii "localhost:https")) = none := by decide
  rw [atoi_eq_some_iff.mpr ⟨hd, hl, hu⟩] at hnone
  cases hnone

def loopback (_network addr : Bytes) (_timeout : ℤ) : Option Unit :=
  if addr = ascii "[::1]:80" then some () else none

theorem local_address_fails :
    joinHostPort (ascii "::1") (natNumeral 80) = ascii "[::1]:80" ∧
    parseHostPort (ascii "[::1]:80") = .ok (ascii "[::1]", 80) ∧
    (newTunnelConnection [] [] [] (ascii "[::1]") 80 : TunnelConnection Unit Unit).localAddr =
      ascii "[[::1]]:80" ∧
    (newTunnelConnection [] [] [] (ascii "[::1]") 80 : TunnelConnection Unit Unit).forwardLoop
      loopback (fun _ localConn => localConn) = none ∧
    ¬ RoundTrips Unit Unit Unit Unit (ascii "::1") 80 ∧
    parseHostPort (ascii "localhost:99999") = .ok (ascii "localhost", 99999) ∧
    ¬ RejectsBadPort (ascii "localhost:99999") := by
  have hparse : parseHostPort (ascii "localhost:99999") = .ok (ascii "localhost", 99999) := by
    decide
  have hatoi : atoi (portText (ascii "localhost:99999")) = some 99999 := by decide
  refine ⟨by decide, by decide, by decide, by decide, ?_, hparse, fun h => ?_⟩
  · rw [roundTrips_iff (by omega)]
    decide
  · have hport : ¬ IsPort (portText (ascii "localhost:99999")) := by
      rw [isPort_iff]
      rintro ⟨n, hn, hl, hu⟩
      obtain rfl := Option.some.inj (hatoi.symm.trans hn)
      omega
    obtain ⟨err, herr⟩ := h hport
    rw [hparse] at herr
    cases herr

end OmniTun.Client.LocalAddress
