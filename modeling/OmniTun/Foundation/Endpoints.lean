import OmniTun.Foundation.Networks
import OmniTun.Foundation.Separator

/-! The texts of hosts with ports and of IP addresses, read back. -/

namespace OmniTun.Foundation.Endpoints

open Numerals NetAddress Networks Separator

def ipEqual (ip x : Bytes) : Bool :=
  if ip.length = x.length then ip == x
  else if ip.length = 4 ∧ x.length = 16 then x.take 12 == v4InV6Prefix && ip == x.drop 12
  else if ip.length = 16 ∧ x.length = 4 then ip.take 12 == v4InV6Prefix && ip.drop 12 == x
  else false

inductive AddrError
  | missingPort
  | tooManyColons
  | missingBracket
  | unexpectedOpen
  | unexpectedClose
  deriving DecidableEq, Repr

def checkedParts (hostport host : Bytes) (i j k : ℕ) : Except AddrError (Bytes × Bytes) :=
  if (hostport.drop j).contains 91 then .error .unexpectedOpen
  else if (hostport.drop k).contains 93 then .error .unexpectedClose
  else .ok (host, hostport.drop (i + 1))

def splitHostPort (hostport : Bytes) : Except AddrError (Bytes × Bytes) :=
  match lastIndex 58 hostport with
  | none => .error .missingPort
  | some i =>
    if hostport.head? = some 91 then
      match hostport.findIdx? (· == 93) with
      | none => .error .missingBracket
      | some e =>
        if e + 1 = hostport.length then .error .missingPort
        else if e + 1 = i then checkedParts hostport ((hostport.take e).drop 1) i 1 (e + 1)
        else if hostport[e + 1]? = some 58 then .error .tooManyColons
        else .error .missingPort
    else
      if (hostport.take i).contains 58 then .error .tooManyColons
      else checkedParts hostport (hostport.take i) i 0 0

/-! Splitting at the last colon. -/

lemma lastIndex_split {s : Bytes} {x : UInt8} {i : ℕ} (h : lastIndex x s = some i) :
    ∃ a b, s = a ++ x :: b ∧ a.length = i ∧ x ∉ b := by
  induction s generalizing i with
  | nil => cases h
  | cons y s ih =>
    rw [lastIndex] at h
    cases hs : lastIndex x s with
    | none =>
      simp only [hs] at h
      split_ifs at h with hy
      obtain rfl := Option.some.inj h
      exact ⟨[], s, by rw [hy, List.nil_append], rfl, lastIndex_eq_none_iff.mp hs⟩
    | some j =>
      simp only [hs] at h
      obtain rfl := Option.some.inj h
      obtain ⟨a, b, rfl, rfl, hb⟩ := ih hs
      exact ⟨y :: a, b, rfl, rfl, hb⟩

lemma findIdx_split {s : Bytes} {x : UInt8} {i : ℕ} (h : s.findIdx? (· == x) = some i) :
    ∃ a b, s = a ++ x :: b ∧ a.length = i ∧ x ∉ a := by
  induction s generalizing i with
  | nil => cases h
  | cons y s ih =>
    rw [List.findIdx?_cons] at h
    split_ifs at h with hy
    · obtain rfl := Option.some.inj h
      exact ⟨[], s, by rw [eq_of_beq hy, List.nil_append], rfl, List.not_mem_nil⟩
    · obtain ⟨j, hj, rfl⟩ := Option.map_eq_some_iff.mp h
      obtain ⟨a, b, rfl, rfl, ha⟩ := ih hj
      refine ⟨y :: a, b, rfl, rfl, ?_⟩
      rintro (_ | ⟨_, hm⟩)
      · exact hy (beq_self_eq_true x)
      · exact ha hm

lemma findIdx_append {a b : Bytes} {x : UInt8} (h : x ∉ a) :
    (a ++ x :: b).findIdx? (· == x) = some a.length := by
  induction a with
  | nil => simp [List.findIdx?_cons]
  | cons y a ih =>
    have hy : (y == x) = false := by
      simpa using fun hy : y = x => h (hy ▸ List.mem_cons_self)
    have ha : x ∉ a := fun hm => h (List.mem_cons_of_mem y hm)
    simp [List.findIdx?_cons, hy, ih ha]

def Unbracketed (s : Bytes) : Prop := 91 ∉ s ∧ 93 ∉ s

def HostPort (s host port : Bytes) : Prop :=
  Unbracketed host ∧ Unbracketed port ∧ 58 ∉ port ∧
    (s = host ++ 58 :: port ∧ 58 ∉ host ∨ s = 91 :: (host ++ 93 :: 58 :: port))

lemma checkedParts_ok {s host : Bytes} {i j k : ℕ} {res : Bytes × Bytes} :
    checkedParts s host i j k = .ok res ↔
      91 ∉ s.drop j ∧ 93 ∉ s.drop k ∧ res = (host, s.drop (i + 1)) := by
  unfold checkedParts
  split_ifs with h91 h93
  · simp_all
  · simp_all
  · simp_all [eq_comm]

lemma splitHostPort_plain {host port : Bytes} (hh : Unbracketed host) (hp : Unbracketed port)
    (hc : 58 ∉ port) (hhc : 58 ∉ host) :
    splitHostPort (host ++ 58 :: port) = .ok (host, port) := by
  have hhead : ¬ (host ++ 58 :: port).head? = some 91 := by
    cases host with
    | nil => simp
    | cons c host =>
      intro h
      exact hh.1 (by simp_all)
  rw [splitHostPort, lastIndex_append hc]
  simp only [if_neg hhead, List.take_left, List.contains_eq_mem, decide_eq_true_eq, if_neg hhc]
  rw [checkedParts_ok]
  refine ⟨?_, ?_, by simp⟩
  · simp [hh.1, hp.1]
  · simp [hh.2, hp.2]

lemma splitHostPort_bracketed {host port : Bytes} (hh : Unbracketed host) (hp : Unbracketed port)
    (hc : 58 ∉ port) :
    splitHostPort (91 :: (host ++ 93 :: 58 :: port)) = .ok (host, port) := by
  have hlast : lastIndex 58 (91 :: (host ++ 93 :: 58 :: port)) = some (host.length + 2) := by
    have h := lastIndex_append (s := 91 :: (host ++ [93])) hc
    simpa using h
  have hclose : (91 :: (host ++ 93 :: 58 :: port)).findIdx? (· == 93) = some (host.length + 1) := by
    have h := findIdx_append (a := 91 :: host) (b := 58 :: port) (x := 93) (by simp [hh.2])
    simpa using h
  rw [splitHostPort, hlast]
  simp only [List.head?_cons, hclose]
  rw [if_pos trivial, if_neg (by simp), if_pos trivial, checkedParts_ok]
  refine ⟨?_, ?_, ?_⟩
  · simp [hh.1, hp.1]
  · simp [hp.2]
  · simp

theorem splitHostPort_iff {s host port : Bytes} :
    splitHostPort s = .ok (host, port) ↔ HostPort s host port := by
  constructor
  · intro h
    rw [splitHostPort] at h
    split at h
    · cases h
    next i hi =>
      obtain ⟨a, b, rfl, rfl, hb⟩ := lastIndex_split hi
      split_ifs at h with hhead
      · split at h
        · cases h
        next e he =>
          split_ifs at h with hlen hei hcolon
          obtain ⟨a', b', heq, rfl, ha'⟩ := findIdx_split he
          rw [checkedParts_ok] at h
          obtain ⟨h91, h93, hres⟩ := h
          obtain ⟨c, a', rfl⟩ : ∃ c a'', a' = c :: a'' := by
            cases a' with
            | nil => simp [heq] at hhead
            | cons c a'' => exact ⟨c, a'', rfl⟩
          obtain rfl : c = 91 := by simpa [heq] using hhead
          -- what stands before the last colon ends with the bracket
          have hsplit : a ++ 58 :: b = (91 :: a' ++ [93]) ++ b' := by simp [heq]
          obtain ⟨rfl, rfl⟩ := List.append_inj hsplit (by simpa using hei.symm)
          simp only [List.cons_append, List.append_assoc, List.length_cons, List.length_append,
            List.length_nil, Prod.mk.injEq] at h91 h93 hres
          obtain ⟨rfl, rfl⟩ := hres
          simp_all [HostPort, Unbracketed]
      · rw [checkedParts_ok] at h
        obtain ⟨h91, h93, hres⟩ := h
        simp only [List.take_left, Prod.mk.injEq] at hres
        obtain ⟨rfl, rfl⟩ := hres
        simp_all [HostPort, Unbracketed]
  · rintro ⟨hh, hp, hc, ⟨rfl, hhc⟩ | rfl⟩
    · exact splitHostPort_plain hh hp hc hhc
    · exact splitHostPort_bracketed hh hp hc

lemma splitHostPort_joinHostPort {host port : Bytes} (hh : Unbracketed host)
    (hp : Unbracketed port) (hc : 58 ∉ port) :
    splitHostPort (joinHostPort host port) = .ok (host, port) := by
  rw [splitHostPort_iff]
  refine ⟨hh, hp, hc, ?_⟩
  unfold joinHostPort
  split_ifs with hcolon
  · right
    simp [ascii]
  · left
    exact ⟨by simp [ascii], by simpa using hcolon⟩

lemma splitHostPort_join_split {s host port : Bytes} (h : splitHostPort s = .ok (host, port)) :
    splitHostPort (joinHostPort host port) = .ok (host, port) := by
  obtain ⟨hh, hp, hc, -⟩ := splitHostPort_iff.mp h
  exact splitHostPort_joinHostPort hh hp hc

/-! The letters of addresses. -/

lemma hexDigitValue_hexDigit {d : ℕ} (h : d < 16) : hexDigitValue (hexDigit d) = some d := by
  interval_cases d <;> decide

def IsHex (c : UInt8) : Prop := (hexDigitValue c).isSome = true

lemma isHex_hexNumeral {n : ℕ} {c : UInt8} (h : c ∈ hexNumeral n) : IsHex c := by
  obtain ⟨d, hd, rfl⟩ := List.mem_map.mp h
  simp [IsHex, hexDigitValue_hexDigit (hexDigits_lt hd)]

lemma isHex_natNumeral {n : ℕ} {c : UInt8} (h : c ∈ natNumeral n) : IsHex c := by
  obtain ⟨d, hd, rfl⟩ := natNumeral_digits n c h
  unfold IsHex
  interval_cases d <;> decide

lemma mem_joinGroups {gs : List ℕ} {c : UInt8} (h : c ∈ joinGroups gs) : c = 58 ∨ IsHex c := by
  refine (mem_intercalate h).imp_right ?_
  rintro ⟨x, hx, hc⟩
  obtain ⟨n, -, rfl⟩ := List.mem_map.mp hx
  exact isHex_hexNumeral hc

lemma mem_colonHex {gs : List ℕ} {c : UInt8} (h : c ∈ colonHex gs) : c = 58 ∨ IsHex c := by
  unfold colonHex at h
  dsimp only at h
  split_ifs at h
  · exact mem_joinGroups h
  · rcases List.mem_append.mp h with h | h
    · rcases List.mem_append.mp h with h | h
      · exact mem_joinGroups h
      · left
        simpa [ascii] using h
    · exact mem_joinGroups h

lemma mem_dotted {ip : Bytes} {c : UInt8} (h : c ∈ dotted ip) : c = 46 ∨ IsHex c := by
  refine (mem_intercalate h).imp_right ?_
  rintro ⟨x, hx, hc⟩
  obtain ⟨b, -, rfl⟩ := List.mem_map.mp hx
  exact isHex_natNumeral hc

lemma mem_ipString {ip : Bytes} {c : UInt8} (ha : IsAddress ip) (h : c ∈ ipString ip) :
    c = 46 ∨ c = 58 ∨ IsHex c := by
  cases h4 : to4 ip with
  | none =>
    rw [ipString_none ha h4] at h
    exact .inr (mem_colonHex h)
  | some ip4 =>
    rw [ipString_some ha h4] at h
    exact (mem_dotted h).imp_right .inr

lemma ipString_unbracketed {ip : Bytes} (ha : IsAddress ip) : Unbracketed (ipString ip) := by
  constructor
  · intro h
    have hc := mem_ipString ha h
    revert hc
    unfold IsHex
    decide
  · intro h
    have hc := mem_ipString ha h
    revert hc
    unfold IsHex
    decide

lemma splitHostPort_hostPort {ip : Bytes} (ha : IsAddress ip) (port : ℕ) :
    splitHostPort (hostPort ip port) = .ok (ipString ip, natNumeral port) := by
  apply splitHostPort_joinHostPort (ipString_unbracketed ha)
  · exact ⟨fun h => (natNumeral_plain h).2.2.1 rfl, fun h => (natNumeral_plain h).2.2.2 rfl⟩
  · exact fun h => (natNumeral_plain h).2.1 rfl

/-! Addresses read back. -/

lemma parseAddr_dotted {a b c d : UInt8} : IPv4.parseAddr (dotted [a, b, c, d]) =
    some (((a.toNat * 256 + b.toNat) * 256 + c.toNat) * 256 + d.toNat) := by
  have hoctet : ∀ x : UInt8, IPv4.parseOctet (natNumeral x.toNat) = some x.toNat := by
    intro x
    have hx := x.toNat_lt
    rw [IPv4.parseOctet_natNumeral, if_pos (by omega)]
  have hdots := IPv4.parseAddr_dots (IPv4.dot_not_mem_natNumeral a.toNat)
    (IPv4.dot_not_mem_natNumeral b.toNat) (IPv4.dot_not_mem_natNumeral c.toNat)
    (IPv4.dot_not_mem_natNumeral d.toNat)
  rw [hoctet, hoctet, hoctet, hoctet] at hdots
  have htext : dotted [a, b, c, d] = natNumeral a.toNat ++ 46 :: (natNumeral b.toNat ++
      46 :: (natNumeral c.toNat ++ 46 :: natNumeral d.toNat)) := by
    simp [dotted, List.intercalate, List.intersperse]
  rw [htext]
  exact hdots

lemma find_first {s : Bytes} {q : UInt8 → Bool} {x : UInt8} (hq : q x = true) (hx : x ∈ s)
    (h : ∀ c ∈ s, c = x ∨ q c = false) : s.find? q = some x := by
  induction s with
  | nil => cases hx
  | cons y s ih =>
    rcases h y List.mem_cons_self with rfl | hy
    · simp [hq]
    · have hne : y ≠ x := by
        rintro rfl
        rw [hq] at hy
        cases hy
      rw [List.find?_cons_of_neg (by simp [hy])]
      apply ih
      · exact (List.mem_cons.mp hx).resolve_left (Ne.symm hne)
      · exact fun c hc => h c (List.mem_cons_of_mem y hc)

def isSeparator (c : UInt8) : Bool := decide (c = 46 ∨ c = 58 ∨ c = 37)

lemma parseAddr_eq (s : Bytes) :
    parseAddr s =
      match s.find? isSeparator with
      | some 46 => (IPv4.parseAddr s).map addr4
      | some 58 => parseIPv6 s
      | _ => none := rfl

lemma isSeparator_of_isHex {c : UInt8} (h : IsHex c) : isSeparator c = false := by
  unfold IsHex at h
  unfold isSeparator
  simp only [decide_eq_false_iff_not]
  rintro (rfl | rfl | rfl) <;> revert h <;> decide

lemma parseIP_v4 {ip ip4 : Bytes} (ha : IsAddress ip) (h : to4 ip = some ip4) :
    parseIP (ipString ip) = to16 ip := by
  rw [ipString_some ha h, to16_of_to4 h]
  obtain ⟨a, b, c, d, rfl⟩ : ∃ a b c d, ip4 = [a, b, c, d] := by
    have hlen := to4_length h
    rcases ip4 with - | ⟨a, - | ⟨b, - | ⟨c, - | ⟨d, - | ⟨e, rest⟩⟩⟩⟩⟩ <;> simp at hlen
    exact ⟨a, b, c, d, rfl⟩
  have hfind : (dotted [a, b, c, d]).find? isSeparator = some 46 := by
    apply find_first (by decide)
    · simp [dotted, List.intercalate, List.intersperse]
    · exact fun c hc => (mem_dotted hc).imp_right isSeparator_of_isHex
  have hparse : parseAddr (dotted [a, b, c, d]) = some (addr4
      (((a.toNat * 256 + b.toNat) * 256 + c.toNat) * 256 + d.toNat)) := by
    rw [parseAddr_eq, hfind]
    simp only [parseAddr_dotted, Option.map_some]
  have hput : BigEndian.put 4 (((a.toNat * 256 + b.toNat) * 256 + c.toNat) * 256 + d.toNat) =
      [a, b, c, d] := by
    have hget : BigEndian.get [a, b, c, d] =
        ((a.toNat * 256 + b.toNat) * 256 + c.toNat) * 256 + d.toNat := by simp [BigEndian.get]
    rw [← hget]
    exact BigEndian.put_get [a, b, c, d]
  simp [parseIP, hparse, addr4, hput]

lemma foldl_hexDigit (ds : List ℕ) (hds : ∀ d ∈ ds, d < 16) (acc : ℕ) :
    (ds.map hexDigit).foldl (fun n c => n * 16 + (hexDigitValue c).getD 0) acc =
      acc * 16 ^ ds.length + Nat.ofDigits 16 ds.reverse := by
  induction ds generalizing acc with
  | nil => simp
  | cons d ds ih =>
    have hd := hexDigitValue_hexDigit (hds d List.mem_cons_self)
    rw [List.map_cons, List.foldl_cons, hd, ih fun e he => hds e (List.mem_cons_of_mem d he),
      List.reverse_cons, Nat.ofDigits_append, Nat.ofDigits_singleton, List.length_reverse,
      List.length_cons, Option.getD_some, pow_succ]
    ring

lemma ofDigits_hexDigits (n : ℕ) : Nat.ofDigits 16 (hexDigits n).reverse = n := by
  unfold hexDigits
  split_ifs with hn
  · simp [hn]
  · rw [List.reverse_reverse, Nat.ofDigits_digits]

lemma hexNumeral_length {n : ℕ} (h : n < 2 ^ 16) : (hexNumeral n).length ≤ 4 := by
  unfold hexNumeral hexDigits
  split_ifs with hn
  · simp
  · rw [List.length_map, List.length_reverse, Nat.digits_length_le_iff (by omega)]
    omega

def Bounded (s : Bytes) : Prop := ∀ c, s.head? = some c → ¬ IsHex c

lemma scanGroup_hexNumeral {n : ℕ} {s : Bytes} (h : n < 2 ^ 16) (hs : Bounded s) :
    scanGroup (hexNumeral n ++ s) = some (n, s) := by
  have htake : (hexNumeral n ++ s).takeWhile (fun c => (hexDigitValue c).isSome) =
      hexNumeral n := by
    rw [List.takeWhile_append_of_pos fun c hc => isHex_hexNumeral hc]
    have hrest : s.takeWhile (fun c => (hexDigitValue c).isSome) = [] := by
      cases s with
      | nil => rfl
      | cons c s => exact List.takeWhile_cons_of_neg (hs c rfl)
    rw [hrest, List.append_nil]
  have hlen := hexNumeral_length h
  have hvalue : (hexNumeral n).foldl (fun n c => n * 16 + (hexDigitValue c).getD 0) 0 = n := by
    rw [hexNumeral, foldl_hexDigit _ (fun d hd => hexDigits_lt hd), ofDigits_hexDigits,
      Nat.zero_mul, Nat.zero_add]
  unfold scanGroup
  simp only [htake, List.drop_left]
  rw [if_neg, hvalue]
  rintro (hnil | hlong)
  · exact hexNumeral_ne_nil n hnil
  · omega

lemma not_isHex_colon : ¬ IsHex 58 := by
  unfold IsHex
  decide

lemma bounded_colon (s : Bytes) : Bounded (58 :: s) := by
  intro c hc
  obtain rfl := Option.some.inj hc
  exact not_isHex_colon

def groupBytes (gs : List ℕ) : Bytes := gs.flatMap (BigEndian.put 2)

lemma groupBytes_length (gs : List ℕ) : (groupBytes gs).length = 2 * gs.length := by
  induction gs with
  | nil => rfl
  | cons g gs ih =>
    rw [groupBytes, List.flatMap_cons, List.length_append, BigEndian.put_length, ← groupBytes, ih,
      List.length_cons]
    omega

lemma groupBytes_groups {ip : Bytes} {n : ℕ} (h : ip.length = 2 * n) :
    groupBytes (groups ip) = ip := by
  induction n generalizing ip with
  | zero =>
    obtain rfl := List.length_eq_zero_iff.mp h
    rfl
  | succ n ih =>
    rcases ip with - | ⟨x, - | ⟨y, rest⟩⟩
    · simp at h
    · simp at h
      omega
    · have hlen : rest.length = 2 * n := by
        simp at h
        omega
      have hrest := ih hlen
      have hput : BigEndian.put 2 (x.toNat * 256 + y.toNat) = [x, y] := by
        have hget : BigEndian.get [x, y] = x.toNat * 256 + y.toNat := by simp [BigEndian.get]
        rw [← hget]
        exact BigEndian.put_get [x, y]
      rw [groups, groupBytes, List.flatMap_cons, ← groupBytes, hput, hrest]
      rfl

lemma groups_lt {ip : Bytes} {g : ℕ} (h : g ∈ groups ip) : g < 2 ^ 16 := by
  induction ip using groups.induct with
  | case1 a b rest ih =>
    rw [groups] at h
    rcases List.mem_cons.mp h with rfl | h
    · have ha := a.toNat_lt
      have hb := b.toNat_lt
      omega
    · exact ih h
  | case2 s hs =>
    unfold groups at h
    split at h
    · exact absurd rfl (hs _ _ _)
    · cases h

lemma joinGroups_cons {g : ℕ} {gs : List ℕ} (h : gs ≠ []) :
    joinGroups (g :: gs) = hexNumeral g ++ 58 :: joinGroups gs := by
  have hne : gs.map hexNumeral ≠ [] := by simpa using h
  have happend := intercalate_append 58 (List.cons_ne_nil (hexNumeral g) []) hne
  simpa [joinGroups, List.intercalate] using happend

lemma joinGroups_head {gs : List ℕ} (h : gs ≠ []) :
    ∃ c s, joinGroups gs = c :: s ∧ c ≠ 58 := by
  obtain ⟨g, gs, rfl⟩ := List.exists_cons_of_ne_nil h
  obtain ⟨c, s, hs⟩ := List.exists_cons_of_ne_nil (hexNumeral_ne_nil g)
  have hc : c ≠ 58 := by
    rintro rfl
    exact not_isHex_colon (isHex_hexNumeral (n := g) (by simp [hs]))
  by_cases hgs : gs = []
  · subst hgs
    exact ⟨c, s, by simp [joinGroups, List.intercalate, hs], hc⟩
  · exact ⟨c, s ++ 58 :: joinGroups gs, by simp [joinGroups_cons hgs, hs], hc⟩

lemma scanGroups_last {gs : List ℕ} (hne : gs ≠ []) (hlt : ∀ g ∈ gs, g < 2 ^ 16) {fuel : ℕ}
    (hfuel : gs.length ≤ fuel) (ip : Bytes) (ellipsis : Option ℕ) :
    scanGroups fuel ip ellipsis (joinGroups gs) = some (ip ++ groupBytes gs, ellipsis, []) := by
  induction gs generalizing fuel ip with
  | nil => exact absurd rfl hne
  | cons g gs ih =>
    obtain ⟨fuel, rfl⟩ : ∃ m, fuel = m + 1 := ⟨fuel - 1, by simp at hfuel; omega⟩
    have hg := hlt g List.mem_cons_self
    by_cases hgs : gs = []
    · subst hgs
      have hscan := scanGroup_hexNumeral (s := []) hg (by simp [Bounded])
      rw [List.append_nil] at hscan
      have htext : joinGroups [g] = hexNumeral g := by simp [joinGroups, List.intercalate]
      simp [scanGroups, htext, hscan, groupBytes]
    · have hscan := scanGroup_hexNumeral hg (bounded_colon (joinGroups gs))
      obtain ⟨c, s, hs, hc⟩ := joinGroups_head hgs
      have hle : gs.length ≤ fuel := by simpa using hfuel
      have hrest := ih hgs (fun g' hg' => hlt g' (List.mem_cons_of_mem g hg')) hle
        (ip ++ BigEndian.put 2 g)
      rw [hs] at hrest hscan
      rw [joinGroups_cons hgs, hs, scanGroups, hscan]
      simp only [Option.bind_eq_bind, Option.bind_some]
      split
      all_goals simp_all [groupBytes]

lemma scanGroups_ellipsis {gs hs : List ℕ} (hne : gs ≠ []) (hlt : ∀ g ∈ gs, g < 2 ^ 16)
    (hlt' : ∀ g ∈ hs, g < 2 ^ 16) {fuel : ℕ} (hfuel : gs.length + hs.length ≤ fuel) (ip : Bytes) :
    scanGroups fuel ip none (joinGroups gs ++ 58 :: 58 :: joinGroups hs) =
      some (ip ++ groupBytes gs ++ groupBytes hs, some (ip.length + 2 * gs.length), []) := by
  induction gs generalizing fuel ip with
  | nil => exact absurd rfl hne
  | cons g gs ih =>
    obtain ⟨fuel, rfl⟩ : ∃ m, fuel = m + 1 := ⟨fuel - 1, by simp at hfuel; omega⟩
    have hg := hlt g List.mem_cons_self
    by_cases hgs : gs = []
    · subst hgs
      have hscan := scanGroup_hexNumeral hg (bounded_colon (58 :: joinGroups hs))
      have htext : joinGroups [g] = hexNumeral g := by simp [joinGroups, List.intercalate]
      rw [htext, scanGroups, hscan]
      by_cases hhs : hs = []
      · subst hhs
        simp [joinGroups, List.intercalate, groupBytes]
      · obtain ⟨c, s, hs', hc⟩ := joinGroups_head hhs
        have hle : hs.length ≤ fuel := by
          simp at hfuel
          omega
        have hrest := scanGroups_last hhs hlt' hle (ip ++ BigEndian.put 2 g)
          (some (ip.length + 2))
        rw [hs'] at hrest ⊢
        simp only [Option.bind_eq_bind, Option.bind_some, if_true, hrest]
        simp [groupBytes]
    · have hscan := scanGroup_hexNumeral hg
        (bounded_colon (joinGroups gs ++ 58 :: 58 :: joinGroups hs))
      obtain ⟨c, s, hs', hc⟩ := joinGroups_head hgs
      have hle : gs.length + hs.length ≤ fuel := by
        simp at hfuel
        omega
      have hrest := ih hgs (fun g' hg' => hlt g' (List.mem_cons_of_mem g hg')) hle
        (ip ++ BigEndian.put 2 g)
      rw [hs'] at hrest hscan
      rw [joinGroups_cons hgs, hs', List.append_assoc, List.cons_append, scanGroups, hscan]
      simp only [Option.bind_eq_bind, Option.bind_some]
      split
      all_goals simp_all [groupBytes]
      omega

lemma groupBytes_append (gs hs : List ℕ) : groupBytes (gs ++ hs) = groupBytes gs ++ groupBytes hs :=
  List.flatMap_append

lemma groupBytes_zeros (n : ℕ) : groupBytes (List.replicate n 0) = List.replicate (2 * n) 0 := by
  induction n with
  | zero => rfl
  | succ n ih =>
    rw [List.replicate_succ, groupBytes, List.flatMap_cons, ← groupBytes, ih]
    have hput : BigEndian.put 2 0 = List.replicate 2 0 := rfl
    rw [hput, List.replicate_append_replicate]
    congr 1
    omega

lemma parseIPv6Groups_eq {s : Bytes} (h : s ≠ [58, 58]) :
    parseIPv6Groups s =
      (if s.take 2 = [58, 58] then scanGroups 8 [] (some 0) (s.drop 2)
        else scanGroups 8 [] none s).bind fun r =>
          if r.2.2 = [] then expand r.1 r.2.1 else none := by
  unfold parseIPv6Groups
  split
  · exact absurd rfl h
  · split_ifs <;> rfl

lemma joinGroups_nil : joinGroups [] = [] := rfl

lemma expand_groups {pre post : List ℕ} {n : ℕ} (hn : 0 < n)
    (h : pre.length + n + post.length = 8) :
    expand (groupBytes pre ++ groupBytes post) (some (2 * pre.length)) =
      some (groupBytes (pre ++ List.replicate n 0 ++ post)) := by
  have hpre := groupBytes_length pre
  have hpost := groupBytes_length post
  simp only [expand, List.length_append]
  rw [if_pos (by omega), ← hpre, List.take_left, List.drop_left, groupBytes_append,
    groupBytes_append, groupBytes_zeros]
  congr 4
  omega

lemma parseIPv6Groups_run {pre post : List ℕ} {n : ℕ} (hn : 0 < n)
    (h : pre.length + n + post.length = 8) (hpre : ∀ g ∈ pre, g < 2 ^ 16)
    (hpost : ∀ g ∈ post, g < 2 ^ 16) :
    parseIPv6Groups (joinGroups pre ++ 58 :: 58 :: joinGroups post) =
      some (groupBytes (pre ++ List.replicate n 0 ++ post)) := by
  have hexpand := expand_groups hn h
  by_cases hne : pre = []
  · subst hne
    by_cases hne' : post = []
    · subst hne'
      obtain rfl : n = 8 := by simpa using h
      rfl
    · obtain ⟨c, s, hs, -⟩ := joinGroups_head hne'
      have hle : post.length ≤ 8 := by
        simp at h
        omega
      have hlast := scanGroups_last hne' hpost hle [] (some 0)
      rw [joinGroups_nil, List.nil_append, parseIPv6Groups_eq (by simp [hs])]
      simp only [List.take_succ_cons, List.take_zero, if_true, List.drop_succ_cons, List.drop_zero,
        hlast, Option.bind_some]
      exact hexpand
  · obtain ⟨c, s, hs, hc⟩ := joinGroups_head hne
    have hle : pre.length + post.length ≤ 8 := by omega
    have hscan := scanGroups_ellipsis hne hpre hpost hle []
    have htake : (joinGroups pre ++ 58 :: 58 :: joinGroups post).take 2 ≠ [58, 58] := by
      rw [hs]
      simp [hc]
    rw [parseIPv6Groups_eq (by simp [hs, hc]), if_neg htake, hscan]
    simpa using hexpand

lemma parseIPv6Groups_colonHex {gs : List ℕ} (hlen : gs.length = 8) (hlt : ∀ g ∈ gs, g < 2 ^ 16) :
    parseIPv6Groups (colonHex gs) = some (groupBytes gs) := by
  have hne : gs ≠ [] := by
    rintro rfl
    cases hlen
  have hrun := zeroRun_isRun gs
  unfold colonHex
  dsimp only
  split_ifs with hzero
  · obtain ⟨c, s, hs, hc⟩ := joinGroups_head hne
    have hlast := scanGroups_last hne hlt hlen.le [] none
    have htake : (joinGroups gs).take 2 ≠ [58, 58] := by
      rw [hs]
      simp [hc]
    have hbytes := groupBytes_length gs
    rw [parseIPv6Groups_eq (by simp [hs, hc]), if_neg htake, hlast]
    simp [expand, hbytes, hlen]
  · have hle := hrun.1
    have hparse := parseIPv6Groups_run (Nat.pos_of_ne_zero hzero) (by
        simp only [List.length_take, List.length_drop]
        omega)
      (fun g hg => hlt g (List.mem_of_mem_take (i := (zeroRun gs).1) hg))
      fun g hg => hlt g (List.mem_of_mem_drop (i := (zeroRun gs).1 + (zeroRun gs).2) hg)
    have htext : ascii "::" = [58, 58] := rfl
    have hzeros : gs.length - (gs.take (zeroRun gs).1).length -
        (gs.drop ((zeroRun gs).1 + (zeroRun gs).2)).length = (zeroRun gs).2 := by
      rw [List.length_take, List.length_drop]
      omega
    have hsplit := hrun.split
    rw [hzeros] at hsplit
    rw [← hsplit] at hparse
    simpa [htext] using hparse

lemma parseIP_v6 {ip : Bytes} (ha : IsAddress ip) (h : to4 ip = none) :
    parseIP (ipString ip) = to16 ip := by
  have hlen := length_of_to4 ha h
  have h16 : to16 ip = some ip := by
    unfold to16
    rw [if_neg (by omega), if_pos hlen]
  have hgroups := groups_eight ha h
  rw [ipString_none ha h, h16]
  have hcolon : ∀ c ∈ colonHex (groups ip), c = 58 ∨ isSeparator c = false :=
    fun c hc => (mem_colonHex hc).imp_right isSeparator_of_isHex
  have hfind : (colonHex (groups ip)).find? isSeparator = some 58 :=
    find_first (by decide) (colon_mem_colonHex (by omega)) hcolon
  have hzone : 37 ∉ colonHex (groups ip) := by
    intro hm
    have := hcolon 37 hm
    revert this
    decide
  have hbytes := parseIPv6Groups_colonHex hgroups fun g hg => groups_lt hg
  rw [groupBytes_groups (n := 8) (by omega)] at hbytes
  have hparse : parseAddr (colonHex (groups ip)) = some ⟨ip, false, [], hlen, by simp⟩ := by
    rw [parseAddr_eq, hfind]
    simp only [parseIPv6, if_neg hzone, hbytes, Option.bind_some, addr6, hlen, dite_true]
  simp [parseIP, hparse]

/-- The text of an address is read as the address. -/
theorem parseIP_ipString {ip : Bytes} (ha : IsAddress ip) : parseIP (ipString ip) = to16 ip := by
  cases h : to4 ip with
  | none => exact parseIP_v6 ha h
  | some ip4 => exact parseIP_v4 ha h

end OmniTun.Foundation.Endpoints
