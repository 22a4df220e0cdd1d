import OmniTun.Foundation.Numerals

/-! The texts of IP addresses and of the endpoints they belong to, and that a text determines what
it was made from. -/

namespace OmniTun.Foundation.NetAddress

open Numerals

def v4InV6Prefix : Bytes := List.replicate 10 0 ++ [255, 255]

def to4 (ip : Bytes) : Option Bytes :=
  if ip.length = 4 then some ip
  else if ip.length = 16 ∧ ip.take 12 = v4InV6Prefix then some (ip.drop 12)
  else none

def to16 (ip : Bytes) : Option Bytes :=
  if ip.length = 4 then some (v4InV6Prefix ++ ip)
  else if ip.length = 16 then some ip
  else none

def dotted (ip : Bytes) : Bytes := [46].intercalate (ip.map fun b => natNumeral b.toNat)

def hexDigits (n : ℕ) : List ℕ := if n = 0 then [0] else (Nat.digits 16 n).reverse

def hexNumeral (n : ℕ) : Bytes := (hexDigits n).map hexDigit

def groups : Bytes → List ℕ
  | a :: b :: rest => (a.toNat * 256 + b.toNat) :: groups rest
  | _ => []

def zeroRun (gs : List ℕ) : ℕ × ℕ :=
  (List.range gs.length).foldl (fun best i =>
    let l := ((gs.drop i).takeWhile (· == 0)).length
    if 2 ≤ l ∧ best.2 < l then (i, l) else best) (0, 0)

def joinGroups (gs : List ℕ) : Bytes := [58].intercalate (gs.map hexNumeral)

def colonHex (gs : List ℕ) : Bytes :=
  let (start, len) := zeroRun gs
  if len = 0 then joinGroups gs
  else joinGroups (gs.take start) ++ ascii "::" ++ joinGroups (gs.drop (start + len))

def ipString (ip : Bytes) : Bytes :=
  if ip = [] then ascii "<nil>"
  else if ip.length ≠ 4 ∧ ip.length ≠ 16 then ascii "?" ++ hexEncode ip
  else
    match to4 ip with
    | some ip4 => dotted ip4
    | none => colonHex (groups ip)

def joinHostPort (host port : Bytes) : Bytes :=
  if host.contains 58 then ascii "[" ++ host ++ ascii "]:" ++ port
  else host ++ ascii ":" ++ port

def hostPort (ip : Bytes) (port : ℕ) : Bytes := joinHostPort (ipString ip) (natNumeral port)

/-! Numerals. -/

lemma natNumeral_inj {m n : ℕ} (h : natNumeral m = natNumeral n) : m = n := by
  have hv := congrArg value h
  rwa [value_natNumeral, value_natNumeral] at hv

lemma hexDigits_lt {n d : ℕ} (h : d ∈ hexDigits n) : d < 16 := by
  rw [hexDigits] at h
  split_ifs at h with hn
  · simp at h
    omega
  · exact Nat.digits_lt_base (by omega) (List.mem_reverse.mp h)

def hexValue (c : UInt8) : ℕ := if c.toNat < 58 then c.toNat - 48 else c.toNat - 87

lemma hexValue_hexDigit {d : ℕ} (h : d < 16) : hexValue (hexDigit d) = d := by
  interval_cases d <;> rfl

lemma hexDigit_ne {d : ℕ} (h : d < 16) : hexDigit d ≠ 58 ∧ hexDigit d ≠ 93 := by
  interval_cases d <;> decide

lemma hexNumeral_value (n : ℕ) : Nat.ofDigits 16 ((hexNumeral n).map hexValue).reverse = n := by
  have hdigits : (hexNumeral n).map hexValue = hexDigits n := by
    rw [hexNumeral, List.map_map]
    have hid : ∀ d ∈ hexDigits n, (hexValue ∘ hexDigit) d = id d :=
      fun d hd => hexValue_hexDigit (hexDigits_lt hd)
    rw [List.map_congr_left hid, List.map_id]
  rw [hdigits, hexDigits]
  split_ifs with hn
  · simp [hn]
  · rw [List.reverse_reverse, Nat.ofDigits_digits]

lemma hexNumeral_inj {m n : ℕ} (h : hexNumeral m = hexNumeral n) : m = n := by
  rw [← hexNumeral_value m, h, hexNumeral_value]

lemma hexNumeral_ne_nil (n : ℕ) : hexNumeral n ≠ [] := by
  rw [hexNumeral, hexDigits]
  split_ifs with hn
  · simp
  · simpa [Nat.digits_ne_nil_iff_ne_zero] using hn

lemma hexNumeral_plain {n : ℕ} {c : UInt8} (h : c ∈ hexNumeral n) : c ≠ 58 ∧ c ≠ 93 := by
  obtain ⟨d, hd, rfl⟩ := List.mem_map.mp h
  exact hexDigit_ne (hexDigits_lt hd)

/-! Joined texts. -/

lemma intercalate_append (sep : UInt8) {xs ys : List Bytes} (hx : xs ≠ []) (hy : ys ≠ []) :
    [sep].intercalate (xs ++ ys) = [sep].intercalate xs ++ sep :: [sep].intercalate ys := by
  induction xs with
  | nil => exact absurd rfl hx
  | cons x xs ih =>
    cases xs with
    | nil =>
      obtain ⟨y, ys, rfl⟩ := List.exists_cons_of_ne_nil hy
      simp [List.intercalate]
    | cons x' xs =>
      have h := ih (List.cons_ne_nil _ _)
      simp only [List.intercalate, List.cons_append, List.intersperse_cons_cons,
        List.flatten_cons] at h ⊢
      rw [h]
      simp

lemma intercalate_inj {sep : UInt8} {xs ys : List Bytes} (hxs : ∀ x ∈ xs, sep ∉ x)
    (hys : ∀ y ∈ ys, sep ∉ y) (hx : xs ≠ []) (hy : ys ≠ [])
    (h : [sep].intercalate xs = [sep].intercalate ys) : xs = ys := by
  rw [← List.splitOn_intercalate sep hxs hx, h, List.splitOn_intercalate sep hys hy]

lemma mem_intercalate {sep c : UInt8} {xs : List Bytes} (h : c ∈ [sep].intercalate xs) :
    c = sep ∨ ∃ x ∈ xs, c ∈ x := by
  induction xs with
  | nil => cases h
  | cons x xs ih =>
    cases xs with
    | nil => exact .inr ⟨x, List.mem_cons_self, by simpa [List.intercalate] using h⟩
    | cons x' xs =>
      have happend := intercalate_append sep (List.cons_ne_nil x [])
        (List.cons_ne_nil x' xs)
      rw [List.singleton_append] at happend
      rw [happend] at h
      rcases List.mem_append.mp h with h | h
      · exact .inr ⟨x, List.mem_cons_self, by simpa [List.intercalate] using h⟩
      · rcases List.mem_cons.mp h with h | h
        · exact .inl h
        · rcases ih h with h | ⟨y, hy, hc⟩
          · exact .inl h
          · exact .inr ⟨y, List.mem_cons_of_mem x hy, hc⟩

lemma natNumeral_plain {n : ℕ} {c : UInt8} (h : c ∈ natNumeral n) :
    c ≠ 46 ∧ c ≠ 58 ∧ c ≠ 91 ∧ c ≠ 93 := by
  obtain ⟨d, hd, rfl⟩ := natNumeral_digits n c h
  interval_cases d <;> decide

lemma dotted_inj {a b : Bytes} (ha : a ≠ []) (hb : b ≠ []) (h : dotted a = dotted b) : a = b := by
  have hplain : ∀ ip : Bytes, ∀ x ∈ ip.map fun b => natNumeral b.toNat, (46 : UInt8) ∉ x := by
    intro ip x hx hm
    obtain ⟨b, -, rfl⟩ := List.mem_map.mp hx
    exact (natNumeral_plain hm).1 rfl
  have hmap := intercalate_inj (hplain a) (hplain b) (by simpa using ha) (by simpa using hb) h
  apply List.map_injective_iff.mpr _ hmap
  intro x y hxy
  exact UInt8.toNat_inj.mp (natNumeral_inj hxy)

lemma dotted_plain {ip : Bytes} {c : UInt8} (h : c ∈ dotted ip) : c ≠ 58 ∧ c ≠ 91 := by
  rcases mem_intercalate h with rfl | ⟨x, hx, hc⟩
  · decide
  · obtain ⟨b, -, rfl⟩ := List.mem_map.mp hx
    obtain ⟨-, hcolon, hbracket, -⟩ := natNumeral_plain hc
    exact ⟨hcolon, hbracket⟩

/-! The groups of an address. -/

lemma groups_inj {a b : Bytes} (ha : Even a.length) (hb : Even b.length) (h : groups a = groups b) :
    a = b := by
  induction a using groups.induct generalizing b with
  | case1 x y rest ih =>
    rcases b with - | ⟨x', - | ⟨y', rest'⟩⟩
    · cases h
    · cases h
    · obtain ⟨hhead, hrest⟩ := List.cons.inj h
      have hy := y.toNat_lt
      have hy' := y'.toNat_lt
      have hx : x = x' := UInt8.toNat_inj.mp (by omega)
      have hyy : y = y' := UInt8.toNat_inj.mp (by omega)
      have heven : Even rest.length := by simpa [Nat.even_add_one] using ha
      have heven' : Even rest'.length := by simpa [Nat.even_add_one] using hb
      rw [hx, hyy, ih heven heven' hrest]
  | case2 l hl =>
    have hnil : ∀ l : Bytes, Even l.length → groups l = [] → l = [] := by
      intro l heven hg
      rcases l with - | ⟨x, - | ⟨y, rest⟩⟩
      · rfl
      · simp at heven
      · cases hg
    have hg : groups l = [] := by
      rcases l with - | ⟨x, - | ⟨y, rest⟩⟩
      · rfl
      · rfl
      · exact absurd rfl (hl x y rest)
    rw [hnil l ha hg, hnil b hb (h ▸ hg)]

lemma groups_length {ip : Bytes} {n : ℕ} (h : ip.length = 2 * n) : (groups ip).length = n := by
  induction n generalizing ip with
  | zero =>
    obtain rfl := List.length_eq_zero_iff.mp h
    rfl
  | succ n ih =>
    rcases ip with - | ⟨x, - | ⟨y, rest⟩⟩
    · simp at h
    · simp at h
      omega
    · have hrest : rest.length = 2 * n := by
        simp at h
        omega
      simp [groups, ih hrest]

def IsRun (gs : List ℕ) (run : ℕ × ℕ) : Prop :=
  run.1 + run.2 ≤ gs.length ∧ (gs.drop run.1).take run.2 = List.replicate run.2 0

lemma zeroRun_isRun (gs : List ℕ) : IsRun gs (zeroRun gs) := by
  rw [zeroRun]
  have hall : ∀ i ∈ List.range gs.length, i ≤ gs.length := fun i hi => (List.mem_range.mp hi).le
  generalize List.range gs.length = is at hall
  induction is using List.reverseRecOn with
  | nil => exact ⟨by simp, rfl⟩
  | append_singleton is i ih =>
    have hrun := ih fun j hj => hall j (List.mem_append_left _ hj)
    rw [List.foldl_append, List.foldl_cons, List.foldl_nil]
    dsimp only
    split_ifs
    · have hi := hall i (by simp)
      have hprefix := List.takeWhile_prefix (· == 0) (l := gs.drop i)
      have hle := hprefix.length_le
      rw [List.length_drop] at hle
      refine ⟨by omega, ?_⟩
      rw [← List.prefix_iff_eq_take.mp hprefix, List.eq_replicate_iff]
      refine ⟨rfl, fun b hb => ?_⟩
      simpa using List.mem_takeWhile_imp hb
    · exact hrun

lemma IsRun.split {gs : List ℕ} {run : ℕ × ℕ} (h : IsRun gs run) :
    gs = gs.take run.1 ++ List.replicate (gs.length - (gs.take run.1).length -
      (gs.drop (run.1 + run.2)).length) 0 ++ gs.drop (run.1 + run.2) := by
  have hlen : gs.length - (gs.take run.1).length - (gs.drop (run.1 + run.2)).length = run.2 := by
    rw [List.length_take, List.length_drop]
    have := h.1
    omega
  rw [hlen, ← h.2, List.append_assoc, ← List.drop_drop, List.take_append_drop,
    List.take_append_drop]

def pieces (gs : List ℕ) : List Bytes := if gs = [] then [[]] else gs.map hexNumeral

def colonPieces (gs : List ℕ) : List Bytes :=
  let (start, len) := zeroRun gs
  if len = 0 then gs.map hexNumeral
  else pieces (gs.take start) ++ [] :: pieces (gs.drop (start + len))

lemma pieces_ne_nil (gs : List ℕ) : pieces gs ≠ [] := by
  rw [pieces]
  split_ifs with h
  · exact List.cons_ne_nil _ _
  · simpa using h

lemma intercalate_pieces (gs : List ℕ) : [58].intercalate (pieces gs) = joinGroups gs := by
  rw [pieces]
  split_ifs with h
  · rw [h]
    rfl
  · rfl

lemma colonHex_eq (gs : List ℕ) : colonHex gs = [58].intercalate (colonPieces gs) := by
  rw [colonHex, colonPieces]
  dsimp only
  split_ifs
  · rfl
  · have htail : [58].intercalate ([] :: pieces (gs.drop ((zeroRun gs).1 + (zeroRun gs).2))) =
        58 :: joinGroups (gs.drop ((zeroRun gs).1 + (zeroRun gs).2)) := by
      have happend := intercalate_append 58 (List.cons_ne_nil ([] : Bytes) [])
        (pieces_ne_nil (gs.drop ((zeroRun gs).1 + (zeroRun gs).2)))
      rw [intercalate_pieces] at happend
      exact happend
    rw [intercalate_append 58 (pieces_ne_nil _) (List.cons_ne_nil _ _), intercalate_pieces, htail]
    simp [ascii]

lemma takeWhile_pieces (gs : List ℕ) (rest : List Bytes) :
    (pieces gs ++ [] :: rest).takeWhile (· != []) = gs.map hexNumeral := by
  rw [pieces]
  split_ifs with h
  · subst h
    rfl
  · rw [List.takeWhile_append_of_pos]
    · simp
    · intro x hx
      obtain ⟨n, -, rfl⟩ := List.mem_map.mp hx
      exact bne_iff_ne.mpr (hexNumeral_ne_nil n)

lemma pieces_reverse (gs : List ℕ) : (pieces gs).reverse = pieces gs.reverse := by
  rw [pieces, pieces, List.map_reverse]
  simp only [List.reverse_eq_nil_iff]
  split_ifs <;> rfl

lemma pieces_inj {a b a' b' : List ℕ}
    (h : pieces a ++ [] :: pieces b = pieces a' ++ [] :: pieces b') : a = a' ∧ b = b' := by
  have hinj : Function.Injective (List.map hexNumeral) :=
    List.map_injective_iff.mpr fun _ _ => hexNumeral_inj
  have hfront := congrArg (List.takeWhile (· != [])) h
  rw [takeWhile_pieces, takeWhile_pieces] at hfront
  have hback := congrArg (fun l => l.reverse.takeWhile (· != [])) h
  simp only [List.reverse_append, List.reverse_cons, List.append_assoc, List.singleton_append,
    pieces_reverse, takeWhile_pieces] at hback
  exact ⟨hinj hfront, List.reverse_injective (hinj hback)⟩

lemma colonPieces_inj {gs gs' : List ℕ} (hlen : gs.length = gs'.length)
    (h : colonPieces gs = colonPieces gs') : gs = gs' := by
  have hplain : ∀ gs : List ℕ, ∀ l, ([] : Bytes) ∈ l → gs.map hexNumeral ≠ l := by
    rintro gs l hl rfl
    obtain ⟨n, -, hn⟩ := List.mem_map.mp hl
    exact hexNumeral_ne_nil n hn
  rw [colonPieces, colonPieces] at h
  dsimp only at h
  split_ifs at h
  · exact List.map_injective_iff.mpr (fun _ _ => hexNumeral_inj) h
  · exact absurd h (hplain gs _ (by simp))
  · exact absurd h.symm (hplain gs' _ (by simp))
  · obtain ⟨hfront, hback⟩ := pieces_inj h
    rw [(zeroRun_isRun gs).split, (zeroRun_isRun gs').split, hfront, hback, hlen]

lemma colonPieces_plain {gs : List ℕ} {x : Bytes} {c : UInt8} (hx : x ∈ colonPieces gs)
    (hc : c ∈ x) : c ≠ 58 ∧ c ≠ 93 := by
  have hmap : ∀ l : List ℕ, x ∈ l.map hexNumeral → c ≠ 58 ∧ c ≠ 93 := by
    intro l hl
    obtain ⟨n, -, rfl⟩ := List.mem_map.mp hl
    exact hexNumeral_plain hc
  have hpieces : ∀ l : List ℕ, x ∈ pieces l → c ≠ 58 ∧ c ≠ 93 := by
    intro l hl
    rw [pieces] at hl
    split_ifs at hl
    · obtain rfl := List.mem_singleton.mp hl
      cases hc
    · exact hmap l hl
  rw [colonPieces] at hx
  dsimp only at hx
  split_ifs at hx
  · exact hmap _ hx
  · rcases List.mem_append.mp hx with hx | hx
    · exact hpieces _ hx
    · rcases List.mem_cons.mp hx with rfl | hx
      · cases hc
      · exact hpieces _ hx

lemma colonPieces_ne_nil {gs : List ℕ} (h : gs ≠ []) : colonPieces gs ≠ [] := by
  rw [colonPieces]
  dsimp only
  split_ifs
  · simpa using h
  · simp

lemma colonHex_inj {gs gs' : List ℕ} (hlen : gs.length = gs'.length) (hne : gs ≠ [])
    (h : colonHex gs = colonHex gs') : gs = gs' := by
  have hne' : gs' ≠ [] := by
    rw [← List.length_pos_iff_ne_nil] at hne ⊢
    omega
  rw [colonHex_eq, colonHex_eq] at h
  apply colonPieces_inj hlen
  exact intercalate_inj (fun x hx hm => (colonPieces_plain hx hm).1 rfl)
    (fun x hx hm => (colonPieces_plain hx hm).1 rfl) (colonPieces_ne_nil hne)
    (colonPieces_ne_nil hne') h

lemma colonHex_plain {gs : List ℕ} {c : UInt8} (h : c ∈ colonHex gs) : c ≠ 93 := by
  rw [colonHex_eq] at h
  rcases mem_intercalate h with rfl | ⟨x, hx, hc⟩
  · decide
  · exact (colonPieces_plain hx hc).2

lemma colon_mem_colonHex {gs : List ℕ} (h : 1 < gs.length) : 58 ∈ colonHex gs := by
  have hmem : ∀ xs ys : List Bytes, xs ≠ [] → ys ≠ [] →
      (58 : UInt8) ∈ [58].intercalate (xs ++ ys) := by
    intro xs ys hx hy
    rw [intercalate_append 58 hx hy]
    simp
  rw [colonHex_eq, colonPieces]
  dsimp only
  split_ifs
  · obtain ⟨a, b, rest, rfl⟩ : ∃ a b rest, gs = a :: b :: rest := by
      rcases gs with - | ⟨a, - | ⟨b, rest⟩⟩
      · simp at h
      · simp at h
      · exact ⟨a, b, rest, rfl⟩
    exact hmem [hexNumeral a] ((b :: rest).map hexNumeral) (by simp) (by simp)
  · exact hmem _ _ (pieces_ne_nil _) (by simp)

/-! Addresses of four and of sixteen bytes. -/

def IsAddress (ip : Bytes) : Prop := ip.length = 4 ∨ ip.length = 16

variable {a b : Bytes}

lemma to4_length {ip4 : Bytes} (h : to4 a = some ip4) : ip4.length = 4 := by
  rw [to4] at h
  split_ifs at h with h4 h16
  · exact Option.some.inj h ▸ h4
  · rw [← Option.some.inj h, List.length_drop, h16.1]

lemma to16_of_to4 {ip4 : Bytes} (h : to4 a = some ip4) : to16 a = some (v4InV6Prefix ++ ip4) := by
  rw [to4] at h
  split_ifs at h with h4 h16
  · rw [to16, if_pos h4, Option.some.inj h]
  · have hsplit := List.take_append_drop 12 a
    rw [h16.2, Option.some.inj h] at hsplit
    rw [to16, if_neg h4, if_pos h16.1, hsplit]

lemma length_of_to4 (ha : IsAddress a) (h : to4 a = none) : a.length = 16 := by
  rcases ha with h4 | h16
  · rw [to4, if_pos h4] at h
    cases h
  · exact h16

lemma ipString_some {ip4 : Bytes} (ha : IsAddress a) (h : to4 a = some ip4) :
    ipString a = dotted ip4 := by
  have hne : a ≠ [] := by
    rintro rfl
    rcases ha with h | h <;> cases h
  have hlen : ¬ (a.length ≠ 4 ∧ a.length ≠ 16) := by
    rintro ⟨h4, h16⟩
    exact ha.elim h4 h16
  simp only [ipString, if_neg hne, if_neg hlen, h]

lemma ipString_none (ha : IsAddress a) (h : to4 a = none) : ipString a = colonHex (groups a) := by
  have h16 := length_of_to4 ha h
  have hne : a ≠ [] := by
    rintro rfl
    cases h16
  have hlen : ¬ (a.length ≠ 4 ∧ a.length ≠ 16) := fun h' => h'.2 h16
  simp only [ipString, if_neg hne, if_neg hlen, h]

lemma groups_eight (ha : IsAddress a) (h : to4 a = none) : (groups a).length = 8 :=
  groups_length (n := 8) (length_of_to4 ha h)

lemma colon_mem_ipString (ha : IsAddress a) : 58 ∈ ipString a ↔ to4 a = none := by
  cases h : to4 a with
  | none =>
    rw [ipString_none ha h]
    have hlen := groups_eight ha h
    simp [colon_mem_colonHex (show 1 < (groups a).length by omega)]
  | some ip4 =>
    rw [ipString_some ha h]
    simp only [reduceCtorEq, iff_false]
    exact fun hm => (dotted_plain hm).1 rfl

lemma ipString_inj (ha : IsAddress a) (hb : IsAddress b) (h : ipString a = ipString b) :
    to16 a = to16 b := by
  have hcolon := (colon_mem_ipString ha).symm.trans (h ▸ colon_mem_ipString hb)
  cases h4 : to4 a with
  | none =>
    have h4' := hcolon.mp h4
    rw [ipString_none ha h4, ipString_none hb h4'] at h
    have hlen := groups_eight ha h4
    have hne : groups a ≠ [] := by
      intro hnil
      rw [hnil] at hlen
      cases hlen
    have hgroups := colonHex_inj (hlen.trans (groups_eight hb h4').symm) hne h
    have heven : Even a.length := by simp [length_of_to4 ha h4, Nat.even_iff]
    have heven' : Even b.length := by simp [length_of_to4 hb h4', Nat.even_iff]
    rw [groups_inj heven heven' hgroups]
  | some ip4 =>
    cases h4' : to4 b with
    | none =>
      rw [hcolon.mpr h4'] at h4
      cases h4
    | some ip4' =>
      rw [ipString_some ha h4, ipString_some hb h4'] at h
      have hne := List.ne_nil_of_length_eq_add_one (to4_length h4)
      have hne' := List.ne_nil_of_length_eq_add_one (to4_length h4')
      rw [to16_of_to4 h4, to16_of_to4 h4', dotted_inj hne hne' h]

lemma ipString_congr (ha : IsAddress a) (hb : IsAddress b) (h : to4 a = to4 b)
    (hs : to4 a ≠ none) : ipString a = ipString b := by
  obtain ⟨ip4, h4⟩ := Option.ne_none_iff_exists'.mp hs
  rw [ipString_some ha h4, ipString_some hb (h ▸ h4)]

lemma joinHostPort_v6 (ha : IsAddress a) (h : to4 a = none) (port : Bytes) :
    joinHostPort (ipString a) port = 91 :: (ipString a ++ 93 :: 58 :: port) := by
  have hmem : (ipString a).contains 58 = true := by simpa using (colon_mem_ipString ha).mpr h
  rw [joinHostPort, if_pos hmem]
  simp [ascii]

lemma joinHostPort_v4 {ip4 : Bytes} (ha : IsAddress a) (h : to4 a = some ip4) (port : Bytes) :
    joinHostPort (ipString a) port = dotted ip4 ++ 58 :: port := by
  have hmem : ¬ (ipString a).contains 58 = true := by
    have hnot := (colon_mem_ipString ha).not
    rw [h] at hnot
    simpa using hnot
  rw [joinHostPort, if_neg hmem, ipString_some ha h]
  simp [ascii]

lemma bracket_not_mem {ip4 : Bytes} (n : ℕ) : 91 ∉ dotted ip4 ++ 58 :: natNumeral n := by
  intro hm
  rcases List.mem_append.mp hm with hm | hm
  · exact (dotted_plain hm).2 rfl
  · rcases List.mem_cons.mp hm with hm | hm
    · revert hm
      decide
    · exact (natNumeral_plain hm).2.2.1 rfl

lemma hostPort_inj {m n : ℕ} (ha : IsAddress a) (hb : IsAddress b)
    (h : hostPort a m = hostPort b n) : to16 a = to16 b ∧ m = n := by
  rw [hostPort, hostPort] at h
  cases h4 : to4 a with
  | none =>
    rw [joinHostPort_v6 ha h4] at h
    cases h4' : to4 b with
    | none =>
      rw [joinHostPort_v6 hb h4'] at h
      have hhost : (93 : UInt8) ∉ ipString a := by
        rw [ipString_none ha h4]
        exact fun hm => colonHex_plain hm rfl
      have hport : (93 : UInt8) ∉ 58 :: natNumeral m := by
        intro hm
        rcases List.mem_cons.mp hm with hm | hm
        · revert hm
          decide
        · exact (natNumeral_plain hm).2.2.2 rfl
      obtain ⟨hip, -, hp⟩ := (List.append_cons_inj_of_notMem hhost hport).mp (List.cons.inj h).2
      exact ⟨ipString_inj ha hb hip, natNumeral_inj (List.cons.inj hp).2⟩
    | some ip4 =>
      rw [joinHostPort_v4 hb h4'] at h
      exact absurd (h ▸ List.mem_cons_self) (bracket_not_mem n)
  | some ip4 =>
    rw [joinHostPort_v4 ha h4] at h
    cases h4' : to4 b with
    | none =>
      rw [joinHostPort_v6 hb h4'] at h
      exact absurd (h ▸ List.mem_cons_self) (bracket_not_mem m)
    | some ip4' =>
      rw [joinHostPort_v4 hb h4'] at h
      have hhost : (58 : UInt8) ∉ dotted ip4 := fun hm => (dotted_plain hm).1 rfl
      have hport : (58 : UInt8) ∉ natNumeral m := fun hm => (natNumeral_plain hm).2.1 rfl
      obtain ⟨hip, -, hp⟩ := (List.append_cons_inj_of_notMem hhost hport).mp h
      refine ⟨ipString_inj ha hb ?_, natNumeral_inj hp⟩
      rw [ipString_some ha h4, ipString_some hb h4', hip]

end OmniTun.Foundation.NetAddress
