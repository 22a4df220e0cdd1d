import OmniTun.Abuse.Manager
import OmniTun.Foundation.Networks

/-! The blacklist over whole runs: an address is on it for the entries that stand. -/

namespace OmniTun.Abuse

open OmniTun.Foundation NetAddress Networks

def uuidStr (random : Fin 16 → UInt8) : Bytes :=
  let b := List.ofFn fun i =>
    if i.val = 6 then random i &&& 0x0f ||| 0x40
    else if i.val = 8 then random i &&& 0x3f ||| 0x80
    else random i
  [45].intercalate ([(0, 4), (4, 6), (6, 8), (8, 10), (10, 16)].map fun part =>
    Numerals.hexEncode ((b.drop part.1).take (part.2 - part.1)))

def addToBlacklist (random : Fin 16 → UInt8) (now : ℤ) (cidr reason createdBy : Bytes)
    (m : Manager) : Except Bytes IPBlacklistEntry × Manager :=
  match parseCIDR cidr with
  | none => (.error (ascii "invalid CIDR: invalid CIDR address: " ++ cidr), m)
  | some _ =>
    let entry : IPBlacklistEntry := ⟨uuidStr random, cidr, reason, createdBy, now, none⟩
    (.ok entry, { m with blacklist := m.blacklist ++ [entry] })

def removeFromBlacklist (id : Bytes) (m : Manager) : Option Bytes × Manager :=
  match m.blacklist.findIdx? fun entry => entry.id = id with
  | none => (some (ascii "blacklist entry not found"), m)
  | some i => (none, { m with blacklist := m.blacklist.take i ++ m.blacklist.drop (i + 1) })

def isExpired (now : ℤ) (entry : IPBlacklistEntry) : Bool :=
  entry.expiresAt.any fun expiresAt => expiresAt < now

/-- All readings of the clock in one call are taken to be one. -/
def blacklisted (now : ℤ) (parsedIP : Bytes) : List IPBlacklistEntry → Bool
  | [] => false
  | entry :: rest =>
    if isExpired now entry then blacklisted now parsedIP rest
    else
      match parseCIDR entry.cidr with
      | none => blacklisted now parsedIP rest
      | some cidrNet => if cidrNet.contains parsedIP then true else blacklisted now parsedIP rest

def isBlacklisted (now : ℤ) (ip : Bytes) (m : Manager) : Except Bytes Bool :=
  match parseIP ip with
  | none => .error (ascii "invalid IP address")
  | some parsedIP => .ok (blacklisted now parsedIP m.blacklist)

inductive BlacklistOp
  | add (random : Fin 16 → UInt8) (now : ℤ) (cidr reason createdBy : Bytes)
  | remove (id : Bytes)

/-- Every entry that there has been, and whether it has been removed. -/
abbrev Ledger := List (IPBlacklistEntry × Bool)

namespace Ledger

def Standing (l : Ledger) (entry : IPBlacklistEntry) : Prop := (entry, false) ∈ l

def strike (id : Bytes) : Ledger → Ledger
  | [] => []
  | (entry, true) :: l => (entry, true) :: strike id l
  | (entry, false) :: l =>
    if entry.id = id then (entry, true) :: l else (entry, false) :: strike id l

def standing (l : Ledger) : List IPBlacklistEntry := (l.filter fun e => !e.2).map Prod.fst

end Ledger

structure History where
  manager : Manager
  ledger : Ledger

namespace History

def start (m : Manager) : History := ⟨m, m.blacklist.map fun entry => (entry, false)⟩

def apply (h : History) : BlacklistOp → History
  | .add random now cidr reason createdBy =>
    match addToBlacklist random now cidr reason createdBy h.manager with
    | (.ok entry, m) => ⟨m, h.ledger ++ [(entry, false)]⟩
    | (.error _, m) => ⟨m, h.ledger⟩
  | .remove id =>
    match removeFromBlacklist id h.manager with
    | (none, m) => ⟨m, h.ledger.strike id⟩
    | (some _, m) => ⟨m, h.ledger⟩

def run (m : Manager) (ops : List BlacklistOp) : History := ops.foldl apply (start m)

end History

def Within (entry : IPBlacklistEntry) (ip : Bytes) : Prop :=
  ∃ a n, parsePrefix entry.cidr = some (a, n) ∧ Covers a n ip

def Matches (entry : IPBlacklistEntry) (ip : Bytes) : Prop :=
  ∃ a n, parsePrefix entry.cidr = some (a, n) ∧ Covers a n ip ∧
    (to4 ip ≠ none → 96 ≤ a.bits128 n)

/-- An accepted network is entered as it was given, and a removal strikes out one entry of its id,
if one stands, and leaves all others. -/
def Recorded (l : Ledger) : BlacklistOp → Ledger → Prop
  | .add random now cidr reason createdBy, l' =>
    ((parsePrefix cidr).isSome →
      l' = l ++ [(⟨uuidStr random, cidr, reason, createdBy, now, none⟩, false)]) ∧
    (parsePrefix cidr = none → l' = l)
  | .remove id, l' =>
    (∀ entry, l.Standing entry → entry.id ≠ id) ∧ l' = l ∨
      ∃ pre entry post, l = pre ++ (entry, false) :: post ∧ entry.id = id ∧
        l' = pre ++ (entry, true) :: post

/-! The list that the manager keeps is the one that the ledger leaves. -/

lemma mem_standing {l : Ledger} {entry : IPBlacklistEntry} :
    entry ∈ l.standing ↔ l.Standing entry := by
  simp [Ledger.standing, Ledger.Standing]

lemma strike_standing {l : Ledger} {id : Bytes} :
    (l.strike id).standing = l.standing.eraseP fun entry => entry.id = id := by
  induction l with
  | nil => rfl
  | cons e l ih =>
    obtain ⟨entry, gone⟩ := e
    cases gone with
    | true => exact ih
    | false =>
      have hcons : Ledger.standing ((entry, false) :: l) = entry :: Ledger.standing l := rfl
      by_cases hid : entry.id = id
      · rw [Ledger.strike, if_pos hid, hcons, List.eraseP_cons_of_pos (by simp [hid])]
        rfl
      · rw [Ledger.strike, if_neg hid, hcons, List.eraseP_cons_of_neg (by simp [hid]), ← ih]
        rfl

lemma strike_split {l : Ledger} {id : Bytes} (h : ∃ entry, l.Standing entry ∧ entry.id = id) :
    ∃ pre entry post, l = pre ++ (entry, false) :: post ∧ entry.id = id ∧
      l.strike id = pre ++ (entry, true) :: post := by
  induction l with
  | nil =>
    obtain ⟨entry, hmem, -⟩ := h
    cases hmem
  | cons e l ih =>
    obtain ⟨first, gone⟩ := e
    obtain ⟨entry, hmem, hid⟩ := h
    by_cases hfirst : gone = false ∧ first.id = id
    · obtain ⟨rfl, hfirst⟩ := hfirst
      exact ⟨[], first, l, rfl, hfirst, if_pos hfirst⟩
    · have hrest : (entry, false) ∈ l := by
        rcases List.mem_cons.mp hmem with heq | hrest
        · cases heq
          exact absurd ⟨rfl, hid⟩ hfirst
        · exact hrest
      obtain ⟨pre, e', post, rfl, hid', hstrike⟩ := ih ⟨entry, hrest, hid⟩
      refine ⟨(first, gone) :: pre, e', post, rfl, hid', ?_⟩
      cases gone with
      | true => exact congrArg ((first, true) :: ·) hstrike
      | false =>
        have hne : ¬ first.id = id := fun heq => hfirst ⟨rfl, heq⟩
        rw [Ledger.strike, if_neg hne, hstrike]
        rfl

lemma removeFromBlacklist_none {id : Bytes} {m : Manager}
    (h : ∀ entry ∈ m.blacklist, entry.id ≠ id) :
    removeFromBlacklist id m = (some (ascii "blacklist entry not found"), m) := by
  have hnone : m.blacklist.findIdx? (fun entry => entry.id = id) = none := by
    rw [List.findIdx?_eq_none_iff]
    intro entry hentry
    simpa using h entry hentry
  rw [removeFromBlacklist, hnone]

lemma removeFromBlacklist_some {id : Bytes} {m : Manager}
    (h : ∃ entry ∈ m.blacklist, entry.id = id) :
    removeFromBlacklist id m =
      (none, { m with blacklist := m.blacklist.eraseP fun entry => entry.id = id }) := by
  obtain ⟨entry, hentry, hid⟩ := h
  have hsome := List.findIdx?_eq_some_of_exists (p := fun e : IPBlacklistEntry => e.id = id)
    ⟨entry, hentry, by simpa using hid⟩
  rw [removeFromBlacklist, List.eraseP_eq_eraseIdx, hsome]
  simp only [List.eraseIdx_eq_take_drop_succ]

lemma blacklisted_iff {now : ℤ} {ip : Bytes} {entries : List IPBlacklistEntry}
    (hip : ip.length = 16) :
    blacklisted now ip entries = true ↔
      ∃ entry ∈ entries, isExpired now entry = false ∧ Matches entry ip := by
  induction entries with
  | nil => simp [blacklisted]
  | cons entry rest ih =>
    have hparse : ∀ p, parsePrefix entry.cidr = p → parseCIDR entry.cidr =
        p.map fun q => network q.1 q.2 := by
      rintro p rfl
      rfl
    simp only [blacklisted, List.exists_mem_cons_iff]
    cases hexpired : isExpired now entry with
    | true => simpa [hexpired] using ih
    | false =>
      cases hparsed : parsePrefix entry.cidr with
      | none =>
        rw [hparse _ hparsed]
        simpa [Matches, hparsed] using ih
      | some p =>
        obtain ⟨a, n⟩ := p
        have hcontains := network_contains_iff (parsePrefix_le hparsed) hip
        have hmatches : Matches entry ip ↔ (network a n).contains ip = true := by
          rw [hcontains, Matches, hparsed]
          constructor
          · rintro ⟨a', n', heq, h⟩
            cases heq
            exact h
          · intro h
            exact ⟨a, n, rfl, h⟩
        rw [hparse _ hparsed, hmatches]
        cases hc : (network a n).contains ip with
        | true => simp [hc]
        | false => simpa [hc] using ih

/-! Runs. -/

def Kept (h : History) : Prop := h.manager.blacklist = h.ledger.standing

lemma kept_start (m : Manager) : Kept (History.start m) := by
  have hall : ∀ entries : List IPBlacklistEntry,
      Ledger.standing (entries.map fun entry => (entry, false)) = entries := by
    intro entries
    induction entries with
    | nil => rfl
    | cons entry entries ih => exact congrArg (entry :: ·) ih
  exact (hall m.blacklist).symm

lemma addToBlacklist_none {cidr : Bytes} (h : parsePrefix cidr = none) (random : Fin 16 → UInt8)
    (now : ℤ) (reason createdBy : Bytes) (m : Manager) :
    addToBlacklist random now cidr reason createdBy m =
      (.error (ascii "invalid CIDR: invalid CIDR address: " ++ cidr), m) := by
  rw [addToBlacklist, parseCIDR, h]
  rfl

lemma addToBlacklist_some {cidr : Bytes} (h : (parsePrefix cidr).isSome) (random : Fin 16 → UInt8)
    (now : ℤ) (reason createdBy : Bytes) (m : Manager) :
    addToBlacklist random now cidr reason createdBy m =
      (.ok ⟨uuidStr random, cidr, reason, createdBy, now, none⟩,
        { m with
          blacklist :=
            m.blacklist ++ [⟨uuidStr random, cidr, reason, createdBy, now, none⟩] }) := by
  obtain ⟨p, hp⟩ := Option.isSome_iff_exists.mp h
  rw [addToBlacklist, parseCIDR, hp]
  rfl

lemma apply_recorded {h : History} (hk : Kept h) (op : BlacklistOp) :
    Kept (h.apply op) ∧ Recorded h.ledger op (h.apply op).ledger := by
  cases op with
  | add random now cidr reason createdBy =>
    cases hparsed : parsePrefix cidr with
    | none =>
      rw [History.apply, addToBlacklist_none hparsed, Recorded, hparsed]
      exact ⟨hk, by simp, fun _ => rfl⟩
    | some p =>
      have hsome : (parsePrefix cidr).isSome := by rw [hparsed]; rfl
      rw [History.apply, addToBlacklist_some hsome, Recorded, hparsed]
      refine ⟨?_, fun _ => rfl, by simp⟩
      have hblacklist : h.manager.blacklist = h.ledger.standing := hk
      simp [Kept, Ledger.standing, hblacklist]
  | remove id =>
    by_cases hany : ∃ entry ∈ h.manager.blacklist, entry.id = id
    · have hstanding : ∃ entry, h.ledger.Standing entry ∧ entry.id = id := by
        obtain ⟨entry, hmem, hid⟩ := hany
        have hblacklist : h.manager.blacklist = h.ledger.standing := hk
        exact ⟨entry, mem_standing.mp (hblacklist ▸ hmem), hid⟩
      rw [History.apply, removeFromBlacklist_some hany]
      refine ⟨?_, .inr (strike_split hstanding)⟩
      exact (congrArg (List.eraseP _) hk).trans strike_standing.symm
    · have hnone : ∀ entry ∈ h.manager.blacklist, entry.id ≠ id :=
        fun entry hmem hid => hany ⟨entry, hmem, hid⟩
      rw [History.apply, removeFromBlacklist_none hnone]
      refine ⟨hk, .inl ⟨fun entry hentry => hnone entry ?_, rfl⟩⟩
      rw [hk]
      exact mem_standing.mpr hentry

lemma kept_run (m : Manager) (ops : List BlacklistOp) : Kept (History.run m ops) := by
  induction ops using List.reverseRecOn with
  | nil => exact kept_start m
  | append_singleton ops op ih =>
    rw [History.run, List.foldl_append]
    exact (apply_recorded ih op).1

/-- What is entered and struck out decides who is blacklisted, in every run. -/
theorem blacklist_iff (m : Manager) (ops : List BlacklistOp) :
    (∀ now ip, isBlacklisted now ip (History.run m ops).manager = .ok true ↔
      ∃ parsedIP, parseIP ip = some parsedIP ∧ ∃ entry, (History.run m ops).ledger.Standing entry ∧
        isExpired now entry = false ∧ Matches entry parsedIP) ∧
    ∀ op, Recorded (History.run m ops).ledger op (History.run m (ops ++ [op])).ledger := by
  have hk := kept_run m ops
  refine ⟨fun now ip => ?_, fun op => ?_⟩
  · cases hip : parseIP ip with
    | none => simp [isBlacklisted, hip]
    | some parsedIP =>
      simp only [isBlacklisted, hip, Except.ok.injEq, Option.some.injEq, exists_eq_left',
        blacklisted_iff (parseIP_length hip)]
      rw [hk]
      simp only [mem_standing]
  · have hnext : History.run m (ops ++ [op]) = (History.run m ops).apply op := by
      rw [History.run, List.foldl_append]
      rfl
    rw [hnext]
    exact (apply_recorded hk op).2

lemma covers_all {a : Addr} {n : ℕ} {ip : Bytes} (hip : ip.length = 16)
    (h : a.bits128 n = 0) : Covers a n ip := by
  have hlt := get_lt_two_pow a.bytes
  have hlt' := get_lt_two_pow ip
  rw [a.length] at hlt
  rw [hip] at hlt'
  rw [Covers, h, Nat.div_eq_of_lt hlt, Nat.div_eq_of_lt hlt']

def everyIPv6 : List BlacklistOp := [.add (fun _ => 0) 0 (ascii "::/0") (ascii "spam") []]

theorem ipv6_network_misses_ipv4 :
    ¬ (isBlacklisted 0 (ascii "192.0.2.1") (History.run newManager everyIPv6).manager = .ok true ↔
      ∃ parsedIP, parseIP (ascii "192.0.2.1") = some parsedIP ∧
        ∃ entry, (History.run newManager everyIPv6).ledger.Standing entry ∧
          isExpired 0 entry = false ∧ Within entry parsedIP) := by
  intro hiff
  have hfree : isBlacklisted 0 (ascii "192.0.2.1") (History.run newManager everyIPv6).manager =
      .ok false := by rfl
  have hip : parseIP (ascii "192.0.2.1") = some (v4InV6Prefix ++ [192, 0, 2, 1]) := by rfl
  obtain ⟨a, hparsed, h6⟩ : ∃ a, parsePrefix (ascii "::/0") = some (a, 0) ∧ a.is4 = false :=
    ⟨_, rfl, rfl⟩
  have hcovers : Covers a 0 (v4InV6Prefix ++ [192, 0, 2, 1]) := by
    apply covers_all rfl
    rw [Addr.bits128, h6]
    rfl
  have htrue := hiff.mpr ⟨_, hip,
    ⟨uuidStr fun _ => 0, ascii "::/0", ascii "spam", [], 0, none⟩, List.mem_singleton.mpr rfl, rfl,
    a, 0, hparsed, hcovers⟩
  rw [hfree] at htrue
  cases htrue

end OmniTun.Abuse
