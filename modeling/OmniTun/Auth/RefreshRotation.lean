import OmniTun.Auth.RefreshTokens

/-! A refresh that fails, and the token that was presented to it. -/

namespace OmniTun.Auth.RefreshTokens.Rotation

open OmniTun.Foundation

/-- The calls of one request, in their order: the lookups of the token and of the user, the draw of
the new token with the deletion of the old one, the storing of the new one, and the access token. -/
structure RefreshCalls where
  get : Call
  find : Call
  rotate : Call
  store : Call
  access : Call

section

variable (hashToken : Bytes → Bytes) (users : Bytes → Option User) (token : Bytes)

def advance (p : Local × Store Unit) (c : Call) : Local × Store Unit :=
  (next hashToken users token (fun _ => .refresh) () c p.1 p.2).getD p

def refreshToken (calls : RefreshCalls) (s : Store Unit) : Local × Store Unit :=
  [calls.get, calls.find, calls.rotate, calls.store, calls.access].foldl
    (advance hashToken users token) (.received, s)

def Usable (s : Store Unit) (t : ℤ) : Prop :=
  ∃ record, s.getRefreshToken (hashToken token) t = some record ∧ users record.userID ≠ none

/-- A failed request leaves the token as usable as it was. -/
def Atomic (calls : RefreshCalls) (s : Store Unit) : Prop :=
  ∀ err, (refreshToken hashToken users token calls s).1 = .refreshed (.error err) →
    ∀ t, Usable hashToken users token s t →
      Usable hashToken users token (refreshToken hashToken users token calls s).2 t

/-- The old token has been deleted when the new one cannot be stored, or the access token cannot be
issued; the last does no harm only when the new token happens to hash to the old one. -/
def Loses (calls : RefreshCalls) (s : Store Unit) : Prop :=
  ∃ record user newToken,
    (calls.get.fails = false ∧ s.getRefreshToken (hashToken token) calls.get.now = some record) ∧
    (calls.find.fails = false ∧ users record.userID = some user) ∧
    (calls.rotate.draw = some newToken ∧ calls.rotate.fails = false) ∧
    (calls.store.fails = true ∨
      (hashToken newToken ≠ hashToken token ∧ s.tokens.lookup (hashToken newToken) ≠ none) ∨
      (calls.access.access = none ∧ (hashToken newToken = hashToken token →
        calls.rotate.now + refreshLifetime < record.expiresAt)))

end

section Calls

variable {hashToken : Bytes → Bytes} {users : Bytes → Option User} {token : Bytes}
  {calls : RefreshCalls} {s : Store Unit} {record : RefreshTokenRecord} {user : User}
  {newToken : Bytes}

lemma refreshToken_not_found
    (h : calls.get.fails = true ∨ s.getRefreshToken (hashToken token) calls.get.now = none) :
    ∃ err, refreshToken hashToken users token calls s = (.refreshed (.error err), s) := by
  have hget : advance hashToken users token (.received, s) calls.get =
      (.refreshed (.error (.unauthorized "invalid or expired refresh token")), s) := by
    rcases h with h | h
    · simp [advance, next, h]
    · simp [advance, next, h]
  rw [refreshToken, List.foldl_cons, hget]
  exact ⟨_, rfl⟩

lemma advance_get (hf : calls.get.fails = false)
    (h : s.getRefreshToken (hashToken token) calls.get.now = some record) :
    advance hashToken users token (.received, s) calls.get = (.found record, s) := by
  simp [advance, next, hf, h]

lemma advance_find (hf : calls.find.fails = false) (h : users record.userID = some user) :
    advance hashToken users token (.found record, s) calls.find = (.identified user, s) := by
  simp [advance, next, hf, h]

lemma advance_rotate (hd : calls.rotate.draw = some newToken) (hf : calls.rotate.fails = false) :
    advance hashToken users token (.identified user, s) calls.rotate =
      (.deleted user newToken (calls.rotate.now + refreshLifetime),
        s.deleteRefreshToken (hashToken token)) := by
  simp [advance, next, hd, hf]

lemma refreshToken_unchanged (h : ¬ ∃ record user newToken,
    (calls.get.fails = false ∧ s.getRefreshToken (hashToken token) calls.get.now = some record) ∧
    (calls.find.fails = false ∧ users record.userID = some user) ∧
    (calls.rotate.draw = some newToken ∧ calls.rotate.fails = false)) :
    ∃ err, refreshToken hashToken users token calls s = (.refreshed (.error err), s) := by
  by_cases hget : calls.get.fails = true ∨
      s.getRefreshToken (hashToken token) calls.get.now = none
  · exact refreshToken_not_found hget
  obtain ⟨hget, hrecord⟩ := not_or.mp hget
  rw [Bool.not_eq_true] at hget
  obtain ⟨record, hrecord⟩ := Option.ne_none_iff_exists'.mp hrecord
  rw [refreshToken, List.foldl_cons, List.foldl_cons, advance_get hget hrecord]
  by_cases hfind : calls.find.fails = true ∨ users record.userID = none
  · have hstop : advance hashToken users token (.found record, s) calls.find =
        (.refreshed (.error (.unauthorized "user not found")), s) := by
      rcases hfind with hfind | hfind
      · simp [advance, next, hfind]
      · simp [advance, next, hfind]
    rw [hstop]
    exact ⟨_, rfl⟩
  obtain ⟨hfind, huser⟩ := not_or.mp hfind
  rw [Bool.not_eq_true] at hfind
  obtain ⟨user, huser⟩ := Option.ne_none_iff_exists'.mp huser
  rw [advance_find hfind huser, List.foldl_cons]
  cases hdraw : calls.rotate.draw with
  | none =>
    have hstop : advance hashToken users token (.identified user, s) calls.rotate =
        (.refreshed (.error (.internal "failed to generate refresh token")), s) := by
      simp [advance, next, hdraw]
    rw [hstop]
    exact ⟨_, rfl⟩
  | some newToken =>
    have hfails : calls.rotate.fails = true := by
      by_contra hf
      exact h ⟨record, user, newToken, ⟨hget, hrecord⟩, ⟨hfind, huser⟩, hdraw, by simpa using hf⟩
    have hstop : advance hashToken users token (.identified user, s) calls.rotate =
        (.refreshed (.error (.internal "failed to rotate refresh token")), s) := by
      simp [advance, next, hdraw, hfails]
    rw [hstop]
    exact ⟨_, rfl⟩

section Rotated

variable (hget : calls.get.fails = false)
  (hrecord : s.getRefreshToken (hashToken token) calls.get.now = some record)
  (hfind : calls.find.fails = false) (huser : users record.userID = some user)
  (hdraw : calls.rotate.draw = some newToken) (hrotate : calls.rotate.fails = false)

include hget hrecord hfind huser hdraw hrotate

lemma refreshToken_rotated : refreshToken hashToken users token calls s =
    advance hashToken users token (advance hashToken users token
      (.deleted user newToken (calls.rotate.now + refreshLifetime),
        s.deleteRefreshToken (hashToken token)) calls.store) calls.access := by
  rw [refreshToken, List.foldl_cons, List.foldl_cons, List.foldl_cons, advance_get hget hrecord,
    advance_find hfind huser, advance_rotate hdraw hrotate]
  rfl

lemma refreshToken_not_stored (h : calls.store.fails = true ∨
      (hashToken newToken ≠ hashToken token ∧ s.tokens.lookup (hashToken newToken) ≠ none)) :
    ∃ err, refreshToken hashToken users token calls s =
      (.refreshed (.error err), s.deleteRefreshToken (hashToken token)) := by
  have hstore : advance hashToken users token
      (.deleted user newToken (calls.rotate.now + refreshLifetime),
        s.deleteRefreshToken (hashToken token)) calls.store =
      (.refreshed (.error (.internal "failed to store new refresh token")),
        s.deleteRefreshToken (hashToken token)) := by
    rcases h with h | ⟨hne, h⟩
    · simp [advance, next, h]
    · have hlookup : (s.deleteRefreshToken (hashToken token)).tokens.lookup (hashToken newToken) ≠
          none := by
        rw [Store.deleteRefreshToken, Table.lookup_erase, if_neg hne]
        exact h
      simp [advance, next, Store.storeRefreshToken, hlookup]
  rw [refreshToken_rotated hget hrecord hfind huser hdraw hrotate, hstore]
  exact ⟨_, rfl⟩

lemma refreshToken_stored (hf : calls.store.fails = false)
    (hfree : hashToken newToken = hashToken token ∨ s.tokens.lookup (hashToken newToken) = none) :
    ∃ s', refreshToken hashToken users token calls s =
        (.refreshed (calls.access.access.elim (.error (.internal "failed to generate access token"))
          fun access => .ok ⟨access, newToken⟩), s') ∧
      s'.tokens = (s.tokens.erase (hashToken token)).insert (hashToken newToken)
        ⟨user.id, calls.rotate.now + refreshLifetime⟩ := by
  have hlookup : (s.deleteRefreshToken (hashToken token)).tokens.lookup (hashToken newToken) =
      none := by
    rw [Store.deleteRefreshToken, Table.lookup_erase]
    split_ifs with hsame
    · rfl
    · exact hfree.resolve_left hsame
  rw [refreshToken_rotated hget hrecord hfind huser hdraw hrotate]
  simp only [advance, next, hf, Store.storeRefreshToken, hlookup, Bool.false_eq_true, if_false,
    if_true, Option.getD_some]
  cases calls.access.access with
  | none => exact ⟨_, rfl, rfl⟩
  | some access => exact ⟨_, rfl, rfl⟩

end Rotated

lemma getRefreshToken_eq_some {h : Bytes} {t : ℤ} : s.getRefreshToken h t = some record ↔
    s.tokens.lookup h = some record ∧ t < record.expiresAt := by
  rw [Store.getRefreshToken, Option.filter_eq_some_iff, decide_eq_true_eq]

lemma usable_iff {t : ℤ} : Usable hashToken users token s t ↔
    ∃ record, s.tokens.lookup (hashToken token) = some record ∧ t < record.expiresAt ∧
      users record.userID ≠ none := by
  simp only [Usable, getRefreshToken_eq_some, and_assoc]

lemma not_usable_of_none {t : ℤ} (h : s.tokens.lookup (hashToken token) = none) :
    ¬ Usable hashToken users token s t := by
  rw [usable_iff, h]
  rintro ⟨_, ⟨⟩, _⟩

lemma Loses.not_atomic (h : Loses hashToken users token calls s) :
    ¬ Atomic hashToken users token calls s := by
  obtain ⟨record, user, newToken, ⟨hget, hrecord⟩, ⟨hfind, huser⟩, ⟨hdraw, hrotate⟩, hlost⟩ := h
  obtain ⟨hrow, hlive⟩ := getRefreshToken_eq_some.mp hrecord
  have husers : users record.userID ≠ none := by
    rw [huser]
    exact Option.some_ne_none user
  have hgone : (s.deleteRefreshToken (hashToken token)).tokens.lookup (hashToken token) = none :=
    Finmap.lookup_erase _ _
  intro hatomic
  by_cases hstore : calls.store.fails = true ∨
      (hashToken newToken ≠ hashToken token ∧ s.tokens.lookup (hashToken newToken) ≠ none)
  · obtain ⟨err, heq⟩ := refreshToken_not_stored hget hrecord hfind huser hdraw hrotate hstore
    have husable := usable_iff.mpr ⟨record, hrow, hlive, husers⟩
    have hafter := hatomic err (by rw [heq]) calls.get.now husable
    rw [heq] at hafter
    exact not_usable_of_none hgone hafter
  · obtain ⟨haccess, hearlier⟩ := (hlost.resolve_left fun hf => hstore (.inl hf)).resolve_left
      fun hf => hstore (.inr hf)
    obtain ⟨hfails, hfree⟩ := not_or.mp hstore
    obtain ⟨s', heq, htokens⟩ := refreshToken_stored hget hrecord hfind huser hdraw hrotate
      (by simpa using hfails) (by rw [not_and_or, not_not, not_not] at hfree; exact hfree)
    rw [haccess, Option.elim_none] at heq
    have herr := congrArg Prod.fst heq
    by_cases hsame : hashToken newToken = hashToken token
    · -- the new row has taken the place of the old one, and expires earlier
      have hexpiry := hearlier hsame
      have hafter := hatomic _ herr (calls.rotate.now + refreshLifetime)
        (usable_iff.mpr ⟨record, hrow, hexpiry, husers⟩)
      rw [heq, usable_iff, htokens, hsame, Finmap.lookup_insert] at hafter
      obtain ⟨record', hnew, hlate, _⟩ := hafter
      obtain rfl := Option.some.inj hnew
      exact absurd hlate (lt_irrefl _)
    · have hafter := hatomic _ herr calls.get.now (usable_iff.mpr ⟨record, hrow, hlive, husers⟩)
      rw [heq] at hafter
      apply not_usable_of_none _ hafter
      rw [htokens, Table.lookup_insert, if_neg (Ne.symm hsame), Finmap.lookup_erase]

lemma atomic_of_not_loses (hids : ∀ id user, users id = some user → user.id = id)
    (h : ¬ Loses hashToken users token calls s) : Atomic hashToken users token calls s := by
  intro err herr t ht
  by_cases hreach : ∃ record user newToken,
      (calls.get.fails = false ∧ s.getRefreshToken (hashToken token) calls.get.now = some record) ∧
      (calls.find.fails = false ∧ users record.userID = some user) ∧
      (calls.rotate.draw = some newToken ∧ calls.rotate.fails = false)
  · obtain ⟨record, user, newToken, ⟨hget, hrecord⟩, ⟨hfind, huser⟩, ⟨hdraw, hrotate⟩⟩ := hreach
    have hkept : ¬ (calls.store.fails = true ∨
        (hashToken newToken ≠ hashToken token ∧ s.tokens.lookup (hashToken newToken) ≠ none) ∨
        (calls.access.access = none ∧ (hashToken newToken = hashToken token →
          calls.rotate.now + refreshLifetime < record.expiresAt))) := by
      intro hlost
      exact h ⟨record, user, newToken, ⟨hget, hrecord⟩, ⟨hfind, huser⟩, ⟨hdraw, hrotate⟩, hlost⟩
    obtain ⟨hfails, hrest⟩ := not_or.mp hkept
    obtain ⟨hfree, haccess⟩ := not_or.mp hrest
    obtain ⟨s', heq, htokens⟩ := refreshToken_stored hget hrecord hfind huser hdraw hrotate
      (by simpa using hfails) (by rw [not_and_or, not_not, not_not] at hfree; exact hfree)
    cases hissued : calls.access.access with
    | some access =>
      rw [heq, hissued] at herr
      cases herr
    | none =>
      -- only the new row, under the same hash, can still be there
      obtain ⟨hsame, hlater⟩ := Classical.not_imp.mp fun hearlier => haccess ⟨hissued, hearlier⟩
      obtain ⟨record', hrow', hlive, husers⟩ := usable_iff.mp ht
      obtain rfl : record = record' :=
        Option.some.inj ((getRefreshToken_eq_some.mp hrecord).1.symm.trans hrow')
      rw [heq, usable_iff, htokens, hsame, Finmap.lookup_insert]
      refine ⟨_, rfl, lt_of_lt_of_le hlive (not_lt.mp hlater), ?_⟩
      rw [hids record.userID user huser]
      exact husers
  · obtain ⟨err', heq⟩ := refreshToken_unchanged hreach
    rw [heq]
    exact ht

end Calls

theorem refresh_atomic_iff (hashToken : Bytes → Bytes) (db : Database) (token : Bytes)
    (calls : RefreshCalls) (s : Store Unit) :
    Atomic hashToken db.getUserByID token calls s ↔
      ¬ Loses hashToken db.getUserByID token calls s := by
  have hids : ∀ id user, db.getUserByID id = some user → user.id = id := by
    intro id user hu
    have hp := List.find?_some hu
    simp only [decide_eq_true_eq] at hp
    exact hp.1
  exact ⟨fun h hl => hl.not_atomic h, atomic_of_not_loses hids⟩

def oneUser : Database := ⟨Saml.oneUser, fun _ => {}⟩

def storeFailing : RefreshCalls where
  get := {}
  find := {}
  rotate := { draw := some (ascii "new") }
  store := { fails := true }
  access := { access := some (ascii "jwt") }

theorem refresh_not_atomic :
    ¬ ∀ calls : RefreshCalls, Atomic id oneUser.getUserByID presented calls ⟨storedToken, []⟩ := by
  intro hall
  apply Loses.not_atomic _ (hall storeFailing)
  exact ⟨⟨[1], 100⟩, _, ascii "new", ⟨rfl, rfl⟩, ⟨rfl, rfl⟩, ⟨rfl, rfl⟩, .inl rfl⟩

end OmniTun.Auth.RefreshTokens.Rotation
