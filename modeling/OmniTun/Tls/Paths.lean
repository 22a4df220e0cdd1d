import OmniTun.Tls.Disk

/-! Where the files of a domain are written, for any text that is given as a domain. -/

namespace OmniTun.Tls.Disk

open OmniTun.Foundation FilePath

section Definitions

inductive Call
  | selfSigned (generated : Except Error KeyPair) (written : Written)
  | renew (generated : Except Error KeyPair) (written : Written)
  | upload (pair : KeyPair) (written : Written)

variable {Certificate Key : Type} (pki : Pki Certificate Key)

def Call.run (m : Manager) (domain : Bytes) : Call → Manager
  | .selfSigned generated written => (selfSignedCert pki m domain generated written).2
  | .renew generated written => (renewCertificate pki m domain generated written).2
  | .upload pair written => (uploadCustomCertificate pki m domain pair written).2

/-- Every file that a call with the domain changes lies below the directory of the certificates. -/
def Contained (domain : Bytes) : Prop :=
  ∀ m c path, (Call.run pki m domain c).files path ≠ m.files path →
    Below (ascii "data/certs") path

def StayApart (d d' : Bytes) : Prop :=
  Contained pki d ∧ Contained pki d' ∧ (d ≠ d' → certDir d ≠ certDir d')

/-- The domain leads back down by the names by which it has gone up, if it does go up. -/
def Inside (domain : Bytes) : Prop :=
  (routeOf domain).up ≤ 2 ∧ base.drop (2 - (routeOf domain).up) <+: (routeOf domain).down

def inner (domain : Bytes) : List Bytes := (routeOf domain).down.drop (routeOf domain).up

end Definitions

variable {Certificate Key : Type} {pki : Pki Certificate Key} {m : Manager} {domain path : Bytes}

section Writes

variable {generated : Except Error KeyPair} {written : Written} {pair : KeyPair}

lemma store_frame (hcert : path ≠ certPath domain) (hkey : path ≠ keyPath domain) :
    (m.storeCertificateLocked pki domain pair written).2.files path = m.files path := by
  rw [Manager.store_files, Manager.writeFiles_files, if_neg hkey, if_neg hcert]

lemma generate_frame (hcert : path ≠ certPath domain) (hkey : path ≠ keyPath domain) :
    (generateAndStoreCert pki m domain generated written).2.files path = m.files path := by
  cases generated with
  | error err => rfl
  | ok pair => exact store_frame hcert hkey

@[simp] lemma setRenewing_files (m : Manager) (domain : Bytes) (renewing : Bool) :
    (m.setRenewing domain renewing).files = m.files := by
  rw [Manager.setRenewing]
  split
  · rfl
  · rfl

lemma run_frame (c : Call) (hcert : path ≠ certPath domain) (hkey : path ≠ keyPath domain) :
    (Call.run pki m domain c).files path = m.files path := by
  cases c with
  | selfSigned generated written =>
    simp only [Call.run, selfSignedCert]
    split
    · rfl
    · exact generate_frame hcert hkey
  | renew generated written =>
    simp only [Call.run, renewCertificate]
    split_ifs
    · rfl
    · have hframe : (generateAndStoreCert pki (m.setRenewing domain true) domain generated
          written).2.files path = m.files path := by
        rw [generate_frame hcert hkey, setRenewing_files]
      split
      · rename_i err m' heq
        rw [heq] at hframe
        rw [setRenewing_files]
        exact hframe
      · rename_i entry m' heq
        rw [heq] at hframe
        rw [setRenewing_files]
        exact hframe
  | upload pair written =>
    simp only [Call.run, uploadCustomCertificate]
    split
    · rfl
    · exact store_frame hcert hkey

lemma run_writes (pki : Pki Certificate Key) (domain : Bytes) (content : Bytes) :
    (Call.run pki ⟨fun _ => none, fun _ => none⟩ domain
      (.selfSigned (.ok ⟨content, content⟩) .ok)).files (certPath domain) = some content := by
  simp only [Call.run, selfSignedCert, generateAndStoreCert, Manager.store_files]
  rw [Manager.writeFiles_files, if_neg (certPath_ne_keyPath domain domain), if_pos rfl]
  rfl

end Writes

section Places

lemma drop_prefix_iff (domain : Bytes) :
    base <+: (dirRoute domain).down ↔
      base.drop (2 - (routeOf domain).up) <+: (routeOf domain).down := by
  have hsplit : base = base.take (2 - (routeOf domain).up) ++ base.drop (2 - (routeOf domain).up) :=
    (List.take_append_drop _ base).symm
  have hdown : (dirRoute domain).down =
      base.take (2 - (routeOf domain).up) ++ (routeOf domain).down := rfl
  rw [hdown]
  nth_rewrite 1 [hsplit]
  exact List.prefix_append_right_inj _

lemma inside_iff (domain : Bytes) :
    Inside domain ↔ (dirRoute domain).up = 0 ∧ base <+: (dirRoute domain).down := by
  have hup : (dirRoute domain).up = (routeOf domain).up - 2 := rfl
  rw [Inside, drop_prefix_iff, hup, Nat.sub_eq_zero_iff_le]

lemma below_file_iff {file : Bytes} (hfile : Route.Plain file) :
    Below (ascii "data/certs")
      (Route.mk (dirRoute domain).up ((dirRoute domain).down ++ [file])).text ↔ Inside domain := by
  have hbase : ascii "data/certs" = (Route.mk 0 base).text := by decide
  have hne : base ≠ [] := List.cons_ne_nil _ _
  rw [hbase, Route.below_iff ((dirRoute_good domain).append hfile) base_plain hne, inside_iff]
  apply and_congr_right
  intro _
  constructor
  · rintro ⟨rest, hrest, hdown⟩
    rw [← List.dropLast_append_getLast hrest, ← List.append_assoc] at hdown
    exact ⟨rest.dropLast, (List.append_inj' hdown rfl).1.symm⟩
  · rintro ⟨rest, hdown⟩
    refine ⟨rest ++ [file], List.append_ne_nil_of_right_ne_nil _ (List.cons_ne_nil _ _), ?_⟩
    rw [← hdown, List.append_assoc]

lemma contained_iff (pki : Pki Certificate Key) (domain : Bytes) :
    Contained pki domain ↔ Inside domain := by
  constructor
  · intro h
    have hbelow := h ⟨fun _ => none, fun _ => none⟩ (.selfSigned (.ok ⟨[], []⟩) .ok)
      (certPath domain) (by
        rw [run_writes]
        exact Option.some_ne_none [])
    rw [certPath_eq] at hbelow
    exact (below_file_iff (by decide)).mp hbelow
  · intro hinside m c path hchanged
    by_cases hcert : path = certPath domain
    · rw [hcert, certPath_eq]
      exact (below_file_iff (by decide)).mpr hinside
    · by_cases hkey : path = keyPath domain
      · rw [hkey, keyPath_eq]
        exact (below_file_iff (by decide)).mpr hinside
      · exact absurd (run_frame c hcert hkey) hchanged

lemma Inside.dirRoute (h : Inside domain) : dirRoute domain = ⟨0, base ++ inner domain⟩ := by
  obtain ⟨hup, rest, hrest⟩ := h
  have hlen : (base.drop (2 - (routeOf domain).up)).length = (routeOf domain).up := by
    rw [List.length_drop]
    have hbase : base.length = 2 := rfl
    omega
  have hinner : inner domain = rest := by
    rw [inner, ← hrest, List.drop_left' hlen]
  have hzero : (routeOf domain).up - 2 = 0 := Nat.sub_eq_zero_of_le hup
  have hbase : base.take (2 - (routeOf domain).up) ++ (routeOf domain).down = base ++ rest := by
    rw [← hrest, ← List.append_assoc, List.take_append_drop]
  rw [hinner, ← hzero, ← hbase]
  rfl

lemma certDir_eq_iff {d d' : Bytes} (h : Inside d) (h' : Inside d') :
    certDir d = certDir d' ↔ inner d = inner d' := by
  rw [certDir_eq, certDir_eq]
  constructor
  · intro heq
    have hroute := Route.text_inj (dirRoute_good d) (dirRoute_good d') heq
    rw [h.dirRoute, h'.dirRoute] at hroute
    exact List.append_cancel_left (congrArg Route.down hroute)
  · intro heq
    rw [h.dirRoute, h'.dirRoute, heq]

end Places

/-- The files of two domains stay in the directory of the certificates, and each domain has its own
one, just when both domains lead inside, and to different names. -/
theorem certificate_paths_iff (pki : Pki Certificate Key) (d d' : Bytes) :
    StayApart pki d d' ↔ Inside d ∧ Inside d' ∧ (d ≠ d' → inner d ≠ inner d') := by
  rw [StayApart, contained_iff, contained_iff]
  apply and_congr_right
  intro h
  apply and_congr_right
  intro h'
  rw [ne_eq, ne_eq, certDir_eq_iff h h']

theorem certificates_leave_their_directory :
    ¬ StayApart plainPki dotdot (ascii "a") ∧
      (Call.run plainPki ⟨fun _ => none, fun _ => none⟩ dotdot
        (.upload ⟨ascii "..,k", ascii "k"⟩ .ok)).files (ascii "data/fullchain.pem") =
          some (ascii "..,k") ∧
      certDir (ascii "a") = certDir (ascii "a/") := by
  have houtside : ¬ Inside dotdot := by
    rintro ⟨-, hprefix⟩
    exact absurd hprefix (by decide)
  have hpath : certPath dotdot = ascii "data/fullchain.pem" := by decide
  have hparse : parseAndValidateCert plainPki ⟨ascii "..,k", ascii "k"⟩ =
      .ok (ascii "..,k", ascii "k") := rfl
  refine ⟨fun h => houtside ((contained_iff plainPki dotdot).mp h.1), ?_, by decide⟩
  simp only [Call.run, uploadCustomCertificate, hparse]
  rw [Manager.store_files, ← hpath, Manager.writeFiles_files,
    if_neg (certPath_ne_keyPath dotdot dotdot), if_pos rfl]
  rfl

end OmniTun.Tls.Disk
