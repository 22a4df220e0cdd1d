import OmniTun.Auth.Registration
import OmniTun.Foundation.ErasedMarks
import OmniTun.Scim.Handlers

/-! The five copies of the function that makes the slug of an organisation from an address. -/

namespace OmniTun.Auth

open OmniTun.Foundation

def oidcSlug (email : Bytes) : Bytes := (email.filterMap slugByte).take 64

inductive SlugCopy
  | service
  | oauth
  | oidc
  | scim
  | server
  deriving DecidableEq

def isSeparator (b : UInt8) : Bool := b = 64 || b = 46 || b = 95 || b = 45

namespace SlugCopy

/-- The copies of the service and of the server have one body. -/
def slug : SlugCopy → Bytes → Bytes
  | .service => Saml.emailToSlug
  | .oauth => sanitizeSlug
  | .oidc => oidcSlug
  | .scim => Scim.emailToSlug
  | .server => Saml.emailToSlug

def keepsUnderscore : SlugCopy → Bool
  | .service => true
  | .oauth => false
  | .oidc => false
  | .scim => true
  | .server => true

def keeps (c : SlugCopy) (b : UInt8) : Bool :=
  isLetter b || (48 ≤ b && b ≤ 57) || (isSeparator b && (c.keepsUnderscore || b ≠ 95))

def kept (c : SlugCopy) (email : Bytes) : Bytes := email.filter c.keeps

def shown (c : SlugCopy) (email : Bytes) : Bytes :=
  email.filter fun b => b ≠ 37 && b ≠ 43 && (c.keepsUnderscore || b ≠ 95)

end SlugCopy

def Alike (b b' : UInt8) : Prop := b = b' ∨ isSeparator b ∧ isSeparator b'

instance (b b' : UInt8) : Decidable (Alike b b') := inferInstanceAs (Decidable (_ ∨ _))

/-- There is no underscore as far as the slug goes, or the slug shows hyphens only from the first one
on, whether underscores are kept or not. -/
def UnderscoresUnseen (email : Bytes) : Prop :=
  let bytes := SlugCopy.service.kept email
  let others := SlugCopy.oauth.kept email
  95 ∉ bytes.take 64 ∨
    64 ≤ others.length ∧
      ∀ b ∈ (others.take 64).drop (bytes.takeWhile (· ≠ 95)).length, isSeparator b

section Slugs

variable {c : SlugCopy} {b b' : UInt8} {email : Bytes}

def hyphenated (b : UInt8) : UInt8 := if isSeparator b then 45 else b

lemma hyphenated_eq_iff : hyphenated b = hyphenated b' ↔ Alike b b' := by
  rw [hyphenated, hyphenated, Alike]
  by_cases hb : isSeparator b
  · by_cases hb' : isSeparator b'
    · simp [hb, hb']
    · rw [if_pos hb, if_neg hb']
      have hne : (45 : UInt8) ≠ b' := by
        rintro rfl
        exact hb' rfl
      have hne' : b ≠ b' := by
        rintro rfl
        exact hb' hb
      simp [hne, hne', hb']
  · by_cases hb' : isSeparator b'
    · rw [if_neg hb, if_pos hb']
      have hne : b ≠ 45 := by
        rintro rfl
        exact hb rfl
      have hne' : b ≠ b' := by
        rintro rfl
        exact hb hb'
      simp [hne, hne', hb]
    · simp [hb, hb']

lemma hyphenated_eq_hyphen_iff : hyphenated b = 45 ↔ isSeparator b = true := by
  rw [hyphenated]
  split_ifs with hb
  · exact iff_of_true rfl hb
  · refine iff_of_false ?_ hb
    rintro rfl
    exact hb rfl

lemma slugByte_eq (b : UInt8) :
    slugByte b = if SlugCopy.oauth.keeps b then some (hyphenated b) else none := by
  grind [slugByte, SlugCopy.keeps, SlugCopy.keepsUnderscore, hyphenated, isSeparator, isLetter]

lemma emailSlugByte_eq (b : UInt8) :
    Saml.emailSlugByte b = if SlugCopy.service.keeps b then some (hyphenated b) else none := by
  grind [Saml.emailSlugByte, slugByte, SlugCopy.keeps, SlugCopy.keepsUnderscore, hyphenated,
    isSeparator, isLetter]

lemma filterMap_eq_map_filter {f : UInt8 → Option UInt8} {p : UInt8 → Bool}
    (hf : ∀ b, f b = if p b then some (hyphenated b) else none) (email : Bytes) :
    email.filterMap f = (email.filter p).map hyphenated := by
  induction email with
  | nil => rfl
  | cons b email ih =>
    have hb := hf b
    cases hp : p b with
    | true =>
      rw [hp, if_pos rfl] at hb
      rw [List.filterMap_cons_some hb, List.filter_cons_of_pos hp, List.map_cons, ih]
    | false =>
      rw [hp, if_neg (by simp)] at hb
      rw [List.filterMap_cons_none hb, List.filter_cons_of_neg (by simp [hp]), ih]

lemma slug_eq (c : SlugCopy) (email : Bytes) :
    c.slug email = ((c.kept email).map hyphenated).take 64 := by
  have hservice : Saml.emailToSlug email =
      ((SlugCopy.service.kept email).map hyphenated).take 64 := by
    rw [Saml.emailToSlug, filterMap_eq_map_filter emailSlugByte_eq]
    rfl
  have hoauth : sanitizeSlug email = ((SlugCopy.oauth.kept email).map hyphenated).take 64 := by
    rw [sanitizeSlug, filterMap_eq_map_filter slugByte_eq]
    rfl
  cases c with
  | service => exact hservice
  | oauth => exact hoauth
  | oidc => exact hoauth
  | scim => exact hservice
  | server => exact hservice

lemma slug_eq_iff (c c' : SlugCopy) (e₁ e₂ : Bytes) :
    c.slug e₁ = c'.slug e₂ ↔
      List.Forall₂ Alike ((c.kept e₁).take 64) ((c'.kept e₂).take 64) := by
  rw [slug_eq, slug_eq, ← List.map_take, ← List.map_take, ← List.forall₂_eq_eq_eq,
    List.forall₂_map_left_iff, List.forall₂_map_right_iff]
  simp only [hyphenated_eq_iff]

lemma slugs_agree_iff (email : Bytes) :
    (∀ c c' : SlugCopy, c.slug email = c'.slug email) ↔
      SlugCopy.service.slug email = SlugCopy.oauth.slug email := by
  constructor
  · intro h
    exact h .service .oauth
  · intro h c c'
    have hall : ∀ c : SlugCopy, c.slug email = SlugCopy.service.slug email := by
      intro c
      cases c with
      | service => rfl
      | oauth => exact h.symm
      | oidc => exact h.symm
      | scim => rfl
      | server => rfl
    rw [hall c, hall c']

lemma kept_oauth (email : Bytes) :
    SlugCopy.oauth.kept email = (SlugCopy.service.kept email).filter (· ≠ 95) := by
  rw [SlugCopy.kept, SlugCopy.kept, List.filter_filter]
  apply List.filter_congr
  intro b _
  grind [SlugCopy.keeps, SlugCopy.keepsUnderscore, isSeparator, isLetter]

lemma underscoresUnseen_iff (email : Bytes) :
    SlugCopy.service.slug email = SlugCopy.oauth.slug email ↔ UnderscoresUnseen email := by
  have hmark : ∀ b : UInt8, (decide (b ≠ 95)) = false → hyphenated b = 45 := by
    intro b hb
    obtain rfl : b = 95 := by simpa using hb
    rfl
  rw [slug_eq, slug_eq, UnderscoresUnseen, kept_oauth, ErasedMarks.take_map_filter_iff hmark]
  simp only [hyphenated_eq_hyphen_iff, decide_eq_true_eq]
  apply or_congr_left
  constructor
  · intro h hmem
    exact h 95 hmem rfl
  · rintro h b hb rfl
    exact h hb

lemma isLocalByte_of_isDomainByte (h : isDomainByte b = true) : isLocalByte b = true := by
  simp [isLocalByte, h]

lemma isDomainByte_of_isLetter (h : isLetter b = true) : isDomainByte b = true := by
  simp [isDomainByte, h]

lemma mem_of_emailRegex (h : emailRegex email = true) (hb : b ∈ email) :
    isLocalByte b = true ∨ b = 64 := by
  rw [emailRegex, List.span_eq_takeWhile_dropWhile] at h
  rw [← List.takeWhile_append_dropWhile (p := isLocalByte) (l := email)] at hb
  split at h
  · rename_i name domain hsplit
    obtain ⟨rfl, hdomain⟩ := Prod.mk.inj hsplit
    rw [hdomain] at hb
    rw [List.span_eq_takeWhile_dropWhile] at h
    rcases List.mem_append.mp hb with hb | hb
    · exact .inl (List.mem_takeWhile_imp hb)
    rcases List.mem_cons.mp hb with rfl | hb
    · exact .inr rfl
    apply Or.inl
    apply isLocalByte_of_isDomainByte
    rw [← List.mem_reverse, ← List.takeWhile_append_dropWhile (p := isLetter) (l := domain.reverse)]
      at hb
    split at h
    · rename_i top rest hlast
      obtain ⟨rfl, hrest⟩ := Prod.mk.inj hlast
      rw [hrest] at hb
      simp only [Bool.and_eq_true, List.all_eq_true] at h
      rcases List.mem_append.mp hb with hb | hb
      · exact isDomainByte_of_isLetter (List.mem_takeWhile_imp hb)
      rcases List.mem_cons.mp hb with rfl | hb
      · rfl
      · exact h.2 b hb
    · cases h
  · cases h

lemma kept_accepted (c : SlugCopy) (h : validateEmail email = none) :
    c.kept email = c.shown email := by
  apply List.filter_congr
  intro b hb
  have hregex : emailRegex email = true := by
    rw [validateEmail] at h
    split_ifs at h with _ hmatch
    simpa using hmatch
  have hbyte := mem_of_emailRegex hregex hb
  grind [SlugCopy.keeps, isSeparator, isLetter, isLocalByte, isDomainByte]

end Slugs

/-- Two accepted addresses have different slugs just if they differ, as far as the slug goes, in more
than the signs that it drops and the choice of a separator. -/
theorem organization_slugs_iff {e₁ e₂ : Bytes} (h₁ : validateEmail e₁ = none)
    (h₂ : validateEmail e₂ = none) :
    (∀ c c' : SlugCopy, c.slug e₁ ≠ c'.slug e₂ ↔
      ¬ List.Forall₂ Alike ((c.shown e₁).take 64) ((c'.shown e₂).take 64)) ∧
    ∀ email, (∀ c c' : SlugCopy, c.slug email = c'.slug email) ↔ UnderscoresUnseen email := by
  constructor
  · intro c c'
    rw [← kept_accepted c h₁, ← kept_accepted c' h₂, ne_eq, slug_eq_iff]
  · intro email
    rw [slugs_agree_iff, underscoresUnseen_iff]

theorem organization_slugs_iff_ada :
    SlugCopy.service.slug (ascii "ada@x.org") ≠ SlugCopy.service.slug (ascii "bob@x.org") ∧
      ∀ c c' : SlugCopy, c.slug (ascii "ada@x.org") = c'.slug (ascii "ada@x.org") := by
  have haccepted : validateEmail (ascii "ada@x.org") = none := by decide
  have hother : validateEmail (ascii "bob@x.org") = none := by decide
  have hslugs := organization_slugs_iff haccepted hother
  exact ⟨(hslugs.1 .service .service).mpr (by decide), (hslugs.2 _).mpr (.inl (by decide))⟩

theorem organization_slugs_collide :
    validateEmail (ascii "a.b@x.org") = none ∧ validateEmail (ascii "a-b@x.org") = none ∧
      ascii "a.b@x.org" ≠ ascii "a-b@x.org" ∧
      (∀ c c' : SlugCopy, c.slug (ascii "a.b@x.org") = c'.slug (ascii "a-b@x.org")) ∧
      validateEmail (ascii "a_b@x.org") = none ∧
      SlugCopy.service.slug (ascii "a_b@x.org") ≠ SlugCopy.oauth.slug (ascii "a_b@x.org") := by
  have hdot : ∀ c : SlugCopy, c.slug (ascii "a.b@x.org") = ascii "a-b-x-org" := by
    intro c
    cases c <;> decide
  have hhyphen : ∀ c : SlugCopy, c.slug (ascii "a-b@x.org") = ascii "a-b-x-org" := by
    intro c
    cases c <;> decide
  exact ⟨by decide, by decide, by decide, fun c c' => (hdot c).trans (hhyphen c').symm, by decide,
    by decide⟩

end OmniTun.Auth
