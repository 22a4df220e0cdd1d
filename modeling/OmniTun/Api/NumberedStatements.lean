import OmniTun.Foundation.Placeholders
import OmniTun.Foundation.StringLiterals
import OmniTun.Roles.Handlers
import OmniTun.Scim.Handlers

/-! The statements whose filters or columns depend on the request, with placeholders that are
numbered as they are added. -/

namespace OmniTun.Api.NumberedStatements

open OmniTun.Foundation Placeholders

inductive Arg
  | text (s : Bytes)
  | int (n : ℤ)
  | bool (b : Bool)
  | time (t : ℤ)
  | texts (l : List Bytes)
  deriving DecidableEq

abbrev Statement := Bytes × List Arg

def Statement.bound (s : Statement) : Option (List (Piece Arg)) := statement s.2 s.1

/-! Filters of listings. -/

def addFilter (before after value : Bytes) (q : Query Arg) : Query Arg :=
  if value = [] then q
  else ⟨q.text ++ before ++ placeholder q.argIdx ++ after, q.args ++ [.text value], q.argIdx + 1⟩

def countStatement (q : Query Arg) : Statement :=
  (ascii "SELECT COUNT(*) FROM (" ++ q.text ++ ascii ") sub", q.args)

def pageStatement (order : Bytes) (q : Query Arg) (limit offset : ℤ) : Statement :=
  (q.text ++ order ++ ascii " LIMIT " ++ placeholder q.argIdx ++ ascii " OFFSET " ++
    placeholder (q.argIdx + 1), q.args ++ [.int limit, .int offset])

structure AuditParams where
  orgID : Bytes
  action : Bytes
  resourceType : Bytes
  userID : Bytes
  fromDate : Bytes
  toDate : Bytes

def auditSelect : Bytes :=
  ascii "SELECT id::text, COALESCE(organization_id::text,''), COALESCE(user_id::text,''), " ++
    ascii "action, resource_type, COALESCE(resource_id::text,''), COALESCE(details::text,''), " ++
    ascii "COALESCE(host(client_ip),''), created_at FROM audit_logs WHERE 1=1"

def auditQuery (p : AuditParams) : Query Arg :=
  addFilter (ascii " AND created_at <= ") (ascii "::timestamptz") p.toDate <|
  addFilter (ascii " AND created_at >= ") (ascii "::timestamptz") p.fromDate <|
  addFilter (ascii " AND user_id::text = ") [] p.userID <|
  addFilter (ascii " AND resource_type = ") [] p.resourceType <|
  addFilter (ascii " AND action = ") [] p.action <|
  addFilter (ascii " AND organization_id::text = ") [] p.orgID ⟨auditSelect, [], 1⟩

def adminAuditLogs (p : AuditParams) (limit offset : Bytes) : Statement × Statement :=
  (countStatement (auditQuery p), pageStatement (ascii " ORDER BY created_at DESC") (auditQuery p)
    (Scim.sscanfInt 50 limit) (Scim.sscanfInt 0 offset))

def adminExportAuditLogs (p : AuditParams) : Statement :=
  ((auditQuery p).text ++ ascii " ORDER BY created_at DESC LIMIT 10000", (auditQuery p).args)

structure InvoiceParams where
  status : Bytes
  customer : Bytes
  startDate : Bytes
  endDate : Bytes

def invoiceSelect : Bytes :=
  ascii "SELECT COALESCE(i.id::text,''), COALESCE(o.name,''), COALESCE(i.amount,0),\n\t\t\t" ++
    ascii "COALESCE(i.status,'pending'), COALESCE(i.created_at,now()), " ++
    ascii "COALESCE(i.due_date,now()+'30 days'::interval),\n\t\t\t" ++
    ascii "COALESCE(i.payment_method,''), COALESCE(i.tax,0), COALESCE(i.subtotal,0)\n\t\t\t" ++
    ascii "FROM invoices i\n\t\t\tLEFT JOIN organizations o ON i.organization_id = o.id\n\t\t\t" ++
    ascii "WHERE 1=1"

def invoiceQuery (p : InvoiceParams) : Query Arg :=
  addFilter (ascii " AND i.created_at <= ") [] p.endDate <|
  addFilter (ascii " AND i.created_at >= ") [] p.startDate <|
  addFilter (ascii " AND o.name ILIKE '%' || ") (ascii " || '%'") p.customer <|
  addFilter (ascii " AND i.status = ") [] p.status ⟨invoiceSelect, [], 1⟩

def adminInvoices (p : InvoiceParams) (limit offset : Bytes) : Statement × Statement :=
  (countStatement (invoiceQuery p), pageStatement (ascii " ORDER BY i.created_at DESC")
    (invoiceQuery p) (Scim.sscanfInt 50 limit) (Scim.sscanfInt 0 offset))

def usersWhere (filter : Bytes) : Query Arg :=
  let q : Query Arg := ⟨ascii "WHERE deleted_at IS NULL", [], 1⟩
  if Scim.userNamePrefix <+: filter then
    ⟨q.text ++ ascii " AND email = " ++ placeholder q.argIdx,
      q.args ++ [.text (Scim.filterValue Scim.userNamePrefix filter)], q.argIdx + 1⟩
  else if Scim.externalIDPrefix <+: filter then
    ⟨q.text ++ ascii " AND id::text = " ++ placeholder q.argIdx,
      q.args ++ [.text (Scim.filterValue Scim.externalIDPrefix filter)], q.argIdx + 1⟩
  else q

def usersSelect : Bytes :=
  ascii "SELECT id::text, email, display_name, role, created_at, updated_at FROM users "

def listUsers (filter startIndex count : Bytes) : Statement × Statement :=
  let q := usersWhere filter
  let offset := max 0 ((Scim.sscanfInt 1 startIndex - 1).bmod (2 ^ 64))
  ((ascii "SELECT COUNT(*) FROM users " ++ q.text, q.args),
    (usersSelect ++ q.text ++ ascii " ORDER BY created_at ASC LIMIT " ++ placeholder q.argIdx ++
      ascii " OFFSET " ++ placeholder (q.argIdx + 1),
      q.args ++ [.int (Scim.sscanfInt 50 count), .int offset]))

/-! Columns of updates. -/

def setColumn (column : Bytes) (value : Option Arg) (c : Clauses Arg) : Clauses Arg :=
  match value with
  | none => c
  | some v => ⟨c.clauses ++ [column ++ placeholder c.argIdx], c.args ++ [v], c.argIdx + 1⟩

def updateStatement (front back : Bytes) (c : Clauses Arg) (id : Bytes) : Statement :=
  (front ++ (ascii ", ").intercalate c.clauses ++ back ++ placeholder c.argIdx,
    c.args ++ [.text id])

def given (s : Bytes) : Option Arg := if s = [] then none else some (.text s)

def updateOrg (orgID name slug : Bytes) (now : ℤ) : Option Statement :=
  if name = [] ∧ slug = [] then none
  else
    let c := setColumn (ascii "name=") (given name) ⟨[], [], 1⟩
    let c := setColumn (ascii "slug=") (given slug) c
    let c := setColumn (ascii "updated_at=") (some (.time now)) c
    some (updateStatement (ascii "UPDATE organizations SET ") (ascii " WHERE id=") c orgID)

def updateRole (id : Bytes) (req : Roles.RoleRequest) (now : ℤ) : Option Statement :=
  let c := setColumn (ascii "name=") (given req.name) ⟨[], [], 1⟩
  let c := setColumn (ascii "permissions=")
    (if 0 < req.permissions.length then
      some (.texts (Roles.filterValidPermissions req.permissions)) else none) c
  if c.clauses.length = 0 then none
  else
    let c := setColumn (ascii "updated_at=") (some (.time now)) c
    some (updateStatement (ascii "UPDATE custom_roles SET ") (ascii " WHERE id=") c id)

structure DiscountRequest where
  code : Option Bytes
  type : Option Bytes
  value : Option ℤ
  maxUses : Option ℤ
  active : Option Bool
  expiresAt : Option Bytes
  applicablePlans : Option Bytes

def discountClauses (parseTime : Bytes → Option ℤ) (req : DiscountRequest) : Clauses Arg :=
  let c := setColumn (ascii "code = ") (req.code.map .text) ⟨[], [], 1⟩
  let c := setColumn (ascii "type = ") (req.type.map .text) c
  let c := setColumn (ascii "value = ") (req.value.map .int) c
  let c := setColumn (ascii "max_uses = ") (req.maxUses.map .int) c
  let c := setColumn (ascii "active = ") (req.active.map .bool) c
  let c := setColumn (ascii "expires_at = ") ((req.expiresAt.bind parseTime).map .time) c
  setColumn (ascii "applicable_plans = ") (req.applicablePlans.map .text) c

def updateDiscount (parseTime : Bytes → Option ℤ) (id : Bytes) (req : DiscountRequest) :
    Option Statement :=
  let c := discountClauses parseTime req
  if c.clauses.length = 0 then none
  else
    let c := { c with clauses := c.clauses ++ [ascii "updated_at = now()"] }
    some (updateStatement (ascii "UPDATE discount_codes SET ") (ascii " WHERE id = ") c id)

/-! What the statements are to say, with their values in place. -/

structure Filter where
  before : Bytes
  value : Bytes
  after : Bytes

def Filter.fragments (f : Filter) : List (Fragment Arg) :=
  if f.value = [] then []
  else [.text f.before, .value (.text f.value)] ++ if f.after = [] then [] else [.text f.after]

def auditFilters (p : AuditParams) : List Filter :=
  [⟨ascii " AND organization_id::text = ", p.orgID, []⟩, ⟨ascii " AND action = ", p.action, []⟩,
    ⟨ascii " AND resource_type = ", p.resourceType, []⟩,
    ⟨ascii " AND user_id::text = ", p.userID, []⟩,
    ⟨ascii " AND created_at >= ", p.fromDate, ascii "::timestamptz"⟩,
    ⟨ascii " AND created_at <= ", p.toDate, ascii "::timestamptz"⟩]

def invoiceFilters (p : InvoiceParams) : List Filter :=
  [⟨ascii " AND i.status = ", p.status, []⟩,
    ⟨ascii " AND o.name ILIKE '%' || ", p.customer, ascii " || '%'"⟩,
    ⟨ascii " AND i.created_at >= ", p.startDate, []⟩,
    ⟨ascii " AND i.created_at <= ", p.endDate, []⟩]

def selecting (select : Bytes) (filters : List Filter) : List (Fragment Arg) :=
  .text select :: filters.flatMap Filter.fragments

def counting (fs : List (Fragment Arg)) : List (Fragment Arg) :=
  .text (ascii "SELECT COUNT(*) FROM (") :: fs ++ [.text (ascii ") sub")]

def paging (order : Bytes) (fs : List (Fragment Arg)) (limit offset : ℤ) : List (Fragment Arg) :=
  fs ++ [.text order, .text (ascii " LIMIT "), .value (.int limit), .text (ascii " OFFSET "),
    .value (.int offset)]

section

variable {q : Query Arg} {fs : List (Fragment Arg)}

lemma builds_addFilter (h : Builds q fs) (f : Filter) :
    Builds (addFilter f.before f.after f.value q) (fs ++ f.fragments) := by
  unfold NumberedStatements.addFilter Filter.fragments
  split_ifs with hvalue hafter
  · rwa [List.append_nil]
  · have hv := (h.append_text f.before).append_value (.text f.value)
    simpa [hafter] using hv
  · have hv := ((h.append_text f.before).append_value (.text f.value)).append_text f.after
    simpa using hv

lemma builds_filters (select : Bytes) (filters : List Filter) :
    Builds (filters.foldl (fun q f => addFilter f.before f.after f.value q) ⟨select, [], 1⟩)
      (selecting select filters) := by
  induction filters using List.reverseRecOn with
  | nil => exact builds_text select
  | append_singleton filters f ih =>
    rw [List.foldl_append]
    have hf := builds_addFilter ih f
    simpa [selecting] using hf

lemma builds_paging (h : Builds q fs) (order : Bytes) (limit offset : ℤ) :
    ∃ idx, Builds ⟨(pageStatement order q limit offset).1,
      (pageStatement order q limit offset).2, idx⟩ (paging order fs limit offset) := by
  have hlimit := ((h.append_text order).append_text (ascii " LIMIT ")).append_value (.int limit)
  have hoffset := (hlimit.append_text (ascii " OFFSET ")).append_value (.int offset)
  refine ⟨q.argIdx + 1 + 1, ?_⟩
  simpa [pageStatement, paging] using hoffset

def Filter.texts (f : Filter) : Bytes × Bytes := (f.before, f.after)

def SoundTexts (x : Bytes × Bytes) : Prop := Sound x.1 ∧ (x.2 = [] ∨ Sound x.2)

instance : DecidablePred SoundTexts := fun _ => inferInstanceAs (Decidable (_ ∧ _))

lemma texts_sound :
    (Sound (ascii "SELECT COUNT(*) FROM (") ∧ Sound (ascii " ORDER BY created_at DESC") ∧
      Sound (ascii " ORDER BY created_at DESC LIMIT 10000") ∧
      Sound (ascii " ORDER BY i.created_at DESC")) ∧
    (Sound auditSelect ∧
      ∀ x ∈ (auditFilters ⟨[], [], [], [], [], []⟩).map Filter.texts, SoundTexts x) ∧
    (Sound invoiceSelect ∧
      ∀ x ∈ (invoiceFilters ⟨[], [], [], []⟩).map Filter.texts, SoundTexts x) ∧
    (Sound (ascii "WHERE deleted_at IS NULL") ∧ Sound (ascii "SELECT COUNT(*) FROM users ") ∧
      Sound usersSelect ∧ Sound (ascii " ORDER BY created_at ASC LIMIT ")) ∧
    (Sound (ascii "UPDATE organizations SET ") ∧ Sound (ascii "UPDATE custom_roles SET ") ∧
      Sound (ascii "UPDATE discount_codes SET ")) := by
  rw [auditSelect, invoiceSelect, usersSelect]
  repeat rw [StringLiterals.ascii_ofList]
  decide +kernel

lemma allSound_filter {f : Filter} (h : SoundTexts f.texts) : AllSound f.fragments := by
  have hbefore : Sound f.before := h.1
  have hafter : f.after = [] ∨ Sound f.after := h.2
  unfold Filter.fragments
  split_ifs with hvalue hnone
  · exact allSound_nil
  · simpa using hbefore
  · simpa using ⟨hbefore, hafter.resolve_left hnone⟩

lemma allSound_selecting {select : Bytes} {filters : List Filter} (hs : Sound select)
    (hf : ∀ x ∈ filters.map Filter.texts, SoundTexts x) : AllSound (selecting select filters) := by
  intro t ht
  rcases List.mem_cons.mp ht with ht | ht
  · cases ht
    exact hs
  · obtain ⟨f, hmem, ht⟩ := List.mem_flatMap.mp ht
    exact allSound_filter (hf f.texts (List.mem_map_of_mem hmem)) t ht

lemma allSound_counting (h : AllSound fs) : AllSound (counting fs) := by
  have hfront := texts_sound.1.1
  have hback : Sound (ascii ") sub") := by decide
  exact (allSound_cons_text.mpr ⟨hfront, h⟩).append (by simpa using hback)

lemma allSound_paging {order : Bytes} (h : AllSound fs) (ho : Sound order) (limit offset : ℤ) :
    AllSound (paging order fs limit offset) := by
  have hlimit : Sound (ascii " LIMIT ") := by decide
  have hoffset : Sound (ascii " OFFSET ") := by decide
  apply h.append
  simpa using ⟨ho, hlimit, hoffset⟩

lemma count_bound (h : Builds q fs) (hs : AllSound fs) :
    (countStatement q).bound = some (pieces (counting fs)) := by
  have hc := (h.prepend_text (ascii "SELECT COUNT(*) FROM (")).append_text (ascii ") sub")
  exact hc.statement (allSound_counting hs)

lemma page_bound (h : Builds q fs) (hs : AllSound fs) {order : Bytes} (ho : Sound order)
    (limit offset : ℤ) :
    (pageStatement order q limit offset).bound =
      some (pieces (paging order fs limit offset)) := by
  obtain ⟨idx, hp⟩ := builds_paging h order limit offset
  exact hp.statement (allSound_paging hs ho limit offset)

end

lemma audit_builds (p : AuditParams) :
    Builds (auditQuery p) (selecting auditSelect (auditFilters p)) :=
  builds_filters auditSelect (auditFilters p)

lemma audit_sound (p : AuditParams) : AllSound (selecting auditSelect (auditFilters p)) := by
  have htexts : (auditFilters p).map Filter.texts =
    (auditFilters ⟨[], [], [], [], [], []⟩).map Filter.texts := rfl
  obtain ⟨hselect, hfilters⟩ := texts_sound.2.1
  apply allSound_selecting hselect
  rw [htexts]
  exact hfilters

lemma invoice_builds (p : InvoiceParams) :
    Builds (invoiceQuery p) (selecting invoiceSelect (invoiceFilters p)) :=
  builds_filters invoiceSelect (invoiceFilters p)

lemma invoice_sound (p : InvoiceParams) :
    AllSound (selecting invoiceSelect (invoiceFilters p)) := by
  have htexts : (invoiceFilters p).map Filter.texts =
    (invoiceFilters ⟨[], [], [], []⟩).map Filter.texts := rfl
  obtain ⟨hselect, hfilters⟩ := texts_sound.2.2.1
  apply allSound_selecting hselect
  rw [htexts]
  exact hfilters

def usersFragments (filter : Bytes) : List (Fragment Arg) :=
  .text (ascii "WHERE deleted_at IS NULL") ::
    if Scim.userNamePrefix <+: filter then
      [.text (ascii " AND email = "), .value (.text (Scim.filterValue Scim.userNamePrefix filter))]
    else if Scim.externalIDPrefix <+: filter then
      [.text (ascii " AND id::text = "),
        .value (.text (Scim.filterValue Scim.externalIDPrefix filter))]
    else []

lemma users_builds (filter : Bytes) : Builds (usersWhere filter) (usersFragments filter) := by
  have hq : Builds ⟨ascii "WHERE deleted_at IS NULL", [], 1⟩
    [.text (ascii "WHERE deleted_at IS NULL")] := builds_text (V := Arg) _
  unfold usersWhere usersFragments
  split_ifs
  · exact (hq.append_text _).append_value _
  · exact (hq.append_text _).append_value _
  · exact hq

lemma users_sound (filter : Bytes) : AllSound (usersFragments filter) := by
  have hfront := texts_sound.2.2.2.1.1
  have hemail : Sound (ascii " AND email = ") := by decide
  have hid : Sound (ascii " AND id::text = ") := by decide
  unfold usersFragments
  rw [allSound_cons_text]
  split_ifs
  · simpa using ⟨hfront, hemail⟩
  · simpa using ⟨hfront, hid⟩
  · simpa using hfront

/-- Every listing's count, page and export are run with each given filter's value at its own place,
and the limit and the offset at theirs, whatever other filters are given. -/
theorem listings_bound (p : AuditParams) (ip : InvoiceParams)
    (filter startIndex count limit offset : Bytes) :
    (adminAuditLogs p limit offset).1.bound =
        some (pieces (counting (selecting auditSelect (auditFilters p)))) ∧
      (adminAuditLogs p limit offset).2.bound =
        some (pieces (paging (ascii " ORDER BY created_at DESC")
          (selecting auditSelect (auditFilters p)) (Scim.sscanfInt 50 limit)
          (Scim.sscanfInt 0 offset))) ∧
      (adminExportAuditLogs p).bound =
        some (pieces (selecting auditSelect (auditFilters p) ++
          [.text (ascii " ORDER BY created_at DESC LIMIT 10000")])) ∧
      (adminInvoices ip limit offset).1.bound =
        some (pieces (counting (selecting invoiceSelect (invoiceFilters ip)))) ∧
      (adminInvoices ip limit offset).2.bound =
        some (pieces (paging (ascii " ORDER BY i.created_at DESC")
          (selecting invoiceSelect (invoiceFilters ip)) (Scim.sscanfInt 50 limit)
          (Scim.sscanfInt 0 offset))) ∧
      (listUsers filter startIndex count).1.bound =
        some (pieces (.text (ascii "SELECT COUNT(*) FROM users ") :: usersFragments filter)) ∧
      (listUsers filter startIndex count).2.bound =
        some (pieces (.text usersSelect :: usersFragments filter ++
          [.text (ascii " ORDER BY created_at ASC LIMIT "),
            .value (.int (Scim.sscanfInt 50 count)), .text (ascii " OFFSET "),
            .value (.int (max 0 ((Scim.sscanfInt 1 startIndex - 1).bmod (2 ^ 64))))])) := by
  have haudit := audit_builds p
  have hsound := audit_sound p
  have hinvoice := invoice_builds ip
  have hisound := invoice_sound ip
  obtain ⟨⟨-, hdesc, hexport, hinvoiceDesc⟩, -, -, ⟨-, hcount, hselect, horder⟩, -⟩ := texts_sound
  refine ⟨count_bound haudit hsound, page_bound haudit hsound hdesc _ _, ?_,
    count_bound hinvoice hisound, page_bound hinvoice hisound hinvoiceDesc _ _, ?_, ?_⟩
  · exact (haudit.append_text _).statement (hsound.append (by simpa using hexport))
  · apply ((users_builds filter).prepend_text _).statement
    exact allSound_cons_text.mpr ⟨hcount, users_sound filter⟩
  · have hoffset : Sound (ascii " OFFSET ") := by decide
    have hlimit := (((users_builds filter).prepend_text usersSelect).append_text
      (ascii " ORDER BY created_at ASC LIMIT ")).append_value (.int (Scim.sscanfInt 50 count))
    have hpage := (hlimit.append_text (ascii " OFFSET ")).append_value
      (.int (max 0 ((Scim.sscanfInt 1 startIndex - 1).bmod (2 ^ 64))))
    have hfront := allSound_cons_text.mpr ⟨hselect, users_sound filter⟩
    have hbound := hpage.statement (by
      simp only [List.append_assoc]
      exact hfront.append (by simpa using ⟨horder, hoffset⟩))
    simp only [Statement.bound, listUsers, List.append_assoc] at hbound ⊢
    exact hbound

/-! The updates. -/

def column (name : Bytes) (value : Option Arg) : List (List (Fragment Arg)) :=
  (value.map fun v => [.text name, .value v]).toList

def updating (front back : Bytes) (columns : List (List (Fragment Arg))) (id : Bytes) :
    List (Fragment Arg) :=
  .text front :: join (ascii ", ") columns ++ [.text back, .value (.text id)]

def orgColumns (name slug : Bytes) : List (List (Fragment Arg)) :=
  column (ascii "name=") (given name) ++ column (ascii "slug=") (given slug)

def roleColumns (req : Roles.RoleRequest) : List (List (Fragment Arg)) :=
  column (ascii "name=") (given req.name) ++
    column (ascii "permissions=") (if 0 < req.permissions.length then
      some (.texts (Roles.filterValidPermissions req.permissions)) else none)

def discountColumns (parseTime : Bytes → Option ℤ) (req : DiscountRequest) :
    List (List (Fragment Arg)) :=
  column (ascii "code = ") (req.code.map .text) ++ column (ascii "type = ") (req.type.map .text) ++
    column (ascii "value = ") (req.value.map .int) ++
    column (ascii "max_uses = ") (req.maxUses.map .int) ++
    column (ascii "active = ") (req.active.map .bool) ++
    column (ascii "expires_at = ") ((req.expiresAt.bind parseTime).map .time) ++
    column (ascii "applicable_plans = ") (req.applicablePlans.map .text)

def updatedAt (now : ℤ) : List (List (Fragment Arg)) :=
  [[.text (ascii "updated_at="), .value (.time now)]]

section

variable {c : Clauses Arg} {fss : List (List (Fragment Arg))}

lemma buildsEach_nil : BuildsEach (⟨[], [], 1⟩ : Clauses Arg) [] := ⟨rfl, rfl, rfl⟩

lemma buildsEach_setColumn (h : BuildsEach c fss) (name : Bytes) (value : Option Arg) :
    BuildsEach (setColumn name value c) (fss ++ column name value) := by
  cases value with
  | none => simpa [setColumn, column] using h
  | some v => exact h.append_value name v

lemma column_sound {name : Bytes} (hn : Sound name) (value : Option Arg) :
    ∀ fs ∈ column name value, AllSound fs := by
  intro fs hfs
  obtain ⟨v, -, rfl⟩ := Option.map_eq_some_iff.mp (Option.mem_toList.mp hfs)
  simpa using hn

lemma update_bound {front back : Bytes} (h : BuildsEach c fss) (hs : ∀ fs ∈ fss, AllSound fs)
    (hfront : Sound front) (hback : Sound back) (id : Bytes) :
    (updateStatement front back c id).bound = some (pieces (updating front back fss id)) := by
  have hsep : Sound (ascii ", ") := by decide
  have hall : AllSound (.text front :: join (ascii ", ") fss) :=
    allSound_cons_text.mpr ⟨hfront, allSound_join hsep hs⟩
  exact (h.finish front (ascii ", ") back (.text id)).statement
    (hall.append (by simpa using hback))

end

lemma columns_sound {columns : List (List (Fragment Arg))} {name : Bytes}
    (h : ∀ fs ∈ columns, AllSound fs) (hn : Sound name) (value : Option Arg) :
    ∀ fs ∈ columns ++ column name value, AllSound fs := by
  intro fs hfs
  rcases List.mem_append.mp hfs with hfs | hfs
  · exact h fs hfs
  · exact column_sound hn value fs hfs

lemma updatedAt_eq (now : ℤ) :
    updatedAt now = column (ascii "updated_at=") (some (.time now)) := rfl

lemma orgColumns_eq_nil (name slug : Bytes) :
    orgColumns name slug = [] ↔ name = [] ∧ slug = [] := by
  simp [orgColumns, column, given]

lemma org_builds (name slug : Bytes) :
    BuildsEach (setColumn (ascii "slug=") (given slug)
      (setColumn (ascii "name=") (given name) ⟨[], [], 1⟩)) (orgColumns name slug) :=
  buildsEach_setColumn (buildsEach_setColumn buildsEach_nil _ _) _ _

lemma org_sound (name slug : Bytes) : ∀ fs ∈ orgColumns name slug, AllSound fs := by
  have hname : Sound (ascii "name=") := by decide
  exact columns_sound (column_sound hname _) (by decide) _

lemma role_builds (req : Roles.RoleRequest) :
    BuildsEach (setColumn (ascii "permissions=")
      (if 0 < req.permissions.length then
        some (.texts (Roles.filterValidPermissions req.permissions)) else none)
      (setColumn (ascii "name=") (given req.name) ⟨[], [], 1⟩)) (roleColumns req) :=
  buildsEach_setColumn (buildsEach_setColumn buildsEach_nil _ _) _ _

lemma role_sound (req : Roles.RoleRequest) : ∀ fs ∈ roleColumns req, AllSound fs := by
  have hname : Sound (ascii "name=") := by decide
  exact columns_sound (column_sound hname _) (by decide) _

lemma discount_sound (parseTime : Bytes → Option ℤ) (req : DiscountRequest) :
    ∀ fs ∈ discountColumns parseTime req, AllSound fs := by
  have hcode : Sound (ascii "code = ") := by decide
  have htype : Sound (ascii "type = ") := by decide
  have hvalue : Sound (ascii "value = ") := by decide
  have huses : Sound (ascii "max_uses = ") := by decide
  have hactive : Sound (ascii "active = ") := by decide
  have hexpires : Sound (ascii "expires_at = ") := by decide
  have hplans : Sound (ascii "applicable_plans = ") := by decide
  refine columns_sound ?_ hplans _
  refine columns_sound ?_ hexpires _
  refine columns_sound ?_ hactive _
  refine columns_sound ?_ huses _
  refine columns_sound ?_ hvalue _
  refine columns_sound ?_ htype _
  exact column_sound hcode _

lemma discount_builds (parseTime : Bytes → Option ℤ) (req : DiscountRequest) :
    BuildsEach (discountClauses parseTime req) (discountColumns parseTime req) := by
  have hcode := buildsEach_setColumn buildsEach_nil (ascii "code = ") (req.code.map .text)
  have htype := buildsEach_setColumn hcode (ascii "type = ") (req.type.map .text)
  have hvalue := buildsEach_setColumn htype (ascii "value = ") (req.value.map .int)
  have huses := buildsEach_setColumn hvalue (ascii "max_uses = ") (req.maxUses.map .int)
  have hactive := buildsEach_setColumn huses (ascii "active = ") (req.active.map .bool)
  have hexpires := buildsEach_setColumn hactive (ascii "expires_at = ")
    ((req.expiresAt.bind parseTime).map .time)
  exact buildsEach_setColumn hexpires _ _

/-- An update sets the columns that it takes from the request and the time of the update, in the row
with the given id, and none is run when it takes no column: of a role, the valid permissions of
those given, and of a discount code the time it expires only where it can be parsed. -/
theorem updates_bound (parseTime : Bytes → Option ℤ) (id name slug : Bytes) (now : ℤ)
    (req : Roles.RoleRequest) (discount : DiscountRequest) :
    (updateOrg id name slug now).map Statement.bound =
        (if orgColumns name slug = [] then none
        else some (some (pieces (updating (ascii "UPDATE organizations SET ") (ascii " WHERE id=")
          (orgColumns name slug ++ updatedAt now) id)))) ∧
      (updateRole id req now).map Statement.bound =
        (if roleColumns req = [] then none
        else some (some (pieces (updating (ascii "UPDATE custom_roles SET ") (ascii " WHERE id=")
          (roleColumns req ++ updatedAt now) id)))) ∧
      (updateDiscount parseTime id discount).map Statement.bound =
        (if discountColumns parseTime discount = [] then none
        else some (some (pieces (updating (ascii "UPDATE discount_codes SET ")
          (ascii " WHERE id = ") (discountColumns parseTime discount ++
            [[.text (ascii "updated_at = now()")]]) id)))) := by
  have hupdated : Sound (ascii "updated_at=") := by decide
  have hnow : Sound (ascii "updated_at = now()") := by decide
  obtain ⟨hfrontOrg, hfrontRole, hfrontDiscount⟩ := texts_sound.2.2.2.2
  refine ⟨?_, ?_, ?_⟩
  · have hback : Sound (ascii " WHERE id=") := by decide
    have hset := buildsEach_setColumn (org_builds name slug) (ascii "updated_at=")
      (some (.time now))
    have hsound := columns_sound (org_sound name slug) hupdated (some (.time now))
    rw [updatedAt_eq, ← update_bound hset hsound hfrontOrg hback id]
    by_cases hnone : name = [] ∧ slug = []
    · rw [updateOrg, if_pos hnone, if_pos ((orgColumns_eq_nil name slug).mpr hnone)]
      rfl
    · rw [updateOrg, if_neg hnone, if_neg (mt (orgColumns_eq_nil name slug).mp hnone)]
      rfl
  · have hback : Sound (ascii " WHERE id=") := by decide
    have hrole := role_builds req
    have hset := buildsEach_setColumn hrole (ascii "updated_at=") (some (.time now))
    have hsound := columns_sound (role_sound req) hupdated (some (.time now))
    have hnone := hrole.clauses_length
    rw [updatedAt_eq, ← update_bound hset hsound hfrontRole hback id]
    simp only [updateRole, hnone, List.length_eq_zero_iff]
    split_ifs <;> rfl
  · have hback : Sound (ascii " WHERE id = ") := by decide
    have hdiscount := discount_builds parseTime discount
    have hset := hdiscount.append_text (ascii "updated_at = now()")
    have hsound : ∀ fs ∈ discountColumns parseTime discount ++
        [[.text (ascii "updated_at = now()")]], AllSound fs := by
      intro fs hfs
      rcases List.mem_append.mp hfs with hfs | hfs
      · exact discount_sound parseTime discount fs hfs
      · rw [List.mem_singleton.mp hfs]
        simpa using hnow
    have hnone := hdiscount.clauses_length
    rw [← update_bound hset hsound hfrontDiscount hback id]
    simp only [updateDiscount, hnone, List.length_eq_zero_iff]
    split_ifs <;> rfl

end OmniTun.Api.NumberedStatements
