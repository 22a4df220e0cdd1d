import OmniTun.Auth.APIKeys

/-! The middlewares that let through access tokens with certain roles. -/

namespace OmniTun.Auth.Middleware

open OmniTun.Foundation APIKeys
open OmniTun.Relay (splitN)

/-- `validateAccessToken` gives the claims of a token or the text of an error. -/
def jwtAuthMiddleware (validateAccessToken : Bytes → Except Bytes Claims) (authorization : Bytes) :
    Except HTTPError AuthContext :=
  if authorization = [] then .error ⟨ascii "missing authorization header", 401⟩
  else
    match splitN authorization 32 2 with
    | [scheme, token] =>
      if isBearer scheme then
        match validateAccessToken token with
        | .error err => .error ⟨ascii "invalid token: " ++ err, 401⟩
        | .ok claims => .ok ⟨some claims.subject, claims.orgID, some claims.role, none⟩
      else .error ⟨ascii "invalid authorization header format", 401⟩
    | _ => .error ⟨ascii "invalid authorization header format", 401⟩

def noRole : Bytes :=
  ascii ("\x7b\"error\":\x7b\"code\":\"unauthorized\",\"message\":\"no role in context\"\x7d\x7d")

def insufficientPermissions : Bytes :=
  ascii ("\x7b\"error\":\x7b\"code\":\"forbidden\",\"message\":\"insufficient permissions\"\x7d\x7d")

def requireRole (roles : List Bytes) (ctx : AuthContext) : Except HTTPError AuthContext :=
  match ctx.role with
  | none => .error ⟨noRole, 401⟩
  | some role => if roles.contains role then .ok ctx else .error ⟨insufficientPermissions, 403⟩

section

variable {validateAccessToken : Bytes → Except Bytes Claims} {token : Bytes} {roles : List Bytes}
  {ctx : AuthContext}

lemma splitN_bearer : splitN (ascii "Bearer " ++ token) 32 2 = [ascii "Bearer", token] :=
  Relay.splitN_append (by decide : (32 : UInt8) ∉ ascii "Bearer")

lemma jwtAuthMiddleware_bearer :
    jwtAuthMiddleware validateAccessToken (ascii "Bearer " ++ token) = .ok ctx ↔
      ∃ claims, validateAccessToken token = .ok claims ∧
        ctx = ⟨some claims.subject, claims.orgID, some claims.role, none⟩ := by
  have hbearer : isBearer (ascii "Bearer") := rfl
  have hne : ascii "Bearer " ++ token ≠ [] := by simp [ascii]
  rw [jwtAuthMiddleware, if_neg hne, splitN_bearer]
  simp only [if_pos hbearer]
  cases validateAccessToken token with
  | error err => simp
  | ok claims => simp [eq_comm]

lemma requireRole_eq_ok {ctx' : AuthContext} :
    requireRole roles ctx = .ok ctx' ↔ ctx' = ctx ∧ ∃ role, ctx.role = some role ∧ role ∈ roles := by
  rw [requireRole]
  cases ctx.role with
  | none => simp
  | some role =>
    simp only [Option.some.injEq, exists_eq_left', List.contains_iff_mem]
    split_ifs with hrole
    · simp [hrole, eq_comm]
    · simp [hrole]

end

end OmniTun.Auth.Middleware
