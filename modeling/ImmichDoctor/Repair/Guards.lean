import ImmichDoctor.Library.JsonValue
/-!
# Plan tokens

`repair/guards.py`: the fingerprint of a payload, the token a plan is bound to, and its
validation before the plan is applied. Instants are those of the module on catalog rows, in
microseconds; a digest stands for the hexadecimal text of SHA-256.
-/

namespace ImmichDoctor.Repair

open ImmichDoctor.Library

/-- `fingerprint_payload`. -/
def fingerprintPayload (digest : PyStr → PyStr) (payload : JsonValue) : PyStr :=
  digest payload.dumps

structure PlanToken where
  tokenId : PyStr
  createdAt : Int
  scope : JsonValue
  dbFingerprint : PyStr
  fileFingerprint : PyStr
  expiresAt : Option Int

/-- `timedelta(minutes=30)`. -/
def planTokenTtl : Int := 30 * 60 * 1000000

/-- `create_plan_token` with the default lifetime. -/
def createPlanToken (tokenId : PyStr) (now : Int) (scope : JsonValue)
    (dbFingerprint fileFingerprint : PyStr) : PlanToken where
  tokenId := tokenId
  createdAt := now
  scope := scope
  dbFingerprint := dbFingerprint
  fileFingerprint := fileFingerprint
  expiresAt := some (now + planTokenTtl)

structure ApplyGuardResult where
  valid : Bool
  reason : PyStr
  tokenId : PyStr
  expectedDbFingerprint : PyStr
  expectedFileFingerprint : PyStr
  actualDbFingerprint : PyStr
  actualFileFingerprint : PyStr

/-- `validate_plan_token`. -/
def validatePlanToken (digest : PyStr → PyStr) (now : Int) (token : PlanToken) (scope : JsonValue)
    (dbFingerprint fileFingerprint : PyStr) : ApplyGuardResult :=
  let result (valid : Bool) (reason : PyStr) : ApplyGuardResult :=
    { valid := valid
      reason := reason
      tokenId := token.tokenId
      expectedDbFingerprint := token.dbFingerprint
      expectedFileFingerprint := token.fileFingerprint
      actualDbFingerprint := dbFingerprint
      actualFileFingerprint := fileFingerprint }
  if token.expiresAt.any (· < now) then result false (py "Plan token expired before apply.")
  else if fingerprintPayload digest scope ≠ fingerprintPayload digest token.scope then
    result false (py "Repair scope changed between inspect and apply.")
  else if token.dbFingerprint ≠ dbFingerprint ∨ token.fileFingerprint ≠ fileFingerprint then
    result false (py "Live state drift detected between inspect and apply.")
  else result true (py "Plan token matches the current live state.")

/-- A token is valid when it has not expired and everything is as it was. -/
theorem valid_iff {digest : PyStr → PyStr} {now : Int} {token : PlanToken} {scope : JsonValue}
    {dbFingerprint fileFingerprint : PyStr} :
    (validatePlanToken digest now token scope dbFingerprint fileFingerprint).valid = true ↔
      (∀ expires, token.expiresAt = some expires → now ≤ expires) ∧
        fingerprintPayload digest scope = fingerprintPayload digest token.scope ∧
        token.dbFingerprint = dbFingerprint ∧ token.fileFingerprint = fileFingerprint := by
  have hexpired : token.expiresAt.any (· < now) = false ↔
      ∀ expires, token.expiresAt = some expires → now ≤ expires := by
    cases token.expiresAt with
    | none => simp
    | some expires => simp
  unfold validatePlanToken
  by_cases hlate : token.expiresAt.any (· < now) = true
  · rw [if_pos hlate]
    refine iff_of_false Bool.false_ne_true fun h => ?_
    rw [hexpired.mpr h.1] at hlate
    cases hlate
  · have htime := hexpired.mp (Bool.eq_false_iff.mpr hlate)
    rw [if_neg hlate]
    by_cases hscope : fingerprintPayload digest scope = fingerprintPayload digest token.scope
    · rw [if_neg (not_not_intro hscope)]
      by_cases hdb : token.dbFingerprint = dbFingerprint
      · by_cases hfile : token.fileFingerprint = fileFingerprint
        · rw [if_neg (by simp [hdb, hfile])]
          exact iff_of_true rfl ⟨htime, hscope, hdb, hfile⟩
        · rw [if_pos (Or.inr hfile)]
          exact iff_of_false Bool.false_ne_true fun h => hfile h.2.2.2
      · rw [if_pos (Or.inl hdb)]
        exact iff_of_false Bool.false_ne_true fun h => hdb h.2.2.1
    · rw [if_pos hscope]
      exact iff_of_false Bool.false_ne_true fun h => hscope h.2.1

end ImmichDoctor.Repair
