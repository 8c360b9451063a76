import RequestScope.Form.Basic

/-!
# Resetting a password

The form by which the holder of a reset token sets a new password.
-/

namespace RequestScope

/-- A reset token and the new password. -/
structure ResetPassword where
  token : String
  newPassword : String
deriving Repr, DecidableEq

namespace ResetPassword

def minPasswordLength : Nat := 8

def form : Form ResetPassword where
  name := "ResetPasswordRequest"
  fields :=
    [⟨"token", "token", token, 1, "재설정 토큰이 필요합니다"⟩,
     ⟨"new_password", "newPassword", newPassword, minPasswordLength, "비밀번호는 최소 8자 이상이어야 합니다"⟩]
  build text := ⟨text "token", text "newPassword"⟩

/-- The contents shown in documentation. -/
def sample : ResetPassword := ⟨"uuid-reset-token", "NewSecurePassword123!"⟩

end ResetPassword

end RequestScope
