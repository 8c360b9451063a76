import RequestScope.Form.Basic

/-!
# Renaming a role

The form by which an administrator renames a role.
-/

namespace RequestScope

/-- The new name of a role. -/
structure RoleUpdate where
  name : String
deriving Repr, DecidableEq

namespace RoleUpdate

def form : Form RoleUpdate where
  name := "RoleUpdateRequest"
  fields := [⟨"name", "name", name, 1, "역할 이름이 필요합니다"⟩]
  build text := ⟨text "name"⟩

/-- How documentation describes the name. -/
def nameDescription : String := "New name of the role."

end RoleUpdate

end RequestScope
