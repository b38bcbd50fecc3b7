import LoginGate.Url.Address

/-!
# What addresses of 128 bits are written with

An address of 128 bits is written with hexadecimal digits, dots and colons, and with no
other characters (`isAddressChar_of_ipv6?`). There is at least one colon in it
(`colon_mem_of_ipv6?`), since without colons there would be a single group, or two if it
is an address of 32 bits.
-/

namespace LoginGate.Url

/-- Whether a character may stand in an address of 128 bits. -/
def isAddressChar (c : Char) : Bool := (hexDigit? c).isSome || c == '.' || c == ':'

variable {s before after : List Char} {groups : List Nat} {n : Nat}

/-! ### Groups -/

theorem isAddressChar_of_isDigit {c : Char} (h : c.isDigit) : isAddressChar c = true := by
  have hrange : '0' ≤ c ∧ c ≤ '9' := by
    simpa only [Char.isDigit, Bool.and_eq_true, decide_eq_true_eq, Char.le_def] using h
  rw [isAddressChar, hexDigit?, if_pos hrange]
  rfl

theorem isAddressChar_of_inBase? {base : Nat} (h : inBase? base s = some n) :
    ∀ c ∈ s, isAddressChar c = true := by
  rw [inBase?] at h
  generalize 0 = value at h
  induction s generalizing value with
  | nil => exact nofun
  | cons c s ih =>
    rw [List.foldlM_cons, Option.bind_eq_bind, Option.bind_eq_some_iff] at h
    obtain ⟨next, hnext, hrest⟩ := h
    obtain ⟨digit, hdigit, -⟩ := Option.bind_eq_some_iff.1 hnext
    have hc : isAddressChar c = true := by rw [isAddressChar, hdigit]; rfl
    exact List.forall_mem_cons.2 ⟨hc, ih _ hrest⟩

theorem isAddressChar_of_group? (h : group? s = some n) : ∀ c ∈ s, isAddressChar c = true := by
  rw [group?, Option.ite_none_right_eq_some] at h
  exact isAddressChar_of_inBase? h.2

theorem isAddressChar_of_plainByte? (h : plainByte? s = some n) :
    ∀ c ∈ s, isAddressChar c = true := by
  obtain ⟨value, -, h⟩ := Option.bind_eq_some_iff.1 h
  obtain ⟨⟨-, rfl⟩, -⟩ := Option.ite_none_right_eq_some.1 h
  exact fun c hc => isAddressChar_of_isDigit (Text.isDigit_of_mem_decimal hc)

/-- A text has the characters of its pieces and the separator. -/
theorem isAddressChar_of_pieces {separator : Char} (hseparator : isAddressChar separator = true)
    (h : ∀ piece ∈ Text.pieces separator s, ∀ c ∈ piece, isAddressChar c = true) :
    ∀ c ∈ s, isAddressChar c = true := by
  intro c hc
  rw [← Text.join_pieces separator s] at hc
  rcases Text.mem_join hc with rfl | ⟨piece, hpiece, hc⟩
  · exact hseparator
  · exact h piece hpiece c hc

/-- The last group is one group, or two of them as an address of 32 bits. -/
theorem of_lastGroups?_eq_some (h : lastGroups? s = some groups) :
    groups.length ≤ 2 ∧ ∀ c ∈ s, isAddressChar c = true := by
  rw [lastGroups?] at h
  split at h
  · obtain ⟨n, hgroup, rfl⟩ := Option.map_eq_some_iff.1 h
    exact ⟨Nat.le_succ 1, isAddressChar_of_group? hgroup⟩
  · next a b c d hpieces =>
    obtain ⟨_, ha, h⟩ := Option.bind_eq_some_iff.1 h
    obtain ⟨_, hb, h⟩ := Option.bind_eq_some_iff.1 h
    obtain ⟨_, hc, h⟩ := Option.bind_eq_some_iff.1 h
    obtain ⟨_, hd, h⟩ := Option.bind_eq_some_iff.1 h
    obtain rfl := Option.some.inj h
    have hdot : isAddressChar '.' = true := by decide
    refine ⟨Nat.le_refl 2, isAddressChar_of_pieces hdot ?_⟩
    rw [hpieces]
    simp only [List.forall_mem_cons, List.not_mem_nil, false_imp_iff, implies_true, and_true]
    exact ⟨isAddressChar_of_plainByte? ha, isAddressChar_of_plainByte? hb,
      isAddressChar_of_plainByte? hc, isAddressChar_of_plainByte? hd⟩
  · cases h

/-! ### Addresses -/

section Addresses

variable {last? : List Char → Option (List Nat)}
  (hlast : ∀ {s groups}, last? s = some groups → ∀ c ∈ s, isAddressChar c = true)

include hlast

theorem isAddressChar_of_groups? {parts : List (List Char)} (h : groups? last? parts = some groups) :
    ∀ part ∈ parts, ∀ c ∈ part, isAddressChar c = true := by
  induction parts generalizing groups with
  | nil => exact nofun
  | cons part parts ih =>
    cases parts with
    | nil => exact List.forall_mem_singleton.2 (hlast h)
    | cons next parts =>
      obtain ⟨_, hgroup, h⟩ := Option.bind_eq_some_iff.1 h
      obtain ⟨_, hrest, -⟩ := Option.bind_eq_some_iff.1 h
      exact List.forall_mem_cons.2 ⟨isAddressChar_of_group? hgroup, ih hrest⟩

theorem isAddressChar_of_groupsOf? (h : groupsOf? last? s = some groups) :
    ∀ c ∈ s, isAddressChar c = true := by
  rw [groupsOf?] at h
  split at h
  · next hempty => simp [List.isEmpty_iff.1 hempty]
  · exact isAddressChar_of_pieces (by decide) (isAddressChar_of_groups? hlast h)

end Addresses

theorem eq_append_of_cutDoubleColon? (h : cutDoubleColon? s = some (before, after)) :
    s = before ++ ':' :: ':' :: after := by
  induction s using cutDoubleColon?.induct generalizing before with
  | case1 rest =>
    rw [cutDoubleColon?] at h
    cases h
    rfl
  | case2 => cases h
  | case3 c rest hc ih =>
    rw [cutDoubleColon?] at h
    · obtain ⟨⟨before, after⟩, hrest, heq⟩ := Option.map_eq_some_iff.1 h
      cases heq
      rw [ih hrest, List.cons_append]
    · exact hc

theorem isAddressChar_of_ipv6? (h : ipv6? s = some groups) : ∀ c ∈ s, isAddressChar c = true := by
  rw [ipv6?] at h
  split at h
  · next before after hcut =>
    obtain ⟨_, hfirst, h⟩ := Option.bind_eq_some_iff.1 h
    obtain ⟨_, hrest, -⟩ := Option.bind_eq_some_iff.1 h
    have hgroup {s groups} (h : (group? s).map ([·]) = some groups) :
        ∀ c ∈ s, isAddressChar c = true := by
      obtain ⟨_, h, -⟩ := Option.map_eq_some_iff.1 h
      exact isAddressChar_of_group? h
    have hcolon : isAddressChar ':' = true := by decide
    rw [eq_append_of_cutDoubleColon? hcut, List.forall_mem_append, List.forall_mem_cons,
      List.forall_mem_cons]
    exact ⟨isAddressChar_of_groupsOf? hgroup hfirst, hcolon, hcolon,
      isAddressChar_of_groupsOf? (fun h => (of_lastGroups?_eq_some h).2) hrest⟩
  · obtain ⟨h, -⟩ := Option.filter_eq_some_iff.1 h
    exact isAddressChar_of_pieces (by decide)
      (isAddressChar_of_groups? (fun h => (of_lastGroups?_eq_some h).2) h)

/-- Without a colon there are not enough groups. -/
theorem colon_mem_of_ipv6? (h : ipv6? s = some groups) : ':' ∈ s := by
  rw [ipv6?] at h
  split at h
  · next before after hcut =>
    rw [eq_append_of_cutDoubleColon? hcut]
    exact List.mem_append_right before List.mem_cons_self
  · obtain ⟨h, hlength⟩ := Option.filter_eq_some_iff.1 h
    refine Classical.byContradiction fun hcolon => ?_
    rw [Text.pieces_of_not_mem hcolon] at h
    have hle := (of_lastGroups?_eq_some h).1
    rw [of_decide_eq_true hlength] at hle
    exact absurd hle (by decide)

end LoginGate.Url
