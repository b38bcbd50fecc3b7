/-!
# Splitting texts

Cutting a text at a separator, and joining its pieces.

* `join_pieces`, `pieces_join`: joining undoes splitting, and splitting undoes
  joining pieces without separators;
* `cut?_eq_some`: a cut leaves the separator out and nothing else.
-/

namespace LoginGate.Text

/-- The pieces of a text between separators; a text without separators is one
    piece. -/
def pieces (separator : Char) : List Char → List (List Char)
  | [] => [[]]
  | c :: rest =>
    if c = separator then [] :: pieces separator rest
    else
      match pieces separator rest with
      | first :: more => (c :: first) :: more
      | [] => [[c]]

/-- The text of pieces with a separator between them. -/
def join (separator : Char) : List (List Char) → List Char
  | [] => []
  | [piece] => piece
  | piece :: more => piece ++ separator :: join separator more

/-- What stands before and after the first separator, if there is one. -/
def cut? (separator : Char) : List Char → Option (List Char × List Char)
  | [] => none
  | c :: rest =>
    if c = separator then some ([], rest)
    else (cut? separator rest).map fun (before, after) => (c :: before, after)

/-- What follows a given beginning, if the text has it. -/
def after? : List Char → List Char → Option (List Char)
  | [], s => some s
  | _ :: _, [] => none
  | c :: beginning, d :: s => if c = d then after? beginning s else none

theorem pieces_ne_nil (separator : Char) (s : List Char) : pieces separator s ≠ [] := by
  cases s with
  | nil => simp [pieces]
  | cons c rest =>
    rw [pieces]
    split
    · simp
    · split <;> simp

/-- Joining undoes splitting. -/
@[simp] theorem join_pieces (separator : Char) (s : List Char) :
    join separator (pieces separator s) = s := by
  induction s with
  | nil => rfl
  | cons c rest ih =>
    rw [pieces]
    split
    · next h =>
      cases hp : pieces separator rest with
      | nil => exact absurd hp (pieces_ne_nil separator rest)
      | cons first more =>
        rw [join, List.nil_append, ← hp, ih, h]
        simp
    · cases hp : pieces separator rest with
      | nil => exact absurd hp (pieces_ne_nil separator rest)
      | cons first more =>
        rw [hp] at ih
        cases more with
        | nil => simpa [join] using ih
        | cons second more => simpa [join] using ih

/-- A joined text has the characters of its pieces and the separator. -/
theorem mem_join {separator c : Char} {l : List (List Char)} (h : c ∈ join separator l) :
    c = separator ∨ ∃ piece ∈ l, c ∈ piece := by
  induction l with
  | nil => cases h
  | cons piece more ih =>
    cases more with
    | nil => exact .inr ⟨piece, List.mem_cons_self, h⟩
    | cons second more =>
      simp only [join, List.mem_append, List.mem_cons] at h
      rcases h with h | h | h
      · exact .inr ⟨piece, List.mem_cons_self, h⟩
      · exact .inl h
      · exact (ih h).imp_right fun ⟨p, hp, hc⟩ => ⟨p, List.mem_cons_of_mem _ hp, hc⟩

theorem not_mem_of_mem_pieces {separator : Char} {s piece : List Char}
    (h : piece ∈ pieces separator s) : separator ∉ piece := by
  induction s generalizing piece with
  | nil =>
    obtain rfl := List.mem_singleton.1 h
    exact List.not_mem_nil
  | cons c rest ih =>
    rw [pieces] at h
    split at h
    · rcases List.mem_cons.1 h with rfl | h
      · exact List.not_mem_nil
      · exact ih h
    · next hc =>
      split at h
      · next first more hp =>
        rcases List.mem_cons.1 h with rfl | h
        · rw [List.mem_cons, not_or]
          exact ⟨Ne.symm hc, ih (hp ▸ List.mem_cons_self)⟩
        · exact ih (hp ▸ List.mem_cons_of_mem _ h)
      · next hp => exact absurd hp (pieces_ne_nil separator rest)

theorem pieces_of_not_mem {separator : Char} {s : List Char} (h : separator ∉ s) :
    pieces separator s = [s] := by
  induction s with
  | nil => rfl
  | cons c rest ih =>
    rw [List.mem_cons, not_or] at h
    rw [pieces, if_neg (Ne.symm h.1), ih h.2]

theorem pieces_append {separator : Char} {s : List Char} (h : separator ∉ s) (t : List Char) :
    pieces separator (s ++ separator :: t) = s :: pieces separator t := by
  induction s with
  | nil => exact if_pos rfl
  | cons c rest ih =>
    rw [List.mem_cons, not_or] at h
    rw [List.cons_append, pieces, if_neg (Ne.symm h.1), ih h.2]

/-- Splitting undoes joining, if the separator is in none of the pieces. -/
theorem pieces_join {separator : Char} {l : List (List Char)} (hl : l ≠ [])
    (h : ∀ piece ∈ l, separator ∉ piece) : pieces separator (join separator l) = l := by
  induction l with
  | nil => exact absurd rfl hl
  | cons piece more ih =>
    obtain ⟨hpiece, hmore⟩ := List.forall_mem_cons.1 h
    cases more with
    | nil => exact pieces_of_not_mem hpiece
    | cons second more =>
      rw [join, pieces_append hpiece, ih (List.cons_ne_nil _ _) hmore]
      exact List.cons_ne_nil _ _

theorem cut?_eq_some {separator : Char} {s before after : List Char} :
    cut? separator s = some (before, after) ↔
      s = before ++ separator :: after ∧ separator ∉ before := by
  induction s generalizing before with
  | nil => simp [cut?]
  | cons c rest ih =>
    rw [cut?]
    by_cases h : c = separator
    · subst h
      cases before with
      | nil => simp [eq_comm]
      | cons d before => grind
    · rw [if_neg h, Option.map_eq_some_iff]
      cases before with
      | nil => simp [h]
      | cons d before =>
        constructor
        · rintro ⟨⟨b, a⟩, hcut, heq⟩
          simp only [Prod.mk.injEq, List.cons.injEq] at heq
          obtain ⟨⟨rfl, rfl⟩, rfl⟩ := heq
          obtain ⟨rfl, hb⟩ := ih.1 hcut
          exact ⟨rfl, by simp [hb, Ne.symm h]⟩
        · rintro ⟨heq, hb⟩
          simp only [List.cons_append, List.cons.injEq] at heq
          obtain ⟨rfl, rfl⟩ := heq
          exact ⟨(before, after), ih.2 ⟨rfl, fun hm => hb (List.mem_cons_of_mem _ hm)⟩, rfl⟩

/-- What follows a beginning, and nothing else, is put behind it again. -/
theorem after?_eq_some_iff {beginning s rest : List Char} :
    after? beginning s = some rest ↔ s = beginning ++ rest := by
  induction beginning generalizing s with
  | nil => simp [after?]
  | cons c beginning ih =>
    cases s with
    | nil => simp [after?]
    | cons d s =>
      rw [after?, List.cons_append, List.cons.injEq]
      by_cases h : c = d
      · rw [if_pos h, ih, and_iff_right h.symm]
      · rw [if_neg h]
        exact ⟨nofun, fun hd => absurd hd.1.symm h⟩

/-- A text without the separator stays in front of the first cut. -/
theorem cut?_append {separator : Char} {before : List Char} (h : separator ∉ before)
    (s : List Char) :
    cut? separator (before ++ s) = (cut? separator s).map fun c => (before ++ c.1, c.2) := by
  induction before with
  | nil => simp
  | cons c before ih =>
    rw [List.mem_cons, not_or] at h
    rw [List.cons_append, cut?, if_neg (Ne.symm h.1), ih h.2, Option.map_map]
    rfl

end LoginGate.Text
