import LoginGate.Proofs.Json.Reading

/-!
# What readers can give

Whatever the text is, a reader that is made of readers gives only what they let
it make. A property of all that a reader gives (`Gives`) is followed from the
items of an array or the values of a map to the whole.

An array of documents is read exactly where a document that is an array is
(`run_array_value`).
-/

namespace LoginGate.Json.Reader

variable {α β σ : Type}

/-- Everything that the reader gives has the property. -/
def Gives (r : Reader α) (P : α → Prop) : Prop := ∀ c a c', r c = (.ok a, c') → P a

section Basic

variable {r : Reader α} {f : α → Reader β} {P : α → Prop} {Q : β → Prop}

theorem gives_pure {a : α} (h : P a) : Gives (pure a) P := by
  rintro c b c' hr
  cases hr
  exact h

theorem gives_any (r : Reader α) : Gives r fun _ => True := fun _ _ _ _ => trivial

theorem gives_fail (cause : Cause) : Gives (fail cause) P := nofun

theorem gives_failAhead (cause : Cause) : Gives (failAhead cause) P := nofun

theorem gives_failLater (cause : Cause) : Gives (failLater cause) P := nofun

theorem Gives.bind (h : Gives r P) (hf : ∀ a, P a → Gives (f a) Q) : Gives (r >>= f) Q := by
  intro c b c' hb
  rw [bind_apply] at hb
  split at hb
  · next a c₁ hr => exact hf a (h c a c₁ hr) c₁ b c' hb
  · cases hb

/-- What is read before may be anything. -/
theorem Gives.after (hf : ∀ a, Gives (f a) Q) : Gives (r >>= f) Q :=
  (gives_any r).bind fun a _ => hf a

theorem Gives.map {g : α → β} (h : Gives r P) (hg : ∀ a, P a → Q (g a)) : Gives (g <$> r) Q :=
  h.bind fun a ha => gives_pure (hg a ha)

theorem Gives.ite {p : Prop} [Decidable p] {r' : Reader α} (h : p → Gives r P)
    (h' : ¬p → Gives r' P) : Gives (if p then r else r') P := by
  split
  · next hp => exact h hp
  · next hp => exact h' hp

theorem Gives.placed (h : Gives r P) : Gives (placed r) P := by
  intro c a c' hr
  simp only [Reader.placed] at hr
  split at hr
  · cases hr
  · exact h c a c' hr

theorem Gives.enclosed {close : Reader Unit} (h : Gives r P) : Gives (enclosed r close) P := by
  refine Gives.placed fun c a c' hr => ?_
  split at hr
  · next b c₁ hb =>
    split at hr
    · cases hr
      exact h _ _ _ hb
    · cases hr
  · cases hr

theorem Gives.nested {room : Nat} {inside : Nat → Reader α} (h : ∀ room, Gives (inside room) P) :
    Gives (nested room inside) P := by
  cases room with
  | zero => exact gives_failAhead .tooDeep
  | succ room => exact h room

theorem gives_unexpected (expected : String) : Gives (unexpected (α := α) expected) P := by
  refine .after fun first => .after fun v => ?_
  split
  · exact gives_fail _
  · exact gives_fail _

theorem gives_required (name : String) {read : Option α} (h : ∀ a ∈ read, P a) :
    Gives (required name read) P := by
  cases read with
  | none => exact gives_failLater _
  | some a => exact gives_pure (h a rfl)

theorem Gives.field (name : String) (before : Option α) (h : Gives r P) :
    Gives (field name before r) fun read => ∀ a ∈ read, P a := by
  refine .ite (fun _ => gives_failLater _) fun _ => .after fun _ => h.map fun a ha b hb => ?_
  exact Option.some.inj hb ▸ ha

end Basic

variable {P : α → Prop} {I : σ → Prop}

theorem gives_itemsWithin {item : Reader α} (h : Gives item P) (rounds : Nat) (first : Bool)
    {done : List α} (hdone : ∀ a ∈ done, P a) :
    Gives (itemsWithin item rounds first done) fun l => ∀ a ∈ l, P a := by
  induction rounds generalizing first done with
  | zero => exact gives_failAhead _
  | succ rounds ih =>
    refine .after fun more => .ite (fun _ => h.bind fun a ha => ih false ?_) fun _ => ?_
    · exact List.forall_mem_cons.2 ⟨ha, hdone⟩
    · exact gives_pure fun a ha => hdone a (List.mem_reverse.1 ha)

theorem gives_membersWithin {member : σ → String → Reader σ}
    (h : ∀ s key, I s → Gives (member s key) I) (rounds : Nat) (first : Bool) {s : σ} (hs : I s) :
    Gives (membersWithin member rounds first s) I := by
  induction rounds generalizing first s with
  | zero => exact gives_failAhead _
  | succ rounds ih =>
    refine .after fun key => ?_
    split
    · next key => exact (h s key hs).bind fun s' hs' => ih false hs'
    · exact gives_pure hs

/-- What every member of an object preserves holds after all of them. -/
theorem gives_members {member : σ → String → Reader σ}
    (h : ∀ s key, I s → Gives (member s key) I) {s : σ} (hs : I s) :
    Gives (members member s) I :=
  .after fun _ => gives_membersWithin h _ true hs

theorem gives_array {item : Nat → Reader α} (h : ∀ room, Gives (item room) P) (room : Nat) :
    Gives (array room item) fun l => ∀ a ∈ l, P a := by
  refine .after fun first => .ite (fun _ => ?_) fun _ => gives_unexpected _
  exact .nested fun room => .enclosed (.after fun n => gives_itemsWithin (h room) _ true nofun)

theorem gives_record {named ordered : Nat → Reader α} (hn : ∀ room, Gives (named room) P)
    (ho : ∀ room, Gives (ordered room) P) (room : Nat) (expected : String) :
    Gives (record room expected named ordered) P := by
  refine .after fun first => .ite (fun _ => .nested fun room => .enclosed (hn room)) fun _ => ?_
  exact .ite (fun _ => .nested fun room => .enclosed (ho room)) fun _ => gives_unexpected _

/-! ### Whole texts -/

section Texts

variable {r : Reader α} {s : String}

/-- A whole text is read if what is left of it is blank. -/
theorem run_eq_ok_iff {a : α} :
    r.run s = .ok a ↔ ∃ c, r (Cursor.start s) = (.ok a, c) ∧ (atEnd c).1 = .ok () := by
  rw [run, runChecked]
  rcases r (Cursor.start s) with ⟨e | b, c⟩
  · simp
  · rcases hend : (atEnd c).1 with e | ⟨⟨⟩⟩
    · simp only [hend, reduceCtorEq, Prod.mk.injEq, false_iff, not_exists]
      rintro c' ⟨⟨-, rfl⟩, h⟩
      exact absurd (hend.symm.trans h) (by simp)
    · simp only [hend, Prod.mk.injEq, Except.ok.injEq]
      constructor
      · intro h
        exact ⟨c, ⟨h, rfl⟩, hend⟩
      · rintro ⟨c', ⟨h, -⟩, -⟩
        exact h

/-- A whole text is accepted if it is read without the check, and what was read
    passes it. -/
theorem runChecked_eq_ok_iff {ε : Type} {ofError : Error → ε} {check : α → Except ε β} {b : β} :
    r.runChecked ofError check s = .ok b ↔ ∃ a, r.run s = .ok a ∧ check a = .ok b := by
  rw [run, runChecked, runChecked]
  rcases r (Cursor.start s) with ⟨e | a, c⟩
  · simp
  · dsimp only [id]
    rcases (atEnd c).1 with e | ⟨⟩
    · cases check a <;> simp
    · cases hcheck : check a <;> simp [hcheck]

theorem Gives.of_run {P : α → Prop} {a : α} (h : Gives r P) (hr : r.run s = .ok a) : P a := by
  obtain ⟨c, hc, -⟩ := run_eq_ok_iff.1 hr
  exact h _ _ _ hc

end Texts

/-! ### Arrays of documents -/

theorem map_apply (f : α → β) (r : Reader α) (c : Cursor) :
    (f <$> r) c = match r c with
      | (.ok a, c) => (.ok (f a), c)
      | (.error e, c) => (.error e, c) := rfl

/-- What is read between brackets may as well be changed behind them. -/
theorem enclosed_map (f : α → β) (r : Reader α) (close : Reader Unit) :
    enclosed (do return f (← r)) close = f <$> enclosed r close := by
  funext c
  rw [map_apply]
  simp only [enclosed, placed, bind_apply]
  rcases r c.advance with ⟨e | a, c₁⟩
  · rcases e with ⟨cause, _ | p⟩ <;> rfl
  · dsimp only [pure]
    rcases close c₁ with ⟨⟨cause, _ | p⟩ | _, c₂⟩ <;> rfl

/-- The document is no array. -/
def NoArray (v : Value) : Prop := ∀ l, v ≠ .array l

/-- Literals, numbers and strings are no arrays. -/
theorem gives_scalar? {first : Char} : Gives (scalar? first) fun v => ∀ v' ∈ v, NoArray v' := by
  have given {v : Value} (hv : NoArray v) :
      Gives (pure (some v)) fun v => ∀ v' ∈ v, NoArray v' :=
    gives_pure fun v' hv' => Option.some.inj hv' ▸ hv
  refine .ite (fun _ => .after fun _ => .after fun _ => given nofun) fun _ => ?_
  refine .ite (fun _ => .after fun _ => .after fun _ => given nofun) fun _ => ?_
  refine .ite (fun _ => .after fun _ => .after fun _ => given nofun) fun _ => ?_
  refine .ite (fun _ => .after fun _ => given nofun) fun _ => ?_
  refine .ite (fun _ => .after fun _ => .after fun _ => given nofun) fun _ => ?_
  refine .ite (fun _ => .after fun _ => given nofun) fun _ => ?_
  exact .ite (fun _ => gives_pure nofun) fun _ => gives_failAhead _

/-- An array of documents is read where a document that is an array is. -/
theorem array_value_apply {room : Nat} {l : List Value} {c c' : Cursor} :
    array (room + 1) value c = (.ok l, c') ↔ value (room + 1) c = (.ok (.array l), c') := by
  rw [array, value, bind_apply, bind_apply]
  rcases valueStart c with ⟨e | first, c₁⟩
  · simp
  by_cases hfirst : first = '['
  · subst hfirst
    have hscalar : scalar? '[' c₁ = (.ok none, c₁) := rfl
    dsimp only
    rw [bind_apply, hscalar]
    dsimp only [nested]
    rw [if_pos rfl, if_pos rfl, enclosed_map Value.array, map_apply]
    rcases enclosed (items (value room)) arrayEnd c₁ with ⟨e | a, c₂⟩ <;> simp
  · -- Neither side gives anything: no array begins like this.
    dsimp only
    rw [if_neg hfirst]
    constructor
    · intro h
      exact (gives_unexpected (P := fun _ => False) "a sequence" c₁ l c' h).elim
    · intro h
      refine ((Gives.bind (Q := NoArray) gives_scalar? fun v hv => ?_) c₁ _ c' h l rfl).elim
      split
      · next v => exact gives_pure (hv v rfl)
      · refine .ite (fun h => absurd h hfirst) fun _ => ?_
        exact .enclosed (.after fun _ => gives_pure nofun)

/-- A text is an array of documents if it is a document that is an array. -/
theorem run_array_value {s : String} {l : List Value} :
    (array levels value).run s = .ok l ↔ Value.parse s = .ok (.array l) := by
  rw [Value.parse, run_eq_ok_iff, run_eq_ok_iff, levels]
  simp only [array_value_apply]

end LoginGate.Json.Reader
