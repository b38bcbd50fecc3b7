import LoginGate.Json.Expect
import LoginGate.Text.Split

/-!
# Readers read what is written

A reader *reads* a text as a value if it takes the text, and nothing more, from
what it is given, and gives the value (`Reads`). Readers that are made of
readers read texts that are made of their texts; so what is written of a
document is read again, at once or as what is expected there.

* `reads_stringToken`: strings with any characters;
* `reads_items`, `reads_members`: what is inside arrays and objects;
* `reads_string`, `reads_array`, `reads_map`: what is expected to be one of them;
* `reads_value_scalar`, `reads_value_array`, `reads_value_object`: documents.

Where a number stands at the end of a text, it is only read as that number if no
more of it follows, as is so between the items of arrays and objects (`EndsNumber`).
-/

namespace LoginGate.Json.Reader

open Text (Symbol symbols)

variable {α β σ : Type}

/-- The reader takes `text` from what it is given, where `rest` follows, and
    gives the value `a`. -/
def Reads (r : Reader α) (text : List Char) (a : α) (rest : List Char) : Prop :=
  ∀ line column, ∃ line' column',
    r ⟨line, column, symbols (text ++ rest)⟩ = (.ok a, ⟨line', column', symbols rest⟩)

theorem bind_apply (r : Reader α) (f : α → Reader β) (c : Cursor) :
    (r >>= f) c = match r c with
      | (.ok a, c) => f a c
      | (.error e, c) => (.error e, c) := rfl

section Basic

variable {r : Reader α} {f : α → Reader β} {text text' rest : List Char} {a : α} {b : β}

theorem Reads.pure (a : α) (rest : List Char) : Reads (pure a) [] a rest :=
  fun line column => ⟨line, column, rfl⟩

theorem Reads.bind (h : Reads r text a (text' ++ rest)) (h' : Reads (f a) text' b rest) :
    Reads (r >>= f) (text ++ text') b rest := by
  intro line column
  obtain ⟨line₁, column₁, hr⟩ := h line column
  obtain ⟨line₂, column₂, hf⟩ := h' line₁ column₁
  refine ⟨line₂, column₂, ?_⟩
  rw [List.append_assoc, bind_apply, hr]
  exact hf

/-- What is only looked at does not count to the text. -/
theorem Reads.look (h : Reads r [] a (text ++ rest)) (h' : Reads (f a) text b rest) :
    Reads (r >>= f) text b rest := Reads.bind h h'

/-- A character that is taken comes first in the text. -/
theorem Reads.after {x : Char} (h : Reads r [x] a (text ++ rest)) (h' : Reads (f a) text b rest) :
    Reads (r >>= f) (x :: text) b rest := Reads.bind h h'

theorem Reads.map (g : α → β) (h : Reads r text a rest) : Reads (g <$> r) text (g a) rest := by
  have hb : Reads (r >>= fun a => Pure.pure (g a)) (text ++ []) (g a) rest :=
    Reads.bind h (.pure (g a) rest)
  rwa [List.append_nil] at hb

/-- Where a value was read, it is used as it is. -/
theorem Reads.then (h : Reads r text a rest) (hf : f a = Pure.pure b) :
    Reads (r >>= f) text b rest := by
  have hb : Reads (r >>= f) (text ++ []) b rest := Reads.bind h (hf ▸ .pure b rest)
  rwa [List.append_nil] at hb

theorem Reads.ite_pos {p : Prop} [Decidable p] {r' : Reader α} (hp : p)
    (h : Reads r text a rest) : Reads (if p then r else r') text a rest := by
  rwa [if_pos hp]

theorem Reads.ite_neg {p : Prop} [Decidable p] {r' : Reader α} (hp : ¬p)
    (h : Reads r' text a rest) : Reads (if p then r else r') text a rest := by
  rwa [if_neg hp]

/-- The character is no blank. -/
def IsSolid (x : Char) : Prop := x ≠ '\n' ∧ ¬(x = ' ' ∨ x = '\t' ∨ x = '\r')

instance (x : Char) : Decidable (IsSolid x) := inferInstanceAs (Decidable (_ ∧ _))

theorem skipBlanks_of_solid {x : Char} (h : IsSolid x) (line column : Nat) :
    Cursor.skipBlanks ⟨line, column, symbols (x :: rest)⟩ =
      ⟨line, column, symbols (x :: rest)⟩ := by
  have hline : (Symbol.char x).shown ≠ '\n' := h.1
  have hblank : ¬((Symbol.char x).shown = ' ' ∨ (Symbol.char x).shown = '\t' ∨
      (Symbol.char x).shown = '\r') := h.2
  rw [Cursor.skipBlanks, symbols, List.map_cons, Cursor.afterBlanks, if_neg hline, if_neg hblank]

theorem reads_peek {x : Char} (h : IsSolid x) : Reads peek [] (some x) (x :: rest) := by
  intro line column
  refine ⟨line, column, ?_⟩
  rw [List.nil_append, peek, skipBlanks_of_solid h]
  rfl

theorem reads_valueStart {x : Char} (h : IsSolid x) : Reads valueStart [] x (x :: rest) :=
  .look (reads_peek h) (.pure x _)

theorem reads_skip (x : Char) (rest : List Char) : Reads skip [x] () rest := by
  intro line column
  by_cases h : x = '\n'
  · exact ⟨line + 1, 0, by simp [skip, Cursor.advance, symbols, Symbol.shown, h]⟩
  · exact ⟨line, column + x.utf8Size,
      by simp [skip, Cursor.advance, symbols, Symbol.shown, Symbol.size, h]⟩

theorem reads_remaining (rest : List Char) : Reads remaining [] rest.length rest := by
  intro line column
  refine ⟨line, column, ?_⟩
  rw [remaining, symbols, List.length_map]
  rfl

theorem reads_colon (rest : List Char) : Reads colon [':'] () rest :=
  .look (reads_peek (by decide)) (reads_skip ':' rest)

end Basic

/-! ### Strings -/

section Strings

variable (line column : Nat) (done rest : List Char)

theorem stringBody_quote : stringBody line column (some done) (symbols ('"' :: rest)) =
    (.ok (String.ofList done.reverse), ⟨line, column + 1, symbols rest⟩) := by
  rw [stringBody.eq_def]
  rfl

theorem stringBody_letter {e x : Char} (hu : e ≠ 'u') (h : escaped? e = some x) :
    stringBody line column (some done) (symbols ('\\' :: e :: rest)) =
      stringBody line (column + 2) (some (x :: done)) (symbols rest) := by
  rw [stringBody.eq_def]
  simp only [symbols, List.map_cons, Symbol.shown, if_neg (by decide : '\\' ≠ '"'), if_true,
    if_neg hu, h, Option.map_some]

theorem stringBody_code {a b c d : Char} {n : Nat}
    (h : hexQuad? (.char a) (.char b) (.char c) (.char d) = some n) (hn : n < 0xd800) :
    stringBody line column (some done) (symbols ('\\' :: 'u' :: a :: b :: c :: d :: rest)) =
      stringBody line (column + 6) (some (Char.ofNat n :: done)) (symbols rest) := by
  rw [stringBody.eq_def]
  simp only [symbols, List.map_cons, Symbol.shown, if_neg (by decide : '\\' ≠ '"'), if_true, h,
    if_pos (Or.inl hn), Option.map_some]

theorem stringBody_plain {x : Char} (hquote : x ≠ '"') (hslash : x ≠ '\\')
    (hx : ¬x.toNat < 32) :
    stringBody line column (some done) (symbols (x :: rest)) =
      stringBody line (column + x.utf8Size) (some (x :: done)) (symbols rest) := by
  rw [stringBody.eq_def]
  simp only [symbols, List.map_cons, if_neg hquote, if_neg hslash, if_neg hx, Option.map_some]

end Strings

theorem hexDigit?_digitChar : ∀ n < 16, hexDigit? (Nat.digitChar n) = some n := by decide

/-- The two digits of a control character are those of its code. -/
theorem hexQuad?_control {n : Nat} (h : n < 32) :
    hexQuad? (.char '0') (.char '0') (.char (Nat.digitChar (n / 16)))
      (.char (Nat.digitChar (n % 16))) = some n := by
  have h0 : hexDigit? '0' = some 0 := rfl
  have hhigh := hexDigit?_digitChar (n / 16) (by omega)
  have hlow := hexDigit?_digitChar (n % 16) (by omega)
  simp only [hexQuad?, Symbol.shown, h0, hhigh, hlow, Option.bind_eq_bind, Option.bind_some, Option.pure_def]
  exact congrArg some (by omega)

/-- An escaped character is read as the character. -/
theorem stringBody_escapedChar (line column : Nat) (done : List Char) (c : Char)
    (rest : List Char) :
    ∃ column', stringBody line column (some done) (symbols (escapedChar c ++ rest)) =
      stringBody line column' (some (c :: done)) (symbols rest) := by
  rw [escapedChar.eq_def]
  split
  · exact ⟨_, stringBody_letter line column done rest (by decide) rfl⟩
  · exact ⟨_, stringBody_letter line column done rest (by decide) rfl⟩
  · exact ⟨_, stringBody_letter line column done rest (by decide) rfl⟩
  · exact ⟨_, stringBody_letter line column done rest (by decide) rfl⟩
  · exact ⟨_, stringBody_letter line column done rest (by decide) rfl⟩
  · exact ⟨_, stringBody_letter line column done rest (by decide) rfl⟩
  · exact ⟨_, stringBody_letter line column done rest (by decide) rfl⟩
  · next hquote hslash _ _ _ _ _ =>
    split
    · next hlt =>
      have hcode := stringBody_code line column done rest (hexQuad?_control hlt) (by omega)
      rw [Char.ofNat_toNat] at hcode
      exact ⟨_, hcode⟩
    · next hge => exact ⟨_, stringBody_plain line column done rest hquote hslash hge⟩

theorem stringBody_escaped (line : Nat) (s rest : List Char) (column : Nat) (done : List Char) :
    ∃ column',
      stringBody line column (some done) (symbols (s.flatMap escapedChar ++ '"' :: rest)) =
        (.ok (String.ofList (done.reverse ++ s)), ⟨line, column', symbols rest⟩) := by
  induction s generalizing column done with
  | nil =>
    rw [List.flatMap_nil, List.nil_append, List.append_nil]
    exact ⟨_, stringBody_quote line column done rest⟩
  | cons c s ih =>
    obtain ⟨column₁, hc⟩ := stringBody_escapedChar line column done c
      (s.flatMap escapedChar ++ '"' :: rest)
    obtain ⟨column₂, hs⟩ := ih column₁ (c :: done)
    refine ⟨column₂, ?_⟩
    rw [List.flatMap_cons, List.append_assoc, hc, hs, List.reverse_cons, List.append_assoc]
    rfl

/-- A string is read whatever its characters are. -/
theorem reads_stringToken (s : String) (rest : List Char) :
    Reads stringToken (stringText s) s rest := by
  have hbody : Reads (fun c => stringBody c.line c.column (some []) c.rest)
      (s.toList.flatMap escapedChar ++ ['"']) s rest := by
    intro line column
    obtain ⟨column', h⟩ := stringBody_escaped line s.toList rest column []
    rw [List.reverse_nil, List.nil_append, String.ofList_toList] at h
    exact ⟨line, column', by rw [List.append_assoc]; exact h⟩
  have htext : stringText s = ['"'] ++ (s.toList.flatMap escapedChar ++ ['"']) := rfl
  rw [htext]
  exact .bind (reads_skip '"' _) hbody

/-! ### What is inside brackets -/

/-- The character may go on with the number that stands before it. -/
def continuesNumber (x : Char) : Bool := x.isDigit || x == '.' || x == 'e' || x == 'E'

/-- A number that stands before the text is over where the text begins. -/
def EndsNumber (text : List Char) : Prop := ∀ x ∈ text.head?, continuesNumber x = false

theorem endsNumber_nil : EndsNumber [] := nofun

theorem endsNumber_cons {x : Char} (h : continuesNumber x = false) (rest : List Char) :
    EndsNumber (x :: rest) := by
  rintro _ ⟨⟩
  exact h

/-- The text begins with a character that neither is blank nor ends an array. -/
def BeginsItem (text : List Char) : Prop :=
  ∃ x rest, text = x :: rest ∧ IsSolid x ∧ x ≠ ']'

section Brackets

variable {ι : Type} {text rest : List Char}

theorem reads_nextItem_end (first : Bool) (rest : List Char) :
    Reads (nextItem first) [] false (']' :: rest) :=
  .look (reads_peek (by decide)) (.pure false _)

theorem reads_nextItem_first (h : BeginsItem text) :
    Reads (nextItem true) [] true (text ++ rest) := by
  obtain ⟨x, text, rfl, hx, hne⟩ := h
  refine .look (reads_peek hx) ?_
  split
  · next heq => exact absurd (Option.some.inj heq) hne
  · exact .pure true _
  · next heq => cases heq

theorem reads_nextItem_more (h : BeginsItem text) :
    Reads (nextItem false) [','] true (text ++ rest) := by
  obtain ⟨x, text, rfl, hx, hne⟩ := h
  refine .look (reads_peek (by decide)) ?_
  refine Reads.after (reads_skip ',' _) (.look (reads_peek hx) ?_)
  split
  · next heq => exact absurd (Option.some.inj heq) hne
  · exact .pure true _
  · next heq => cases heq

/-- A number is over at the comma before the next item, or else at the end. -/
theorem endsNumber_flatMap (write : ι → List Char) (l : List ι) (h : EndsNumber rest) :
    EndsNumber ((l.flatMap fun i => ',' :: write i) ++ rest) := by
  cases l with
  | nil => exact h
  | cons i l => exact endsNumber_cons rfl _

/-- Items are read in as many rounds as there are, and one more for the end. -/
theorem reads_itemsWithin {item : Reader α} {write : ι → List Char} {out : ι → α} {l : List ι}
    (h : ∀ i ∈ l, BeginsItem (write i) ∧
      ∀ rest, EndsNumber rest → Reads item (write i) (out i) rest)
    {rounds : Nat} (hrounds : l.length < rounds) (done : List α) (rest : List Char) :
    Reads (itemsWithin item rounds false done) (l.flatMap fun i => ',' :: write i)
      (done.reverse ++ l.map out) (']' :: rest) := by
  have hend : EndsNumber (']' :: rest) := endsNumber_cons rfl rest
  induction l generalizing rounds done with
  | nil =>
    obtain ⟨rounds, rfl⟩ := Nat.exists_eq_add_one.2 hrounds
    rw [List.map_nil, List.append_nil]
    exact .look (reads_nextItem_end false rest) (.pure _ _)
  | cons i l ih =>
    obtain ⟨rounds, rfl⟩ := Nat.exists_eq_add_one.2 (Nat.zero_lt_of_lt hrounds)
    obtain ⟨hbegins, hitem⟩ := h i List.mem_cons_self
    have hrest := ih (fun j hj => h j (List.mem_cons_of_mem i hj))
      (Nat.lt_of_succ_lt_succ hrounds) (out i :: done)
    rw [List.reverse_cons, List.append_assoc] at hrest
    rw [List.flatMap_cons, List.map_cons, List.cons_append]
    refine .after ?_ (.ite_pos rfl (.bind (hitem _ (endsNumber_flatMap write l hend)) hrest))
    rw [List.append_assoc]
    exact reads_nextItem_more hbegins

theorem join_cons (separator : Char) (t : List Char) (l : List (List Char)) :
    Text.join separator (t :: l) = t ++ l.flatMap (separator :: ·) := by
  induction l generalizing t with
  | nil => exact (List.append_nil t).symm
  | cons t' l ih => simp only [Text.join, ih, List.flatMap_cons, List.cons_append]

theorem length_le_flatMap (write : ι → List Char) (l : List ι) :
    l.length ≤ (l.flatMap fun i => ',' :: write i).length := by
  induction l with
  | nil => exact Nat.le_refl 0
  | cons i l ih =>
    rw [List.flatMap_cons, List.length_append, List.length_cons, List.length_cons]
    omega

/-- The items of an array are read if each of them is. -/
theorem reads_items {item : Reader α} {write : ι → List Char} (out : ι → α) {l : List ι}
    (h : ∀ i ∈ l, BeginsItem (write i) ∧
      ∀ rest, EndsNumber rest → Reads item (write i) (out i) rest)
    (rest : List Char) :
    Reads (items item) (Text.join ',' (l.map write)) (l.map out) (']' :: rest) := by
  refine .look (reads_remaining _) ?_
  cases l with
  | nil => exact .look (reads_nextItem_end true rest) (.pure _ _)
  | cons i l =>
    obtain ⟨hbegins, hitem⟩ := h i List.mem_cons_self
    have hlen := length_le_flatMap write l
    rw [List.map_cons, join_cons, List.flatMap_map]
    refine .look ?_ (.ite_pos rfl (.bind (hitem _ ?_) ?_))
    · rw [List.append_assoc]
      exact reads_nextItem_first hbegins
    · exact endsNumber_flatMap write l (endsNumber_cons rfl rest)
    · -- Each of the other items has a comma, so there are rounds enough.
      refine reads_itemsWithin (fun j hj => h j (List.mem_cons_of_mem i hj)) ?_ [out i] rest
      simp only [List.length_append, List.length_cons]
      omega

theorem reads_nextKey_end (first : Bool) (rest : List Char) :
    Reads (nextKey first) [] none ('\x7d' :: rest) :=
  .look (reads_peek (by decide)) (.pure none _)

theorem reads_nextKey_first (key : String) (rest : List Char) :
    Reads (nextKey true) (stringText key) (some key) rest :=
  .look (reads_peek (x := '"') (by decide)) (.map some (reads_stringToken key rest))

theorem reads_nextKey_more (key : String) (rest : List Char) :
    Reads (nextKey false) (',' :: stringText key) (some key) rest := by
  refine .look (reads_peek (x := ',') (by decide)) ?_
  refine Reads.after (reads_skip ',' _) ?_
  exact .look (reads_peek (x := '"') (by decide)) (.map some (reads_stringToken key rest))

/-- Reading members, given by their keys and the texts of their values, one
    after another leads from one state to another. -/
inductive Gathers (member : σ → String → Reader σ) : List (String × List Char) → σ → σ → Prop
  | nil {s : σ} : Gathers member [] s s
  | cons {key : String} {text : List Char} {l : List (String × List Char)} {s s₁ s₂ : σ} :
    (∀ rest, EndsNumber rest → Reads (member s key) (':' :: text) s₁ rest) →
    Gathers member l s₁ s₂ →
    Gathers member ((key, text) :: l) s s₂

/-- The text of a member. -/
def memberText (m : String × List Char) : List Char := stringText m.1 ++ ':' :: m.2

variable {member : σ → String → Reader σ} {l : List (String × List Char)} {s s' : σ}

theorem Gathers.reads_membersWithin (h : Gathers member l s s') {rounds : Nat}
    (hrounds : l.length < rounds) (rest : List Char) :
    Reads (membersWithin member rounds false s) (l.flatMap fun m => ',' :: memberText m) s'
      ('\x7d' :: rest) := by
  induction h generalizing rounds with
  | nil =>
    obtain ⟨rounds, rfl⟩ := Nat.exists_eq_add_one.2 hrounds
    exact .look (reads_nextKey_end false rest) (.pure _ _)
  | @cons key text l s s₁ s₂ hm _ ih =>
    obtain ⟨rounds, rfl⟩ := Nat.exists_eq_add_one.2 (Nat.zero_lt_of_lt hrounds)
    rw [List.flatMap_cons, memberText, ← List.cons_append, List.append_assoc]
    have hend := endsNumber_flatMap memberText l (endsNumber_cons (x := '\x7d') rfl rest)
    exact .bind (reads_nextKey_more key _)
      (.bind (hm _ hend) (ih (Nat.lt_of_succ_lt_succ hrounds)))

/-- The members of an object are read if each of them is, in turn. -/
theorem Gathers.reads_members (h : Gathers member l s s') (rest : List Char) :
    Reads (members member s) (Text.join ',' (l.map memberText)) s' ('\x7d' :: rest) := by
  refine .look (reads_remaining _) ?_
  generalize hrounds : List.length _ = rounds
  cases h with
  | nil => exact .look (reads_nextKey_end true rest) (.pure _ _)
  | @cons key text l _ s₁ _ hm hl =>
    have hlen := length_le_flatMap memberText l
    rw [List.map_cons, join_cons, List.flatMap_map] at hrounds ⊢
    rw [memberText, List.append_assoc]
    have hend := endsNumber_flatMap memberText l (endsNumber_cons (x := '\x7d') rfl rest)
    refine .bind (reads_nextKey_first key _) (.bind (hm _ hend) (hl.reads_membersWithin ?_ rest))
    simp only [List.length_append, List.length_cons] at hrounds
    omega

theorem reads_arrayEnd (rest : List Char) : Reads arrayEnd [']'] () rest :=
  .look (reads_peek (by decide)) (reads_skip ']' rest)

theorem reads_objectEnd (rest : List Char) : Reads objectEnd ['\x7d'] () rest :=
  .look (reads_peek (by decide)) (reads_skip '\x7d' rest)

/-- What is inside brackets is read between them. -/
theorem Reads.enclosed {body : Reader α} {close : Reader Unit} {a : α} {ending : List Char}
    (h : Reads body text a (ending ++ rest)) (hclose : Reads close ending () rest)
    (opening : Char) : Reads (enclosed body close) (opening :: text ++ ending) a rest := by
  intro line column
  obtain ⟨line₁, column₁, hopen⟩ := reads_skip opening (text ++ (ending ++ rest)) line column
  obtain ⟨line₂, column₂, hbody⟩ := h line₁ column₁
  obtain ⟨line₃, column₃, hend⟩ := hclose line₂ column₂
  refine ⟨line₃, column₃, ?_⟩
  have hadvance :
      Cursor.advance ⟨line, column, symbols (opening :: (text ++ (ending ++ rest)))⟩ =
        ⟨line₁, column₁, symbols (text ++ (ending ++ rest))⟩ := congrArg Prod.snd hopen
  rw [List.append_assoc, List.cons_append]
  simp only [Reader.enclosed, placed, hadvance, hbody, hend]

end Brackets

/-! ### Documents -/

theorem itemsText_eq (l : List Value) :
    itemsText l = (l.flatMap fun v => ',' :: v.text) ++ [']'] := by
  induction l with
  | nil => rfl
  | cons v l ih => rw [itemsText, ih, List.flatMap_cons, List.append_assoc]

theorem membersText_eq (l : List (String × Value)) :
    membersText l = (l.flatMap fun m => ',' :: memberText (m.1, m.2.text)) ++ ['\x7d'] := by
  induction l with
  | nil => rfl
  | cons m l ih =>
    obtain ⟨key, v⟩ := m
    rw [membersText, ih, List.flatMap_cons]
    simp only [memberText, List.cons_append, List.append_assoc]

/-- The text of an array: its items with commas between them, in brackets. -/
theorem text_array (l : List Value) :
    (Value.array l).text = '[' :: Text.join ',' (l.map Value.text) ++ [']'] := by
  cases l with
  | nil => rfl
  | cons v l =>
    rw [Value.text, itemsText_eq, List.map_cons, join_cons, List.flatMap_map]
    simp only [List.cons_append, List.append_assoc]

/-- The text of an object: its members with commas between them, in brackets. -/
theorem text_object (l : List (String × Value)) :
    (Value.object l).text =
      '\x7b' :: Text.join ',' ((l.map fun m => (m.1, m.2.text)).map memberText) ++ ['\x7d'] := by
  cases l with
  | nil => rfl
  | cons m l =>
    obtain ⟨key, v⟩ := m
    rw [Value.text, membersText_eq, List.map_cons, List.map_cons, join_cons, List.flatMap_map,
      List.flatMap_map]
    simp only [memberText, List.cons_append, List.append_assoc]

section Documents

variable {ι : Type} {text rest : List Char} {item : Reader α} {a : α}

/-- Members that are collected are read if their values are. -/
theorem gathers_collect (key : ι → String) {write : ι → List Char} (out : ι → α) {l : List ι}
    (h : ∀ i ∈ l, ∀ rest, EndsNumber rest → Reads item (write i) (out i) rest)
    (done : List (String × α)) :
    Gathers
      (fun (done : List (String × α)) key => do
        colon
        let a ← item
        return (key, a) :: done)
      (l.map fun i => (key i, write i)) done ((l.map fun i => (key i, out i)).reverse ++ done) := by
  induction l generalizing done with
  | nil => exact .nil
  | cons i l ih =>
    rw [List.map_cons, List.map_cons, List.reverse_cons, List.append_assoc, List.singleton_append]
    refine .cons (fun rest hend => ?_) (ih (fun j hj => h j (List.mem_cons_of_mem i hj)) _)
    exact Reads.after (reads_colon _) (.then (h i List.mem_cons_self rest hend) rfl)

/-- What is neither an array nor an object needs no room. -/
theorem reads_value_scalar {x : Char} {v : Value} (hx : IsSolid x)
    (h : Reads (scalar? x) (x :: text) (some v) rest) (room : Nat) :
    Reads (value room) (x :: text) v rest := by
  cases room with
  | zero => exact .look (reads_valueStart hx) (.then h rfl)
  | succ room => exact .look (reads_valueStart hx) (.then h rfl)

theorem reads_scalar_string (s : String) (rest : List Char) :
    Reads (scalar? '"') (stringText s) (some (.string s)) rest :=
  .then (reads_stringToken s rest) rfl

theorem reads_value_string (room : Nat) (s : String) (rest : List Char) :
    Reads (value room) (Value.string s).text (.string s) rest :=
  reads_value_scalar (by decide) (reads_scalar_string s rest) room

theorem reads_value_array {room : Nat} {l : List Value}
    (h : ∀ v ∈ l, BeginsItem v.text ∧
      ∀ rest, EndsNumber rest → Reads (value room) v.text v rest)
    (rest : List Char) : Reads (value (room + 1)) (Value.array l).text (.array l) rest := by
  have hitems := reads_items id h
  rw [List.map_id] at hitems
  rw [text_array]
  refine .look (reads_valueStart (x := '[') (by decide)) (.look (.pure none _) (.ite_pos rfl ?_))
  have hread : Reads (do return Value.array (← items (value room)))
      (Text.join ',' (l.map Value.text)) (.array l) (']' :: rest) := .then (hitems rest) rfl
  exact .enclosed hread (reads_arrayEnd rest) '['

theorem reads_value_object {room : Nat} {l : List (String × Value)}
    (h : ∀ m ∈ l, ∀ rest, EndsNumber rest → Reads (value room) m.2.text m.2 rest)
    (rest : List Char) : Reads (value (room + 1)) (Value.object l).text (.object l) rest := by
  have hgathers := gathers_collect Prod.fst Prod.snd h []
  rw [List.append_nil, List.map_id'' fun _ => rfl] at hgathers
  rw [text_object]
  refine .look (reads_valueStart (x := '\x7b') (by decide))
    (.look (.pure none _) (.ite_neg (by decide) ?_))
  refine .enclosed (.then (hgathers.reads_members rest) ?_) (reads_objectEnd rest) '\x7b'
  rw [List.reverse_reverse]

/-! ### What is expected -/

theorem reads_string (s : String) (rest : List Char) : Reads string (stringText s) s rest :=
  .look (reads_valueStart (x := '"') (by decide)) (.ite_pos rfl (reads_stringToken s rest))

/-- A field that was not read before is read after its colon. -/
theorem reads_field (name : String) (h : Reads item text a rest) :
    Reads (field name none item) (':' :: text) (some a) rest :=
  .ite_neg Bool.false_ne_true (.after (reads_colon _) (.map some h))

theorem reads_array {room : Nat} {item : Nat → Reader α} {write : ι → List Char} {out : ι → α}
    {l : List ι}
    (h : ∀ i ∈ l, BeginsItem (write i) ∧
      ∀ rest, EndsNumber rest → Reads (item room) (write i) (out i) rest)
    (rest : List Char) :
    Reads (array (room + 1) item) ('[' :: Text.join ',' (l.map write) ++ [']']) (l.map out)
      rest := by
  refine .look (reads_valueStart (x := '[') (by decide)) (.ite_pos rfl ?_)
  exact .enclosed (reads_items out h rest) (reads_arrayEnd rest) '['

theorem reads_map {room : Nat} {item : Nat → Reader α} (key : ι → String)
    (write : ι → List Char) (out : ι → α) {l : List ι}
    (h : ∀ i ∈ l, ∀ rest, EndsNumber rest → Reads (item room) (write i) (out i) rest)
    (rest : List Char) :
    Reads (map (room + 1) item)
      ('\x7b' :: Text.join ',' ((l.map fun i => (key i, write i)).map memberText) ++ ['\x7d'])
      (l.map fun i => (key i, out i)) rest := by
  have hgathers := gathers_collect key out h []
  rw [List.append_nil] at hgathers
  refine .look (reads_valueStart (x := '\x7b') (by decide)) (.ite_pos rfl ?_)
  refine .enclosed (.then (hgathers.reads_members rest) ?_) (reads_objectEnd rest) '\x7b'
  rw [List.reverse_reverse]

/-- A record is read from its named fields. -/
theorem reads_record {room : Nat} {expected : String} {named ordered : Nat → Reader α}
    (h : Reads (named room) text a ('\x7d' :: rest)) :
    Reads (record (room + 1) expected named ordered) ('\x7b' :: text ++ ['\x7d']) a rest := by
  refine .look (reads_valueStart (x := '\x7b') (by decide)) (.ite_pos rfl ?_)
  exact .enclosed h (reads_objectEnd rest) '\x7b'

end Documents

/-- A text that is read as a whole is what it is read as. -/
theorem Reads.runChecked {ε : Type} {r : Reader α} {s : String} {a : α}
    (h : Reads r s.toList a []) (ofError : Error → ε) (check : α → Except ε β) :
    r.runChecked ofError check s = check a := by
  obtain ⟨line, column, hr⟩ := h 1 0
  rw [List.append_nil] at hr
  have hend : (atEnd ⟨line, column, symbols []⟩).1 = .ok () := rfl
  rw [Reader.runChecked, Cursor.start, Cursor.first, hr]
  dsimp only
  cases check a with
  | error e => rfl
  | ok b => rw [hend]

end LoginGate.Json.Reader
