import LoginGate.Proofs.Http.Charset
import LoginGate.Proofs.Text.Numeral
import LoginGate.Registry.Analytics

/-!
# What the analytics service replies

A question is one exchange with the service, or none if nothing can be asked for
at the address (`ask_eq`). Of all replies, only a complete answer with the status
200 says anything (`Reply.Says`). It is a count if its bytes spell a numeral
(`Reply.Counts`), in whatever charset: with or without a plus sign, with any leading
zeros and any blanks around it, of a number that fits a word of 64 bits.

* `replyText_eq_ok_iff`: what is read of a reply;
* `countOf_eq_ok_iff`: the replies that there is a number for;
* `count_eq`, `count_eq_ok_iff`: the counts of a registry.
-/

namespace LoginGate

/-- The text is a numeral for the number, with blanks around it. -/
def Text.IsCount (s : List Char) (n : Nat) : Prop :=
  ∃ before ds after, s = before ++ ds ++ after ∧
    (∀ c ∈ before, Text.isBlank c = true) ∧ (∀ c ∈ after, Text.isBlank c = true) ∧
    Text.Unsigned ds n ∧ n < 2 ^ 64

/-- A numeral has no replacement character. -/
theorem Text.IsCount.replacement_not_mem {s : List Char} {n : Nat} (h : Text.IsCount s n) :
    Text.replacement ∉ s := by
  obtain ⟨before, ds, after, rfl, hbefore, hafter, hds, -⟩ := h
  intro hmem
  rcases List.mem_append.1 hmem with hmem | hmem
  · rcases List.mem_append.1 hmem with hmem | hmem
    · exact absurd (hbefore _ hmem) (by decide)
    · cases hds with
      | bare hds => exact absurd (hds.all _ hmem) (by decide)
      | plus hds =>
        rcases List.mem_cons.1 hmem with heq | hmem
        · exact absurd heq (by decide)
        · exact absurd (hds.all _ hmem) (by decide)
  · exact absurd (hafter _ hmem) (by decide)

namespace Http.Reply

variable [Charsets]

/-- The reply is a complete answer with the status 200 and the text for its body. -/
def Says (reply : Reply) (text : String) : Prop :=
  ∃ headers bytes, reply = .answer ⟨200, headers, some bytes⟩ ∧ text = bodyText headers bytes

/-- The reply is a complete answer with the status 200, and its body spells a numeral
    for the number. -/
def Counts (reply : Reply) (n : Nat) : Prop :=
  ∃ headers bytes text, reply = .answer ⟨200, headers, some bytes⟩ ∧
    Spells headers bytes text ∧ Text.IsCount text.toList n

end Http.Reply

namespace Analytics

variable {α σ : Type} [Http.Charsets] (a : Analytics) (transport : Http.Transport σ) (p : Principal)
  {url : Url} {reply : Http.Reply} {text : String} {n : Nat}

/-! ### Questions -/

/-- What is sent to ask a question at a URL. -/
def inquiry (url : Url) (question : Json.Value) : Http.Inquiry :=
  ⟨.post, { Http.shownAddress url with fragment := none },
    Http.credentialHeaders url ++ a.headers, question.render⟩

/-- The text that is read of a reply. -/
def replyText (url : Url) : Http.Reply → Except RegistryError String
  | .silence => .error (.unavailable ("request to " ++ url.text ++ " failed"))
  | .answer answer => answerText url (.ok answer)

/-- A question is one exchange, if anything can be asked for at the URL. -/
theorem ask_eq (url : Url) (question : Json.Value) (read : String → Except RegistryError α)
    (s : σ) : a.ask transport url question read s =
      if Http.admitsInquiries (Http.shownAddress url) then
        ((replyText url (transport (a.inquiry url question) s).1).bind read,
          (transport (a.inquiry url question) s).2)
      else (.error (.unavailable ("request to " ++ url.text ++ " failed")), s) := by
  rw [ask, Http.inquire]
  dsimp only [inquiry]
  split
  · generalize transport _ s = r
    obtain ⟨_ | answer, s'⟩ := r <;> rfl
  · rfl

theorem replyText_eq_ok_iff : replyText url reply = .ok text ↔ reply.Says text := by
  constructor
  · intro h
    cases reply with
    | silence => cases h
    | answer answer =>
      obtain ⟨status, headers, body⟩ := answer
      rw [replyText, answerText.eq_def] at h
      dsimp only at h
      split at h
      · cases h
      · next hstatus =>
        obtain rfl := not_not.1 hstatus
        cases body with
        | none => cases h
        | some bytes => exact ⟨headers, bytes, rfl, (Except.ok.inj h).symm⟩
  · rintro ⟨headers, bytes, rfl, rfl⟩
    rfl

/-- There is no text without a reply that says it. -/
theorem bind_replyText_eq_ok_iff {read : String → Except RegistryError α} {x : α} :
    (replyText url reply).bind read = .ok x ↔ ∃ text, reply.Says text ∧ read text = .ok x := by
  have htext (text : String) : reply.Says text ↔ replyText url reply = .ok text :=
    replyText_eq_ok_iff.symm
  simp only [htext]
  cases replyText url reply <;> simp [Except.bind]

/-! ### Counts -/

/-- What is sent to count the sessions of a principal. -/
def countInquiry : Http.Inquiry := a.inquiry a.countUrl (countQuestion p)

/-- Whether anything can be asked for at the address of the counts. -/
def asksForCounts : Bool := Http.admitsInquiries (Http.shownAddress a.countUrl)

/-- What becomes of a reply to that. -/
def countOf (reply : Http.Reply) : Except RegistryError Nat :=
  (replyText a.countUrl reply).bind readCount

omit [Http.Charsets] in
theorem readCount_eq_ok_iff : readCount text = .ok n ↔ Text.IsCount text.toList n := by
  have hread : readCount text = .ok n ↔
      Text.unsignedUpTo? countBound (Text.trim text.toList) = some n := by
    rw [readCount]
    cases Text.unsignedUpTo? countBound (Text.trim text.toList) <;> simp
  have hbound : n ≤ countBound ↔ n < 2 ^ 64 := by
    simp only [countBound, Word.size64]
    omega
  rw [hread, Text.unsignedUpTo?_eq_some_iff, Text.unsigned_trim_iff, hbound, Text.IsCount]
  simp only [← exists_and_right, and_assoc]

/-- There is a number for a reply exactly if the reply is a count. -/
theorem countOf_eq_ok_iff : a.countOf reply = .ok n ↔ reply.Counts n := by
  simp only [countOf, bind_replyText_eq_ok_iff, readCount_eq_ok_iff]
  constructor
  · rintro ⟨text, ⟨headers, bytes, hreply, htext⟩, hcount⟩
    have hspells := (Http.bodyText_eq_iff hcount.replacement_not_mem).1 htext.symm
    exact ⟨headers, bytes, text, hreply, hspells, hcount⟩
  · rintro ⟨headers, bytes, text, hreply, hspells, hcount⟩
    have htext := (Http.bodyText_eq_iff hcount.replacement_not_mem).2 hspells
    exact ⟨text, ⟨headers, bytes, hreply, htext.symm⟩, hcount⟩

/-- The sessions of a principal are counted in one exchange, if anything can be
    asked for at the address. -/
theorem count_eq (s : σ) : (a.registry transport).count p s =
    if a.asksForCounts then
      (a.countOf (transport (a.countInquiry p) s).1, (transport (a.countInquiry p) s).2)
    else (.error (.unavailable ("request to " ++ a.countUrl.text ++ " failed")), s) :=
  a.ask_eq transport a.countUrl (countQuestion p) readCount s

/-- A registry gives a number exactly if the reply to its question is that count. -/
theorem count_eq_ok_iff (s : σ) : ((a.registry transport).count p s).1 = .ok n ↔
    a.asksForCounts = true ∧ (transport (a.countInquiry p) s).1.Counts n := by
  rw [count_eq]
  split
  · next h => simp [h, countOf_eq_ok_iff]
  · next h => simp [h]

end Analytics

end LoginGate
