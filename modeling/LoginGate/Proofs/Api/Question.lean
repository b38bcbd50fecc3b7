import LoginGate.Api.Decision
import LoginGate.Proofs.Json.Reading
import LoginGate.Proofs.Text.Utf8

/-!
# Requests that carry a question

A question can be asked in many ways; the one way for every question is to post
its JSON form. The service reads such a request as the question, whatever the
texts in it are, as long as the body is not longer than what is read
(`ofRequest?_request`).
-/

namespace LoginGate.Api.Question

open Http Json Json.Reader

/-- The members of the JSON form next to the principal. -/
def settingMember (q : Question) : List (String × Value) :=
  match q.sessionLimit with
  | some setting => [("sessionLimit", .string setting)]
  | none => []

/-- The JSON form of a question. A setting that is not given is left out. -/
def toJson (q : Question) : Value := .object (("principal", .string q.principal) :: q.settingMember)

/-- The headers of a request whose body is a JSON text. -/
def jsonHeaders : List Header := [.ofText "content-type" "application/json"]

theorem mediaType_jsonHeaders : (Header.firstText? "content-type" jsonHeaders).bind
    MediaType.parse? = some ⟨"application", "json", none, []⟩ := by decide +kernel

/-- The request that posts the JSON form of a question. -/
def request (q : Question) : Request :=
  ⟨.post, "/v1/session-limit", jsonHeaders, Text.utf8 q.toJson.render⟩

theorem reads_optional_string (s : String) (rest : List Char) :
    Reads (optional string) (stringText s) (some s) rest :=
  .look (reads_peek (x := '"') (by decide))
    (.ite_neg (by decide) (.map some (reads_string s rest)))

/-- A question is read as it is written. -/
theorem reads_reader (q : Question) (rest : List Char) : Reads reader q.toJson.text q rest := by
  have hprincipal (rest : List Char) (_ : EndsNumber rest) :
      Reads (fieldReader ⟨none, none⟩ "principal") (':' :: (Value.string q.principal).text)
        ⟨some q.principal, none⟩ rest :=
    .then (reads_field "principal" (reads_string q.principal rest)) rfl
  obtain ⟨setting, hgathers, hsetting⟩ : ∃ setting, Gathers fieldReader
      (q.settingMember.map fun m => (m.1, m.2.text)) ⟨some q.principal, none⟩
        ⟨some q.principal, setting⟩ ∧ setting.getD none = q.sessionLimit := by
    rw [settingMember]
    split
    · next s hs =>
      have hfield (rest : List Char) := reads_field "sessionLimit" (reads_optional_string s rest)
      exact ⟨_, .cons (fun rest _ => .then (hfield rest) rfl) .nil, hs.symm⟩
    · next hs => exact ⟨none, .nil, hs.symm⟩
  have hnamed : Reads (namedFields 126)
      (Text.join ',' (((("principal", .string q.principal) :: q.settingMember).map
        fun m => (m.1, m.2.text)).map memberText)) q ('\x7d' :: rest) := by
    refine .then ((Gathers.cons hprincipal hgathers).reads_members rest) ?_
    simp only [required, hsetting]
    rfl
  rw [toJson, text_object, reader, levels]
  exact reads_record hnamed

/-- A request that posts a question carries it, if its body is read at all. -/
theorem ofRequest?_request {q : Question} (h : q.request.body.length ≤ bodyLimit) :
    ofRequest? q.request = some q := by
  obtain ⟨line, column, hread⟩ := q.reads_reader [] 1 0
  rw [List.append_nil] at hread
  have hparse : parse? q.request.body = some q := by
    rw [parse?, request, Text.utf8Symbols_utf8, Value.render, String.toList_ofList, Cursor.first,
      hread]
    rfl
  rw [ofRequest?, request, mediaType_jsonHeaders, Option.bind_eq_bind, Option.bind_some,
    if_pos ⟨rfl, h⟩]
  exact hparse

/-- Bytes of no character may follow the question, or stand in a string that is passed
    over. -/
example : parse? (Text.utf8 "\x7b\"principal\":\"alice\",\"note\":\"" ++ 0xff ::
    Text.utf8 "\"\x7d" ++ [0xfe]) = some ⟨"alice", none⟩ := by decide +kernel

end LoginGate.Api.Question
