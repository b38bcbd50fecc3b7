import LoginGate.Http.Charset
import LoginGate.Proofs.Http.MediaType
import LoginGate.Proofs.Text.Utf16

/-!
# What bodies spell

A body spells a text if its bytes are those of the text: in the form of Unicode whose
mark they begin with, or else in the charset that the type of the body names, or in
UTF-8 if it names none that is known (`Spells`). A text is made of the bytes that spell
it (`Spells.bodyText_eq`), and of no others where nothing is replaced
(`bodyText_eq_iff`).

* `UnicodeForm.decode_eq_iff`: the same for a form of Unicode;
* `Charset.label?_eq_some_iff`: the charset that a type names.
-/

namespace LoginGate.Http

open Text (Symbol replacement)

variable {headers : List Header} {bytes : List UInt8} {text name : String}
  {label : List Char} {form : UnicodeForm}

/-! ### Forms of Unicode -/

namespace UnicodeForm

theorem symbols_eq_iff : form.symbols bytes = Text.symbols text.toList ↔
    bytes = form.encode text := by
  cases form with
  | utf8 => exact Text.utf8Symbols_eq_iff
  | utf16 order => exact Text.utf16Symbols_eq_iff order

/-- A text comes from its own bytes. -/
theorem decode_encode (form : UnicodeForm) (text : String) :
    (Charset.unicode form).decode (form.encode text) = text := by
  rw [Charset.decode, symbols_eq_iff.2 rfl, Text.shownText_symbols]

/-- A text in which nothing is replaced comes from no others. -/
theorem decode_eq_iff (h : replacement ∉ text.toList) :
    (Charset.unicode form).decode bytes = text ↔ bytes = form.encode text := by
  rw [Charset.decode, Text.shownText_eq_iff h, symbols_eq_iff]

theorem mem_all (form : UnicodeForm) : form ∈ all := by
  rcases form with _ | _ | _ <;> decide

/-- No two marks begin alike. -/
theorem ofMark?_append (form : UnicodeForm) (rest : List UInt8) :
    ofMark? (form.mark ++ rest) = some form := by
  rcases form with _ | _ | _ <;> rfl

theorem ofMark?_eq_some_iff :
    ofMark? bytes = some form ↔ ∃ rest, bytes = form.mark ++ rest := by
  constructor
  · intro h
    have hmark : form.mark.isPrefixOf bytes = true :=
      List.find?_some (p := fun form : UnicodeForm => form.mark.isPrefixOf bytes) h
    obtain ⟨rest, hrest⟩ := List.isPrefixOf_iff_prefix.1 hmark
    exact ⟨rest, hrest.symm⟩
  · rintro ⟨rest, rfl⟩
    exact ofMark?_append form rest

/-- No two forms have a name in common. -/
theorem ofLabel?_eq_some_iff : ofLabel? name = some form ↔ name ∈ form.labels := by
  constructor
  · intro h
    have hlabel : form.labels.contains name = true :=
      List.find?_some (p := fun form : UnicodeForm => form.labels.contains name) h
    exact List.contains_iff_mem.1 hlabel
  · intro h
    have hall : ∀ form ∈ all, ∀ name ∈ form.labels, ofLabel? name = some form := by decide
    exact hall form form.mem_all name h

theorem ofLabel?_eq_none_iff : ofLabel? name = none ↔ ∀ form : UnicodeForm, name ∉ form.labels := by
  simp only [Option.eq_none_iff_forall_ne_some, ne_eq, ofLabel?_eq_some_iff]

end UnicodeForm

/-! ### Names of charsets -/

/-- The type of the body names a charset: in the first of its parameters that is
    called so. -/
inductive NamesCharset (headers : List Header) : String → Prop
  | mk {s kind subtype : List Char} {before after : List Parameter} {p : Parameter} :
    Header.firstText? "content-type" headers = some s →
    MediaType.Written s kind subtype (before ++ p :: after) →
    inSmallLetters p.name = "charset" → (∀ q ∈ before, inSmallLetters q.name ≠ "charset") →
    NamesCharset headers (inSmallLetters (Text.trim p.value))

namespace Charset

/-- The first parameter that is called like the charset is the one that counts. -/
theorem parameter?_eq_some_iff {t : MediaType} {name : String} {value : List Char} :
    t.parameter? name = some value ↔ ∃ before p after, t.parameters = before ++ p :: after ∧
      inSmallLetters p.name = name ∧ (∀ q ∈ before, inSmallLetters q.name ≠ name) ∧
      p.value = value := by
  rw [MediaType.parameter?, Option.map_eq_some_iff]
  constructor
  · rintro ⟨p, hp, rfl⟩
    obtain ⟨hname, before, after, hsplit, hbefore⟩ := List.find?_eq_some_iff_append.1 hp
    exact ⟨before, p, after, hsplit, by simpa using hname, by simpa using hbefore, rfl⟩
  · rintro ⟨before, p, after, hsplit, hname, hbefore, rfl⟩
    refine ⟨p, List.find?_eq_some_iff_append.2 ⟨by simpa using hname, before, after, hsplit, ?_⟩, rfl⟩
    simpa using hbefore

/-- The name of a charset is read where the type names one. -/
theorem namesCharset_iff : NamesCharset headers name ↔
    ∃ label, label? headers = some label ∧ inSmallLetters (Text.trim label) = name := by
  simp only [label?, Option.bind_eq_bind, Option.bind_eq_some_iff]
  constructor
  · rintro ⟨hs, hwritten, hname, hbefore⟩
    exact ⟨_, ⟨_, ⟨_, hs, MediaType.parse?_eq_some_iff.2 ⟨_, _, _, hwritten, rfl⟩⟩,
      parameter?_eq_some_iff.2 ⟨_, _, _, rfl, hname, hbefore, rfl⟩⟩, rfl⟩
  · rintro ⟨label, ⟨t, ⟨s, hs, ht⟩, hlabel⟩, rfl⟩
    obtain ⟨kind, subtype, l, hwritten, rfl⟩ := MediaType.parse?_eq_some_iff.1 ht
    obtain ⟨before, p, after, rfl, hname, hbefore, rfl⟩ := parameter?_eq_some_iff.1 hlabel
    exact .mk hs hwritten hname hbefore

variable [Charsets]

/-- No charset has the name. -/
def Unknown (name : String) : Prop :=
  (∀ form : UnicodeForm, name ∉ form.labels) ∧ Charsets.decoder? name = none

theorem ofLabel?_of_mem (h : inSmallLetters (Text.trim label) ∈ form.labels) :
    ofLabel? label = some (.unicode form) := by
  simp only [ofLabel?, UnicodeForm.ofLabel?_eq_some_iff.2 h]

theorem ofLabel?_of_not_mem
    (h : ∀ form : UnicodeForm, inSmallLetters (Text.trim label) ∉ form.labels) :
    ofLabel? label = (Charsets.decoder? (inSmallLetters (Text.trim label))).map .other := by
  simp only [ofLabel?, UnicodeForm.ofLabel?_eq_none_iff.2 h]

/-- A body is in the form of Unicode that its type names. -/
theorem ofHeaders_of_form (h : NamesCharset headers name) (hform : name ∈ form.labels) :
    ofHeaders headers = .unicode form := by
  obtain ⟨label, hlabel, rfl⟩ := namesCharset_iff.1 h
  rw [ofHeaders, hlabel, Option.bind_some, ofLabel?_of_mem hform]
  rfl

/-- A body is in the other charset that its type names. -/
theorem ofHeaders_of_other (h : NamesCharset headers name)
    (hnone : ∀ form : UnicodeForm, name ∉ form.labels) {decode : List UInt8 → String}
    (hdecode : Charsets.decoder? name = some decode) : ofHeaders headers = .other decode := by
  obtain ⟨label, hlabel, rfl⟩ := namesCharset_iff.1 h
  rw [ofHeaders, hlabel, Option.bind_some, ofLabel?_of_not_mem hnone, hdecode]
  rfl

/-- A body is in UTF-8 if its type names no charset that is known. -/
theorem ofHeaders_of_unknown (h : ∀ name, NamesCharset headers name → Unknown name) :
    ofHeaders headers = .unicode .utf8 := by
  rw [ofHeaders]
  cases hlabel : label? headers with
  | none => rfl
  | some label =>
    obtain ⟨hnone, hdecode⟩ := h _ (namesCharset_iff.2 ⟨label, hlabel, rfl⟩)
    rw [Option.bind_some, ofLabel?_of_not_mem hnone, hdecode]
    rfl

end Charset

/-! ### Bodies -/

/-- The bytes have no mark of Unicode. -/
def Unmarked (bytes : List UInt8) : Prop :=
  ∀ (form : UnicodeForm) rest, bytes ≠ form.mark ++ rest

theorem unmarked_iff : Unmarked bytes ↔ UnicodeForm.ofMark? bytes = none := by
  simp only [Unmarked, Option.eq_none_iff_forall_ne_some, ne_eq, UnicodeForm.ofMark?_eq_some_iff,
    not_exists]

section Bodies

variable [Charsets]

/-- The bytes spell the text in a body with the headers. -/
inductive Spells (headers : List Header) : List UInt8 → String → Prop
  /-- They are in the form of Unicode whose mark they begin with. -/
  | marked (form : UnicodeForm) (text : String) :
    Spells headers (form.mark ++ form.encode text) text
  /-- They are in the form of Unicode that the type of the body names. -/
  | named {name : String} {form : UnicodeForm} {text : String} :
    NamesCharset headers name → name ∈ form.labels → Unmarked (form.encode text) →
    Spells headers (form.encode text) text
  /-- They are in the other charset that the type of the body names. -/
  | other {name : String} {decode : List UInt8 → String} {bytes : List UInt8} :
    NamesCharset headers name → (∀ form : UnicodeForm, name ∉ form.labels) →
    Charsets.decoder? name = some decode → Unmarked bytes → Spells headers bytes (decode bytes)
  /-- They are in UTF-8, as no charset that is known is named. -/
  | unnamed {text : String} :
    (∀ name, NamesCharset headers name → Charset.Unknown name) → Unmarked (Text.utf8 text) →
    Spells headers (Text.utf8 text) text

theorem bodyText_of_unmarked (h : Unmarked bytes) :
    bodyText headers bytes = (Charset.ofHeaders headers).decode bytes := by
  rw [bodyText, unmarked_iff.1 h]

theorem bodyText_of_mark (form : UnicodeForm) (rest : List UInt8) :
    bodyText headers (form.mark ++ rest) = (Charset.unicode form).decode rest := by
  rw [bodyText, UnicodeForm.ofMark?_append]
  dsimp only
  rw [List.drop_left]

/-- Bytes are made the text that they spell. -/
theorem Spells.bodyText_eq (h : Spells headers bytes text) : bodyText headers bytes = text := by
  cases h with
  | marked form => rw [bodyText_of_mark, form.decode_encode]
  | @named _ form _ hname hform hmark =>
    rw [bodyText_of_unmarked hmark, Charset.ofHeaders_of_form hname hform, form.decode_encode]
  | other hname hnone hdecode hmark =>
    rw [bodyText_of_unmarked hmark, Charset.ofHeaders_of_other hname hnone hdecode]
    rfl
  | unnamed hnone hmark =>
    rw [bodyText_of_unmarked hmark, Charset.ofHeaders_of_unknown hnone]
    exact UnicodeForm.utf8.decode_encode text

/-- Where nothing is replaced, the bytes spell the text that they are made. -/
theorem bodyText_eq_iff (h : replacement ∉ text.toList) :
    bodyText headers bytes = text ↔ Spells headers bytes text := by
  refine ⟨fun htext => ?_, Spells.bodyText_eq⟩
  -- A mark decides, and without one the name, if it is that of a charset.
  by_cases hmark : Unmarked bytes
  · rw [bodyText_of_unmarked hmark] at htext
    by_cases hnone : ∀ name, NamesCharset headers name → Charset.Unknown name
    · rw [Charset.ofHeaders_of_unknown hnone, UnicodeForm.decode_eq_iff h] at htext
      subst htext
      exact .unnamed hnone hmark
    · obtain ⟨name, hname, hknown⟩ : ∃ name, NamesCharset headers name ∧
          ¬Charset.Unknown name := by simpa using hnone
      by_cases hform : ∃ form : UnicodeForm, name ∈ form.labels
      · obtain ⟨form, hform⟩ := hform
        rw [Charset.ofHeaders_of_form hname hform, UnicodeForm.decode_eq_iff h] at htext
        subst htext
        exact .named hname hform hmark
      · have hother := not_exists.1 hform
        obtain ⟨decode, hdecode⟩ := Option.ne_none_iff_exists'.1 fun h => hknown ⟨hother, h⟩
        rw [Charset.ofHeaders_of_other hname hother hdecode] at htext
        subst htext
        exact .other hname hother hdecode hmark
  · obtain ⟨form, rest, rfl⟩ : ∃ form : UnicodeForm, ∃ rest, bytes = form.mark ++ rest := by
      simpa [Unmarked] using hmark
    rw [bodyText_of_mark, UnicodeForm.decode_eq_iff h] at htext
    exact htext ▸ .marked form text

end Bodies

end LoginGate.Http
