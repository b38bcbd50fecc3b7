import LoginGate.Telemetry.Metadata

/-!
# Lists of headers are read back

A list of headers is written by putting an equals sign between the key and the
value of each header, with any blanks around both of them, and commas between the
segments. Segments without an equals sign may stand between the others, and the
headers may stand in any order (`Renders`).

* `parseHeaders_render`: what is written is read back as it was, and in any text the
  last segment with a key gives its value.

The value ends at the comma and nowhere else, so it may hold more equals signs.
-/

namespace LoginGate.Telemetry

/-! ### Segments -/

/-- A text with nothing but blanks around it. -/
def IsPadded (padded text : List Char) : Prop :=
  ∃ before after, padded = before ++ text ++ after ∧ (∀ c ∈ before, Text.isBlank c = true) ∧
    ∀ c ∈ after, Text.isBlank c = true

/-- A key and a value around the first equals sign of a segment. The blanks around
    both of them are not theirs. -/
def IsPair (segment : List Char) (key value : String) : Prop :=
  ∃ left right, segment = left ++ '=' :: right ∧ '=' ∉ left ∧
    (IsPadded left key.toList ∧ Text.IsTrimmed key.toList) ∧
      IsPadded right value.toList ∧ Text.IsTrimmed value.toList

section Segments

variable {s text left right segment : List Char} {key value : String} {c : Char}

/-- Trimming takes the padding away, and nothing else does. -/
theorem trim_eq_iff : Text.trim s = text ↔ IsPadded s text ∧ Text.IsTrimmed text := by
  constructor
  · rintro rfl
    exact ⟨Text.exists_blanks_around s, Text.isTrimmed_trim s⟩
  · rintro ⟨⟨before, after, rfl, hbefore, hafter⟩, htrimmed⟩
    exact htrimmed.trim_append hbefore hafter

theorem ofList_trim_eq_iff : String.ofList (Text.trim s) = value ↔
    IsPadded s value.toList ∧ Text.IsTrimmed value.toList := by
  rw [← trim_eq_iff, ← String.toList_inj, String.toList_ofList]

/-- A character that is no blank is in the padded text only if it is in the text. -/
theorem IsPadded.not_mem (h : IsPadded s text) (hc : Text.isBlank c = false) (htext : c ∉ text) :
    c ∉ s := by
  obtain ⟨before, after, rfl, hbefore, hafter⟩ := h
  intro hmem
  have hblank : ∀ l : List Char, (∀ c ∈ l, Text.isBlank c = true) → c ∉ l := by
    intro l hl hm
    exact Bool.false_ne_true (hc.symm.trans (hl c hm))
  rcases List.mem_append.1 hmem with hmem | hmem
  · rcases List.mem_append.1 hmem with hmem | hmem
    · exact hblank before hbefore hmem
    · exact htext hmem
  · exact hblank after hafter hmem

/-- A segment is read as the key and the value in it. -/
theorem segment?_eq_some_iff : segment? segment = some (key, value) ↔ IsPair segment key value := by
  rw [segment?, Option.map_eq_some_iff]
  constructor
  · rintro ⟨⟨left, right⟩, hcut, heq⟩
    obtain ⟨hkey, hvalue⟩ := Prod.mk.inj heq
    obtain ⟨hsegment, hleft⟩ := Text.cut?_eq_some.1 hcut
    exact ⟨left, right, hsegment, hleft, ofList_trim_eq_iff.1 hkey, ofList_trim_eq_iff.1 hvalue⟩
  · rintro ⟨left, right, hsegment, hleft, hkey, hvalue⟩
    refine ⟨(left, right), Text.cut?_eq_some.2 ⟨hsegment, hleft⟩, Prod.ext ?_ ?_⟩
    · exact ofList_trim_eq_iff.2 hkey
    · exact ofList_trim_eq_iff.2 hvalue

theorem segment?_eq_none (h : '=' ∉ segment) : segment? segment = none := by
  rcases hsegment : segment? segment with _ | ⟨key, value⟩
  · rfl
  · obtain ⟨left, right, rfl, -⟩ := segment?_eq_some_iff.1 hsegment
    exact absurd (List.mem_append_right left List.mem_cons_self) h

end Segments

/-! ### Written lists -/

/-- A header that can be written: no comma is in it and no equals sign in its key,
    and it has no blanks around its key or its value. -/
structure IsHeader (key value : String) : Prop where
  /-- No comma is in the key. -/
  comma_not_mem_key : ',' ∉ key.toList
  /-- No equals sign is in the key. -/
  equals_not_mem_key : '=' ∉ key.toList
  /-- There are no blanks around the key. -/
  key_trimmed : Text.IsTrimmed key.toList
  /-- No comma is in the value. -/
  comma_not_mem_value : ',' ∉ value.toList
  /-- There are no blanks around the value. -/
  value_trimmed : Text.IsTrimmed value.toList

/-- The segments that headers are written as, in the order of the headers. -/
inductive Renders : List (String × String) → List (List Char) → Prop
  /-- There is nothing left. -/
  | nil : Renders [] []
  /-- A header is next. -/
  | header {key value : String} {left right : List Char} {entries : List (String × String)}
    {segments : List (List Char)} (hkey : IsPadded left key.toList)
    (hvalue : IsPadded right value.toList) (h : Renders entries segments) :
    Renders ((key, value) :: entries) ((left ++ '=' :: right) :: segments)
  /-- A segment without an equals sign is next, which is no header. -/
  | other {segment : List Char} {entries : List (String × String)} {segments : List (List Char)}
    (hcomma : ',' ∉ segment) (hequals : '=' ∉ segment) (h : Renders entries segments) :
    Renders entries (segment :: segments)

namespace Renders

variable {entries : List (String × String)} {segments : List (List Char)}

/-- The commas between the segments are the only ones. -/
theorem comma_not_mem (h : Renders entries segments) (hheader : ∀ e ∈ entries, IsHeader e.1 e.2) :
    ∀ segment ∈ segments, ',' ∉ segment := by
  induction h with
  | nil => exact nofun
  | header hkey hvalue _ ih =>
    obtain ⟨hfirst, hrest⟩ := List.forall_mem_cons.1 hheader
    refine List.forall_mem_cons.2 ⟨?_, ih hrest⟩
    have hleft := hkey.not_mem (by decide) hfirst.comma_not_mem_key
    have hright := hvalue.not_mem (by decide) hfirst.comma_not_mem_value
    rw [List.mem_append, List.mem_cons]
    rintro (hmem | hmem | hmem)
    · exact hleft hmem
    · exact absurd hmem (by decide)
    · exact hright hmem
  | other hcomma _ _ ih => exact List.forall_mem_cons.2 ⟨hcomma, ih hheader⟩

theorem filterMap_eq (h : Renders entries segments) (hheader : ∀ e ∈ entries, IsHeader e.1 e.2) :
    segments.filterMap segment? = entries := by
  induction h with
  | nil => rfl
  | header hkey hvalue _ ih =>
    obtain ⟨hfirst, hrest⟩ := List.forall_mem_cons.1 hheader
    have hleft := hkey.not_mem (by decide) hfirst.equals_not_mem_key
    rw [List.filterMap_cons_some (segment?_eq_some_iff.2 ⟨_, _, rfl, hleft,
      ⟨hkey, hfirst.key_trimmed⟩, hvalue, hfirst.value_trimmed⟩), ih hrest]
  | other _ hequals _ ih => rw [List.filterMap_cons_none (segment?_eq_none hequals), ih hheader]

end Renders

theorem parseHeaders_join {segments : List (List Char)} (h : ∀ segment ∈ segments, ',' ∉ segment) :
    parseHeaders (String.ofList (Text.join ',' segments)) =
      Dictionary.ofList (segments.filterMap segment?) := by
  rw [parseHeaders, String.toList_ofList]
  rcases segments with _ | ⟨segment, segments⟩
  · rfl
  · rw [Text.pieces_join (List.cons_ne_nil _ _) h]

theorem entries_ofList {entries : List (String × String)} (h : (entries.map Prod.fst).Nodup) :
    (Dictionary.ofList entries).entries = entries :=
  congrArg Dictionary.entries (Dictionary.ofList_entries ⟨entries, h⟩)

/-- The last segment with a key, among others. -/
theorem isLast_filterMap_iff {segments : List (List Char)} {key value : String} :
    Dictionary.IsLast (segments.filterMap segment?) key value ↔
      ∃ before segment after, segments = before ++ segment :: after ∧ IsPair segment key value ∧
        ∀ s ∈ after, ∀ v, ¬IsPair s key v := by
  have hkeys (after : List (List Char)) : key ∉ (after.filterMap segment?).map Prod.fst ↔
      ∀ s ∈ after, ∀ v, ¬IsPair s key v := by
    simp only [← segment?_eq_some_iff, List.mem_map, List.mem_filterMap]
    constructor
    · intro h s hs v hv
      exact h ⟨(key, v), ⟨s, hs, hv⟩, rfl⟩
    · rintro h ⟨⟨_, v⟩, ⟨s, hs, hv⟩, rfl⟩
      exact h s hs v hv
  constructor
  · rintro ⟨front, back, heq, hback⟩
    obtain ⟨l, rest, rfl, -, hrest⟩ := List.filterMap_eq_append_iff.1 heq
    obtain ⟨l', segment, after, rfl, -, hsegment, rfl⟩ := List.filterMap_eq_cons_iff.1 hrest
    exact ⟨l ++ l', segment, after, by simp, segment?_eq_some_iff.1 hsegment, (hkeys after).1 hback⟩
  · rintro ⟨before, segment, after, rfl, hsegment, hafter⟩
    refine ⟨before.filterMap segment?, after.filterMap segment?, ?_, (hkeys after).2 hafter⟩
    rw [List.filterMap_append, List.filterMap_cons_some (segment?_eq_some_iff.2 hsegment)]

/-- Headers that are written in any order, with any blanks around their keys and values
    and with other segments between them, are read back as they were. In every text, a
    key has the value that the last of its segments gives it. -/
theorem parseHeaders_render :
    (∀ headers : Dictionary String String, (∀ e ∈ headers.entries, IsHeader e.1 e.2) →
      ∀ entries segments, entries.Perm headers.entries → Renders entries segments →
        (parseHeaders (String.ofList (Text.join ',' segments))).entries = entries ∧
        ∀ key, (parseHeaders (String.ofList (Text.join ',' segments))).get? key =
          headers.get? key) ∧
    ∀ text key value, (parseHeaders text).get? key = some value ↔
      ∃ before segment after,
        text = String.ofList (Text.join ',' (before ++ segment :: after)) ∧
        (∀ s ∈ before ++ segment :: after, ',' ∉ s) ∧ IsPair segment key value ∧
        ∀ s ∈ after, ∀ v, ¬IsPair s key v := by
  refine ⟨?_, ?_⟩
  · intro headers hheaders entries segments hperm hrenders
    have hheader : ∀ e ∈ entries, IsHeader e.1 e.2 := fun e he => hheaders e (hperm.mem_iff.1 he)
    have hnodup : (entries.map Prod.fst).Nodup := (hperm.map Prod.fst).nodup_iff.2 headers.distinct
    have hentries : (parseHeaders (String.ofList (Text.join ',' segments))).entries = entries := by
      rw [parseHeaders_join (hrenders.comma_not_mem hheader), hrenders.filterMap_eq hheader,
        entries_ofList hnodup]
    refine ⟨hentries, fun key => Dictionary.get?_of_perm ?_ key⟩
    rwa [hentries]
  · intro text key value
    rw [parseHeaders, Dictionary.get?_ofList_eq_some_iff, isLast_filterMap_iff]
    constructor
    · rintro ⟨before, segment, after, hpieces, hsegment, hafter⟩
      refine ⟨before, segment, after, ?_, ?_, hsegment, hafter⟩
      · rw [← hpieces, Text.join_pieces, String.ofList_toList]
      · rw [← hpieces]
        exact fun s hs => Text.not_mem_of_mem_pieces hs
    · rintro ⟨before, segment, after, rfl, hcomma, hsegment, hafter⟩
      refine ⟨before, segment, after, ?_, hsegment, hafter⟩
      rw [String.toList_ofList, Text.pieces_join (by simp) hcomma]

/-- Two headers, one with a value that ends in an equals sign. -/
def someHeaders : Dictionary String String where
  entries := [("authorization", "Basic YTpi="), ("empty", "")]
  distinct := by decide

/-- They are written the other way round, with blanks and other segments. -/
theorem parseHeaders_of_someHeaders :
    (∀ e ∈ someHeaders.entries, IsHeader e.1 e.2) ∧
    (parseHeaders "empty =\t,, other ,\u00a0authorization= Basic YTpi= ").entries =
      [("empty", ""), ("authorization", "Basic YTpi=")] := by
  have hheaders : ∀ e ∈ someHeaders.entries, IsHeader e.1 e.2 := by
    have htrimmed {s : String} (h : Text.trim s.toList = s.toList) : Text.IsTrimmed s.toList :=
      (trim_eq_iff.1 h).2
    intro e he
    rcases List.mem_cons.1 he with rfl | he
    · exact ⟨by decide, by decide, htrimmed (by decide), by decide, htrimmed (by decide)⟩
    · obtain rfl := List.mem_singleton.1 he
      exact ⟨by decide, by decide, htrimmed (by decide), by decide, htrimmed (by decide)⟩
  have hrenders : Renders [("empty", ""), ("authorization", "Basic YTpi=")]
      ["empty ".toList ++ '=' :: "\t".toList, [], " other ".toList,
        "\u00a0authorization".toList ++ '=' :: " Basic YTpi= ".toList] :=
    .header (trim_eq_iff.1 (by decide)).1 (trim_eq_iff.1 (by decide)).1
      (.other (by decide) (by decide) (.other (by decide) (by decide)
        (.header (trim_eq_iff.1 (by decide)).1 (trim_eq_iff.1 (by decide)).1 .nil)))
  exact ⟨hheaders,
    (parseHeaders_render.1 someHeaders hheaders _ _ (.swap _ _ _) hrenders).1⟩

end LoginGate.Telemetry
