import LoginGate.Telemetry.Metadata
import Mathlib.Data.List.Nodup

/-!
# Metadata does not depend on an order

Headers are a table, and its entries are visited in an order that may differ from
run to run. Whether they can be sent does not depend on it: they can if every
header can on its own (`metadata_eq_ok_iff`). What is sent may depend on it, since
keys are sent in small letters and two keys may become one.

* `metadata_order`: the same is sent in all orders if and only if headers whose
  keys become one are sent with the same value.

For one direction, each of two such headers is visited last once, and then its value
is what is sent.
-/

namespace LoginGate.Telemetry

/-- The key ends in `-bin`, in letters of any case. -/
def EndsInBin (key : String) : Prop := "-bin".toList <:+ (smallKey key).toList

/-- A header cannot be sent, whatever other headers there are. -/
inductive IsInvalid (key value : String) : Prop
  /-- The key has characters that no key may have, or it is empty or too long. -/
  | key (h : isKey (smallKey key).toList = false)
  /-- The value of a text has a byte that no value may have. -/
  | value (hkey : ¬EndsInBin key) {b : UInt8} (hb : b ∈ Text.utf8 value) (h : isValueByte b = false)
  /-- The value of bytes is not in Base64. -/
  | base64 (hkey : EndsInBin key) (h : Text.base64Decode? value.toList = none)

/-- What a header is sent with: the bytes that its value stands for in Base64 if the
    key ends in `-bin`, and the value itself otherwise. -/
def sentValue (key value : String) : MetadataValue :=
  if isBinaryKey (smallKey key).toList then
    .bytes ((Text.base64Decode? value.toList).getD [])
  else .text value

/-- A header as it is sent. -/
def sentEntry (header : String × String) : String × MetadataValue :=
  (smallKey header.1, sentValue header.1 header.2)

/-- Two headers whose keys differ in case only are sent with the same value. -/
def Agree (headers : Dictionary String String) : Prop :=
  ∀ h ∈ headers.entries, ∀ h' ∈ headers.entries, smallKey h.1 = smallKey h'.1 →
    sentValue h.1 h.2 = sentValue h'.1 h'.2

/-- In whatever order the headers are visited, the same is sent. -/
def SameInAllOrders (headers : Dictionary String String) : Prop :=
  ∀ order order', order.Perm headers.entries → order'.Perm headers.entries →
    ∃ sent sent', metadata order = .ok sent ∧ metadata order' = .ok sent' ∧
      sent.entries.Perm sent'.entries

/-! ### One header -/

section Header

variable {key value : String} {sent : MetadataValue}

theorem isBinaryKey_iff : isBinaryKey (smallKey key).toList = true ↔ EndsInBin key :=
  List.isSuffixOf_iff_suffix

/-- A header is sent with its value unless it is invalid. -/
theorem metadataValue_eq_ok_iff : metadataValue (smallKey key) value = .ok sent ↔
    ¬IsInvalid key value ∧ sent = sentValue key value := by
  rw [metadataValue, sentValue]
  by_cases hbin : isBinaryKey (smallKey key).toList
  · have hends : EndsInBin key := isBinaryKey_iff.1 hbin
    rw [if_pos hbin, if_pos hbin]
    rcases hdecode : Text.base64Decode? value.toList with _ | bytes
    · exact iff_of_false nofun fun h => h.1 (.base64 hends hdecode)
    rcases hkey : isKey (smallKey key).toList with _ | _
    · exact iff_of_false nofun fun h => h.1 (.key hkey)
    have hvalid : ¬IsInvalid key value := by
      rintro (h | ⟨h, -, -⟩ | ⟨-, h⟩)
      · exact Bool.false_ne_true (h.symm.trans hkey)
      · exact h hends
      · cases h.symm.trans hdecode
    simp [hvalid, eq_comm]
  · have hends : ¬EndsInBin key := mt isBinaryKey_iff.2 hbin
    rw [if_neg hbin, if_neg hbin]
    rcases hkey : isKey (smallKey key).toList with _ | _
    · exact iff_of_false nofun fun h => h.1 (.key hkey)
    by_cases hbytes : (Text.utf8 value).all isValueByte
    · have hvalid : ¬IsInvalid key value := by
        rintro (h | ⟨-, hb, h⟩ | ⟨h, -⟩)
        · exact Bool.false_ne_true (h.symm.trans hkey)
        · exact Bool.false_ne_true (h.symm.trans (List.all_eq_true.1 hbytes _ hb))
        · exact hends h
      simp [hvalid, hbytes, eq_comm]
    · obtain ⟨b, hb, h⟩ : ∃ b ∈ Text.utf8 value, isValueByte b = false := by
        simpa using hbytes
      have hinvalid : IsInvalid key value := .value hends hb h
      simp [hinvalid, hbytes]

end Header

/-! ### All headers -/

section Headers

variable {l : List (String × String)} {sent : Dictionary String MetadataValue}

/-- Puts a header into what is sent. -/
def send (sent : Dictionary String MetadataValue) (header : String × String) :
    Except MetadataError (Dictionary String MetadataValue) := do
  return sent.insert (smallKey header.1) (← metadataValue (smallKey header.1) header.2)

theorem send_eq_ok_iff {d : Dictionary String MetadataValue} {h : String × String} :
    send d h = .ok sent ↔
      ¬IsInvalid h.1 h.2 ∧ sent = d.insert (smallKey h.1) (sentValue h.1 h.2) := by
  rw [send]
  rcases hvalue : metadataValue (smallKey h.1) h.2 with e | value
  · have hinvalid : ¬¬IsInvalid h.1 h.2 := by
      intro hvalid
      cases hvalue.symm.trans (metadataValue_eq_ok_iff.2 ⟨hvalid, rfl⟩)
    exact iff_of_false nofun fun hall => hinvalid hall.1
  · obtain ⟨hvalid, rfl⟩ := metadataValue_eq_ok_iff.1 hvalue
    rw [and_iff_right hvalid]
    exact ⟨fun h => (Except.ok.inj h).symm, fun h => congrArg Except.ok h.symm⟩

theorem foldlM_send_eq_ok_iff {d : Dictionary String MetadataValue} :
    l.foldlM send d = .ok sent ↔
      (∀ h ∈ l, ¬IsInvalid h.1 h.2) ∧ sent = d.insertAll (l.map sentEntry) := by
  induction l generalizing d with
  | nil => simp [Dictionary.insertAll, pure, Except.pure, eq_comm]
  | cons h l ih =>
    rw [List.foldlM_cons, List.forall_mem_cons, List.map_cons, Dictionary.insertAll_cons]
    rcases hsend : send d h with e | d'
    · have hinvalid : ¬¬IsInvalid h.1 h.2 := by
        intro hvalid
        cases hsend.symm.trans (send_eq_ok_iff.2 ⟨hvalid, rfl⟩)
      refine iff_of_false (fun hfold => ?_) fun hall => hinvalid hall.1.1
      cases hfold
    · obtain ⟨hvalid, rfl⟩ := send_eq_ok_iff.1 hsend
      rw [and_iff_right hvalid]
      exact ih

/-- Headers can be sent if each of them can, and the last one with a key counts. -/
theorem metadata_eq_ok_iff : metadata l = .ok sent ↔
    (∀ h ∈ l, ¬IsInvalid h.1 h.2) ∧ sent = Dictionary.ofList (l.map sentEntry) :=
  foldlM_send_eq_ok_iff

theorem exists_metadata_eq_error_iff :
    (∃ e, metadata l = .error e) ↔ ∃ h ∈ l, IsInvalid h.1 h.2 := by
  constructor
  · rintro ⟨e, he⟩
    refine Classical.byContradiction fun hvalid => ?_
    have hvalid : ∀ h ∈ l, ¬IsInvalid h.1 h.2 := fun h hmem hinvalid =>
      hvalid ⟨h, hmem, hinvalid⟩
    cases he.symm.trans (metadata_eq_ok_iff.2 ⟨hvalid, rfl⟩)
  · rintro ⟨h, hmem, hinvalid⟩
    rcases hsent : metadata l with e | sent
    · exact ⟨e, rfl⟩
    · exact absurd hinvalid ((metadata_eq_ok_iff.1 hsent).1 h hmem)

end Headers

/-! ### Orders -/

section Orders

variable {headers : Dictionary String String} {order : List (String × String)}

/-- If headers agree, every one of them is sent with its value. -/
theorem get?_eq_some_iff_of_agree (hagree : Agree headers) (hperm : order.Perm headers.entries)
    {key : String} {value : MetadataValue} :
    (Dictionary.ofList (order.map sentEntry)).get? key = some value ↔
      ∃ h ∈ headers.entries, sentEntry h = (key, value) := by
  have hmem {e : String × MetadataValue} : e ∈ order.map sentEntry ↔
      ∃ h ∈ headers.entries, sentEntry h = e := by simp [hperm.mem_iff]
  constructor
  · intro hget
    obtain ⟨before, after, heq, -⟩ := Dictionary.get?_ofList_eq_some_iff.1 hget
    exact hmem.1 (heq ▸ List.mem_append_right before List.mem_cons_self)
  · rintro ⟨h, hh, heq⟩
    have hkey : key ∈ (order.map sentEntry).map Prod.fst :=
      List.mem_map.2 ⟨_, hmem.2 ⟨h, hh, heq⟩, rfl⟩
    -- Whichever header is the last one with this key, its value is the same.
    obtain ⟨value', hget⟩ := Option.isSome_iff_exists.1
      (Dictionary.isSome_get?_iff.2 (Dictionary.mem_keys_ofList.2 hkey))
    obtain ⟨before, after, hlast, -⟩ := Dictionary.get?_ofList_eq_some_iff.1 hget
    obtain ⟨h', hh', heq'⟩ := hmem.1 (hlast ▸ List.mem_append_right before List.mem_cons_self)
    obtain ⟨hk, hv⟩ := Prod.mk.inj heq
    obtain ⟨hk', hv'⟩ := Prod.mk.inj heq'
    rw [hget, ← hv, ← hv', hagree h hh h' hh' (hk.trans hk'.symm)]

/-- The header that is visited last is sent with its value. -/
theorem exists_order_last {h : String × String} (hmem : h ∈ headers.entries) :
    ∃ order : List (String × String), order.Perm headers.entries ∧
      (Dictionary.ofList (order.map sentEntry)).get? (smallKey h.1) =
        some (sentValue h.1 h.2) := by
  refine ⟨headers.entries.erase h ++ [h], ?_, ?_⟩
  · exact (List.perm_append_singleton h _).trans (List.perm_cons_erase hmem).symm
  · rw [Dictionary.get?_ofList_eq_some_iff, List.map_append]
    exact ⟨_, [], rfl, List.not_mem_nil⟩

theorem perm_of_get?_eq {d d' : Dictionary String MetadataValue}
    (h : ∀ key, d.get? key = d'.get? key) : d.entries.Perm d'.entries := by
  have hnodup (d : Dictionary String MetadataValue) : d.entries.Nodup := d.distinct.of_map _
  rw [List.perm_ext_iff_of_nodup (hnodup d) (hnodup d')]
  rintro ⟨key, value⟩
  rw [← Dictionary.get?_eq_some_iff, ← Dictionary.get?_eq_some_iff, h]

/-- Two orders in which either of two headers is last tell whether they agree. -/
theorem sameInAllOrders_iff (hvalid : ∀ h ∈ headers.entries, ¬IsInvalid h.1 h.2) :
    SameInAllOrders headers ↔ Agree headers := by
  have hsent {order : List (String × String)} (hperm : order.Perm headers.entries) :
      metadata order = .ok (Dictionary.ofList (order.map sentEntry)) :=
    metadata_eq_ok_iff.2 ⟨fun h hh => hvalid h (hperm.mem_iff.1 hh), rfl⟩
  constructor
  · intro hsame h hh h' hh' hkey
    obtain ⟨order, hperm, hget⟩ := exists_order_last hh
    obtain ⟨order', hperm', hget'⟩ := exists_order_last hh'
    obtain ⟨sent, sent', hok, hok', hentries⟩ := hsame order order' hperm hperm'
    obtain rfl := Except.ok.inj ((hsent hperm).symm.trans hok)
    obtain rfl := Except.ok.inj ((hsent hperm').symm.trans hok')
    rw [Dictionary.get?_of_perm hentries, hkey, hget'] at hget
    exact (Option.some.inj hget).symm
  · intro hagree order order' hperm hperm'
    refine ⟨_, _, hsent hperm, hsent hperm', perm_of_get?_eq fun key => Option.ext fun value => ?_⟩
    rw [get?_eq_some_iff_of_agree hagree hperm, get?_eq_some_iff_of_agree hagree hperm']

/-- Whether headers can be sent does not depend on the order in which they are visited:
    they cannot exactly if one of them is invalid. If all are valid, the same is sent in
    all orders exactly if headers whose keys differ in case only are sent with the same
    value; and then each key is sent once in small letters, with that value. -/
theorem metadata_order (headers : Dictionary String String) :
    (∀ order, order.Perm headers.entries →
      ((∃ e, metadata order = .error e) ↔ ∃ h ∈ headers.entries, IsInvalid h.1 h.2)) ∧
    ((∀ h ∈ headers.entries, ¬IsInvalid h.1 h.2) →
      (SameInAllOrders headers ↔ Agree headers) ∧
      (Agree headers → ∀ order, order.Perm headers.entries →
        ∃ sent, metadata order = .ok sent ∧
          (∀ h ∈ headers.entries, sent.keys.count (smallKey h.1) = 1 ∧
            sent.get? (smallKey h.1) = some (sentValue h.1 h.2)) ∧
          ∀ key ∈ sent.keys, ∃ h ∈ headers.entries, smallKey h.1 = key)) := by
  refine ⟨fun order hperm => ?_, fun hvalid => ⟨sameInAllOrders_iff hvalid, ?_⟩⟩
  · rw [exists_metadata_eq_error_iff]
    simp only [hperm.mem_iff]
  · intro hagree order hperm
    refine ⟨_, metadata_eq_ok_iff.2 ⟨fun h hh => hvalid h (hperm.mem_iff.1 hh), rfl⟩, ?_, ?_⟩
    · intro h hh
      have hget := (get?_eq_some_iff_of_agree hagree hperm).2 ⟨h, hh, rfl⟩
      have hmem := Dictionary.isSome_get?_iff.1 (Option.isSome_of_eq_some hget)
      exact ⟨List.count_eq_one_of_mem (Dictionary.distinct _) hmem, hget⟩
    · intro key hkey
      obtain ⟨value, hget⟩ := Option.isSome_iff_exists.1 (Dictionary.isSome_get?_iff.2 hkey)
      obtain ⟨h, hh, heq⟩ := (get?_eq_some_iff_of_agree hagree hperm).1 hget
      exact ⟨h, hh, congrArg Prod.fst heq⟩

end Orders

/-- Keys that differ in case only, of a text and of bytes. -/
def mixedCase (value : String) : Dictionary String String where
  entries := [("Key", "a b"), ("x-Bin", "YWI="), ("KEY", "a b"), ("X-BIN", value)]
  distinct := by simp

/-- With the same bytes the same is sent in all orders, and with other ones it is not. -/
theorem metadata_of_mixedCase :
    (SameInAllOrders (mixedCase "YWI=") ∧ Agree (mixedCase "YWI=") ∧
      (mixedCase "YWI=").entries.reverse.Perm (mixedCase "YWI=").entries ∧
      ∃ sent, metadata (mixedCase "YWI=").entries.reverse = .ok sent ∧
        sent.get? "x-bin" = some (.bytes [97, 98])) ∧
    ¬SameInAllOrders (mixedCase "YWM=") := by
  have hvalid {headers : Dictionary String String} {sent : Dictionary String MetadataValue}
      (h : metadata headers.entries = .ok sent) : ∀ h ∈ headers.entries, ¬IsInvalid h.1 h.2 :=
    (metadata_eq_ok_iff.1 h).1
  obtain ⟨hsame, hsent⟩ := (metadata_order (mixedCase "YWI=")).2 (hvalid rfl)
  obtain ⟨hother, -⟩ := (metadata_order (mixedCase "YWM=")).2 (hvalid rfl)
  have hagree : Agree (mixedCase "YWI=") := by
    unfold Agree
    decide +kernel
  have hdisagree : ¬Agree (mixedCase "YWM=") := by
    unfold Agree
    decide +kernel
  have hperm := List.reverse_perm (mixedCase "YWI=").entries
  obtain ⟨sent, hok, hvalues, -⟩ := hsent hagree _ hperm
  exact ⟨⟨hsame.2 hagree, hagree, hperm, sent, hok,
    (hvalues ("x-Bin", "YWI=") (by decide)).2⟩, mt hother.1 hdisagree⟩

end LoginGate.Telemetry
