import LoginGate.Flow.Format
import LoginGate.Proofs.Json.Documents
import LoginGate.Proofs.Json.Gives

/-!
# Flows are read as they are written

The JSON form of a flow names outcomes, and the names of success and failure
are not those of other outcomes any more when they are read again. Apart from
that the form of a flow is read as the flow: whatever its steps, attributes and
reasons are called, reading what is written of it gives the flow if and only if
none of its outcomes goes by a name that has a meaning (`IsCanonical`).

* `reads_document`: declarations are read with their outcomes named anew
  (`renamed`), and so is a flow (`parse_toJson`);
* `isCanonical_of_parse`: a flow that was read itself is canonical;
* `parse_render`: what both say about reading a flow.
-/

namespace LoginGate

/-! ### Outcomes named anew -/

namespace Outcome

/-- The outcome does not go by the name of another one. -/
def IsCanonical (o : Outcome) : Prop := o ≠ .other "success" ∧ o ≠ .other "failure"

/-- The outcome that has the name of an outcome. -/
def renamed (o : Outcome) : Outcome := ofName o.name

theorem isCanonical_ofName (name : String) : (ofName name).IsCanonical := by
  rw [ofName]
  split
  · exact ⟨nofun, nofun⟩
  · next hs =>
    split
    · exact ⟨nofun, nofun⟩
    · next hf => exact ⟨fun h => hs (other.inj h), fun h => hf (other.inj h)⟩

theorem renamed_eq_iff {o : Outcome} : o.renamed = o ↔ o.IsCanonical := by
  constructor
  · intro h
    exact h ▸ isCanonical_ofName o.name
  · intro h
    cases o with
    | success => rfl
    | failure => rfl
    | other name =>
      have hs : name ≠ "success" := fun hn => h.1 (congrArg other hn)
      have hf : name ≠ "failure" := fun hn => h.2 (congrArg other hn)
      exact (if_neg hs).trans (if_neg hf)

end Outcome

namespace StepDescriptor

/-- The declaration with its outcomes named anew. Of outcomes with the same name
    the last one counts. -/
def renamed (d : StepDescriptor) : StepDescriptor :=
  ⟨d.id, .ofList (d.continuations.entries.map fun e => (e.1.renamed, e.2))⟩

/-- No outcome goes by the name of another one. -/
def IsCanonical (d : StepDescriptor) : Prop := ∀ o ∈ d.continuations.keys, o.IsCanonical

theorem mem_keys_renamed {d : StepDescriptor} {o : Outcome} :
    o ∈ d.renamed.continuations.keys ↔ ∃ o' ∈ d.continuations.keys, o'.renamed = o := by
  rw [renamed, Dictionary.mem_keys_ofList, List.map_map]
  simp [Dictionary.keys]

theorem isCanonical_renamed (d : StepDescriptor) : d.renamed.IsCanonical := by
  intro o ho
  obtain ⟨o', -, rfl⟩ := mem_keys_renamed.1 ho
  exact Outcome.isCanonical_ofName o'.name

theorem renamed_eq_iff {d : StepDescriptor} : d.renamed = d ↔ d.IsCanonical := by
  constructor
  · intro h
    exact h ▸ d.isCanonical_renamed
  · intro h
    have hentries : (d.continuations.entries.map fun e => (e.1.renamed, e.2)) =
        d.continuations.entries := by
      refine (List.map_congr_left fun e he => ?_).trans (List.map_id _)
      rw [Outcome.renamed_eq_iff.2 (h e.1 (List.mem_map_of_mem he))]
      rfl
    rw [renamed, hentries, Dictionary.ofList_entries]

/-- No gate comes in with the new names. -/
theorem gates_renamed_le (d : StepDescriptor) : d.renamed.gates ≤ d.gates := by
  have h := Dictionary.countP_ofList_le Continuation.isGate
    (d.continuations.entries.map fun e => (e.1.renamed, e.2))
  rw [List.map_map] at h
  exact h

theorem gateCount_renamed_le (l : List StepDescriptor) :
    gateCount (l.map renamed) ≤ gateCount l := by
  induction l with
  | nil => exact Nat.le_refl 0
  | cons d l ih => exact Nat.add_le_add d.gates_renamed_le ih

end StepDescriptor

namespace FlowDefinition

/-- The flow with its outcomes named anew. -/
def renamed (d : FlowDefinition) : FlowDefinition where
  steps := d.steps.map StepDescriptor.renamed
  nonempty := by simpa using d.nonempty
  distinct := by
    rw [List.map_map]
    exact d.distinct
  gates_le_one := Nat.le_trans (StepDescriptor.gateCount_renamed_le d.steps) d.gates_le_one

/-- No outcome goes by the name of another one. -/
def IsCanonical (d : FlowDefinition) : Prop := ∀ s ∈ d.steps, s.IsCanonical

theorem eq_of_steps {d d' : FlowDefinition} (h : d.steps = d'.steps) : d = d' := by
  cases d
  cases d'
  cases h
  rfl

theorem renamed_eq_iff {d : FlowDefinition} : d.renamed = d ↔ d.IsCanonical := by
  constructor
  · intro h s hs
    rw [← h] at hs
    obtain ⟨s', -, rfl⟩ := List.mem_map.1 hs
    exact s'.isCanonical_renamed
  · intro h
    refine eq_of_steps ((List.map_congr_left fun s hs => ?_).trans (List.map_id _))
    exact StepDescriptor.renamed_eq_iff.2 (h s hs)

end FlowDefinition

/-! ### Reading what is written -/

open Json (Value Cause)
open Json.Reader

theorem asStrings_map {α : Type} (f : α → String) (l : List α) :
    (Value.array (l.map fun a => .string (f a))).asStrings = .ok (l.map f) := by
  rw [Value.asStrings]
  induction l with
  | nil => rfl
  | cons a l ih =>
    rw [List.map_cons, List.mapM_cons, ih]
    rfl

theorem asStringMap_map (l : List (String × String)) :
    (Value.object (l.map fun e => (e.1, .string e.2))).asStringMap = .ok l := by
  rw [Value.asStringMap]
  induction l with
  | nil => rfl
  | cons e l ih =>
    rw [List.map_cons, List.mapM_cons, ih]
    rfl

theorem beginsItem_object (l : List (String × Value)) : BeginsItem (Value.object l).text := by
  rw [text_object]
  exact ⟨'\x7b', _, rfl, by decide, by decide⟩

namespace Continuation

/-- What a continuation does. -/
def action : Continuation → Action
  | .execute _ => .execute
  | .sessionLimitGate _ => .sessionLimitGate
  | .fail _ => .fail

/-- The members of the JSON form next to the action. -/
def fields : Continuation → List (String × Value)
  | .execute steps => [("steps", .array (steps.map fun s => .string s.text))]
  | .sessionLimitGate gate =>
    [("attributes", .object (gate.attributes.entries.map fun e => (e.1, .string e.2))),
      ("proceed", .string gate.proceed.text), ("remediation", .string gate.remediation.text)]
  | .fail none => []
  | .fail (some reason) => [("reason", .string reason)]

theorem toJson_eq (c : Continuation) :
    c.toJson = .object ((actionKey, .string c.action.name) :: c.fields) := by
  rcases c with steps | gate | (_ | reason) <;> rfl

/-- A continuation is made of its action and its fields. -/
theorem ofParts_fields (c : Continuation) : ofParts c.action (.object c.fields) = .ok c := by
  rcases c with steps | gate | (_ | reason)
  · have hsteps := asStrings_map StepId.text steps
    simp only [action, fields, ofParts, executeFields, hsteps]
    have hid : (steps.map StepId.text).map StepId.mk = steps := by
      rw [List.map_map]
      exact List.map_id _
    exact congrArg (fun steps => Except.ok (Continuation.execute steps)) hid
  · have hattributes := asStringMap_map gate.attributes.entries
    have hof := gate.attributes.ofList_entries
    simp only [action, fields, ofParts, gateFields, hattributes]
    exact congrArg (fun a => Except.ok (Continuation.sessionLimitGate
      ⟨a, gate.proceed, gate.remediation⟩)) hof
  · rfl
  · rfl

/-- The fields are no actions, and each has one level at most. -/
theorem fits_fields (c : Continuation) (room : Nat) :
    ∀ m ∈ c.fields, m.1 ≠ actionKey ∧ m.2.Fits (room + 1) := by
  intro m hm
  rcases c with steps | gate | (_ | reason)
  · obtain rfl := List.mem_singleton.1 hm
    refine ⟨(by decide : "steps" ≠ actionKey), .array fun v hv => ?_⟩
    obtain ⟨s, -, rfl⟩ := List.mem_map.1 hv
    exact .string s.text
  · rcases List.mem_cons.1 hm with rfl | hm
    · exact ⟨(by decide : "attributes" ≠ actionKey),
        Value.fits_strings room gate.attributes.entries⟩
    · rcases List.mem_cons.1 hm with rfl | hm
      · exact ⟨(by decide : "proceed" ≠ actionKey), .string gate.proceed.text⟩
      · obtain rfl := List.mem_singleton.1 hm
        exact ⟨(by decide : "remediation" ≠ actionKey), .string gate.remediation.text⟩
  · cases hm
  · obtain rfl := List.mem_singleton.1 hm
    exact ⟨(by decide : "reason" ≠ actionKey), .string reason⟩

theorem reads_actionReader (a : Action) (rest : List Char) :
    Reads actionReader (Value.string a.name).text a rest := by
  refine .look (reads_valueStart (x := '"') (by decide)) (.ite_pos rfl ?_)
  refine .then (reads_stringToken a.name rest) ?_
  cases a <;> rfl

/-- Fields are kept in the reverse of their order. -/
theorem gathers_parts {room : Nat} {l : List (String × Value)}
    (h : ∀ m ∈ l, m.1 ≠ actionKey ∧ m.2.Fits room)
    (action : Option Action) (done : List (String × Value)) :
    Gathers (partReader room) (l.map fun m => (m.1, m.2.text)) (action, done)
      (action, l.reverse ++ done) := by
  induction l generalizing done with
  | nil => exact .nil
  | cons m l ih =>
    obtain ⟨hne, hv⟩ := h m List.mem_cons_self
    rw [List.map_cons, List.reverse_cons, List.append_assoc, List.singleton_append]
    refine .cons (fun rest hend => .ite_neg hne ?_)
      (ih (fun m hm => h m (List.mem_cons_of_mem _ hm)) _)
    exact Reads.after (reads_colon _) (.then (reads_value hv rest hend) rfl)

/-- A continuation is read as it is written. -/
theorem reads_reader (c : Continuation) (room : Nat) (rest : List Char) :
    Reads (reader (room + 2)) c.toJson.text c rest := by
  have hgathers : Gathers (partReader (room + 1))
      (((actionKey, .string c.action.name) :: c.fields).map fun m => (m.1, m.2.text))
      (none, []) (some c.action, c.fields.reverse ++ []) := by
    refine .cons (fun rest _ => .ite_pos rfl ?_) (gathers_parts (c.fits_fields room) _ _)
    exact .then (reads_field actionKey (reads_actionReader c.action rest)) rfl
  have hnamed : Reads (namedParts (room + 1))
      (Text.join ',' ((((actionKey, .string c.action.name) :: c.fields).map
        fun m => (m.1, m.2.text)).map memberText)) (c.action, .object c.fields)
      ('\x7d' :: rest) := by
    refine .then (hgathers.reads_members rest) ?_
    rw [List.append_nil]
    dsimp only
    rw [List.reverse_reverse]
    rfl
  rw [toJson_eq, text_object]
  refine .then (reads_record hnamed) ?_
  simp only [ofParts_fields]

end Continuation

namespace StepDescriptor

/-- The members of the JSON form next to the id. -/
def members (d : StepDescriptor) : List (String × Value) :=
  if d.continuations.isEmpty then []
  else [("on", .object (d.continuations.entries.map fun e => (e.1.name, e.2.toJson)))]

theorem reads_continuations (l : List (Outcome × Continuation)) (room : Nat) (rest : List Char) :
    Reads (continuationsReader (room + 3))
      (Value.object (l.map fun e => (e.1.name, e.2.toJson))).text
      (.ofList (l.map fun e => (e.1.renamed, e.2))) rest := by
  have hmap := reads_map (fun e => e.1.name) (fun e => e.2.toJson.text) Prod.snd
    (fun (e : Outcome × Continuation) (_ : e ∈ l) rest _ => e.2.reads_reader room rest) rest
  have htexts : (l.map fun e => (e.1.name, e.2.toJson)).map (fun m => (m.1, m.2.text)) =
      l.map fun e => (e.1.name, e.2.toJson.text) := by
    rw [List.map_map]
    rfl
  rw [text_object, htexts]
  refine .then hmap ?_
  rw [List.map_map]
  rfl

/-- A declaration is read with its outcomes named anew. -/
theorem reads_reader (d : StepDescriptor) (room : Nat) (rest : List Char) :
    Reads (reader (room + 4)) d.toJson.text d.renamed rest := by
  have hid (rest : List Char) (_ : EndsNumber rest) :
      Reads (fieldReader (room + 3) (none, none) "id")
      (':' :: (Value.string d.id.text).text) (some d.id, none) rest :=
    .ite_pos rfl (.then (reads_field "id" (.map StepId.mk (reads_string d.id.text rest))) rfl)
  obtain ⟨on, hgathers, hon⟩ : ∃ on, Gathers (fieldReader (room + 3))
      (d.members.map fun m => (m.1, m.2.text)) (some d.id, none) (some d.id, on) ∧
        on.getD .empty = d.renamed.continuations := by
    rw [members]
    split
    · next h =>
      refine ⟨none, .nil, ?_⟩
      rw [renamed, List.isEmpty_iff.1 h]
      rfl
    · have hon (rest : List Char) := reads_field "on"
        (reads_continuations d.continuations.entries room rest)
      have hne : "on" ≠ "id" := by decide
      exact ⟨_, .cons (fun rest _ => .ite_neg hne (.ite_pos rfl (.then (hon rest) rfl))) .nil,
        rfl⟩
  have hnamed : Reads (namedFields (room + 3))
      (Text.join ',' (((("id", .string d.id.text) :: d.members).map
        fun m => (m.1, m.2.text)).map memberText)) d.renamed ('\x7d' :: rest) := by
    refine .then ((Gathers.cons hid hgathers).reads_members rest) ?_
    simp only [required, hon]
    rfl
  rw [toJson, text_object]
  exact reads_record hnamed

end StepDescriptor

namespace FlowDefinition

/-- The JSON form of declarations, whether or not they are a flow. -/
def document (steps : List StepDescriptor) : Value :=
  .object [("steps", .array (steps.map StepDescriptor.toJson))]

/-- Declarations are read with their outcomes named anew. -/
theorem reads_document (steps : List StepDescriptor) (rest : List Char) :
    Reads stepsReader (document steps).text (steps.map StepDescriptor.renamed) rest := by
  have hsteps (rest : List Char) : Reads (array 126 StepDescriptor.reader)
      (Value.array (steps.map StepDescriptor.toJson)).text
      (steps.map StepDescriptor.renamed) rest := by
    rw [text_array, List.map_map]
    exact reads_array (fun s _ => ⟨beginsItem_object _, fun rest _ => s.reads_reader 121 rest⟩)
      rest
  have hgathers : Gathers (fun read key =>
      if key = "steps" then field key read (array 126 StepDescriptor.reader)
      else do
        unknownField
        return read)
      [("steps", (Value.array (steps.map StepDescriptor.toJson)).text)] none
      (some (steps.map StepDescriptor.renamed)) :=
    .cons (fun rest _ => .ite_pos rfl (reads_field "steps" (hsteps rest))) .nil
  have hnamed : Reads (namedFields 126)
      (Text.join ',' ([("steps", (Value.array (steps.map StepDescriptor.toJson)).text)].map
        memberText)) (steps.map StepDescriptor.renamed) ('\x7d' :: rest) :=
    .then (hgathers.reads_members rest) rfl
  rw [document, text_object, stepsReader, levels]
  exact reads_record hnamed

/-- What is written of declarations is checked as they are themselves, with their
    outcomes named anew. -/
theorem parse_document (steps : List StepDescriptor) : parse (document steps).render =
    (ofSteps (steps.map StepDescriptor.renamed)).mapError .invalid := by
  have hreads : Reads stepsReader (document steps).render.toList
      (steps.map StepDescriptor.renamed) [] := by
    rw [Value.render, String.toList_ofList]
    exact reads_document steps []
  rw [parse, hreads.runChecked]

theorem parse_toJson (d : FlowDefinition) : parse d.toJson.render = .ok d.renamed := by
  have hchecked := parse_document d.steps
  rw [show d.steps.map StepDescriptor.renamed = d.renamed.steps from rfl, ofSteps_steps]
    at hchecked
  exact hchecked

end FlowDefinition

/-! ### What is read -/

namespace StepDescriptor

/-- Outcomes that are read from their names are canonical. -/
theorem gives_continuations (room : Nat) :
    Gives (continuationsReader room) fun on => ∀ o ∈ on.keys, o.IsCanonical := by
  refine .after fun entries => gives_pure fun o ho => ?_
  rw [Dictionary.mem_keys_ofList, List.map_map] at ho
  obtain ⟨e, -, rfl⟩ := List.mem_map.1 ho
  exact Outcome.isCanonical_ofName e.1

theorem isCanonical_plain (id : StepId) : (plain id).IsCanonical := nofun

/-- The continuations that were read so far, if any, are canonical. -/
def CanonicalSoFar (read : Option StepId × Option (Dictionary Outcome Continuation)) : Prop :=
  ∀ on ∈ read.2, ∀ o ∈ on.keys, o.IsCanonical

theorem gives_fieldReader (room : Nat)
    {read : Option StepId × Option (Dictionary Outcome Continuation)} (h : CanonicalSoFar read)
    (key : String) : Gives (fieldReader room read key) CanonicalSoFar := by
  refine .ite (fun _ => .after fun id => gives_pure h) fun _ => .ite (fun _ => ?_) fun _ => ?_
  · exact ((gives_continuations room).field key read.2).bind fun on hon => gives_pure hon
  · exact .after fun _ => gives_pure h

theorem gives_reader (room : Nat) : Gives (reader room) IsCanonical := by
  refine gives_record (fun room => ?_) (fun room => ?_) room _
  · have hmembers : Gives (Json.Reader.members (fieldReader room) (none, none)) CanonicalSoFar :=
      gives_members (fun read key hread => gives_fieldReader room hread key) nofun
    refine hmembers.bind fun read hread => .after fun id => gives_pure ?_
    cases hon : read.2 with
    | none => exact isCanonical_plain id
    | some on => exact hread on hon
  · refine .after fun id => .after fun more => .ite (fun _ => ?_) fun _ => ?_
    · exact (gives_continuations room).bind fun on hon => gives_pure hon
    · exact gives_pure (isCanonical_plain ⟨id⟩)

end StepDescriptor

namespace FlowDefinition

theorem gives_stepsReader : Gives stepsReader fun l => ∀ s ∈ l, s.IsCanonical := by
  have harray (room : Nat) : Gives (array room StepDescriptor.reader) fun l => ∀ s ∈ l,
      s.IsCanonical := gives_array StepDescriptor.gives_reader room
  refine gives_record (fun room => ?_) (fun room => ?_) levels _
  · refine Gives.bind (P := fun read => ∀ l ∈ read, ∀ s ∈ l, StepDescriptor.IsCanonical s)
      (gives_members (fun read key hread => ?_) nofun) fun read hread =>
        gives_required "steps" hread
    exact .ite (fun _ => (harray room).field key read) fun _ => .after fun _ => gives_pure hread
  · exact .after fun more => .ite (fun _ => harray room) fun _ => gives_failLater _

theorem steps_of_ofSteps {l : List StepDescriptor} {d : FlowDefinition} (h : ofSteps l = .ok d) :
    d.steps = l := by
  rw [ofSteps] at h
  split at h
  · cases h
  · split at h
    · cases h
    · split at h
      · cases h
        rfl
      · cases h

/-- A text is read as a flow if it is read as the declarations of that flow. -/
theorem parse_eq_ok_iff {text : String} {d : FlowDefinition} :
    parse text = .ok d ↔ ∃ steps, stepsReader.run text = .ok steps ∧ ofSteps steps = .ok d := by
  rw [parse, runChecked_eq_ok_iff]
  refine exists_congr fun steps => and_congr_right fun _ => ?_
  cases ofSteps steps with
  | error e => exact ⟨nofun, nofun⟩
  | ok d' =>
    exact ⟨fun h => congrArg Except.ok (Except.ok.inj h),
      fun h => congrArg Except.ok (Except.ok.inj h)⟩

/-- A flow that was read is canonical. -/
theorem isCanonical_of_parse {text : String} {d : FlowDefinition} (h : parse text = .ok d) :
    d.IsCanonical := by
  obtain ⟨steps, hread, hd⟩ := parse_eq_ok_iff.1 h
  rw [IsCanonical, steps_of_ofSteps hd]
  exact gives_stepsReader.of_run hread

theorem find?_id {l : List StepDescriptor} (hn : (l.map StepDescriptor.id).Nodup)
    {s : StepDescriptor} (h : s ∈ l) : l.find? (fun s' => s'.id == s.id) = some s := by
  induction l with
  | nil => cases h
  | cons s' l ih =>
    obtain ⟨hs', hn⟩ := List.nodup_cons.1 hn
    rcases List.mem_cons.1 h with rfl | h
    · exact List.find?_cons_of_pos (beq_self_eq_true s.id)
    · have hne : s'.id ≠ s.id := fun he => hs' (he ▸ List.mem_map_of_mem h)
      rw [List.find?_cons_of_neg (by simpa using hne), ih hn h]

/-- What follows an outcome of a declared step stands in its declaration. -/
theorem continuation?_of_mem {d : FlowDefinition} {s : StepDescriptor} (h : s ∈ d.steps)
    (outcome : Outcome) : d.continuation? s.id outcome = s.continuations.get? outcome := by
  rw [continuation?, descriptor?, find?_id d.distinct h]
  rfl

/-- A flow that is not canonical has continuations that are lost with the name of
    their outcome. -/
theorem exists_lost {d : FlowDefinition} (h : ¬d.IsCanonical) :
    ∃ step outcome, (d.continuation? step outcome).isSome ∧
      d.renamed.continuation? step outcome = none := by
  simp only [IsCanonical, StepDescriptor.IsCanonical, Classical.not_forall] at h
  obtain ⟨s, hs, o, ho, hnot⟩ := h
  have hs' : s.renamed ∈ d.renamed.steps := List.mem_map_of_mem hs
  refine ⟨s.id, o, ?_, ?_⟩
  · rw [continuation?_of_mem hs]
    exact Dictionary.isSome_get?_iff.2 ho
  · have hid : s.id = s.renamed.id := rfl
    rw [hid, continuation?_of_mem hs']
    exact Dictionary.lookup_of_not_mem fun hmem => hnot (s.isCanonical_renamed o hmem)

/-- Reading what is written of a flow gives the flow with its outcomes named
    anew, which is the flow itself if and only if it is canonical. Otherwise an
    outcome that has a continuation has none any more, in whatever order the
    continuations stand. A flow that was read from a text is read again as it is. -/
theorem parse_render (d : FlowDefinition) :
    (∃ d', parse d.toJson.render = .ok d' ∧ (d' = d ↔ d.IsCanonical) ∧
      (d.IsCanonical ∨ ∃ step outcome, (d.continuation? step outcome).isSome ∧
        d'.continuation? step outcome = none)) ∧
    ∀ text, parse text = .ok d → parse d.toJson.render = .ok d := by
  refine ⟨⟨d.renamed, d.parse_toJson, renamed_eq_iff, ?_⟩, fun text h => ?_⟩
  · by_cases h : d.IsCanonical
    · exact .inl h
    · exact .inr (exists_lost h)
  · rw [d.parse_toJson, renamed_eq_iff.2 (isCanonical_of_parse h)]

end FlowDefinition

end LoginGate
