import LoginGate.Proofs.Flow.Format
import Mathlib.Data.List.Basic

/-!
# Which declarations are flows

Declarations are checked for three things, and what is wrong first is what is
reported: that there is a step, that no id occurs again, and that there is at
most one gate. Declarations that pass are kept as they are.

That ids are distinct is what the order of a flow rests on, as each step of a
*walk* looks for the id that it has come to: the walk from the entry visits the
declared steps one after the other (`walk?_eq`), and comes to an end behind the
last of them.
-/

namespace LoginGate

/-! ### Repeated ids -/

variable {before ids : List StepId} {id : StepId}

/-- The search passes ids that are new and distinct. -/
theorem firstRepeated_append {front : List StepId} (hn : front.Nodup)
    (hnew : ∀ x ∈ front, x ∉ before) :
    firstRepeated before (front ++ ids) = firstRepeated (front.reverse ++ before) ids := by
  induction front generalizing before with
  | nil => rfl
  | cons x front ih =>
    obtain ⟨hx, hn⟩ := List.nodup_cons.1 hn
    obtain ⟨hxbefore, hnew⟩ := List.forall_mem_cons.1 hnew
    rw [List.cons_append, firstRepeated, if_neg hxbefore, List.reverse_cons, List.append_assoc]
    refine ih hn fun y hy hm => ?_
    rcases List.mem_cons.1 hm with rfl | hm
    · exact hx hy
    · exact hnew y hy hm

/-- What is found stands behind distinct ids that are new, and is one of them or
    of those from before. -/
theorem exists_of_firstRepeated (h : firstRepeated before ids = some id) :
    ∃ front back, ids = front ++ id :: back ∧ id ∈ front ++ before ∧ front.Nodup ∧
      ∀ x ∈ front, x ∉ before := by
  induction ids generalizing before with
  | nil => cases h
  | cons x rest ih =>
    rw [firstRepeated] at h
    split at h
    · next hx =>
      obtain rfl := Option.some.inj h
      exact ⟨[], rest, rfl, hx, List.nodup_nil, List.forall_mem_nil _⟩
    · next hx =>
      obtain ⟨front, back, rfl, hid, hn, hnew⟩ := ih h
      have hxfront : x ∉ front := fun hm => hnew x hm List.mem_cons_self
      refine ⟨x :: front, back, rfl, List.perm_middle.mem_iff.1 hid,
        List.nodup_cons.2 ⟨hxfront, hn⟩, List.forall_mem_cons.2 ⟨hx, fun y hy hm => ?_⟩⟩
      exact hnew y hy (List.mem_cons_of_mem _ hm)

theorem firstRepeated_eq_some_iff : firstRepeated [] ids = some id ↔
    ∃ front back, ids = front ++ id :: back ∧ id ∈ front ∧ front.Nodup := by
  constructor
  · intro h
    obtain ⟨front, back, hids, hid, hn, -⟩ := exists_of_firstRepeated h
    exact ⟨front, back, hids, List.append_nil front ▸ hid, hn⟩
  · rintro ⟨front, back, rfl, hid, hn⟩
    rw [firstRepeated_append hn fun _ _ => List.not_mem_nil, firstRepeated, if_pos]
    exact List.mem_append_left _ (List.mem_reverse.2 hid)

theorem firstRepeated_eq_none_iff : firstRepeated [] ids = none ↔ ids.Nodup :=
  ⟨fun h => (firstRepeated_eq_none h).1,
    fun hn => firstRepeated_of_nodup hn fun _ _ => List.not_mem_nil⟩

/-- The declaration of the step is the first whose id occurred earlier. -/
def RepeatsFirst (steps : List StepDescriptor) (id : StepId) : Prop :=
  ∃ before s after, steps = before ++ s :: after ∧ s.id = id ∧
    (∃ earlier ∈ before, earlier.id = id) ∧ (before.map StepDescriptor.id).Nodup

theorem firstRepeated_map_eq_some_iff {steps : List StepDescriptor} :
    firstRepeated [] (steps.map StepDescriptor.id) = some id ↔ RepeatsFirst steps id := by
  rw [firstRepeated_eq_some_iff]
  constructor
  · rintro ⟨front, back, hids, hid, hn⟩
    obtain ⟨before, rest, rfl, rfl, hrest⟩ := List.map_eq_append_iff.1 hids
    obtain ⟨s, after, rfl, hs, -⟩ := List.map_eq_cons_iff.1 hrest
    exact ⟨before, s, after, rfl, hs, List.mem_map.1 hid, hn⟩
  · rintro ⟨before, s, after, rfl, rfl, hearlier, hn⟩
    exact ⟨before.map StepDescriptor.id, after.map StepDescriptor.id, List.map_append,
      List.mem_map.2 hearlier, hn⟩

theorem exists_repeatsFirst_iff {steps : List StepDescriptor} :
    (∃ id, RepeatsFirst steps id) ↔ ¬(steps.map StepDescriptor.id).Nodup := by
  simp only [← firstRepeated_map_eq_some_iff]
  rw [← Option.isSome_iff_exists, Option.isSome_iff_ne_none, ne_eq, firstRepeated_eq_none_iff]

/-! ### Gates -/

/-- The gates are counted over all outcomes of all declarations. -/
theorem gateCount_eq_countP (steps : List StepDescriptor) : gateCount steps =
    (steps.flatMap fun s => s.continuations.values).countP Continuation.isGate := by
  induction steps with
  | nil => rfl
  | cons s rest ih =>
    rw [gateCount, ih, List.flatMap_cons, List.countP_append]
    rfl

namespace FlowDefinition

open Json.Reader

/-! ### The check -/

variable {steps : List StepDescriptor}

/-- Declarations that pass the check are kept. -/
theorem ofSteps_eq_ok_iff {d : FlowDefinition} : ofSteps steps = .ok d ↔ d.steps = steps := by
  constructor
  · exact steps_of_ofSteps
  · rintro rfl
    exact d.ofSteps_steps

theorem ofSteps_of_repeats {id : StepId} (h : RepeatsFirst steps id) :
    ofSteps steps = .error (.repeatedStep id) := by
  have hne : steps ≠ [] := by
    obtain ⟨before, s, after, rfl, -⟩ := h
    exact List.append_ne_nil_of_right_ne_nil _ (List.cons_ne_nil _ _)
  have hid := firstRepeated_map_eq_some_iff.2 h
  rw [ofSteps, dif_neg hne]
  split
  · next id' hid' => rw [Option.some.inj (hid'.symm.trans hid)]
  · next hnone => rw [hnone] at hid; cases hid

theorem ofSteps_of_severalGates (hne : steps ≠ []) (hn : (steps.map StepDescriptor.id).Nodup)
    (hgates : 1 < gateCount steps) : ofSteps steps = .error (.severalGates (gateCount steps)) := by
  rw [ofSteps, dif_neg hne]
  split
  · next id hid =>
    rw [firstRepeated_eq_none_iff.2 hn] at hid
    cases hid
  · exact dif_neg (Nat.not_le.2 hgates)

/-- Declarations are a flow, or fail the check in one of three ways. -/
theorem check_cases (steps : List StepDescriptor) :
    (∃ d : FlowDefinition, d.steps = steps) ∨ steps = [] ∨ (∃ id, RepeatsFirst steps id) ∨
      (steps ≠ [] ∧ (steps.map StepDescriptor.id).Nodup ∧ 1 < gateCount steps) := by
  by_cases hne : steps = []
  · exact .inr (.inl hne)
  cases hr : firstRepeated [] (steps.map StepDescriptor.id) with
  | some id => exact .inr (.inr (.inl ⟨id, firstRepeated_map_eq_some_iff.1 hr⟩))
  | none =>
    have hn := firstRepeated_eq_none_iff.1 hr
    by_cases hgates : gateCount steps ≤ 1
    · exact .inl ⟨⟨steps, hne, hn, hgates⟩, rfl⟩
    · exact .inr (.inr (.inr ⟨hne, hn, Nat.not_le.1 hgates⟩))

/-- What the check reports. -/
theorem ofSteps_eq_error_iff {e : DefinitionError} : ofSteps steps = .error e ↔
    (e = .noSteps ∧ steps = []) ∨ (∃ id, e = .repeatedStep id ∧ RepeatsFirst steps id) ∨
    (e = .severalGates (gateCount steps) ∧ steps ≠ [] ∧ (steps.map StepDescriptor.id).Nodup ∧
      1 < gateCount steps) := by
  constructor
  · intro h
    obtain ⟨d, rfl⟩ | rfl | ⟨id, hid⟩ | ⟨hne, hn, hgates⟩ := check_cases steps
    · rw [ofSteps_steps] at h
      cases h
    · exact .inl ⟨(Except.error.inj h).symm, rfl⟩
    · rw [ofSteps_of_repeats hid] at h
      exact .inr (.inl ⟨id, (Except.error.inj h).symm, hid⟩)
    · rw [ofSteps_of_severalGates hne hn hgates] at h
      exact .inr (.inr ⟨(Except.error.inj h).symm, hne, hn, hgates⟩)
  · rintro (⟨rfl, rfl⟩ | ⟨id, rfl, hid⟩ | ⟨rfl, hne, hn, hgates⟩)
    · rfl
    · exact ofSteps_of_repeats hid
    · exact ofSteps_of_severalGates hne hn hgates

theorem exists_flow_iff : (∃ d : FlowDefinition, d.steps = steps) ↔
    steps ≠ [] ∧ (steps.map StepDescriptor.id).Nodup ∧ gateCount steps ≤ 1 := by
  constructor
  · rintro ⟨d, rfl⟩
    exact ⟨d.nonempty, d.distinct, d.gates_le_one⟩
  · rintro ⟨hne, hn, hgates⟩
    exact ⟨⟨steps, hne, hn, hgates⟩, rfl⟩

/-! ### Walking through the declarations -/

/-- The step that the walk from the entry comes to after so many others. -/
def walk? (d : FlowDefinition) : Nat → Option StepId
  | 0 => some d.entry
  | n + 1 => (d.walk? n).bind d.nextDeclared?

theorem nextAfter_of_getElem? {ids : List StepId} (hn : ids.Nodup) {n : Nat} {id : StepId}
    (h : ids[n]? = some id) : nextAfter id ids = ids[n + 1]? := by
  induction ids generalizing n with
  | nil => cases h
  | cons x rest ih =>
    obtain ⟨hx, hn⟩ := List.nodup_cons.1 hn
    rw [nextAfter]
    cases n with
    | zero =>
      rw [if_pos (Option.some.inj h)]
      exact List.head?_eq_getElem?
    | succ n =>
      have hne : x ≠ id := fun he => hx (he ▸ List.mem_of_getElem? h)
      rw [if_neg hne]
      exact ih hn h

theorem nextAfter_of_not_mem {ids : List StepId} {id : StepId} (h : id ∉ ids) :
    nextAfter id ids = none := by
  induction ids with
  | nil => rfl
  | cons x rest ih =>
    have hx : x ≠ id := fun he => h (he ▸ List.mem_cons_self)
    rw [nextAfter, if_neg hx, ih fun hm => h (List.mem_cons_of_mem _ hm)]

variable (d : FlowDefinition)

/-- The walk visits the declared steps in order, and none after the last. -/
theorem walk?_eq (n : Nat) : d.walk? n = (d.steps.map StepDescriptor.id)[n]? := by
  induction n with
  | zero =>
    obtain ⟨first, rest, hsteps⟩ := List.exists_cons_of_ne_nil d.nonempty
    simp [walk?, entry, hsteps]
  | succ n ih =>
    rw [walk?, ih]
    cases h : (d.steps.map StepDescriptor.id)[n]? with
    | none =>
      rw [List.getElem?_eq_none_iff] at h
      exact (List.getElem?_eq_none (by omega)).symm
    | some id => exact nextAfter_of_getElem? d.distinct h

/-- The walk visits every declared step, and visits it once. -/
theorem existsUnique_walk? {s : StepDescriptor} (hs : s ∈ d.steps) :
    ∃! n, d.walk? n = some s.id := by
  simp only [walk?_eq]
  obtain ⟨n, hn⟩ := List.getElem?_of_mem (List.mem_map_of_mem hs)
  refine ⟨n, hn, fun m hm => ?_⟩
  have hlt : m < (d.steps.map StepDescriptor.id).length := (List.getElem?_eq_some_iff.1 hm).1
  exact (List.getElem?_inj hlt d.distinct).1 (hm.trans hn.symm)

theorem descriptor?_eq_some_iff {id : StepId} {s : StepDescriptor} :
    d.descriptor? id = some s ↔ s ∈ d.steps ∧ s.id = id := by
  constructor
  · intro h
    exact ⟨List.mem_of_find?_eq_some h, by simpa using List.find?_some h⟩
  · rintro ⟨hs, rfl⟩
    exact find?_id d.distinct hs

theorem descriptor?_eq_none {id : StepId} (h : id ∉ d.steps.map StepDescriptor.id) :
    d.descriptor? id = none := by
  rw [Option.eq_none_iff_forall_ne_some]
  intro s hs
  obtain ⟨hmem, rfl⟩ := d.descriptor?_eq_some_iff.1 hs
  exact h (List.mem_map_of_mem hmem)

/-- Declarations are checked for exactly three things, and what is reported is the
    first of them that is wrong, with the id that is repeated first or with the
    number of gates. The order of a flow leads from the entry through all of its
    steps, each of which is found by its id. A text is read as a flow exactly if it
    is read as declarations that pass the check, which is so for what is written of
    them, but for the names of outcomes. -/
theorem check_is_exact :
    (∀ steps,
      (ofSteps steps = .error .noSteps ↔ steps = []) ∧
      (∀ id, ofSteps steps = .error (.repeatedStep id) ↔ RepeatsFirst steps id) ∧
      ((∃ id, RepeatsFirst steps id) ↔ ¬(steps.map StepDescriptor.id).Nodup) ∧
      (∀ g, ofSteps steps = .error (.severalGates g) ↔
        steps ≠ [] ∧ (steps.map StepDescriptor.id).Nodup ∧ 1 < g ∧
          g = (steps.flatMap fun s => s.continuations.values).countP Continuation.isGate) ∧
      ((∃ d, ofSteps steps = .ok d) ↔
        steps ≠ [] ∧ (steps.map StepDescriptor.id).Nodup ∧
          (steps.flatMap fun s => s.continuations.values).countP Continuation.isGate ≤ 1) ∧
      ∀ d, ofSteps steps = .ok d ↔ d.steps = steps) ∧
    (∀ d : FlowDefinition,
      (∀ n, d.walk? n = (d.steps.map StepDescriptor.id)[n]?) ∧
      (∀ s ∈ d.steps, ∃! n, d.walk? n = some s.id) ∧
      (∀ id s, d.descriptor? id = some s ↔ s ∈ d.steps ∧ s.id = id) ∧
      ∀ id ∉ d.steps.map StepDescriptor.id, d.descriptor? id = none ∧ d.nextDeclared? id = none) ∧
    (∀ text d, parse text = .ok d ↔
      ∃ steps, stepsReader.run text = .ok steps ∧ ofSteps steps = .ok d) ∧
    ∀ steps, parse (document steps).render =
      (ofSteps (steps.map StepDescriptor.renamed)).mapError .invalid := by
  refine ⟨fun steps => ⟨?noSteps, fun id => ?repeated, ?duplicate, fun g => ?gates, ?accepted,
    fun d => ofSteps_eq_ok_iff⟩, fun d => ⟨d.walk?_eq, fun s => d.existsUnique_walk?,
    fun id s => d.descriptor?_eq_some_iff, fun id hid => ⟨d.descriptor?_eq_none hid,
    nextAfter_of_not_mem hid⟩⟩, fun text d => parse_eq_ok_iff, parse_document⟩
  case noSteps =>
    simp [ofSteps_eq_error_iff]
  case repeated =>
    simp [ofSteps_eq_error_iff]
  case duplicate =>
    exact exists_repeatsFirst_iff
  case gates =>
    rw [← gateCount_eq_countP, ofSteps_eq_error_iff]
    constructor
    · rintro (⟨⟨⟩, _⟩ | ⟨_, ⟨⟩, _⟩ | ⟨⟨⟩, hne, hn, hgates⟩)
      exact ⟨hne, hn, hgates, rfl⟩
    · rintro ⟨hne, hn, hgates, rfl⟩
      exact .inr (.inr ⟨rfl, hne, hn, hgates⟩)
  case accepted =>
    simp only [ofSteps_eq_ok_iff]
    rw [← gateCount_eq_countP, exists_flow_iff]

/-- The declarations of two steps. -/
def twoSteps : List StepDescriptor := [.plain ⟨"1"⟩, .plain ⟨"2"⟩]

/-- The flow leads from the first to the second and no further. Declared once more
    after them, the first step is the one that is repeated. -/
theorem check_of_twoSteps :
    ∃ d, ofSteps twoSteps = .ok d ∧ (∃! n, d.walk? n = some ⟨"2"⟩) ∧ d.walk? 2 = none ∧
      d.descriptor? ⟨"3"⟩ = none ∧ d.nextDeclared? ⟨"3"⟩ = none ∧
      ofSteps (twoSteps ++ twoSteps) = .error (.repeatedStep ⟨"1"⟩) := by
  obtain ⟨hcheck, hflow, -⟩ := check_is_exact
  obtain ⟨-, -, -, -, haccepted, hkept⟩ := hcheck twoSteps
  obtain ⟨d, hd⟩ := haccepted.2 ⟨by decide, by decide, by decide⟩
  obtain ⟨hwalk, hvisited, -, hundeclared⟩ := hflow d
  have hsteps := (hkept d).1 hd
  rw [hsteps] at hwalk hvisited hundeclared
  obtain ⟨hdescriptor, hnext⟩ := hundeclared ⟨"3"⟩ (by decide)
  obtain ⟨-, hrepeated, -⟩ := hcheck (twoSteps ++ twoSteps)
  refine ⟨d, hd, hvisited (.plain ⟨"2"⟩) (by decide), (hwalk 2).trans rfl, hdescriptor, hnext,
    (hrepeated ⟨"1"⟩).2 ⟨twoSteps, .plain ⟨"1"⟩, [.plain ⟨"2"⟩], rfl, rfl, ?_, by decide⟩⟩
  exact ⟨.plain ⟨"1"⟩, List.mem_cons_self, rfl⟩

end FlowDefinition

end LoginGate
