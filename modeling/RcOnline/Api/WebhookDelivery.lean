import RcOnline.Api.Webhook

/-!
# Stored events and their jobs

A delivery that is answered need not have a job behind it: the answer `duplicate` is decided from
the row alone, which an earlier delivery stores before it adds the job. `persistAndEnqueue_iff` says
in which runs every answer has a job: those in which a completed insert of an event that is already
stored comes after the storing delivery's `queue.add` (`InOrder`). The proof carries what a run so
far says about the state (`History`).
-/

namespace RcOnline.Api

open RcOnline.Lib RcOnline.Billing

/-! ## Answers and the order of steps -/

/-- A job for the event has been added. -/
def Webhook.hasJob (w : Webhook) (id : String) : Prop := ∃ job ∈ w.jobs, job.stripeEventId = id

/-- Every delivery that was answered has a job for its event in the queue. -/
def Answered (w : Webhook) : Prop :=
  ∀ delivery answer, (delivery, .answered answer) ∈ w.deliveries → w.hasJob delivery.event.id

/-- The delivery whose insert stored the event's row: the first one that took effect. -/
def storedBy (id : String) (steps : List WebhookStep) : Option Nat :=
  steps.findSome? fun
    | .insert delivery effect =>
      if delivery.event.id = id ∧ effect.applied then some delivery.number else none
    | _ => none

/-- Every insert that completes on an event stored before comes after the job of the delivery that
stored it. -/
def InOrder (steps : List WebhookStep) : Prop :=
  ∀ before delivery after, steps = before ++ .insert delivery .done :: after →
    ∀ number, storedBy delivery.event.id before = some number →
      ∃ effect, .add number effect ∈ before ∧ effect.applied = true

/-! ## What a run says about its state -/

/-- What the steps so far say about the state. -/
structure History (steps : List WebhookStep) (w : Webhook) : Prop where
  numbers : (w.deliveries.map (·.1.number)).Nodup
  rows : ∀ id, (∃ row ∈ w.stripeEvents.rows, row.stripeEventId = id) ↔
    (storedBy id steps).isSome = true
  stored : ∀ id number, storedBy id steps = some number →
    ∃ entry ∈ w.deliveries, entry.1.number = number ∧ entry.1.event.id = id
  jobs : ∀ id, w.hasJob id ↔
    ∃ number effect, storedBy id steps = some number ∧ .add number effect ∈ steps ∧
      effect.applied = true
  adds : ∀ number effect, .add number effect ∈ steps →
    ∃ entry ∈ w.deliveries, entry.1.number = number
  adding : ∀ delivery, (delivery, .adding) ∈ w.deliveries →
    storedBy delivery.event.id steps = some delivery.number
  accepted : ∀ delivery, (delivery, .answered .accepted) ∈ w.deliveries →
    w.hasJob delivery.event.id
  duplicate : ∀ delivery, (delivery, .answered .duplicate) ∈ w.deliveries →
    ∃ before after, steps = before ++ .insert delivery .done :: after ∧
      (storedBy delivery.event.id before).isSome = true

theorem storedBy_append (id : String) (steps steps' : List WebhookStep) :
    storedBy id (steps ++ steps') = (storedBy id steps).or (storedBy id steps') :=
  List.findSome?_append

theorem storedBy_insert (id : String) (delivery : Delivery) (effect : Effect) :
    storedBy id [.insert delivery effect] =
      if delivery.event.id = id ∧ effect.applied then some delivery.number else none := by
  unfold storedBy
  rw [List.findSome?_cons]
  split <;> simp_all

theorem history_empty : History [] Webhook.empty where
  numbers := List.nodup_nil
  rows := fun id => by simp [Webhook.empty, Table.empty, storedBy]
  stored := nofun
  jobs := fun id => by simp [Webhook.hasJob, Webhook.empty]
  adds := fun number effect h => absurd h List.not_mem_nil
  adding := fun delivery h => absurd h List.not_mem_nil
  accepted := fun delivery h => absurd h List.not_mem_nil
  duplicate := fun delivery h => absurd h List.not_mem_nil

/-- The entry that a look-up by number finds. -/
theorem mem_of_delivery? {w : Webhook} {number : Nat} {entry : Delivery × DeliveryState}
    (h : w.delivery? number = some entry) : entry ∈ w.deliveries ∧ entry.1.number = number :=
  ⟨List.mem_of_find?_eq_some h, by simpa using List.find?_some h⟩

/-! ## One step -/

section step

variable {steps : List WebhookStep} {w : Webhook} {delivery : Delivery} {effect : Effect}

/-- An event's row cannot be inserted exactly when it is there. -/
theorem insertEvent_isNone {event : IncomingEvent} {stripeEvents : Table StripeEvent} :
    (insertEvent event stripeEvents).isNone = true ↔
      ∃ row ∈ stripeEvents.rows, row.stripeEventId = event.id := by
  rw [Option.isNone_iff_eq_none, insertEvent, Table.insert?_eq_none_iff]
  simp only [Bool.false_eq_true, or_false]
  rfl

/-- The rows after an insert that took effect, or did not. -/
theorem insert_rows (id : String) :
    (∃ row ∈ (w.insert delivery effect).stripeEvents.rows, row.stripeEventId = id) ↔
      (∃ row ∈ w.stripeEvents.rows, row.stripeEventId = id) ∨
        (delivery.event.id = id ∧ effect.applied = true) := by
  unfold Webhook.insert
  dsimp only
  by_cases happlied : effect.applied = true
  · rw [if_pos happlied]
    cases hinsert : insertEvent delivery.event w.stripeEvents with
    | none =>
      have hrow := insertEvent_isNone.1 (Option.isNone_iff_eq_none.2 hinsert)
      rw [Option.getD_none]
      refine ⟨.inl, ?_⟩
      rintro (h | ⟨rfl, -⟩)
      · exact h
      · exact hrow
    | some stripeEvents =>
      rw [Option.getD_some]
      simp only [Table.mem_insert? hinsert, or_and_right, exists_or, exists_eq_left, happlied,
        and_true]
      rfl
  · rw [if_neg happlied]
    simp [happlied]

/-- The delivery that an insert leaves behind. -/
theorem insert_deliveries (w : Webhook) (delivery : Delivery) (effect : Effect) :
    ∃ state, (w.insert delivery effect).deliveries = w.deliveries ++ [(delivery, state)] ∧
      (state = .adding → effect = .done ∧
        ¬ ∃ row ∈ w.stripeEvents.rows, row.stripeEventId = delivery.event.id) ∧
      state ≠ .answered .accepted ∧
      (state = .answered .duplicate ↔ effect = .done ∧
        ∃ row ∈ w.stripeEvents.rows, row.stripeEventId = delivery.event.id) := by
  rw [← insertEvent_isNone]
  refine ⟨_, rfl, ?_⟩
  cases effect with
  | done => by_cases h : (insertEvent delivery.event w.stripeEvents).isNone = true <;> simp [h]
  | failed applied => simp

theorem mem_setState {number : Nat} {state : DeliveryState} {entry : Delivery × DeliveryState} :
    entry ∈ (w.setState number state).deliveries ↔ ∃ old ∈ w.deliveries,
      (old.1.number = number ∧ entry = (old.1, state)) ∨ (old.1.number ≠ number ∧ entry = old) := by
  unfold Webhook.setState
  simp only [List.mem_map]
  refine exists_congr fun old => and_congr_right fun _ => ?_
  by_cases h : old.1.number = number <;> simp [h, eq_comm]

theorem numbers_setState (number : Nat) (state : DeliveryState) :
    (w.setState number state).deliveries.map (·.1.number) = w.deliveries.map (·.1.number) := by
  unfold Webhook.setState
  rw [List.map_map]
  refine List.map_congr_left fun entry _ => ?_
  rw [Function.comp_apply]
  split <;> rfl

/-- Two entries with one number are one entry. -/
theorem History.entry_eq (h : History steps w) {a b : Delivery × DeliveryState}
    (ha : a ∈ w.deliveries) (hb : b ∈ w.deliveries) (hnumber : a.1.number = b.1.number) : a = b :=
  List.inj_on_of_nodup_map h.numbers ha hb hnumber

/-- The delivery that stored a row, after one more insert. -/
theorem storedBy_snoc_insert {id : String} {number : Nat} :
    storedBy id (steps ++ [.insert delivery effect]) = some number ↔
      storedBy id steps = some number ∨ (storedBy id steps = none ∧ delivery.event.id = id ∧
        effect.applied = true ∧ delivery.number = number) := by
  rw [storedBy_append, storedBy_insert]
  cases storedBy id steps with
  | none => simp [and_assoc]
  | some n => simp

/-- A step that is no insert stores nothing. -/
theorem storedBy_snoc {id : String} {step : WebhookStep} (h : storedBy id [step] = none) :
    storedBy id (steps ++ [step]) = storedBy id steps := by
  rw [storedBy_append, h, Option.or_none]

theorem mem_snoc_of_ne {step step' : WebhookStep} (h : step ≠ step') :
    step ∈ steps ++ [step'] ↔ step ∈ steps := by
  rw [List.mem_append, List.mem_singleton, or_iff_left h]

theorem History.insert (h : History steps w) (hfresh : w.delivery? delivery.number = none) :
    History (steps ++ [.insert delivery effect]) (w.insert delivery effect) := by
  have hnew : ∀ entry ∈ w.deliveries, entry.1.number ≠ delivery.number := by
    intro entry hentry hnumber
    exact absurd (decide_eq_true hnumber) (List.find?_eq_none.1 hfresh entry hentry)
  obtain ⟨state, hdeliveries, hadding, haccepted, hduplicate⟩ :=
    insert_deliveries w delivery effect
  have hmem : ∀ entry, entry ∈ (w.insert delivery effect).deliveries ↔
      entry ∈ w.deliveries ∨ entry = (delivery, state) := by
    intro entry
    rw [hdeliveries, List.mem_append, List.mem_singleton]
  have hjob : ∀ id, (w.insert delivery effect).hasJob id ↔ w.hasJob id := fun id => Iff.rfl
  have hunstored : (¬ ∃ row ∈ w.stripeEvents.rows, row.stripeEventId = delivery.event.id) →
      storedBy delivery.event.id steps = none := by
    rw [h.rows, Bool.not_eq_true, Option.isSome_eq_false_iff, Option.isNone_iff_eq_none]
    exact id
  constructor
  case numbers =>
    rw [hdeliveries, List.map_append, List.map_singleton, List.nodup_append]
    refine ⟨h.numbers, List.nodup_singleton _, ?_⟩
    intro n hn m hm heq
    obtain ⟨entry, hentry, rfl⟩ := List.mem_map.1 hn
    exact hnew entry hentry (heq.trans (List.mem_singleton.1 hm))
  case rows =>
    intro id
    rw [insert_rows, h.rows, Option.isSome_iff_exists, Option.isSome_iff_exists]
    simp only [storedBy_snoc_insert]
    constructor
    · rintro (⟨number, hstored⟩ | ⟨hid, happlied⟩)
      · exact ⟨number, .inl hstored⟩
      · cases hstored : storedBy id steps with
        | none => exact ⟨delivery.number, .inr ⟨rfl, hid, happlied, rfl⟩⟩
        | some number => exact ⟨number, .inl rfl⟩
    · rintro ⟨number, hstored | ⟨-, hid, happlied, -⟩⟩
      · exact .inl ⟨number, hstored⟩
      · exact .inr ⟨hid, happlied⟩
  case stored =>
    intro id number hstored
    rcases storedBy_snoc_insert.1 hstored with hstored | ⟨-, hid, -, hnumber⟩
    · obtain ⟨entry, hentry, heq⟩ := h.stored id number hstored
      exact ⟨entry, (hmem entry).2 (.inl hentry), heq⟩
    · exact ⟨(delivery, state), (hmem _).2 (.inr rfl), hnumber, hid⟩
  case jobs =>
    intro id
    rw [hjob, h.jobs]
    refine exists_congr fun number => exists_congr fun effect' => ?_
    rw [mem_snoc_of_ne (by nofun), storedBy_snoc_insert]
    constructor
    · rintro ⟨hstored, hadd⟩
      exact ⟨.inl hstored, hadd⟩
    · rintro ⟨hstored | ⟨-, -, -, rfl⟩, hadd⟩
      · exact ⟨hstored, hadd⟩
      · -- the number is new, so nothing was added under it
        obtain ⟨entry, hentry, hnumber⟩ := h.adds _ _ hadd.1
        exact absurd hnumber (hnew entry hentry)
  case adds =>
    intro number effect' hadd
    rw [mem_snoc_of_ne (by nofun)] at hadd
    obtain ⟨entry, hentry, hnumber⟩ := h.adds number effect' hadd
    exact ⟨entry, (hmem entry).2 (.inl hentry), hnumber⟩
  case adding =>
    intro d hd
    rw [storedBy_snoc_insert]
    rcases (hmem _).1 hd with hd | heq
    · exact .inl (h.adding d hd)
    · obtain ⟨rfl, rfl⟩ := Prod.mk.inj heq
      obtain ⟨rfl, hrow⟩ := hadding rfl
      exact .inr ⟨hunstored hrow, rfl, rfl, rfl⟩
  case accepted =>
    intro d hd
    rcases (hmem _).1 hd with hd | heq
    · exact h.accepted d hd
    · exact absurd (Prod.mk.inj heq).2.symm haccepted
  case duplicate =>
    intro d hd
    rcases (hmem _).1 hd with hd | heq
    · obtain ⟨before, after, rfl, hstored⟩ := h.duplicate d hd
      exact ⟨before, after ++ [.insert delivery effect], by simp, hstored⟩
    · obtain ⟨rfl, rfl⟩ := Prod.mk.inj heq
      obtain ⟨rfl, hrow⟩ := hduplicate.1 rfl
      exact ⟨steps, [], rfl, (h.rows _).1 hrow⟩

/-- The queue after `queue.add`. -/
theorem hasJob_add (id : String) :
    (w.add delivery effect).hasJob id ↔
      w.hasJob id ∨ (effect.applied = true ∧ id = delivery.event.id) := by
  unfold Webhook.hasJob Webhook.add Webhook.setState addJob
  dsimp only
  by_cases happlied : effect.applied = true
  · rw [if_pos happlied]
    split
    · next hthere =>
      simp only [List.any_eq_true, decide_eq_true_eq] at hthere
      refine ⟨.inl, ?_⟩
      rintro (h | ⟨-, rfl⟩)
      · exact h
      · exact hthere
    · simp [happlied, or_and_right, exists_or, eq_comm]
  · rw [if_neg happlied]
    simp [happlied]

/-- A delivery leaves the state before `queue.add`: it is answered, or it failed. -/
theorem History.leave {w' : Webhook} {step : WebhookStep} {state : DeliveryState}
    (h : History steps w)
    (hentry : (delivery, .adding) ∈ w.deliveries)
    (hrows : w'.stripeEvents = w.stripeEvents)
    (hdeliveries : w'.deliveries = (w.setState delivery.number state).deliveries)
    (hjobs : ∀ id, w'.hasJob id ↔ w.hasJob id ∨
      (id = delivery.event.id ∧
        ∃ effect, step = .add delivery.number effect ∧ effect.applied = true))
    (hadds : ∀ number effect, step = .add number effect → number = delivery.number)
    (hinserts : ∀ d effect, step ≠ .insert d effect)
    (hstate : state = .failed ∨ (state = .answered .accepted ∧ w'.hasJob delivery.event.id)) :
    History (steps ++ [step]) w' := by
  have hsnoc : ∀ id, storedBy id (steps ++ [step]) = storedBy id steps := by
    intro id
    apply storedBy_snoc
    cases step with
    | insert d effect => exact absurd rfl (hinserts d effect)
    | add => rfl
    | crash => rfl
  have hmem : ∀ {d : Delivery} {state' : DeliveryState}, (d, state') ∈ w'.deliveries →
      (d, state') ∈ w.deliveries ∨ (d = delivery ∧ state' = state) := by
    intro d state' hd
    rw [hdeliveries] at hd
    obtain ⟨old, hold, ⟨hnumber, heq⟩ | ⟨-, rfl⟩⟩ := mem_setState.1 hd
    · obtain rfl := h.entry_eq hold hentry hnumber
      obtain ⟨rfl, rfl⟩ := Prod.mk.inj heq
      exact .inr ⟨rfl, rfl⟩
    · exact .inl hold
  have hkept : ∀ entry ∈ w.deliveries, ∃ entry' ∈ w'.deliveries, entry'.1 = entry.1 := by
    intro entry hentry'
    rw [hdeliveries]
    by_cases heq : entry.1.number = delivery.number
    · exact ⟨_, mem_setState.2 ⟨entry, hentry', .inl ⟨heq, rfl⟩⟩, rfl⟩
    · exact ⟨_, mem_setState.2 ⟨entry, hentry', .inr ⟨heq, rfl⟩⟩, rfl⟩
  have hdead : ∀ {state' : DeliveryState}, state' ≠ .failed → state' ≠ .answered .accepted →
      state' ≠ state := by
    rintro state' hfailed haccepted rfl
    exact hstate.elim hfailed fun h => haccepted h.1
  constructor
  case numbers =>
    rw [hdeliveries, numbers_setState]
    exact h.numbers
  case rows =>
    intro id
    rw [hsnoc, hrows]
    exact h.rows id
  case stored =>
    intro id number hid
    rw [hsnoc] at hid
    obtain ⟨entry, hentry', hnumber, hevent⟩ := h.stored id number hid
    obtain ⟨entry', hentry'', heq⟩ := hkept entry hentry'
    exact ⟨entry', hentry'', heq ▸ hnumber, heq ▸ hevent⟩
  case jobs =>
    intro id
    rw [hjobs, h.jobs]
    simp only [hsnoc, List.mem_append, List.mem_singleton]
    constructor
    · rintro (⟨number, effect, hid, hadd, happlied⟩ | ⟨rfl, effect, rfl, happlied⟩)
      · exact ⟨number, effect, hid, .inl hadd, happlied⟩
      · exact ⟨delivery.number, effect, h.adding delivery hentry, .inr rfl, happlied⟩
    · rintro ⟨number, effect, hid, hadd | hadd, happlied⟩
      · exact .inl ⟨number, effect, hid, hadd, happlied⟩
      · -- one number, one delivery, one event
        obtain rfl := hadds number effect hadd.symm
        obtain ⟨entry, hentry', hnumber, rfl⟩ := h.stored id _ hid
        obtain rfl := h.entry_eq hentry' hentry hnumber
        exact .inr ⟨rfl, effect, hadd.symm, happlied⟩
  case adds =>
    intro number effect hadd
    rcases List.mem_append.1 hadd with hadd | hadd
    · obtain ⟨entry, hentry', hnumber⟩ := h.adds number effect hadd
      obtain ⟨entry', hentry'', heq⟩ := hkept entry hentry'
      exact ⟨entry', hentry'', heq ▸ hnumber⟩
    · obtain ⟨entry', hentry'', heq⟩ := hkept _ hentry
      exact ⟨entry', hentry'', by
        rw [heq]
        exact (hadds number effect (List.mem_singleton.1 hadd).symm).symm⟩
  case adding =>
    intro d hd
    rw [hsnoc]
    rcases hmem hd with hd | ⟨-, heq⟩
    · exact h.adding d hd
    · exact absurd heq (hdead nofun nofun)
  case accepted =>
    intro d hd
    rcases hmem hd with hd | ⟨rfl, rfl⟩
    · exact (hjobs _).2 (.inl (h.accepted d hd))
    · exact hstate.elim nofun And.right
  case duplicate =>
    intro d hd
    rcases hmem hd with hd | ⟨-, heq⟩
    · obtain ⟨before, after, rfl, hbefore⟩ := h.duplicate d hd
      exact ⟨before, after ++ [step], by simp, hbefore⟩
    · exact absurd heq (hdead nofun nofun)

theorem History.add {number : Nat} (h : History steps w)
    (hdelivery : w.delivery? number = some (delivery, .adding)) :
    History (steps ++ [.add number effect]) (w.add delivery effect) := by
  obtain ⟨hentry, rfl⟩ := mem_of_delivery? hdelivery
  refine h.leave hentry rfl rfl (fun id => ?_) (fun _ _ heq => ?_) nofun ?_
  · rw [hasJob_add]
    simp [and_comm]
  · exact (WebhookStep.add.inj heq).1.symm
  · cases effect with
    | done => exact .inr ⟨rfl, (hasJob_add _).2 (.inr ⟨rfl, rfl⟩)⟩
    | failed => exact .inl rfl

theorem History.crash {number : Nat} (h : History steps w)
    (hdelivery : w.delivery? number = some (delivery, .adding)) :
    History (steps ++ [.crash number]) (w.setState number .failed) := by
  obtain ⟨hentry, rfl⟩ := mem_of_delivery? hdelivery
  refine h.leave hentry rfl rfl (fun id => ?_) nofun nofun (.inl rfl)
  refine ⟨.inl, ?_⟩
  rintro (hjob | ⟨-, effect, heq, -⟩)
  · exact hjob
  · cases heq

theorem History.step {step : WebhookStep} {w' : Webhook} (h : History steps w)
    (hstep : w.step step = some w') : History (steps ++ [step]) w' := by
  cases step with
  | insert delivery effect =>
    simp only [Webhook.step, Option.isSome_iff_ne_none] at hstep
    split at hstep
    · cases hstep
    · next hfresh =>
      obtain rfl := Option.some.inj hstep
      exact h.insert (not_not.1 hfresh)
  | add number effect =>
    simp only [Webhook.step] at hstep
    split at hstep
    · next hdelivery =>
      obtain rfl := Option.some.inj hstep
      exact h.add hdelivery
    · cases hstep
  | crash number =>
    simp only [Webhook.step] at hstep
    split at hstep
    · next hdelivery =>
      obtain rfl := Option.some.inj hstep
      exact h.crash hdelivery
    · cases hstep

end step

/-- A run and its history. -/
theorem history_of_run {steps : List WebhookStep} {w : Webhook}
    (h : Run (StepOf Webhook.step) .empty steps w) : History steps w := by
  induction h with
  | nil => exact history_empty
  | snoc _ hstep ih => exact ih.step hstep

/-! ## Which answers have a job -/

/-- An insert that completes on a stored event is answered at once, and its answer needs the job
that the storing delivery adds. -/
theorem inOrder_of_answered {steps : List WebhookStep} {w : Webhook}
    (hrun : Run (StepOf Webhook.step) .empty steps w)
    (h : ∀ before w', before <+: steps → Run (StepOf Webhook.step) .empty before w' → Answered w') :
    InOrder steps := by
  rintro before delivery after rfl number hstored
  rw [List.append_cons] at hrun
  obtain ⟨w', hrun', -⟩ := hrun.split
  obtain ⟨w₀, hrun₀, hstep⟩ := hrun'.last
  have hhistory := history_of_run hrun₀
  have hanswered := h _ w' ⟨after, by simp⟩ hrun'
  simp only [StepOf, Webhook.step] at hstep
  split at hstep
  · cases hstep
  · obtain rfl := Option.some.inj hstep
    obtain ⟨state, hdeliveries, -, -, hduplicate⟩ :=
      insert_deliveries w₀ delivery .done
    have hrow : ∃ row ∈ w₀.stripeEvents.rows, row.stripeEventId = delivery.event.id := by
      rw [hhistory.rows, hstored]
      rfl
    obtain rfl := hduplicate.2 ⟨rfl, hrow⟩
    have hjob : w₀.hasJob delivery.event.id :=
      hanswered delivery .duplicate (by rw [hdeliveries]; simp)
    obtain ⟨number', effect, hstored', hadd, happlied⟩ := (hhistory.jobs _).1 hjob
    obtain rfl := Option.some.inj (hstored.symm.trans hstored')
    exact ⟨effect, hadd, happlied⟩

/-- **Main result.** In a run of deliveries, every answer is given when a job for its event has been
added exactly when no insert of a stored event completes before the delivery that stored it has
added the job. -/
theorem persistAndEnqueue_iff {steps : List WebhookStep} {w : Webhook}
    (hrun : Run (StepOf Webhook.step) .empty steps w) :
    (∀ before w', before <+: steps → Run (StepOf Webhook.step) .empty before w' → Answered w') ↔
      InOrder steps := by
  refine ⟨inOrder_of_answered hrun, ?_⟩
  rintro horder before w' ⟨rest, rfl⟩ hrun' delivery answer hdelivery
  have hhistory := history_of_run hrun'
  cases answer with
  | accepted => exact hhistory.accepted delivery hdelivery
  | duplicate =>
    obtain ⟨first, after, rfl, hstored⟩ := hhistory.duplicate delivery hdelivery
    obtain ⟨number, hnumber⟩ := Option.isSome_iff_exists.1 hstored
    obtain ⟨effect, hadd, happlied⟩ :=
      horder first delivery (after ++ rest) (by simp) number hnumber
    refine (hhistory.jobs _).2 ⟨number, effect, ?_, List.mem_append_left _ hadd, happlied⟩
    rw [storedBy_append, hnumber, Option.some_or]

/-! ## A lost job -/

def paidEvent : IncomingEvent :=
  { id := "evt_1", type := "checkout.session.completed", livemode := true, apiVersion := none,
    json := .object [] }

/-- The row goes in, `queue.add` rejects, and the event is delivered again. -/
def lostJob : List WebhookStep :=
  [.insert ⟨0, paidEvent⟩ .done, .add 0 (.failed false), .insert ⟨1, paidEvent⟩ .done]

/-- The second delivery is answered `duplicate`, with no job anywhere. -/
theorem lostJob_stranded :
    ∃ w, Run (StepOf Webhook.step) .empty lostJob w ∧
      (⟨1, paidEvent⟩, .answered .duplicate) ∈ w.deliveries ∧ w.jobs = [] ∧ ¬ Answered w := by
  have hrun : Run (StepOf Webhook.step) .empty lostJob _ := run_of_runList rfl
  refine ⟨_, hrun, .tail _ (.head _), rfl, fun h => ?_⟩
  obtain ⟨job, hjob, -⟩ := h ⟨1, paidEvent⟩ .duplicate (.tail _ (.head _))
  cases hjob

/-- The event is delivered again only after its job went in. -/
def slowJob : List WebhookStep :=
  [.insert ⟨0, paidEvent⟩ .done, .add 0 (.failed true), .insert ⟨1, paidEvent⟩ .done]

theorem slowJob_answered :
    ∃ w, Run (StepOf Webhook.step) .empty slowJob w ∧
      ((∀ before w', before <+: slowJob → Run (StepOf Webhook.step) .empty before w' →
        Answered w') ↔ InOrder slowJob) := by
  have hrun : Run (StepOf Webhook.step) .empty slowJob _ := run_of_runList rfl
  exact ⟨_, hrun, persistAndEnqueue_iff hrun⟩

end RcOnline.Api
