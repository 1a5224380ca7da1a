import RcOnline.Domain.QueueOffers

/-!
# Places of the fair ride queue

A user has one active place, and an accepted place comes from one acceptance in time of the one
offer that was made to it. A place that has left the line never waits again.
-/

namespace RcOnline.Domain

open RcOnline.Lib FairRideQueue

/-- A queue and the acceptances that have returned, in their order. -/
structure QueueRun where
  queue : FairRideQueue
  acceptances : List Acceptance

namespace QueueRun

variable {run : QueueRun} {host : Host} {member after : QueueMember} {offer : RideOffer}
  {calls : List QueueCall}

def empty : QueueRun := ⟨.empty, []⟩

def perform (host : Host) (run : QueueRun) (call : QueueCall) : QueueRun where
  queue := run.queue.perform host call
  acceptances := run.acceptances ++ (run.queue.acceptance? call).toList

/-- The offer was made to the member, and accepted in time for one of its cars. -/
structure Taken (run : QueueRun) (member : QueueMember) (offer : RideOffer) : Prop where
  stored : run.queue.Stored offer
  entry : offer.queueEntryId = member.id
  user : offer.userId = member.userId
  acceptance : ∃ acceptance ∈ run.acceptances, acceptance.offerId = offer.id ∧
    offer.acceptedCarId = some acceptance.carId ∧ acceptance.carId ∈ offer.carIds ∧
    acceptance.at' < offer.expiresAt

/-- A member that joins waits and has a new id, and so does an offer. -/
def FreshCall (queue : FairRideQueue) : QueueCall → Prop
  | .join member => member.status = .waiting ∧ member.id ∉ queue.members.map (·.id)
  | .offer id .. => queue.offers.get? id = none
  | _ => True

def FreshStep (host : Host) (run : QueueRun) (call : QueueCall) (after : QueueRun) : Prop :=
  FreshCall run.queue call ∧ after = run.perform host call

/-- What holds of the places after any calls. -/
structure Orderly (run : QueueRun) : Prop where
  consistent : run.queue.Consistent
  alone : run.queue.members.Pairwise fun a b =>
    a.userId = b.userId → a.status.active = true → b.status.active = false
  taken : ∀ member ∈ run.queue.members, member.status = .accepted → ∃ offer, run.Taken member offer
  /-- The member of an offer that was accepted is accepted. -/
  logged : ∀ acceptance ∈ run.acceptances, ∃ offer member, run.queue.Stored offer ∧
    offer.id = acceptance.offerId ∧ member ∈ run.queue.members ∧
    member.id = offer.queueEntryId ∧ member.status = .accepted
  once : (run.acceptances.map (·.offerId)).Nodup

theorem orderly_empty : empty.Orderly where
  consistent := consistent_empty
  alone := .nil
  taken := nofun
  logged := nofun
  once := List.nodup_nil

/-! ## Steps without an acceptance -/

/-- A change that takes no place and leaves an accepted member alone. -/
structure Quiet (member after : QueueMember) : Prop where
  id : after.id = member.id
  userId : after.userId = member.userId
  active : after.status.active = true → member.status.active = true
  accepted : member.status = .accepted ∨ after.status = .accepted → after = member

theorem Quiet.refl (member : QueueMember) : Quiet member member :=
  ⟨rfl, rfl, fun h => h, fun _ => rfl⟩

theorem Quiet.trans {last : QueueMember} (h : Quiet member after) (h' : Quiet after last) :
    Quiet member last where
  id := h'.id.trans h.id
  userId := h'.userId.trans h.userId
  active := fun hactive => h.active (h'.active hactive)
  accepted := by
    rintro (haccepted | haccepted)
    · have hsame := h.accepted (.inl haccepted)
      exact (h'.accepted (.inl (hsame ▸ haccepted))).trans hsame
    · have hsame := h'.accepted (.inr haccepted)
      exact hsame.trans (h.accepted (.inr (hsame ▸ haccepted)))

theorem quiet_expired (host : Host) (at' : Date) (member : QueueMember) :
    Quiet member (expired host at' member) := by
  unfold expired
  split
  · next hlapsed =>
    refine ⟨rfl, rfl, nofun, ?_⟩
    rintro (haccepted | haccepted)
    · rw [lapsed, haccepted] at hlapsed
      cases hlapsed
    · cases haccepted
  · exact .refl member

/-- A mark other than accepted, of a member that waits. -/
theorem quiet_mark {queue : FairRideQueue} (h : queue.Distinct) (hmem : member ∈ queue.members)
    (hwaiting : member.status = .waiting) {status : MemberStatus} (hstatus : status ≠ .accepted)
    {other : QueueMember} (hother : other ∈ queue.members) :
    Quiet other (mark member.id status other) := by
  unfold mark
  split
  · next hid =>
    obtain rfl := h.eq_of_id hother hmem hid
    refine ⟨rfl, rfl, fun _ => by rw [hwaiting]; rfl, ?_⟩
    rintro (haccepted | haccepted)
    · cases hwaiting.symm.trans haccepted
    · exact absurd haccepted hstatus
  · exact .refl other

/-- Quiet changes of members keep what holds, when no offer is lost. -/
theorem Orderly.quiet (h : run.Orderly) {after : FairRideQueue} (hconsistent : after.Consistent)
    {f : QueueMember → QueueMember} (hmembers : after.members = run.queue.members.map f)
    (hquiet : ∀ member ∈ run.queue.members, Quiet member (f member))
    (hstored : ∀ offer, run.queue.Stored offer → after.Stored offer) :
    Orderly ⟨after, run.acceptances⟩ where
  consistent := hconsistent
  alone := by
    dsimp only
    rw [hmembers, List.pairwise_map]
    refine h.alone.imp_of_mem fun {a b} ha hb halone huser hactive => ?_
    rw [(hquiet a ha).userId, (hquiet b hb).userId] at huser
    refine Bool.eq_false_iff.2 fun hactive' => ?_
    have hidle := halone huser ((hquiet a ha).active hactive)
    rw [(hquiet b hb).active hactive'] at hidle
    cases hidle
  taken := by
    intro member hmem haccepted
    dsimp only at hmem
    rw [hmembers] at hmem
    obtain ⟨before, hbefore, rfl⟩ := List.mem_map.1 hmem
    have hsame := (hquiet before hbefore).accepted (.inr haccepted)
    rw [hsame] at haccepted ⊢
    obtain ⟨offer, htaken⟩ := h.taken before hbefore haccepted
    exact ⟨offer, hstored offer htaken.stored, htaken.entry, htaken.user, htaken.acceptance⟩
  logged := by
    intro acceptance hlog
    obtain ⟨offer, member, hoffer, hid, hmem, hentry, haccepted⟩ := h.logged acceptance hlog
    refine ⟨offer, member, hstored offer hoffer, hid, ?_, hentry, haccepted⟩
    dsimp only
    rw [hmembers]
    exact List.mem_map.2 ⟨member, hmem, (hquiet member hmem).accepted (.inl haccepted)⟩
  once := h.once

/-! ## Any step -/

/-- A waiting member joins whose user has no place. -/
theorem Orderly.joined (h : run.Orderly)
    (hconsistent : Consistent { run.queue with members := run.queue.members ++ [member] })
    (hwaiting : member.status = .waiting)
    (halone : ∀ other ∈ run.queue.members, other.userId = member.userId →
      other.status.active = false) :
    Orderly ⟨{ run.queue with members := run.queue.members ++ [member] }, run.acceptances⟩ where
  consistent := hconsistent
  alone := by
    refine List.pairwise_append.2 ⟨h.alone, List.pairwise_singleton .., fun a ha b hb => ?_⟩
    obtain rfl := List.mem_singleton.1 hb
    intro huser hactive
    rw [halone a ha huser] at hactive
    cases hactive
  taken := by
    intro other hmem haccepted
    rcases List.mem_append.1 hmem with hmem | hmem
    · obtain ⟨offer, htaken⟩ := h.taken other hmem haccepted
      exact ⟨offer, htaken.stored, htaken.entry, htaken.user, htaken.acceptance⟩
    · obtain rfl := List.mem_singleton.1 hmem
      cases hwaiting.symm.trans haccepted
  logged := by
    intro acceptance hlog
    obtain ⟨offer, other, hoffer, hid, hmem, hother⟩ := h.logged acceptance hlog
    exact ⟨offer, other, hoffer, hid, List.mem_append_left _ hmem, hother⟩
  once := h.once

/-- An offered member accepts an offer in time. -/
theorem Orderly.accepted (h : run.Orderly) {carId : String} {at' : Int}
    (hoffer : run.queue.Stored offer) (htime : at' < offer.expiresAt)
    (hcar : carId ∈ offer.carIds) (hmem : member ∈ run.queue.members)
    (hid : member.id = offer.queueEntryId) (hoffered : member.status = .offered)
    {after : FairRideQueue} (hconsistent : after.Consistent)
    (hafter : after = ⟨run.queue.members.map (mark member.id .accepted),
      run.queue.offers.set offer.id { offer with acceptedCarId := some carId }⟩) :
    Orderly ⟨after, run.acceptances ++ [⟨offer.id, carId, at'⟩]⟩ := by
  -- no offer that was accepted before is this one
  have hother : ∀ {other : RideOffer} {holder : QueueMember}, run.queue.Stored other →
      holder ∈ run.queue.members → holder.id = other.queueEntryId → holder.status = .accepted →
      other.id ≠ offer.id := by
    intro other holder hstored hholder hentry haccepted hsame
    rw [Stored, hsame, hoffer] at hstored
    obtain rfl := Option.some.inj hstored
    obtain rfl := h.consistent.distinct.eq_of_id hholder hmem (hentry.trans hid.symm)
    cases hoffered.symm.trans haccepted
  have hkept : ∀ {other : RideOffer}, run.queue.Stored other → other.id ≠ offer.id →
      after.Stored other := by
    intro other hstored hne
    rw [hafter]
    exact hstored.set hne _
  have hstored : after.Stored { offer with acceptedCarId := some carId } := by
    rw [hafter]
    exact OrdMap.get?_set_self ..
  have hmarked : { member with status := .accepted } ∈ after.members := by
    rw [hafter, ← mark_of_id]
    exact List.mem_map_of_mem hmem
  refine ⟨hconsistent, ?_, ?_, ?_, ?_⟩
  · have hactive : ∀ other ∈ run.queue.members,
        (mark member.id .accepted other).userId = other.userId ∧
        (mark member.id .accepted other).status.active = other.status.active := by
      intro other hmem'
      unfold mark
      split
      · next hsame =>
        obtain rfl := h.consistent.distinct.eq_of_id hmem' hmem hsame
        rw [hoffered]
        exact ⟨rfl, rfl⟩
      · exact ⟨rfl, rfl⟩
    dsimp only
    rw [hafter, List.pairwise_map]
    refine h.alone.imp_of_mem fun {a b} ha hb halone => ?_
    rwa [(hactive a ha).1, (hactive b hb).1, (hactive a ha).2, (hactive b hb).2]
  · intro other hmem' haccepted
    dsimp only at hmem'
    rw [hafter] at hmem'
    obtain ⟨before, hbefore, rfl⟩ := List.mem_map.1 hmem'
    by_cases hsame : before.id = member.id
    · obtain rfl := h.consistent.distinct.eq_of_id hbefore hmem hsame
      obtain ⟨holder, hholder, hentry, huser, -⟩ := h.consistent.made hoffer
      obtain rfl := h.consistent.distinct.eq_of_id hholder hmem (hentry.trans hid.symm)
      rw [mark_of_id]
      exact ⟨_, hstored, hid.symm, huser.symm, _, List.mem_append_right _ List.mem_cons_self, rfl,
        rfl, hcar, htime⟩
    · rw [mark_of_ne hsame] at haccepted ⊢
      obtain ⟨other, htaken⟩ := h.taken before hbefore haccepted
      obtain ⟨acceptance, hlog, hacceptance⟩ := htaken.acceptance
      exact ⟨other, hkept htaken.stored (hother htaken.stored hbefore htaken.entry.symm haccepted),
        htaken.entry, htaken.user, acceptance, List.mem_append_left _ hlog, hacceptance⟩
  · intro acceptance hlog
    rcases List.mem_append.1 hlog with hlog | hlog
    · obtain ⟨other, holder, hstored', hlogged, hholder, hentry, haccepted⟩ :=
        h.logged acceptance hlog
      refine ⟨other, holder, hkept hstored' (hother hstored' hholder hentry haccepted), hlogged, ?_,
        hentry, haccepted⟩
      have hne : holder.id ≠ member.id := fun hsame => by
        obtain rfl := h.consistent.distinct.eq_of_id hholder hmem hsame
        cases hoffered.symm.trans haccepted
      dsimp only
      rw [hafter]
      exact List.mem_map.2 ⟨holder, hholder, mark_of_ne hne⟩
    · obtain rfl := List.mem_singleton.1 hlog
      exact ⟨_, _, hstored, rfl, hmarked, hid, rfl⟩
  · rw [List.map_append]
    refine List.nodup_append.2 ⟨h.once, List.nodup_singleton _, ?_⟩
    intro id hlog id' hid'
    obtain rfl := List.mem_singleton.1 hid'
    obtain ⟨acceptance, hacceptance, rfl⟩ := List.mem_map.1 hlog
    obtain ⟨other, holder, hstored', hlogged, hholder, hentry, haccepted⟩ :=
      h.logged acceptance hacceptance
    rw [← hlogged]
    exact hother hstored' hholder hentry haccepted

theorem Orderly.perform (h : run.Orderly) {call : QueueCall} (hfresh : FreshCall run.queue call) :
    (run.perform host call).Orderly := by
  have hjoin : run.queue.FreshJoin call := by
    cases call with
    | join member => exact hfresh.2
    | leave | offer | accept | snapshot => trivial
  have hconsistent := h.consistent.perform host hjoin
  have hmoves := perform_moves h.consistent.distinct host call
  unfold QueueRun.perform
  generalize run.queue.perform host call = after, run.queue.acceptance? call = acceptance
    at hmoves hconsistent
  have hnone : run.acceptances ++ (none : Option Acceptance).toList = run.acceptances :=
    List.append_nil _
  have hdistinct := h.consistent.distinct
  cases hmoves with
  | stays =>
    rw [hnone]
    exact h
  | joined halone =>
    rw [hnone]
    exact h.joined hconsistent hfresh.1 halone
  | left hmem hwaiting =>
    rw [hnone]
    exact h.quiet hconsistent rfl
      (fun other hother => quiet_mark hdistinct hmem hwaiting (by decide) hother) fun _ h => h
  | read | notOffered =>
    rw [hnone]
    exact h.quiet hconsistent rfl (fun other _ => quiet_expired host _ other) fun _ h => h
  | misdated hmem hwaiting hexpires =>
    next id carIds offeredAt ttlSeconds member =>
    rw [hnone]
    refine h.quiet hconsistent (List.map_map ..) (fun other hother => ?_) fun _ h => h
    have hother' := List.mem_map_of_mem hother (f := expired host (some offeredAt))
    exact (quiet_expired host _ other).trans
      (quiet_mark (hdistinct.expire host _) hmem hwaiting (by decide) hother')
  | offered hmem hwaiting hexpires =>
    next id carIds offeredAt ttlSeconds member expiresAt =>
    rw [hnone]
    refine h.quiet hconsistent (List.map_map ..) (fun other hother => ?_) fun other hstored => ?_
    · have hother' := List.mem_map_of_mem hother (f := expired host (some offeredAt))
      exact (quiet_expired host _ other).trans
        (quiet_mark (hdistinct.expire host _) hmem hwaiting (by decide) hother')
    · refine hstored.set (fun hsame => ?_) _
      rw [Stored, hsame] at hstored
      cases hfresh.symm.trans hstored
  | accepted hget htime hcar hmem hid hoffered =>
    next offerId carId at' offer member =>
    obtain rfl := h.consistent.keyed hget
    exact h.accepted hget htime hcar hmem hid hoffered hconsistent rfl

/-! ## Runs -/

/-- The entry has left the line. -/
def Called (queue : FairRideQueue) (id : String) : Prop :=
  ∃ member ∈ queue.members, member.id = id ∧ member.status ≠ .waiting

theorem Called.map {queue : FairRideQueue} {id : String} (h : Called queue id)
    {f : QueueMember → QueueMember} (hf : ∀ member, Progress member (f member))
    {offers : OrdMap String RideOffer} : Called ⟨queue.members.map f, offers⟩ id := by
  obtain ⟨member, hmem, hid, hstatus⟩ := h
  exact ⟨f member, List.mem_map_of_mem hmem, (hf member).id.trans hid, (hf member).status hstatus⟩

theorem Called.perform {queue : FairRideQueue} {id : String} (h : Called queue id)
    (hdistinct : queue.Distinct) (call : QueueCall) : Called (queue.perform host call) id := by
  have hmoves := perform_moves hdistinct host call
  generalize queue.perform host call = after, queue.acceptance? call = acceptance at hmoves
  cases hmoves with
  | stays => exact h
  | joined =>
    obtain ⟨member, hmem, hcalled⟩ := h
    exact ⟨member, List.mem_append_left _ hmem, hcalled⟩
  | left => exact h.map (progress_mark _ _ (by decide))
  | read | notOffered => exact h.map (progress_expired host _)
  | misdated | offered =>
    refine Called.map ?_ (progress_mark _ _ (by decide))
    exact h.map (progress_expired host _)
  | accepted => exact h.map (progress_mark _ _ (by decide))

theorem orderly_of_run (hrun : Run (FreshStep host) empty calls run) : run.Orderly := by
  refine hrun.invariant (I := Orderly) orderly_empty ?_
  rintro before after call h ⟨hfresh, rfl⟩
  exact h.perform hfresh

/-- **Main result.** A user has one active place, an accepted place comes from the one offer made to
it and one acceptance in time, no offer is accepted twice, and no place waits again. -/
theorem one_place_one_acceptance (hrun : Run (FreshStep host) empty calls run) :
    (run.queue.members.Pairwise fun a b =>
      a.userId = b.userId → a.status.active = true → b.status.active = false) ∧
    (∀ member ∈ run.queue.members, member.status = .accepted →
      ∃ offer, run.Taken member offer ∧
        ∀ other, run.queue.Stored other → other.queueEntryId = member.id → other = offer) ∧
    (run.acceptances.map (·.offerId)).Nodup ∧
    ∀ calls' after, Run (FreshStep host) run calls' after →
      ∀ member ∈ run.queue.members, member.status ≠ .waiting →
        ∀ later ∈ after.queue.members, later.id = member.id → later.status ≠ .waiting := by
  have h := orderly_of_run hrun
  refine ⟨h.alone, fun member hmem haccepted => ?_, h.once, ?_⟩
  · obtain ⟨offer, htaken⟩ := h.taken member hmem haccepted
    exact ⟨offer, htaken, fun other hstored hentry =>
      h.consistent.single hstored htaken.stored (hentry.trans htaken.entry.symm)⟩
  · intro calls' after hrun' member hmem hstatus later hlater hid
    have hlast : Orderly after ∧ Called after.queue member.id := by
      refine hrun'.invariant (I := fun after => Orderly after ∧ Called after.queue member.id)
        ⟨h, member, hmem, rfl, hstatus⟩ ?_
      rintro before after call ⟨horderly, hcalled⟩ ⟨hfresh, rfl⟩
      exact ⟨horderly.perform hfresh, hcalled.perform horderly.consistent.distinct call⟩
    obtain ⟨horderly, other, hother, hsame, hcalled⟩ := hlast
    obtain rfl := horderly.consistent.distinct.eq_of_id hlater hother (hid.trans hsame.symm)
    exact hcalled

/-- The run of `offeredCalls`, in which the driver then accepts. -/
def acceptedRun : QueueRun :=
  perform clockHost ⟨offeredQueue, []⟩ (.accept "offer" "car" 1000)

theorem acceptedRun_places :
    (acceptedRun.queue.members.Pairwise fun a b =>
      a.userId = b.userId → a.status.active = true → b.status.active = false) ∧
    (∀ member ∈ acceptedRun.queue.members, member.status = .accepted →
      ∃ offer, acceptedRun.Taken member offer ∧
        ∀ other, acceptedRun.queue.Stored other → other.queueEntryId = member.id →
          other = offer) ∧
    (acceptedRun.acceptances.map (·.offerId)).Nodup ∧
    ∀ calls' after, Run (FreshStep clockHost) acceptedRun calls' after →
      ∀ member ∈ acceptedRun.queue.members, member.status ≠ .waiting →
        ∀ later ∈ after.queue.members, later.id = member.id → later.status ≠ .waiting := by
  have hjoin : FreshStep clockHost empty (.join driver) ⟨⟨[driver], ∅⟩, []⟩ :=
    ⟨⟨rfl, List.not_mem_nil⟩, rfl⟩
  have hoffer : FreshStep clockHost ⟨⟨[driver], ∅⟩, []⟩ (.offer "offer" ["car"] 0 none)
      ⟨offeredQueue, []⟩ := ⟨rfl, congrArg (QueueRun.mk · []) offered_driver.symm⟩
  have haccept : FreshStep clockHost ⟨offeredQueue, []⟩ (.accept "offer" "car" 1000)
      acceptedRun := ⟨trivial, rfl⟩
  exact one_place_one_acceptance (.cons hjoin (.cons hoffer (.cons haccept .nil)))

-- the acceptance of that run returns
example : acceptedRun.acceptances = [⟨"offer", "car", 1000⟩] := by decide

end QueueRun

end RcOnline.Domain
