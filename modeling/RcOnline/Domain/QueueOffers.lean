import RcOnline.Domain.Queue
import RcOnline.Lib.Steps

/-!
# Offers of the fair ride queue

Members and offers end at their own times: reading the queue expires a member, accepting looks at
the offer. A member whose offer has lapsed stays offered until its own time has come: it can neither
accept nor leave nor join anew. Otherwise it holds an offer it can accept.
-/

namespace RcOnline.Domain.FairRideQueue

open RcOnline.Lib

variable {queue : FairRideQueue} {host : Host} {member after : QueueMember} {offer : RideOffer}
  {calls : List QueueCall}

/-- The queue has made the offer. -/
def Stored (queue : FairRideQueue) (offer : RideOffer) : Prop :=
  queue.offers.get? offer.id = some offer

/-- The offer was made to the member, and it has not been accepted. -/
structure Holds (queue : FairRideQueue) (member : QueueMember) (offer : RideOffer) : Prop where
  stored : queue.Stored offer
  entry : offer.queueEntryId = member.id
  user : offer.userId = member.userId
  accepted : offer.acceptedCarId = none

theorem Holds.of_offers (h : queue.Holds member offer) {other : FairRideQueue}
    (hoffers : other.offers = queue.offers) : other.Holds member offer where
  stored := by
    rw [Stored, hoffers]
    exact h.stored
  entry := h.entry
  user := h.user
  accepted := h.accepted

/-! ## Members -/

/-- A member stays as it is or gets a status other than waiting. -/
def Progress (member after : QueueMember) : Prop :=
  after = member ∨ ∃ status, status ≠ MemberStatus.waiting ∧ after = { member with status }

namespace Progress

theorem id (h : Progress member after) : after.id = member.id := by
  rcases h with rfl | ⟨_, _, rfl⟩ <;> rfl

theorem userId (h : Progress member after) : after.userId = member.userId := by
  rcases h with rfl | ⟨_, _, rfl⟩ <;> rfl

theorem status (h : Progress member after) (hstatus : member.status ≠ .waiting) :
    after.status ≠ .waiting := by
  rcases h with rfl | ⟨_, hnew, rfl⟩
  · exact hstatus
  · exact hnew

end Progress

theorem progress_mark (id : String) (status : MemberStatus) (hstatus : status ≠ .waiting)
    (member : QueueMember) : Progress member (mark id status member) := by
  unfold mark
  split
  · exact .inr ⟨status, hstatus, rfl⟩
  · exact .inl rfl

theorem progress_expired (host : Host) (at' : Date) (member : QueueMember) :
    Progress member (expired host at' member) := by
  unfold expired
  split
  · exact .inr ⟨.expired, by decide, rfl⟩
  · exact .inl rfl

/-- Expiry offers nothing to anyone. -/
theorem eq_of_expired_status {status : MemberStatus} (hstatus : status ≠ .expired)
    {at' : Date} (h : (expired host at' member).status = status) :
    expired host at' member = member ∧ ¬ lapsed host at' member := by
  unfold expired at h ⊢
  split at h
  · exact absurd h.symm hstatus
  · next hlapsed => exact ⟨if_neg hlapsed, hlapsed⟩

/-- A mark of another status leaves the members that have this one alone. -/
theorem eq_of_mark_status {id : String} {status mark' : MemberStatus} (hne : mark' ≠ status)
    (h : (mark id mark' member).status = status) :
    mark id mark' member = member ∧ member.id ≠ id := by
  unfold mark at h ⊢
  split at h
  · exact absurd h hne
  · next hid => exact ⟨if_neg hid, hid⟩

/-! ## Members and offers belong together -/

/-- Every offer was made to a member, and no member got two. -/
structure Consistent (queue : FairRideQueue) : Prop where
  distinct : queue.Distinct
  keyed : ∀ {id offer}, queue.offers.get? id = some offer → offer.id = id
  made : ∀ {offer}, queue.Stored offer → ∃ member ∈ queue.members,
    member.id = offer.queueEntryId ∧ member.userId = offer.userId ∧ member.status ≠ .waiting
  single : ∀ {offer other}, queue.Stored offer → queue.Stored other →
    offer.queueEntryId = other.queueEntryId → offer = other

theorem consistent_empty : Consistent empty where
  distinct := List.nodup_nil
  keyed := nofun
  made := nofun
  single := nofun

/-- An offer that is written leaves the offers with another id alone. -/
theorem Stored.set (h : queue.Stored offer) {members : List QueueMember} {id : String}
    (hne : offer.id ≠ id) (other : RideOffer) :
    Stored { members, offers := queue.offers.set id other } offer :=
  (OrdMap.get?_set_of_ne _ _ hne.symm).trans h

theorem stored_set {members : List QueueMember} {id : String} (hkey : offer.id = id)
    {other : RideOffer} :
    Stored { members, offers := queue.offers.set id offer } other ↔
      other = offer ∨ (other.id ≠ id ∧ queue.Stored other) := by
  unfold Stored
  dsimp only
  rw [OrdMap.get?_set]
  split
  · next hid =>
    refine ⟨fun heq => .inl (Option.some.inj heq).symm, fun hor => ?_⟩
    rcases hor with rfl | ⟨hne, -⟩
    · rfl
    · exact absurd hid.symm hne
  · next hid =>
    refine ⟨fun hstored => .inr ⟨fun heq => hid heq.symm, hstored⟩, fun hor => ?_⟩
    rcases hor with rfl | ⟨-, hstored⟩
    · exact absurd hkey.symm hid
    · exact hstored

namespace Consistent

theorem stored (h : queue.Consistent) {id : String} (hget : queue.offers.get? id = some offer) :
    queue.Stored offer := by
  rwa [Stored, h.keyed hget]

/-- Members make progress. -/
theorem map (h : queue.Consistent) {f : QueueMember → QueueMember}
    (hf : ∀ member, Progress member (f member)) :
    Consistent { queue with members := queue.members.map f } where
  distinct := h.distinct.map fun member => (hf member).id
  keyed := h.keyed
  made := by
    intro offer hstored
    obtain ⟨member, hmem, hid, huser, hstatus⟩ := h.made hstored
    exact ⟨f member, List.mem_map_of_mem hmem, (hf member).id.trans hid,
      (hf member).userId.trans huser, (hf member).status hstatus⟩
  single := h.single

theorem expire (h : queue.Consistent) (host : Host) (at' : Date) :
    (queue.expire host at').Consistent := h.map (progress_expired host at')

theorem push (h : queue.Consistent) (hfresh : member.id ∉ queue.members.map (·.id)) :
    Consistent { queue with members := queue.members ++ [member] } where
  distinct := by
    rw [Distinct, List.map_append]
    refine List.nodup_append.2 ⟨h.distinct, List.nodup_singleton _, fun id hid other hother => ?_⟩
    obtain rfl := List.mem_singleton.1 hother
    rintro rfl
    exact hfresh hid
  keyed := h.keyed
  made := by
    intro offer hstored
    obtain ⟨member, hmem, hmade⟩ := h.made hstored
    exact ⟨member, List.mem_append_left _ hmem, hmade⟩
  single := h.single

/-- An offer is written for a member that no other offer was made to. -/
theorem set (h : queue.Consistent) {id : String} (hkey : offer.id = id)
    (hmem : member ∈ queue.members) (hid : member.id = offer.queueEntryId)
    (huser : member.userId = offer.userId) (hstatus : member.status ≠ .waiting)
    (hlone : ∀ {other}, queue.Stored other → other.queueEntryId = offer.queueEntryId →
      other.id = id) :
    Consistent { queue with offers := queue.offers.set id offer } := by
  refine ⟨h.distinct, ?_, ?_, ?_⟩
  · intro id other hget
    dsimp only at hget
    rw [OrdMap.get?_set] at hget
    split at hget
    · next heq =>
      obtain rfl := Option.some.inj hget
      exact hkey.trans heq
    · exact h.keyed hget
  · intro other hstored
    rcases (stored_set hkey).1 hstored with rfl | ⟨-, hstored⟩
    · exact ⟨member, hmem, hid, huser, hstatus⟩
    · exact h.made hstored
  · intro a b ha hb heq
    rcases (stored_set hkey).1 ha with rfl | ⟨hne, ha'⟩
    · rcases (stored_set hkey).1 hb with hb' | ⟨hne, hb'⟩
      · exact hb'.symm
      · exact absurd (hlone hb' heq.symm) hne
    · rcases (stored_set hkey).1 hb with rfl | ⟨-, hb'⟩
      · exact absurd (hlone ha' heq) hne
      · exact h.single ha' hb' heq

end Consistent

/-- The ids of members that join are distinct. -/
def FreshJoin (queue : FairRideQueue) : QueueCall → Prop
  | .join member => member.id ∉ queue.members.map (·.id)
  | _ => True

/-- No offer was made to a member that waits. -/
theorem Consistent.not_made (h : queue.Consistent) (hmem : member ∈ queue.members)
    (hwaiting : member.status = .waiting) (hstored : queue.Stored offer) :
    offer.queueEntryId ≠ member.id := by
  intro hentry
  obtain ⟨holder, hholder, hid, -, hstatus⟩ := h.made hstored
  obtain rfl := h.distinct.eq_of_id hholder hmem (hid.trans hentry)
  exact hstatus hwaiting

/-- Offers belong to members, whatever is called. -/
theorem Consistent.perform (h : queue.Consistent) (host : Host) {call : QueueCall}
    (hfresh : queue.FreshJoin call) : (queue.perform host call).Consistent := by
  have hmoves := perform_moves h.distinct host call
  generalize queue.perform host call = after, queue.acceptance? call = acceptance at hmoves
  cases hmoves with
  | stays => exact h
  | joined => exact h.push hfresh
  | left => exact h.map (progress_mark _ _ (by decide))
  | read | notOffered => exact h.expire host _
  | misdated => exact (h.expire host _).map (progress_mark _ _ (by decide))
  | offered hmem hwaiting hexpires =>
    next id carIds offeredAt ttlSeconds member expiresAt =>
    have h' := h.expire host (some offeredAt)
    have hmarked := h'.map (progress_mark member.id .offered (by decide))
    have hmem' := List.mem_map_of_mem hmem (f := mark member.id .offered)
    rw [mark_of_id] at hmem'
    refine hmarked.set rfl hmem' rfl rfl nofun ?_
    exact fun hstored hentry => absurd hentry (h'.not_made hmem hwaiting hstored)
  | accepted hget htime hcar hmem hid hoffered =>
    next offerId carId at' offer member =>
    obtain rfl := h.keyed hget
    have hmarked := h.map (progress_mark member.id .accepted (by decide))
    obtain ⟨holder, hholder, hholderId, huser, -⟩ := h.made hget
    obtain rfl := h.distinct.eq_of_id hmem hholder (hid.trans hholderId.symm)
    have hmem' := List.mem_map_of_mem hmem (f := mark member.id .accepted)
    rw [mark_of_id] at hmem'
    refine hmarked.set rfl hmem' hid huser nofun ?_
    exact fun hstored hentry => congrArg RideOffer.id (h.single hstored hget hentry)

/-! ## Offered members hold offers -/

/-- Every offered member holds an offer, lapsed or not. -/
def Served (queue : FairRideQueue) : Prop :=
  ∀ member ∈ queue.members, member.status = .offered → ∃ offer, queue.Holds member offer

/-- What leaves nobody offered without an offer: a member that joins is not offered already, and an
offer to a waiting member has an end and does not take the id of one that is still held. -/
def KeepsOffers (host : Host) (queue : FairRideQueue) : QueueCall → Prop
  | .join member => member.status = .offered →
    ∃ other ∈ queue.members, other.userId = member.userId ∧ other.status.active = true
  | .offer id _ offeredAt ttlSeconds =>
    let queue := queue.expire host (some offeredAt)
    (∃ member ∈ queue.members, member.status = .waiting) →
      offerExpiry (some offeredAt) (ttlSeconds.getD (.ofInt 30)) ≠ none ∧
      ∀ member ∈ queue.members, member.status = .offered →
        ∀ offer, queue.Holds member offer → offer.id ≠ id
  | _ => True

namespace Served

/-- Members that become something else leave the offers of the others alone. -/
theorem map (h : queue.Served) {f : QueueMember → QueueMember}
    (hf : ∀ member, (f member).status = .offered → f member = member) :
    Served { queue with members := queue.members.map f } := by
  intro member hmem hstatus
  obtain ⟨before, hbefore, rfl⟩ := List.mem_map.1 hmem
  have hsame := hf before hstatus
  rw [hsame] at hstatus ⊢
  obtain ⟨offer, hholds⟩ := h before hbefore hstatus
  exact ⟨offer, hholds.of_offers rfl⟩

theorem expire (h : queue.Served) (host : Host) (at' : Date) :
    (queue.expire host at').Served :=
  h.map fun _ hstatus => (eq_of_expired_status (by decide) hstatus).1

theorem push (h : queue.Served) (hstatus : member.status ≠ .offered) :
    Served { queue with members := queue.members ++ [member] } := by
  intro other hmem hoffered
  rcases List.mem_append.1 hmem with hmem | hmem
  · obtain ⟨offer, hholds⟩ := h other hmem hoffered
    exact ⟨offer, hholds.of_offers rfl⟩
  · obtain rfl := List.mem_singleton.1 hmem
    exact absurd hoffered hstatus

theorem holds_set {members : List QueueMember} (h : queue.Holds member offer) {other : RideOffer}
    {id : String} (hne : offer.id ≠ id) :
    Holds { members, offers := queue.offers.set id other } member offer :=
  ⟨h.stored.set hne other, h.entry, h.user, h.accepted⟩

theorem perform (h : queue.Served) (hconsistent : queue.Consistent) {call : QueueCall}
    (hkeeps : queue.KeepsOffers host call) : (queue.perform host call).Served := by
  have hmoves := perform_moves hconsistent.distinct host call
  generalize queue.perform host call = after, queue.acceptance? call = acceptance at hmoves
  cases hmoves with
  | stays => exact h
  | joined halone =>
    refine h.push fun hoffered => ?_
    obtain ⟨other, hmem, huser, hactive⟩ := hkeeps hoffered
    rw [halone other hmem huser] at hactive
    cases hactive
  | left => exact h.map fun _ hstatus => (eq_of_mark_status (by decide) hstatus).1
  | read | notOffered => exact h.expire host _
  | misdated hmem hwaiting hexpires => exact absurd hexpires (hkeeps ⟨_, hmem, hwaiting⟩).1
  | offered hmem hwaiting hexpires =>
    next id carIds offeredAt ttlSeconds member expiresAt =>
    obtain ⟨-, hkept⟩ := hkeeps ⟨member, hmem, hwaiting⟩
    have h' := h.expire host (some offeredAt)
    intro other hother hoffered
    obtain ⟨other, hbefore, rfl⟩ := List.mem_map.1 hother
    by_cases hid : other.id = member.id
    · -- the member that is offered holds the new offer
      obtain rfl := (hconsistent.expire host _).distinct.eq_of_id hbefore hmem hid
      rw [mark_of_id]
      exact ⟨⟨id, other.id, other.userId, carIds, offeredAt, expiresAt, none⟩,
        OrdMap.get?_set_self .., rfl, rfl, rfl⟩
    · rw [mark_of_ne hid] at hoffered ⊢
      obtain ⟨offer, hholds⟩ := h' other hbefore hoffered
      exact ⟨offer, holds_set hholds (hkept other hbefore hoffered offer hholds)⟩
  | accepted hget htime hcar hmem hid hoffered =>
    next offerId carId at' offer member =>
    intro other hother hstatus
    obtain ⟨other, hbefore, rfl⟩ := List.mem_map.1 hother
    obtain ⟨hsame, hne⟩ := eq_of_mark_status (by decide) hstatus
    rw [hsame] at hstatus ⊢
    obtain ⟨held, hholds⟩ := h other hbefore hstatus
    refine ⟨held, holds_set hholds fun hheld => hne ?_⟩
    -- an offer under this id is the accepted one, so it is that member's
    have hstored := hholds.stored
    rw [Stored, hheld, hget] at hstored
    obtain rfl := Option.some.inj hstored
    exact hholds.entry.symm.trans hid.symm

end Served

/-- A call that leaves nobody offered without an offer. -/
def HoldingStep (host : Host) (queue : FairRideQueue) (call : QueueCall) (after : FairRideQueue) :
    Prop :=
  queue.FreshJoin call ∧ queue.KeepsOffers host call ∧ after = queue.perform host call

theorem served_of_run (hrun : Run (HoldingStep host) empty calls queue) :
    queue.Consistent ∧ queue.Served := by
  refine hrun.invariant (I := fun queue => queue.Consistent ∧ queue.Served)
    ⟨consistent_empty, fun _ hmem => absurd hmem List.not_mem_nil⟩ ?_
  rintro before after call ⟨hconsistent, hserved⟩ ⟨hfresh, hkeeps, rfl⟩
  exact ⟨hconsistent.perform host hfresh, hserved.perform hconsistent hkeeps⟩

/-- **Main result.** After a reading of the queue the offered members hold offers they can accept
if and only if every lapsed offer was made to a member whose own time has come too. -/
theorem snapshot_holds_iff (hrun : Run (HoldingStep host) empty calls queue) (at' : Int) :
    (∀ member ∈ (queue.snapshot host (some at')).2.members, member.status = .offered →
      ∃ offer, (queue.snapshot host (some at')).2.Holds member offer ∧ at' < offer.expiresAt) ↔
    ∀ member ∈ queue.members, member.status = .offered →
      ∀ offer, queue.Holds member offer → offer.expiresAt ≤ at' →
        (host.parseDate member.expiresAt).le (some at') = true := by
  obtain ⟨hconsistent, hserved⟩ := served_of_run hrun
  constructor
  · intro hholds member hmem hstatus offer hholds' hlapsed
    by_contra hlater
    -- the member is not expired, so it would hold two offers
    have hsame : expired host (some at') member = member := by
      refine if_neg fun hexpired => hlater ?_
      exact (Bool.and_eq_true_iff.1 hexpired).2
    have hmem' := List.mem_map_of_mem hmem (f := expired host (some at'))
    rw [hsame] at hmem'
    obtain ⟨other, hother, htime⟩ := hholds member hmem' hstatus
    obtain rfl := hconsistent.single hother.stored hholds'.stored
      (hother.entry.trans hholds'.entry.symm)
    exact absurd htime (Int.not_lt.2 hlapsed)
  · intro hlapsed after hmem hstatus
    obtain ⟨member, hbefore, hafter⟩ := List.mem_map.1 hmem
    change expired host (some at') member = after at hafter
    subst hafter
    obtain ⟨hsame, hlater⟩ := eq_of_expired_status (by decide) hstatus
    rw [hsame] at hstatus ⊢
    obtain ⟨offer, hholds⟩ := hserved member hbefore hstatus
    refine ⟨offer, hholds.of_offers rfl, ?_⟩
    refine Int.not_le.1 fun hle => hlater ?_
    rw [lapsed, hstatus, hlapsed member hbefore hstatus offer hholds hle]
    rfl

/-! ## A member whose offer lapses -/

/-- A host that reads two texts, the start of the epoch and half an hour later. -/
def clockHost : Host where
  parseDate text :=
    if text = "1970-01-01T00:00:00.000Z" then some 0
    else if text = "1970-01-01T00:30:00.000Z" then some 1800000
    else none
  localeCompare a b := if a < b then -1 else if a = b then 0 else 1

/-- A member that may stay for half an hour. -/
def driver : QueueMember :=
  ⟨"entry", "user", "1970-01-01T00:00:00.000Z", "1970-01-01T00:30:00.000Z", .waiting⟩

/-- The driver joins and gets an offer for thirty seconds. -/
def offeredCalls : List QueueCall := [.join driver, .offer "offer" ["car"] 0 none]

def driverOffer : RideOffer := ⟨"offer", "entry", "user", ["car"], 0, 30000, none⟩

/-- The queue after `offeredCalls`. -/
def offeredQueue : FairRideQueue where
  members := [{ driver with status := .offered }]
  offers := OrdMap.set ∅ "offer" driverOffer

theorem offerExpiry_thirty {offeredAt : Int} (h : |offeredAt + 30000| ≤ 8640000000000000) :
    offerExpiry (some offeredAt) (.ofInt 30) = some (offeredAt + 30000) := by
  rw [abs_le] at h
  have hmul : (Number.ofInt 30).mul (.ofInt 1000) = .ofInt 30000 := Number.mul_ofInt (by decide)
  have hadd : (Number.ofInt 30000).add (.ofInt offeredAt) = .ofInt (30000 + offeredAt) :=
    Number.add_ofInt (abs_le.2 (by omega))
  rw [offerExpiry, hmul, hadd, add_comm]
  exact Number.timeClip_ofInt (abs_le.2 h)

theorem offered_driver :
    perform clockHost ⟨[driver], ∅⟩ (.offer "offer" ["car"] 0 none) = offeredQueue := by
  have hexpires : offerExpiry (some 0) (.ofInt 30) = some 30000 := offerExpiry_thirty (by decide)
  dsimp only [perform, offer, Option.getD]
  rw [hexpires]
  rfl

theorem offeredCalls_run : Run (HoldingStep clockHost) empty offeredCalls offeredQueue := by
  have hjoin : HoldingStep clockHost empty (.join driver) ⟨[driver], ∅⟩ :=
    ⟨List.not_mem_nil, nofun, rfl⟩
  refine .cons hjoin (.cons ⟨trivial, fun _ => ⟨?_, ?_⟩, offered_driver.symm⟩ .nil)
  · rw [Option.getD, offerExpiry_thirty (by decide)]
    nofun
  · intro member hmem hoffered
    have hwaiting : ∀ member ∈ (expire ⟨[driver], ∅⟩ clockHost (some 0)).members,
        member.status ≠ .offered := by decide
    exact absurd hoffered (hwaiting member hmem)

theorem driverOffer_of_stored {offer : RideOffer} (h : offeredQueue.Stored offer) :
    offer = driverOffer := by
  unfold Stored offeredQueue at h
  dsimp only at h
  rw [OrdMap.get?_set] at h
  split at h
  · exact (Option.some.inj h).symm
  · cases h

/-- Just before it lapses, the driver holds the offer. -/
theorem driver_holds_offer :
    (offeredQueue.snapshot clockHost (some 29999)).2.members.map (·.status) = [.offered] ∧
    ∀ member ∈ (offeredQueue.snapshot clockHost (some 29999)).2.members,
      member.status = .offered →
      ∃ offer, (offeredQueue.snapshot clockHost (some 29999)).2.Holds member offer ∧
        29999 < offer.expiresAt := by
  refine ⟨by decide, ?_⟩
  refine (snapshot_holds_iff offeredCalls_run 29999).2 fun _ _ _ offer hholds hlapsed => ?_
  rw [driverOffer_of_stored hholds.stored] at hlapsed
  exact absurd hlapsed (by decide)

/-- A second after its offer has lapsed, the driver is still offered, and can do nothing. -/
theorem driver_stuck :
    Run (HoldingStep clockHost) empty offeredCalls offeredQueue ∧
    (¬∀ member ∈ (offeredQueue.snapshot clockHost (some 31000)).2.members,
      member.status = .offered →
      ∃ offer, (offeredQueue.snapshot clockHost (some 31000)).2.Holds member offer ∧
        31000 < offer.expiresAt) ∧
    offeredQueue.accept "offer" "car" (some 31000) = (.error .offerExpired, offeredQueue) ∧
    offeredQueue.leave "user" = offeredQueue ∧
    (offeredQueue.join { driver with id := "another" }).2 = offeredQueue := by
  refine ⟨offeredCalls_run, fun hholds => ?_, rfl, by decide, by decide⟩
  obtain ⟨offer, hoffer, htime⟩ := hholds { driver with status := .offered } (by decide) rfl
  rw [driverOffer_of_stored (hoffer.of_offers rfl).stored] at htime
  exact absurd htime (by decide)

end RcOnline.Domain.FairRideQueue
