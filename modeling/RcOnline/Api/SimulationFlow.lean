import RcOnline.Api.Simulation
import RcOnline.Domain.QueueOffers

/-!
# Booking in the simulation

The first booking of a simulation service succeeds. Since every entry has the same id, no later one
does: an entry that was accepted keeps its place for ever, and after one that left or expired the
offer to the new entry is looked up under the old one.
-/

namespace RcOnline.Api

open RcOnline.Lib RcOnline.Domain

/-! ## The entries of the queue -/

namespace Entries

open FairRideQueue

variable {queue : FairRideQueue} {host : Host}

/-- The ids of the members and of their users, in the order of the array. -/
def faces (queue : FairRideQueue) : List (String × String) :=
  queue.members.map fun member => (member.id, member.userId)

theorem faces_eq_nil : faces queue = [] ↔ queue.members = [] := List.map_eq_nil_iff

theorem faces_expire (host : Host) (at' : Date) : faces (queue.expire host at') = faces queue := by
  unfold faces
  refine (List.map_map ..).trans (List.map_congr_left fun member _ => ?_)
  rw [Function.comp_apply]
  split <;> rfl

theorem faces_setStatus (i : Nat) (status : MemberStatus) :
    faces (queue.setStatus i status) = faces queue := by
  refine List.ext_getElem? fun j => ?_
  unfold faces setStatus
  rw [List.getElem?_map, List.getElem?_map, List.getElem?_modify]
  cases queue.members[j]? with
  | none => rfl
  | some member =>
    simp only [Option.map_some]
    split <;> rfl

theorem faces_leave (userId : String) : faces (queue.leave userId) = faces queue := by
  unfold leave
  split
  · exact faces_setStatus ..
  · rfl

theorem faces_offer (input : OfferInput) : faces (queue.offer host input).2 = faces queue := by
  unfold offer
  dsimp only
  split
  · exact faces_expire ..
  · split
    · exact (faces_setStatus ..).trans (faces_expire ..)
    · exact (faces_setStatus ..).trans (faces_expire ..)

theorem faces_accept (offerId carId : String) (at' : Date) :
    faces (queue.accept offerId carId at').2 = faces queue := by
  unfold accept
  split
  · rfl
  split
  · rfl
  split
  · rfl
  split
  · rfl
  split
  · rfl
  · exact faces_setStatus ..

/-- Joining appends a member or finds one. -/
theorem faces_join (queue : FairRideQueue) (member : QueueMember) :
    (faces (queue.join member).2 = faces queue ∧ faces queue ≠ []) ∨
    faces (queue.join member).2 = faces queue ++ [(member.id, member.userId)] := by
  unfold join
  split
  · next active hfind =>
    refine .inl ⟨rfl, fun hnil => ?_⟩
    have hmem := List.mem_of_find?_eq_some hfind
    rw [faces_eq_nil.1 hnil] at hmem
    exact absurd hmem List.not_mem_nil
  · exact .inr (List.map_append ..)

/-- The first member has the one id, and no place. -/
def Blocked (queue : FairRideQueue) : Prop :=
  ∃ first rest, queue.members = first :: rest ∧ first.id = Ids.queue ∧
    first.status.active = false

theorem not_live {status : MemberStatus} (h : status.active = false) : status.live = false := by
  cases status <;> first | rfl | cases h

theorem Blocked.expire (h : Blocked queue) (host : Host) (at' : Date) :
    Blocked (queue.expire host at') := by
  obtain ⟨first, rest, hmembers, hid, hactive⟩ := h
  have hsame : expired host at' first = first := by
    refine if_neg fun hlapsed => ?_
    rw [lapsed, not_live hactive] at hlapsed
    cases hlapsed
  refine ⟨first, rest.map (expired host at'), ?_, hid, hactive⟩
  unfold FairRideQueue.expire
  rw [hmembers]
  exact congrArg (· :: _) hsame

/-- An offer goes to another member than the first, and is stored. -/
theorem Blocked.offer (h : Blocked queue) {input : OfferInput} {offer : RideOffer}
    (hoffer : (queue.offer host input).1 = .ok offer) :
    Blocked (queue.offer host input).2 ∧
    (queue.offer host input).2.offers.get? input.id = some offer ∧
    ∃ face ∈ faces queue, face.1 = offer.queueEntryId := by
  have hblocked := h.expire host input.offeredAt
  unfold FairRideQueue.offer at hoffer ⊢
  dsimp only at hoffer ⊢
  split at hoffer
  · cases hoffer
  · next member i hfind =>
    have hfound := List.find?_some hfind
    have hwaiting : member.status = .waiting := of_decide_eq_true hfound
    obtain ⟨hget, -⟩ := mem_places (List.mem_of_find?_eq_some hfind)
    split at hoffer
    · next offeredAt expiresAt hoffered hexpires =>
      obtain rfl := Except.ok.inj hoffer
      refine ⟨?_, OrdMap.get?_set_self .., ?_⟩
      · obtain ⟨first, rest, hmembers, hid, hactive⟩ := hblocked
        rw [hmembers] at hget
        cases i with
        | zero =>
          obtain rfl := Option.some.inj hget
          rw [hwaiting] at hactive
          cases hactive
        | succ i =>
          refine ⟨first, rest.modify i fun member => { member with status := .offered }, ?_, hid,
            hactive⟩
          unfold setStatus
          dsimp only
          rw [hmembers]
          rfl
      · rw [← faces_expire host input.offeredAt]
        exact ⟨_, List.mem_map_of_mem (List.mem_of_getElem? hget), rfl⟩
    · cases hoffer

/-- An offer to the one id is looked up at the first member. -/
theorem Blocked.accept (h : Blocked queue) {offerId : String} {offer : RideOffer}
    (hget : queue.offers.get? offerId = some offer) (hentry : offer.queueEntryId = Ids.queue)
    (carId : String) (at' : Date) : ∃ error, (queue.accept offerId carId at').1 = .error error := by
  obtain ⟨first, rest, hmembers, hid, hactive⟩ := h
  unfold FairRideQueue.accept
  rw [hget]
  dsimp only
  split
  · exact ⟨_, rfl⟩
  split
  · exact ⟨_, rfl⟩
  have hfind : queue.members.findIdx? (fun member => member.id = offer.queueEntryId) = some 0 := by
    rw [hmembers, List.findIdx?_cons, if_pos (decide_eq_true (hid.trans hentry.symm))]
  have hstatus : first.status ≠ .offered := fun hoffered => by
    rw [hoffered] at hactive
    cases hactive
  rw [hfind, hmembers]
  dsimp only
  rw [if_pos]
  · exact ⟨_, rfl⟩
  · exact decide_eq_true hstatus

end Entries

open Entries

namespace SimulationService

variable {host : IsoHost} {service : SimulationService} {calls : List SimulationCall}
  {now now' now'' : Int}

/-! ## Runs -/

/-- An instant of the clock: it is a date, and so is half an hour later. -/
structure Clocked (now : Int) : Prop where
  isDate : |now| ≤ maxTime
  later : |now + 1800000| ≤ maxTime

def SimulationStep (host : IsoHost) (service : SimulationService) (call : SimulationCall)
    (after : SimulationService) : Prop :=
  Clocked call.now ∧ after = service.perform host call

theorem faces_acceptOffer (carId : String) :
    faces (service.acceptOffer now carId).2.queue = faces service.queue := by
  have haccept : faces (service.queue.accept Ids.offer carId (some now)).2 = faces service.queue :=
    faces_accept Ids.offer carId (some now)
  unfold acceptOffer
  split
  · next queue heq =>
    rw [heq] at haccept
    exact haccept
  · next queue heq =>
    rw [heq] at haccept
    dsimp only
    repeat' split
    all_goals exact haccept

theorem queue_startNegotiation (rideId : String) :
    (service.startNegotiation now rideId).2.queue = service.queue := by
  unfold startNegotiation
  dsimp only
  repeat' split
  all_goals rfl

theorem queue_endRide (rideId : String) :
    (service.endRide now rideId).2.queue = service.queue := by
  unfold endRide
  dsimp only
  repeat' split
  all_goals rfl

theorem queue_ride (rideId : String) : (service.ride rideId).2 = service := by
  unfold ride
  split <;> rfl

theorem faces_extend (rideId : String) :
    faces (service.extend host now rideId).2.queue = faces service.queue := by
  unfold extend
  dsimp only
  split
  · exact faces_expire ..
  · rw [queue_ride]
    exact faces_expire ..

/-- Only joining changes who is in the array. -/
theorem faces_perform {call : SimulationCall} (h : call.operation ≠ .joinQueue) :
    faces (service.perform host call).queue = faces service.queue := by
  unfold perform
  split
  · next hjoin => exact absurd hjoin h
  · exact faces_leave ..
  · exact faces_offer ..
  · exact faces_acceptOffer ..
  · rw [queue_startNegotiation]
  · rw [queue_endRide]
  · exact faces_extend ..
  · exact (faces_expire ..).trans (faces_expire ..)
  · rfl

/-- Joining leaves an array that is not empty, of members of the one user. -/
theorem faces_joinQueue (host : IsoHost) (service : SimulationService) (hclock : Clocked now) :
    faces (service.joinQueue host now).2.queue ≠ [] ∧
    ∀ face ∈ faces (service.joinQueue host now).2.queue,
      face ∈ faces service.queue ∨ face = (Ids.queue, Ids.user) := by
  unfold joinQueue
  rw [if_neg (not_lt.2 hclock.later)]
  dsimp only [FairRideQueue.snapshot]
  rw [faces_expire]
  rcases faces_join service.queue ⟨Ids.queue, Ids.user, host.toISOString now,
    host.toISOString (now + 1800000), .waiting⟩ with ⟨hsame, hne⟩ | happend
  · rw [hsame]
    exact ⟨hne, fun _ hmem => .inl hmem⟩
  · rw [happend]
    refine ⟨List.append_ne_nil_of_right_ne_nil _ (List.cons_ne_nil _ _), fun face hmem => ?_⟩
    exact (List.mem_append.1 hmem).imp_right List.mem_singleton.1

/-- Every member has the one id, and there is none as long as nobody has joined. -/
theorem faces_of_run (hrun : Run (SimulationStep host) new calls service) :
    (∀ face ∈ faces service.queue, face = (Ids.queue, Ids.user)) ∧
    (service.queue.members = [] ↔ ∀ call ∈ calls, call.operation ≠ .joinQueue) := by
  induction hrun with
  | nil => exact ⟨nofun, iff_of_true rfl nofun⟩
  | snoc _ hstep ih =>
    next calls before after call _ =>
    obtain ⟨hclock, rfl⟩ := hstep
    obtain ⟨hfaces, hnil⟩ := ih
    rw [← faces_eq_nil] at hnil ⊢
    rw [List.forall_mem_append, List.forall_mem_singleton]
    by_cases hjoin : call.operation = .joinQueue
    · have hperform : before.perform host call = (before.joinQueue host call.now).2 := by
        rw [perform, hjoin]
      obtain ⟨hne, hmem⟩ := faces_joinQueue host before hclock
      rw [hperform]
      refine ⟨fun face hface => ?_, iff_of_false hne fun hall => hall.2 hjoin⟩
      exact (hmem face hface).elim (hfaces face) id
    · rw [faces_perform hjoin]
      exact ⟨hfaces, hnil.trans (and_iff_left hjoin).symm⟩

/-! ## The flow -/

/-- Joining reports the first position, an offer is made, and any car of it can be accepted. -/
def Books (host : IsoHost) (service : SimulationService) (now now' now'' : Int) : Prop :=
  ∃ joined offer, (service.joinQueue host now).1 = .ok joined ∧ joined.position = 1 ∧
    ((service.joinQueue host now).2.createOffer host now').1 = .ok offer ∧
    offer.carIds = [Ids.carBlue, Ids.carRed] ∧
    ∀ carId ∈ offer.carIds, ∃ ride,
      (((service.joinQueue host now).2.createOffer host now').2.acceptOffer now'' carId).1 =
        .ok ride

/-- Nobody waits or is offered a car, or is so in name only. -/
def Unplaced (host : IsoHost) (service : SimulationService) (now : Int) : Prop :=
  ∀ member ∈ service.queue.members, member.status.live = true →
    (host.parseDate member.expiresAt).le (some now) = true

/-- The reading of a queue in which nobody has a place in time. -/
theorem places_of_unplaced (h : service.Unplaced host now) :
    (service.queue.expire host.toHost (some now)).places host.toHost = [] := by
  refine List.eq_nil_iff_forall_not_mem.2 fun ⟨member, i⟩ hmem => ?_
  obtain ⟨hget, hlive⟩ := FairRideQueue.mem_places hmem
  obtain ⟨before, hbefore, hafter⟩ := List.mem_map.1 (List.mem_of_getElem? hget)
  split at hafter
  · obtain rfl := hafter
    cases hlive
  · next hlapsed =>
    obtain rfl := hafter
    refine hlapsed ?_
    rw [FairRideQueue.lapsed, hlive, h before hbefore hlive]
    rfl

theorem mapError_eq_ok {ε ε' α : Type} {f : ε → ε'} {outcome : Except ε α} {a : α}
    (h : outcome.mapError f = .ok a) : outcome = .ok a := by
  cases outcome with
  | error => cases h
  | ok => exact congrArg Except.ok (Except.ok.inj h)

/-- The entry that `joinQueue` offers to push. -/
def entry (host : IsoHost) (now : Int) : QueueMember where
  id := Ids.queue
  userId := Ids.user
  status := .waiting
  joinedAt := host.toISOString now
  expiresAt := host.toISOString (now + 1800000)

theorem joinQueue_eq (hclock : Clocked now) :
    service.joinQueue host now =
      let joined := service.queue.join (entry host now)
      let snapshot := joined.2.snapshot host.toHost (some now)
      (.ok ⟨FairRideQueue.expired host.toHost (some now) joined.1,
          (snapshot.1.findIdx? (·.id = joined.1.id)).elim 0 (· + 1)⟩,
        { service with queue := snapshot.2 }) :=
  if_neg (not_lt.2 hclock.later)

/-- The offer to a new entry is looked up under an old one. -/
theorem not_accepted (hblocked : Blocked service.queue)
    (hids : ∀ face ∈ faces service.queue, face.1 = Ids.queue) {offer : RideOffer}
    (hoffer : (service.createOffer host now).1 = .ok offer) (now' : Int) (carId : String) :
    ∃ error, ((service.createOffer host now).2.acceptOffer now' carId).1 = .error error := by
  obtain ⟨hblocked', hget, face, hface, hentry⟩ := hblocked.offer (mapError_eq_ok hoffer)
  obtain ⟨error, herror⟩ :=
    hblocked'.accept hget (hentry.symm.trans (hids face hface)) carId (some now')
  unfold acceptOffer
  split
  · exact ⟨_, rfl⟩
  · next heq =>
    have hok := congrArg Prod.fst heq
    cases herror.symm.trans hok

/-- An entry that still has its place gets no position, and another one gets no car. -/
theorem not_books_of_joined (hclock : Clocked now)
    (hfaces : ∀ face ∈ faces service.queue, face = (Ids.queue, Ids.user))
    (hunplaced : service.Unplaced host now) (hne : service.queue.members ≠ []) :
    ¬service.Books host now now' now'' := by
  rintro ⟨joined, offer, hjoined, hposition, hoffer, hcars, haccept⟩
  rw [joinQueue_eq hclock] at hjoined
  have hface : ∀ member ∈ service.queue.members, member.id = Ids.queue ∧ member.userId = Ids.user :=
    fun member hmem => Prod.mk.inj (hfaces _ (List.mem_map_of_mem hmem))
  cases hfind : service.queue.members.find? fun item =>
    item.userId = (entry host now).userId && item.status.active with
  | some active =>
    have hsame : service.queue.join (entry host now) = (active, service.queue) := by
      unfold FairRideQueue.join
      rw [hfind]
    rw [hsame] at hjoined
    obtain rfl := Except.ok.inj hjoined
    dsimp only [FairRideQueue.snapshot] at hposition
    rw [places_of_unplaced hunplaced] at hposition
    cases hposition
  | none =>
    have hpush : service.queue.join (entry host now) =
        (entry host now,
          { service.queue with members := service.queue.members ++ [entry host now] }) := by
      unfold FairRideQueue.join
      rw [hfind]
    obtain ⟨first, rest, hmembers⟩ := List.exists_cons_of_ne_nil hne
    obtain ⟨hid, huser⟩ := hface first (hmembers ▸ List.mem_cons_self)
    have hactive : first.status.active = false := by
      refine Bool.eq_false_iff.2 fun hactive => ?_
      refine List.find?_eq_none.1 hfind first (hmembers ▸ List.mem_cons_self) ?_
      rw [hactive, Bool.and_true]
      exact decide_eq_true huser
    have hblocked : Blocked (service.joinQueue host now).2.queue := by
      rw [joinQueue_eq hclock, hpush]
      exact Blocked.expire ⟨first, rest ++ [entry host now],
        congrArg (· ++ [entry host now]) hmembers, hid, hactive⟩ host.toHost (some now)
    have hids : ∀ face ∈ faces (service.joinQueue host now).2.queue, face.1 = Ids.queue := by
      intro face hmem
      rcases (faces_joinQueue host service hclock).2 face hmem with hmem | rfl
      · exact congrArg Prod.fst (hfaces face hmem)
      · rfl
    obtain ⟨ride, hride⟩ := haccept Ids.carBlue (by rw [hcars]; exact List.mem_cons_self)
    obtain ⟨error, herror⟩ := not_accepted hblocked hids hoffer now'' Ids.carBlue
    cases hride.symm.trans herror

/-- The ride of an acceptance is offered and accepted at once. -/
theorem accepted_ride (carId : String) (now : Int) :
    ∃ ride ride' ride'' snapshot,
      RideOrchestrator.new
        { id := Ids.ride, userId := Ids.user, carId, purchasedSeconds := .ofInt 300 } = .ok ride ∧
      ride.offer ("offer:" ++ Ids.offer) (some now) = (.ok (), ride') ∧
      ride'.accept ("accept:" ++ Ids.offer) (some now) = (.ok (), ride'') ∧
      ride''.snapshot = .ok snapshot :=
  ⟨_, _, _, _, rfl, rfl, rfl, rfl⟩

/-- A member is in the queue until its time has come. -/
theorem expired_eq {member : QueueMember} {expiresAt : Int}
    (hparse : host.parseDate member.expiresAt = some expiresAt) (hlater : now < expiresAt) :
    FairRideQueue.expired host.toHost (some now) member = member := by
  refine if_neg fun hlapsed => ?_
  have htime := (Bool.and_eq_true_iff.1 hlapsed).2
  rw [hparse, Date.le, decide_eq_true_eq] at htime
  exact absurd htime (not_le.2 hlater)

theorem expire_singleton {member : QueueMember} {offers : OrdMap String RideOffer} {expiresAt : Int}
    (hparse : host.parseDate member.expiresAt = some expiresAt) (hlater : now < expiresAt) :
    FairRideQueue.expire ⟨[member], offers⟩ host.toHost (some now) = ⟨[member], offers⟩ :=
  congrArg (fun member => FairRideQueue.mk [member] offers) (expired_eq hparse hlater)

/-- The first booking. -/
theorem books_of_nobody (hclock : Clocked now) (hnow : now ≤ now') (hnow' : now' ≤ now'')
    (hdelay : now'' < now + 30000) (hnil : service.queue.members = []) :
    service.Books host now now' now'' := by
  have hparse : host.parseDate (entry host now).expiresAt = some (now + 1800000) :=
    host.parse_toISOString hclock.later
  have hexpires : offerExpiry (some now') (.ofInt 30) = some (now' + 30000) := by
    have hbounds := abs_le.1 hclock.isDate
    have hbounds' := abs_le.1 hclock.later
    refine FairRideQueue.offerExpiry_thirty (abs_le.2 ?_)
    unfold maxTime at hbounds hbounds'
    omega
  let offers := service.queue.offers
  have hplaces : (FairRideQueue.mk [entry host now] offers).places host.toHost =
      [(entry host now, 0)] := rfl
  have hjoin : service.joinQueue host now =
      (.ok ⟨entry host now, 1⟩, { service with queue := ⟨[entry host now], offers⟩ }) := by
    have hpush : service.queue.join (entry host now) =
        (entry host now, ⟨[entry host now], offers⟩) := by
      unfold FairRideQueue.join
      rw [hnil]
      rfl
    rw [joinQueue_eq hclock, hpush]
    dsimp only [FairRideQueue.snapshot]
    rw [expire_singleton hparse (by omega), expired_eq hparse (by omega)]
    rw [hplaces, List.map_singleton, List.findIdx?_cons, if_pos (decide_eq_true rfl)]
    rfl
  let offer : RideOffer :=
    ⟨Ids.offer, Ids.queue, Ids.user, [Ids.carBlue, Ids.carRed], now', now' + 30000, none⟩
  let offered : FairRideQueue :=
    ⟨[{ entry host now with status := .offered }], offers.set Ids.offer offer⟩
  have hoffer : createOffer { service with queue := ⟨[entry host now], offers⟩ } host now' =
      (.ok offer, { service with queue := offered }) := by
    have hfound : [(entry host now, 0)].find? (fun place => place.1.status = .waiting) =
        some (entry host now, 0) := rfl
    unfold createOffer FairRideQueue.offer
    dsimp only
    rw [expire_singleton hparse (by omega), hplaces, hfound]
    dsimp only [Option.getD]
    rw [hexpires]
    rfl
  refine ⟨⟨entry host now, 1⟩, offer, ?_, rfl, ?_, rfl, fun carId hcar => ?_⟩
  · rw [hjoin]
  · rw [hjoin, hoffer]
  · have haccept : offered.accept Ids.offer carId (some now'') =
        (.ok { offer with acceptedCarId := some carId },
          ⟨[{ entry host now with status := .accepted }],
            (offers.set Ids.offer offer).set Ids.offer
              { offer with acceptedCarId := some carId }⟩) := by
      have htime : ¬Date.le (some offer.expiresAt) (some now'') = true := fun hle =>
        absurd (of_decide_eq_true hle) (not_le.2 (by dsimp only [offer]; omega))
      unfold FairRideQueue.accept
      dsimp only [offered]
      rw [OrdMap.get?_set_self]
      dsimp only
      rw [if_neg htime, if_neg (not_not.2 hcar)]
      rfl
    obtain ⟨ride, ride', ride'', snapshot, hnew, hoffered, haccepted, hsnapshot⟩ :=
      accepted_ride carId now''
    rw [hjoin, hoffer]
    unfold acceptOffer
    dsimp only
    rw [haccept]
    dsimp only
    rw [hnew]
    dsimp only
    rw [hoffered]
    dsimp only
    rw [haccepted]
    dsimp only [returnRide]
    rw [hsnapshot]
    exact ⟨_, rfl⟩

/-- **Main result.** Where the user has no place in time, a booking without delay succeeds if and
only if nobody has joined the queue before. -/
theorem books_iff (hrun : Run (SimulationStep host) new calls service) (hclock : Clocked now)
    (hnow : now ≤ now') (hnow' : now' ≤ now'') (hdelay : now'' < now + 30000)
    (hunplaced : service.Unplaced host now) :
    service.Books host now now' now'' ↔ ∀ call ∈ calls, call.operation ≠ .joinQueue := by
  obtain ⟨hfaces, hnil⟩ := faces_of_run hrun
  rw [← hnil]
  refine ⟨fun hbooks => ?_, books_of_nobody hclock hnow hnow' hdelay⟩
  by_contra hne
  exact not_books_of_joined hclock hfaces hunplaced hne hbooks

/-! ## Two bookings -/

/-- A number has no time zone. -/
theorem not_mem_repr (time : Int) : 'Z' ∉ time.repr.toList := by
  have hdigits : ∀ n : Nat, 'Z' ∉ n.repr.toList := by
    intro n hmem
    rw [Nat.toList_repr] at hmem
    have hdigit := Nat.isDigit_of_mem_toDigits (by decide) (by decide) hmem
    cases hdigit
  cases time with
  | ofNat n => exact hdigits n
  | negSucc n =>
    intro hmem
    rcases List.mem_append.1 (String.toList_append ▸ hmem) with hsign | hmem
    · exact absurd hsign (by decide)
    · exact hdigits _ hmem

/-- A host that writes the start of the epoch and the half hour after it as dates, and other times
as numbers. -/
def unixHost : IsoHost where
  parseDate text :=
    if text = "1970-01-01T00:00:00.000Z" then some 0
    else if text = "1970-01-01T00:30:00.000Z" then some 1800000
    else text.toInt?
  localeCompare a b := if a < b then -1 else if a = b then 0 else 1
  toISOString time :=
    if time = 0 then "1970-01-01T00:00:00.000Z"
    else if time = 1800000 then "1970-01-01T00:30:00.000Z"
    else time.repr
  parse_toISOString := by
    intro time _
    have hrepr : ∀ text : String, 'Z' ∈ text.toList → time.repr ≠ text := by
      rintro text hmem rfl
      exact not_mem_repr time hmem
    split
    · next hzero => exact congrArg some hzero.symm
    split
    · next hhalf => exact congrArg some hhalf.symm
    rw [if_neg (hrepr _ (by decide)), if_neg (hrepr _ (by decide)), Int.toInt?_repr]

theorem clocked_zero : Clocked 0 := ⟨by decide, by decide⟩

/-- A new service books. -/
theorem first_booking : new.Books unixHost 0 1000 2000 :=
  (books_iff .nil clocked_zero (by decide) (by decide) (by decide) nofun).2 nofun

/-- The user joins, leaves again, and cannot book: the entry that left is in the way. -/
theorem second_booking_fails :
    ∃ service, Run (SimulationStep unixHost) new [⟨.joinQueue, 0⟩, ⟨.leaveQueue, 0⟩] service ∧
      service.rides = ∅ ∧
      (∀ member ∈ service.queue.members, member.status = .left) ∧
      ¬service.Books unixHost 0 0 0 := by
  let joined := new.perform unixHost ⟨.joinQueue, 0⟩
  have hmembers : joined.leaveQueue.queue.members =
      [{ entry unixHost 0 with status := .left }] := rfl
  refine ⟨joined.leaveQueue, .cons ⟨clocked_zero, rfl⟩ (.cons ⟨clocked_zero, rfl⟩ .nil), rfl,
    ?_, ?_⟩
  · rw [hmembers]
    intro member hmem
    obtain rfl := List.mem_singleton.1 hmem
    rfl
  · refine not_books_of_joined clocked_zero ?_ ?_ ?_
    · unfold faces
      rw [hmembers]
      intro face hface
      exact List.mem_singleton.1 hface
    · unfold Unplaced
      rw [hmembers]
      intro member hmem hlive
      obtain rfl := List.mem_singleton.1 hmem
      cases hlive
    · rw [hmembers]
      exact List.cons_ne_nil _ _

end SimulationService

end RcOnline.Api
