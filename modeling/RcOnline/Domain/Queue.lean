import RcOnline.Lib.Number
import RcOnline.Lib.OrdMap
import RcOnline.Lib.Host

/-!
# The fair ride queue

`FairRideQueue` of `packages/domain/src/queue.ts`: members wait in the order in which they joined,
the first of them is offered some cars for a while, and accepts one. Members expire as a side effect
of reading the queue. The members of the array are objects: an operation changes the one that it has
found, whatever the ids of the others.
-/

namespace RcOnline.Domain

open RcOnline.Lib

inductive MemberStatus where
  | waiting
  | offered
  | accepted
  | left
  | expired
  deriving DecidableEq

/-- A member that takes its user's place. -/
def MemberStatus.active : MemberStatus → Bool
  | .waiting | .offered | .accepted => true
  | _ => false

/-- A member that is in the queue. -/
def MemberStatus.live : MemberStatus → Bool
  | .waiting | .offered => true
  | _ => false

structure QueueMember where
  id : String
  userId : String
  joinedAt : String
  expiresAt : String
  status : MemberStatus
  deriving DecidableEq

/-- An offer; its times are the time values of the instants that the ISO texts denote. -/
structure RideOffer where
  id : String
  queueEntryId : String
  userId : String
  carIds : List String
  offeredAt : Int
  expiresAt : Int
  acceptedCarId : Option String
  deriving DecidableEq

structure OfferInput where
  id : String
  carIds : List String
  offeredAt : Date
  ttlSeconds : Option Number := none

inductive QueueError where
  | empty
  | offerNotFound
  | offerExpired
  | carNotOffered
  | cannotAccept
  /-- `toISOString` of an invalid date. -/
  | invalidTime
  deriving DecidableEq

def QueueError.message : QueueError → String
  | .empty => "Queue is empty"
  | .offerNotFound => "Ride offer not found"
  | .offerExpired => "Ride offer expired"
  | .carNotOffered => "Car is not part of this offer"
  | .cannotAccept => "Queue entry cannot accept this offer"
  | .invalidTime => "Invalid time value"

/-- `new Date(offeredAt.getTime() + ttlSeconds * 1000)`. -/
def offerExpiry (offeredAt : Date) (ttlSeconds : Number) : Date :=
  match offeredAt with
  | none => none
  | some offeredAt => ((ttlSeconds.mul (.ofInt 1000)).add (.ofInt offeredAt)).timeClip

structure FairRideQueue where
  members : List QueueMember
  offers : OrdMap String RideOffer
  deriving DecidableEq

namespace FairRideQueue

def empty : FairRideQueue := ⟨[], ∅⟩

variable (queue : FairRideQueue)

def join (member : QueueMember) : QueueMember × FairRideQueue :=
  match queue.members.find? fun item => item.userId = member.userId && item.status.active with
  | some active => (active, queue)
  | none => (member, { queue with members := queue.members ++ [member] })

/-- The member at a place of the array gets a status. -/
def setStatus (i : Nat) (status : MemberStatus) : FairRideQueue :=
  { queue with members := queue.members.modify i fun member => { member with status } }

/-- A member whose own time has run out. -/
def lapsed (host : Host) (at' : Date) (member : QueueMember) : Bool :=
  member.status.live && (host.parseDate member.expiresAt).le at'

def expire (host : Host) (at' : Date) : FairRideQueue :=
  { queue with
    members := queue.members.map fun member =>
      if lapsed host at' member then { member with status := .expired } else member }

/-- The members in the queue, with their places in the array, in the order of joining. -/
def places (host : Host) : List (QueueMember × Nat) :=
  (queue.members.zipIdx.filter (·.1.status.live)).insertionSort fun a b =>
    host.localeCompare a.1.joinedAt b.1.joinedAt ≤ 0

def snapshot (host : Host) (at' : Date) : List QueueMember × FairRideQueue :=
  let queue := queue.expire host at'
  ((queue.places host).map Prod.fst, queue)

def leave (userId : String) : FairRideQueue :=
  match queue.members.findIdx? fun item => item.userId = userId && item.status = .waiting with
  | some i => queue.setStatus i .left
  | none => queue

/-- What a call returns or throws, and the queue after it. -/
abbrev Outcome := Except QueueError RideOffer × FairRideQueue

def offer (host : Host) (input : OfferInput) : Outcome :=
  let queue := queue.expire host input.offeredAt
  match (queue.places host).find? (·.1.status = .waiting) with
  | none => (.error .empty, queue)
  | some (member, i) =>
    -- the member is marked before the dates are written
    let queue := queue.setStatus i .offered
    match input.offeredAt, offerExpiry input.offeredAt (input.ttlSeconds.getD (.ofInt 30)) with
    | some offeredAt, some expiresAt =>
      let offer : RideOffer :=
        { id := input.id, queueEntryId := member.id, userId := member.userId,
          carIds := input.carIds, offeredAt, expiresAt, acceptedCarId := none }
      (.ok offer, { queue with offers := queue.offers.set offer.id offer })
    | _, _ => (.error .invalidTime, queue)

def accept (offerId carId : String) (at' : Date) : Outcome :=
  match queue.offers.get? offerId with
  | none => (.error .offerNotFound, queue)
  | some offer =>
    if Date.le (some offer.expiresAt) at' then (.error .offerExpired, queue)
    else if carId ∉ offer.carIds then (.error .carNotOffered, queue)
    else
      match queue.members.findIdx? (·.id = offer.queueEntryId) with
      | none => (.error .cannotAccept, queue)
      | some i =>
        if (queue.members[i]?).all (·.status ≠ .offered) then (.error .cannotAccept, queue)
        else
          let offer := { offer with acceptedCarId := some carId }
          (.ok offer,
            { queue with offers := queue.offers.set offerId offer }.setStatus i .accepted)

end FairRideQueue

/-! ## Calls -/

/-- A call, at an instant where it has one. -/
inductive QueueCall where
  | join (member : QueueMember)
  | leave (userId : String)
  | offer (id : String) (carIds : List String) (offeredAt : Int) (ttlSeconds : Option Number)
  | accept (offerId carId : String) (at' : Int)
  | snapshot (at' : Int)

namespace FairRideQueue

/-- The queue after a call, whatever it returns or throws. -/
def perform (host : Host) (queue : FairRideQueue) : QueueCall → FairRideQueue
  | .join member => (queue.join member).2
  | .leave userId => queue.leave userId
  | .offer id carIds offeredAt ttlSeconds =>
    (queue.offer host { id, carIds, offeredAt := some offeredAt, ttlSeconds }).2
  | .accept offerId carId at' => (queue.accept offerId carId (some at')).2
  | .snapshot at' => (queue.snapshot host (some at')).2

/-- An acceptance that has returned. -/
structure Acceptance where
  offerId : String
  carId : String
  at' : Int
  deriving DecidableEq

/-- The acceptance that a call makes. -/
def acceptance? (queue : FairRideQueue) : QueueCall → Option Acceptance
  | .accept offerId carId at' =>
    match (queue.accept offerId carId (some at')).1 with
    | .ok _ => some ⟨offerId, carId, at'⟩
    | .error _ => none
  | _ => none

/-! ## What a call does -/

variable {queue : FairRideQueue} {host : Host} {member : QueueMember}

/-- No two members share an id. -/
def Distinct (queue : FairRideQueue) : Prop := (queue.members.map (·.id)).Nodup

theorem Distinct.eq_of_id (h : queue.Distinct) {a b : QueueMember} (ha : a ∈ queue.members)
    (hb : b ∈ queue.members) (hid : a.id = b.id) : a = b := List.inj_on_of_nodup_map h ha hb hid

/-- A change of the member with an id. -/
def mark (id : String) (status : MemberStatus) (member : QueueMember) : QueueMember :=
  if member.id = id then { member with status } else member

theorem mark_of_id (status : MemberStatus) :
    mark member.id status member = { member with status } := if_pos rfl

theorem mark_of_ne {id : String} {status : MemberStatus} (h : member.id ≠ id) :
    mark id status member = member := if_neg h

/-- The place of a member says which one it is. -/
theorem setStatus_members (h : queue.Distinct) {i : Nat} (hget : queue.members[i]? = some member)
    (status : MemberStatus) :
    (queue.setStatus i status).members = queue.members.map (mark member.id status) := by
  refine List.ext_getElem? fun j => ?_
  rw [setStatus, List.getElem?_modify, List.getElem?_map]
  by_cases hij : i = j
  · subst hij
    simp only [if_true, hget]
    exact congrArg some (mark_of_id status).symm
  · simp only [if_neg hij]
    cases hother : queue.members[j]? with
    | none => rfl
    | some other =>
      refine congrArg some (mark_of_ne fun hid => hij ?_).symm
      have hlt : i < (queue.members.map (·.id)).length := by
        rw [List.length_map]
        exact (List.getElem?_eq_some_iff.1 hget).1
      refine (List.getElem?_inj hlt h).1 ?_
      rw [List.getElem?_map, List.getElem?_map, hget, hother]
      exact congrArg some hid.symm

/-- Joining pushes a member whose user has no place yet. -/
theorem join_cases (queue : FairRideQueue) (member : QueueMember) :
    (queue.join member).2 = queue ∨
    ((∀ other ∈ queue.members, other.userId = member.userId → other.status.active = false) ∧
      (queue.join member).2 = { queue with members := queue.members ++ [member] }) := by
  unfold join
  split
  · exact .inl rfl
  · next hnone =>
    refine .inr ⟨fun other hmem huser => Bool.eq_false_iff.2 fun hactive => ?_, rfl⟩
    refine List.find?_eq_none.1 hnone other hmem ?_
    rw [decide_eq_true huser, hactive]
    rfl

theorem leave_cases (h : queue.Distinct) (userId : String) :
    queue.leave userId = queue ∨
    ∃ member ∈ queue.members, member.status = .waiting ∧ queue.leave userId =
      { queue with members := queue.members.map (mark member.id .left) } := by
  unfold leave
  split
  · next i hfind =>
    obtain ⟨hlt, hfound, -⟩ := List.findIdx?_eq_some_iff_getElem.1 hfind
    rw [Bool.and_eq_true, decide_eq_true_eq, decide_eq_true_eq] at hfound
    have hget := List.getElem?_eq_getElem hlt
    refine .inr ⟨_, List.getElem_mem hlt, hfound.2, ?_⟩
    rw [← setStatus_members h hget]
    rfl
  · exact .inl rfl

/-- What expiry makes of a member. -/
def expired (host : Host) (at' : Date) (member : QueueMember) : QueueMember :=
  if lapsed host at' member then { member with status := .expired } else member

theorem expired_id (host : Host) (at' : Date) (member : QueueMember) :
    (expired host at' member).id = member.id := by
  unfold expired
  split <;> rfl

theorem Distinct.map (h : queue.Distinct) {f : QueueMember → QueueMember}
    (hf : ∀ member, (f member).id = member.id) {offers : OrdMap String RideOffer} :
    Distinct { members := queue.members.map f, offers } := by
  have hids : (queue.members.map f).map (·.id) = queue.members.map (·.id) := by
    rw [List.map_map]
    exact List.map_congr_left fun member _ => hf member
  rwa [Distinct, hids]

theorem Distinct.expire (h : queue.Distinct) (host : Host) (at' : Date) :
    (queue.expire host at').Distinct := h.map (expired_id host at')

theorem mem_places {i : Nat} (h : (member, i) ∈ queue.places host) :
    queue.members[i]? = some member ∧ member.status.live = true := by
  rw [places, List.mem_insertionSort, List.mem_filter] at h
  exact ⟨List.mem_zipIdx_iff_getElem?.1 h.1, h.2⟩

/-- An offer expires the members first. Then it goes to one that waits, if any. -/
theorem offer_cases (h : queue.Distinct) (host : Host) (id : String) (carIds : List String)
    (offeredAt : Int) (ttlSeconds : Option Number) :
    let expired := queue.expire host (some offeredAt)
    let outcome := queue.offer host { id, carIds, offeredAt := some offeredAt, ttlSeconds }
    ((∀ member ∈ expired.members, member.status ≠ .waiting) ∧
      outcome = (.error .empty, expired)) ∨
    ∃ member ∈ expired.members, member.status = .waiting ∧
      ((offerExpiry (some offeredAt) (ttlSeconds.getD (.ofInt 30)) = none ∧
        outcome = (.error .invalidTime,
          { expired with members := expired.members.map (mark member.id .offered) })) ∨
      ∃ expiresAt, offerExpiry (some offeredAt) (ttlSeconds.getD (.ofInt 30)) = some expiresAt ∧
        outcome =
          (.ok ⟨id, member.id, member.userId, carIds, offeredAt, expiresAt, none⟩,
            { members := expired.members.map (mark member.id .offered)
              offers := expired.offers.set id
                ⟨id, member.id, member.userId, carIds, offeredAt, expiresAt, none⟩ })) := by
  intro expired outcome
  have hdistinct : expired.Distinct := h.expire host _
  unfold outcome offer
  dsimp only
  split
  · next hnone =>
    refine .inl ⟨fun member hmem hwaiting => ?_, rfl⟩
    obtain ⟨i, hget⟩ := List.getElem?_of_mem hmem
    refine List.find?_eq_none.1 hnone (member, i) ?_ (decide_eq_true hwaiting)
    rw [places, List.mem_insertionSort, List.mem_filter]
    refine ⟨List.mem_zipIdx_iff_getElem?.2 hget, ?_⟩
    dsimp only
    rw [hwaiting]
    rfl
  · next member i hfind =>
    have hfound := List.find?_some hfind
    have hwaiting : member.status = .waiting := of_decide_eq_true hfound
    obtain ⟨hget, -⟩ := mem_places (List.mem_of_find?_eq_some hfind)
    refine .inr ⟨member, List.mem_of_getElem? hget, hwaiting, ?_⟩
    have hmembers := setStatus_members hdistinct hget .offered
    split
    · next offeredAt' expiresAt hoffered hexpires =>
      obtain rfl := Option.some.inj hoffered
      refine .inr ⟨expiresAt, hexpires, ?_⟩
      rw [← hmembers]
      rfl
    · next hinvalid =>
      refine .inl ⟨?_, ?_⟩
      · cases hexpires : offerExpiry (some offeredAt) (ttlSeconds.getD (.ofInt 30)) with
        | none => rfl
        | some expiresAt => exact (hinvalid offeredAt expiresAt rfl hexpires).elim
      · rw [← hmembers]
        rfl

/-- An acceptance throws, or finds the member that holds the offer in time. -/
theorem accept_cases (h : queue.Distinct) (offerId carId : String) (at' : Int) :
    (∃ error, queue.accept offerId carId (some at') = (.error error, queue)) ∨
    ∃ offer member, queue.offers.get? offerId = some offer ∧ at' < offer.expiresAt ∧
      carId ∈ offer.carIds ∧ member ∈ queue.members ∧ member.id = offer.queueEntryId ∧
      member.status = .offered ∧ queue.accept offerId carId (some at') =
        (.ok { offer with acceptedCarId := some carId },
          { members := queue.members.map (mark member.id .accepted)
            offers := queue.offers.set offerId { offer with acceptedCarId := some carId } }) := by
  unfold accept
  split
  · exact .inl ⟨_, rfl⟩
  · next offer hoffer =>
    split
    · exact .inl ⟨_, rfl⟩
    · next htime =>
      split
      · exact .inl ⟨_, rfl⟩
      · next hcar =>
        split
        · exact .inl ⟨_, rfl⟩
        · next i hfind =>
          obtain ⟨hlt, hid, -⟩ := List.findIdx?_eq_some_iff_getElem.1 hfind
          have hget := List.getElem?_eq_getElem hlt
          split
          · exact .inl ⟨_, rfl⟩
          · next hstatus =>
            rw [hget, Option.all_some, decide_eq_true_eq, not_not] at hstatus
            refine .inr ⟨offer, _, hoffer, ?_, not_not.1 hcar, List.getElem_mem hlt,
              of_decide_eq_true hid, hstatus, ?_⟩
            · exact Int.not_le.1 fun hle => htime (decide_eq_true hle)
            · rw [← setStatus_members h hget]
              rfl

/-- What a call makes of the queue, and the acceptance it makes. -/
inductive Moves (host : Host) (queue : FairRideQueue) :
    QueueCall → FairRideQueue → Option Acceptance → Prop where
  | stays {call : QueueCall} : Moves host queue call queue none
  | joined {member : QueueMember}
      (halone : ∀ other ∈ queue.members, other.userId = member.userId →
        other.status.active = false) :
      Moves host queue (.join member) { queue with members := queue.members ++ [member] } none
  | left {userId : String} {member : QueueMember} (hmem : member ∈ queue.members)
      (hwaiting : member.status = .waiting) :
      Moves host queue (.leave userId)
        { queue with members := queue.members.map (mark member.id .left) } none
  | read {at' : Int} : Moves host queue (.snapshot at') (queue.expire host (some at')) none
  | notOffered {id : String} {carIds : List String} {offeredAt : Int} {ttlSeconds : Option Number}
      (hnone : ∀ member ∈ (queue.expire host (some offeredAt)).members,
        member.status ≠ .waiting) :
      Moves host queue (.offer id carIds offeredAt ttlSeconds)
        (queue.expire host (some offeredAt)) none
  /-- The member is marked, and its offer has no valid end. -/
  | misdated {id : String} {carIds : List String} {offeredAt : Int} {ttlSeconds : Option Number}
      {member : QueueMember} (hmem : member ∈ (queue.expire host (some offeredAt)).members)
      (hwaiting : member.status = .waiting)
      (hexpires : offerExpiry (some offeredAt) (ttlSeconds.getD (.ofInt 30)) = none) :
      Moves host queue (.offer id carIds offeredAt ttlSeconds)
        { queue.expire host (some offeredAt) with
          members := (queue.expire host (some offeredAt)).members.map (mark member.id .offered) }
        none
  | offered {id : String} {carIds : List String} {offeredAt : Int} {ttlSeconds : Option Number}
      {member : QueueMember} {expiresAt : Int}
      (hmem : member ∈ (queue.expire host (some offeredAt)).members)
      (hwaiting : member.status = .waiting)
      (hexpires : offerExpiry (some offeredAt) (ttlSeconds.getD (.ofInt 30)) = some expiresAt) :
      Moves host queue (.offer id carIds offeredAt ttlSeconds)
        { members := (queue.expire host (some offeredAt)).members.map (mark member.id .offered)
          offers := queue.offers.set id
            ⟨id, member.id, member.userId, carIds, offeredAt, expiresAt, none⟩ }
        none
  | accepted {offerId carId : String} {at' : Int} {offer : RideOffer} {member : QueueMember}
      (hget : queue.offers.get? offerId = some offer) (htime : at' < offer.expiresAt)
      (hcar : carId ∈ offer.carIds) (hmem : member ∈ queue.members)
      (hid : member.id = offer.queueEntryId) (hoffered : member.status = .offered) :
      Moves host queue (.accept offerId carId at')
        { members := queue.members.map (mark member.id .accepted)
          offers := queue.offers.set offerId { offer with acceptedCarId := some carId } }
        (some ⟨offerId, carId, at'⟩)

theorem perform_moves (h : queue.Distinct) (host : Host) (call : QueueCall) :
    queue.Moves host call (queue.perform host call) (queue.acceptance? call) := by
  cases call with
  | join member =>
    dsimp only [perform]
    rcases queue.join_cases member with hsame | ⟨halone, hpush⟩
    · rw [hsame]
      exact .stays
    · rw [hpush]
      exact .joined halone
  | leave userId =>
    dsimp only [perform]
    rcases leave_cases h userId with hsame | ⟨member, hmem, hwaiting, hleft⟩
    · rw [hsame]
      exact .stays
    · rw [hleft]
      exact .left hmem hwaiting
  | snapshot at' => exact .read
  | offer id carIds offeredAt ttlSeconds =>
    dsimp only [perform]
    rcases offer_cases h host id carIds offeredAt ttlSeconds with ⟨hnone, houtcome⟩ |
      ⟨member, hmem, hwaiting, ⟨hexpires, houtcome⟩ | ⟨expiresAt, hexpires, houtcome⟩⟩
    · rw [houtcome]
      exact .notOffered hnone
    · rw [houtcome]
      exact .misdated hmem hwaiting hexpires
    · rw [houtcome]
      exact .offered hmem hwaiting hexpires
  | accept offerId carId at' =>
    dsimp only [perform, acceptance?]
    rcases accept_cases h offerId carId at' with ⟨error, houtcome⟩ |
      ⟨offer, member, hget, htime, hcar, hmem, hid, hoffered, houtcome⟩
    · rw [houtcome]
      exact .stays
    · rw [houtcome]
      exact .accepted hget htime hcar hmem hid hoffered

end FairRideQueue

end RcOnline.Domain
