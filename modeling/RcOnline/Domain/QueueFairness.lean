import RcOnline.Domain.QueueOffers
import RcOnline.Lib.Sorting

/-!
# Whom the queue offers cars

The queue looks for the member that waits and has joined first by the texts of the times, and then
by the places in the array; the others stay as they are or expire. Texts of one instant can be
written in several ways, and do not always stand in the order of the instants. The member is marked
before the offer's end is written, so an offer without a valid end throws although somebody waits
(`fair_offer_iff`).
-/

namespace RcOnline.Domain.FairRideQueue

open RcOnline.Lib

/-- A member that waits and has not expired at an instant. -/
def Waits (host : Host) (at' : Date) (member : QueueMember) : Prop :=
  member.status = .waiting ∧ (host.parseDate member.expiresAt).le at' = false

/-- A member waits at a place of the array. -/
def WaitsAt (host : Host) (queue : FairRideQueue) (at' : Date) (i : Nat) (member : QueueMember) :
    Prop :=
  queue.members[i]? = some member ∧ Waits host at' member

/-! ## Who is ahead -/

section order

variable (host : Host) (other member : QueueMember)

/-- The other member has joined at an earlier instant. -/
def JoinedEarlier : Prop :=
  (host.parseDate member.joinedAt).gt (host.parseDate other.joinedAt) = true

/-- The two have joined at one instant, or by one text. -/
def JoinedTogether : Prop :=
  other.joinedAt = member.joinedAt ∨
    ∃ time, host.parseDate other.joinedAt = some time ∧ host.parseDate member.joinedAt = some time

/-- The other member, at place `j`, is ahead of the member at `i` by the instants. -/
def AheadByTime (j i : Nat) : Prop :=
  JoinedEarlier host other member ∨ JoinedTogether host other member ∧ j < i

/-- The same by the texts of the instants. -/
def AheadByText (j i : Nat) : Prop :=
  host.localeCompare other.joinedAt member.joinedAt < 0 ∨
    host.localeCompare other.joinedAt member.joinedAt = 0 ∧ j < i

end order

/-- The member at a place is the one whose turn it is. -/
structure FirstInLine (host : Host) (queue : FairRideQueue) (at' : Date) (i : Nat)
    (member : QueueMember) : Prop where
  here : WaitsAt host queue at' i member
  earliest : ∀ (j : Nat) (other : QueueMember), WaitsAt host queue at' j other →
    ¬ JoinedEarlier host other member
  joinedFirst : ∀ (j : Nat) (other : QueueMember), WaitsAt host queue at' j other →
    JoinedTogether host other member → i ≤ j

/-- Whoever waits behind somebody by the instants waits behind somebody by their texts. -/
def TextsFollowTimes (host : Host) (queue : FairRideQueue) (at' : Date) : Prop :=
  ∀ (i : Nat) (member : QueueMember), WaitsAt host queue at' i member →
    (∃ j other, WaitsAt host queue at' j other ∧ AheadByTime host other member j i) →
    ∃ j other, WaitsAt host queue at' j other ∧ AheadByText host other member j i

/-! ## What an offer promises -/

/-- What becomes of a member that is not the one offered to. -/
def Aside (host : Host) (at' : Date) (member after : QueueMember) : Prop :=
  after = member ∨ after = { member with status := .expired } ∧
    (host.parseDate member.expiresAt).le at' = true

/-- What an offer promises. -/
structure FairOffer (host : Host) (queue : FairRideQueue) (id : String) (carIds : List String)
    (offeredAt : Date) (ttlSeconds : Option Number) : Prop where
  chosen : ∀ (offer : RideOffer) (after : FairRideQueue),
    queue.offer host { id, carIds, offeredAt, ttlSeconds } = (.ok offer, after) →
      ∃ (i : Nat) (member : QueueMember), FirstInLine host queue offeredAt i member ∧
        offer.queueEntryId = member.id ∧ offer.userId = member.userId ∧
        after.members[i]? = some { member with status := .offered } ∧
        after.members.length = queue.members.length ∧
        ∀ (j : Nat) (other : QueueMember), j ≠ i → queue.members[j]? = some other →
          ∃ other', after.members[j]? = some other' ∧ Aside host offeredAt other other'
  fails :
    (∃ error, (queue.offer host { id, carIds, offeredAt, ttlSeconds }).1 = .error error) ↔
      ∀ member ∈ queue.members, ¬ Waits host offeredAt member

variable {host : Host} {queue : FairRideQueue} {at' : Date} {member : QueueMember} {i : Nat}

/-! ## The places -/

/-- The places of the array are taken one after the other. -/
theorem lt_of_sublist_zipIdx {a b : QueueMember × Nat}
    (h : [a, b].Sublist (queue.members.zipIdx.filter (·.1.status.live))) : a.2 < b.2 := by
  have hplaces : (queue.members.zipIdx.map Prod.snd).Pairwise (· < ·) := by
    rw [List.zipIdx_map_snd]
    exact List.pairwise_lt_range'
  have hpair := (h.trans List.filter_sublist).map Prod.snd
  exact List.pairwise_pair.1 (hplaces.sublist hpair)

theorem nodup_zipIdx_filter :
    (queue.members.zipIdx.filter (·.1.status.live)).Nodup := by
  refine List.filter_sublist.nodup (List.Nodup.of_map Prod.snd ?_)
  rw [List.zipIdx_map_snd]
  exact List.nodup_range'

/-- Expiry takes no place away. -/
theorem getElem?_expire (host : Host) (at' : Date) (j : Nat) :
    (queue.expire host at').members[j]? = (queue.members[j]?).map (expired host at') :=
  List.getElem?_map

/-- A member that waits after the others have expired waited before, and has not expired. -/
theorem waiting_expired_iff :
    (expired host at' member).status = .waiting ↔ Waits host at' member := by
  unfold expired Waits lapsed
  constructor
  · intro h
    split at h
    · cases h
    · next hlapsed =>
      rw [h, MemberStatus.live, Bool.true_and] at hlapsed
      exact ⟨h, Bool.eq_false_iff.2 hlapsed⟩
  · rintro ⟨hwaiting, hlater⟩
    rw [hlater, Bool.and_false]
    exact hwaiting

theorem Waits.expired_eq (h : Waits host at' member) : expired host at' member = member := by
  unfold expired lapsed
  rw [h.2, Bool.and_false]
  rfl

theorem aside_expired (host : Host) (at' : Date) (member : QueueMember) :
    Aside host at' member (expired host at' member) := by
  unfold expired
  split
  · next hlapsed => exact .inr ⟨rfl, (Bool.and_eq_true_iff.1 hlapsed).2⟩
  · exact .inl rfl

/-- The member at a place is ahead of all others by the texts. -/
structure FirstByText (host : Host) (queue : FairRideQueue) (at' : Date) (i : Nat)
    (member : QueueMember) : Prop where
  here : WaitsAt host queue at' i member
  ahead : ∀ (j : Nat) (other : QueueMember), WaitsAt host queue at' j other → j ≠ i →
    AheadByText host member other i j

/-- The member that is found is the first by the texts. -/
theorem firstByText_of_find (hcollates : Collates host)
    (h : ((queue.expire host at').places host).find? (·.1.status = .waiting) =
      some (member, i)) : FirstByText host queue at' i member := by
  have htotal : Std.Total fun a b : QueueMember × Nat =>
      host.localeCompare a.1.joinedAt b.1.joinedAt ≤ 0 := ⟨fun _ _ => hcollates.total _ _⟩
  have htrans : IsTrans (QueueMember × Nat) fun a b =>
      host.localeCompare a.1.joinedAt b.1.joinedAt ≤ 0 := ⟨fun _ _ _ => hcollates.trans _ _ _⟩
  obtain ⟨hmem, hwaiting, hfirst⟩ := find?_insertionSort nodup_zipIdx_filter h
  have hplace := List.mem_zipIdx_iff_getElem?.1 (List.mem_filter.1 hmem).1
  rw [getElem?_expire] at hplace
  obtain ⟨before, hbefore, hexpired⟩ := Option.map_eq_some_iff.1 hplace
  have hwaits : Waits host at' before := by
    rw [← waiting_expired_iff, hexpired]
    exact of_decide_eq_true hwaiting
  obtain rfl : before = member := hwaits.expired_eq.symm.trans hexpired
  refine ⟨⟨hbefore, hwaits⟩, fun j other hother hne => ?_⟩
  have hlive : (other, j) ∈ (queue.expire host at').members.zipIdx.filter (·.1.status.live) := by
    refine List.mem_filter.2 ⟨List.mem_zipIdx_iff_getElem?.2 ?_, ?_⟩
    · dsimp only
      rw [getElem?_expire, hother.1, Option.map_some, hother.2.expired_eq]
    · dsimp only
      rw [hother.2.1]
      rfl
  obtain ⟨hle, hstable⟩ := hfirst (other, j) hlive (decide_eq_true hother.2.1) fun heq =>
    hne (congrArg Prod.snd heq)
  rcases hle.lt_or_eq with hlt | heq
  · exact .inl hlt
  · refine .inr ⟨heq, lt_of_sublist_zipIdx (hstable ?_)⟩
    exact (hcollates.not_lt_iff _ _).1 heq.ge.not_gt

/-- Nobody is ahead of the first by the texts. -/
theorem FirstByText.not_ahead (hcollates : Collates host)
    (h : FirstByText host queue at' i member) {j : Nat} {other : QueueMember}
    (hother : WaitsAt host queue at' j other) : ¬ AheadByText host other member j i := by
  have hboth : ∀ a b, host.localeCompare a b < 0 → ¬ host.localeCompare b a < 0 := by
    intro a b hlt hlt'
    have := (hcollates.swap a b).1 hlt
    omega
  intro hahead
  by_cases hne : j = i
  · subst hne
    obtain rfl := Option.some.inj (hother.1.symm.trans h.here.1)
    rcases hahead with hlt | ⟨-, hlt⟩
    · exact hboth _ _ hlt hlt
    · exact lt_irrefl _ hlt
  · have hswap := (hcollates.swap other.joinedAt member.joinedAt)
    have hswap' := (hcollates.swap member.joinedAt other.joinedAt)
    rcases h.ahead j other hother hne with hlt | ⟨heq, hij⟩ <;>
      rcases hahead with hlt' | ⟨heq', hji⟩ <;> omega

/-- Who is first by the texts is first in line if and only if the texts follow the instants. -/
theorem FirstByText.firstInLine_iff (hcollates : Collates host)
    (h : FirstByText host queue at' i member) :
    FirstInLine host queue at' i member ↔ TextsFollowTimes host queue at' := by
  constructor
  · intro hfirst k behind hbehind ⟨j, other, hother, hahead⟩
    by_cases hne : k = i
    · subst hne
      obtain rfl := Option.some.inj (hbehind.1.symm.trans h.here.1)
      rcases hahead with hearlier | ⟨htogether, hlt⟩
      · exact absurd hearlier (hfirst.earliest j other hother)
      · exact absurd (hfirst.joinedFirst j other hother htogether) (not_le.2 hlt)
    · exact ⟨i, member, h.here, h.ahead k behind hbehind hne⟩
  · intro hfollow
    have hnobody : ∀ j other, WaitsAt host queue at' j other →
        ¬ AheadByTime host other member j i := by
      intro j other hother hahead
      obtain ⟨k, ahead, hwaits, htext⟩ := hfollow i member h.here ⟨j, other, hother, hahead⟩
      exact h.not_ahead hcollates hwaits htext
    refine ⟨h.here, fun j other hother hearlier => ?_, fun j other hother htogether => ?_⟩
    · exact hnobody j other hother (.inl hearlier)
    · exact not_lt.1 fun hlt => hnobody j other hother (.inr ⟨htogether, hlt⟩)

/-- Nobody is found where nobody waits. -/
theorem find_places_eq_none_iff :
    ((queue.expire host at').places host).find? (·.1.status = .waiting) = none ↔
      ∀ member ∈ queue.members, ¬ Waits host at' member := by
  constructor
  · intro hnone member hmem hwaits
    obtain ⟨j, hget⟩ := List.getElem?_of_mem hmem
    refine List.find?_eq_none.1 hnone (member, j) ?_ (decide_eq_true hwaits.1)
    rw [places, List.mem_insertionSort, List.mem_filter]
    refine ⟨List.mem_zipIdx_iff_getElem?.2 ?_, ?_⟩
    · dsimp only
      rw [getElem?_expire, hget, Option.map_some, hwaits.expired_eq]
    · dsimp only
      rw [hwaits.1]
      rfl
  · intro hnone
    refine List.find?_eq_none.2 fun place hplace hwaiting => ?_
    have hget := (mem_places hplace).1
    rw [getElem?_expire] at hget
    obtain ⟨before, hbefore, hexpired⟩ := Option.map_eq_some_iff.1 hget
    refine hnone before (List.mem_of_getElem? hbefore) ?_
    rw [← waiting_expired_iff, hexpired]
    exact of_decide_eq_true hwaiting

/-! ## The offer -/

/-- The member at the place is offered to, and the others are set aside. -/
theorem members_offered (h : WaitsAt host queue at' i member) :
    let after := ((queue.expire host at').setStatus i .offered).members
    after[i]? = some { member with status := .offered } ∧
      after.length = queue.members.length ∧
      ∀ j other, j ≠ i → queue.members[j]? = some other →
        ∃ other', after[j]? = some other' ∧ Aside host at' other other' := by
  intro after
  have hafter : ∀ j, after[j]? =
      (fun m : QueueMember => if i = j then { m with status := .offered } else m) <$>
        ((queue.members[j]?).map (expired host at')) := by
    intro j
    rw [← getElem?_expire, ← List.getElem?_modify]
    rfl
  refine ⟨?_, ?_, fun j other hne hother => ⟨_, ?_, aside_expired host at' other⟩⟩
  · rw [hafter, h.1, Option.map_some, h.2.expired_eq]
    simp
  · exact (List.length_modify ..).trans (List.length_map _)
  · rw [hafter, hother, Option.map_some]
    simp [hne.symm]

/-- Without anybody in line the queue is empty. -/
theorem offer_empty (input : OfferInput)
    (hfind : ((queue.expire host input.offeredAt).places host).find? (·.1.status = .waiting) =
      none) :
    queue.offer host input = (.error .empty, queue.expire host input.offeredAt) := by
  unfold offer
  simp only [hfind]

/-- The one who is found is marked, and the offer is written when its end is valid. -/
theorem offer_found (input : OfferInput)
    (hfind : ((queue.expire host input.offeredAt).places host).find? (·.1.status = .waiting) =
      some (member, i)) :
    let marked := (queue.expire host input.offeredAt).setStatus i .offered
    offerExpiry input.offeredAt (input.ttlSeconds.getD (.ofInt 30)) = none ∧
        queue.offer host input = (.error .invalidTime, marked) ∨
      ∃ offer : RideOffer, offerExpiry input.offeredAt (input.ttlSeconds.getD (.ofInt 30)) ≠ none ∧
        queue.offer host input =
          (.ok offer, { marked with offers := marked.offers.set offer.id offer }) ∧
        offer.queueEntryId = member.id ∧ offer.userId = member.userId := by
  intro marked
  unfold offer
  simp only [hfind]
  split
  · next offeredAt expiresAt hat hexpiry =>
    refine .inr ⟨_, ?_, rfl, rfl, rfl⟩
    rw [hexpiry]
    exact Option.some_ne_none _
  · next hinvalid =>
    refine .inl ⟨Option.eq_none_iff_forall_ne_some.2 fun expiresAt hexpiry => ?_, rfl⟩
    cases hat : input.offeredAt with
    | none =>
      rw [hat] at hexpiry
      cases hexpiry
    | some offeredAt => exact hinvalid offeredAt expiresAt hat hexpiry

/-- Only the member that an offer has marked is offered to. -/
theorem place_of_aside (h : WaitsAt host queue at' i member) {j : Nat} {after : FairRideQueue}
    (hmarked : after.members[i]? = some { member with status := .offered })
    (haside : ∀ (k : Nat) (other : QueueMember), k ≠ j → queue.members[k]? = some other →
      ∃ other', after.members[k]? = some other' ∧ Aside host at' other other') : i = j := by
  by_contra hne
  obtain ⟨other', hother', hkept⟩ := haside i member hne h.1
  obtain rfl := Option.some.inj (hmarked.symm.trans hother')
  rcases hkept with hsame | ⟨hsame, -⟩
  · have hstatus := congrArg QueueMember.status hsame
    rw [h.2.1] at hstatus
    cases hstatus
  · cases congrArg QueueMember.status hsame

/-- **Main result.** An offer is fair if and only if nobody waits, or it has a valid end and the
texts of the times follow their instants. -/
theorem fair_offer_iff (hcollates : Collates host) (queue : FairRideQueue) (id : String)
    (carIds : List String) (offeredAt : Date) (ttlSeconds : Option Number) :
    FairOffer host queue id carIds offeredAt ttlSeconds ↔
      ((∃ member ∈ queue.members, Waits host offeredAt member) →
        offerExpiry offeredAt (ttlSeconds.getD (.ofInt 30)) ≠ none ∧
          TextsFollowTimes host queue offeredAt) := by
  cases hfind : ((queue.expire host offeredAt).places host).find? (·.1.status = .waiting) with
  | none =>
    have hnobody := find_places_eq_none_iff.1 hfind
    have hempty := offer_empty { id, carIds, offeredAt, ttlSeconds } hfind
    refine iff_of_true ⟨fun offer after hoffer => ?_, iff_of_true ⟨.empty, ?_⟩ hnobody⟩ ?_
    · rw [hempty] at hoffer
      cases hoffer
    · rw [hempty]
    · rintro ⟨member, hmem, hwaits⟩
      exact absurd hwaits (hnobody member hmem)
  | some found =>
    obtain ⟨member, i⟩ := found
    have hfirst := firstByText_of_find hcollates hfind
    have hmem := List.mem_of_getElem? hfirst.here.1
    have hnot : ¬ ∀ member ∈ queue.members, ¬ Waits host offeredAt member := fun hnone =>
      hnone member hmem hfirst.here.2
    rw [forall_prop_of_true ⟨member, hmem, hfirst.here.2⟩]
    obtain ⟨hexpiry, hthrows⟩ | ⟨made, hexpiry, hmade, hentry, huser⟩ :=
      offer_found { id, carIds, offeredAt, ttlSeconds } hfind
    · refine iff_of_false (fun hfair => hnot (hfair.fails.1 ⟨.invalidTime, ?_⟩)) fun h =>
        h.1 hexpiry
      rw [hthrows]
    · rw [and_iff_right hexpiry, ← hfirst.firstInLine_iff hcollates]
      have hafter := members_offered hfirst.here
      constructor
      · intro hfair
        obtain ⟨j, chosen, hchosen, -, -, -, -, haside⟩ := hfair.chosen made _ hmade
        obtain rfl := place_of_aside hfirst.here hafter.1 haside
        obtain rfl := Option.some.inj (hchosen.here.1.symm.trans hfirst.here.1)
        exact hchosen
      · refine fun hline => ⟨fun offer after hoffer => ?_, iff_of_false ?_ hnot⟩
        · rw [hmade] at hoffer
          cases hoffer
          exact ⟨i, member, hline, hentry, huser, hafter⟩
        · rintro ⟨error, herror⟩
          rw [hmade] at herror
          cases herror

/-- The driver's offer for thirty seconds is fair. -/
theorem driver_fair_offer : FairOffer clockHost ⟨[driver], ∅⟩ "offer" ["car"] (some 0) none := by
  refine (fair_offer_iff (.of_lt fun _ _ => rfl) ⟨[driver], ∅⟩ "offer" ["car"] (some 0) none).2
    fun _ => ⟨?_, ?_⟩
  · rw [Option.getD, offerExpiry_thirty (by decide)]
    exact Option.some_ne_none _
  · -- one member is behind nobody
    have hone : ∀ i member, WaitsAt clockHost ⟨[driver], ∅⟩ (some 0) i member →
        i = 0 ∧ member = driver := by
      intro i member hmember
      obtain ⟨hlt, hget⟩ := List.getElem?_eq_some_iff.1 hmember.1
      obtain rfl : i = 0 := by simpa using hlt
      exact ⟨rfl, hget.symm⟩
    intro i member hmember ⟨j, other, hother, hahead⟩
    obtain ⟨rfl, rfl⟩ := hone i member hmember
    obtain ⟨rfl, rfl⟩ := hone j other hother
    rcases hahead with hearlier | ⟨-, hlt⟩
    · exact absurd hearlier (by simp [JoinedEarlier, Date.gt, driver, clockHost])
    · exact absurd hlt (lt_irrefl 0)

/-! ## Offers that are not fair -/

/-- A host that reads the times of two drivers who join within a second. -/
def halfSecondHost : Host where
  parseDate text :=
    if text = "2026-07-25T10:00:00Z" then some 1784973600000
    else if text = "2026-07-25T10:00:00.500Z" then some 1784973600500
    else if text = "2026-07-25T10:30:00Z" then some 1784975400000
    else none
  localeCompare a b := if a < b then -1 else if a = b then 0 else 1

def earlyDriver : QueueMember :=
  ⟨"early", "user-1", "2026-07-25T10:00:00Z", "2026-07-25T10:30:00Z", .waiting⟩

def lateDriver : QueueMember :=
  ⟨"late", "user-2", "2026-07-25T10:00:00.500Z", "2026-07-25T10:30:00Z", .waiting⟩

/-- A driver waits, and an offer for longer than dates last is refused. Two drivers wait, and the
one that has joined half a second later is offered the car: a full stop comes before a letter. -/
theorem unfair_offers :
    (perform clockHost empty (.join driver) = ⟨[driver], ∅⟩ ∧
      Waits clockHost (some 0) driver ∧
      ¬ FairOffer clockHost ⟨[driver], ∅⟩ "offer" ["car"] (some 0)
        (some (.ofInt 8640000000001))) ∧
    (perform halfSecondHost (perform halfSecondHost empty (.join earlyDriver)) (.join lateDriver) =
        ⟨[earlyDriver, lateDriver], ∅⟩ ∧
      ¬ FairOffer halfSecondHost ⟨[earlyDriver, lateDriver], ∅⟩ "offer" ["car"]
        (some 1784973601000) none) := by
  constructor
  · have hwaits : Waits clockHost (some 0) driver := ⟨rfl, by decide⟩
    refine ⟨rfl, hwaits, fun hfair => ?_⟩
    have hexpiry : offerExpiry (some 0) (.ofInt 8640000000001) = none := by
      have hmul : (Number.ofInt 8640000000001).mul (.ofInt 1000) = .ofInt 8640000000001000 :=
        Number.mul_ofInt (by decide)
      have hadd : (Number.ofInt 8640000000001000).add (.ofInt 0) = .ofInt 8640000000001000 :=
        Number.add_ofInt (by decide)
      rw [offerExpiry, hmul, hadd, Number.ofInt, Number.timeClip, if_neg]
      norm_num
    refine hfair.fails.1 ⟨.invalidTime, ?_⟩ driver (List.mem_cons_self ..) hwaits
    have hfind : ((expire ⟨[driver], ∅⟩ clockHost (some 0)).places clockHost).find?
        (·.1.status = .waiting) = some (driver, 0) := by decide
    obtain ⟨-, hthrows⟩ | ⟨offer, hvalid, -⟩ :=
      offer_found ⟨"offer", ["car"], some 0, some (.ofInt 8640000000001)⟩ hfind
    · rw [hthrows]
    · exact absurd hexpiry hvalid
  · refine ⟨rfl, fun hfair => ?_⟩
    have hearly : WaitsAt halfSecondHost ⟨[earlyDriver, lateDriver], ∅⟩ (some 1784973601000) 0
        earlyDriver := ⟨rfl, rfl, by decide⟩
    have hfind : ((expire ⟨[earlyDriver, lateDriver], ∅⟩ halfSecondHost
        (some 1784973601000)).places halfSecondHost).find? (·.1.status = .waiting) =
        some (lateDriver, 1) := by decide
    obtain ⟨hinvalid, -⟩ | ⟨offer, -, hoffer, hentry, -⟩ :=
      offer_found ⟨"offer", ["car"], some 1784973601000, none⟩ hfind
    · rw [Option.getD, offerExpiry_thirty (by decide)] at hinvalid
      cases hinvalid
    · obtain ⟨j, chosen, hchosen, hsame, -⟩ := hfair.chosen offer _ hoffer
      have hid : chosen.id = "late" := hsame.symm.trans hentry
      have hmem := List.mem_of_getElem? hchosen.here.1
      simp only [List.mem_cons, List.not_mem_nil, or_false] at hmem
      rcases hmem with rfl | rfl
      · exact absurd hid (by decide)
      · exact hchosen.earliest 0 earlyDriver hearly rfl

end RcOnline.Domain.FairRideQueue
