import RcOnline.Database.Accounts
import RcOnline.Lib.Steps

/-!
# Linking identities

`linkIdentity` of `apps/web/auth/postgres-auth-store.ts`, one statement at a time. Under read
committed isolation a statement sees what others have committed; an insert waits for a pending row
with its key, so it is one step with the commit that follows it. What a call has read of its user is
good until another call inserts an identity of that user at that provider: the identities stay one
for each user and provider if and only if no insert comes in between (`one_per_provider_iff`).
-/

namespace RcOnline.Web

open RcOnline.Lib RcOnline.Accounts

/-- The arguments of a call. -/
structure IdentityLink where
  userId : Uuid
  provider : String
  subject : String
  deriving DecidableEq

inductive LinkError where
  | subjectOfAnother
  | differentIdentity
  | uniqueViolation
  deriving DecidableEq

/-- The message of the error; Postgres words its own. -/
def LinkError.message? : LinkError → Option String
  | .subjectOfAnother => some "OAuth identity belongs to another user"
  | .differentIdentity => some "User already has a different OAuth identity"
  | .uniqueViolation => none

/-- The statement that a call does next, or how it has ended. -/
inductive LinkPhase where
  | selectSubject
  | selectUser
  | insert
  | finished (result : Except LinkError Unit)
  | lost

structure IdentitySystem where
  identities : Table OauthIdentity
  calls : List (IdentityLink × LinkPhase)

inductive LinkEvent where
  | linkIdentity (link : IdentityLink)
  | advance (call : Nat)
  | lose (call : Nat)

namespace IdentitySystem

def start (identities : Table OauthIdentity) : IdentitySystem where
  identities := identities
  calls := []

/-- The row that a call inserts. -/
def row (link : IdentityLink) : OauthIdentity where
  userId := link.userId
  provider := link.provider
  providerSubject := link.subject

/-- What a statement of a call leaves. -/
def statement (identities : Table OauthIdentity) (link : IdentityLink) :
    LinkPhase → Table OauthIdentity × LinkPhase
  | .selectSubject =>
    match identities.rows.find? fun r =>
        r.provider = link.provider && r.providerSubject = link.subject with
    | some subjectIdentity =>
      if subjectIdentity.userId ≠ link.userId then
        (identities, .finished (.error .subjectOfAnother))
      else (identities, .finished (.ok ()))
    | none => (identities, .selectUser)
  | .selectUser =>
    match identities.rows.find? fun r =>
        r.userId = link.userId && r.provider = link.provider with
    | some userIdentity =>
      if userIdentity.providerSubject ≠ link.subject then
        (identities, .finished (.error .differentIdentity))
      else (identities, .insert)
    | none => (identities, .insert)
  | .insert =>
    match identities.insert? (fun _ => false) (row link) with
    | some identities => (identities, .finished (.ok ()))
    | none => (identities, .finished (.error .uniqueViolation))
  | .finished result => (identities, .finished result)
  | .lost => (identities, .lost)

def step (system : IdentitySystem) : LinkEvent → IdentitySystem
  | .linkIdentity link => { system with calls := system.calls ++ [(link, .selectSubject)] }
  | .advance call =>
    match system.calls[call]? with
    | some (link, phase) =>
      let (identities, phase) := statement system.identities link phase
      { identities, calls := system.calls.set call (link, phase) }
    | none => system
  | .lose call =>
    { system with calls := system.calls.modify call fun (link, _) => (link, .lost) }

/-- Each identity is of one user, and each user has one identity at a provider. -/
structure OnePerProvider (system : IdentitySystem) : Prop where
  subject : ∀ a ∈ system.identities.rows, ∀ b ∈ system.identities.rows,
    a.provider = b.provider → a.providerSubject = b.providerSubject → a.userId = b.userId
  user : ∀ a ∈ system.identities.rows, ∀ b ∈ system.identities.rows,
    a.userId = b.userId → a.provider = b.provider → a.providerSubject = b.providerSubject

/-! ## Schedules -/

/-- The call whose second SELECT an event does. -/
def reads? (system : IdentitySystem) : LinkEvent → Option Nat
  | .advance call =>
    match system.calls[call]? with
    | some (_, .selectUser) => some call
    | _ => none
  | _ => none

/-- The call whose INSERT goes through at an event, with its link. -/
def inserts? (system : IdentitySystem) : LinkEvent → Option (Nat × IdentityLink)
  | .advance call =>
    match system.calls[call]? with
    | some (link, .insert) =>
      if (system.identities.insert? (fun _ => false) (row link)).isSome then some (call, link)
      else none
    | _ => none
  | _ => none

section schedule

variable (identities : Table OauthIdentity) (events : List LinkEvent)

/-- The state before the event at a place. -/
def before (n : Nat) : IdentitySystem := (events.take n).foldl step (start identities)

def readsAt (n : Nat) : Option Nat := events[n]?.bind (before identities events n).reads?

def insertsAt (n : Nat) : Option (Nat × IdentityLink) :=
  events[n]?.bind (before identities events n).inserts?

/-- Between two places no INSERT for the user and provider of a link goes through. -/
def Undisturbed (m n : Nat) (link : IdentityLink) : Prop :=
  ∀ k < n, m < k → ∀ other ∈ insertsAt identities events k,
    ¬ (other.2.userId = link.userId ∧ other.2.provider = link.provider)

instance (m n : Nat) (link : IdentityLink) : Decidable (Undisturbed identities events m n link) :=
  inferInstanceAs (Decidable (∀ k < n, m < k → ∀ other ∈ insertsAt identities events k, ¬ _))

/-- A call whose INSERT goes through is undisturbed from its second SELECT to that INSERT. -/
def Unraced : Prop :=
  ∀ n < events.length, ∀ insertion ∈ insertsAt identities events n,
    ∀ m < n, readsAt identities events m = some insertion.1 →
      Undisturbed identities events m n insertion.2

instance : Decidable (Unraced identities events) :=
  inferInstanceAs (Decidable (∀ n < events.length, ∀ insertion ∈ insertsAt identities events n,
    ∀ m < n, readsAt identities events m = some insertion.1 → _))

end schedule

/-! ## One statement -/

/-- The unique constraint: a subject at a provider is one row. -/
theorem subject_of_key (identities : Table OauthIdentity) {a b : OauthIdentity}
    (ha : a ∈ identities.rows) (hb : b ∈ identities.rows) (hprovider : a.provider = b.provider)
    (hsubject : a.providerSubject = b.providerSubject) : a = b :=
  Table.eq_of_key ha hb (Prod.ext hprovider hsubject)

/-- A statement other than an insert that goes through leaves the table. -/
theorem statement_eq (identities : Table OauthIdentity) (link : IdentityLink) (phase : LinkPhase) :
    (statement identities link phase).1 = identities ∨
      (phase = .insert ∧ identities.insert? (fun _ => false) (row link) =
        some (statement identities link phase).1) := by
  cases phase with
  | selectSubject =>
    simp only [statement]
    split
    · split <;> exact .inl rfl
    · exact .inl rfl
  | selectUser =>
    simp only [statement]
    split
    · split <;> exact .inl rfl
    · exact .inl rfl
  | insert =>
    simp only [statement]
    split
    · next hinsert => exact .inr ⟨trivial, hinsert⟩
    · exact .inl rfl
  | finished result => exact .inl rfl
  | lost => exact .inl rfl

variable {system : IdentitySystem}

theorem OnePerProvider.of_eq (h : OnePerProvider system) {other : IdentitySystem}
    (heq : other.identities = system.identities) : OnePerProvider other := by
  refine ⟨?_, ?_⟩
  · rw [heq]
    exact h.subject
  · rw [heq]
    exact h.user

/-- An insert that goes through keeps the identities apart if and only if its user had none. -/
theorem OnePerProvider.insert_iff (h : OnePerProvider system) {link : IdentityLink}
    {identities : Table OauthIdentity} {other : IdentitySystem}
    (hinsert : system.identities.insert? (fun _ => false) (row link) = some identities)
    (hother : other.identities = identities) :
    OnePerProvider other ↔ ∀ a ∈ system.identities.rows,
      ¬(a.userId = link.userId ∧ a.provider = link.provider) := by
  have hmem : ∀ a, a ∈ other.identities.rows ↔ a ∈ system.identities.rows ∨ a = row link := by
    intro a
    rw [hother]
    exact Table.mem_insert? hinsert
  have hfree := (Table.insert?_eq_some hinsert).1
  constructor
  · rintro hone a ha ⟨huser, hprovider⟩
    have hsame := hone.user a ((hmem a).2 (.inl ha)) (row link) ((hmem _).2 (.inr rfl)) huser
      hprovider
    exact (hfree a ha).1 (Prod.ext hprovider hsame)
  · intro hnone
    refine ⟨fun a ha b hb hprovider hsubject => ?_, fun a ha b hb huser hprovider => ?_⟩
    · rw [subject_of_key other.identities ha hb hprovider hsubject]
    · rcases (hmem a).1 ha with ha | rfl
      · rcases (hmem b).1 hb with hb | rfl
        · exact h.user a ha b hb huser hprovider
        · exact absurd ⟨huser, hprovider⟩ (hnone a ha)
      · rcases (hmem b).1 hb with hb | rfl
        · exact absurd ⟨huser.symm, hprovider.symm⟩ (hnone b hb)
        · rfl

/-- A step inserts a row or leaves the table. -/
theorem step_identities (system : IdentitySystem) (event : LinkEvent) :
    (system.inserts? event = none ∧ (system.step event).identities = system.identities) ∨
      ∃ call link, event = .advance call ∧ system.calls[call]? = some (link, .insert) ∧
        system.inserts? event = some (call, link) ∧
        system.identities.insert? (fun _ => false) (row link) =
          some (system.step event).identities := by
  cases event with
  | linkIdentity link => exact .inl ⟨rfl, rfl⟩
  | lose call => exact .inl ⟨rfl, rfl⟩
  | advance call =>
    cases hcall : system.calls[call]? with
    | none => exact .inl ⟨by simp [inserts?, hcall], by simp [step, hcall]⟩
    | some entry =>
      obtain ⟨link, phase⟩ := entry
      have hidentities : (system.step (.advance call)).identities =
          (statement system.identities link phase).1 := by
        simp only [step, hcall]
      rcases statement_eq system.identities link phase with heq | ⟨rfl, hinsert⟩
      · refine .inl ⟨?_, hidentities.trans heq⟩
        cases phase with
        | insert =>
          -- an insert that leaves the table has not gone through
          cases hinsert : system.identities.insert? (fun _ => false) (row link) with
          | none => simp [inserts?, hcall, hinsert]
          | some identities =>
            simp only [statement, hinsert] at heq
            have hrow : row link ∈ system.identities.rows := by
              rw [← heq]
              exact (Table.mem_insert? hinsert).2 (.inr rfl)
            exact absurd rfl ((Table.insert?_eq_some hinsert).1 _ hrow).1
        | selectSubject | selectUser | finished | lost => simp [inserts?, hcall]
      · refine .inr ⟨call, link, rfl, hcall, ?_, ?_⟩
        · simp [inserts?, hcall, hinsert]
        · rw [hidentities]
          exact hinsert

/-- A step that reads inserts nothing. -/
theorem inserts?_of_reads? {event : LinkEvent} {call : Nat} (h : system.reads? event = some call) :
    system.inserts? event = none := by
  cases event with
  | linkIdentity link => rfl
  | lose other => rfl
  | advance other =>
    cases hcall : system.calls[other]? with
    | none => simp [inserts?, hcall]
    | some entry =>
      obtain ⟨link, phase⟩ := entry
      cases phase with
      | selectUser => simp [inserts?, hcall]
      | selectSubject | insert | finished | lost => simp [reads?, hcall] at h

theorem rows_step (event : LinkEvent) {a : OauthIdentity} (ha : a ∈ system.identities.rows) :
    a ∈ (system.step event).identities.rows := by
  rcases step_identities system event with ⟨-, heq⟩ | ⟨call, link, -, -, -, hinsert⟩
  · exact heq ▸ ha
  · exact (Table.mem_insert? hinsert).2 (.inl ha)

/-- A call that is about to insert was so before, or has just read no other subject of its user. -/
theorem insert_cases {event : LinkEvent} {call : Nat} {link : IdentityLink}
    (hone : OnePerProvider system)
    (h : (system.step event).calls[call]? = some (link, .insert)) :
    system.calls[call]? = some (link, .insert) ∨
      system.reads? event = some call ∧
        ∀ a ∈ system.identities.rows, a.userId = link.userId → a.provider = link.provider →
          a.providerSubject = link.subject := by
  cases event with
  | linkIdentity other =>
    simp only [step, List.getElem?_append] at h
    split at h
    · exact .inl h
    · simp [List.getElem?_singleton] at h
  | lose other =>
    simp only [step, List.getElem?_modify] at h
    obtain ⟨entry, hentry, heq⟩ := Option.map_eq_some_iff.1 h
    split at heq
    · cases heq
    · exact .inl (hentry.trans (congrArg some heq))
  | advance other =>
    cases hcall : system.calls[other]? with
    | none =>
      simp only [step, hcall] at h
      exact .inl h
    | some entry =>
      obtain ⟨otherLink, phase⟩ := entry
      simp only [step, hcall, List.getElem?_set] at h
      split at h
      · next heq =>
        subst heq
        obtain ⟨-, h⟩ := Option.ite_none_right_eq_some.1 h
        obtain ⟨rfl, hphase⟩ := Prod.mk.inj (Option.some.inj h)
        cases phase with
        | selectUser =>
          refine .inr ⟨by simp [reads?, hcall], fun a ha huser hprovider => ?_⟩
          simp only [statement] at hphase
          split at hphase
          · next userIdentity hfind =>
            have hread := List.find?_some hfind
            simp only [Bool.and_eq_true, decide_eq_true_eq] at hread
            split at hphase
            · cases hphase
            · next hsubject =>
              rw [hone.user a ha userIdentity (List.mem_of_find?_eq_some hfind)
                (huser.trans hread.1.symm) (hprovider.trans hread.2.symm)]
              exact not_not.1 hsubject
          · next hfind =>
            have hother := List.find?_eq_none.1 hfind a ha
            simp [huser, hprovider] at hother
        | selectSubject =>
          simp only [statement] at hphase
          split at hphase
          · split at hphase <;> cases hphase
          · cases hphase
        | insert =>
          simp only [statement] at hphase
          split at hphase <;> cases hphase
        | finished result => cases hphase
        | lost => cases hphase
      · exact .inl h

/-! ## Runs -/

section runs

variable {identities : Table OauthIdentity} {events : List LinkEvent}

theorem before_succ {n : Nat} {event : LinkEvent} (h : events[n]? = some event) :
    before identities events (n + 1) = (before identities events n).step event := by
  rw [before, List.take_add_one, h, Option.toList_some, List.foldl_append]
  rfl

/-- Rows stay. -/
theorem rows_before {m n : Nat} (hle : m ≤ n) {a : OauthIdentity}
    (ha : a ∈ (before identities events m).identities.rows) :
    a ∈ (before identities events n).identities.rows := by
  induction hle with
  | refl => exact ha
  | step _ ih =>
    next n _ =>
    cases hevent : events[n]? with
    | none =>
      have hlength : events.length ≤ n := List.getElem?_eq_none_iff.1 hevent
      rw [before, List.take_of_length_le hlength] at ih
      rw [before, List.take_of_length_le (hlength.trans n.le_succ)]
      exact ih
    | some event =>
      rw [before_succ hevent]
      exact rows_step event ih

/-- The row of an insert that goes through. -/
theorem row_of_insertsAt {n : Nat} {insertion : Nat × IdentityLink}
    (h : insertsAt identities events n = some insertion) :
    (before identities events n).identities.insert? (fun _ => false) (row insertion.2) =
        some (before identities events (n + 1)).identities ∧
      (before identities events n).calls[insertion.1]? = some (insertion.2, .insert) := by
  obtain ⟨event, hevent, hinserts⟩ := Option.bind_eq_some_iff.1 h
  rcases step_identities (before identities events n) event with ⟨hnone, -⟩ |
    ⟨call, link, -, hcall, hsome, hinsert⟩
  · rw [hnone] at hinserts
    cases hinserts
  · obtain rfl := Option.some.inj (hsome.symm.trans hinserts)
    rw [before_succ hevent]
    exact ⟨hinsert, hcall⟩

/-- What a call that is about to insert has read of its user: nothing but its own subject and what
was inserted since. -/
def Marked (identities : Table OauthIdentity) (events : List LinkEvent) (n : Nat) : Prop :=
  ∀ (call : Nat) (link : IdentityLink),
    (before identities events n).calls[call]? = some (link, .insert) →
    ∃ m < n, readsAt identities events m = some call ∧
      ∀ a ∈ (before identities events n).identities.rows, a.userId = link.userId →
        a.provider = link.provider → a.providerSubject = link.subject ∨
          ∃ k < n, m < k ∧ ∃ other ∈ insertsAt identities events k, row other.2 = a

theorem marked_zero : Marked identities events 0 := by
  intro call link h
  simp [before, start] at h

theorem Marked.succ {n : Nat} {event : LinkEvent} (h : Marked identities events n)
    (hevent : events[n]? = some event) (hone : OnePerProvider (before identities events n)) :
    Marked identities events (n + 1) := by
  intro call link hcall
  rw [before_succ hevent] at hcall ⊢
  have hsteps := step_identities (before identities events n) event
  rcases insert_cases hone hcall with hbefore | ⟨hreads, hown⟩
  · obtain ⟨m, hm, hreads, hrows⟩ := h call link hbefore
    refine ⟨m, hm.trans n.lt_succ_self, hreads, fun a ha huser hprovider => ?_⟩
    have hold : a ∈ (before identities events n).identities.rows →
        a.providerSubject = link.subject ∨
          ∃ k < n + 1, m < k ∧ ∃ other ∈ insertsAt identities events k, row other.2 = a := by
      refine fun ha => (hrows a ha huser hprovider).imp_right ?_
      rintro ⟨k, hk, hinserted⟩
      exact ⟨k, hk.trans n.lt_succ_self, hinserted⟩
    rcases hsteps with ⟨-, heq⟩ | ⟨other, otherLink, -, -, hinserts, hinsert⟩
    · exact hold (heq ▸ ha)
    · rcases (Table.mem_insert? hinsert).1 ha with ha | rfl
      · exact hold ha
      · refine .inr ⟨n, n.lt_succ_self, hm, (other, otherLink), ?_, rfl⟩
        rw [insertsAt, hevent]
        exact hinserts
  · refine ⟨n, n.lt_succ_self, ?_, fun a ha huser hprovider => .inl ?_⟩
    · rw [readsAt, hevent]
      exact hreads
    · rcases hsteps with ⟨-, heq⟩ | ⟨other, otherLink, -, -, hinserts, -⟩
      · exact hown a (heq ▸ ha) huser hprovider
      · rw [inserts?_of_reads? hreads] at hinserts
        cases hinserts

/-- Without races every state has one identity per subject and per user. -/
theorem Unraced.one_before (h : Unraced identities events)
    (hstart : OnePerProvider (start identities)) {n : Nat} (hn : n ≤ events.length) :
    OnePerProvider (before identities events n) ∧ Marked identities events n := by
  induction n with
  | zero => exact ⟨hstart, marked_zero⟩
  | succ n ih =>
    obtain ⟨hone, hmarked⟩ := ih (n.le_succ.trans hn)
    have hevent : events[n]? = some events[n] := List.getElem?_eq_getElem hn
    refine ⟨?_, hmarked.succ hevent hone⟩
    rw [before_succ hevent]
    rcases step_identities (before identities events n) events[n] with ⟨-, heq⟩ |
      ⟨call, link, -, hcall, hinserts, hinsert⟩
    · exact hone.of_eq heq
    · refine (hone.insert_iff hinsert rfl).2 fun a ha ⟨huser, hprovider⟩ => ?_
      obtain ⟨m, hm, hreads, hrows⟩ := hmarked call link hcall
      rcases hrows a ha huser hprovider with hsubject | ⟨k, hk, hmk, other, hother, rfl⟩
      · exact ((Table.insert?_eq_some hinsert).1 a ha).1 (Prod.ext hprovider hsubject)
      · have hinsertion : (call, link) ∈ insertsAt identities events n := by
          rw [insertsAt, hevent]
          exact hinserts
        exact h n hn _ hinsertion m hm hreads k hk hmk other hother ⟨huser, hprovider⟩

/-- With one identity per user in every state there is no race: both inserts would be there. -/
theorem unraced_of_one
    (h : ∀ n < events.length, OnePerProvider (before identities events (n + 1))) :
    Unraced identities events := by
  intro n hn insertion hinsertion m _ _ k hk _ other hother ⟨huser, hprovider⟩
  obtain ⟨hinsert, -⟩ := row_of_insertsAt hinsertion
  obtain ⟨hinsert', -⟩ := row_of_insertsAt hother
  have hmem : row other.2 ∈ (before identities events n).identities.rows :=
    rows_before hk ((Table.mem_insert? hinsert').2 (.inr rfl))
  have hsame := (h n hn).user (row other.2) (rows_before n.le_succ hmem) (row insertion.2)
    ((Table.mem_insert? hinsert).2 (.inr rfl)) huser hprovider
  exact ((Table.insert?_eq_some hinsert).1 _ hmem).1 (Prod.ext hprovider hsame)

end runs

/-- **Main result.** However the statements of any calls are interleaved, the identities stay one
per subject and per user throughout the run if and only if no insert comes between what another call
has read of the user and its insert. -/
theorem one_per_provider_iff {identities : Table OauthIdentity}
    (hstart : OnePerProvider (start identities)) (events : List LinkEvent) :
    Throughout step (fun system event => OnePerProvider (system.step event)) (start identities)
        events ↔
      Unraced identities events := by
  rw [throughout_iff]
  constructor
  · intro h
    refine unraced_of_one fun n hn => ?_
    have hevent : events[n]? = some events[n] := List.getElem?_eq_getElem hn
    rw [before_succ hevent]
    exact h n _ hevent
  · intro h n event hevent
    obtain ⟨hn, -⟩ := List.getElem?_eq_some_iff.1 hevent
    have hone := (h.one_before hstart hn).1
    rwa [before_succ hevent] at hone

theorem onePerProvider_empty : OnePerProvider (start .empty) := by
  constructor <;> intro a ha <;> cases ha

/-- Two subjects, one after the other: the second is refused. -/
theorem oneAfterTheOther_one_per_provider :
    Throughout step (fun system event => OnePerProvider (system.step event)) (start .empty)
      [.linkIdentity ⟨"ada", "google", "one"⟩, .advance 0, .advance 0, .advance 0,
        .linkIdentity ⟨"ada", "google", "two"⟩, .advance 1, .advance 1, .advance 1] :=
  (one_per_provider_iff onePerProvider_empty _).2 (by decide +kernel)

/-- Both calls read before either inserts. -/
theorem sideBySide_two_subjects :
    ¬Throughout step (fun system event => OnePerProvider (system.step event)) (start .empty)
      [.linkIdentity ⟨"ada", "google", "one"⟩, .linkIdentity ⟨"ada", "google", "two"⟩, .advance 0,
        .advance 0, .advance 1, .advance 1, .advance 0, .advance 1] := by
  rintro ⟨-, -, -, -, -, -, -, hone, -⟩
  have hsame := hone.user ⟨"ada", "google", "one"⟩ (by decide +kernel) ⟨"ada", "google", "two"⟩
    (by decide +kernel) rfl rfl
  exact absurd hsame (by decide)

end IdentitySystem

end RcOnline.Web
