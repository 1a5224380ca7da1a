import RcOnline.Bench.LiveControl
import RcOnline.Lib.Steps

/-!
# The command mailbox of the bench

`CommandMailbox` of `tests/hardware/pi-direct-pwm/rc_bench/live_server.py`: one browser owns the
bench, and its sequences increase. Once the owner has been silent for long enough anyone may take
over, with any sequence: so may the owner itself, and a frame of its own is taken a second time
(`replayed_twice`). Otherwise no frame is (`replay_protected_iff`).
-/

namespace RcOnline.Bench

open RcOnline.Lib

structure CommandMailbox where
  takeoverS : Number
  owner : Option String
  lastSequence : Int
  lastReceived : Number
  frame : Option InputFrame
  deriving DecidableEq

inductive PublishError where
  | clientId
  | sequence
  | armed
  | steering
  | throttle
  | frame (error : FrameError)
  /-- `ClientBusyError`. -/
  | clientBusy
  /-- `StaleSequenceError`. -/
  | staleSequence
  deriving DecidableEq

def PublishError.message : PublishError → String
  | .clientId => "client_id must be a non-empty string up to 128 characters"
  | .sequence => "sequence must be a non-negative integer"
  | .armed => "armed must be boolean"
  | .steering => "steering must be an integer"
  | .throttle => "throttle must be an integer"
  | .frame error => error.message
  | .clientBusy => "another browser owns the live bench"
  | .staleSequence => "sequence must increase monotonically"

/-- The arguments of `publish`, as a body gives them, and the clock. -/
structure PublishInput where
  clientId : PyValue
  sequence : PyValue
  armed : PyValue
  steering : PyValue
  throttle : PyValue
  nitro : PyValue := .bool false
  steeringTrimPercent : PyValue := .int 0
  now : Number

/-- What `publish` has checked before it takes the lock. -/
structure CheckedFrame where
  clientId : String
  sequence : Int
  frame : InputFrame
  deriving DecidableEq

def PublishInput.checked (input : PublishInput) : Except PublishError CheckedFrame :=
  match input.clientId with
  | .str clientId =>
    if 1 ≤ clientId.length ∧ clientId.length ≤ 128 then
      match input.sequence with
      | .int sequence =>
        if sequence < 0 then .error .sequence
        else
          match input.armed with
          | .bool armed =>
            match input.steering with
            | .int steering =>
              match input.throttle with
              | .int throttle =>
                match InputFrame.new armed steering throttle input.now input.nitro
                    input.steeringTrimPercent with
                | .ok frame => .ok { clientId, sequence, frame }
                | .error error => .error (.frame error)
              | _ => .error .throttle
            | _ => .error .steering
          | _ => .error .armed
      | _ => .error .sequence
    else .error .clientId
  | _ => .error .clientId

/-- A checked frame was received when it was published, and has a sequence. -/
theorem PublishInput.of_checked {input : PublishInput} {checked : CheckedFrame}
    (h : input.checked = .ok checked) :
    checked.frame.receivedAt = input.now ∧ 0 ≤ checked.sequence := by
  unfold PublishInput.checked at h
  split at h
  · split at h
    · split at h
      · split at h
        · cases h
        · next hsequence =>
          split at h
          · split at h
            · split at h
              · split at h
                · next frame hframe =>
                  obtain rfl := Except.ok.inj h
                  exact ⟨(InputFrame.of_new hframe).2, Int.not_lt.1 hsequence⟩
                · cases h
              · cases h
            · cases h
          · cases h
      · cases h
    · cases h
  · cases h

namespace CommandMailbox

/-- `CommandMailbox(takeover_s=...)`, unless it raises. -/
def new (takeoverS : Number) : Option CommandMailbox :=
  if takeoverS.leZero then none
  else
    some { takeoverS, owner := none, lastSequence := -1, lastReceived := .ofInt 0, frame := none }

variable (mailbox : CommandMailbox)

/-- The owner has been silent for more than `takeover_s`. -/
def ownerIsStale (now : Number) : Bool :=
  mailbox.owner.isSome && mailbox.takeoverS.lt (now.sub mailbox.lastReceived)

/-- What happens under the lock. -/
def accept (checked : CheckedFrame) (now : Number) :
    Except PublishError InputFrame × CommandMailbox :=
  let taken := mailbox.owner = none ∨ mailbox.ownerIsStale now = true
  if ¬ taken ∧ mailbox.owner ≠ some checked.clientId then (.error .clientBusy, mailbox)
  else
    let lastSequence := if taken then -1 else mailbox.lastSequence
    if checked.sequence ≤ lastSequence then
      (.error .staleSequence, { mailbox with owner := some checked.clientId, lastSequence })
    else
      (.ok checked.frame,
        { mailbox with
          owner := some checked.clientId
          lastSequence := checked.sequence
          lastReceived := now
          frame := some checked.frame })

def publish (input : PublishInput) : Except PublishError InputFrame × CommandMailbox :=
  match input.checked with
  | .error error => (.error error, mailbox)
  | .ok checked => mailbox.accept checked input.now

def snapshot : Option InputFrame := mailbox.frame

variable {mailbox}

/-- A call raises and changes nothing, or the frame is the new one of a client that takes over or
that counts on. -/
theorem publish_cases (mailbox : CommandMailbox) (input : PublishInput) :
    (∃ error, mailbox.publish input = (.error error, mailbox) ∧
      ∀ checked, input.checked = .ok checked →
        mailbox.owner ≠ none ∧ mailbox.ownerIsStale input.now = false) ∨
    ∃ checked, input.checked = .ok checked ∧
      (mailbox.owner = none ∨ mailbox.ownerIsStale input.now = true ∨
        mailbox.owner = some checked.clientId ∧ mailbox.lastSequence < checked.sequence) ∧
      mailbox.publish input = (.ok checked.frame,
        { mailbox with
          owner := some checked.clientId
          lastSequence := checked.sequence
          lastReceived := input.now
          frame := some checked.frame }) := by
  unfold publish
  split
  · next error hchecked =>
    refine .inl ⟨error, rfl, fun checked h => ?_⟩
    rw [h] at hchecked
    cases hchecked
  · next checked hchecked =>
    obtain ⟨-, hnonneg⟩ := PublishInput.of_checked hchecked
    by_cases htaken : mailbox.owner = none ∨ mailbox.ownerIsStale input.now = true
    · -- sequences start anew, and none is below the start
      refine .inr ⟨checked, hchecked, ?_, ?_⟩
      · exact htaken.imp_right .inl
      · unfold accept
        rw [if_neg fun h => h.1 htaken]
        simp only [if_pos htaken]
        rw [if_neg (by omega)]
    · have hopen : mailbox.owner ≠ none ∧ mailbox.ownerIsStale input.now = false := by
        rw [not_or, Bool.not_eq_true] at htaken
        exact htaken
      by_cases howner : mailbox.owner = some checked.clientId
      · unfold accept
        rw [if_neg fun h => h.2 howner]
        simp only [if_neg htaken]
        split
        · exact .inl ⟨_, by rw [← howner], fun _ _ => hopen⟩
        · next hsequence =>
          exact .inr ⟨checked, hchecked, .inr (.inr ⟨howner, Int.not_le.1 hsequence⟩), rfl⟩
      · refine .inl ⟨.clientBusy, ?_, fun _ _ => hopen⟩
        unfold accept
        rw [if_pos ⟨htaken, howner⟩]

end CommandMailbox

/-! ## Runs -/

/-- A mailbox with the frames that it has accepted. -/
structure MailboxRun where
  mailbox : CommandMailbox
  accepted : List CheckedFrame

/-- The sequences of each client increase. -/
def Increasing (accepted : List CheckedFrame) : Prop :=
  accepted.Pairwise fun earlier later =>
    earlier.clientId = later.clientId → earlier.sequence < later.sequence

instance (accepted : List CheckedFrame) : Decidable (Increasing accepted) := by
  unfold Increasing
  infer_instance

namespace MailboxRun

def publish (run : MailboxRun) (input : PublishInput) : MailboxRun :=
  match run.mailbox.publish input, input.checked with
  | (.ok _, mailbox), .ok checked => { mailbox, accepted := run.accepted ++ [checked] }
  | (_, mailbox), _ => { run with mailbox }

/-- What a mailbox promises of a call. -/
structure Protected (run : MailboxRun) (input : PublishInput) : Prop where
  increasing : Increasing (run.publish input).accepted
  takeover : ∀ frame checked owner, (run.mailbox.publish input).1 = .ok frame →
    input.checked = .ok checked → run.mailbox.owner = some owner → owner ≠ checked.clientId →
      ∃ last, run.accepted.getLast? = some last ∧ last.clientId = owner ∧
        run.mailbox.takeoverS.lt (input.now.sub last.frame.receivedAt) = true
  unchanged : ∀ error, (run.mailbox.publish input).1 = .error error →
    (run.mailbox.publish input).2 = run.mailbox

/-- A client that publishes after the owner's silence has had no frame with its sequence or a later
one accepted. -/
def SequenceUnused (run : MailboxRun) (input : PublishInput) : Prop :=
  match input.checked with
  | .ok checked => run.mailbox.ownerIsStale input.now = true →
    ∀ earlier ∈ run.accepted, earlier.clientId = checked.clientId →
      earlier.sequence < checked.sequence
  | .error _ => True

instance (run : MailboxRun) (input : PublishInput) : Decidable (run.SequenceUnused input) := by
  unfold SequenceUnused
  split <;> infer_instance

/-- The mailbox holds the frame that was accepted last. -/
def Holds (run : MailboxRun) : Prop :=
  match run.accepted.getLast? with
  | none => run.mailbox.owner = none ∧ run.mailbox.frame = none
  | some last => run.mailbox.owner = some last.clientId ∧
    run.mailbox.lastSequence = last.sequence ∧
    run.mailbox.lastReceived = last.frame.receivedAt ∧ run.mailbox.frame = some last.frame

variable {run : MailboxRun} {input : PublishInput}

/-- An accepted frame is the next of the log. -/
theorem publish_eq (run : MailboxRun) (input : PublishInput) :
    ((∃ error, run.mailbox.publish input = (.error error, run.mailbox)) ∧
      run.publish input = run ∧ ∀ checked, input.checked = .ok checked →
        run.mailbox.owner ≠ none ∧ run.mailbox.ownerIsStale input.now = false) ∨
    ∃ checked, input.checked = .ok checked ∧
      (run.mailbox.owner = none ∨ run.mailbox.ownerIsStale input.now = true ∨
        run.mailbox.owner = some checked.clientId ∧
          run.mailbox.lastSequence < checked.sequence) ∧
      (run.mailbox.publish input).1 = .ok checked.frame ∧
      run.publish input =
        { mailbox :=
            { run.mailbox with
              owner := some checked.clientId
              lastSequence := checked.sequence
              lastReceived := input.now
              frame := some checked.frame }
          accepted := run.accepted ++ [checked] } := by
  unfold publish
  rcases run.mailbox.publish_cases input with ⟨error, heq, hopen⟩ | ⟨checked, hchecked, hwhy, heq⟩
  · refine .inl ⟨⟨error, heq⟩, ?_, hopen⟩
    rw [heq]
  · refine .inr ⟨checked, hchecked, hwhy, ?_, ?_⟩
    · rw [heq]
    · rw [heq, hchecked]

theorem holds_new {takeoverS : Number} {mailbox : CommandMailbox}
    (h : CommandMailbox.new takeoverS = some mailbox) : Holds ⟨mailbox, []⟩ := by
  unfold CommandMailbox.new at h
  split at h
  · cases h
  · obtain rfl := Option.some.inj h
    exact ⟨rfl, rfl⟩

theorem Holds.publish (h : run.Holds) (input : PublishInput) : (run.publish input).Holds := by
  rcases run.publish_eq input with ⟨-, heq, -⟩ | ⟨checked, hchecked, -, -, heq⟩
  · rwa [heq]
  · rw [heq, Holds, List.getLast?_concat]
    exact ⟨rfl, rfl, (PublishInput.of_checked hchecked).1.symm, rfl⟩

/-- The owner is the client of the frame that was accepted last. -/
theorem Holds.owner (h : run.Holds) {owner : String} (howner : run.mailbox.owner = some owner) :
    ∃ last, run.accepted.getLast? = some last ∧ last.clientId = owner ∧
      run.mailbox.lastSequence = last.sequence ∧
      run.mailbox.lastReceived = last.frame.receivedAt := by
  unfold Holds at h
  split at h
  · rw [h.1] at howner
    cases howner
  · next last hlast =>
    obtain ⟨howner', hsequence, hreceived, -⟩ := h
    rw [howner'] at howner
    exact ⟨last, hlast, Option.some.inj howner, hsequence, hreceived⟩

theorem Holds.accepted_eq_nil (h : run.Holds) (howner : run.mailbox.owner = none) :
    run.accepted = [] := by
  unfold Holds at h
  split at h
  · next hlast => exact List.getLast?_eq_none_iff.1 hlast
  · rw [howner] at h
    cases h.1

theorem increasing_snoc_iff {accepted : List CheckedFrame} {checked : CheckedFrame}
    (h : Increasing accepted) :
    Increasing (accepted ++ [checked]) ↔
      ∀ earlier ∈ accepted, earlier.clientId = checked.clientId →
        earlier.sequence < checked.sequence := by
  unfold Increasing at h ⊢
  rw [List.pairwise_append]
  simp [h]

/-- The sequences of the owner are below its last one. -/
theorem Holds.lt_of_owner (h : run.Holds) (hincreasing : Increasing run.accepted)
    {checked : CheckedFrame} (howner : run.mailbox.owner = some checked.clientId)
    (hsequence : run.mailbox.lastSequence < checked.sequence) :
    ∀ earlier ∈ run.accepted, earlier.clientId = checked.clientId →
      earlier.sequence < checked.sequence := by
  obtain ⟨last, hlast, hclient, hlastSequence, -⟩ := h.owner howner
  obtain ⟨before, hbefore⟩ := List.getLast?_eq_some_iff.1 hlast
  rw [hbefore] at hincreasing ⊢
  intro earlier hmem hearlier
  rcases List.mem_append.1 hmem with hmem | hmem
  · have hlt := (List.pairwise_append.1 hincreasing).2.2 earlier hmem last (by simp)
      (hearlier.trans hclient.symm)
    omega
  · obtain rfl := List.mem_singleton.1 hmem
    omega

/-- A frame may be accepted twice only after the owner's silence. -/
theorem protected_iff (hholds : run.Holds) (hincreasing : Increasing run.accepted)
    (input : PublishInput) : run.Protected input ↔ run.SequenceUnused input := by
  rcases run.publish_eq input with ⟨⟨error, hraised⟩, heq, hopen⟩ |
    ⟨checked, hchecked, hwhy, haccepted, heq⟩
  · refine iff_of_true ⟨?_, fun frame _ _ hok => ?_, fun _ _ => ?_⟩ ?_
    · rwa [heq]
    · rw [hraised] at hok
      cases hok
    · rw [hraised]
    · unfold SequenceUnused
      split
      · next checked hchecked =>
        rw [(hopen checked hchecked).2]
        nofun
      · trivial
  · have htakeover : ∀ owner, run.mailbox.owner = some owner → owner ≠ checked.clientId →
        ∃ last, run.accepted.getLast? = some last ∧ last.clientId = owner ∧
          run.mailbox.takeoverS.lt (input.now.sub last.frame.receivedAt) = true := by
      intro owner howner hne
      obtain ⟨last, hlast, hclient, -, hreceived⟩ := hholds.owner howner
      refine ⟨last, hlast, hclient, ?_⟩
      rw [← hreceived]
      rcases hwhy with hnone | hstale | ⟨hsame, -⟩
      · rw [hnone] at howner
        cases howner
      · exact (Bool.and_eq_true_iff.1 hstale).2
      · rw [hsame] at howner
        exact absurd (Option.some.inj howner).symm hne
    unfold SequenceUnused
    rw [hchecked]
    constructor
    · intro h _
      have hlog := h.increasing
      rw [heq] at hlog
      exact (increasing_snoc_iff hincreasing).1 hlog
    · intro hunused
      refine ⟨?_, fun frame checked' owner _ hchecked' => ?_, fun error herror => ?_⟩
      · rw [heq]
        refine (increasing_snoc_iff hincreasing).2 ?_
        rcases hwhy with hnone | hstale | ⟨howner, hsequence⟩
        · rw [hholds.accepted_eq_nil hnone]
          nofun
        · exact hunused hstale
        · exact hholds.lt_of_owner hincreasing howner hsequence
      · rw [hchecked] at hchecked'
        obtain rfl := Except.ok.inj hchecked'
        exact htakeover owner
      · rw [haccepted] at herror
        cases herror

/-- **Main result.** Every frame of a run is protected if and only if no client publishes a sequence
again, or goes back, after the owner's silence. -/
theorem replay_protected_iff {takeoverS : Number} {mailbox : CommandMailbox}
    (hnew : CommandMailbox.new takeoverS = some mailbox) (inputs : List PublishInput) :
    Throughout publish Protected ⟨mailbox, []⟩ inputs ↔
      Throughout publish SequenceUnused ⟨mailbox, []⟩ inputs := by
  have hempty : Increasing (⟨mailbox, []⟩ : MailboxRun).accepted := List.Pairwise.nil
  refine throughout_congr (J := fun run => run.Holds ∧ Increasing run.accepted)
    (fun run input h => protected_iff h.1 h.2 input) (fun run input h hunused => ?_)
    ⟨holds_new hnew, hempty⟩ inputs
  exact ⟨h.1.publish input, ((protected_iff h.1 h.2 input).2 hunused).increasing⟩

end MailboxRun

/-- A frame of one of two browsers. -/
def benchFrame (clientId : String) (sequence now : Int) : PublishInput where
  clientId := .str clientId
  sequence := .int sequence
  armed := .bool true
  steering := .int 0
  throttle := .int 1
  now := .ofInt now

/-- The mailbox as the server makes it. -/
def benchMailbox : CommandMailbox where
  takeoverS := .ofInt 1
  owner := none
  lastSequence := -1
  lastReceived := .ofInt 0
  frame := none

/-- One browser takes over from another, which is refused before. -/
theorem takeover_protected :
    Throughout MailboxRun.publish MailboxRun.Protected ⟨benchMailbox, []⟩
      [benchFrame "browser-a" 1 0, benchFrame "browser-b" 1 1, benchFrame "browser-b" 1 3] := by
  have hnew : CommandMailbox.new (.ofInt 1) = some benchMailbox := by decide +kernel
  exact (MailboxRun.replay_protected_iff hnew _).2 (by decide +kernel)

/-- After two seconds of silence the owner's last frame is accepted again. -/
theorem replayed_twice :
    ¬ Throughout MailboxRun.publish MailboxRun.Protected ⟨benchMailbox, []⟩
      [benchFrame "browser-a" 5 0, benchFrame "browser-a" 5 2] := by
  rintro ⟨-, hreplayed, -⟩
  have hlog := hreplayed.increasing
  revert hlog
  decide +kernel

end RcOnline.Bench
