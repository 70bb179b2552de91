import Screencast.Proofs.Session.ModeChange
import Screencast.Proofs.Session.Rebuilds
import Screencast.Session.Run

/-! # Changes of mode that are given up

A change of mode begins with a proposal, or with the host's end if there was none, and goes on until
its mode has been acknowledged and the host's pipeline has ended. If the timer finds it waiting at
its deadline, the change is given up and counts as not acknowledged. The acknowledgement may well
have arrived by then: what is missing is one of the two milestones, and it may be the other one
(`Screencast.Generation.hard_restart_iff`).
-/

namespace Screencast

open Wire

namespace Generation

variable {g g' : Generation} {mode : DisplayMode} {now deadline since : Nat} {i : GenerationInput}
  {log : List Milestone} {past later inputs : List (Nat × GenerationInput)}
  {ended : Option GenerationEnd} {ends : List GenerationEnd}

/-- What a change of mode that still waits tells of the milestones since it began. -/
structure Waits (g : Generation) (mode : DisplayMode) (deadline : Nat) (log : List Milestone) :
    Prop where
  renegotiation : g.renegotiation = some
    ⟨mode, deadline, decide (.acknowledged mode ∈ log), decide (.hostEnded ∈ log)⟩
  incomplete : ¬ (.acknowledged mode ∈ log ∧ .hostEnded ∈ log)

/-- An input that a change to the mode begins with. -/
inductive Begins (g : Generation) (mode : DisplayMode) : GenerationInput → Prop
  | proposal : Begins g mode (.hostEvent (.outbound (.changeStreamingParams mode)))
  | hostEnd {width height refreshRate : UInt32} (idle : g.renegotiation = none)
      (is : mode = ⟨width, height, refreshRate, .deg0⟩) :
      Begins g mode (.hostEvent (.terminated (.resolutionChanged width height refreshRate)))

/-- Among some inputs, the change that is under way after them began at the moment `since`, and the
milestones from then on are those of `log`. -/
def Awaits (g : Generation) (past : List (Nat × GenerationInput)) (mode : DisplayMode)
    (since : Nat) (log : List Milestone) : Prop :=
  ∃ earlier i later g₀ g₁, past = earlier ++ (since, i) :: later ∧
    g.reactions earlier = .ok ([], g₀) ∧ g₀.react since i = .ok (none, g₁) ∧ g₀.Begins mode i ∧
    (∀ next, .proposed next ∉ g₁.milestones later) ∧
    log = (g₀.milestone? i).toList ++ g₁.milestones later

/-- A change that was not found complete waits on. -/
theorem waits_of_takeCompleted
    (pending : g.renegotiation = some
      ⟨mode, deadline, decide (.acknowledged mode ∈ log), decide (.hostEnded ∈ log)⟩)
    (goesOn : g.takeCompleted = (none, g')) : g'.Waits mode deadline log := by
  rcases takeCompleted_cases g with ⟨r, completed⟩ | ⟨same, incomplete⟩
  · cases completed.symm.trans goesOn
  · cases same.symm.trans goesOn
    refine ⟨pending, ?_⟩
    simpa [Renegotiation.isComplete] using incomplete _ pending

/-- The proposal sets the deadline and begins the wait. -/
theorem Begins.waits (begins : g.Begins mode i) (reacted : g.react now i = .ok (none, g')) :
    g'.Waits mode (now + g.ackTimeout.nanos) (g.milestone? i).toList := by
  cases begins with
  | proposal =>
      cases reacted
      have is : g.milestone? (.hostEvent (.outbound (.changeStreamingParams mode))) =
          some (.proposed mode) := rfl
      refine ⟨?_, by simp [is]⟩
      simp [is, sendToClient, propose, Renegotiation.propose]
  | hostEnd idle same =>
      obtain rfl := same
      refine waits_of_takeCompleted ?_ (Except.ok.inj reacted)
      simp [hostEnded, idle, Renegotiation.propose, Renegotiation.onHostTerminated, milestone?,
        HostEvent.milestone?]

/-- Whatever does not end the generation keeps it waiting for the same deadline. -/
theorem Waits.react (waits : g.Waits mode deadline log)
    (unproposed : ∀ next, g.milestone? i ≠ some (.proposed next))
    (reacted : g.react now i = .ok (none, g')) :
    g'.Waits mode deadline (log ++ (g.milestone? i).toList) := by
  cases is : g.milestone? i with
  | none =>
      rcases react_elsewhere is reacted with ⟨keeps, -⟩ | ⟨r, -, -, ends⟩
      · rw [Option.toList_none, List.append_nil]
        exact ⟨keeps.renegotiation.trans waits.renegotiation, waits.incomplete⟩
      · cases ends
  | some m =>
      cases m with
      | proposed next => exact absurd is (unproposed next)
      | received next =>
          cases (react_received is).symm.trans reacted
          refine ⟨?_, by simpa using waits.incomplete⟩
          simpa [sendToHost] using waits.renegotiation
      | acknowledged next =>
          rw [react_acknowledged is] at reacted
          refine waits_of_takeCompleted ?_ (Except.ok.inj reacted)
          simp [onAck, waits.renegotiation, Renegotiation.onAck, eq_comm]
      | hostEnded =>
          obtain ⟨width, height, refreshRate, rfl⟩ := milestone?_eq_hostEnded.mp is
          refine waits_of_takeCompleted ?_ (Except.ok.inj reacted)
          simp [hostEnded, waits.renegotiation, Renegotiation.onHostTerminated]

/-- A run without another proposal that does not end it keeps a generation waiting for its
deadline. -/
theorem Waits.reactions (waits : g.Waits mode deadline log)
    (unproposed : ∀ next, .proposed next ∉ g.milestones later)
    (reacted : g.reactions later = .ok ([], g')) :
    g'.Waits mode deadline (log ++ g.milestones later) := by
  induction later generalizing g log with
  | nil =>
      cases reacted
      rw [milestones, List.append_nil]
      exact waits
  | cons first later ih =>
      obtain ⟨now, i⟩ := first
      obtain ⟨g₁, answer, others⟩ := reactions_cons_of_goesOn reacted
      rw [milestones, answer] at unproposed ⊢
      rw [← List.append_assoc]
      refine ih (waits.react (fun next is => ?_) answer) (fun next member => ?_) others
      · exact unproposed next (List.mem_append_left _ (by simp [is]))
      · exact unproposed next (List.mem_append_right _ member)

/-- Nothing changes how long a change of mode may wait. -/
theorem react_ackTimeout (reacted : g.react now i = .ok (ended, g')) :
    g'.ackTimeout = g.ackTimeout := by
  rcases react_client reacted with
    ⟨client, -, -, -, rfl⟩ | ⟨f, -, -, -, takes⟩ | ⟨mode, received⟩ | leaves
  · rfl
  · exact takes.ackTimeout
  · cases (react_received received).symm.trans reacted
    rfl
  · exact leaves.client.ackTimeout

private theorem reactions_ackTimeout (reacted : g.reactions inputs = .ok (ends, g')) :
    g'.ackTimeout = g.ackTimeout := by
  induction inputs generalizing g ends with
  | nil =>
      cases reacted
      rfl
  | cons first inputs ih =>
      obtain ⟨ended, g₁, more, answer, others, -⟩ := reactions_cons reacted
      exact (ih others).trans (react_ackTimeout answer)

/-- A generation that awaits an answer holds the deadline of its last proposal. -/
theorem Awaits.waits (awaits : g.Awaits past mode since log)
    (goesOn : g.reactions past = .ok ([], g')) :
    g'.Waits mode (since + g.ackTimeout.nanos) log := by
  obtain ⟨earlier, i, later, g₀, g₁, rfl, before, answer, begins, unproposed, rfl⟩ := awaits
  obtain ⟨more, after, rfl⟩ := reactions_append before goesOn
  obtain ⟨g₁', answer', others⟩ := reactions_cons_of_goesOn after
  cases answer.symm.trans answer'
  rw [← reactions_ackTimeout before]
  exact (begins.waits answer).reactions unproposed others

/-- A change of mode that waits after a reaction began with it, or it waited before. -/
theorem begins_or_waited (reacted : g.react now i = .ok (ended, g'))
    (pending : g'.renegotiation ≠ none) :
    (∃ mode, g.Begins mode i) ∨
      g.renegotiation ≠ none ∧ ∀ next, g.milestone? i ≠ some (.proposed next) := by
  cases is : g.milestone? i with
  | none =>
      refine .inr ⟨?_, fun _ => nofun⟩
      rcases react_elsewhere is reacted with ⟨keeps, -⟩ | ⟨r, waited, -⟩
      · rw [← keeps.renegotiation]
        exact pending
      · simp [waited]
  | some m =>
      cases m with
      | proposed next =>
          obtain rfl := milestone?_eq_proposed.mp is
          exact .inl ⟨next, .proposal⟩
      | received next =>
          cases (react_received is).symm.trans reacted
          exact .inr ⟨pending, fun _ => nofun⟩
      | acknowledged next =>
          refine .inr ⟨fun idle => ?_, fun _ => nofun⟩
          cases (react_acknowledged_of_idle idle is).symm.trans reacted
          exact pending idle
      | hostEnded =>
          obtain ⟨width, height, refreshRate, rfl⟩ := milestone?_eq_hostEnded.mp is
          by_cases idle : g.renegotiation = none
          · exact .inl ⟨_, .hostEnd idle rfl⟩
          · exact .inr ⟨idle, fun _ => nofun⟩

/-- A pending renegotiation goes back to the last proposal of the run, or was there before it. -/
theorem awaits_or_waited (goesOn : g.reactions past = .ok ([], g'))
    (pending : g'.renegotiation ≠ none) :
    (∃ mode since log, g.Awaits past mode since log) ∨
      g.renegotiation ≠ none ∧ ∀ next, .proposed next ∉ g.milestones past := by
  induction past generalizing g with
  | nil =>
      cases goesOn
      exact .inr ⟨pending, fun _ => List.not_mem_nil⟩
  | cons first past ih =>
      obtain ⟨now, i⟩ := first
      obtain ⟨g₁, answer, others⟩ := reactions_cons_of_goesOn goesOn
      rcases ih others with ⟨mode, since, log, awaits⟩ | ⟨waited, unproposed⟩
      · obtain ⟨earlier, j, later, g₀, g₂, rfl, before, rest⟩ := awaits
        exact .inl ⟨mode, since, log, (now, i) :: earlier, j, later, g₀, g₂, rfl,
          reactions_eq_cons answer before, rest⟩
      · -- Nothing was proposed later, so the change began here or goes back to before the run.
        rcases begins_or_waited answer waited with ⟨mode, begins⟩ | ⟨waiting, is⟩
        · exact .inl ⟨mode, now, _, [], i, past, g, g₁, rfl, rfl, answer, begins, unproposed, rfl⟩
        · refine .inr ⟨waiting, fun next member => ?_⟩
          rw [milestones, answer] at member
          rcases List.mem_append.mp member with first | rest
          · exact is next (Option.mem_toList.mp first)
          · exact unproposed next rest

/-- Only the timer gives a change of mode up. -/
theorem eq_ackTimer_of_given_up
    (reacted : g.react now i = .ok (some (.renegotiate mode false), g')) :
    i = .ackTimer := by
  have completed {g₀ : Generation}
      (taken : g₀.takeCompleted = (some (.renegotiate mode false), g')) : False := by
    rcases takeCompleted_cases g₀ with ⟨r, completed⟩ | ⟨same, -⟩
    · cases completed.symm.trans taken
    · cases same.symm.trans taken
  cases is : g.milestone? i with
  | none =>
      rcases react_elsewhere is reacted with ⟨-, goesOn⟩ | ⟨r, -, timer, -⟩
      · exact absurd rfl (goesOn mode false)
      · exact timer
  | some m =>
      cases m with
      | proposed next =>
          obtain rfl := milestone?_eq_proposed.mp is
          cases reacted
      | received next => cases (react_received is).symm.trans reacted
      | acknowledged next =>
          rw [react_acknowledged is] at reacted
          exact (completed (Except.ok.inj reacted)).elim
      | hostEnded =>
          obtain ⟨width, height, refreshRate, rfl⟩ := milestone?_eq_hostEnded.mp is
          exact (completed (Except.ok.inj reacted)).elim

/-- The timer gives up what waits at its deadline. -/
theorem Waits.ackTimedOut (waits : g.Waits mode deadline log) (now : Nat) :
    g.ackTimedOut now =
      if deadline ≤ now then
        (some (.renegotiate mode false), { g with renegotiation := none })
      else (none, g) := by
  have expired : Renegotiation.isExpired ⟨mode, deadline, decide (.acknowledged mode ∈ log),
      decide (.hostEnded ∈ log)⟩ now = decide (deadline ≤ now) := by
    have incomplete := waits.incomplete
    simp only [Renegotiation.isExpired, Renegotiation.isComplete, Int.ofNat_le]
    simpa using fun _ => Decidable.not_and_iff_not_or_not.mp incomplete
  rw [Generation.ackTimedOut, waits.renegotiation]
  dsimp only
  rw [expired]
  simp only [decide_eq_true_eq]

/-- What the owner of a stage reacts to at one moment is a run of its generation. -/
theorem reactions_of_stage {s s' : Stage} {now : Nat} {inputs : List GenerationInput}
    {ended : Option GenerationEnd} (reacted : s.react now inputs = .ok (ended, s')) :
    ∃ before g₀, s.generation.reactions (before.map (now, ·)) = .ok ([], g₀) ∧
      (ended = none ∧ inputs = before ∧ s'.generation = g₀ ∨
        ∃ i after, ended ≠ none ∧ inputs = before ++ i :: after ∧
          g₀.react now i = .ok (ended, s'.generation)) := by
  unfold Stage.react at reacted
  cases all : s.generation.reactAll now inputs with
  | error e =>
      rw [all] at reacted
      cases reacted
  | ok answer =>
      rw [all] at reacted
      cases reacted
      exact reactions_of_reactAll all

/-- **A change of mode is given up if one of two milestones is missing.** A generation without a
change of mode goes on through the inputs of `past`. The next input ends it with a mode that counts
as not acknowledged if and only if it is the timer, and the change to that mode under way has waited
until its deadline. The acknowledgement and the host's end are then not both among the milestones
since the change began, but one of them may be. A session counts every such end as a hard restart,
for which the link starts anew, and no other change of mode. The inputs that a stage of it reacts to
at one moment are such a run, and perhaps one more that ends the generation. -/
theorem hard_restart_iff (idle : g.renegotiation = none)
    (goesOn : g.reactions past = .ok ([], g')) (mode : DisplayMode) (now : Nat)
    (i : GenerationInput) :
    ((∃ last, g'.react now i = .ok (some (.renegotiate mode false), last)) ↔
      i = .ackTimer ∧ ∃ since log, g.Awaits past mode since log ∧
        since + g.ackTimeout.nanos ≤ now) ∧
    (∀ since log, g.Awaits past mode since log →
      .acknowledged mode ∈ log → .hostEnded ∉ log) ∧
    (∀ (s : Session) acked, ∃ s', s.afterStage (.renegotiate mode acked) = .working s' ∧
      s'.mode = mode ∧ s'.summary.renegotiations = s.summary.renegotiations + 1 ∧
      s'.summary.hardRestarts = s.summary.hardRestarts + (if acked then 0 else 1) ∧
      s'.link = if acked then s.link else s.link.reset) ∧
    ∀ (s s' : Stage) now inputs ended, s.react now inputs = .ok (ended, s') →
      ∃ before g₀, s.generation.reactions (before.map (now, ·)) = .ok ([], g₀) ∧
        (ended = none ∧ inputs = before ∧ s'.generation = g₀ ∨
          ∃ i after, ended ≠ none ∧ inputs = before ++ i :: after ∧
            g₀.react now i = .ok (ended, s'.generation)) := by
  refine ⟨⟨?_, ?_⟩, fun since log awaits told hostOver => ?_, fun s acked => ?_,
    fun s s' now inputs ended => reactions_of_stage⟩
  · rintro ⟨last, reacted⟩
    obtain rfl := eq_ackTimer_of_given_up reacted
    have pending : g'.renegotiation ≠ none := by
      intro nothing
      rw [react, ackTimedOut, nothing] at reacted
      cases reacted
    rcases awaits_or_waited goesOn pending with ⟨next, since, log, awaits⟩ | ⟨waited, -⟩
    · rw [react, (awaits.waits goesOn).ackTimedOut] at reacted
      split at reacted
      next due =>
        cases reacted
        exact ⟨rfl, since, log, awaits, due⟩
      next => cases reacted
    · exact absurd idle waited
  · rintro ⟨rfl, since, log, awaits, due⟩
    rw [react, (awaits.waits goesOn).ackTimedOut, if_pos due]
    exact ⟨_, rfl⟩
  · exact (awaits.waits goesOn).incomplete ⟨told, hostOver⟩
  · cases acked with
    | true | false => exact ⟨_, rfl, rfl, rfl, rfl, rfl⟩

/-- The acknowledgement arrives, and the host's end does not become known. -/
def overtaken : List (Nat × GenerationInput) :=
  [(0, .hostEvent (.outbound (.changeStreamingParams turned))), (1, .clientReceives),
    (2, .hostReceives)]

/-- The change of mode is given up although it has been acknowledged. -/
theorem overtaken_is_given_up :
    ∃ g', small.reactions overtaken = .ok ([], g') ∧
      ∃ last, g'.react 1000000000 .ackTimer = .ok (some (.renegotiate turned false), last) := by
  have unproposed (next : DisplayMode) :
      .proposed next ∉ [Milestone.received turned, .acknowledged turned] := by simp
  have awaits : small.Awaits overtaken turned 0
      [.proposed turned, .received turned, .acknowledged turned] :=
    ⟨[], _, _, _, _, rfl, rfl, rfl, .proposal, unproposed, rfl⟩
  exact ⟨_, rfl, (hard_restart_iff rfl rfl turned 1000000000 .ackTimer).1.mpr
    ⟨rfl, 0, _, awaits, by decide⟩⟩

/-- A change of mode may be given up after its acknowledgement arrived. -/
theorem not_every_hard_restart_unacknowledged :
    ¬ ∀ (g g' last : Generation) past mode now, g.renegotiation = none →
      g.reactions past = .ok ([], g') →
      g'.react now .ackTimer = .ok (some (.renegotiate mode false), last) →
      .acknowledged mode ∉ g.milestones past := by
  intro unacknowledged
  have unheard := unacknowledged small _ _ overtaken turned 1000000000 rfl rfl rfl
  exact unheard (by decide)

end Generation

end Screencast
