import Screencast.Proofs.Session.Reactions

/-! # Agreement on a change of mode

A host proposes one mode and then ends because of it. In whatever order the owner of a generation
learns what happens at both ends, a generation ends with an acknowledged mode at the later of two
milestones, the arrival of an acknowledgement for the proposed mode and the host's end, and with the
proposed mode; before that the proposal went to the client, whose pipeline was stopped for it
(`Screencast.Generation.mode_change_is_agreed`).
-/

namespace Screencast

open Wire

/-- How far a host is with a change of mode. -/
inductive HostPhase
  | streaming | proposed | ended

/-- The phase after what may be a milestone. -/
def HostPhase.after (phase : HostPhase) : Option Milestone → HostPhase
  | some (.proposed _) => .proposed
  | some .hostEnded => .ended
  | _ => phase

/-- What a host tells from some phase on, at least its beginning: it proposes `p`, and then ends. -/
inductive HostScript (p : DisplayMode) : HostPhase → List HostEvent → Prop
  | nil {phase : HostPhase} : HostScript p phase []
  | message {phase : HostPhase} {m : Message} {events : List HostEvent}
      (other : ∀ mode, m ≠ .changeStreamingParams mode) (later : HostScript p phase events) :
      HostScript p phase (.outbound m :: events)
  | propose {events : List HostEvent} (later : HostScript p .proposed events) :
      HostScript p .streaming (.outbound (.changeStreamingParams p) :: events)
  | terminate {events : List HostEvent} (width height refreshRate : UInt32)
      (later : HostScript p .ended events) :
      HostScript p .proposed
        (.terminated (.resolutionChanged width height refreshRate) :: events)

/-- What the host told among some inputs. -/
def hostEvents (inputs : List (Nat × GenerationInput)) : List HostEvent :=
  inputs.filterMap fun
    | (_, .hostEvent e) => some e
    | _ => none

namespace Generation

/-- A new generation whose host proposes `p` and ends. The client's end acknowledges what it is
proposed and has no other way to acknowledge `p`; other modes may be acknowledged by anybody at any
time. -/
structure ModeChange (g : Generation) (p : DisplayMode) (inputs : List (Nat × GenerationInput)) :
    Prop where
  toClient : g.toClient = []
  toHost : g.toHost = []
  renegotiation : g.renegotiation = none
  host : HostScript p .streaming (hostEvents inputs)
  client : ∀ now, (now, .clientEvent (.outbound (.changeStreamingParamsAck p))) ∉ inputs

/-- What a generation that goes on remembers of the milestones passed. -/
def Pending (p : DisplayMode) (log : List Milestone) (r : Option Renegotiation) : HostPhase → Prop
  | .streaming => r = none ∧ .proposed p ∉ log ∧ .hostEnded ∉ log
  | .proposed => ∃ deadline acked, r = some ⟨p, deadline, acked, false⟩ ∧
    .proposed p ∈ log ∧ .hostEnded ∉ log ∧ (acked = true ↔ .acknowledged p ∈ log)
  | .ended => ∃ deadline, r = some ⟨p, deadline, false, true⟩ ∧
    [.proposed p, .hostEnded].Sublist log ∧ .acknowledged p ∉ log

/-- A generation that goes on, after the milestones of `log`. -/
structure Agreeing (g : Generation) (p : DisplayMode) (phase : HostPhase) (log : List Milestone) :
    Prop where
  pending : Pending p log g.renegotiation phase
  proposals : ∀ bytes ∈ g.toClient, ∀ mode,
    Message.ofBytes bytes = .ok (.changeStreamingParams mode) → mode = p ∧ .proposed p ∈ log
  acknowledgements : ∀ bytes ∈ g.toHost,
    Message.ofBytes bytes = .ok (.changeStreamingParamsAck p) →
      [.proposed p, .received p].Sublist log
  ordered : .acknowledged p ∈ log → [.proposed p, .received p, .acknowledged p].Sublist log

variable {g g' : Generation} {p : DisplayMode} {phase : HostPhase} {log : List Milestone}
  {now : Nat} {i : GenerationInput} {later : List (Nat × GenerationInput)}
  {ended : Option GenerationEnd}

private theorem script_next (g : Generation)
    (script : HostScript p phase (hostEvents ((now, i) :: later))) :
    HostScript p (phase.after (g.milestone? i)) (hostEvents later) := by
  cases i with
  | hostEvent e =>
      cases script with
      | @message _ m _ other rest =>
          cases m with
          | changeStreamingParams mode => exact absurd rfl (other mode)
          | _ => exact rest
      | propose rest => exact rest
      | terminate width height refreshRate rest => exact rest
  | clientReceives =>
      unfold milestone?
      cases (arrival? g.toClient).bind Message.proposal? with
      | none | some mode => exact script
  | hostReceives =>
      unfold milestone?
      cases (arrival? g.toHost).bind Message.acceptance? with
      | none | some mode => exact script
  | _ => exact script

private theorem script_proposed {mode : DisplayMode}
    (script : HostScript p phase (hostEvents ((now, i) :: later)))
    (is : g.milestone? i = some (.proposed mode)) : phase = .streaming ∧ mode = p := by
  obtain rfl := milestone?_eq_proposed.mp is
  cases script with
  | message other => exact absurd rfl (other mode)
  | propose => exact ⟨rfl, rfl⟩

private theorem script_hostEnded (script : HostScript p phase (hostEvents ((now, i) :: later)))
    (is : g.milestone? i = some .hostEnded) : phase = .proposed := by
  obtain ⟨width, height, refreshRate, rfl⟩ := milestone?_eq_hostEnded.mp is
  cases script with
  | terminate => rfl

private theorem script_ended (script : HostScript p .ended (hostEvents ((now, i) :: later))) :
    HostScript p .ended (hostEvents later) := by
  cases i with
  | hostEvent e =>
      cases script with
      | message other rest => exact rest
  | _ => exact script

namespace Pending

variable {r : Option Renegotiation} {m : Milestone}

/-- An acknowledgement of another mode leaves what is pending alone. -/
theorem unmoved (pending : Pending p log r phase) {q : DisplayMode} (other : q ≠ p) :
    r.map (fun r => (r.onAck q).2) = r := by
  cases phase with
  | streaming =>
      obtain ⟨rfl, -⟩ := pending
      rfl
  | proposed =>
      obtain ⟨deadline, acked, rfl, -⟩ := pending
      simp [Renegotiation.onAck, other]
  | ended =>
      obtain ⟨deadline, rfl, -⟩ := pending
      simp [Renegotiation.onAck, other]

/-- A milestone that is none of the three awaited leaves what is pending alone. -/
theorem append (pending : Pending p log r phase) (unproposed : m ≠ .proposed p)
    (lasting : m ≠ .hostEnded) (unacknowledged : m ≠ .acknowledged p) :
    Pending p (log ++ [m]) r phase := by
  have unlisted {k : Milestone} (ne : m ≠ k) : k ∈ log ++ [m] ↔ k ∈ log := by
    simp [ne.symm]
  cases phase with
  | streaming | proposed =>
      simpa only [Pending, unlisted unproposed, unlisted lasting, unlisted unacknowledged]
        using pending
  | ended =>
      obtain ⟨deadline, same, hostOver, unheard⟩ := pending
      exact ⟨deadline, same, hostOver.trans (List.sublist_append_left ..),
        mt (unlisted unacknowledged).mp unheard⟩

/-- A change of mode that waits is not complete. -/
theorem takeCompleted_eq (pending : Pending p log g.renegotiation phase) :
    g.takeCompleted = (none, g) := by
  unfold takeCompleted
  cases phase with
  | streaming => rw [pending.1]
  | proposed =>
      obtain ⟨deadline, acked, waits, -⟩ := pending
      simp [waits, Renegotiation.isComplete]
  | ended =>
      obtain ⟨deadline, waits, -⟩ := pending
      simp [waits, Renegotiation.isComplete]

end Pending

namespace Agreeing

/-- What leaves the renegotiation alone, and says nothing about another mode, keeps both ends
agreeing. -/
theorem keeps {forClient forHost : List Message} (agreeing : g.Agreeing p phase log)
    (keeps : g.Keeps g' forClient forHost)
    (proposals : ∀ mode, .changeStreamingParams mode ∈ forClient → mode = p ∧ .proposed p ∈ log)
    (acknowledgements : .changeStreamingParamsAck p ∈ forHost →
      [.proposed p, .received p].Sublist log) : g'.Agreeing p phase log where
  pending := by
    rw [keeps.renegotiation]
    exact agreeing.pending
  proposals bytes member mode read := by
    rcases List.mem_append.mp (keeps.toClient member) with old | new
    · exact agreeing.proposals bytes old mode read
    · obtain ⟨m, said, rfl⟩ := List.mem_map.mp new
      obtain rfl := Message.eq_of_ofBytes_toBytes read (.inl rfl)
      exact proposals mode said
  acknowledgements bytes member read := by
    rcases List.mem_append.mp (keeps.toHost member) with old | new
    · exact agreeing.acknowledgements bytes old read
    · obtain ⟨m, said, rfl⟩ := List.mem_map.mp new
      obtain rfl := Message.eq_of_ofBytes_toBytes read (.inr rfl)
      exact acknowledgements said
  ordered := agreeing.ordered

/-- One more milestone is passed, and the lines get no longer by it. -/
theorem next {phase' : HostPhase} {m : Milestone} (agreeing : g.Agreeing p phase log)
    (toClient : g'.toClient ⊆ g.toClient) (toHost : g'.toHost ⊆ g.toHost)
    (pending : Pending p (log ++ [m]) g'.renegotiation phase')
    (behind : m = .acknowledged p → [.proposed p, .received p].Sublist log) :
    g'.Agreeing p phase' (log ++ [m]) where
  pending := pending
  proposals bytes member mode read :=
    (agreeing.proposals bytes (toClient member) mode read).imp_right (List.mem_append_left _)
  acknowledgements bytes member read :=
    (agreeing.acknowledgements bytes (toHost member) read).trans (List.sublist_append_left ..)
  ordered member := by
    rcases List.mem_append.mp member with old | new
    · exact (agreeing.ordered old).trans (List.sublist_append_left ..)
    · obtain rfl := List.mem_singleton.mp new
      exact (behind rfl).append (List.Sublist.refl [Milestone.acknowledged p])

private theorem aside (agreeing : g.Agreeing p phase log) (elsewhere : g.milestone? i = none)
    (foreign : i ≠ .clientEvent (.outbound (.changeStreamingParamsAck p)))
    (reacted : g.react now i = .ok (ended, g')) :
    g'.Agreeing p phase log ∧ (∀ next acked, ended ≠ some (.renegotiate next acked)) ∨
      ∃ next, ended = some (.renegotiate next false) := by
  rcases react_elsewhere elsewhere reacted with ⟨keeps, goesOn⟩ | ⟨r, -, -, rfl⟩
  · refine .inl ⟨agreeing.keeps keeps ?_ ?_, goesOn⟩
    · intro mode said
      have told := (@milestone?_eq_proposed g i mode).mpr (GenerationInput.mem_forClient.mp said)
      exact nomatch elsewhere.symm.trans told
    · intro said
      rcases GenerationInput.mem_forHost said with is | same
      · exact absurd is foreign
      · cases same
  · exact .inr ⟨r.proposed, rfl⟩

/-- The proposal is the first of the steps. -/
theorem propose (agreeing : g.Agreeing p .streaming log) (now : Nat)
    (is : g.milestone? i = some (.proposed p)) :
    ∃ g', g.react now i = .ok (none, g') ∧ g'.Agreeing p .proposed (log ++ [.proposed p]) := by
  obtain rfl := milestone?_eq_proposed.mp is
  obtain ⟨-, unproposed, lasting⟩ := agreeing.pending
  have unacknowledged : .acknowledged p ∉ log := fun member =>
    unproposed ((agreeing.ordered member).subset (List.mem_cons_self ..))
  have proposed : (g.propose now p).Agreeing p .proposed (log ++ [.proposed p]) := by
    refine agreeing.next (List.Subset.refl _) (List.Subset.refl _) ⟨_, _, rfl, ?_⟩ nofun
    simp [lasting, unacknowledged]
  refine ⟨_, rfl, proposed.keeps (keeps_sendToClient ..) ?_ nofun⟩
  intro mode said
  cases List.mem_singleton.mp said
  exact ⟨rfl, by simp⟩

/-- What the client receives is the mode proposed, and it acknowledges it. -/
theorem receive {q : DisplayMode} (agreeing : g.Agreeing p phase log) (now : Nat)
    (is : g.milestone? i = some (.received q)) :
    q = p ∧ ∃ g', g.react now i = .ok (none, g') ∧ g'.Agreeing p phase (log ++ [.received p]) := by
  obtain ⟨bytes, rest, line, read⟩ := arrival?_eq_some.mp (milestone?_eq_received.mp is).2
  obtain ⟨rfl, proposed⟩ := agreeing.proposals bytes (by simp [line]) q read
  -- The acknowledgement goes out after the milestone, so the log is extended first.
  have received : Agreeing { g with toClient := g.toClient.tail, client := g.client.stop } q phase
      (log ++ [.received q]) :=
    agreeing.next (List.tail_sublist _).subset (List.Subset.refl _)
      (agreeing.pending.append nofun nofun nofun) nofun
  refine ⟨rfl, _, react_received is, received.keeps (keeps_sendToHost ..) nofun ?_⟩
  intro _
  exact (List.singleton_sublist.mpr proposed).append (List.Sublist.refl [Milestone.received q])

private theorem acknowledge (agreeing : g.Agreeing p phase log) (now : Nat)
    (is : g.milestone? i = some (.acknowledged p)) :
    [.proposed p, .received p].Sublist log ∧
    ((phase = .proposed ∧ ∃ g', g.react now i = .ok (none, g') ∧
      g'.Agreeing p .proposed (log ++ [.acknowledged p])) ∨
    phase = .ended ∧ ∃ g', g.react now i = .ok (some (.renegotiate p true), g') ∧
      g'.renegotiation = none) := by
  obtain ⟨bytes, rest, line, read⟩ := arrival?_eq_some.mp (milestone?_eq_acknowledged.mp is).2
  have behind := agreeing.acknowledgements bytes (by simp [line]) read
  refine ⟨behind, ?_⟩
  rw [react_acknowledged is]
  cases phase with
  | streaming =>
      -- Nobody acknowledges what has not been proposed.
      exact absurd (behind.subset (List.mem_cons_self ..)) agreeing.pending.2.1
  | proposed =>
      obtain ⟨deadline, acked, waits, asked, lasting, -⟩ := agreeing.pending
      have noted : Agreeing ({ g with toHost := g.toHost.tail }.onAck p) p .proposed
          (log ++ [.acknowledged p]) := by
        refine agreeing.next (List.Subset.refl _) (List.tail_sublist _).subset
          ⟨deadline, true, ?_, ?_⟩ fun _ => behind
        · simp [onAck, waits, Renegotiation.onAck]
        · simp [asked, lasting]
      rw [noted.pending.takeCompleted_eq]
      exact .inl ⟨rfl, _, rfl, noted⟩
  | ended =>
      obtain ⟨deadline, waits, -⟩ := agreeing.pending
      have noted : ({ g with toHost := g.toHost.tail }.onAck p).renegotiation =
          some ⟨p, deadline, true, true⟩ := by
        simp [onAck, waits, Renegotiation.onAck]
      rw [takeCompleted_of_complete noted rfl]
      exact .inr ⟨rfl, _, rfl, rfl⟩

private theorem acknowledge_other {q : DisplayMode} (agreeing : g.Agreeing p phase log) (now : Nat)
    (other : q ≠ p) (is : g.milestone? i = some (.acknowledged q)) :
    g.react now i = .ok (none, { g with toHost := g.toHost.tail }) ∧
      Agreeing { g with toHost := g.toHost.tail } p phase (log ++ [.acknowledged q]) := by
  have moved : Agreeing { g with toHost := g.toHost.tail } p phase (log ++ [.acknowledged q]) :=
    agreeing.next (List.Subset.refl _) (List.tail_sublist _).subset
      (agreeing.pending.append nofun nofun (by simpa using other)) (by simp [other])
  rw [react_acknowledged is, onAck, agreeing.pending.unmoved other, moved.pending.takeCompleted_eq]
  exact ⟨rfl, moved⟩

private theorem terminate (agreeing : g.Agreeing p .proposed log) (now : Nat)
    (is : g.milestone? i = some .hostEnded) :
    (.acknowledged p ∉ log ∧ ∃ g', g.react now i = .ok (none, g') ∧
      g'.Agreeing p .ended (log ++ [.hostEnded])) ∨
    .acknowledged p ∈ log ∧ ∃ g', g.react now i = .ok (some (.renegotiate p true), g') ∧
      g'.renegotiation = none := by
  obtain ⟨width, height, refreshRate, rfl⟩ := milestone?_eq_hostEnded.mp is
  obtain ⟨deadline, acked, waits, asked, -, told⟩ := agreeing.pending
  have noted : (g.hostEnded now ⟨width, height, refreshRate, .deg0⟩).renegotiation =
      some ⟨p, deadline, acked, true⟩ := by
    simp [hostEnded, waits, Renegotiation.onHostTerminated]
  rw [react, onHostEvent]
  cases acked with
  | true =>
      rw [takeCompleted_of_complete noted rfl]
      exact .inr ⟨told.mp rfl, _, rfl, rfl⟩
  | false =>
      have unacknowledged : .acknowledged p ∉ log := mt told.mpr Bool.false_ne_true
      have hostOver : (g.hostEnded now ⟨width, height, refreshRate, .deg0⟩).Agreeing p .ended
          (log ++ [.hostEnded]) := by
        refine agreeing.next (List.Subset.refl _) (List.Subset.refl _)
          ⟨deadline, noted, ?_, by simp [unacknowledged]⟩ (by simp)
        exact (List.singleton_sublist.mpr asked).append (List.Sublist.refl [Milestone.hostEnded])
      rw [hostOver.pending.takeCompleted_eq]
      exact .inl ⟨unacknowledged, _, rfl, hostOver⟩

/-- What a reaction leads to: a generation that agrees with one more milestone, the completion of
the change of mode, or some other end. -/
theorem react_cases (agreeing : g.Agreeing p phase log)
    (script : HostScript p phase (hostEvents ((now, i) :: later)))
    (foreign : i ≠ .clientEvent (.outbound (.changeStreamingParamsAck p)))
    (reacted : g.react now i = .ok (ended, g')) :
    g'.Agreeing p (phase.after (g.milestone? i)) (log ++ (g.milestone? i).toList) ∧
      (∀ next acked, ended ≠ some (.renegotiate next acked)) ∨
    (∃ next, ended = some (.renegotiate next false)) ∨
    ended = some (.renegotiate p true) ∧ g'.renegotiation = none ∧
      phase.after (g.milestone? i) = .ended ∧
      (g.milestone? i = some (.acknowledged p) ∨ g.milestone? i = some .hostEnded) ∧
      [.proposed p, .received p, .acknowledged p].Sublist (log ++ (g.milestone? i).toList) ∧
      [.proposed p, .hostEnded].Sublist (log ++ (g.milestone? i).toList) := by
  cases is : g.milestone? i with
  | none =>
      rw [Option.toList_none, List.append_nil]
      exact (agreeing.aside is foreign reacted).imp_right .inl
  | some m =>
      cases m with
      | proposed q =>
          obtain ⟨rfl, rfl⟩ := script_proposed script is
          obtain ⟨g₁, answer, agreed⟩ := agreeing.propose now is
          cases answer.symm.trans reacted
          exact .inl ⟨agreed, fun _ _ => nofun⟩
      | received q =>
          obtain ⟨rfl, g₁, answer, agreed⟩ := agreeing.receive now is
          cases answer.symm.trans reacted
          exact .inl ⟨agreed, fun _ _ => nofun⟩
      | acknowledged q =>
          by_cases same : q = p
          · obtain rfl := same
            -- If the host has ended already, the acknowledgement is the later of the two.
            obtain ⟨behind, ⟨rfl, g₁, answer, agreed⟩ | ⟨rfl, g₁, answer, idle⟩⟩ :=
              agreeing.acknowledge now is
            · cases answer.symm.trans reacted
              exact .inl ⟨agreed, fun _ _ => nofun⟩
            · cases answer.symm.trans reacted
              obtain ⟨deadline, -, hostOver, -⟩ := agreeing.pending
              refine .inr (.inr ⟨rfl, idle, rfl, .inl rfl, ?_, ?_⟩)
              · exact behind.append (List.Sublist.refl [Milestone.acknowledged _])
              · exact hostOver.trans (List.sublist_append_left ..)
          · obtain ⟨answer, agreed⟩ := agreeing.acknowledge_other now same is
            cases answer.symm.trans reacted
            exact .inl ⟨agreed, fun _ _ => nofun⟩
      | hostEnded =>
          obtain rfl := script_hostEnded script is
          -- If the acknowledgement is there already, the end is the later of the two.
          rcases agreeing.terminate now is with ⟨-, g₁, answer, agreed⟩ | ⟨told, g₁, answer, idle⟩
          · cases answer.symm.trans reacted
            exact .inl ⟨agreed, fun _ _ => nofun⟩
          · cases answer.symm.trans reacted
            obtain ⟨deadline, acked, -, asked, -⟩ := agreeing.pending
            refine .inr (.inr ⟨rfl, idle, rfl, .inr rfl, ?_, ?_⟩)
            · exact (agreeing.ordered told).trans (List.sublist_append_left ..)
            · exact (List.singleton_sublist.mpr asked).append
                (List.Sublist.refl [Milestone.hostEnded])

/-- A run with one change of mode keeps the ends agreeing up to its last reaction. -/
theorem run {past : List (Nat × GenerationInput)} (agreeing : g.Agreeing p phase log)
    (script : HostScript p phase (hostEvents (past ++ later)))
    (foreign : ∀ now, (now, .clientEvent (.outbound (.changeStreamingParamsAck p))) ∉ past)
    (reacted : g.reactions past = .ok ([], g')) :
    ∃ phase', HostScript p phase' (hostEvents later) ∧
      g'.Agreeing p phase' (log ++ g.milestones past) := by
  induction past generalizing g phase log with
  | nil =>
      cases reacted
      rw [milestones, List.append_nil]
      exact ⟨phase, script, agreeing⟩
  | cons first past ih =>
      obtain ⟨now, i⟩ := first
      obtain ⟨g₁, answer, others⟩ := reactions_cons_of_goesOn reacted
      have foreignFirst : i ≠ .clientEvent (.outbound (.changeStreamingParamsAck p)) :=
        fun is => foreign now (by simp [is])
      obtain ⟨agreed, -⟩ | ⟨next, ends⟩ | ⟨ends, -⟩ :=
        agreeing.react_cases script foreignFirst answer
      · rw [milestones, answer, ← List.append_assoc]
        exact ih agreed (script_next g script)
          (fun now member => foreign now (List.mem_cons_of_mem _ member)) others
      · cases ends
      · cases ends

private theorem of_completion {mode : DisplayMode} (agreeing : g.Agreeing p phase log)
    (script : HostScript p phase (hostEvents ((now, i) :: later)))
    (foreign : i ≠ .clientEvent (.outbound (.changeStreamingParamsAck p)))
    (reacted : g.react now i = .ok (some (.renegotiate mode true), g')) :
    (mode = p ∧
      (g.milestone? i = some (.acknowledged p) ∨ g.milestone? i = some .hostEnded) ∧
      [.proposed p, .received p, .acknowledged p].Sublist (log ++ (g.milestone? i).toList) ∧
      [.proposed p, .hostEnded].Sublist (log ++ (g.milestone? i).toList)) ∧
    g'.renegotiation = none ∧ HostScript p .ended (hostEvents later) := by
  have scripted := script_next g script
  obtain ⟨-, goesOn⟩ | ⟨next, ends⟩ | ⟨ends, idle, hostOver, passed⟩ :=
    agreeing.react_cases script foreign reacted
  · exact absurd rfl (goesOn mode true)
  · cases ends
  · cases ends
    rw [hostOver] at scripted
    exact ⟨⟨rfl, passed⟩, idle, scripted⟩

private theorem completes (agreeing : g.Agreeing p phase log) (now : Nat)
    (script : HostScript p phase (hostEvents ((now, i) :: later)))
    (last : g.milestone? i = some (.acknowledged p) ∨ g.milestone? i = some .hostEnded)
    (accepted : .acknowledged p ∈ log ++ (g.milestone? i).toList)
    (hostOver : .hostEnded ∈ log ++ (g.milestone? i).toList) :
    ∃ g', g.react now i = .ok (some (.renegotiate p true), g') := by
  rcases last with is | is
  · rcases (agreeing.acknowledge now is).2 with ⟨rfl, -⟩ | ⟨-, g₁, answer, -⟩
    · obtain ⟨deadline, acked, -, -, lasting, -⟩ := agreeing.pending
      simp [is, lasting] at hostOver
    · exact ⟨g₁, answer⟩
  · obtain rfl := script_hostEnded script is
    rcases agreeing.terminate now is with ⟨unacknowledged, -⟩ | ⟨-, g₁, answer, -⟩
    · simp [is, unacknowledged] at accepted
    · exact ⟨g₁, answer⟩

end Agreeing

private theorem agreeing_new {inputs : List (Nat × GenerationInput)} (run : g.ModeChange p inputs) :
    g.Agreeing p .streaming [] where
  pending := ⟨run.renegotiation, nofun, nofun⟩
  proposals := by
    rw [run.toClient]
    exact nofun
  acknowledgements := by
    rw [run.toHost]
    exact nofun
  ordered := nofun

/-- However far a mode change has come, both ends agree on it. -/
theorem ModeChange.agreeing {past : List (Nat × GenerationInput)}
    (run : g.ModeChange p (past ++ later)) (goesOn : g.reactions past = .ok ([], g')) :
    ∃ phase, HostScript p phase (hostEvents later) ∧ g'.Agreeing p phase (g.milestones past) :=
  (agreeing_new run).run run.host
    (fun now member => run.client now (List.mem_append_left _ member)) goesOn

/-- Without a change of mode under way and a host that begins one, none is completed or given up. -/
theorem react_of_idle (idle : g.renegotiation = none)
    (script : HostScript p .ended (hostEvents ((now, i) :: later)))
    (reacted : g.react now i = .ok (ended, g')) :
    g'.renegotiation = none ∧ ∀ next acked, ended ≠ some (.renegotiate next acked) := by
  cases is : g.milestone? i with
  | none =>
      rcases react_elsewhere is reacted with ⟨keeps, goesOn⟩ | ⟨r, pending, -⟩
      · exact ⟨keeps.renegotiation.trans idle, goesOn⟩
      · cases idle.symm.trans pending
  | some m =>
      cases m with
      | proposed q => cases (script_proposed script is).1
      | received q =>
          cases (react_received is).symm.trans reacted
          exact ⟨idle, fun _ _ => nofun⟩
      | acknowledged q =>
          cases (react_acknowledged_of_idle idle is).symm.trans reacted
          exact ⟨idle, fun _ _ => nofun⟩
      | hostEnded => cases script_hostEnded script is

private theorem reactions_of_idle {inputs : List (Nat × GenerationInput)}
    {ends : List GenerationEnd}
    (idle : g.renegotiation = none) (script : HostScript p .ended (hostEvents inputs))
    (reacted : g.reactions inputs = .ok (ends, g')) (next : DisplayMode) (acked : Bool) :
    .renegotiate next acked ∉ ends := by
  induction inputs generalizing g ends with
  | nil =>
      cases reacted
      exact List.not_mem_nil
  | cons first inputs ih =>
      obtain ⟨now, i⟩ := first
      obtain ⟨ended, g₁, more, answer, others, rfl⟩ := reactions_cons reacted
      obtain ⟨idle', goesOn⟩ := react_of_idle idle script answer
      intro member
      rcases List.mem_append.mp member with first | rest
      · exact goesOn next acked (Option.mem_toList.mp first)
      · exact ih idle' (script_ended script) others rest

/-- **Both ends agree on a change of mode.** Of a generation whose host proposes `p` and ends, and
that has gone on through the inputs of `past`, it is told which next input ends it with an
acknowledged mode: the later of the arrival of an acknowledgement of `p` and of the host's end, the
former after the proposal and its arrival at the client, the latter after the proposal. The mode is
then `p`. No acknowledgement of `p` is under way before the client received the proposal and was
stopped for it, another acknowledgement is only taken off its line, and whatever were to come
afterwards would not complete a change of mode again. -/
theorem mode_change_is_agreed {past : List (Nat × GenerationInput)}
    (run : g.ModeChange p (past ++ (now, i) :: later))
    (goesOn : g.reactions past = .ok ([], g')) :
    (∀ mode, (∃ last, g'.react now i = .ok (some (.renegotiate mode true), last)) ↔
      mode = p ∧
      (g'.milestone? i = some (.acknowledged p) ∨ g'.milestone? i = some .hostEnded) ∧
      [.proposed p, .received p, .acknowledged p].Sublist (g.milestones (past ++ [(now, i)])) ∧
      [.proposed p, .hostEnded].Sublist (g.milestones (past ++ [(now, i)]))) ∧
    (∀ bytes ∈ g'.toHost, Message.ofBytes bytes = .ok (.changeStreamingParamsAck p) →
      [.proposed p, .received p].Sublist (g.milestones past)) ∧
    (∀ q, g'.milestone? i = some (.received q) → q = p ∧ g'.client.stop.state = .stopped ∧
      g'.react now i = .ok (none,
        { g' with toClient := g'.toClient.tail, client := g'.client.stop }.sendToHost now
          (.changeStreamingParamsAck p))) ∧
    (∀ q, q ≠ p → g'.milestone? i = some (.acknowledged q) →
      g'.react now i = .ok (none, { g' with toHost := g'.toHost.tail })) ∧
    (∀ mode last, g'.react now i = .ok (some (.renegotiate mode true), last) →
      ∀ ends after, last.reactions later = .ok (ends, after) →
        ∀ next acked, .renegotiate next acked ∉ ends) := by
  obtain ⟨phase, script, agreeing⟩ := run.agreeing goesOn
  have foreign : i ≠ .clientEvent (.outbound (.changeStreamingParamsAck p)) :=
    fun is => run.client now (by simp [is])
  rw [milestones_append goesOn, milestones_singleton]
  refine ⟨fun mode => ⟨?_, ?_⟩, agreeing.acknowledgements, ?_, ?_, ?_⟩
  · rintro ⟨last, reacted⟩
    exact (agreeing.of_completion script foreign reacted).1
  · rintro ⟨rfl, last, accepted, hostOver⟩
    exact agreeing.completes now script last (accepted.subset (by simp))
      (hostOver.subset (by simp))
  · intro q is
    obtain ⟨rfl, -⟩ := agreeing.receive now is
    exact ⟨rfl, rfl, react_received is⟩
  · intro q other is
    exact (agreeing.acknowledge_other now other is).1
  · intro mode last reacted ends after others
    obtain ⟨-, idle, scripted⟩ := agreeing.of_completion script foreign reacted
    exact reactions_of_idle idle scripted others

/-- A generation at its start, for a picture of 640 by 480. -/
def small : Generation :=
  { params := ⟨none, true, true, {}⟩
    ackTimeout := ⟨1000000000⟩
    client := .new 0 ⟨⟨640, 480, 60, .deg0⟩, default, false⟩
    nextInstance := 1
    link := .new default }

/-- A turned mode that the host proposes, and that is acknowledged after another one was. -/
def turned : DisplayMode := ⟨480, 640, 60, .deg90⟩

/-- A change of mode in which an acknowledgement of another mode comes first. -/
def turning : List (Nat × GenerationInput) :=
  [(0, .hostEvent (.outbound (.changeStreamingParams turned))),
    (1, .clientEvent (.outbound (.changeStreamingParamsAck ⟨480, 640, 60, .deg0⟩))),
    (2, .clientReceives), (3, .hostReceives), (4, .hostReceives)]

/-- The change of mode above is agreed with the client. -/
theorem turned_mode_is_agreed :
    ∃ g', small.reactions turning = .ok ([], g') ∧
      ∃ last, g'.react 5 (.hostEvent (.terminated (.resolutionChanged 480 640 60))) =
        .ok (some (.renegotiate turned true), last) := by
  have run : small.ModeChange turned (turning ++
      [(5, .hostEvent (.terminated (.resolutionChanged 480 640 60)))]) :=
    ⟨rfl, rfl, rfl, .propose (.terminate 480 640 60 .nil), by simp [turning, turned]⟩
  have passed : small.milestones (turning ++
      [(5, .hostEvent (.terminated (.resolutionChanged 480 640 60)))]) =
      [.proposed turned, .received turned, .acknowledged ⟨480, 640, 60, .deg0⟩,
        .acknowledged turned, .hostEnded] := rfl
  refine ⟨_, rfl, ((mode_change_is_agreed run rfl).1 turned).mpr ⟨rfl, .inr rfl, ?_, ?_⟩⟩
  · rw [passed]
    decide
  · rw [passed]
    decide

end Generation

end Screencast
