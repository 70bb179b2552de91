import Screencast.Proofs.Wire.Message
import Screencast.Session.Generation

/-! # What a reaction does to a change of mode

A change of mode passes four milestones: the host proposes a mode, the proposal arrives at the
client's end, an acknowledgement arrives at the host's end, and the host's pipeline ends. The
reaction to each is told by an equation. A reaction to anything else leaves the change alone, and
puts nothing on the lines but what the host or the client said and requests for a keyframe
(`Screencast.Generation.react_elsewhere`).
-/

namespace Screencast

open Wire

namespace Wire.Message

/-- A message that says nothing but a mode is read from no message but itself. -/
theorem eq_of_ofBytes_toBytes {m m' : Message} {mode : DisplayMode}
    (read : ofBytes m.toBytes = .ok m')
    (modal : m' = .changeStreamingParams mode ∨ m' = .changeStreamingParamsAck mode) : m = m' := by
  obtain ⟨-, rest, written⟩ := (ofBytes_eq_ok_iff _ m').mp read
  have first : m.toBytes.head? = m'.toBytes.head? := by
    rw [written]
    rcases modal with rfl | rfl <;> rfl
  -- What may be too long to be read again begins with the number of another kind.
  have writable : m.Writable := by
    cases m with
    | encodedFrame frame | cursorInfo info => rcases modal with rfl | rfl <;> cases first
    | _ => trivial
  have itself := (ofBytes_eq_ok_iff _ m).mpr ⟨writable, [], (List.append_nil _).symm⟩
  exact Except.ok.inj (itself.symm.trans read)

/-- The mode the message proposes. -/
def proposal? : Message → Option DisplayMode
  | changeStreamingParams mode => some mode
  | _ => none

/-- The mode the message acknowledges. -/
def acceptance? : Message → Option DisplayMode
  | changeStreamingParamsAck mode => some mode
  | _ => none

variable {m : Message} {mode : DisplayMode}

private theorem proposal?_eq_some : m.proposal? = some mode ↔ m = .changeStreamingParams mode := by
  cases m <;> simp [proposal?]

private theorem acceptance?_eq_some :
    m.acceptance? = some mode ↔ m = .changeStreamingParamsAck mode := by
  cases m <;> simp [acceptance?]

end Wire.Message

/-- What decides a change of mode. -/
inductive Milestone
  /-- The host proposes a mode. -/
  | proposed (mode : DisplayMode)
  /-- A proposal arrives at the client's end. -/
  | received (mode : DisplayMode)
  /-- An acknowledgement arrives at the host's end. -/
  | acknowledged (mode : DisplayMode)
  /-- The host's pipeline has ended because of a new mode. -/
  | hostEnded
deriving DecidableEq

/-- The milestone in what a host reports. -/
def HostEvent.milestone? : HostEvent → Option Milestone
  | .outbound m => m.proposal?.map .proposed
  | .terminated (.resolutionChanged _ _ _) => some .hostEnded
  | .terminated _ => none

private theorem HostEvent.milestone?_eq_some {e : HostEvent} {m : Milestone} :
    e.milestone? = some m ↔
      (∃ mode, e = .outbound (.changeStreamingParams mode) ∧ .proposed mode = m) ∨
      ∃ width height refreshRate,
        e = .terminated (.resolutionChanged width height refreshRate) ∧ .hostEnded = m := by
  cases e with
  | outbound said => simp [milestone?, Option.map_eq_some_iff, Message.proposal?_eq_some]
  | terminated cause => cases cause <;> simp [milestone?]

/-- What an input says to the client's end. -/
def GenerationInput.forClient : GenerationInput → List Message
  | .hostEvent (.outbound m) => [m]
  | _ => []

/-- What an input says to the host's end, or may lead its owner to say. -/
def GenerationInput.forHost : GenerationInput → List Message
  | .clientEvent (.outbound m) => [m]
  | _ => [.requestKeyframe]

namespace GenerationInput

variable {i : GenerationInput} {m : Message}

/-- For the client there is only what the host says. -/
theorem mem_forClient : m ∈ i.forClient ↔ i = .hostEvent (.outbound m) := by
  cases i with
  | hostEvent e => cases e <;> simp [forClient, eq_comm]
  | _ => simp [forClient]

/-- For the host there is what the client says, and requests for keyframes. -/
theorem mem_forHost (said : m ∈ i.forHost) :
    i = .clientEvent (.outbound m) ∨ m = .requestKeyframe := by
  cases i with
  | clientEvent e =>
      cases e with
      | outbound own => exact .inl (by rw [List.mem_singleton.mp said])
      | _ => exact .inr (List.mem_singleton.mp said)
  | _ => exact .inr (List.mem_singleton.mp said)

end GenerationInput

namespace Generation

/-- The oldest message on a line. -/
def arrival? (line : List Bytes) : Option Message :=
  line.head?.bind fun bytes => (Message.ofBytes bytes).toOption

/-- The milestone that an input is for a change of mode. -/
def milestone? (g : Generation) : GenerationInput → Option Milestone
  | .hostEvent e => e.milestone?
  | .clientReceives => ((arrival? g.toClient).bind Message.proposal?).map .received
  | .hostReceives => ((arrival? g.toHost).bind Message.acceptance?).map .acknowledged
  | _ => none

variable {g g' : Generation} {now : Nat} {i : GenerationInput} {ended : Option GenerationEnd}
  {mode : DisplayMode}

/-- A message arrives when the first of the bytes in the line can be read as one. -/
theorem arrival?_eq_some {line : List Bytes} {m : Message} :
    arrival? line = some m ↔
      ∃ bytes rest, line = bytes :: rest ∧ Message.ofBytes bytes = .ok m := by
  cases line with
  | nil => simp [arrival?]
  | cons bytes rest =>
      change (Message.ofBytes bytes).toOption = some m ↔ _
      cases read : Message.ofBytes bytes with
      | ok m' => simp [Except.toOption, read]
      | error e => simp [Except.toOption, read]

/-- Only the host's event proposes a mode. -/
theorem milestone?_eq_proposed :
    g.milestone? i = some (.proposed mode) ↔
      i = .hostEvent (.outbound (.changeStreamingParams mode)) := by
  cases i with
  | hostEvent e => simp [milestone?, HostEvent.milestone?_eq_some]
  | _ => simp [milestone?, Option.bind_eq_some_iff]

/-- Only a message at the client's end is received. -/
theorem milestone?_eq_received :
    g.milestone? i = some (.received mode) ↔
      i = .clientReceives ∧ arrival? g.toClient = some (.changeStreamingParams mode) := by
  cases i with
  | hostEvent e => simp [milestone?, HostEvent.milestone?_eq_some]
  | clientReceives => simp [milestone?, Option.bind_eq_some_iff, Message.proposal?_eq_some]
  | _ => simp [milestone?, Option.bind_eq_some_iff]

/-- Only a message at the host's end is an acknowledgement. -/
theorem milestone?_eq_acknowledged :
    g.milestone? i = some (.acknowledged mode) ↔
      i = .hostReceives ∧ arrival? g.toHost = some (.changeStreamingParamsAck mode) := by
  cases i with
  | hostEvent e => simp [milestone?, HostEvent.milestone?_eq_some]
  | hostReceives => simp [milestone?, Option.bind_eq_some_iff, Message.acceptance?_eq_some]
  | _ => simp [milestone?, Option.bind_eq_some_iff]

/-- Only the end of the host's pipeline counts as such. -/
theorem milestone?_eq_hostEnded :
    g.milestone? i = some .hostEnded ↔
      ∃ width height refreshRate,
        i = .hostEvent (.terminated (.resolutionChanged width height refreshRate)) := by
  cases i with
  | hostEvent e => simp [milestone?, HostEvent.milestone?_eq_some]
  | _ => simp [milestone?, Option.bind_eq_some_iff]

/-- The client's pipeline is stopped, and only then the proposal is acknowledged. -/
theorem react_received (received : g.milestone? i = some (.received mode)) :
    g.react now i = .ok (none,
      { g with toClient := g.toClient.tail, client := g.client.stop }.sendToHost now
        (.changeStreamingParamsAck mode)) := by
  obtain ⟨rfl, arrives⟩ := milestone?_eq_received.mp received
  obtain ⟨bytes, rest, line, read⟩ := arrival?_eq_some.mp arrives
  simp only [react, line, deliverToClient, read]
  rfl

/-- The reaction to an acknowledgement: it is taken off the line and noted. -/
theorem react_acknowledged (acknowledged : g.milestone? i = some (.acknowledged mode)) :
    g.react now i = .ok ({ g with toHost := g.toHost.tail }.onAck mode).takeCompleted := by
  obtain ⟨rfl, arrives⟩ := milestone?_eq_acknowledged.mp acknowledged
  obtain ⟨bytes, rest, line, read⟩ := arrival?_eq_some.mp arrives
  simp only [react, line, deliverToHost, read]
  rfl

/-- A renegotiation that is complete ends the generation. -/
theorem takeCompleted_of_complete {r : Renegotiation} (pending : g.renegotiation = some r)
    (complete : r.isComplete = true) :
    g.takeCompleted = (some (.renegotiate r.proposed true), { g with renegotiation := none }) := by
  rw [takeCompleted, pending]
  exact if_pos complete

/-- Either a complete renegotiation is taken, or nothing happens. -/
theorem takeCompleted_cases (g : Generation) :
    (∃ r : Renegotiation, g.takeCompleted =
      (some (.renegotiate r.proposed true), { g with renegotiation := none })) ∨
    g.takeCompleted = (none, g) ∧ ∀ r, g.renegotiation = some r → r.isComplete = false := by
  cases pending : g.renegotiation with
  | none => exact .inr ⟨by rw [takeCompleted, pending], nofun⟩
  | some r =>
      cases complete : r.isComplete with
      | true => exact .inl ⟨r, takeCompleted_of_complete pending complete⟩
      | false =>
          refine .inr ⟨?_, fun _ same => Option.some.inj same ▸ complete⟩
          rw [takeCompleted, pending]
          exact if_neg (Bool.eq_false_iff.mp complete)

/-- Nothing waits for an acknowledgement that nobody has asked for. -/
theorem react_acknowledged_of_idle (idle : g.renegotiation = none)
    (acknowledged : g.milestone? i = some (.acknowledged mode)) :
    g.react now i = .ok (none, { g with toHost := g.toHost.tail }) := by
  cases g
  cases idle
  exact react_acknowledged acknowledged

/-- A change of mode stays as it is, and nothing new is on the lines but some messages. -/
structure Keeps (g g' : Generation) (forClient forHost : List Message) : Prop where
  renegotiation : g'.renegotiation = g.renegotiation
  toClient : g'.toClient ⊆ g.toClient ++ forClient.map Message.toBytes
  toHost : g'.toHost ⊆ g.toHost ++ forHost.map Message.toBytes

variable {forClient forHost : List Message} {bytes : Bytes} {rest : List Bytes}

private theorem keeps_self (g : Generation) : g.Keeps g forClient forHost :=
  ⟨rfl, List.subset_append_left .., List.subset_append_left ..⟩

/-- Sending to the client adds one message to its line and leaves all else alone. -/
theorem keeps_sendToClient (g : Generation) (now : Nat) (m : Message) :
    g.Keeps (g.sendToClient now m) [m] [] :=
  ⟨rfl, List.Subset.refl _, List.subset_append_left ..⟩

/-- Sending to the host adds one message to its line and leaves all else alone. -/
theorem keeps_sendToHost (g : Generation) (now : Nat) (m : Message) :
    g.Keeps (g.sendToHost now m) [] [m] :=
  ⟨rfl, List.subset_append_left .., List.Subset.refl _⟩

/-- Taking a message off the client's line leaves all else alone. -/
theorem Keeps.of_toClient (line : g.toClient = bytes :: rest)
    (keeps : { g with toClient := rest }.Keeps g' forClient forHost) :
    g.Keeps g' forClient forHost where
  renegotiation := keeps.renegotiation
  toClient := by
    rw [line]
    exact List.Subset.trans keeps.toClient (List.subset_cons_self ..)
  toHost := keeps.toHost

private theorem Keeps.of_toHost (line : g.toHost = bytes :: rest)
    (keeps : { g with toHost := rest }.Keeps g' forClient forHost) :
    g.Keeps g' forClient forHost where
  renegotiation := keeps.renegotiation
  toClient := keeps.toClient
  toHost := by
    rw [line]
    exact List.Subset.trans keeps.toHost (List.subset_cons_self ..)

/-- A submitted frame may lead to a request for a keyframe, and to nothing else. -/
theorem submit_keeps (g : Generation) (now : Nat) (f : EncodedFrame) :
    g.Keeps (g.submit now f) forClient [.requestKeyframe] := by
  unfold submit
  rcases g.client.submit ⟨f, UInt64.ofNat (now / 1000)⟩ with ⟨action, client⟩
  cases action with
  | nothing => exact ⟨rfl, List.subset_append_left .., List.subset_append_left ..⟩
  | requestKeyframe => exact ⟨rfl, List.subset_append_left .., List.Subset.refl _⟩

/-- A rebuilt client asks for a keyframe. -/
theorem rebuildClient_keeps (rebuilt : g.rebuildClient now = .ok g') :
    g.Keeps g' forClient [.requestKeyframe] := by
  unfold rebuildClient at rebuilt
  cases started : startClient g.params g.nextInstance with
  | error e =>
      rw [started] at rebuilt
      cases rebuilt
  | ok client =>
      rw [started] at rebuilt
      obtain rfl := Except.ok.inj rebuilt
      exact ⟨rfl, List.subset_append_left .., List.Subset.refl _⟩

/-- A message for the client that proposes no mode leaves the renegotiation alone. -/
theorem deliverToClient_keeps (delivered : g.deliverToClient now bytes = .ok (ended, g'))
    (other : ∀ mode, Message.ofBytes bytes ≠ .ok (.changeStreamingParams mode)) :
    ended = none ∧ g.Keeps g' forClient [.requestKeyframe] := by
  unfold deliverToClient at delivered
  cases read : Message.ofBytes bytes with
  | error e =>
      rw [read] at delivered
      cases delivered
  | ok m =>
      rw [read] at delivered
      cases m with
      | encodedFrame f =>
          cases delivered
          exact ⟨rfl, submit_keeps ..⟩
      | changeStreamingParams mode => exact absurd read (other mode)
      | _ =>
          cases delivered
          exact ⟨rfl, rfl, List.subset_append_left .., List.subset_append_left ..⟩

/-- A message for the host that acknowledges no mode leaves the renegotiation alone. -/
theorem deliverToHost_keeps (delivered : g.deliverToHost bytes = .ok (ended, g'))
    (other : ∀ mode, Message.ofBytes bytes ≠ .ok (.changeStreamingParamsAck mode)) :
    ended = none ∧ g.Keeps g' forClient forHost := by
  unfold deliverToHost at delivered
  cases read : Message.ofBytes bytes with
  | error e =>
      rw [read] at delivered
      cases delivered
  | ok m =>
      rw [read] at delivered
      cases m with
      | changeStreamingParamsAck mode => exact absurd read (other mode)
      | _ =>
          cases delivered
          exact ⟨rfl, rfl, List.subset_append_left .., List.subset_append_left ..⟩

/-- A client's event never completes a renegotiation. -/
theorem onClientEvent_keeps {e : ClientEvent}
    (reacted : g.onClientEvent now e = .ok (ended, g')) :
    g.Keeps g' forClient (GenerationInput.clientEvent e).forHost ∧
      ∀ next acked, ended ≠ some (.renegotiate next acked) := by
  have rebuilt {result : Except StreamError Generation} (is : result = g.rebuildClient now)
      (mapped : result.map (none, ·) = .ok (ended, g')) :
      g.Keeps g' forClient [.requestKeyframe] ∧
        ∀ next acked, ended ≠ some (.renegotiate next acked) := by
    cases result with
    | error e => cases mapped
    | ok g₁ =>
        cases mapped
        exact ⟨rebuildClient_keeps is.symm, fun _ _ => nofun⟩
  unfold onClientEvent at reacted
  cases e with
  | outbound m =>
      cases reacted
      exact ⟨⟨rfl, List.subset_append_left .., List.Subset.refl _⟩, fun _ _ => nofun⟩
  | resetRequested instanceId cause =>
      dsimp only at reacted
      split at reacted
      next => exact rebuilt rfl reacted
      next =>
        cases reacted
        exact ⟨keeps_self _, fun _ _ => nofun⟩
  | renderStopped instanceId cause =>
      dsimp only at reacted
      split at reacted
      next =>
        split at reacted
        next => exact rebuilt rfl reacted
        next =>
          cases reacted
          exact ⟨keeps_self _, fun _ _ => nofun⟩
      next =>
        cases reacted
        exact ⟨keeps_self _, fun _ _ => nofun⟩

/-- A reaction that is not to a milestone lets a change of mode wait on and may put messages on the
lines, or it is to the timer and gives the change up. -/
theorem react_elsewhere (elsewhere : g.milestone? i = none)
    (reacted : g.react now i = .ok (ended, g')) :
    (g.Keeps g' i.forClient i.forHost ∧ ∀ next acked, ended ≠ some (.renegotiate next acked)) ∨
      ∃ r, g.renegotiation = some r ∧ i = .ackTimer ∧
        ended = some (.renegotiate r.proposed false) := by
  -- Where nothing happens to the change of mode, only the timer can end it.
  cases i with
  | hostEvent e =>
      left
      cases e with
      | outbound m =>
          cases m with
          | changeStreamingParams mode => cases elsewhere
          | _ =>
              cases reacted
              exact ⟨⟨rfl, List.Subset.refl _, List.subset_append_left ..⟩, fun _ _ => nofun⟩
      | terminated cause =>
          cases cause with
          | resolutionChanged width height refreshRate => cases elsewhere
          | _ =>
              cases reacted
              exact ⟨keeps_self _, fun _ _ => nofun⟩
  | clientReceives =>
      left
      cases line : g.toClient with
      | nil =>
          rw [react, line] at reacted
          cases reacted
          exact ⟨keeps_self _, fun _ _ => nofun⟩
      | cons bytes rest =>
          rw [react, line] at reacted
          obtain ⟨rfl, keeps⟩ := deliverToClient_keeps reacted fun mode read =>
            nomatch elsewhere.symm.trans (milestone?_eq_received.mpr
              ⟨rfl, arrival?_eq_some.mpr ⟨bytes, rest, line, read⟩⟩)
          exact ⟨keeps.of_toClient line, fun _ _ => nofun⟩
  | hostReceives =>
      left
      cases line : g.toHost with
      | nil =>
          rw [react, line] at reacted
          cases reacted
          exact ⟨keeps_self _, fun _ _ => nofun⟩
      | cons bytes rest =>
          rw [react, line] at reacted
          obtain ⟨rfl, keeps⟩ := deliverToHost_keeps reacted fun mode read =>
            nomatch elsewhere.symm.trans (milestone?_eq_acknowledged.mpr
              ⟨rfl, arrival?_eq_some.mpr ⟨bytes, rest, line, read⟩⟩)
          exact ⟨keeps.of_toHost line, fun _ _ => nofun⟩
  | clientEvent e => exact .inl (onClientEvent_keeps reacted)
  | ackTimer =>
      cases pending : g.renegotiation with
      | none =>
          rw [react, ackTimedOut, pending] at reacted
          cases reacted
          exact .inl ⟨keeps_self _, fun _ _ => nofun⟩
      | some r =>
          rw [react, ackTimedOut, pending] at reacted
          dsimp only at reacted
          split at reacted
          next =>
            cases reacted
            exact .inr ⟨r, rfl, rfl, rfl⟩
          next =>
            cases reacted
            exact .inl ⟨keeps_self _, fun _ _ => nofun⟩
  | telemetry =>
      cases reacted
      exact .inl ⟨⟨rfl, List.subset_append_left .., List.subset_append_left ..⟩, fun _ _ => nofun⟩

/-- Reactions to inputs, each at its moment, and the ends they lead to. Whoever owns a generation
stops at the first end. -/
def reactions (g : Generation) :
    List (Nat × GenerationInput) → Except StreamError (List GenerationEnd × Generation)
  | [] => .ok ([], g)
  | (now, i) :: rest => do
    let (ended, g) ← g.react now i
    let (more, g) ← g.reactions rest
    return (ended.toList ++ more, g)

/-- The milestones along some reactions. -/
def milestones (g : Generation) : List (Nat × GenerationInput) → List Milestone
  | [] => []
  | (now, i) :: rest =>
    (g.milestone? i).toList ++
      match g.react now i with
      | .ok (_, g) => g.milestones rest
      | .error _ => []

/-- A run takes its first input and goes on with the rest. -/
theorem reactions_cons {later : List (Nat × GenerationInput)} {ends : List GenerationEnd}
    (reacted : g.reactions ((now, i) :: later) = .ok (ends, g')) :
    ∃ ended g₁ more, g.react now i = .ok (ended, g₁) ∧ g₁.reactions later = .ok (more, g') ∧
      ends = ended.toList ++ more := by
  rw [reactions] at reacted
  cases first : g.react now i with
  | error e =>
      rw [first] at reacted
      cases reacted
  | ok answer =>
      obtain ⟨ended, g₁⟩ := answer
      rw [first] at reacted
      change (g₁.reactions later >>= _) = _ at reacted
      cases others : g₁.reactions later with
      | error e =>
          rw [others] at reacted
          cases reacted
      | ok answers =>
          obtain ⟨more, g₂⟩ := answers
          rw [others] at reacted
          cases reacted
          exact ⟨ended, g₁, more, rfl, others, rfl⟩

/-- The ends of a run are that of its first reaction and those of the rest. -/
theorem reactions_eq_cons {g₁ : Generation} {later : List (Nat × GenerationInput)}
    {more : List GenerationEnd} (answer : g.react now i = .ok (ended, g₁))
    (others : g₁.reactions later = .ok (more, g')) :
    g.reactions ((now, i) :: later) = .ok (ended.toList ++ more, g') := by
  rw [reactions, answer]
  change (g₁.reactions later >>= _) = _
  rw [others]
  rfl

/-- A run without an end goes on at each input. -/
theorem reactions_cons_of_goesOn {later : List (Nat × GenerationInput)}
    (goesOn : g.reactions ((now, i) :: later) = .ok ([], g')) :
    ∃ g₁, g.react now i = .ok (none, g₁) ∧ g₁.reactions later = .ok ([], g') := by
  obtain ⟨ended, g₁, more, answer, others, noEnds⟩ := reactions_cons goesOn
  obtain ⟨unended, rfl⟩ := List.append_eq_nil_iff.mp noEnds.symm
  obtain rfl := Option.toList_eq_nil_iff.mp unended
  exact ⟨g₁, answer, others⟩

/-- What an owner reacts to at one moment is a run without an end, and perhaps one more input that
ends the generation. -/
theorem reactions_of_reactAll {inputs : List GenerationInput}
    (reacted : g.reactAll now inputs = .ok (ended, g')) :
    ∃ before g₀, g.reactions (before.map (now, ·)) = .ok ([], g₀) ∧
      (ended = none ∧ inputs = before ∧ g' = g₀ ∨
        ∃ i after, ended ≠ none ∧ inputs = before ++ i :: after ∧
          g₀.react now i = .ok (ended, g')) := by
  induction inputs generalizing g with
  | nil =>
      cases reacted
      exact ⟨[], _, rfl, .inl ⟨rfl, rfl, rfl⟩⟩
  | cons i inputs ih =>
      rw [reactAll] at reacted
      cases answer : g.react now i with
      | error e =>
          rw [answer] at reacted
          cases reacted
      | ok result =>
          obtain ⟨first, g₁⟩ := result
          rw [answer] at reacted
          cases first with
          | some e =>
              cases reacted
              exact ⟨[], g, rfl, .inr ⟨i, inputs, Option.some_ne_none e, rfl, answer⟩⟩
          | none =>
              obtain ⟨before, g₀, goesOn, rest⟩ := ih reacted
              refine ⟨i :: before, g₀, reactions_eq_cons answer goesOn, ?_⟩
              rcases rest with ⟨unended, rfl, last⟩ | ⟨j, after, ends, rfl, last⟩
              · exact .inl ⟨unended, rfl, last⟩
              · exact .inr ⟨j, after, ends, rfl, last⟩

/-- The milestones of a single input. -/
theorem milestones_singleton (g : Generation) (now : Nat) (i : GenerationInput) :
    g.milestones [(now, i)] = (g.milestone? i).toList := by
  rw [milestones]
  cases g.react now i with
  | ok answer => exact List.append_nil _
  | error e => exact List.append_nil _

/-- A run goes on from where its first half ended. -/
theorem reactions_append {past later : List (Nat × GenerationInput)}
    {ends ends' : List GenerationEnd} {g₀ : Generation}
    (first : g.reactions past = .ok (ends, g₀))
    (all : g.reactions (past ++ later) = .ok (ends', g')) :
    ∃ more, g₀.reactions later = .ok (more, g') ∧ ends' = ends ++ more := by
  induction past generalizing g ends ends' with
  | nil =>
      cases first
      exact ⟨ends', all, rfl⟩
  | cons x past ih =>
      obtain ⟨ended, g₁, more, answer, others, rfl⟩ := reactions_cons first
      obtain ⟨ended', g₁', more', answer', others', rfl⟩ := reactions_cons all
      cases answer.symm.trans answer'
      obtain ⟨rest, reacted, rfl⟩ := ih others others'
      exact ⟨rest, reacted, (List.append_assoc ..).symm⟩

/-- The milestones of a run are those of its two halves. -/
theorem milestones_append {past later : List (Nat × GenerationInput)} {ends : List GenerationEnd}
    (reacted : g.reactions past = .ok (ends, g')) :
    g.milestones (past ++ later) = g.milestones past ++ g'.milestones later := by
  induction past generalizing g ends with
  | nil =>
      cases reacted
      rfl
  | cons first past ih =>
      obtain ⟨now, i⟩ := first
      obtain ⟨ended, g₁, more, answer, others, -⟩ := reactions_cons reacted
      rw [List.cons_append, milestones, milestones, answer, List.append_assoc]
      exact congrArg _ (ih others)

end Generation

end Screencast
