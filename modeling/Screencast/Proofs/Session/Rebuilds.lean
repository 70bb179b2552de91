import Screencast.Proofs.Client.DecodeOrder
import Screencast.Proofs.Session.Reactions

/-! # Clients built anew

A client's pipeline is replaced when it reports itself broken, and every report carries the number
of the pipeline it comes from. Numbers are given out in increasing order, so that a report counts at
most once: the first one of the current instance replaces it, and what else comes from that instance
means nothing any more (`Screencast.Generation.replaced_once`).
-/

namespace Screencast

open Wire

/-- The pipeline that an event tells of. -/
def ClientEvent.source? : ClientEvent → Option Nat
  | .outbound _ => none
  | .resetRequested instanceId _ | .renderStopped instanceId _ => some instanceId

/-- An event after which the pipeline with this number is to be replaced. -/
def ClientEvent.Replaces (current : Nat) : ClientEvent → Prop
  | .outbound _ => False
  | .resetRequested instanceId _ => instanceId = current
  | .renderStopped instanceId cause => instanceId = current ∧ cause.requiresRebuild = true

/-- The input is an event that replaces the client. -/
def GenerationInput.Replaces (current : Nat) : GenerationInput → Prop
  | .clientEvent e => e.Replaces current
  | _ => False

namespace ClientEvent

variable {current : Nat}

private theorem source?_of_replaces {e : ClientEvent} (replaces : e.Replaces current) :
    e.source? = some current := by
  cases e with
  | outbound m => exact replaces.elim
  | resetRequested instanceId cause => exact congrArg some replaces
  | renderStopped instanceId cause => exact congrArg some replaces.1

private theorem not_replaces_of_foreign {e : ClientEvent} {other : Nat}
    (source : e.source? = some other)
    (foreign : other ≠ current) : ¬ e.Replaces current :=
  fun replaces => foreign (Option.some.inj (source.symm.trans (source?_of_replaces replaces)))

private theorem not_replaces_of_final {cause : StreamError}
    (final : cause.requiresRebuild = false) :
    ¬ (renderStopped current cause).Replaces current :=
  fun replaces => Bool.false_ne_true (final.symm.trans replaces.2)

end ClientEvent

private theorem ClientParams.negotiated_of_check {p : ClientParams} {n : Negotiated}
    (checked : p.check = .ok n) : p.negotiated = some n := by
  unfold check at checked
  cases known : p.negotiated with
  | none =>
      rw [known] at checked
      cases checked
  | some m =>
      rw [known] at checked
      dsimp only at checked
      repeat' split at checked
      all_goals cases checked
      rfl

/-- A client that starts is a running one of the negotiated parameters. -/
theorem exists_startClient_eq {p : ClientParams} {instanceId : Nat} {client : ClientPipeline}
    (started : startClient p instanceId = .ok client) :
    ∃ n, p.negotiated = some n ∧ client =
      { ClientPipeline.new instanceId n with
        state := .running, running := true, decoding := true, rendering := true } := by
  unfold startClient ClientPipeline.create at started
  cases checked : p.check with
  | error e =>
      rw [checked] at started
      cases started
  | ok n =>
      refine ⟨n, ClientParams.negotiated_of_check checked, ?_⟩
      rw [checked] at started
      dsimp only at started
      cases output : decoderOutput? n with
      | none =>
          rw [output] at started
          cases started
      | some output' =>
          rw [output] at started
          dsimp only at started
          split at started
          next => exact (Except.ok.inj started).symm
          next => cases started

namespace Generation

variable {g g' : Generation} {now : Nat} {i : GenerationInput} {e : ClientEvent}
  {ended : Option GenerationEnd} {client : ClientPipeline}

/-- Another client in the place of the present one, and then a request for a keyframe. -/
def replaceClient (g : Generation) (now : Nat) (client : ClientPipeline) : Generation :=
  { g with
    client
    nextInstance := g.nextInstance + 1
    tally := { g.tally with clientResets := g.tally.clientResets + 1 } }.sendToHost now
    .requestKeyframe

/-- When a client can be started, rebuilding puts it in place. -/
theorem rebuildClient_eq (started : startClient g.params g.nextInstance = .ok client) :
    g.rebuildClient now = .ok (g.replaceClient now client) := by
  rw [rebuildClient, started]
  rfl

/-- A client is rebuilt by starting one with the next instance number. -/
theorem rebuildClient_cases (rebuilt : g.rebuildClient now = .ok g') :
    ∃ client, startClient g.params g.nextInstance = .ok client ∧
      g' = g.replaceClient now client := by
  cases started : startClient g.params g.nextInstance with
  | error e =>
      rw [rebuildClient, started] at rebuilt
      cases rebuilt
  | ok client =>
      rw [rebuildClient_eq started] at rebuilt
      exact ⟨client, rfl, (Except.ok.inj rebuilt).symm⟩

/-- An event that replaces the client rebuilds it. -/
theorem onClientEvent_of_replaces (replaces : e.Replaces g.client.instanceId) :
    g.onClientEvent now e = (g.rebuildClient now).map (none, ·) := by
  cases e with
  | outbound m => exact replaces.elim
  | resetRequested instanceId cause => exact if_pos replaces
  | renderStopped instanceId cause =>
      rw [onClientEvent, if_pos replaces.1, if_pos replaces.2]

private theorem onClientEvent_of_foreign {other : Nat} (source : e.source? = some other)
    (foreign : other ≠ g.client.instanceId) : g.onClientEvent now e = .ok (none, g) := by
  cases e with
  | outbound m => cases source
  | resetRequested instanceId cause | renderStopped instanceId cause =>
      cases source
      exact if_neg foreign

private theorem onClientEvent_of_final {cause : StreamError}
    (final : cause.requiresRebuild = false) :
    g.onClientEvent now (.renderStopped g.client.instanceId cause) =
      .ok (some (.finished (.renderStopped cause)), g) := by
  rw [onClientEvent, if_pos rfl, if_neg (Bool.eq_false_iff.mp final)]

/-- What an event is: a message, a report of another pipeline, or a report of the present one that
replaces it or ends the generation. -/
theorem event_cases (e : ClientEvent) (current : Nat) :
    (∃ m, e = .outbound m) ∨ (∃ other, e.source? = some other ∧ other ≠ current) ∨
      e.Replaces current ∨
      ∃ cause, e = .renderStopped current cause ∧ cause.requiresRebuild = false := by
  cases e with
  | outbound m => exact .inl ⟨m, rfl⟩
  | resetRequested instanceId cause =>
      by_cases same : instanceId = current
      · exact .inr (.inr (.inl same))
      · exact .inr (.inl ⟨instanceId, rfl, same⟩)
  | renderStopped instanceId cause =>
      by_cases same : instanceId = current
      · cases rebuild : cause.requiresRebuild with
        | true => exact .inr (.inr (.inl ⟨same, rebuild⟩))
        | false => exact .inr (.inr (.inr ⟨cause, by rw [same], rebuild⟩))
      · exact .inr (.inl ⟨instanceId, rfl, same⟩)

/-- The client, its successors and what is counted of it, apart from what it shows and reports. -/
structure KeepsClient (g g' : Generation) : Prop where
  instanceId : g'.client.instanceId = g.client.instanceId
  state : g'.client.state = g.client.state
  keyframeNeeded : g'.client.keyframeNeeded = g.client.keyframeNeeded
  nextInstance : g'.nextInstance = g.nextInstance
  params : g'.params = g.params
  ackTimeout : g'.ackTimeout = g.ackTimeout
  tally : g'.tally = g.tally

private theorem keepsClient_refl (g : Generation) :
    g.KeepsClient g := ⟨rfl, rfl, rfl, rfl, rfl, rfl, rfl⟩

/-- A frame reaches the client. -/
structure TakesFrame (g g' : Generation) : Prop where
  instanceId : g'.client.instanceId = g.client.instanceId
  state : g'.client.state = g.client.state
  keyframeNeeded : g'.client.keyframeNeeded = false
  nextInstance : g'.nextInstance = g.nextInstance
  params : g'.params = g.params
  ackTimeout : g'.ackTimeout = g.ackTimeout
  clientResets : g'.tally.clientResets = g.tally.clientResets
  framesDelivered : g'.tally.framesDelivered = g.tally.framesDelivered + 1
  toHost : g'.toHost = g.toHost ++
    if g.client.keyframeNeeded then [Message.requestKeyframe.toBytes] else []

private theorem submit_takesFrame (g : Generation) (now : Nat) (f : EncodedFrame) :
    g.TakesFrame (g.submit now f) := by
  have kept : (g.client.submit ⟨f, UInt64.ofNat (now / 1000)⟩).2.instanceId = g.client.instanceId ∧
      (g.client.submit ⟨f, UInt64.ofNat (now / 1000)⟩).2.state = g.client.state := by
    unfold ClientPipeline.submit
    cases g.client.closed with
    | true | false => exact ⟨rfl, rfl⟩
  have needed : (g.client.submit ⟨f, UInt64.ofNat (now / 1000)⟩).1 =
      if g.client.keyframeNeeded then .requestKeyframe else .nothing := by
    unfold ClientPipeline.submit
    cases g.client.closed with
    | true | false => rfl
  unfold submit
  dsimp only
  rw [needed]
  cases wanted : g.client.keyframeNeeded with
  | true => exact ⟨kept.1, kept.2, rfl, rfl, rfl, rfl, rfl, rfl, by rw [wanted]; rfl⟩
  | false => exact ⟨kept.1, kept.2, rfl, rfl, rfl, rfl, rfl, rfl, by rw [wanted]; simp⟩

/-- For a frame to reach the client, its message may be taken off the line before. -/
theorem TakesFrame.of_toClient {line : List Bytes}
    (takes : { g with toClient := line }.TakesFrame g') : g.TakesFrame g' :=
  ⟨takes.1, takes.2, takes.3, takes.4, takes.5, takes.6, takes.7, takes.8, takes.9⟩

end Generation

/-- What is left of the line to the host once an input has taken from it. -/
def GenerationInput.remaining (line : List Bytes) : GenerationInput → List Bytes
  | .hostReceives => line.tail
  | _ => line

/-- What the client says to the host. -/
def GenerationInput.passedOn : GenerationInput → List Message
  | .clientEvent (.outbound m) => [m]
  | _ => []

namespace Generation

variable {g g' : Generation} {now : Nat} {i : GenerationInput} {ended : Option GenerationEnd}

/-- The client stays, and nothing goes to the host but what the client says. -/
structure LeavesClient (g : Generation) (i : GenerationInput) (g' : Generation) : Prop where
  stays : ¬ i.Replaces g.client.instanceId
  client : g.KeepsClient g'
  toHost : g'.toHost = i.remaining g.toHost ++ i.passedOn.map Message.toBytes

private theorem KeepsClient.leaves (kept : g.KeepsClient g')
    (other : ¬ i.Replaces g.client.instanceId) (quiet : i.passedOn = [])
    (line : g'.toHost = i.remaining g.toHost) : g.LeavesClient i g' := by
  refine ⟨other, kept, ?_⟩
  rw [line, quiet]
  exact (List.append_nil _).symm

/-- An event replaces the client by a new one or leaves it in place. -/
theorem onClientEvent_client {e : ClientEvent} (reacted : g.onClientEvent now e = .ok (ended, g')) :
    (∃ client, e.Replaces g.client.instanceId ∧
      startClient g.params g.nextInstance = .ok client ∧ ended = none ∧
      g' = g.replaceClient now client) ∨
    g.LeavesClient (.clientEvent e) g' := by
  rcases event_cases e g.client.instanceId with
    ⟨m, rfl⟩ | ⟨other, source, foreign⟩ | replaces | ⟨cause, rfl, final⟩
  · cases reacted
    exact .inr ⟨id, ⟨rfl, rfl, rfl, rfl, rfl, rfl, rfl⟩, rfl⟩
  · rw [onClientEvent_of_foreign source foreign] at reacted
    cases reacted
    refine .inr ⟨ClientEvent.not_replaces_of_foreign source foreign, keepsClient_refl g, ?_⟩
    cases e with
    | outbound m => cases source
    | _ => exact (List.append_nil _).symm
  · rw [onClientEvent_of_replaces replaces] at reacted
    cases rebuilt : g.rebuildClient now with
    | error e =>
        rw [rebuilt] at reacted
        cases reacted
    | ok g₁ =>
        rw [rebuilt] at reacted
        cases reacted
        obtain ⟨client, started, rfl⟩ := rebuildClient_cases rebuilt
        exact .inl ⟨client, replaces, started, rfl, rfl⟩
  · rw [onClientEvent_of_final final] at reacted
    cases reacted
    exact .inr ⟨ClientEvent.not_replaces_of_final final, keepsClient_refl g,
      (List.append_nil _).symm⟩

/-- Taking a completed renegotiation touches nothing else. -/
theorem exists_takeCompleted_eq (g : Generation) :
    ∃ r, g.takeCompleted.2 = { g with renegotiation := r } := by
  rcases takeCompleted_cases g with ⟨r, completed⟩ | ⟨same, -⟩
  · exact ⟨none, congrArg Prod.snd completed⟩
  · exact ⟨g.renegotiation, congrArg Prod.snd same⟩

/-- A timeout touches the renegotiation and the tally only. -/
theorem exists_ackTimedOut_eq (g : Generation) (now : Nat) :
    ∃ r, (g.ackTimedOut now).2 = { g with renegotiation := r } := by
  unfold ackTimedOut
  split
  · split
    · exact ⟨none, rfl⟩
    · exact ⟨g.renegotiation, rfl⟩
  · exact ⟨g.renegotiation, rfl⟩

/-- What the host receives does not reach the client. -/
theorem deliverToHost_client {bytes : Bytes}
    (delivered : g.deliverToHost bytes = .ok (ended, g')) :
    g.KeepsClient g' ∧ g'.toHost = g.toHost := by
  unfold deliverToHost at delivered
  cases read : Message.ofBytes bytes with
  | error e =>
      rw [read] at delivered
      cases delivered
  | ok m =>
      rw [read] at delivered
      cases m with
      | changeStreamingParamsAck mode =>
          obtain ⟨r, completed⟩ := (g.onAck mode).exists_takeCompleted_eq
          obtain rfl : (g.onAck mode).takeCompleted.2 = g' :=
            congrArg Prod.snd (Except.ok.inj delivered)
          rw [completed]
          exact ⟨⟨rfl, rfl, rfl, rfl, rfl, rfl, rfl⟩, rfl⟩
      | _ =>
          cases delivered
          exact ⟨⟨rfl, rfl, rfl, rfl, rfl, rfl, rfl⟩, rfl⟩

/-- What becomes of the client in a reaction: it is replaced, takes a frame, is stopped for another
mode, or stays as it is. -/
theorem react_client (reacted : g.react now i = .ok (ended, g')) :
    (∃ client, i.Replaces g.client.instanceId ∧
      startClient g.params g.nextInstance = .ok client ∧ ended = none ∧
      g' = g.replaceClient now client) ∨
    (∃ f, arrival? g.toClient = some (.encodedFrame f) ∧ i = .clientReceives ∧ ended = none ∧
      g.TakesFrame g') ∨
    (∃ mode, g.milestone? i = some (.received mode)) ∨
    g.LeavesClient i g' := by
  -- Only the client's own events and messages for it reach the client.
  cases i with
  | clientEvent e => exact (onClientEvent_client reacted).imp_right fun leaves => .inr (.inr leaves)
  | hostEvent e =>
      refine .inr (.inr (.inr ?_))
      cases e with
      | outbound m =>
          cases m with
          | _ =>
              cases reacted
              exact KeepsClient.leaves ⟨rfl, rfl, rfl, rfl, rfl, rfl, rfl⟩ id rfl rfl
      | terminated cause =>
          cases cause with
          | resolutionChanged width height refreshRate =>
              obtain ⟨r, completed⟩ :=
                (g.hostEnded now ⟨width, height, refreshRate, .deg0⟩).exists_takeCompleted_eq
              obtain rfl := congrArg Prod.snd (Except.ok.inj reacted)
              rw [completed]
              exact KeepsClient.leaves ⟨rfl, rfl, rfl, rfl, rfl, rfl, rfl⟩ id rfl rfl
          | _ =>
              cases reacted
              exact (keepsClient_refl g).leaves id rfl rfl
  | clientReceives =>
      cases line : g.toClient with
      | nil =>
          rw [react, line] at reacted
          cases reacted
          exact .inr (.inr (.inr ((keepsClient_refl g).leaves id rfl rfl)))
      | cons bytes rest =>
          rw [react, line] at reacted
          cases read : Message.ofBytes bytes with
          | error e =>
              dsimp only [deliverToClient] at reacted
              rw [read] at reacted
              cases reacted
          | ok m =>
              have arrives : arrival? g.toClient = some m :=
                arrival?_eq_some.mpr ⟨bytes, rest, line, read⟩
              dsimp only [deliverToClient] at reacted
              rw [read] at reacted
              cases m with
              | encodedFrame f =>
                  cases reacted
                  rw [line] at arrives
                  exact .inr (.inl ⟨f, arrives, rfl, rfl,
                    (submit_takesFrame { g with toClient := rest } now f).of_toClient⟩)
              | changeStreamingParams mode =>
                  exact .inr (.inr (.inl ⟨mode, milestone?_eq_received.mpr ⟨rfl, arrives⟩⟩))
              | _ =>
                  cases reacted
                  exact .inr (.inr (.inr
                    (KeepsClient.leaves ⟨rfl, rfl, rfl, rfl, rfl, rfl, rfl⟩ id rfl rfl)))
  | hostReceives =>
      refine .inr (.inr (.inr ?_))
      cases line : g.toHost with
      | nil =>
          rw [react, line] at reacted
          cases reacted
          exact (keepsClient_refl g).leaves id rfl (by rw [line]; rfl)
      | cons bytes rest =>
          rw [react, line] at reacted
          obtain ⟨kept, untouched⟩ := deliverToHost_client reacted
          exact KeepsClient.leaves
            ⟨kept.1, kept.2, kept.3, kept.4, kept.5, kept.6, kept.7⟩ id rfl
            (untouched.trans (by rw [line]; rfl))
  | ackTimer =>
      obtain ⟨r, timedOut⟩ := g.exists_ackTimedOut_eq now
      obtain rfl := congrArg Prod.snd (Except.ok.inj reacted)
      rw [timedOut]
      exact .inr (.inr (.inr (KeepsClient.leaves ⟨rfl, rfl, rfl, rfl, rfl, rfl, rfl⟩ id rfl rfl)))
  | telemetry =>
      cases reacted
      exact .inr (.inr (.inr (KeepsClient.leaves ⟨rfl, rfl, rfl, rfl, rfl, rfl, rfl⟩ id rfl rfl)))

/-- The instances that give way to others along some reactions. -/
def replaced (g : Generation) : List (Nat × GenerationInput) → List Nat
  | [] => []
  | (now, i) :: later =>
    match g.react now i with
    | .ok (_, g') =>
      (if g'.client.instanceId = g.client.instanceId then [] else [g.client.instanceId]) ++
        g'.replaced later
    | .error _ => []

/-- The number kept for the next client is above that of the present one. -/
def Unused (g : Generation) : Prop := g.client.instanceId < g.nextInstance

/-- What one reaction does to the succession of clients. -/
theorem react_succession (unused : g.Unused) (reacted : g.react now i = .ok (ended, g')) :
    g'.Unused ∧ g'.params = g.params ∧
      (i.Replaces g.client.instanceId ∧ g'.client.instanceId = g.nextInstance ∧
          g'.tally.clientResets = g.tally.clientResets + 1 ∨
        ¬ i.Replaces g.client.instanceId ∧ g'.client.instanceId = g.client.instanceId ∧
          g'.tally.clientResets = g.tally.clientResets) := by
  rcases react_client reacted with
    ⟨client, replaces, started, -, rfl⟩ | ⟨f, -, rfl, -, takes⟩ | ⟨mode, received⟩ | leaves
  · obtain ⟨n, -, rfl⟩ := exists_startClient_eq started
    exact ⟨Nat.lt_succ_self _, rfl, .inl ⟨replaces, rfl, rfl⟩⟩
  · refine ⟨?_, takes.params, .inr ⟨id, takes.instanceId, takes.clientResets⟩⟩
    rw [Unused, takes.instanceId, takes.nextInstance]
    exact unused
  · obtain ⟨rfl, -⟩ := milestone?_eq_received.mp received
    cases (react_received received).symm.trans reacted
    exact ⟨unused, rfl, .inr ⟨id, rfl, rfl⟩⟩
  · refine ⟨?_, leaves.client.params, .inr ⟨leaves.stays, leaves.client.instanceId, ?_⟩⟩
    · rw [Unused, leaves.client.instanceId, leaves.client.nextInstance]
      exact unused
    · rw [leaves.client.tally]

variable {inputs : List (Nat × GenerationInput)} {ends : List GenerationEnd}

/-- Along any reactions the numbers of the clients increase. -/
theorem reactions_succession (unused : g.Unused) (reacted : g.reactions inputs = .ok (ends, g')) :
    g'.Unused ∧ g'.params = g.params ∧
      (g.replaced inputs ++ [g'.client.instanceId, g'.nextInstance]).Pairwise (· < ·) ∧
      (∀ instanceId ∈ g.replaced inputs ++ [g'.client.instanceId, g'.nextInstance],
        g.client.instanceId ≤ instanceId) ∧
      g'.tally.clientResets = g.tally.clientResets + (g.replaced inputs).length := by
  induction inputs generalizing g ends with
  | nil =>
      cases reacted
      refine ⟨unused, rfl, List.pairwise_pair.mpr unused, ?_, rfl⟩
      intro instanceId member
      rcases List.mem_cons.mp member with rfl | member
      · exact Nat.le_refl _
      · rw [List.mem_singleton.mp member]
        exact Nat.le_of_lt unused
  | cons first inputs ih =>
      obtain ⟨now, i⟩ := first
      obtain ⟨ended, g₁, more, answer, others, -⟩ := reactions_cons reacted
      obtain ⟨unused₁, params₁, step⟩ := react_succession unused answer
      obtain ⟨unused', params', ordered, above, resets⟩ := ih unused₁ others
      refine ⟨unused', params'.trans params₁, ?_⟩
      rw [replaced, answer]
      dsimp only
      -- A new client takes the next unused number, which lies above all that were in use.
      rcases step with ⟨-, next, one⟩ | ⟨-, same, unchanged⟩
      · have later : g.client.instanceId < g₁.client.instanceId := by
          rw [next]
          exact unused
        rw [if_neg (Nat.ne_of_gt later)]
        refine ⟨List.pairwise_cons.mpr ⟨?_, ordered⟩, ?_, ?_⟩
        · exact fun instanceId member => Nat.lt_of_lt_of_le later (above instanceId member)
        · intro instanceId member
          rcases List.mem_cons.mp member with rfl | member
          · exact Nat.le_refl _
          · exact Nat.le_of_lt (Nat.lt_of_lt_of_le later (above instanceId member))
        · rw [resets, one, List.singleton_append, List.length_cons]
          omega
      · rw [if_pos same, List.nil_append]
        rw [same] at above
        rw [unchanged] at resets
        exact ⟨ordered, above, resets⟩

/-- What the clients of `watching` are made for. -/
def screen : Negotiated := ⟨⟨640, 480, 60, .deg0⟩, ⟨.zstd, .software⟩, false⟩

/-- A generation with a client at work. -/
def watching : Generation :=
  { params := ⟨some screen, true, true, {}⟩
    ackTimeout := ⟨1000000000⟩
    client := (ClientPipeline.new 0 screen).start.2
    nextInstance := 1
    link := .new default }

/-- With the parameters of this session a client always starts. -/
theorem watching_starts (instanceId : Nat) :
    ∃ client, startClient watching.params instanceId = .ok client := ⟨_, rfl⟩

end Generation

end Screencast
