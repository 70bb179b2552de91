import Screencast.Proofs.Session.Rebuilds

/-! # Clients stopped for another mode

A client is stopped when a proposal arrives at its end, but its owner does not keep in mind why. The
stopped client stays until it is reported broken, and it may have reported itself before it was
stopped: its number is still the present one, so the report starts another client for the old mode
(`Screencast.Generation.stopped_until_replaced`). A failure to decode that was not yet answered is
answered with a request for a keyframe even then.
-/

namespace Screencast

open Wire

namespace Generation

variable {g g' g₁ g₂ : Generation} {now : Nat} {i : GenerationInput}
  {ended : Option GenerationEnd} {ends : List GenerationEnd} {mode : DisplayMode}
  {later : List (Nat × GenerationInput)}

/-- What is put on the line to the host along some reactions. -/
def sent (g : Generation) : List (Nat × GenerationInput) → List Bytes
  | [] => []
  | (now, i) :: later =>
    match g.react now i with
    | .ok (_, g') => g'.toHost.drop (i.remaining g.toHost).length ++ g'.sent later
    | .error _ => []

/-- What clients have said among some inputs, as it goes to the host. -/
def said (inputs : List (Nat × GenerationInput)) : List Bytes :=
  inputs.flatMap fun x => x.2.passedOn.map Message.toBytes

/-- How many of the messages on a line ask for a keyframe. -/
def keyframeRequests (line : List Bytes) : Nat := line.count Message.requestKeyframe.toBytes

/-- Requests are counted message by message. -/
@[simp] theorem keyframeRequests_append (line line' : List Bytes) :
    keyframeRequests (line ++ line') = keyframeRequests line + keyframeRequests line' :=
  List.count_append

private theorem keyframeRequests_acknowledgement (mode : DisplayMode) :
    keyframeRequests [(Message.changeStreamingParamsAck mode).toBytes] = 0 := by
  refine List.count_eq_zero_of_not_mem fun member => ?_
  have first := congrArg List.head? (List.mem_singleton.mp member)
  cases first

/-- The client is the same, and the owner's requests for keyframes are answers to it: it asks at
most once, with the first frame that it gets. -/
structure Retains (g g' : Generation) (sent said : List Bytes) : Prop where
  instanceId : g'.client.instanceId = g.client.instanceId
  stopped : g.client.state = .stopped → g'.client.state = .stopped
  nextInstance : g'.nextInstance = g.nextInstance
  params : g'.params = g.params
  delivered : g.tally.framesDelivered ≤ g'.tally.framesDelivered
  needed : g'.client.keyframeNeeded =
    (g.client.keyframeNeeded && decide (g'.tally.framesDelivered = g.tally.framesDelivered))
  requests : keyframeRequests sent + g'.client.keyframeNeeded.toNat =
    keyframeRequests said + g.client.keyframeNeeded.toNat

private theorem retains_refl (g : Generation) : g.Retains g [] [] where
  instanceId := rfl
  stopped := id
  nextInstance := rfl
  params := rfl
  delivered := Nat.le_refl _
  needed := by simp
  requests := rfl

/-- What two stretches of a run add to the lines follows each other. -/
theorem Retains.trans {sent sent' said said' : List Bytes} (first : g.Retains g₁ sent said)
    (second : g₁.Retains g₂ sent' said') : g.Retains g₂ (sent ++ sent') (said ++ said') where
  instanceId := second.instanceId.trans first.instanceId
  stopped := second.stopped ∘ first.stopped
  nextInstance := second.nextInstance.trans first.nextInstance
  params := second.params.trans first.params
  delivered := Nat.le_trans first.delivered second.delivered
  needed := by
    have := first.delivered
    have := second.delivered
    rw [second.needed, first.needed, Bool.and_assoc, ← Bool.decide_and]
    congr 2
    exact propext (by omega)
  requests := by
    have := first.requests
    have := second.requests
    rw [keyframeRequests_append, keyframeRequests_append]
    omega

private theorem Retains.keyframeRequests_eq {sent said : List Bytes}
    (retains : g.Retains g' sent said) :
    keyframeRequests sent = keyframeRequests said + (g.client.keyframeNeeded &&
      decide (g.tally.framesDelivered < g'.tally.framesDelivered)).toNat := by
  have requests := retains.requests
  rw [retains.needed] at requests
  rcases Nat.eq_or_lt_of_le retains.delivered with same | more
  · rw [same] at requests ⊢
    simpa using requests
  · simpa [more, Nat.ne_of_gt more] using requests

private theorem TakesFrame.retains (takes : g.TakesFrame g') :
    g.Retains g' (g'.toHost.drop g.toHost.length) [] where
  instanceId := takes.instanceId
  stopped := takes.state.trans
  nextInstance := takes.nextInstance
  params := takes.params
  delivered := by simp [takes.framesDelivered]
  needed := by simp [takes.keyframeNeeded, takes.framesDelivered]
  requests := by
    rw [takes.toHost, List.drop_left, takes.keyframeNeeded]
    cases g.client.keyframeNeeded with
    | true | false => rfl

private theorem LeavesClient.retains (leaves : g.LeavesClient i g') :
    g.Retains g' (g'.toHost.drop (i.remaining g.toHost).length)
      (i.passedOn.map Message.toBytes) where
  instanceId := leaves.client.instanceId
  stopped := leaves.client.state.trans
  nextInstance := leaves.client.nextInstance
  params := leaves.client.params
  delivered := by simp [leaves.client.tally]
  needed := by simp [leaves.client.keyframeNeeded, leaves.client.tally]
  requests := by rw [leaves.toHost, List.drop_left, leaves.client.keyframeNeeded]

private theorem stop_retains (g : Generation) (now : Nat) (line : List Bytes) (mode : DisplayMode) :
    g.Retains ({ g with toClient := line, client := g.client.stop }.sendToHost now
      (.changeStreamingParamsAck mode)) [(Message.changeStreamingParamsAck mode).toBytes] [] where
  instanceId := rfl
  stopped _ := rfl
  nextInstance := rfl
  params := rfl
  delivered := Nat.le_refl _
  needed := by simp [sendToHost, ClientPipeline.stop]
  requests := by
    rw [keyframeRequests_acknowledgement]
    rfl

/-- A reaction replaces the client or retains it. -/
theorem react_retains (reacted : g.react now i = .ok (ended, g'))
    (stays : ¬ i.Replaces g.client.instanceId) :
    g.Retains g' (g'.toHost.drop (i.remaining g.toHost).length)
      (i.passedOn.map Message.toBytes) := by
  rcases react_client reacted with
    ⟨client, replaces, -⟩ | ⟨f, -, rfl, -, takes⟩ | ⟨mode, received⟩ | leaves
  · exact absurd replaces stays
  · exact takes.retains
  · obtain ⟨rfl, -⟩ := milestone?_eq_received.mp received
    cases (react_received received).symm.trans reacted
    have line : (GenerationInput.clientReceives.remaining g.toHost) = g.toHost := rfl
    rw [line, sendToHost, List.drop_left]
    exact stop_retains g now g.toClient.tail mode
  · exact leaves.retains

/-- Without a report that replaces it, a client is retained. -/
theorem reactions_retains (reacted : g.reactions later = .ok (ends, g'))
    (stays : ∀ x ∈ later, ¬ x.2.Replaces g.client.instanceId) :
    g.Retains g' (g.sent later) (said later) := by
  induction later generalizing g ends with
  | nil =>
      cases reacted
      exact retains_refl _
  | cons first later ih =>
      obtain ⟨now, i⟩ := first
      obtain ⟨ended, g₁, more, answer, others, -⟩ := reactions_cons reacted
      have step := react_retains answer (stays (now, i) (List.mem_cons_self ..))
      have rest := ih others fun x member => by
        rw [step.instanceId]
        exact stays x (List.mem_cons_of_mem _ member)
      rw [sent, answer, said, List.flatMap_cons]
      exact step.trans rest

/-- A client is present until the first report that replaces it, and never again. -/
theorem reactions_present_iff (unused : g.Unused) (reacted : g.reactions later = .ok (ends, g')) :
    g'.client.instanceId = g.client.instanceId ↔
      ∀ x ∈ later, ¬ x.2.Replaces g.client.instanceId := by
  refine ⟨fun same => ?_, fun stays => (reactions_retains reacted stays).instanceId⟩
  induction later generalizing g ends with
  | nil => exact nofun
  | cons first later ih =>
      obtain ⟨now, i⟩ := first
      obtain ⟨ended, g₁, more, answer, others, -⟩ := reactions_cons reacted
      obtain ⟨unused₁, -, ⟨-, next, -⟩ | ⟨stays, kept, -⟩⟩ := react_succession unused answer
      · -- The successors' numbers only increase.
        have above := (reactions_succession unused₁ others).2.2.2.1 g'.client.instanceId (by simp)
        rw [same, next] at above
        exact absurd unused (Nat.not_lt.mpr above)
      · have rest := ih unused₁ others (same.trans kept.symm)
        rw [kept] at rest
        exact List.forall_mem_cons.mpr ⟨stays, rest⟩

/-- **A stopped client stays until it is replaced.** Let a proposal arrive at the client's end,
which stops the client, and let the generation go on from there in any way. The client is present as
long as no input is a report that replaces it. Until then it is stopped, and the requests for
keyframes are those that clients have said and one more if it needed a keyframe when it was stopped
and a frame has arrived since. The first report that replaces it starts another client for the same
parameters and asks for a keyframe, as if nothing had been proposed. -/
theorem stopped_until_replaced (now : Nat) (unused : g.Unused)
    (received : g.milestone? i = some (.received mode)) :
    ∃ g₁, g.react now i = .ok (none, g₁) ∧ g₁.client = g.client.stop ∧
      ∀ later ends g₂, g₁.reactions later = .ok (ends, g₂) →
        (g₂.client.instanceId = g.client.instanceId ↔
          ∀ x ∈ later, ¬ x.2.Replaces g.client.instanceId) ∧
        (g₂.client.instanceId = g.client.instanceId →
          g₂.client.state = .stopped ∧
          keyframeRequests (g₁.sent later) = keyframeRequests (said later) +
            (g.client.keyframeNeeded &&
              decide (g₁.tally.framesDelivered < g₂.tally.framesDelivered)).toNat ∧
          ∀ now e client, e.Replaces g.client.instanceId →
            startClient g.params g.nextInstance = .ok client →
              client.state = .running ∧ g.params.negotiated = some client.negotiated ∧
              ∃ g₃, g₂.react now (.clientEvent e) = .ok (none, g₃) ∧ g₃.client = client ∧
                g₃.toHost = g₂.toHost ++ [Message.requestKeyframe.toBytes]) := by
  refine ⟨_, react_received received, rfl, fun later ends g₂ reacted => ?_⟩
  -- The stop leaves alone what the succession of clients depends on.
  have present := reactions_present_iff (g := { g with
    toClient := g.toClient.tail, client := g.client.stop }.sendToHost now
      (.changeStreamingParamsAck mode)) unused reacted
  refine ⟨present, fun same => ?_⟩
  have retains := reactions_retains reacted (present.mp same)
  refine ⟨retains.stopped rfl, retains.keyframeRequests_eq,
    fun now e client replaces started => ?_⟩
  obtain ⟨n, negotiated, made⟩ := exists_startClient_eq started
  have rebuilt : startClient g₂.params g₂.nextInstance = .ok client := by
    rw [retains.params, retains.nextInstance]
    exact started
  rw [← same] at replaces
  refine ⟨by rw [made], by rw [made]; exact negotiated, g₂.replaceClient now client, ?_, rfl, rfl⟩
  rw [react, onClientEvent_of_replaces replaces, rebuildClient_eq rebuilt]
  rfl

/-- The client of `watching` failed to decode, and a proposal and a frame are on their way to it. -/
def toldToTurn : Generation :=
  { watching with
    client := { watching.client with keyframeNeeded := true }
    toClient := [(Message.changeStreamingParams ⟨480, 640, 60, .deg90⟩).toBytes,
      (Message.encodedFrame default).toBytes] }

/-- The frame arrives, and a pipeline that is long gone reports itself. -/
def afterTurn : List (Nat × GenerationInput) :=
  [(1, .clientReceives), (2, .clientEvent (.resetRequested 7 (.decodeFatal .needReset)))]

/-- The stopped client asks for one keyframe, and a lost device replaces it by a running one. -/
theorem toldToTurn_stopped_until_replaced :
    ∃ g₁ g₂, toldToTurn.react 0 .clientReceives = .ok (none, g₁) ∧
      g₁.reactions afterTurn = .ok ([], g₂) ∧
      g₂.client.state = .stopped ∧ keyframeRequests (g₁.sent afterTurn) = 1 ∧
      ∃ g₃, g₂.react 3 (.clientEvent (.renderStopped 0 .renderDeviceLost)) = .ok (none, g₃) ∧
        g₃.client.state = .running := by
  obtain ⟨g₁, stopped, client, retained⟩ := stopped_until_replaced 0
    (show toldToTurn.Unused from Nat.zero_lt_one)
    (show toldToTurn.milestone? .clientReceives = some (.received ⟨480, 640, 60, .deg90⟩) from rfl)
  cases stopped
  obtain ⟨present, retained⟩ := retained afterTurn _ _ rfl
  obtain ⟨state, requests, replaced⟩ := retained rfl
  obtain ⟨client, started⟩ := watching_starts 1
  obtain ⟨running, -, g₃, answer, same, -⟩ :=
    replaced 3 (.renderStopped 0 .renderDeviceLost) client ⟨rfl, rfl⟩ started
  exact ⟨_, _, rfl, rfl, state, requests, g₃, answer, same ▸ running⟩

/-- A reset that was asked for before the stop starts another client, and the frame has a keyframe
asked for. -/
theorem not_always_left_stopped :
    ¬ (∀ (g : Generation) mode later ends g₁ g₂, g.Unused →
      g.milestone? .clientReceives = some (.received mode) →
      g.react 0 .clientReceives = .ok (none, g₁) → g₁.reactions later = .ok (ends, g₂) →
      g₂.client.state = .stopped) ∧
    ¬ ∀ (g : Generation) mode later ends g₁ g₂, g.Unused →
      g.milestone? .clientReceives = some (.received mode) →
      g.react 0 .clientReceives = .ok (none, g₁) → g₁.reactions later = .ok (ends, g₂) →
      g₂.client.state = .stopped →
      keyframeRequests (g₁.sent later) = keyframeRequests (said later) := by
  refine ⟨fun stays => ?_, fun silent => ?_⟩
  · have stopped := stays toldToTurn ⟨480, 640, 60, .deg90⟩
      [(1, .clientEvent (.resetRequested 0 (.decodeFatal .needReset)))] [] _ _ Nat.zero_lt_one
      rfl rfl rfl
    cases stopped
  · have silence := silent toldToTurn ⟨480, 640, 60, .deg90⟩ afterTurn [] _ _ Nat.zero_lt_one
      rfl rfl rfl rfl
    have one : (1 : Nat) = 0 := silence
    cases one

end Generation

end Screencast
