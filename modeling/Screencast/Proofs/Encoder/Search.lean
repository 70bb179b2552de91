import Screencast.Proofs.Encoder.Selection

/-! # The search for an encoder, attempt by attempt

The host's search is two nested loops that are left at the first success, and then a third loop. It
is told here for factories whose answers may change with every attempt
(`Screencast.ChangingFactory.select`), so that asking twice for the same is not the same as asking
once. Whatever the factory answers, the attempts are those of a plan written down beforehand, up to
the first that succeeds (`Screencast.ChangingFactory.attempts_follow_plan`), and for a factory that
does not change, this search is `Screencast.Selection.run`.
-/

namespace Screencast

/-- What a factory is asked for: an encoder on a unit of the hardware, or one in software. -/
inductive CreateCall
  | hard (backend : Backend) (params : EncoderParams)
  | soft (params : EncoderParams)
deriving DecidableEq, Repr

namespace CreateCall

/-- The parameters the call asks for. -/
def params : CreateCall → EncoderParams
  | hard _ params | soft params => params

/-- The ability the call would provide. -/
def ability : CreateCall → Ability
  | hard backend params => ⟨params.codec, backend⟩
  | soft params => ⟨params.codec, .software⟩

end CreateCall

/-- The call of a factory that an attempt with a candidate is. -/
def Candidate.call (c : Candidate) : CreateCall :=
  if c.backend.isHardware then .hard c.backend c.params else .soft c.params

/-- A factory that may answer differently after every attempt; `past` holds the attempts before. -/
structure ChangingFactory (ε : Type) where
  backends : List Backend
  createHard (past : List CreateCall) (backend : Backend) (params : EncoderParams) : Option ε
  createSoft (past : List CreateCall) (params : EncoderParams) : Option ε

/-- A factory that pays no attention to the attempts before. -/
def EncoderFactory.unchanging {ε : Type} (factory : EncoderFactory ε) : ChangingFactory ε where
  backends := factory.backends
  createHard _ := factory.createHard
  createSoft _ := factory.createSoft

namespace ChangingFactory

variable {ε : Type} (factory : ChangingFactory ε)

/-- Tries one set of parameters on one unit of the hardware after the other. -/
def searchBackends (params : EncoderParams) :
    List Backend → List CreateCall → List CreateCall × Option (SelectedEncoder ε)
  | [], past => (past, none)
  | backend :: rest, past =>
    if backend.isHardware then
      match factory.createHard past backend params with
      | some encoder =>
        (past ++ [.hard backend params], some ⟨encoder, ⟨params.codec, backend⟩, params.fps⟩)
      | none => searchBackends params rest (past ++ [.hard backend params])
    else searchBackends params rest past

/-- Tries one codec after the other on the hardware. -/
def searchHardware (base : EncoderParams) :
    List Codec → List CreateCall → List CreateCall × Option (SelectedEncoder ε)
  | [], past => (past, none)
  | codec :: rest, past =>
    match factory.searchBackends { base with codec } factory.backends past with
    | (past, some selected) => (past, some selected)
    | (past, none) => searchHardware base rest past

/-- Tries one codec after the other in software. -/
def searchSoftware (base : EncoderParams) (fps : Nat) :
    List Codec → List CreateCall → List CreateCall × Option (SelectedEncoder ε)
  | [], past => (past, none)
  | codec :: rest, past =>
    let params := { base with codec, fps }
    match factory.createSoft past params with
    | some encoder => (past ++ [.soft params], some ⟨encoder, ⟨codec, .software⟩, fps⟩)
    | none => searchSoftware base fps rest (past ++ [.soft params])

/-- The attempts made, and what they led to. -/
def select (preferences : List Codec) (base : EncoderParams) (ceiling : Nat) :
    List CreateCall × Except StreamError (SelectedEncoder ε) :=
  match factory.searchHardware base preferences [] with
  | (past, some selected) => (past, .ok selected)
  | (past, none) =>
    match factory.searchSoftware base (min base.fps (max 1 ceiling)) preferences past with
    | (past, some selected) => (past, .ok selected)
    | (past, none) => (past, .error (.encoderCreateFailure
        ("no hardware or software encoder for " ++ Codec.listLabel preferences)))

/-- The encoder that comes of an attempt. -/
def answer (past : List CreateCall) : CreateCall → Option ε
  | .hard backend params => factory.createHard past backend params
  | .soft params => factory.createSoft past params

/-- Makes planned attempts until one succeeds. -/
def tryPlan : List CreateCall → List CreateCall → List CreateCall × Option (SelectedEncoder ε)
  | [], past => (past, none)
  | c :: plan, past =>
    match factory.answer past c with
    | some encoder => (past ++ [c], some ⟨encoder, c.ability, c.params.fps⟩)
    | none => tryPlan plan (past ++ [c])

/-- None of some attempts, made one after the other, succeeds. -/
def Refuses (past calls : List CreateCall) : Prop :=
  ∀ before c after, calls = before ++ c :: after → factory.answer (past ++ before) c = none

end ChangingFactory

/-- For each preferred codec every unit of the hardware in the host's order, and then each preferred
codec in software, at a frame rate below the ceiling. -/
def createPlan (backends : List Backend) (preferences : List Codec) (base : EncoderParams)
    (ceiling : Nat) : List CreateCall :=
  (preferences.flatMap fun codec =>
      (backends.filter Backend.isHardware).map fun backend => .hard backend { base with codec }) ++
    preferences.map fun codec => .soft { base with codec, fps := min base.fps (max 1 ceiling) }

namespace ChangingFactory

variable {ε : Type} {factory : ChangingFactory ε} {past : List CreateCall}

private theorem tryPlan_append (first second : List CreateCall) :
    factory.tryPlan (first ++ second) past =
      match factory.tryPlan first past with
      | (past, some selected) => (past, some selected)
      | (past, none) => factory.tryPlan second past := by
  induction first generalizing past with
  | nil => rfl
  | cons c first ih =>
      simp only [List.cons_append, tryPlan]
      cases factory.answer past c with
      | some selected => rfl
      | none => exact ih

/-- Trying the backends of one codec is a plan of its hardware calls. -/
theorem searchBackends_eq (params : EncoderParams) (backends : List Backend) :
    factory.searchBackends params backends past =
      factory.tryPlan ((backends.filter Backend.isHardware).map (.hard · params)) past := by
  induction backends generalizing past with
  | nil => rfl
  | cons backend rest ih =>
      by_cases hard : backend.isHardware = true
      · rw [searchBackends, if_pos hard, List.filter_cons_of_pos hard, List.map_cons, tryPlan]
        simp only [answer]
        cases factory.createHard past backend params with
        | some encoder => rfl
        | none => exact ih
      · rw [searchBackends, if_neg hard, List.filter_cons_of_neg hard]
        exact ih

/-- The search in hardware goes through the codecs and for each through the backends. -/
theorem searchHardware_eq (base : EncoderParams) (preferences : List Codec) :
    factory.searchHardware base preferences past =
      factory.tryPlan (preferences.flatMap fun codec =>
        (factory.backends.filter Backend.isHardware).map (.hard · { base with codec })) past := by
  induction preferences generalizing past with
  | nil => rfl
  | cons codec rest ih =>
      rw [List.flatMap_cons, tryPlan_append, searchHardware, searchBackends_eq]
      rcases factory.tryPlan _ past with ⟨past, _ | selected⟩
      · exact ih
      · rfl

/-- The search in software asks once for each codec. -/
theorem searchSoftware_eq (base : EncoderParams) (fps : Nat) (preferences : List Codec) :
    factory.searchSoftware base fps preferences past =
      factory.tryPlan (preferences.map fun codec => .soft { base with codec, fps }) past := by
  induction preferences generalizing past with
  | nil => rfl
  | cons codec rest ih =>
      simp only [searchSoftware, List.map_cons, tryPlan, answer]
      cases factory.createSoft past { base with codec, fps } with
      | some encoder => rfl
      | none => exact ih

/-- The loops make the attempts of the plan until one succeeds. -/
theorem select_eq (preferences : List Codec) (base : EncoderParams) (ceiling : Nat) :
    factory.select preferences base ceiling =
      match factory.tryPlan (createPlan factory.backends preferences base ceiling) [] with
      | (made, some selected) => (made, .ok selected)
      | (made, none) => (made, .error (.encoderCreateFailure
          ("no hardware or software encoder for " ++ Codec.listLabel preferences))) := by
  rw [createPlan, tryPlan_append, select, searchHardware_eq]
  rcases factory.tryPlan _ [] with ⟨past, _ | selected⟩
  · simp only [searchSoftware_eq]
  · rfl

private theorem refuses_nil : factory.Refuses past [] := by
  intro before c after split
  exact absurd split.symm (List.append_ne_nil_of_right_ne_nil before (List.cons_ne_nil c after))

private theorem refuses_cons_iff {c : CreateCall} {calls : List CreateCall} :
    factory.Refuses past (c :: calls) ↔
      factory.answer past c = none ∧ factory.Refuses (past ++ [c]) calls := by
  constructor
  · intro refused
    refine ⟨?_, ?_⟩
    · have first := refused [] c calls rfl
      rwa [List.append_nil] at first
    · intro before c' after split
      rw [List.append_assoc]
      exact refused (c :: before) c' after (congrArg (c :: ·) split)
  · rintro ⟨first, later⟩ before c' after split
    cases before with
    | nil =>
        obtain ⟨rfl, -⟩ := List.cons.inj split
        rwa [List.append_nil]
    | cons head before =>
        obtain ⟨rfl, rest⟩ := List.cons.inj split
        have refused := later before c' after rest
        rwa [List.append_assoc] at refused

/-- An attempt of the plan is the first that succeeds, or none does. -/
theorem tryPlan_cases (plan past : List CreateCall) :
    (∃ failed c rest encoder, plan = failed ++ c :: rest ∧ factory.Refuses past failed ∧
        factory.answer (past ++ failed) c = some encoder ∧
        factory.tryPlan plan past =
          (past ++ failed ++ [c], some ⟨encoder, c.ability, c.params.fps⟩)) ∨
      factory.Refuses past plan ∧ factory.tryPlan plan past = (past ++ plan, none) := by
  induction plan generalizing past with
  | nil => exact .inr ⟨refuses_nil, by rw [List.append_nil]; rfl⟩
  | cons c plan ih =>
      rw [tryPlan]
      cases came : factory.answer past c with
      | some encoder =>
          refine .inl ⟨[], c, plan, encoder, rfl, refuses_nil, ?_, ?_⟩
          · rwa [List.append_nil]
          · rw [List.append_nil]
      | none =>
          rcases ih (past ++ [c]) with
            ⟨failed, c', rest, encoder, split, refused, came', tried⟩ | ⟨refused, tried⟩
          · refine .inl ⟨c :: failed, c', rest, encoder, congrArg (c :: ·) split,
              refuses_cons_iff.mpr ⟨came, refused⟩, ?_, ?_⟩
            · rwa [List.append_assoc] at came'
            · rwa [List.append_assoc past] at tried
          · refine .inr ⟨refuses_cons_iff.mpr ⟨came, refused⟩, ?_⟩
            rwa [List.append_assoc] at tried

end ChangingFactory

namespace Selection

open ChangingFactory

variable {ε : Type}

private theorem params_call (c : Candidate) : c.call.params = c.params := by
  unfold Candidate.call
  split
  · rfl
  · rfl

private theorem ability_call (c : Candidate) : c.call.ability = c.ability := by
  obtain ⟨backend, params⟩ := c
  cases backend with
  | nvidia | amd | intel | software => rfl

private theorem answer_call (factory : EncoderFactory ε) (past : List CreateCall) (c : Candidate) :
    factory.unchanging.answer past c.call = factory.create c := by
  unfold Candidate.call EncoderFactory.create
  split
  · rfl
  · rfl

/-- With a factory that does not change, candidates are tried as the calls they stand for. -/
theorem tryPlan_map_call (factory : EncoderFactory ε) (candidates : List Candidate)
    (past : List CreateCall) :
    factory.unchanging.tryPlan (candidates.map Candidate.call) past =
      (past ++ (tryAll factory.create candidates).1.map (·.candidate.call),
        (tryAll factory.create candidates).2.map fun (c, encoder) =>
          ⟨encoder, c.ability, c.params.fps⟩) := by
  induction candidates generalizing past with
  | nil => exact congrArg (·, none) (List.append_nil past).symm
  | cons c rest ih =>
      rw [List.map_cons, tryPlan, answer_call, tryAll]
      cases factory.create c with
      | some encoder =>
          simp only [ability_call, params_call, List.map_cons, List.map_nil, Option.map_some]
      | none =>
          simp only [ih, List.append_assoc, List.singleton_append, List.map_cons]

/-- An attempt is reported as it ended. -/
theorem succeeded_of_tryAll {create : Candidate → Option ε} {candidates : List Candidate} :
    ∀ a ∈ (tryAll create candidates).1, a.succeeded = (create a.candidate).isSome := by
  induction candidates with
  | nil =>
      intro a among
      cases among
  | cons c rest ih =>
      rw [tryAll]
      cases came : create c with
      | some encoder =>
          intro a among
          rw [List.mem_singleton.mp among, came]
          rfl
      | none =>
          rw [List.forall_mem_cons, came]
          exact ⟨rfl, ih⟩

/-- The candidates stand for the calls of the plan. -/
theorem map_call_candidates (backends : List Backend) (preferences : List Codec)
    (base : EncoderParams) (ceiling : Nat) :
    (hardware backends preferences base ++ software preferences base ceiling).map Candidate.call =
      createPlan backends preferences base ceiling := by
  rw [createPlan, List.map_append, hardware, software, List.map_flatMap, List.map_map]
  congr 1
  · refine congrArg preferences.flatMap (funext fun codec => ?_)
    rw [List.map_map]
    apply List.map_congr_left
    intro backend among
    exact if_pos (List.mem_filter.mp among).2
  · apply List.map_congr_left
    intro codec _
    rw [Nat.max_comm]
    rfl

/-- The host's search is the one for a factory that does not change. -/
theorem run_eq_select (factory : EncoderFactory ε) (preferences : List Codec)
    (base : EncoderParams) (ceiling : Nat) :
    ((run factory preferences base ceiling).1.map (·.candidate.call),
        (run factory preferences base ceiling).2) =
      factory.unchanging.select preferences base ceiling := by
  have backends : factory.unchanging.backends = factory.backends := rfl
  rw [select_eq, backends, ← map_call_candidates, tryPlan_map_call, run]
  rcases tryAll factory.create _ with ⟨attempts, _ | ⟨c, encoder⟩⟩
  · rfl
  · rfl

end Selection

namespace ChangingFactory

variable {ε : Type} {factory : ChangingFactory ε}

/-- Every call of the plan asks for the wanted size and bitrate; codec and frame rate are its
own. -/
theorem mem_createPlan {backends : List Backend} {preferences : List Codec} {base : EncoderParams}
    {ceiling : Nat} {c : CreateCall} (planned : c ∈ createPlan backends preferences base ceiling) :
    c.params = { base with codec := c.params.codec, fps := c.params.fps } ∧
      ∀ backend params, c = .hard backend params → backend ≠ .software := by
  rcases List.mem_append.mp planned with hard | soft
  · obtain ⟨codec, -, made⟩ := List.mem_flatMap.mp hard
    obtain ⟨unit, among, rfl⟩ := List.mem_map.mp made
    refine ⟨rfl, ?_⟩
    intro backend params same
    obtain ⟨rfl, -⟩ := CreateCall.hard.inj same
    exact bne_iff_ne.mp (List.mem_filter.mp among).2
  · obtain ⟨codec, -, rfl⟩ := List.mem_map.mp soft
    refine ⟨rfl, ?_⟩
    intro backend params same
    cases same

/-- **The search makes the attempts of the plan, up to the first that succeeds.** Whatever the
factory answers, and however its answers change from one attempt to the next, either an attempt of
the plan succeeds after those before it have failed, it is the last one made, and its encoder is
returned with its codec, its backend and its frame rate; or the whole plan fails, and only then the
search does. No attempt differs from what was asked for in more than codec and frame rate, and none
on the hardware names software as its unit. For a factory that does not change, this is the host's
search. -/
theorem attempts_follow_plan (factory : ChangingFactory ε) (preferences : List Codec)
    (base : EncoderParams) (ceiling : Nat) :
    let plan := createPlan factory.backends preferences base ceiling
    let made := (factory.select preferences base ceiling).1
    let result := (factory.select preferences base ceiling).2
    ((∃ failed c rest encoder, plan = failed ++ c :: rest ∧ factory.Refuses [] failed ∧
        factory.answer failed c = some encoder ∧ made = failed ++ [c] ∧
        result = .ok ⟨encoder, c.ability, c.params.fps⟩) ∨
      factory.Refuses [] plan ∧ made = plan ∧
        ∃ text, result = .error (.encoderCreateFailure text)) ∧
    ((∃ text, result = .error (.encoderCreateFailure text)) ↔ factory.Refuses [] plan) ∧
    (∀ c ∈ made, c.params = { base with codec := c.params.codec, fps := c.params.fps } ∧
      ∀ backend params, c = .hard backend params → backend ≠ .software) ∧
    ∀ steady : EncoderFactory ε, factory = steady.unchanging →
      let attempts := (Selection.run steady preferences base ceiling).1
      attempts.map (·.candidate.call) = made ∧
        (∀ a ∈ attempts, a.succeeded = (steady.create a.candidate).isSome) ∧
        selectEncoder steady preferences base ceiling = result := by
  intro plan made result
  have selected := factory.select_eq preferences base ceiling
  have steady : ∀ steady : EncoderFactory ε, factory = steady.unchanging →
      let attempts := (Selection.run steady preferences base ceiling).1
      attempts.map (·.candidate.call) = made ∧
        (∀ a ∈ attempts, a.succeeded = (steady.create a.candidate).isSome) ∧
        selectEncoder steady preferences base ceiling = result := by
    rintro steady rfl
    have same := Selection.run_eq_select steady preferences base ceiling
    exact ⟨congrArg Prod.fst same, Selection.succeeded_of_tryAll, congrArg Prod.snd same⟩
  -- The plan is gone through up to its first success, or to its end.
  rcases factory.tryPlan_cases plan [] with
    ⟨failed, c, rest, encoder, split, refused, came, tried⟩ | ⟨refused, tried⟩
  · rw [tried] at selected
    have ended : made = failed ++ [c] := congrArg Prod.fst selected
    have found : result = .ok ⟨encoder, c.ability, c.params.fps⟩ := congrArg Prod.snd selected
    refine ⟨.inl ⟨failed, c, rest, encoder, split, refused, came, ended, found⟩, ?_, ?_, steady⟩
    · refine iff_of_false ?_ ?_
      · rintro ⟨text, failure⟩
        rw [found] at failure
        cases failure
      · intro all
        have refusal := all failed c rest split
        rw [came] at refusal
        cases refusal
    · intro c' among
      have planned : c' ∈ plan := by
        rw [split, List.append_cons]
        exact List.mem_append_left rest (ended ▸ among)
      exact mem_createPlan planned
  · rw [tried] at selected
    have ended : made = plan := congrArg Prod.fst selected
    have failure : result = .error (.encoderCreateFailure
        ("no hardware or software encoder for " ++ Codec.listLabel preferences)) :=
      congrArg Prod.snd selected
    refine ⟨.inr ⟨refused, ended, _, failure⟩, iff_of_true ⟨_, failure⟩ refused, ?_, steady⟩
    intro c among
    exact mem_createPlan (ended ▸ among)

/-- A unit that is listed twice, and comes up when it is asked for the second time. -/
example :
    let factory : ChangingFactory Unit :=
      ⟨[.amd, .software, .amd], fun past _ _ => past.head?.map fun _ => (), fun _ _ => none⟩
    let base : EncoderParams := ⟨.zstd, 640, 360, 60, 5000000, .none⟩
    let params := { base with codec := .h264 }
    (factory.select [.h264, .h265] base 30).1 = [.hard .amd params, .hard .amd params] := rfl

end ChangingFactory

end Screencast
