import SampleProfile.Session
import SampleProfile.Workspace.Disk

/-!
# Steps of a session on a disk

A step of a session on a disk either fails or answers.  `Answers` says how a step that answers
changes the state and the disk, and each way to put steps together has its rule.
-/

namespace SampleProfile

theorem SourceKind.parse_eq_ok_iff {token : String} {kind : SourceKind} :
    SourceKind.parse token = .ok kind ↔ kind.token = token := by
  constructor
  · intro parsed
    rw [SourceKind.parse] at parsed
    cases found : SourceKind.ofToken? token with
    | none =>
        rw [found] at parsed
        cases parsed
    | some other =>
        rw [found] at parsed
        cases parsed
        simpa using List.find?_some found
  · rintro rfl
    cases kind <;> rfl

namespace Session

/-- A step over a state and a disk succeeds with an answer and leaves both as they are afterwards.
-/
def Answers {State Answer : Type} (step : ExceptT SessionFault (StateT State DiskM) Answer)
    (before : State × Disk) (answer : Answer) (after : State × Disk) : Prop :=
  (step.run.run before.1).run before.2 = ((.ok answer, after.1), after.2)

section Answers

variable {State Answer Next : Type} {before after : State × Disk} {answer : Answer}

/-- What follows a step goes on with its result, or ends with its fault. -/
theorem run_bind_eq {first : ExceptT SessionFault (StateT State DiskM) Answer}
    {next : Answer → ExceptT SessionFault (StateT State DiskM) Next} {start state : State}
    {disk between : Disk} {result : Except SessionFault Answer}
    (ran : (first.run.run start).run disk = ((result, state), between)) :
    ((first >>= next).run.run start).run disk =
      ((ExceptT.bindCont next result).run state).run between := by
  change ((first.run >>= ExceptT.bindCont next).run start).run disk = _
  rw [StateT.run_bind, StateT.run_bind, ran]
  rfl

theorem run_bind_ok {first : ExceptT SessionFault (StateT State DiskM) Answer}
    {next : Answer → ExceptT SessionFault (StateT State DiskM) Next} {start state : State}
    {disk between : Disk} {value : Answer}
    (ran : (first.run.run start).run disk = ((.ok value, state), between)) :
    ((first >>= next).run.run start).run disk = ((next value).run.run state).run between :=
  run_bind_eq ran

theorem run_bind_error {first : ExceptT SessionFault (StateT State DiskM) Answer}
    {next : Answer → ExceptT SessionFault (StateT State DiskM) Next} {start state : State}
    {disk between : Disk} {fault : SessionFault}
    (ran : (first.run.run start).run disk = ((.error fault, state), between)) :
    ((first >>= next).run.run start).run disk = ((.error fault, state), between) :=
  run_bind_eq ran

@[simp]
theorem answers_bind {first : ExceptT SessionFault (StateT State DiskM) Answer}
    {next : Answer → ExceptT SessionFault (StateT State DiskM) Next} {last : Next} :
    Answers (first >>= next) before last after ↔
      ∃ answer between, Answers first before answer between ∧
        Answers (next answer) between last after := by
  rcases ran : (first.run.run before.1).run before.2 with ⟨⟨result, state⟩, disk⟩
  constructor
  · intro answered
    rw [Answers, run_bind_eq ran] at answered
    cases result with
    | error fault => cases answered
    | ok value => exact ⟨value, (state, disk), ran, answered⟩
  · rintro ⟨value, ⟨_, _⟩, answered, rest⟩
    rw [Answers, ran] at answered
    cases answered
    rw [Answers, run_bind_eq ran]
    exact rest

@[simp]
theorem answers_get {state : State} :
    Answers get before state after ↔ before.1 = state ∧ before = after := by
  obtain ⟨start, disk⟩ := before
  obtain ⟨final, later⟩ := after
  change ((Except.ok start, start), disk) = ((Except.ok state, final), later) ↔ _
  simp [and_assoc]

@[simp]
theorem answers_set {state : State} {answer : PUnit} :
    Answers (set state) before answer after ↔ (state, before.2) = after := by
  obtain ⟨start, disk⟩ := before
  obtain ⟨final, later⟩ := after
  change ((Except.ok ⟨⟩, state), disk) = ((Except.ok answer, final), later) ↔ _
  simp

@[simp]
theorem answers_pure {value : Answer} :
    Answers (pure value) before answer after ↔ value = answer ∧ before = after := by
  obtain ⟨start, disk⟩ := before
  obtain ⟨final, later⟩ := after
  change ((Except.ok value, start), disk) = ((Except.ok answer, final), later) ↔ _
  simp [and_assoc]

@[simp]
theorem not_answers_throw {fault : SessionFault} :
    ¬ Answers (throw fault) before answer after := by
  intro answered
  cases answered

@[simp]
theorem answers_ofExcept {result : Except SessionFault Answer} :
    Answers (ofExcept result) before answer after ↔ result = .ok answer ∧ before = after := by
  cases result <;> simp [ofExcept]

@[simp]
theorem answers_liftM {action : DiskM Answer} :
    Answers (liftM action) before answer after ↔
      action.run before.2 = (answer, after.2) ∧ before.1 = after.1 := by
  obtain ⟨state, start⟩ := before
  obtain ⟨final, later⟩ := after
  rcases ran : action.run start with ⟨value, disk⟩
  have unfolded : ((liftM action : ExceptT SessionFault (StateT State DiskM) Answer).run.run
      state).run start = ((.ok value, state), disk) := by
    change (fun result => ((Except.ok result.1, state), result.2)) (action.run start) = _
    rw [ran]
  rw [Answers, unfolded]
  constructor
  · intro answered
    cases answered
    exact ⟨rfl, rfl⟩
  · rintro ⟨answered, same⟩
    cases answered
    exact congrArg (fun state => ((_, state), _)) same

end Answers

/-! ## Reading and attributing -/

variable {session : Session} {disk later : Disk}

/-- A reading step holds what it reads, and changes nothing else of the session. -/
theorem answers_read {input : String} {kind : SourceKind} {after : Session} :
    Answers (read input kind) (session, disk) () (after, later) ↔
      ∃ samples, (session.samplesOf input kind : DiskM _).run disk = (.ok samples, later) ∧
        after = { session with held := some samples } := by
  simp only [read, answers_bind, answers_get, answers_liftM]
  constructor
  · rintro ⟨_, _, ⟨rfl, rfl⟩, result, between, ⟨ran, same⟩, answered⟩
    cases result with
    | error fault => exact absurd answered not_answers_throw
    | ok samples =>
        obtain ⟨⟩ := answers_set.mp answered
        exact ⟨samples, ran, rfl⟩
  · rintro ⟨samples, ran, rfl⟩
    exact ⟨_, _, ⟨rfl, rfl⟩, .ok samples, (session, later), ⟨ran, rfl⟩, answers_set.mpr rfl⟩

theorem filled_run_iff {Answer : Type} {map final : ProfileMap}
    {step : ExceptT SessionFault (StateT ProfileMap DiskM) Answer} :
    (filled map step).run disk = (.ok final, later) ↔
      ∃ answer, Answers step (map, disk) answer (final, later) := by
  rcases stepped : (step.run.run map).run disk with ⟨⟨result, state⟩, last⟩
  have unfolded : (filled map step).run disk = (result.map fun _ => state, last) := by
    rw [filled, StateT.run_bind, stepped]
    rfl
  rw [unfolded]
  simp only [Answers, stepped]
  constructor
  · intro ran
    cases result with
    | error fault => cases ran
    | ok answer =>
        cases ran
        exact ⟨answer, rfl⟩
  · rintro ⟨answer, answered⟩
    cases answered
    rfl

/-- An attribution step adds the samples held, with the stacks that the binary answers for the
sampled functions. -/
theorem answers_attributeSamples {map final : ProfileMap} {outcome : Attribution.Outcome} :
    Answers session.attributeSamples (map, disk) outcome (final, later) ↔
      ∃ samples resolve, session.held = some samples ∧
        (session.requireResolver
            (.within (map.functions.sampledRanges samples.sampledAddresses)) : DiskM _).run disk =
          (.ok resolve, later) ∧
        (final, outcome) = Attribution.addSamples samples resolve map := by
  simp only [attributeSamples, answers_bind, answers_get]
  constructor
  · rintro ⟨_, _, ⟨rfl, rfl⟩, answered⟩
    cases held : session.held with
    | none =>
        rw [held] at answered
        exact absurd answered not_answers_throw
    | some samples =>
        simp only [held, answers_bind, answers_liftM] at answered
        obtain ⟨result, between, ⟨ran, same⟩, answered⟩ := answered
        cases result with
        | error fault => exact absurd answered not_answers_throw
        | ok resolve =>
            simp only [answers_bind, answers_set, answers_pure] at answered
            obtain ⟨_, _, rfl, rfl, stored⟩ := answered
            cases stored
            exact ⟨samples, resolve, rfl, ran, rfl⟩
  · rintro ⟨samples, resolve, held, ran, added⟩
    refine ⟨_, _, ⟨rfl, rfl⟩, ?_⟩
    simp only [held, answers_bind, answers_liftM]
    refine ⟨.ok resolve, (map, later), ⟨ran, rfl⟩, ?_⟩
    simp only [answers_bind, answers_set, answers_pure, ← added]
    exact ⟨⟨⟩, (final, later), rfl, trivial, rfl⟩

theorem requireResolver_run_iff {scope : Scope} {resolve : UInt64 → Stack} :
    (session.requireResolver scope : DiskM _).run disk = (.ok resolve, later) ↔
      ∃ binary, session.binary = some binary ∧
        (binary.resolver scope : DiskM _).run disk = (.ok resolve, later) := by
  cases bound : session.binary with
  | none =>
      simp only [requireResolver, requireBinary, bound]
      constructor
      · intro ran
        cases ran
      · rintro ⟨binary, absent, _⟩
        cases absent
  | some binary =>
      rcases asked : (binary.resolver scope : DiskM _).run disk with ⟨result, last⟩
      have unfolded : (session.requireResolver scope : DiskM _).run disk =
          (result.mapError (.resolverUnavailable binary.path), last) := by
        simp only [requireResolver, requireBinary, bound, StateT.run_bind, asked]
        rfl
      rw [unfolded]
      constructor
      · intro ran
        cases result with
        | error reasons => cases ran
        | ok found =>
            cases ran
            exact ⟨binary, rfl, asked⟩
      · rintro ⟨_, ⟨⟩, ran⟩
        rw [asked] at ran
        cases ran
        rfl

/-! ## Making a profile -/

variable {after : Session} {map : ProfileMap}

/-- The empty profile of a binary under the options of the session. -/
def blankMap (session : Session) (binary : Binary) : ProfileMap :=
  { ProfileMap.ofSymbols binary.symbols with
    threshold := session.options.threshold
    markers := session.options.markers }

theorem emptyMap_eq_ok_iff {empty : ProfileMap} :
    session.emptyMap = .ok empty ↔
      ∃ binary, session.binary = some binary ∧ empty = session.blankMap binary := by
  rw [emptyMap, requireBinary]
  cases session.binary with
  | none => simp [Except.map]
  | some binary => simp [Except.map, blankMap, eq_comm]

/-- With a source of samples, building is reading followed by attribution to an empty profile. -/
theorem answers_build_iff_read {input token : String} {kind : SourceKind}
    (parsed : SourceKind.parse token = .ok kind) (sampled : kind ≠ .prefetch) :
    Answers (build input token) (session, disk) map (after, later) ↔
      ∃ empty, session.emptyMap = .ok empty ∧ ∃ between,
        Answers (read input kind) (session, disk) () (after, between) ∧
          (filled empty after.attributeSamples : DiskM _).run between = (.ok map, later) := by
  simp only [build, parsed, answers_bind, answers_get, answers_ofExcept]
  constructor
  · rintro ⟨_, _, ⟨⟨⟩, rfl⟩, _, _, ⟨rfl, rfl⟩, empty, _, ⟨bound, rfl⟩, answered⟩
    refine ⟨empty, bound, ?_⟩
    cases kind with
    | prefetch => exact absurd rfl sampled
    | text | perf =>
        simp only [answers_bind, answers_get, answers_ofExcept, answers_liftM] at answered
        obtain ⟨_, ⟨_, between⟩, reading, _, _, ⟨rfl, rfl⟩, _, _, ⟨ran, rfl⟩, rfl, same⟩ :=
          answered
        cases same
        exact ⟨between, reading, ran⟩
  · rintro ⟨empty, bound, between, reading, ran⟩
    refine ⟨kind, _, ⟨rfl, rfl⟩, _, _, ⟨rfl, rfl⟩, empty, _, ⟨bound, rfl⟩, ?_⟩
    cases kind with
    | prefetch => exact absurd rfl sampled
    | text | perf =>
        simp only [answers_bind, answers_get, answers_ofExcept, answers_liftM]
        exact ⟨(), (after, between), reading, after, _, ⟨rfl, rfl⟩, .ok map, (after, later),
          ⟨ran, rfl⟩, rfl, rfl⟩

/-- From samples a profile is made in three steps: the file is read, the stacks are asked for, and
the samples are added to an empty profile. -/
theorem answers_build_iff {input token : String} {kind : SourceKind}
    (parsed : SourceKind.parse token = .ok kind) (sampled : kind ≠ .prefetch) :
    Answers (build input token) (session, disk) map (after, later) ↔
      ∃ empty samples between resolve, session.emptyMap = .ok empty ∧
        (session.samplesOf input kind : DiskM _).run disk = (.ok samples, between) ∧
        after = { session with held := some samples } ∧
        (after.requireResolver
            (.within (empty.functions.sampledRanges samples.sampledAddresses)) : DiskM _).run
          between = (.ok resolve, later) ∧
        map = (Attribution.addSamples samples resolve empty).1 := by
  rw [answers_build_iff_read parsed sampled]
  simp only [answers_read, filled_run_iff, answers_attributeSamples]
  constructor
  · rintro ⟨empty, bound, between, ⟨samples, ran, rfl⟩, _, _, resolve, ⟨⟩, asked, added⟩
    exact ⟨empty, samples, between, resolve, bound, ran, rfl, asked, congrArg Prod.fst added⟩
  · rintro ⟨empty, samples, between, resolve, bound, ran, rfl, asked, rfl⟩
    exact ⟨empty, bound, between, ⟨samples, ran, rfl⟩, _, samples, resolve, rfl, asked, rfl⟩

/-- Making a profile does not change the options. -/
theorem options_of_build {input token : String}
    (built : Answers (build input token) (session, disk) map (after, later)) :
    after.options = session.options := by
  have steps := built
  simp only [build, answers_bind, answers_ofExcept, answers_get] at steps
  obtain ⟨kind, _, ⟨parsed, rfl⟩, _, _, ⟨rfl, rfl⟩, empty, _, ⟨bound, rfl⟩, answered⟩ := steps
  by_cases sampled : kind = .prefetch
  · subst sampled
    simp only [answers_bind, answers_liftM, answers_ofExcept] at answered
    obtain ⟨_, _, ⟨_, same⟩, _, rfl⟩ := answered
    rw [same]
  · obtain ⟨_, samples, _, _, _, _, rfl, _⟩ := (answers_build_iff parsed sampled).mp built
    rfl

/-- A profile made from samples is the empty profile of the binary with the samples of a file added
to it. -/
theorem exists_addSamples_of_build {input token : String} {binary : Binary}
    (sampled : token ≠ SourceKind.prefetch.token) (bound : session.binary = some binary)
    (built : Answers (build input token) (session, disk) map (after, later)) :
    ∃ samples resolve start, after.held = some samples ∧
      (binary.resolver
          (.within ((session.blankMap binary).functions.sampledRanges samples.sampledAddresses)) :
            DiskM _).run start = (.ok resolve, later) ∧
      map = (Attribution.addSamples samples resolve (session.blankMap binary)).1 := by
  obtain ⟨kind, parsed⟩ : ∃ kind, SourceKind.parse token = .ok kind := by
    simp only [build, answers_bind, answers_ofExcept] at built
    obtain ⟨kind, _, ⟨parsed, _⟩, _⟩ := built
    exact ⟨kind, parsed⟩
  have fromSamples : kind ≠ .prefetch := by
    rintro rfl
    exact sampled (SourceKind.parse_eq_ok_iff.mp parsed).symm
  obtain ⟨empty, samples, start, resolve, made, _, rfl, asked, rfl⟩ :=
    (answers_build_iff parsed fromSamples).mp built
  obtain ⟨_, sameBinary, rfl⟩ := emptyMap_eq_ok_iff.mp made
  cases sameBinary.symm.trans bound
  obtain ⟨_, sameBinary, asked⟩ := requireResolver_run_iff.mp asked
  cases sameBinary.symm.trans bound
  exact ⟨samples, resolve, start, rfl, asked, rfl⟩

end Session

end SampleProfile
