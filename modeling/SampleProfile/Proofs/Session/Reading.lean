import SampleProfile.Proofs.Samples.Source
import SampleProfile.Proofs.Session.Steps
import SampleProfile.Proofs.Workspace.Outcome

/-!
# Steps of a session that read

What is read from a file depends on its kind and its contents.  All steps up to a finished profile
read files and leave them as they are (`stepReads_build`).
-/

namespace SampleProfile.Session

variable {session : Session} {disk between later : Disk}

/-! ## Steps that read -/

open Disk (OnlyReads onlyReads_pure onlyReads_read onlyReads_readText onlyReads_note SameFiles)

/-- A step leaves all files as they are, from whatever state it starts. -/
def StepReads {State Answer : Type} (step : ExceptT SessionFault (StateT State DiskM) Answer) :
    Prop :=
  ∀ state, OnlyReads (step.run.run state)

section StepReads

variable {State Answer Next : Type}

theorem StepReads.sameFiles {step : ExceptT SessionFault (StateT State DiskM) Answer}
    {start state : State} {result : Except SessionFault Answer} (reads : StepReads step)
    (ran : (step.run.run start).run disk = ((result, state), later)) : SameFiles disk later :=
  (reads start).sameFiles ran

theorem StepReads.bind {first : ExceptT SessionFault (StateT State DiskM) Answer}
    {next : Answer → ExceptT SessionFault (StateT State DiskM) Next}
    (firstReads : StepReads first) (nextReads : ∀ answer, StepReads (next answer)) :
    StepReads (first >>= next) := by
  intro start disk
  rcases ran : (first.run.run start).run disk with ⟨⟨result, state⟩, between⟩
  have same := firstReads.sameFiles ran
  cases result with
  | error fault =>
      rw [run_bind_error ran]
      exact same
  | ok answer =>
      rw [run_bind_ok ran]
      exact same.trans (nextReads answer state between)

theorem stepReads_get : StepReads (get : ExceptT SessionFault (StateT State DiskM) State) :=
  fun _ disk => .refl disk

theorem stepReads_set (state : State) :
    StepReads (set state : ExceptT SessionFault (StateT State DiskM) PUnit) :=
  fun _ disk => .refl disk

theorem stepReads_pure (answer : Answer) :
    StepReads (pure answer : ExceptT SessionFault (StateT State DiskM) Answer) :=
  fun _ disk => .refl disk

theorem stepReads_throw (fault : SessionFault) :
    StepReads (throw fault : ExceptT SessionFault (StateT State DiskM) Answer) :=
  fun _ disk => .refl disk

theorem stepReads_ofExcept (result : Except SessionFault Answer) :
    StepReads (ofExcept result : ExceptT SessionFault (StateT State DiskM) Answer) := by
  cases result with
  | error fault => exact stepReads_throw fault
  | ok answer => exact stepReads_pure answer

theorem stepReads_liftM {action : DiskM Answer} (reads : OnlyReads action) :
    StepReads (liftM action : ExceptT SessionFault (StateT State DiskM) Answer) :=
  fun _ disk => reads disk

end StepReads

/-! ## What is read from a file -/

/-- What reading a file of one kind answers for the contents of the file. -/
def samplesFrom (session : Session) (input : String) (contents : Except FileFault ByteArray) :
    SourceKind → Except SessionFault Samples
  | .prefetch => .error (.unsupportedSource SourceKind.prefetch.token)
  | .text => (Samples.ofContents contents).mapError (.sampleRead input)
  | .perf =>
      match session.requireBinary with
      | .error fault => .error fault
      | .ok binary =>
          let focus := Focus.resolve binary.path binary.buildId session.options.focus
          (Samples.ofCapture focus binary.segments contents).mapError (.ofSampleFault input)

theorem ok_of_mapError {Fault Other Answer : Type} {result : Except Fault Answer}
    {wrap : Fault → Other} {answer : Answer} (mapped : result.mapError wrap = .ok answer) :
    result = .ok answer := by
  cases result with
  | error fault => cases mapped
  | ok value => rw [Except.ok.inj mapped]

theorem contents_of_samplesFrom {input : String} {contents : Except FileFault ByteArray}
    {kind : SourceKind} {samples : Samples}
    (read : session.samplesFrom input contents kind = .ok samples) :
    ∃ bytes, contents = .ok bytes := by
  cases kind with
  | prefetch => cases read
  | text => exact Samples.contents_of_ofContents (ok_of_mapError read)
  | perf =>
      rw [samplesFrom] at read
      cases bound : session.requireBinary with
      | error fault =>
          rw [bound] at read
          cases read
      | ok binary =>
          rw [bound] at read
          exact Samples.contents_of_ofCapture (ok_of_mapError read)

theorem samplesOf_run_eq (session : Session) (input : String) (kind : SourceKind) (disk : Disk) :
    ∃ now, (session.samplesOf input kind : DiskM _).run disk =
      (session.samplesFrom input (disk.attempted input) kind, { disk with clock := now }) := by
  cases kind with
  | prefetch => exact ⟨disk.clock, rfl⟩
  | text =>
      refine ⟨disk.clock + 1, ?_⟩
      rw [samplesOf, Disk.run_bind (Disk.readTextFile_run_eq disk input), samplesFrom]
      rfl
  | perf =>
      rw [samplesOf, samplesFrom]
      cases session.requireBinary with
      | error fault => exact ⟨disk.clock, rfl⟩
      | ok binary =>
          obtain ⟨now, ran⟩ := Disk.readCapture_run_eq disk input
            (Focus.resolve binary.path binary.buildId session.options.focus) binary.segments
          refine ⟨now, ?_⟩
          dsimp only
          rw [Disk.run_bind ran]
          rfl

/-! ## Making a profile reads -/

theorem onlyReads_samplesOf (session : Session) (input : String) (kind : SourceKind) :
    OnlyReads (session.samplesOf input kind) := by
  intro disk
  obtain ⟨now, ran⟩ := samplesOf_run_eq session input kind disk
  rw [ran]
  exact ⟨rfl, rfl, rfl⟩

theorem stepReads_read (input : String) (kind : SourceKind) : StepReads (read input kind) := by
  refine stepReads_get.bind fun session => ?_
  refine (stepReads_liftM (onlyReads_samplesOf session input kind)).bind fun answer => ?_
  cases answer with
  | error fault => exact stepReads_throw fault
  | ok samples => exact stepReads_set _

theorem onlyReads_readTextFile (path : String) : OnlyReads (Samples.readTextFile path) := by
  intro disk
  rw [Disk.readTextFile_run_eq]
  exact ⟨rfl, rfl, rfl⟩

theorem onlyReads_resolver (binary : Binary) (scope : Scope) :
    OnlyReads (binary.resolver scope) := by
  refine (onlyReads_note _).bind fun _ => ?_
  cases binary.debugInfo with
  | given resolve => exact onlyReads_pure _
  | unavailable reasons => exact onlyReads_pure _
  | inFile =>
      have loaded : OnlyReads (Binary.loadStacks binary.path) := by
        refine (onlyReads_read _).bind fun answer => ?_
        cases answer <;> exact onlyReads_pure _
      refine loaded.bind fun answer => ?_
      cases answer <;> exact onlyReads_pure _

theorem onlyReads_requireResolver (session : Session) (scope : Scope) :
    OnlyReads (session.requireResolver scope) := by
  rw [requireResolver]
  cases session.requireBinary with
  | error fault => exact onlyReads_pure _
  | ok binary => exact (onlyReads_resolver binary scope).bind fun _ => onlyReads_pure _

theorem stepReads_attributeSamples (session : Session) : StepReads session.attributeSamples := by
  refine stepReads_get.bind fun map => ?_
  cases session.held with
  | none => exact stepReads_throw _
  | some samples =>
      refine (stepReads_liftM (onlyReads_requireResolver session _)).bind fun answer => ?_
      cases answer with
      | error fault => exact stepReads_throw fault
      | ok resolve => exact (stepReads_set _).bind fun _ => stepReads_pure _

theorem onlyReads_readHints (input : String) : OnlyReads (readHints input) := by
  refine (onlyReads_readText input).bind fun answer => ?_
  cases answer with
  | error fault => exact onlyReads_pure _
  | ok text =>
      dsimp only
      rcases Hint.readAll text with ⟨hints, bad⟩
      cases bad with
      | none => exact onlyReads_pure _
      | some line => exact (onlyReads_note _).bind fun _ => onlyReads_pure _

theorem stepReads_attachHints (session : Session) (input : String) :
    StepReads (session.attachHints input) := by
  refine stepReads_get.bind fun map => ?_
  refine (stepReads_liftM (onlyReads_requireResolver session _)).bind fun answer => ?_
  cases answer with
  | error fault => exact stepReads_throw fault
  | ok resolve =>
      refine (stepReads_liftM (onlyReads_readHints input)).bind fun answer => ?_
      cases answer with
      | error fault => exact stepReads_throw fault
      | ok hints => exact (stepReads_set _).bind fun _ => stepReads_pure _

theorem onlyReads_filled {Answer : Type} (map : ProfileMap)
    {step : ExceptT SessionFault (StateT ProfileMap DiskM) Answer} (reads : StepReads step) :
    OnlyReads (filled map step) := by
  have ran : OnlyReads (step.run.run map) := reads map
  exact ran.bind fun _ => onlyReads_pure _

theorem stepReads_build (input token : String) : StepReads (build input token) := by
  refine (stepReads_ofExcept _).bind fun kind => ?_
  refine stepReads_get.bind fun session => ?_
  refine (stepReads_ofExcept _).bind fun map => ?_
  have sampled (kind : SourceKind) : StepReads (do
      read input kind
      let session : Session ← get
      MonadExcept.ofExcept (← (filled map session.attributeSamples : DiskM _))) := by
    refine (stepReads_read input kind).bind fun _ => ?_
    refine stepReads_get.bind fun session => ?_
    refine (stepReads_liftM ?_).bind fun _ => stepReads_ofExcept _
    exact onlyReads_filled map (stepReads_attributeSamples session)
  cases kind with
  | prefetch =>
      refine (stepReads_liftM ?_).bind fun _ => stepReads_ofExcept _
      exact onlyReads_filled _ (stepReads_attachHints session input)
  | text => exact sampled .text
  | perf => exact sampled .perf

end SampleProfile.Session
