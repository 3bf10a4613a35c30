import SampleProfile.Proofs.ProfileMap.Consistency
import SampleProfile.Proofs.Session.Configuration

/-!
# Histories of a session

The steps of a history work on a session, a profile and a text file of samples, each step on a disk
of its own: between two steps the files may change in any way.  The samples that a session holds are
those that it read last (`session_after`), and steps that fail are as good as never taken
(`after_succeeding`).
-/

namespace SampleProfile

/-- A step that starts with an action on its state goes on with the answer and the same state. -/
theorem run_get_liftM_bind {Fault State Answer Next : Type} (action : State → DiskM Answer)
    (next : State → Answer → ExceptT Fault (StateT State DiskM) Next) (state : State)
    (disk : Disk) :
    ((do let held ← get; let answer ← liftM (action held); next held answer :
      ExceptT Fault (StateT State DiskM) Next).run.run state).run disk =
        ((next state ((action state).run disk).1).run.run state).run ((action state).run disk).2 :=
  rfl

namespace Session

variable {session : Session} {disk later : Disk}

/-! ## Steps that fail -/

/-- A step leaves the state as it was when it fails. -/
def FailsClean {State Answer : Type} (step : ExceptT SessionFault (StateT State DiskM) Answer) :
    Prop :=
  ∀ ⦃state disk fault after later⦄,
    (step.run.run state).run disk = ((.error fault, after), later) → after = state

section FailsClean

variable {State Answer Next : Type}

theorem failsClean_throw (fault : SessionFault) :
    FailsClean (throw fault : ExceptT SessionFault (StateT State DiskM) Answer) := by
  intro state disk _ after later failed
  cases failed
  rfl

theorem failsClean_set (state : State) :
    FailsClean (set state : ExceptT SessionFault (StateT State DiskM) PUnit) := by
  intro before disk fault after later failed
  cases failed

theorem failsClean_set_pure (state : State) (answer : Answer) :
    FailsClean (do set state; return answer :
      ExceptT SessionFault (StateT State DiskM) Answer) := by
  intro before disk fault after later failed
  cases failed

theorem FailsClean.get_bind {next : State → ExceptT SessionFault (StateT State DiskM) Next}
    (clean : ∀ state, FailsClean (next state)) : FailsClean (get >>= next) := by
  intro state disk fault after later failed
  rw [run_bind_ok (answers_get_state state disk)] at failed
  exact clean state failed

theorem FailsClean.liftM_bind {action : DiskM Answer}
    {next : Answer → ExceptT SessionFault (StateT State DiskM) Next}
    (clean : ∀ answer, FailsClean (next answer)) : FailsClean (liftM action >>= next) := by
  intro state disk fault after later failed
  rcases ran : action.run disk with ⟨answer, between⟩
  have lifted : Answers (liftM action) (state, disk) answer (state, between) :=
    answers_liftM.mpr ⟨ran, rfl⟩
  rw [run_bind_ok lifted] at failed
  exact clean answer failed

end FailsClean

theorem failsClean_read (input : String) (kind : SourceKind) : FailsClean (read input kind) := by
  apply FailsClean.get_bind
  intro session
  apply FailsClean.liftM_bind
  intro answer
  cases answer with
  | error fault => exact failsClean_throw fault
  | ok samples => exact failsClean_set _

theorem failsClean_attributeSamples (session : Session) : FailsClean session.attributeSamples := by
  apply FailsClean.get_bind
  intro map
  cases session.held with
  | none => exact failsClean_throw _
  | some samples =>
      apply FailsClean.liftM_bind
      intro answer
      cases answer with
      | error fault => exact failsClean_throw _
      | ok resolve => exact failsClean_set_pure _ _

theorem failsClean_attachHints (session : Session) (input : String) :
    FailsClean (session.attachHints input) := by
  apply FailsClean.get_bind
  intro map
  apply FailsClean.liftM_bind
  intro answer
  cases answer with
  | error fault => exact failsClean_throw fault
  | ok resolve =>
      apply FailsClean.liftM_bind
      intro answer
      cases answer with
      | error fault => exact failsClean_throw fault
      | ok hints => exact failsClean_set_pure _ _

theorem exists_convert_of_attachHints {map after : ProfileMap} {input : String}
    {outcome : Prefetch.Outcome}
    (answered : Answers (session.attachHints input) (map, disk) outcome (after, later)) :
    ∃ hints resolve, (after, outcome) = Prefetch.convert hints resolve map := by
  simp only [attachHints, answers_bind, answers_get, answers_liftM] at answered
  obtain ⟨_, _, ⟨rfl, rfl⟩, found, _, _, answered⟩ := answered
  cases found with
  | error fault => exact absurd answered not_answers_throw
  | ok resolve =>
      simp only [answers_bind, answers_liftM] at answered
      obtain ⟨read, _, _, answered⟩ := answered
      cases read with
      | error fault => exact absurd answered not_answers_throw
      | ok hints =>
          simp only [answers_bind, answers_set, answers_pure] at answered
          obtain ⟨_, _, rfl, rfl, stored⟩ := answered
          cases stored
          exact ⟨hints, resolve, rfl⟩

/-! ## What a session holds after a step -/

/-- The session with the samples that have just been read, if any. -/
def refreshed (session : Session) (samples : Option Samples) : Session :=
  { session with held := samples.or session.held }

/-- What is read does not depend on what is held. -/
@[simp]
theorem samplesFrom_refreshed (samples : Option Samples) (input : String)
    (contents : Except FileFault ByteArray) (kind : SourceKind) :
    (session.refreshed samples).samplesFrom input contents kind =
      session.samplesFrom input contents kind := by
  cases kind <;> rfl

theorem refreshed_refreshed (session : Session) (first second : Option Samples) :
    (session.refreshed first).refreshed second = session.refreshed (second.or first) := by
  simp only [refreshed, Option.or_assoc]

theorem read_run_eq (session : Session) (input : String) (kind : SourceKind) (disk : Disk) :
    ∃ now, ((read input kind : ExceptT SessionFault (StateT Session DiskM) Unit).run.run
        session).run disk =
      (((session.samplesFrom input (disk.attempted input) kind).map fun _ => (),
        session.refreshed (session.samplesFrom input (disk.attempted input) kind).toOption),
        { disk with clock := now }) := by
  obtain ⟨now, ran⟩ := samplesOf_run_eq session input kind disk
  refine ⟨now, ?_⟩
  rw [read, run_get_liftM_bind (fun session : Session => session.samplesOf input kind), ran]
  cases session.samplesFrom input (disk.attempted input) kind <;> rfl

/-- What a step that makes a profile reads for it: nothing without a binary, or for a word that
names no kind. -/
def readForProfile (session : Session) (disk : Disk) (input token : String) : Option Samples :=
  match SourceKind.ofToken? token, session.binary with
  | some kind, some _ => (session.samplesFrom input (disk.attempted input) kind).toOption
  | _, _ => none

theorem readForProfile_refreshed (session : Session) (samples : Option Samples) (disk : Disk)
    (input token : String) :
    (session.refreshed samples).readForProfile disk input token =
      session.readForProfile disk input token := by
  have sameBinary : (session.refreshed samples).binary = session.binary := rfl
  simp only [readForProfile, samplesFrom_refreshed, sameBinary]

theorem session_after_ofExcept {Answer : Type} (result : Except SessionFault Answer)
    (session : Session) (disk : Disk) :
    ((MonadExcept.ofExcept result : ExceptT SessionFault (StateT Session DiskM) Answer).run.run
      session).run disk = ((result, session), disk) := by
  cases result <;> rfl

/-- What is computed on the side leaves the session as it is. -/
theorem session_after_side {Answer : Type} (action : DiskM (Except SessionFault Answer))
    (session : Session) (disk : Disk) :
    (((do MonadExcept.ofExcept (← (action : DiskM _)) :
      ExceptT SessionFault (StateT Session DiskM) Answer).run.run session).run disk).1.2 =
        session := by
  rcases ran : action.run disk with ⟨result, later⟩
  have lifted : Answers (liftM action) (session, disk) result (session, later) :=
    answers_liftM.mpr ⟨ran, rfl⟩
  rw [run_bind_ok lifted, session_after_ofExcept]

/-- Samples that have been read are held, whether or not they can be attributed. -/
theorem session_after_sampling (session : Session) (disk : Disk) (map : ProfileMap)
    (input : String) (kind : SourceKind) :
    (((do
      read input kind
      let session : Session ← get
      MonadExcept.ofExcept (← (filled map session.attributeSamples : DiskM _)) :
        ExceptT SessionFault (StateT Session DiskM) ProfileMap).run.run session).run disk).1.2 =
      session.refreshed (session.samplesFrom input (disk.attempted input) kind).toOption := by
  obtain ⟨now, ran⟩ := read_run_eq session input kind disk
  cases read : session.samplesFrom input (disk.attempted input) kind with
  | error fault =>
      rw [read] at ran
      rw [run_bind_error ran]
  | ok samples =>
      rw [read] at ran
      rw [run_bind_ok ran, run_bind_ok (answers_get_state _ _)]
      exact session_after_side _ _ _

theorem session_after_build (session : Session) (disk : Disk) (input token : String) :
    (((build input token : ExceptT SessionFault (StateT Session DiskM) ProfileMap).run.run
      session).run disk).1.2 = session.refreshed (session.readForProfile disk input token) := by
  cases known : SourceKind.ofToken? token with
  | none =>
      rw [build_run_of_unknown known, readForProfile, known]
      rfl
  | some kind =>
      cases bound : session.binary with
      | none =>
          rw [build_run_of_unbound known bound, readForProfile, known, bound]
          rfl
      | some binary =>
          have parsed : Answers (MonadExcept.ofExcept (SourceKind.parse token)) (session, disk) kind
              (session, disk) := answers_ofExcept.mpr ⟨parse_of_known known, rfl⟩
          have made : Answers (MonadExcept.ofExcept session.emptyMap) (session, disk)
              (session.blankMap binary) (session, disk) :=
            answers_ofExcept.mpr ⟨emptyMap_eq_ok_iff.mpr ⟨binary, bound, rfl⟩, rfl⟩
          rw [build, run_bind_ok parsed, run_bind_ok (answers_get_state session disk),
            run_bind_ok made, readForProfile, known, bound]
          cases kind with
          | prefetch => exact session_after_side _ session disk
          | text => exact session_after_sampling session disk _ input .text
          | perf => exact session_after_sampling session disk _ input .perf

/-- Writing a profile leaves the session as it is, whether or not it succeeds. -/
theorem session_after_create (session : Session) (disk : Disk) (input token output : String)
    (format : ReportFormat) (listSymbols : Bool) :
    (((create input token format output listSymbols :
      ExceptT SessionFault (StateT Session DiskM) Unit).run.run session).run disk).1.2 =
        session.refreshed (session.readForProfile disk input token) := by
  have built := session_after_build session disk input token
  rcases ran : ((build input token :
    ExceptT SessionFault (StateT Session DiskM) ProfileMap).run.run session).run disk with
    ⟨⟨result, after⟩, between⟩
  rw [ran] at built
  rw [create_eq]
  cases result with
  | error fault =>
      rw [run_bind_error ran]
      exact built
  | ok map =>
      rcases after.symbolList_eq_or listSymbols map with wanted | overflowed
      · rcases written : (Workspace.replaceFile output
          (format.render map (after.listed listSymbols map)).toUTF8 : DiskM _).run between with
          ⟨answer, later⟩
        rw [run_bind_ok ran, writeProfile_run wanted written]
        exact built
      · rw [run_bind_ok ran, writeProfile_run_of_overflow overflowed]
        exact built

end Session

theorem SampleFile.reload_run_eq (file : SampleFile) (disk : Disk) :
    ((SampleFile.reload : ExceptT SampleFault (StateT SampleFile DiskM) Unit).run.run file).run
        disk =
      (((Samples.ofContents (disk.attempted file.path)).map fun _ => (),
        { file with
          held := (Samples.ofContents (disk.attempted file.path)).toOption.getD file.held }),
        disk.ticked) := by
  rw [reload, run_get_liftM_bind (fun file : SampleFile => Samples.readTextFile file.path),
    Disk.readTextFile_run_eq]
  cases Samples.ofContents (disk.attempted file.path) <;> rfl

/-- What the steps of a history work on. -/
structure Memory where
  session : Session
  map : ProfileMap
  file : SampleFile

namespace Memory

open Session (FailsClean)

/-! ## Steps -/

/-- A step of a history.  Steps that only write files are not among them: the files may change
between any two steps. -/
inductive Step where
  | read (input : String) (kind : SourceKind)
  | build (input token : String)
  | create (input token : String) (format : ReportFormat) (output : String) (listSymbols : Bool)
  | startMap
  | attributeSamples
  | attachHints (input : String)
  | alter (operation : ProfileMap.Operation)
  | reload
  | mergeSamples (others : Samples)
  | replaceSamples (others : Samples)

/-- What a step over a state answers on a disk, and the state after it. -/
def outcome {State Fault Answer : Type} (step : ExceptT Fault (StateT State DiskM) Answer)
    (disk : Disk) (state : State) : Except Fault Answer × State :=
  ((step.run.run state).run disk).1

theorem outcome_of_failure {State Answer : Type}
    {step : ExceptT SessionFault (StateT State DiskM) Answer} {disk : Disk} {state : State}
    (clean : FailsClean step) (failed : (outcome step disk state).1.toBool = false) :
    (outcome step disk state).2 = state := by
  rw [outcome] at failed ⊢
  rcases ran : (step.run.run state).run disk with ⟨⟨result, after⟩, later⟩
  rw [ran] at failed
  cases result with
  | ok answer => cases failed
  | error fault => exact clean ran

namespace Step

/-- Whether a step succeeds, and the memory after it. -/
def perform (disk : Disk) (memory : Memory) : Step → Bool × Memory
  | read input kind =>
      let (result, session) := outcome (Session.read input kind) disk memory.session
      (result.toBool, { memory with session })
  | build input token =>
      let (result, session) := outcome (Session.build input token) disk memory.session
      (result.toBool, { memory with session, map := result.toOption.getD memory.map })
  | create input token format output listSymbols =>
      let (result, session) :=
        outcome (Session.create input token format output listSymbols) disk memory.session
      (result.toBool, { memory with session })
  | startMap =>
      let result := memory.session.emptyMap
      (result.toBool, { memory with map := result.toOption.getD memory.map })
  | attributeSamples =>
      let (result, map) := outcome memory.session.attributeSamples disk memory.map
      (result.toBool, { memory with map })
  | attachHints input =>
      let (result, map) := outcome (memory.session.attachHints input) disk memory.map
      (result.toBool, { memory with map })
  | alter operation => (true, { memory with map := memory.map.perform operation })
  | reload =>
      let (result, file) := outcome SampleFile.reload disk memory.file
      (result.toBool, { memory with file })
  | mergeSamples others =>
      (true, { memory with file.held := memory.file.held.merge others })
  | replaceSamples others => (true, { memory with file.held := others })

/-- Making a profile takes more than one step: its samples may be read and then not attributed. -/
def compound : Step → Bool
  | build .. | create .. => true
  | _ => false

/-- The samples that a step reads into a session. -/
def readBy? (session : Session) (disk : Disk) : Step → Option Samples
  | read input kind => (session.samplesFrom input (disk.attempted input) kind).toOption
  | build input token => session.readForProfile disk input token
  | create input token _ _ _ => session.readForProfile disk input token
  | _ => none

variable (disk : Disk) (memory : Memory)

theorem readBy?_refreshed (session : Session) (samples : Option Samples) (step : Step) :
    step.readBy? (session.refreshed samples) disk = step.readBy? session disk := by
  cases step with
  | read input kind => rw [readBy?, readBy?, Session.samplesFrom_refreshed]
  | build input token => exact session.readForProfile_refreshed samples disk input token
  | create input token _ _ _ => exact session.readForProfile_refreshed samples disk input token
  | _ => rfl

/-- A step changes nothing of a session but the samples, and those only if it reads some. -/
theorem session_perform (step : Step) :
    (step.perform disk memory).2.session =
      memory.session.refreshed (step.readBy? memory.session disk) := by
  cases step with
  | read input kind =>
      obtain ⟨now, ran⟩ := memory.session.read_run_eq input kind disk
      rw [perform, outcome, ran]
      rfl
  | build input token => exact memory.session.session_after_build disk input token
  | create input token format output listSymbols =>
      exact memory.session.session_after_create disk input token output format listSymbols
  | _ => rfl

/-- A step that fails changes nothing. -/
theorem perform_of_failure {step : Step} (single : step.compound = false)
    (failed : (step.perform disk memory).1 = false) : (step.perform disk memory).2 = memory := by
  cases step with
  | build _ _ => cases single
  | create _ _ _ _ _ => cases single
  | alter _ => cases failed
  | mergeSamples _ => cases failed
  | replaceSamples _ => cases failed
  | read input kind =>
      have same := outcome_of_failure (Session.failsClean_read input kind) failed
      exact congrArg (fun session => { memory with session }) same
  | attributeSamples =>
      have same := outcome_of_failure (Session.failsClean_attributeSamples memory.session) failed
      exact congrArg (fun map => { memory with map }) same
  | attachHints input =>
      have same := outcome_of_failure (Session.failsClean_attachHints memory.session input) failed
      exact congrArg (fun map => { memory with map }) same
  | startMap =>
      rw [perform] at failed ⊢
      cases made : memory.session.emptyMap with
      | ok map =>
          rw [made] at failed
          cases failed
      | error fault => rfl
  | reload =>
      rw [perform, outcome, SampleFile.reload_run_eq] at failed ⊢
      cases read : Samples.ofContents (disk.attempted memory.file.path) with
      | ok samples =>
          rw [read] at failed
          cases failed
      | error fault => rfl

end Step

/-! ## Histories -/

/-- The memory after a history of steps, each on its own disk. -/
def after (memory : Memory) (history : List (Disk × Step)) : Memory :=
  history.foldl (fun memory taken => (taken.2.perform taken.1 memory).2) memory

/-- The samples that a history reads last. -/
def lastRead? (session : Session) (history : List (Disk × Step)) : Option Samples :=
  (history.filterMap fun taken => taken.2.readBy? session taken.1).getLast?

/-- A history without the steps that fail in it. -/
def succeeding (memory : Memory) : List (Disk × Step) → List (Disk × Step)
  | [] => []
  | (disk, step) :: rest =>
      let performed := step.perform disk memory
      if performed.1 || step.compound then
        (disk, step) :: succeeding performed.2 rest
      else
        succeeding performed.2 rest

theorem lastRead?_cons (session : Session) (taken : Disk × Step) (rest : List (Disk × Step)) :
    lastRead? session (taken :: rest) =
      (lastRead? session rest).or (taken.2.readBy? session taken.1) := by
  rw [lastRead?, List.filterMap_cons]
  cases taken.2.readBy? session taken.1 with
  | none => rw [Option.or_none, lastRead?]
  | some samples =>
      dsimp only
      rw [List.getLast?_cons, lastRead?]
      cases (rest.filterMap fun taken => taken.2.readBy? session taken.1).getLast? <;> rfl

theorem lastRead?_refreshed (session : Session) (samples : Option Samples)
    (history : List (Disk × Step)) :
    lastRead? (session.refreshed samples) history = lastRead? session history := by
  simp only [lastRead?, Step.readBy?_refreshed]

/-- Whatever happens, a session holds the samples that it has read last. -/
theorem session_after (memory : Memory) (history : List (Disk × Step)) :
    (memory.after history).session =
      memory.session.refreshed (lastRead? memory.session history) := by
  induction history generalizing memory with
  | nil => rfl
  | cons taken rest inductionHypothesis =>
      have next := inductionHypothesis (taken.2.perform taken.1 memory).2
      rw [Step.session_perform, lastRead?_refreshed, Session.refreshed_refreshed,
        ← lastRead?_cons] at next
      exact next

/-- Steps that fail are as good as never taken. -/
theorem after_succeeding (memory : Memory) (history : List (Disk × Step)) :
    memory.after (memory.succeeding history) = memory.after history := by
  induction history generalizing memory with
  | nil => rfl
  | cons taken rest inductionHypothesis =>
      obtain ⟨disk, step⟩ := taken
      have next := inductionHypothesis (step.perform disk memory).2
      rw [succeeding]
      cases kept : (step.perform disk memory).1 || step.compound with
      | true =>
          rw [if_pos rfl]
          exact next
      | false =>
          rw [if_neg Bool.false_ne_true]
          obtain ⟨failed, single⟩ := Bool.or_eq_false_iff.mp kept
          have same := step.perform_of_failure disk memory single failed
          calc memory.after (succeeding (step.perform disk memory).2 rest)
            _ = (step.perform disk memory).2.after (succeeding (step.perform disk memory).2 rest) :=
              by rw [same]
            _ = memory.after ((disk, step) :: rest) := next

/-- After any history a session holds the samples that it has read last, with their total, and
nothing in memory shows that steps have failed.  The next reading that fails keeps these samples,
and the next attribution, attachment of hints or reloading of the text file that fails keeps what it
was given. -/
theorem failures_leave_no_trace (memory : Memory) (history : List (Disk × Step)) (disk : Disk)
    (input : String) (kind : SourceKind) :
    let now := memory.after history
    let held := (lastRead? memory.session history).or memory.session.held
    (now.session.held = held ∧ now.session.total = (held.map Samples.total).getD 0) ∧
    memory.after (memory.succeeding history) = now ∧
    (match outcome (Session.read input kind) disk now.session with
      | (.error _, session) =>
          session = now.session ∧ session.held = held ∧
            session.total = (held.map Samples.total).getD 0
      | (.ok _, session) => ∃ samples,
          memory.session.samplesFrom input (disk.attempted input) kind = .ok samples ∧
            session = now.session.refreshed (some samples)) ∧
    (match outcome SampleFile.reload disk now.file with
      | (.error _, file) => file = now.file
      | (.ok _, file) => file.path = now.file.path ∧
          Samples.ofContents (disk.attempted now.file.path) = .ok file.held) ∧
    (match outcome now.session.attributeSamples disk now.map with
      | (.error _, map) => map = now.map
      | (.ok stats, map) => ∃ samples resolve, held = some samples ∧
          (map, stats) = Attribution.addSamples samples resolve now.map) ∧
    (match outcome (now.session.attachHints input) disk now.map with
      | (.error _, map) => map = now.map
      | (.ok stats, map) => ∃ hints resolve,
          (map, stats) = Prefetch.convert hints resolve now.map) := by
  intro now held
  have sessionNow : now.session = memory.session.refreshed (lastRead? memory.session history) :=
    memory.session_after history
  have heldNow : now.session.held = held := by rw [sessionNow]; rfl
  have totalNow : now.session.total = (held.map Samples.total).getD 0 := by
    rw [Session.total, heldNow]
  refine ⟨⟨heldNow, totalNow⟩, memory.after_succeeding history, ?_, ?_, ?_, ?_⟩
  · obtain ⟨later, ran⟩ := now.session.read_run_eq input kind disk
    have sameSource : now.session.samplesFrom input (disk.attempted input) kind =
        memory.session.samplesFrom input (disk.attempted input) kind := by
      rw [sessionNow, Session.samplesFrom_refreshed]
    rw [outcome, ran, sameSource]
    cases memory.session.samplesFrom input (disk.attempted input) kind with
    | error fault => exact ⟨rfl, heldNow, totalNow⟩
    | ok samples => exact ⟨samples, rfl, rfl⟩
  · rw [outcome, SampleFile.reload_run_eq]
    cases Samples.ofContents (disk.attempted now.file.path) with
    | error fault => rfl
    | ok samples => exact ⟨rfl, rfl⟩
  · rw [outcome]
    rcases ran : ((now.session.attributeSamples :
      ExceptT SessionFault (StateT ProfileMap DiskM) _).run.run now.map).run disk with
      ⟨⟨result, map⟩, later⟩
    cases result with
    | error fault => exact Session.failsClean_attributeSamples _ ran
    | ok stats =>
        obtain ⟨samples, resolve, sampled, _, added⟩ := Session.answers_attributeSamples.mp ran
        exact ⟨samples, resolve, heldNow ▸ sampled, added⟩
  · rw [outcome]
    rcases ran : ((now.session.attachHints input :
      ExceptT SessionFault (StateT ProfileMap DiskM) _).run.run now.map).run disk with
      ⟨⟨result, map⟩, later⟩
    cases result with
    | error fault => exact Session.failsClean_attachHints _ _ ran
    | ok stats => exact Session.exists_convert_of_attachHints ran

end Memory

end SampleProfile
