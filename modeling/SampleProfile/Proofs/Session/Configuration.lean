import SampleProfile.Proofs.Session.Outcome

/-!
# Faults of the configuration

A word that names no kind of source is rejected before any file is read, and so is a profile without
a binary.  A merge is less strict: it reads its destination as soon as the word names some kind, and
only then finds out that samples of this kind cannot be read (`configuration_faults`).
-/

namespace SampleProfile.Session

variable {session : Session} {disk : Disk}

theorem parse_of_unknown {token : String} (unknown : SourceKind.ofToken? token = none) :
    SourceKind.parse token = .error (.unsupportedSource token) := by
  rw [SourceKind.parse, unknown]

theorem parse_of_known {token : String} {kind : SourceKind}
    (known : SourceKind.ofToken? token = some kind) : SourceKind.parse token = .ok kind := by
  rw [SourceKind.parse, known]

/-! ## Making a profile -/

theorem answers_get_state {State : Type} (state : State) (disk : Disk) :
    Answers get (state, disk) state (state, disk) :=
  answers_get.mpr ⟨rfl, rfl⟩

theorem build_run_of_unknown {token : String} (unknown : SourceKind.ofToken? token = none)
    (session : Session) (disk : Disk) (input : String) :
    ((build input token : ExceptT SessionFault (StateT Session DiskM) ProfileMap).run.run
      session).run disk = ((.error (.unsupportedSource token), session), disk) := by
  rw [build, parse_of_unknown unknown]
  rfl

theorem build_run_of_unbound {token : String} {kind : SourceKind}
    (known : SourceKind.ofToken? token = some kind) (unbound : session.binary = none)
    (disk : Disk) (input : String) :
    ((build input token : ExceptT SessionFault (StateT Session DiskM) ProfileMap).run.run
      session).run disk = ((.error .noBinary, session), disk) := by
  have parsed := parse_of_known known
  have noMap : session.emptyMap = .error .noBinary := by
    rw [emptyMap, requireBinary, unbound]
    rfl
  have kindFound : Answers (MonadExcept.ofExcept (SourceKind.parse token)) (session, disk) kind
      (session, disk) := answers_ofExcept.mpr ⟨parsed, rfl⟩
  rw [build, run_bind_ok kindFound, run_bind_ok (answers_get_state session disk), noMap]
  rfl

theorem create_run_of_build {input token output : String} {format : ReportFormat}
    {listSymbols : Bool} {fault : SessionFault}
    (failed : ((build input token :
      ExceptT SessionFault (StateT Session DiskM) ProfileMap).run.run session).run disk =
        ((.error fault, session), disk)) :
    ((create input token format output listSymbols :
      ExceptT SessionFault (StateT Session DiskM) Unit).run.run session).run disk =
        ((.error fault, session), disk) := by
  rw [create_eq]
  exact run_bind_error failed

/-! ## Merging samples -/

/-- The fault of a kind whose samples cannot be read in a session, whatever the files hold. -/
def readerFault? (session : Session) : SourceKind → Option SessionFault
  | .text => none
  | .perf => if session.binary.isSome then none else some .noBinary
  | .prefetch => some (.unsupportedSource SourceKind.prefetch.token)

theorem samplesFrom_of_readerFault {kind : SourceKind} {fault : SessionFault}
    (faulty : session.readerFault? kind = some fault) (input : String)
    (contents : Except FileFault ByteArray) :
    session.samplesFrom input contents kind = .error fault := by
  cases kind with
  | text => cases faulty
  | prefetch =>
      cases faulty
      rfl
  | perf =>
      cases bound : session.binary with
      | none =>
          rw [readerFault?, bound] at faulty
          cases faulty
          rw [samplesFrom, requireBinary, bound]
      | some binary =>
          rw [readerFault?, bound] at faulty
          cases faulty

/-- What the first reading of a merge answers: the samples in the destination, or none if there is
no such file. -/
def destination (disk : Disk) (output : String) : Except SampleFault Samples :=
  if disk.isFile output then Samples.ofContents (disk.attempted output) else .ok {}

theorem readHeld_run_eq (disk : Disk) (output : String) :
    ∃ now, (readHeld output (disk.isFile output)).run disk =
      (destination disk output, { disk with clock := now }) := by
  cases present : disk.isFile output with
  | false =>
      refine ⟨disk.clock, ?_⟩
      rw [destination, present]
      rfl
  | true =>
      refine ⟨disk.clock + 1, ?_⟩
      rw [readHeld, if_pos rfl, Disk.readTextFile_run_eq, destination, present]
      rfl

/-- A merge whose kind cannot be read first answers for its destination, and for its kind only if
that can be read. -/
theorem merge_run_of_readerFault {token : String} {kind : SourceKind} {fault : SessionFault}
    (known : SourceKind.ofToken? token = some kind)
    (faulty : session.readerFault? kind = some fault)
    (disk : Disk) (input output : String) :
    ∃ now, (session.merge input token output : DiskM _).run disk =
      (match destination disk output with
        | .error cause => .error (.sampleRead output cause)
        | .ok _ => .error fault, { disk with clock := now }) := by
  have asked : (Workspace.isFile output : DiskM _).run disk = (disk.isFile output, disk) := rfl
  obtain ⟨now, heldRead⟩ := readHeld_run_eq disk output
  rw [merge_eq session input output (parse_of_known known), Disk.run_bind asked,
    Disk.run_bind heldRead]
  cases destination disk output with
  | error cause => exact ⟨now, rfl⟩
  | ok held =>
      obtain ⟨later, refused⟩ := samplesOf_run_eq session input kind { disk with clock := now }
      rw [samplesFrom_of_readerFault faulty] at refused
      refine ⟨later, ?_⟩
      rw [addTo, Disk.run_bind refused]
      rfl

/-! ## All operations -/

/-- A word that names no kind is rejected for what it is by every operation, and a profile without a
binary for the missing binary; no file is read, and nothing depends on what the disk holds.  A merge
of a kind whose samples cannot be read is rejected for that if the destination is missing or can be
read, and else for the destination. -/
theorem configuration_faults (session : Session) (disk : Disk) (input token output : String)
    (format : ReportFormat) (listSymbols : Bool) :
    match SourceKind.ofToken? token with
    | none =>
        ((build input token : ExceptT SessionFault (StateT Session DiskM) ProfileMap).run.run
          session).run disk = ((.error (.unsupportedSource token), session), disk) ∧
        ((create input token format output listSymbols :
          ExceptT SessionFault (StateT Session DiskM) Unit).run.run session).run disk =
            ((.error (.unsupportedSource token), session), disk) ∧
        (session.merge input token output : DiskM _).run disk =
          (.error (.unsupportedSource token), disk)
    | some kind =>
        (session.binary = none →
          ((build input token : ExceptT SessionFault (StateT Session DiskM) ProfileMap).run.run
            session).run disk = ((.error .noBinary, session), disk) ∧
          ((create input token format output listSymbols :
            ExceptT SessionFault (StateT Session DiskM) Unit).run.run session).run disk =
              ((.error .noBinary, session), disk)) ∧
        ∀ fault, session.readerFault? kind = some fault →
          ∃ now, (session.merge input token output : DiskM _).run disk =
            (match destination disk output with
              | .error cause => .error (.sampleRead output cause)
              | .ok _ => .error fault, { disk with clock := now }) := by
  cases known : SourceKind.ofToken? token with
  | none =>
      have rejected := build_run_of_unknown known session disk input
      refine ⟨rejected, create_run_of_build rejected, ?_⟩
      rw [merge, parse_of_unknown known]
      rfl
  | some kind =>
      constructor
      · intro unbound
        have rejected := build_run_of_unbound known unbound disk input
        exact ⟨rejected, create_run_of_build rejected⟩
      · intro fault faulty
        exact merge_run_of_readerFault known faulty disk input output

/-- A disk with samples and a destination that is no file of samples. -/
def spoiledDisk : Disk where
  entries := ((∅ : OrderedMap (List String) Entry).insert
    ["samples"] (.file "0\n1\n1000:5\n0\n".toUTF8)).insert
    ["sum"] (.file "x\n".toUTF8)

theorem configuration_faults_spoiledDisk :
    SourceKind.ofToken? "perf" = some .perf ∧ ({} : Session).binary = none ∧
      ((build "samples" "perf" : ExceptT SessionFault (StateT Session DiskM) ProfileMap).run.run
        {}).run spoiledDisk = ((.error .noBinary, {}), spoiledDisk) ∧
      readerFault? {} .perf = some .noBinary ∧
      ((merge {} "samples" "perf" "new" : DiskM _).run spoiledDisk).1 = .error .noBinary := by
  obtain ⟨making, merging⟩ := configuration_faults {} spoiledDisk "samples" "perf" "new" .json true
  obtain ⟨built, _⟩ := making rfl
  obtain ⟨now, merged⟩ := merging .noBinary rfl
  have absent : destination spoiledDisk "new" = .ok {} := rfl
  rw [absent] at merged
  exact ⟨rfl, rfl, built, rfl, congrArg Prod.fst merged⟩

theorem destination_spoiledDisk :
    destination spoiledDisk "sum" = .error (.text 1 (.badHeader ['x'])) := by
  have attempted : spoiledDisk.attempted "sum" = .ok "x\n".toUTF8 := rfl
  have present : spoiledDisk.isFile "sum" = true := rfl
  have parsed : Samples.parse "x\n" = .error (1, .badHeader ['x']) := by cbv
  rw [destination, if_pos present, attempted, Samples.ofContents, Samples.fromUTF8?_toUTF8]
  dsimp only
  rw [parsed]
  rfl

/-- Hints to merge, or a capture without a binary, are not what is complained of when the
destination is spoiled. -/
theorem merge_spoiledDisk :
    let blamed := Except.error (SessionFault.sampleRead "sum" (.text 1 (.badHeader ['x'])))
    (((merge {} "samples" "prefetch" "sum" : DiskM _).run spoiledDisk).1 = blamed ∧
      blamed ≠ .error (.unsupportedSource "prefetch")) ∧
    ((merge {} "samples" "perf" "sum" : DiskM _).run spoiledDisk).1 = blamed ∧
      blamed ≠ .error .noBinary := by
  intro blamed
  have blames {kind : SourceKind} {fault : SessionFault}
      (faulty : readerFault? {} kind = some fault) :
      ((merge {} "samples" kind.token "sum" : DiskM _).run spoiledDisk).1 = blamed := by
    have known : SourceKind.ofToken? kind.token = some kind := by cases kind <;> rfl
    obtain ⟨now, ran⟩ := merge_run_of_readerFault known faulty spoiledDisk "samples" "sum"
    rw [ran, destination_spoiledDisk]
  have hints := @blames .prefetch _ rfl
  have capture := @blames .perf _ rfl
  exact ⟨⟨hints, by simp [blamed]⟩, capture, by simp [blamed]⟩

end SampleProfile.Session
