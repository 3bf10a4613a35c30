import SampleProfile.Proofs.Session.Merge
import SampleProfile.Proofs.Session.Reading

/-!
# Files after an operation

Making a profile reads files until the profile is made, and only then writes one; so does merging
samples.  `files_after` says what follows for the files, whatever is refused on the way.
-/

namespace SampleProfile.Session

open Disk (OnlyReads SameFiles onlyReads_pure)

variable {session : Session} {disk between later : Disk}

/-! ## Making a profile -/

/-- The list of unprofiled symbols that is written with a profile, if one is wanted and its sizes do
not overflow. -/
def listed (session : Session) (listSymbols : Bool) (map : ProfileMap) :
    Option (List SymbolList.Entry) :=
  if listSymbols then
    some (SymbolList.ofEntries map.unprofiled session.options.coverage)
  else
    none

/-- The rest of making a profile, once it has been built. -/
def writeProfile (format : ReportFormat) (output : String) (listSymbols : Bool)
    (map : ProfileMap) : ExceptT SessionFault (StateT Session DiskM) Unit := do
  let session : Session ← get
  let symbols ← MonadExcept.ofExcept (session.symbolList listSymbols map)
  match ← (Workspace.replaceFile output (format.render map symbols).toUTF8 : DiskM _) with
  | .ok () => return ()
  | .error fault => throw (.write output fault)

theorem create_eq (input token : String) (format : ReportFormat) (output : String)
    (listSymbols : Bool) :
    (create input token format output listSymbols :
        ExceptT SessionFault (StateT Session DiskM) Unit) =
      build input token >>= writeProfile format output listSymbols :=
  rfl

theorem symbolList_eq_or (session : Session) (listSymbols : Bool) (map : ProfileMap) :
    session.symbolList listSymbols map = .ok (session.listed listSymbols map) ∨
      session.symbolList listSymbols map = .error (.overflow .addition) := by
  cases listSymbols with
  | false => exact Or.inl rfl
  | true =>
      rw [symbolList, if_pos rfl, SymbolList.exactEntries_eq]
      split
      · exact Or.inl rfl
      · cases SymbolList.exactSize (SymbolList.ranked map.unprofiled) with
        | error fault => exact Or.inr rfl
        | ok size => exact Or.inl rfl

theorem writeProfile_run_of_overflow {format : ReportFormat} {output : String}
    {listSymbols : Bool} {map : ProfileMap} {fault : SessionFault}
    (overflowed : session.symbolList listSymbols map = .error fault) (disk : Disk) :
    ((writeProfile format output listSymbols map).run.run session).run disk =
      ((.error fault, session), disk) := by
  have got : Answers get (session, disk) session (session, disk) := answers_get.mpr ⟨rfl, rfl⟩
  rw [writeProfile, run_bind_ok got, overflowed]
  rfl

theorem writeProfile_run {format : ReportFormat} {output : String} {listSymbols : Bool}
    {map : ProfileMap} {answer : Except WriteFault Unit}
    (wanted : session.symbolList listSymbols map = .ok (session.listed listSymbols map))
    (ran : (Workspace.replaceFile output
      (format.render map (session.listed listSymbols map)).toUTF8 : DiskM _).run disk =
        (answer, later)) :
    ((writeProfile format output listSymbols map).run.run session).run disk =
      ((answer.mapError (.write output), session), later) := by
  have got : Answers get (session, disk) session (session, disk) := answers_get.mpr ⟨rfl, rfl⟩
  have replaced : Answers (liftM _) (session, disk) answer (session, later) :=
    answers_liftM.mpr ⟨ran, rfl⟩
  have symbols : Answers (MonadExcept.ofExcept (session.symbolList listSymbols map))
      (session, disk) (session.listed listSymbols map) (session, disk) :=
    answers_ofExcept.mpr ⟨wanted, rfl⟩
  rw [writeProfile, run_bind_ok got, run_bind_ok symbols, run_bind_ok replaced]
  cases answer <;> rfl

theorem create_outcome (session : Session) (disk : Disk) (input token output : String)
    (format : ReportFormat) (listSymbols : Bool) :
    match ((create input token format output listSymbols :
      ExceptT SessionFault (StateT Session DiskM) Unit).run.run session).run disk with
    | ((.error _, _), later) => disk.Untouched later
    | ((.ok (), _), later) =>
        ∃ map after between, Answers (build input token) (session, disk) map (after, between) ∧
          disk.OnlyWritten output (format.render map (session.listed listSymbols map)).toUTF8
            later := by
  rcases ran : ((build input token :
    ExceptT SessionFault (StateT Session DiskM) ProfileMap).run.run session).run disk with
    ⟨⟨result, after⟩, between⟩
  have same := (stepReads_build input token).sameFiles ran
  rw [create_eq]
  cases result with
  | error fault =>
      rw [run_bind_error ran]
      exact same.untouched
  | ok map =>
      have sameOptions : after.options = session.options := options_of_build ran
      have sameListed : after.listed listSymbols map = session.listed listSymbols map := by
        rw [listed, listed, sameOptions]
      rcases after.symbolList_eq_or listSymbols map with wanted | overflowed
      · have outcome := between.replaceFile_outcome output
          (format.render map (after.listed listSymbols map)).toUTF8
        rcases replaced : (Workspace.replaceFile output
          (format.render map (after.listed listSymbols map)).toUTF8 : DiskM _).run between with
          ⟨answer, later⟩
        rw [replaced] at outcome
        rw [run_bind_ok ran, writeProfile_run wanted replaced]
        cases answer with
        | error fault => exact same.untouched_after outcome
        | ok _ =>
            rw [sameListed] at outcome
            exact ⟨map, after, between, ran, same.onlyWritten_after outcome⟩
      · rw [run_bind_ok ran, writeProfile_run_of_overflow overflowed]
        exact same.untouched

/-! ## Merging samples -/

/-- What a merge adds to: the samples in the destination, or none if there is no such file. -/
def Initial (disk : Disk) (output : String) (held : Samples) : Prop :=
  if disk.isFile output then Samples.ofContents (disk.contents output) = .ok held else held = {}

theorem initial_of_readHeld {output : String} {held : Samples}
    (ran : (readHeld output (disk.isFile output)).run disk = (.ok held, later)) :
    Initial disk output held := by
  rw [Initial]
  cases present : disk.isFile output with
  | false =>
      rw [present] at ran
      cases ran
      rfl
  | true =>
      rw [present, readHeld, if_pos rfl, Disk.readTextFile_run_eq] at ran
      have read := congrArg Prod.fst ran
      obtain ⟨bytes, answered⟩ := Samples.contents_of_ofContents read
      rw [answered] at read
      rw [if_pos rfl, Disk.contents_of_attempted answered]
      exact read

theorem onlyReads_readHeld (output : String) (present : Bool) :
    OnlyReads (readHeld output present) := by
  cases present with
  | false => exact onlyReads_pure _
  | true => exact onlyReads_readTextFile output

theorem addTo_outcome (session : Session) (disk : Disk) (input output : String)
    (kind : SourceKind) (held : Samples) :
    match (session.addTo input output kind (.ok held)).run disk with
    | (.error _, later) => disk.Untouched later
    | (.ok (), later) => ∃ samples,
        session.samplesFrom input (disk.contents input) kind = .ok samples ∧
          disk.OnlyWritten output (held.merge samples).render.toUTF8 later := by
  obtain ⟨now, ran⟩ := samplesOf_run_eq session input kind disk
  have same : SameFiles disk { disk with clock := now } := ⟨rfl, rfl, rfl⟩
  rw [addTo, Disk.run_bind ran]
  cases read : session.samplesFrom input (disk.attempted input) kind with
  | error fault => exact same.untouched
  | ok samples =>
      obtain ⟨bytes, answered⟩ := contents_of_samplesFrom read
      rw [answered, ← Disk.contents_of_attempted answered] at read
      dsimp only
      have outcome := Disk.replaceFile_outcome { disk with clock := now } output
        (held.merge samples).render.toUTF8
      rcases replaced : (Workspace.replaceFile output (held.merge samples).render.toUTF8 :
        DiskM _).run { disk with clock := now } with ⟨answer, later⟩
      rw [replaced] at outcome
      rw [SampleFile.write, Disk.run_bind replaced]
      cases answer with
      | error fault => exact same.untouched_after outcome
      | ok _ => exact ⟨samples, read, same.onlyWritten_after outcome⟩

theorem merge_outcome (session : Session) (disk : Disk) (input token output : String) :
    match (session.merge input token output : DiskM _).run disk with
    | (.error _, later) => disk.Untouched later
    | (.ok (), later) => ∃ kind held samples, SourceKind.parse token = .ok kind ∧
        Initial disk output held ∧
        session.samplesFrom input (disk.contents input) kind = .ok samples ∧
        disk.OnlyWritten output (held.merge samples).render.toUTF8 later := by
  cases parsed : SourceKind.parse token with
  | error fault =>
      rw [merge, parsed]
      exact (SameFiles.refl disk).untouched
  | ok kind =>
      have asked : (Workspace.isFile output : DiskM _).run disk = (disk.isFile output, disk) := rfl
      rw [merge_eq session input output parsed, Disk.run_bind asked]
      rcases ran : (readHeld output (disk.isFile output)).run disk with ⟨answer, between⟩
      have same := (onlyReads_readHeld output _).sameFiles ran
      rw [Disk.run_bind ran]
      cases answer with
      | error fault => exact same.untouched
      | ok held =>
          have initial := initial_of_readHeld ran
          have outcome := addTo_outcome session between input output kind held
          rcases added : (session.addTo input output kind (.ok held)).run between with
            ⟨answer, later⟩
          rw [added] at outcome
          cases answer with
          | error fault => exact same.untouched_after outcome
          | ok _ =>
              obtain ⟨samples, read, written⟩ := outcome
              rw [Disk.contents_congr same.entries_eq] at read
              exact ⟨kind, held, samples, rfl, initial, read, same.onlyWritten_after written⟩

/-- A profile that cannot be made, or samples that cannot be merged, leave all files as they are.
Otherwise the output is the only file that has been written: it holds the profile that is built from
the input, on demand with the list of unprofiled symbols, or the samples of both files. -/
theorem files_after (session : Session) (disk : Disk) (input token output : String)
    (format : ReportFormat) (listSymbols : Bool) :
    (match ((create input token format output listSymbols :
        ExceptT SessionFault (StateT Session DiskM) Unit).run.run session).run disk with
      | ((.error _, _), later) => disk.Untouched later
      | ((.ok (), _), later) =>
          ∃ map after between, Answers (build input token) (session, disk) map (after, between) ∧
            disk.OnlyWritten output (format.render map (session.listed listSymbols map)).toUTF8
              later) ∧
      match (session.merge input token output : DiskM _).run disk with
      | (.error _, later) => disk.Untouched later
      | (.ok (), later) => ∃ kind held samples, SourceKind.parse token = .ok kind ∧
          Initial disk output held ∧
          session.samplesFrom input (disk.contents input) kind = .ok samples ∧
          disk.OnlyWritten output (held.merge samples).render.toUTF8 later :=
  ⟨create_outcome session disk input token output format listSymbols,
    merge_outcome session disk input token output⟩

end SampleProfile.Session
