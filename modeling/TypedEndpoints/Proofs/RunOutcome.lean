import TypedEndpoints.Proofs.SuccessReport
import TypedEndpoints.Proofs.WritableDocuments
/-!
A whole run is all or nothing, but for what it says in the end. What comes before writing only looks at the
tree, so a run that ends there leaves it as it was; from there on the law of the writer holds. A run that
has written its files fails if the name of their directory cannot be told, and its files stay.

* `ReadOnly`: a program that leaves the tree as it is, whatever it answers;
* `ComesToWrite`: the arguments are good, the document is loaded, and no problem stops the run;
* `run_cases`: how a run can end;
* `run_all_or_nothing`: the law in terms of the exit code;
* `not_all_failed_runs_spare`: a run that fails with its files written.
-/
set_option autoImplicit false
namespace TypedEndpoints

open Files

variable {here : Location}

/-! ## Programs that only look -/

/-- The program leaves the tree as it is. -/
def ReadOnly {α : Type} (program : StateM (Tree here) α) : Prop :=
  ∀ tree, ∃ value, program tree = (value, tree)

namespace ReadOnly

variable {α β : Type}

theorem pure (value : α) : ReadOnly (Pure.pure value : StateM (Tree here) α) := fun _ => ⟨value, rfl⟩

theorem bind {first : StateM (Tree here) α} {next : α → StateM (Tree here) β} (looks : ReadOnly first)
    (others : ∀ value, ReadOnly (next value)) : ReadOnly (first >>= next) := by
  intro tree
  obtain ⟨value, ran⟩ := looks tree
  obtain ⟨last, ran'⟩ := others value tree
  exact ⟨last, (bind_run ran).trans ran'⟩

theorem stat (path : Path) : ReadOnly (FileAccess.stat path : StateM (Tree here) (Option Kind)) :=
  fun tree => ⟨tree.stat path, rfl⟩

theorem read (path : Path) :
    ReadOnly (FileAccess.read path : StateM (Tree here) (Except Fault (List UInt8))) :=
  fun tree => ⟨tree.read path, rfl⟩

end ReadOnly

theorem readOnly_load (nesting : Nat) (path : Path) :
    ReadOnly (Metadata.load nesting path : StateM (Tree here) (Traced LoadError Metadata)) := by
  unfold Metadata.load
  split
  · exact .pure _
  · refine .bind (.read path) fun content => ?_
    cases content with
    | error fault => exact .pure _
    | ok octets => exact .pure _

/-- A file that stands is loaded by what its octets say. -/
theorem load_of_read {nesting : Nat} {path : Path} {octets : List UInt8} {before : Tree here}
    (proper : path.flaw? = none) (stands : before.read path = .ok octets) :
    (Metadata.load nesting path : StateM (Tree here) _) before =
      (Metadata.ofOctets nesting path octets, before) := by
  have ran : (FileAccess.read path : StateM (Tree here) _) before = (.ok octets, before) :=
    congrArg (·, before) stands
  simp only [Metadata.load, proper]
  exact (bind_run ran).trans rfl

/-- The modules of a document that was loaded are emitted. -/
theorem emit_of_load {nesting : Nat} {path : Path} {before : Tree here} {log : List Record}
    {metadata : Metadata}
    (ran : (Metadata.load nesting path : StateM (Tree here) _) before = (⟨log, .ok metadata⟩, before)) :
    Source.Bundle.emit metadata = .ok (.ofMetadata metadata) := by
  cases flaw : path.flaw? with
  | some found =>
      simp only [Metadata.load, flaw] at ran
      cases ran
  | none =>
      cases content : before.read path with
      | error fault =>
          have read : (FileAccess.read path : StateM (Tree here) _) before = (.error fault, before) :=
            congrArg (·, before) content
          simp only [Metadata.load, flaw] at ran
          cases (bind_run read).symm.trans ran
      | ok octets =>
          exact emit_of_ofOctets (congrArg Prod.fst ((load_of_read flaw content).symm.trans ran))

namespace CommandLine

/-! ## The settings -/

variable (environment : Environment) (given : Given)

theorem readOnly_typedKind (typed : Text) :
    ReadOnly (typedKind typed : StateM (Tree here) (Option Kind)) := by
  unfold typedKind
  split
  · exact .pure _
  · exact .bind (.stat _) fun kind => .pure _

theorem readOnly_checkedPath (typed : Text) (wrong : Kind) (error : Text → UsageError) :
    ReadOnly (checkedPath typed wrong error : StateM (Tree here) (Except Refusal Path)) := by
  simp only [checkedPath]
  split
  · exact .pure _
  · exact .bind (readOnly_typedKind typed) fun kind => .pure _

theorem readOnly_checkSwitch (settings : Settings) (switch : Switch) :
    ReadOnly (checkSwitch environment given settings switch :
      StateM (Tree here) (Except Refusal Settings)) := by
  cases switch with
  | metadata => exact .bind (readOnly_checkedPath _ _ _) fun path => .pure _
  | output => exact .bind (readOnly_checkedPath _ _ _) fun path => .pure _
  | strict => exact .pure _
  | verbose => exact .pure _
  | help => exact .pure _

theorem readOnly_checkSwitches (settings : Settings) (switches : List Switch) :
    ReadOnly (checkSwitches environment given settings switches :
      StateM (Tree here) (Except Refusal Settings)) := by
  induction switches generalizing settings with
  | nil => exact .pure _
  | cons switch rest ih =>
      refine .bind (readOnly_checkSwitch environment given settings switch) fun checked => ?_
      cases checked with
      | error refusal => exact .pure _
      | ok settings => exact ih settings

theorem readOnly_ofGiven :
    ReadOnly (Settings.ofGiven environment given : StateM (Tree here) (Except Refusal Settings)) := by
  refine .bind (readOnly_checkSwitches environment given _ _) fun checked => ?_
  cases checked with
  | error refusal => exact .pure _
  | ok settings => exact .pure _

/-! ## How a run ends -/

/-- The arguments are good and ask for help. -/
def AsksForHelp (arguments : List Text) : Prop :=
  ∃ given, Given.ofArguments arguments = .ok given ∧ given.help = true

/-- The document that the settings name is loaded, and it has no problems, or problems do not stop the
run. -/
structure MayWrite (settings : Settings) (tree : Tree here) (metadata : Metadata) : Prop where
  loaded : ∃ log, (Metadata.load settings.nesting settings.metadata : StateM (Tree here) _) tree =
    (⟨log, .ok metadata⟩, tree)
  allowed : metadata.problems = [] ∨ settings.strict = false

/-- The run gets as far as writing: the arguments are good, ask for no help and give these settings, and
the document may be written. -/
structure ComesToWrite (environment : Environment) (arguments : List Text) (tree : Tree here)
    (settings : Settings) (metadata : Metadata) : Prop extends MayWrite settings tree metadata where
  asked : ∃ given, Given.ofArguments arguments = .ok given ∧ given.help = false ∧
    (Settings.ofGiven environment given : StateM (Tree here) _) tree = (.ok settings, tree)

/-- What writing the modules of a document leaves: the files are as they were and the run failed, or they
are installed, and then the run ended well if it could be told. -/
structure Wrote (settings : Settings) (metadata : Metadata) (before : Tree here) (report : Report)
    (after : Tree here) : Prop where
  directories : OnlyOnTheWay settings.output before after
  files : report.exitCode ≠ 0 ∧ Spared settings.output before after ∨
    Installed (Source.Bundle.ofMetadata metadata) settings.output before after ∧
      (report.exitCode = 0 ∧ (∀ point ∈ settings.output.text, point.isSurrogate = false) ∨
        report.exitCode = 1 ∧ Untold settings.output report)

theorem exitCode_refused (refusal : Refusal) : (Report.refused refusal).exitCode ≠ 0 := by
  cases refusal <;> simp [Report.refused, Report.usage]

theorem exitCode_failure_eq (settings : Settings) (log : List Record) (failure : Failure) :
    (Report.failure settings log failure).exitCode = 1 := by
  cases failure <;> rfl

theorem exitCode_failure (settings : Settings) (log : List Record) (failure : Failure) :
    (Report.failure settings log failure).exitCode ≠ 0 := by
  simp [exitCode_failure_eq]

/-- What a run reports when it has written its document; `log` is what it reported before. -/
def writeReport (settings : Settings) (log : List Record) (metadata : Metadata)
    (written : Traced WriteError (List Path)) : Report :=
  match written.outcome with
  | .error error => .failure settings (log ++ written.log) (writeFailure settings.output error)
  | .ok paths =>
    .success settings (log ++ written.log) (successLines settings.output metadata paths)

section
variable {settings : Settings} {log : List Record} {metadata : Metadata} {before after : Tree here}
  (emitted : Source.Bundle.emit metadata = .ok (.ofMetadata metadata))
include emitted

theorem writeModules_of_write {written : Traced WriteError (List Path)}
    (ran : ((Source.Bundle.ofMetadata metadata).write settings.output : StateM (Tree here) _) before =
      (written, after)) :
    (writeModules settings log metadata : StateM (Tree here) Report) before =
      (writeReport settings log metadata written, after) := by
  unfold writeModules writeReport
  rw [emitted]
  refine (bind_run ran).trans ?_
  cases written.outcome <;> rfl

theorem writeModules_cases (settings : Settings) (log : List Record) (before : Tree here) :
    ∃ report after,
      (writeModules settings log metadata : StateM (Tree here) Report) before = (report, after) ∧
      Wrote settings metadata before report after := by
  obtain ⟨⟨records, outcome⟩, after, ran, directories, ended⟩ :=
    write_cases (Source.Bundle.ofMetadata metadata) settings.output before
  refine ⟨_, after, writeModules_of_write emitted ran, directories, ?_⟩
  rcases ended with ⟨⟨error, rfl⟩, spared⟩ | ⟨rfl, installed⟩
  · exact .inl ⟨exitCode_failure _ _ _, spared⟩
  · exact .inr ⟨installed, success_ends settings (log ++ records) metadata⟩

end

theorem stopped_iff (settings : Settings) (metadata : Metadata) :
    (settings.strict && !metadata.problems.isEmpty) = true ↔
      ¬ (metadata.problems = [] ∨ settings.strict = false) := by
  cases settings.strict <;> simp

section
variable {settings : Settings} {before : Tree here} {log : List Record}

/-- A run that cannot load its document ends there. -/
theorem execute_of_load {error : LoadError}
    (ran : (Metadata.load settings.nesting settings.metadata : StateM (Tree here) _) before =
      (⟨log, .error error⟩, before)) :
    (execute settings : StateM (Tree here) Report) before =
      (.failure settings log (loadFailure settings.metadata error), before) := by
  unfold execute
  exact (bind_run ran).trans rfl

variable {metadata : Metadata}
  (ran : (Metadata.load settings.nesting settings.metadata : StateM (Tree here) _) before =
    (⟨log, .ok metadata⟩, before))
include ran

/-- A run that problems stop ends there. -/
theorem execute_of_stopped (stopped : ¬ (metadata.problems = [] ∨ settings.strict = false)) :
    (execute settings : StateM (Tree here) Report) before =
      (.failure settings (log ++ problemRecords metadata.problems)
        (problemFailure settings.metadata metadata.problems), before) := by
  unfold execute
  refine (bind_run ran).trans ?_
  show (if _ then _ else _ : StateM (Tree here) Report) before = _
  rw [if_pos ((stopped_iff settings metadata).mpr stopped)]
  rfl

/-- A run that nothing stops goes on to write its document. -/
theorem execute_of_allowed (allowed : metadata.problems = [] ∨ settings.strict = false) :
    (execute settings : StateM (Tree here) Report) before =
      (writeModules settings (log ++ problemRecords metadata.problems) metadata :
        StateM (Tree here) Report) before := by
  unfold execute
  refine (bind_run ran).trans ?_
  show (if _ then _ else _ : StateM (Tree here) Report) before = _
  rw [if_neg fun stopped => (stopped_iff settings metadata).mp stopped allowed]

end

/-- With given settings a run stops while the tree is as it was, or it writes the document that it may
write. -/
theorem execute_cases (settings : Settings) (before : Tree here) :
    ∃ report after, (execute settings : StateM (Tree here) Report) before = (report, after) ∧
      (report.exitCode ≠ 0 ∧ after = before ∧ (∀ metadata, ¬ MayWrite settings before metadata) ∨
        ∃ metadata, MayWrite settings before metadata ∧
          Wrote settings metadata before report after) := by
  obtain ⟨⟨log, outcome⟩, ran⟩ := readOnly_load settings.nesting settings.metadata before
  -- there is but one document to write
  have only : ∀ metadata, MayWrite settings before metadata → outcome = .ok metadata := by
    rintro metadata ⟨⟨records, loaded⟩, -⟩
    have same := ran.symm.trans loaded
    exact congrArg (fun ended => ended.1.outcome) same
  cases outcome with
  | error error =>
      exact ⟨_, before, execute_of_load ran,
        .inl ⟨exitCode_failure _ _ _, rfl, fun metadata may => (nomatch only metadata may)⟩⟩
  | ok metadata =>
      by_cases allowed : metadata.problems = [] ∨ settings.strict = false
      · obtain ⟨report, after, wrote, ended⟩ := writeModules_cases (emit_of_load ran) settings
          (log ++ problemRecords metadata.problems) before
        exact ⟨report, after, (execute_of_allowed ran allowed).trans wrote,
          .inr ⟨metadata, ⟨⟨log, ran⟩, allowed⟩, ended⟩⟩
      · refine ⟨_, before, execute_of_stopped ran allowed,
          .inl ⟨exitCode_failure _ _ _, rfl, fun other may => allowed ?_⟩⟩
        obtain rfl : metadata = other := Except.ok.inj (only other may)
        exact may.allowed

/-- How a run can end: with the help text, before writing, or after it. -/
inductive Ending (environment : Environment) (arguments : List Text) (before : Tree here)
    (report : Report) (after : Tree here) : Prop
  | help (asked : AsksForHelp arguments) (code : report.exitCode = 0) (same : after = before)
  | early (code : report.exitCode ≠ 0) (same : after = before)
      (ended : ∀ settings metadata, ¬ ComesToWrite environment arguments before settings metadata)
  | wrote (settings : Settings) (metadata : Metadata)
      (comes : ComesToWrite environment arguments before settings metadata)
      (files : Wrote settings metadata before report after)

section
variable {environment : Environment} {arguments : List Text} {given : Given} {before : Tree here}
  (parsed : Given.ofArguments arguments = .ok given) (noHelp : given.help = false)
include parsed noHelp

theorem run_of_refused {refusal : Refusal}
    (ran : (Settings.ofGiven environment given : StateM (Tree here) _) before = (.error refusal, before)) :
    (run environment arguments : StateM (Tree here) Report) before = (.refused refusal, before) := by
  simp only [run, parsed, noHelp, Bool.false_eq_true, if_false]
  exact bind_run ran

theorem run_of_settings {settings : Settings}
    (ran : (Settings.ofGiven environment given : StateM (Tree here) _) before = (.ok settings, before)) :
    (run environment arguments : StateM (Tree here) Report) before =
      (execute settings : StateM (Tree here) Report) before := by
  simp only [run, parsed, noHelp, Bool.false_eq_true, if_false]
  exact bind_run ran

end

theorem run_cases (environment : Environment) (arguments : List Text) (before : Tree here) :
    ∃ report after, (run environment arguments : StateM (Tree here) Report) before = (report, after) ∧
      Ending environment arguments before report after := by
  cases parsed : Given.ofArguments arguments with
  | error error =>
      refine ⟨.usage error, before, by simp only [run, parsed]; rfl,
        .early (by simp [Report.usage]) rfl ?_⟩
      rintro settings metadata ⟨-, given, good, -⟩
      rw [parsed] at good
      cases good
  | ok given =>
      by_cases help : given.help = true
      · refine ⟨⟨0, helpText, [], none⟩, before, ?_, .help ⟨given, parsed, help⟩ rfl rfl⟩
        simp only [run, parsed, help, if_true]
        rfl
      · obtain ⟨settled, ran⟩ := readOnly_ofGiven environment given before
        have noHelp : given.help = false := by simpa using help
        have only : ∀ settings metadata,
            ComesToWrite environment arguments before settings metadata → settled = .ok settings := by
          rintro settings metadata ⟨-, given', good, -, asked⟩
          obtain rfl : given = given' := Except.ok.inj (parsed.symm.trans good)
          exact congrArg Prod.fst (ran.symm.trans asked)
        cases settled with
        | error refusal =>
            exact ⟨.refused refusal, before, run_of_refused parsed noHelp ran,
              .early (exitCode_refused refusal) rfl
                fun settings metadata comes => (nomatch only settings metadata comes)⟩
        | ok settings =>
            obtain ⟨report, after, executed, ended⟩ := execute_cases settings before
            refine ⟨report, after, (run_of_settings parsed noHelp ran).trans executed, ?_⟩
            rcases ended with ⟨code, same, never⟩ | ⟨metadata, may, wrote⟩
            · refine .early code same fun other metadata comes => never metadata ?_
              obtain rfl : settings = other := Except.ok.inj (only other metadata comes)
              exact comes.toMayWrite
            · exact .wrote settings metadata ⟨may, given, parsed, noHelp, ran⟩ wrote

/-- **Main result.** A run whose exit code is zero told the help text and left the tree as it was, or it
installed the modules of the document it was asked for. A run with any other exit code spared every file,
unless its files were installed and the name of their directory could not be told. A run that did not come
to write left the tree as it was. -/
theorem run_all_or_nothing (environment : Environment) (arguments : List Text) (before : Tree here) :
    ∃ report after,
      (run environment arguments : StateM (Tree here) Report) before = (report, after) ∧
      (report.exitCode = 0 → AsksForHelp arguments ∧ after = before ∨
        ∃ settings metadata, ComesToWrite environment arguments before settings metadata ∧
          OnlyOnTheWay settings.output before after ∧
          Installed (Source.Bundle.ofMetadata metadata) settings.output before after) ∧
      (report.exitCode ≠ 0 → after = before ∨
        ∃ settings metadata, ComesToWrite environment arguments before settings metadata ∧
          OnlyOnTheWay settings.output before after ∧
          (Spared settings.output before after ∨
            Installed (Source.Bundle.ofMetadata metadata) settings.output before after ∧
              Untold settings.output report)) ∧
      ((∀ settings metadata, ¬ ComesToWrite environment arguments before settings metadata) →
        after = before) := by
  obtain ⟨report, after, ran, ended⟩ := run_cases environment arguments before
  refine ⟨report, after, ran, ?_⟩
  cases ended with
  | help asked code same => exact ⟨fun _ => .inl ⟨asked, same⟩, fun _ => .inl same, fun _ => same⟩
  | early code same ended => exact ⟨fun zero => (code zero).elim, fun _ => .inl same, fun _ => same⟩
  | wrote settings metadata comes files =>
      obtain ⟨directories, ⟨code, spared⟩ | ⟨installed, ⟨code, -⟩ | ⟨code, untold⟩⟩⟩ := files
      · exact ⟨fun zero => (code zero).elim,
          fun _ => .inr ⟨settings, metadata, comes, directories, .inl spared⟩,
          fun never => (never settings metadata comes).elim⟩
      · exact ⟨fun _ => .inr ⟨settings, metadata, comes, directories, installed⟩,
          fun nonzero => (nonzero code).elim,
          fun never => (never settings metadata comes).elim⟩
      · exact ⟨fun zero => (Nat.one_ne_zero (code.symm.trans zero)).elim,
          fun _ => .inr ⟨settings, metadata, comes, directories, .inr ⟨installed, untold⟩⟩,
          fun never => (never settings metadata comes).elim⟩

/-! ## A directory whose name cannot be told -/

/-- A name that ends in an octet that is in no character. -/
def strayName : Text := Text.ofString "out" ++ [.surrogate 0x4FF]

def strayDirectory : Path := ⟨.workingDirectory, [.down strayName]⟩

def strayTypes : Location := (Location.root.entry (octetsOf strayName)).child "types.ts"

/-- A working directory with a document in it that declares nothing. -/
def emptyDocument : Tree .root := ⟨[(Location.root.child "m.json", .file [0x7B, 0x7D])]⟩

def emptyDocumentSettings : Settings where
  metadata := ⟨.workingDirectory, [.down "m.json"]⟩
  output := strayDirectory
  strict := false
  verbose := false
  nesting := 1

theorem load_emptyDocument : ∃ log,
    (Metadata.load 1 emptyDocumentSettings.metadata : StateM (Tree .root) _) emptyDocument =
      (⟨log, .ok ⟨[], []⟩⟩, emptyDocument) := by
  have loaded : (Metadata.load 1 emptyDocumentSettings.metadata : StateM (Tree .root) _) emptyDocument =
      (Metadata.ofOctets 1 emptyDocumentSettings.metadata [0x7B, 0x7D], emptyDocument) :=
    load_of_read (by decide +kernel) rfl
  have found : (match (Metadata.ofOctets 1 emptyDocumentSettings.metadata [0x7B, 0x7D]).outcome with
      | .ok metadata => metadata.dataTypes.isEmpty && metadata.httpInterfaces.isEmpty
      | .error _ => false) = true := by decide +kernel
  generalize Metadata.ofOctets 1 emptyDocumentSettings.metadata [0x7B, 0x7D] = ended at loaded found
  obtain ⟨log, error | ⟨types, interfaces⟩⟩ := ended
  · cases found
  · simp only [Bool.and_eq_true, List.isEmpty_iff] at found
    obtain ⟨rfl, rfl⟩ := found
    exact ⟨log, loaded⟩

/-- The files are written. -/
theorem write_emptyDocument : ∃ written after,
    ((Source.Bundle.ofMetadata ⟨[], []⟩).write strayDirectory : StateM (Tree .root) _) emptyDocument =
      (written, after) ∧
    written.outcome = .ok (targetNames.map strayDirectory.child) ∧
    (after.content? strayTypes).isSome = true := by
  obtain ⟨⟨records, outcome⟩, after, ran, -, ended⟩ :=
    write_cases (.ofMetadata ⟨[], []⟩) strayDirectory emptyDocument
  have good : (((Source.Bundle.ofMetadata ⟨[], []⟩).write strayDirectory : StateM (Tree .root) _)
      emptyDocument).1.outcome.toOption.isSome = true := by decide +kernel
  have left : ((((Source.Bundle.ofMetadata ⟨[], []⟩).write strayDirectory : StateM (Tree .root) _)
      emptyDocument).2.content? strayTypes).isSome = true := by decide +kernel
  rw [ran] at good left
  rcases ended with ⟨⟨error, rfl⟩, -⟩ | ⟨rfl, -⟩
  · cases good
  · exact ⟨_, after, ran, rfl, left⟩

/-- Not every run that fails leaves each file as it was, or gone: this one writes its three files, and fails
when it is to tell the name of their directory. -/
theorem not_all_failed_runs_spare : ¬ ∀ (environment : Environment) (arguments : List Text)
    (before after : Tree .root) (report : Report),
    (run environment arguments : StateM (Tree .root) Report) before = (report, after) →
    report.exitCode ≠ 0 →
    ∀ location, after.content? location = before.content? location ∨ after.content? location = none := by
  intro all
  obtain ⟨log, loaded⟩ := load_emptyDocument
  obtain ⟨written, after, wrote, installed, stands⟩ := write_emptyDocument
  have ran : (run ⟨none, none, none, 1⟩ ["-m", "m.json", "-o", strayName] : StateM (Tree .root) _)
      emptyDocument =
        (writeReport emptyDocumentSettings (log ++ problemRecords []) ⟨[], []⟩ written, after) := by
    have settled : (Settings.ofGiven ⟨none, none, none, 1⟩
        ⟨some "m.json", some strayName, false, false, false, [.metadata, .output], []⟩ :
          StateM (Tree .root) _) emptyDocument = (.ok emptyDocumentSettings, emptyDocument) := rfl
    rw [run_of_settings (by rfl) rfl settled, execute_of_allowed loaded (.inr rfl)]
    exact writeModules_of_write (emit_of_load loaded) wrote
  have failed : (writeReport emptyDocumentSettings (log ++ problemRecords []) ⟨[], []⟩
      written).exitCode ≠ 0 := by
    simp only [writeReport, installed]
    rcases success_ends emptyDocumentSettings (log ++ problemRecords [] ++ written.log) ⟨[], []⟩ with
      ⟨-, plain⟩ | ⟨code, -⟩
    · cases plain (.surrogate 0x4FF) (by decide)
    · exact code ▸ Nat.one_ne_zero
  rcases all _ _ _ _ _ ran failed strayTypes with same | gone
  · have absent : emptyDocument.content? strayTypes = none := by decide +kernel
    rw [same, absent] at stands
    cases stands
  · rw [gone] at stands
    cases stands

end CommandLine
end TypedEndpoints
