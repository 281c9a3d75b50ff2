import TypedEndpoints.Proofs.LoadOutcome
/-!
Strictness is a gate in front of writing and does nothing else. Of two runs that differ in it alone, the
strict one stops at problems with the tree as it was, and the other writes as if nobody had looked for
problems. Where there is no document, or none of its problems, the two are one run.

* `Asks`: what arguments and environment ask of a run;
* `run_strict_cons`: the flag in front of other arguments turns strictness on and changes nothing else;
* `executeUnchecked`: a run that looks for no problems;
* `strict_is_gate`: the law.
-/
set_option autoImplicit false
namespace TypedEndpoints.CommandLine

open Files

variable {here : Location}

/-- The arguments are good, ask for no help and give these settings. -/
def Asks (environment : Environment) (arguments : List Text) (before : Tree here)
    (settings : Settings) : Prop :=
  ∃ given, Given.ofArguments arguments = .ok given ∧ given.help = false ∧
    (Settings.ofGiven environment given : StateM (Tree here) _) before = (.ok settings, before)

theorem run_of_asks {environment : Environment} {arguments : List Text} {before : Tree here}
    {settings : Settings} (asked : Asks environment arguments before settings) :
    (run environment arguments : StateM (Tree here) Report) before =
      (execute settings : StateM (Tree here) Report) before := by
  obtain ⟨given, parsed, noHelp, settled⟩ := asked
  exact run_of_settings parsed noHelp settled

/-! ## The flag in front of other arguments -/

/-- What is given if the flag for strictness comes first. -/
def Given.strictly (given : Given) : Given :=
  { given with strict := true, seen := .strict :: given.seen.filter (· ≠ .strict) }

def Settings.strictly (settings : Settings) : Settings := { settings with strict := true }

namespace Given

theorem see_strictly (given : Given) (switch : Switch) :
    given.strictly.see switch = (given.see switch).strictly := by
  by_cases strict : switch = .strict
  · subst strict
    by_cases seen : Switch.strict ∈ given.seen <;> simp [see, strictly, seen, List.filter_append]
  · by_cases seen : switch ∈ given.seen <;>
      simp [see, strictly, seen, strict, List.filter_append]

theorem set_strictly (given : Given) (switch : Switch) (value : Text) :
    given.strictly.set switch value = (given.set switch value).strictly := by
  simp only [set, see_strictly]
  cases switch <;> rfl

theorem setFlags_strictly (given : Given) (flags : List Switch) :
    given.strictly.setFlags flags = (given.setFlags flags).strictly := by
  induction flags generalizing given with
  | nil => rfl
  | cons flag rest ih =>
      show (given.strictly.set flag []).setFlags rest = ((given.set flag []).setFlags rest).strictly
      rw [set_strictly, ih]

/-- The flag changes neither what the other arguments say nor what is wrong with them. -/
theorem addArguments_strictly (given : Given) (arguments : List Text) :
    given.strictly.addArguments arguments = (given.addArguments arguments).map strictly := by
  induction given, arguments using addArguments.induct with
  | case1 given => rfl
  | case2 given rest => simp only [addArguments, if_true]; rfl
  | case3 given argument rest more isOption error read =>
      simp only [addArguments, if_neg more, if_pos isOption, read]
      rfl
  | case4 given argument rest more isOption flags read ih =>
      simp only [addArguments, if_neg more, if_pos isOption, read, setFlags_strictly, ih]
  | case5 given argument rest more isOption flags switch value read ih =>
      simp only [addArguments, if_neg more, if_pos isOption, read, setFlags_strictly, set_strictly, ih]
  | case6 given argument more isOption flags switch name read =>
      simp only [addArguments, if_neg more, if_pos isOption, read]
      rfl
  | case7 given argument more isOption flags switch name read value rest ih =>
      simp only [addArguments, if_neg more, if_pos isOption, read, setFlags_strictly, set_strictly, ih]
  | case8 given argument rest more noOption ih =>
      simp only [addArguments, if_neg more, if_neg noOption]
      exact ih

theorem ofArguments_strict_cons (arguments : List Text) :
    ofArguments ("--strict" :: arguments) = (ofArguments arguments).map strictly :=
  (show ofArguments ("--strict" :: arguments) = nothing.strictly.addArguments arguments by rfl).trans
    (addArguments_strictly nothing arguments)

end Given
section
variable {environment : Environment} {given : Given} {before : Tree here}
  {checked : Except Refusal Settings}

theorem checkOrder_strictly (given : Given) :
    checkOrder given.strictly = .strict :: (checkOrder given).filter (· ≠ .strict) := by
  have same : [Switch.metadata, .output, .strict, .verbose].filter (· ∉ given.strictly.seen) =
      ([Switch.metadata, .output, .strict, .verbose].filter (· ∉ given.seen)).filter
        (· ≠ .strict) := by
    rw [List.filter_filter]
    apply List.filter_congr
    intro switch _
    by_cases strict : switch = .strict <;> simp [Given.strictly, strict]
  simp only [checkOrder, same, List.filter_append]
  rfl

/-- The values of the other options are checked as they would be. -/
theorem checkSwitch_strictly {settings : Settings} {switch : Switch} (other : switch ≠ .strict)
    (ran : (checkSwitch environment given settings switch : StateM (Tree here) _) before =
      (checked, before)) :
    (checkSwitch environment given.strictly settings.strictly switch : StateM (Tree here) _) before =
      (checked.map Settings.strictly, before) := by
  cases switch with
  | metadata =>
      obtain ⟨path, looked⟩ :=
        readOnly_checkedPath (typedMetadata environment given) .directory .fileIsDirectory before
      obtain rfl := congrArg Prod.fst ((bind_run looked).symm.trans ran)
      refine (bind_run looked).trans ?_
      cases path <;> rfl
  | output =>
      obtain ⟨path, looked⟩ :=
        readOnly_checkedPath (typedOutput environment given) .file .directoryIsFile before
      obtain rfl := congrArg Prod.fst ((bind_run looked).symm.trans ran)
      refine (bind_run looked).trans ?_
      cases path <;> rfl
  | strict => exact absurd rfl other
  | verbose =>
      obtain rfl := congrArg Prod.fst ran
      rfl
  | help =>
      obtain rfl := congrArg Prod.fst ran
      rfl

variable {flag : Bool} (settled : checkStrict environment given = .ok flag)
include settled

theorem checkSwitches_strictly (settings : Settings) (switches : List Switch)
    (ran : (checkSwitches environment given settings switches : StateM (Tree here) _) before =
      (checked, before)) :
    (checkSwitches environment given.strictly settings.strictly
        (switches.filter (· ≠ .strict)) : StateM (Tree here) _) before =
      (checked.map Settings.strictly, before) := by
  induction switches generalizing settings with
  | nil =>
      obtain rfl := congrArg Prod.fst ran
      rfl
  | cons switch rest ih =>
      obtain ⟨first, looked⟩ := readOnly_checkSwitch environment given settings switch before
      have others := (bind_run looked).symm.trans ran
      by_cases strict : switch = .strict
      · subst strict
        have passed : first = .ok { settings with strict := flag } := by
          have answer := congrArg Prod.fst looked
          simp only [checkSwitch, settled] at answer
          exact answer.symm
        subst passed
        exact ih { settings with strict := flag } others
      · rw [List.filter_cons_of_pos (by simpa using strict)]
        refine (bind_run (checkSwitch_strictly strict looked)).trans ?_
        cases first with
        | error refusal =>
            obtain rfl := congrArg Prod.fst others
            rfl
        | ok settings => exact ih settings others

theorem ofGiven_strictly
    (ran : (Settings.ofGiven environment given : StateM (Tree here) _) before = (checked, before)) :
    (Settings.ofGiven environment given.strictly : StateM (Tree here) _) before =
      (checked.map Settings.strictly, before) := by
  obtain ⟨values, looked⟩ :=
    readOnly_checkSwitches environment given (.default environment.nesting) (checkOrder given) before
  have first : (checkSwitches environment given.strictly (.default environment.nesting)
      (checkOrder given.strictly) : StateM (Tree here) _) before =
        (values.map Settings.strictly, before) := by
    rw [checkOrder_strictly]
    exact checkSwitches_strictly settled (.default environment.nesting) (checkOrder given) looked
  obtain rfl := congrArg Prod.fst ((bind_run looked).symm.trans ran)
  refine (bind_run first).trans ?_
  cases values with
  | error refusal => rfl
  | ok settings =>
      show (_, before) = _
      by_cases none : given.extra.isEmpty = true <;> simp [none, Given.strictly]
      all_goals rfl

end

theorem checkStrict_of_nothing {environment : Environment} {flag : Bool}
    (settled : checkStrict environment .nothing = .ok flag) (given : Given) :
    checkStrict environment given = .ok (given.strict || flag) := by
  by_cases strict : given.strict = true
  · simp [checkStrict, strict]
  · simpa [checkStrict, strict, Given.nothing] using settled

/-- The flag in front of other arguments turns strictness on and changes no other setting; a run that
comes to no settings it does not change. -/
theorem run_strict_cons {environment : Environment} {flag : Bool}
    (settled : checkStrict environment .nothing = .ok flag) (arguments : List Text)
    (before : Tree here) :
    (∃ settings, Asks environment arguments before settings ∧
      Asks environment ("--strict" :: arguments) before settings.strictly) ∨
    ∃ report, (run environment arguments : StateM (Tree here) Report) before = (report, before) ∧
      (run environment ("--strict" :: arguments) : StateM (Tree here) Report) before =
        (report, before) := by
  have parsed := Given.ofArguments_strict_cons arguments
  cases plain : Given.ofArguments arguments with
  | error error =>
      rw [plain] at parsed
      exact .inr ⟨.usage error, by simp only [run, plain]; rfl, by simp only [run, parsed]; rfl⟩
  | ok given =>
      replace parsed : Given.ofArguments ("--strict" :: arguments) = .ok given.strictly := by
        rw [parsed, plain]; rfl
      by_cases help : given.help = true
      · refine .inr ⟨⟨0, helpText, [], none⟩, ?_, ?_⟩
        · simp only [run, plain, help, if_true]; rfl
        · simp only [run, parsed, Given.strictly, help, if_true]; rfl
      · obtain ⟨checked, ran⟩ := readOnly_ofGiven environment given before
        have ran' := ofGiven_strictly (checkStrict_of_nothing settled given) ran
        have noHelp : given.help = false := by simpa using help
        cases checked with
        | error refusal =>
            exact .inr ⟨.refused refusal, run_of_refused plain noHelp ran,
              run_of_refused parsed noHelp ran'⟩
        | ok settings =>
            exact .inl ⟨settings, ⟨given, plain, noHelp, ran⟩, ⟨given.strictly, parsed, noHelp, ran'⟩⟩

/-! ## The law of the gate -/

/-- Runs with the given settings and looks for no problems. -/
def executeUnchecked {m : Type → Type} [Monad m] [FileAccess m] (settings : Settings) : m Report := do
  let loaded ← Metadata.load settings.nesting settings.metadata
  match loaded.outcome with
  | .error error => return .failure settings loaded.log (loadFailure settings.metadata error)
  | .ok metadata => writeModules settings loaded.log metadata

/-- The two reports differ at most in the errors that they tell. -/
structure Report.EndsAs (report other : Report) : Prop where
  exitCode : report.exitCode = other.exitCode
  output : report.output = other.output
  escaped : report.escaped = other.escaped

/-- What a run reported before it wrote shows in nothing but the errors. -/
theorem writeReport_endsAs (settings : Settings) (log others : List Record) (metadata : Metadata)
    (written : Traced WriteError (List Path)) :
    (writeReport settings log metadata written).EndsAs
      (writeReport settings others metadata written) := by
  unfold writeReport
  cases written.outcome with
  | error error => cases error <;> exact ⟨rfl, rfl, rfl⟩
  | ok paths =>
      -- what is told does not depend on the log
      simp only [Report.success]
      rcases tell (successLines settings.output metadata paths) with ⟨told, none | fault⟩ <;>
        exact ⟨rfl, rfl, rfl⟩

theorem execute_of_write {settings : Settings} {log : List Record} {metadata : Metadata}
    {before after : Tree here} {written : Traced WriteError (List Path)}
    (ran : (Metadata.load settings.nesting settings.metadata : StateM (Tree here) _) before =
      (⟨log, .ok metadata⟩, before))
    (allowed : metadata.problems = [] ∨ settings.strict = false)
    (wrote : ((Source.Bundle.ofMetadata metadata).write settings.output : StateM (Tree here) _) before =
      (written, after)) :
    (execute settings : StateM (Tree here) Report) before =
      (writeReport settings (log ++ problemRecords metadata.problems) metadata written, after) :=
  (execute_of_allowed ran allowed).trans (writeModules_of_write (emit_of_load ran) wrote)

/-- **Main result.** Two runs differ in that one is strict. If the document cannot be loaded they end alike
with the tree as it was; if it has no problems they end alike. If it has problems, the strict run stops
with exit code 1 and leaves the tree as it was, and the other ends as writing the modules ends, like a run
that looks for no problems. -/
theorem strict_is_gate {environment environment' : Environment} {arguments arguments' : List Text}
    {before : Tree here} {settings : Settings}
    (strict : Asks environment arguments before { settings with strict := true })
    (lenient : Asks environment' arguments' before { settings with strict := false }) :
    ∃ loaded,
      (Metadata.load settings.nesting settings.metadata : StateM (Tree here) _) before =
        (loaded, before) ∧
      (∀ error, loaded.outcome = .error error → ∃ report, report.exitCode = 1 ∧
        (run environment arguments : StateM (Tree here) Report) before = (report, before) ∧
        (run environment' arguments' : StateM (Tree here) Report) before = (report, before)) ∧
      ∀ metadata, loaded.outcome = .ok metadata → ∃ written after,
        ((Source.Bundle.ofMetadata metadata).write settings.output : StateM (Tree here) _) before =
          (written, after) ∧
        (metadata.problems = [] → ∃ report,
          (run environment arguments : StateM (Tree here) Report) before = (report, after) ∧
          (run environment' arguments' : StateM (Tree here) Report) before = (report, after)) ∧
        (metadata.problems ≠ [] →
          (∃ report, report.exitCode = 1 ∧
            (run environment arguments : StateM (Tree here) Report) before = (report, before)) ∧
          ∃ report unchecked,
            report = writeReport settings (loaded.log ++ problemRecords metadata.problems) metadata
              written ∧
            (run environment' arguments' : StateM (Tree here) Report) before = (report, after) ∧
            (executeUnchecked settings : StateM (Tree here) Report) before = (unchecked, after) ∧
            report.EndsAs unchecked) := by
  obtain ⟨⟨log, outcome⟩, ran⟩ := readOnly_load settings.nesting settings.metadata before
  rw [run_of_asks strict, run_of_asks lenient]
  refine ⟨⟨log, outcome⟩, ran, fun error failed => ?_, fun metadata succeeded => ?_⟩
  · obtain rfl : outcome = .error error := failed
    exact ⟨.failure settings log (loadFailure settings.metadata error), exitCode_failure_eq _ _ _,
      execute_of_load ran, execute_of_load ran⟩
  · obtain rfl : outcome = .ok metadata := succeeded
    obtain ⟨written, after, wrote, -⟩ := write_cases (.ofMetadata metadata) settings.output before
    refine ⟨written, after, wrote, fun none => ?_, fun found => ⟨?_, ?_⟩⟩
    · exact ⟨writeReport settings (log ++ problemRecords metadata.problems) metadata written,
        execute_of_write ran (.inl none) wrote, execute_of_write ran (.inl none) wrote⟩
    · exact ⟨_, exitCode_failure_eq _ _ _, execute_of_stopped ran (by simp [found])⟩
    · refine ⟨_, writeReport settings log metadata written, rfl,
        execute_of_write ran (.inr rfl) wrote, ?_, writeReport_endsAs ..⟩
      unfold executeUnchecked
      exact (bind_run ran).trans (writeModules_of_write (emit_of_load ran) wrote)

/-! ## A path with a token that no parameter fills -/

def openPathOctets : List UInt8 := String.toUTF8
  "\x7b\"httpInterfaces\":[\x7b\"name\":\"get\",\"method\":\"GET\",\"path\":\"/:id\"\x7d]\x7d"
  |>.data.toList

/-- A working directory with the document in it. -/
def openPath : Tree .root :=
  ⟨[(Location.root.child "m.json", .file openPathOctets)]⟩

def openPathSettings : Settings where
  metadata := ⟨.workingDirectory, [.down "m.json"]⟩
  output := ⟨.workingDirectory, [.down "generated"]⟩
  strict := false
  verbose := false
  nesting := 3

def unsetEnvironment : Environment := ⟨none, none, none, 3⟩

theorem asks_openPath_lenient :
    Asks unsetEnvironment ["-m", "m.json"] openPath { openPathSettings with strict := false } :=
  ⟨⟨some "m.json", none, false, false, false, [.metadata], []⟩, rfl, rfl, rfl⟩

theorem asks_openPath_strict :
    Asks unsetEnvironment ["-m", "m.json", "--strict"] openPath
      { openPathSettings with strict := true } :=
  ⟨⟨some "m.json", none, true, false, false, [.metadata, .strict], []⟩, rfl, rfl, rfl⟩

theorem load_openPath : ∃ log metadata, metadata.problems ≠ [] ∧
    (Metadata.load 3 openPathSettings.metadata : StateM (Tree .root) _) openPath =
      (⟨log, .ok metadata⟩, openPath) := by
  have loaded : (Metadata.load 3 openPathSettings.metadata : StateM (Tree .root) _) openPath =
      (Metadata.ofOctets 3 openPathSettings.metadata openPathOctets, openPath) :=
    load_of_read (by decide +kernel) rfl
  have found : (match (Metadata.ofOctets 3 openPathSettings.metadata openPathOctets).outcome with
      | .ok metadata => !metadata.problems.isEmpty
      | .error _ => false) = true := by decide +kernel
  generalize Metadata.ofOctets 3 openPathSettings.metadata openPathOctets = ended at loaded found
  obtain ⟨log, error | metadata⟩ := ended
  · cases found
  · exact ⟨log, metadata, by simpa using found, loaded⟩

theorem strict_is_gate_of_openPath :
    Asks unsetEnvironment ["-m", "m.json", "--strict"] openPath
        { openPathSettings with strict := true } ∧
      Asks unsetEnvironment ["-m", "m.json"] openPath { openPathSettings with strict := false } ∧
      ∃ stopped ended metadata written after, metadata.problems ≠ [] ∧ stopped.exitCode = 1 ∧
        (run unsetEnvironment ["-m", "m.json", "--strict"] : StateM (Tree .root) Report) openPath =
          (stopped, openPath) ∧
        ((Source.Bundle.ofMetadata metadata).write openPathSettings.output : StateM (Tree .root) _)
          openPath = (written, after) ∧
        (run unsetEnvironment ["-m", "m.json"] : StateM (Tree .root) Report) openPath = (ended, after) := by
  obtain ⟨log, metadata, found, read⟩ := load_openPath
  obtain ⟨loaded, ran, -, all⟩ := strict_is_gate asks_openPath_strict asks_openPath_lenient
  obtain rfl := congrArg Prod.fst (ran.symm.trans read)
  obtain ⟨written, after, wrote, -, gate⟩ := all metadata rfl
  obtain ⟨⟨stopped, code, ranStrict⟩, ended, -, -, ranLenient, -⟩ := gate found
  exact ⟨asks_openPath_strict, asks_openPath_lenient, stopped, ended, metadata, written, after, found,
    code, ranStrict, wrote, ranLenient⟩

end TypedEndpoints.CommandLine
