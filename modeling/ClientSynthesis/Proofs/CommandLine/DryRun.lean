import ClientSynthesis.CommandLine.Program
import ClientSynthesis.Proofs.CommandLine.Switches
import ClientSynthesis.Proofs.Run.Generation

/-!
# Dry runs

A run comes to the writing stage or it does not (`Arguments.prepared`), and whether it is a dry run
shows only from there on. Up to that stage a dry run and a real one are the same computation, which
only reads, so a run that ends before it ends alike in both (`run_of_error`). Behind it the real run
hands the files that have been rendered to the writer, and the dry run prints them
(`run_of_dryRun`, `run_of_not_dryRun`).

The switch is read before anything else is decided, and which events are logged does not depend on
it, so the same holds of whole command lines (`dryRun_agrees`).
-/

namespace ClientSynthesis.CommandLine

open Assembly (NameMap)
open Files (ExactlyWritten FileSystem joinPath)
open Report (Event Traced)
open Run (Failure)
open Text (Before)

variable {a : Arguments} {fs : FileSystem} {files : NameMap String}

/-! ### Up to the writing stage -/

/-- What a run does before it writes or prints: it settles how to work, and renders. -/
def Arguments.prepared (a : Arguments) (fs : FileSystem) :
    Traced Event Failure (NameMap String) := do
  let config ← a.settings fs
  Run.renderDirectory fs a.mode a.input config

theorem prepared_of_settings {config : Config} (h : a.settings fs = .ok config) :
    a.prepared fs = Run.renderDirectory fs a.mode a.input config := by
  rw [Arguments.prepared, h]
  rfl

/-- A run that fails before the writing stage does so whether or not it is a dry run. -/
theorem run_of_error {failure : Failure} (h : (a.prepared fs).outcome = .error failure) :
    a.run fs = fail fs (a.prepared fs).trace failure := by
  rw [Arguments.run]
  cases hsettings : a.settings fs with
  | error other =>
    rw [Arguments.prepared, hsettings] at h ⊢
    obtain rfl := Except.error.inj h
    rfl
  | ok config =>
    rw [prepared_of_settings hsettings] at h ⊢
    dsimp only
    rw [Traced.run_eq, h, Run.generate_of_error h, Traced.run_eq, Traced.outcome_of,
      Traced.trace_of]
    split <;> rfl

/-! ### Behind it -/

theorem run_of_dryRun (hdry : a.dryRun = true) (h : (a.prepared fs).outcome = .ok files) :
    a.run fs = ⟨0, dryRunText a.output files, (a.prepared fs).trace, "", fs⟩ := by
  obtain ⟨config, hsettings, -⟩ := Traced.bind_outcome_eq_ok_iff.1 h
  rw [Traced.outcome_liftM] at hsettings
  rw [prepared_of_settings hsettings] at h ⊢
  rw [Arguments.run, hsettings]
  dsimp only
  rw [if_pos hdry, Traced.run_eq, h]

/-- A real run hands what has been rendered to the writer. -/
theorem run_of_not_dryRun (hdry : a.dryRun = false) (h : (a.prepared fs).outcome = .ok files) :
    (a.run fs).files = (Files.writeFiles fs a.output files).1 ∧
      match (Files.writeFiles fs a.output files).2 with
      | .ok () => (a.run fs).exitCode = 0
      | .error error => (a.run fs).exitCode = 1 ∧
          (a.run fs).complaint =
            failureText (.during ("writing generated files to " ++ a.output) error) := by
  obtain ⟨config, hsettings, -⟩ := Traced.bind_outcome_eq_ok_iff.1 h
  rw [Traced.outcome_liftM] at hsettings
  rw [prepared_of_settings hsettings] at h
  obtain ⟨hfiles, houtcome⟩ := Run.generate_of_ok a.output h
  rw [Arguments.run, hsettings]
  dsimp only
  rw [if_neg (Bool.eq_false_iff.1 hdry), Traced.run_eq, houtcome, ← hfiles]
  cases (Files.writeFiles fs a.output files).2 with
  | error error => exact ⟨rfl, rfl, rfl⟩
  | ok _ => exact ⟨rfl, rfl⟩

/-! ### Agreement -/

/-- What is printed for a file: a line with its path, then its text. -/
def printedBlock (output : String) (file : String × String) : String :=
  "// ===== " ++ joinPath output file.1 ++ " =====\n" ++ file.2 ++ "\n"

/-- A dry run agrees with a real run, which comes to the writing stage with some files for a
directory, or does not come to it. -/
structure Agrees (fs : FileSystem) (toWrite : Option (String × NameMap String))
    (dry real : Outcome) : Prop where
  /-- A dry run leaves the file system as it is. -/
  kept : dry.files = fs
  /-- What does not come to the writing stage ends alike. -/
  same : toWrite = none → dry = real
  /-- Otherwise the dry run succeeds. -/
  succeeds : toWrite ≠ none → dry.exitCode = 0 ∧ dry.complaint = ""
  /-- It prints a block for each of the files, and these stand in the order of their names. -/
  prints : ∀ output files, toWrite = some (output, files) →
    dry.output = String.join (files.entries.map (printedBlock output)) ∧ files.names.Pairwise Before
  /-- The real run writes these files. -/
  writes : ∀ output files, toWrite = some (output, files) →
    real.files = (Files.writeFiles fs output files).1 ∧
      match (Files.writeFiles fs output files).2 with
      | .ok () => real.exitCode = 0 ∧ ExactlyWritten files output (fun _ ↦ True) fs real.files
      | .error error => real.exitCode = 1 ∧
          real.complaint = failureText (.during ("writing generated files to " ++ output) error)

/-- What ends before it comes to writing agrees with itself. -/
theorem Agrees.of_none {outcome : Outcome} (h : outcome.files = fs) :
    Agrees fs none outcome outcome :=
  ⟨h, fun _ ↦ rfl, fun hne ↦ absurd rfl hne, fun _ _ ↦ nofun, fun _ _ ↦ nofun⟩

/-- Agreement is about what can be seen beside the log. -/
theorem Agrees.withLog {toWrite : Option (String × NameMap String)} {dry real : Outcome}
    (h : Agrees fs toWrite dry real) (admits : Event → Bool) :
    Agrees fs toWrite { dry with log := dry.log.filter admits }
      { real with log := real.log.filter admits } :=
  ⟨h.kept, fun hnone ↦ by rw [h.same hnone], h.succeeds, h.prints, h.writes⟩

/-- The directory and the files that a run hands to the writer, if it comes so far. -/
def Arguments.toWrite? (a : Arguments) (fs : FileSystem) : Option (String × NameMap String) :=
  (a.prepared fs).outcome.toOption.map fun files ↦ (a.output, files)

/-- What has been rendered can be written, but for the file system. -/
theorem exactlyWritten_of_prepared (h : (a.prepared fs).outcome = .ok files)
    (hwritten : (Files.writeFiles fs a.output files).2 = .ok ()) :
    ExactlyWritten files a.output (fun _ ↦ True) fs (Files.writeFiles fs a.output files).1 := by
  obtain ⟨config, hsettings, -⟩ := Traced.bind_outcome_eq_ok_iff.1 h
  rw [Traced.outcome_liftM] at hsettings
  rw [prepared_of_settings hsettings] at h
  obtain ⟨registry, hpackage⟩ := Run.exists_package_of_renderDirectory h
  have houtcome := Files.writeFiles_outcome (Code.isPlainName_of_package hpackage) fs a.output
  rw [hwritten] at houtcome
  exact houtcome

/-- The same arguments with and without the switch lead to runs that agree. -/
theorem agrees_run (hreal : a.dryRun = false) (fs : FileSystem) :
    Agrees fs (a.toWrite? fs) ({ a with dryRun := true }.run fs) (a.run fs) := by
  have hprepared : { a with dryRun := true }.prepared fs = a.prepared fs := rfl
  unfold Arguments.toWrite?
  cases h : (a.prepared fs).outcome with
  | error failure =>
    rw [run_of_error (hprepared ▸ h), run_of_error h]
    exact .of_none rfl
  | ok files =>
    have hdry := run_of_dryRun (a := { a with dryRun := true }) rfl (hprepared ▸ h)
    obtain ⟨hfiles, hrun⟩ := run_of_not_dryRun hreal h
    refine ⟨by rw [hdry], nofun, fun _ ↦ by rw [hdry]; exact ⟨rfl, rfl⟩, ?_, ?_⟩
    · rintro output files ⟨⟩
      rw [hdry]
      exact ⟨rfl, files.pairwise_names⟩
    · rintro output files ⟨⟩
      refine ⟨hfiles, ?_⟩
      cases hwritten : (Files.writeFiles fs a.output files).2 with
      | error error =>
        rw [hwritten] at hrun
        exact hrun
      | ok _ =>
        rw [hwritten] at hrun
        exact ⟨hrun, hfiles ▸ exactlyWritten_of_prepared h hwritten⟩

/-! ### Command lines -/

theorem files_refuse (fs : FileSystem) (refusal : Refusal) : (refuse fs refusal).files = fs := by
  cases refusal <;> rfl

/-- The directory and the files that a command line leads to writing, if it does. -/
def toWrite? (logSetting : Option String) (arguments : List String) (fs : FileSystem) :
    Option (String × NameMap String) :=
  match Arguments.parse arguments with
  | .error _ => none
  | .ok a => if (logFilter a logSetting).isSome then a.toWrite? fs else none

/-- **A dry run and a real run agree**, whatever is asked for otherwise and in whatever file system,
and so does a command line with the switch put in front of it. -/
theorem dryRun_agrees (logSetting : Option String) (fs : FileSystem) :
    (∀ a : Arguments, a.dryRun = false →
      Agrees fs (a.toWrite? fs) ({ a with dryRun := true }.run fs) (a.run fs)) ∧
    ∀ arguments, "--dry-run" ∉ arguments →
      Agrees fs (toWrite? logSetting arguments fs) (run logSetting ("--dry-run" :: arguments) fs)
        (run logSetting arguments fs) := by
  refine ⟨fun a hreal ↦ agrees_run hreal fs, fun arguments h ↦ ?_⟩
  have hparse := mirrors_parse h
  unfold toWrite? run
  revert hparse
  generalize Arguments.parse arguments = real
  generalize Arguments.parse ("--dry-run" :: arguments) = dry
  rintro (⟨rfl, hreal⟩ | refusal)
  · rename_i a
    dsimp only
    have hfilter : logFilter { a with dryRun := true } logSetting = logFilter a logSetting := rfl
    rw [hfilter]
    cases logFilter a logSetting with
    | none => exact .of_none rfl
    | some filter => exact (agrees_run hreal fs).withLog filter.admits
  · exact .of_none (files_refuse fs refusal)

/-- A directory with one document, which describes an enum. -/
def switchDirectory : FileSystem where
  workingDirectory := []
  entries := [(["in"], .directory), (["in", "switch.json"], .file
    ("\x7b\"s\":\x7b\"key\":\"s\",\"type\":\"enum\",\"typeName\":\"Switch\"," ++
      "\"options\":[\"on\"]\x7d\x7d").toUTF8)]

/-- The one file is printed by the dry run, and written by the real one. -/
theorem dryRun_agrees_of_switchDirectory :
    ∃ files : NameMap String, files.names = ["switch.rs"] ∧
      (run none ["--dry-run", "in", "out", "--mode", "request"] switchDirectory).output =
        String.join (files.entries.map (printedBlock "out")) ∧
      ExactlyWritten files "out" (fun _ ↦ True) switchDirectory
        (run none ["in", "out", "--mode", "request"] switchDirectory).files ∧
      (Arguments.run ⟨.bodies, none, none, none, false, false, false, true, 0, "in", "out"⟩
        switchDirectory).files = switchDirectory := by
  obtain ⟨hruns, hcommands⟩ := dryRun_agrees none switchDirectory
  have hrun := hruns ⟨.bodies, none, none, none, false, false, false, false, 0, "in", "out"⟩ rfl
  have hcommand := hcommands ["in", "out", "--mode", "request"] (by decide)
  have hwrites : (toWrite? none ["in", "out", "--mode", "request"] switchDirectory).map
        (fun toWrite ↦ (toWrite.1, toWrite.2.names)) = some ("out", ["switch.rs"]) ∧
      (run none ["in", "out", "--mode", "request"] switchDirectory).exitCode = 0 := by
    decide +kernel
  obtain ⟨htoWrite, hexit⟩ := hwrites
  obtain ⟨⟨output, files⟩, hfiles, hnames⟩ := Option.map_eq_some_iff.1 htoWrite
  obtain ⟨rfl, hnames⟩ := Prod.mk.inj hnames
  obtain ⟨-, hwritten⟩ := hcommand.writes _ files hfiles
  refine ⟨files, hnames, (hcommand.prints _ files hfiles).1, ?_, hrun.kept⟩
  cases hresult : (Files.writeFiles switchDirectory "out" files).2 with
  | error error =>
    rw [hresult, hexit] at hwritten
    exact absurd hwritten.1 (by decide)
  | ok _ =>
    rw [hresult] at hwritten
    exact hwritten.2

end ClientSynthesis.CommandLine
