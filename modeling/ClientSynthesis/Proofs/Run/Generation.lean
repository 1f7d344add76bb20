import ClientSynthesis.Proofs.Code.Layout
import ClientSynthesis.Proofs.Files.Output
import ClientSynthesis.Run.Generation

/-!
# What a run leaves behind

A run that fails before it writes has not touched the file system, not even to make the output
directory: `generate` starts to write with what `renderDirectory` returns, and the latter only reads.
From there on everything rests on the names of the files. Whatever the definitions are called, they
are plain names (`isPlainName_of_package`), so no file is written outside the output directory, and
none takes the place of another.
-/

namespace ClientSynthesis

open Assembly (NameMap Registry)
open Files (ExactlyWritten FileSystem IsPlainName joinPath)
open Text (Before)

/-! ### Names of generated files -/

namespace Code

open Naming (moduleName not_mem_moduleName)

theorem isPlainName_append_extension {name : String} (h : '/' ∉ name.toList) :
    IsPlainName (name ++ ".rs") := by
  have hlength : 3 ≤ (name ++ ".rs").length := by
    rw [String.length_append, show ".rs".length = 3 from rfl]
    omega
  refine ⟨by simp [h], ?_, ?_, ?_⟩
  · exact ne_of_apply_ne String.length (by rw [show "".length = 0 from rfl]; omega)
  · exact ne_of_apply_ne String.length (by rw [show ".".length = 1 from rfl]; omega)
  · exact ne_of_apply_ne String.length (by rw [show "..".length = 2 from rfl]; omega)

theorem isPlainName_fileName (definition : String) : IsPlainName (fileName definition) :=
  isPlainName_append_extension (not_mem_moduleName (by decide) definition)

theorem isPlainName_modFileName : IsPlainName modFileName :=
  isPlainName_append_extension (show '/' ∉ "mod".toList by decide)

/-- Every file of a package has a plain name. -/
theorem isPlainName_of_package {config : Config} {r : Registry} {files : NameMap String}
    (h : package config r = .ok files) : ∀ name ∈ files.names, IsPlainName name := by
  intro name hname
  obtain ⟨text, hentry⟩ := NameMap.mem_names_iff.1 hname
  have hget := (files.mem_entries_iff name text).1 hentry
  rcases (get?_eq_some_iff_of_package h).1 hget with ⟨d, -, rfl, -⟩ | ⟨-, rfl, -⟩
  · exact isPlainName_fileName d.name
  · exact isPlainName_modFileName

end Code

namespace Run

variable {fs : FileSystem} {mode : Mode} {input output : String} {config : Config}

/-! ### Stages of a run -/

/-- What a run renders is the package of some registry. -/
theorem exists_package_of_renderDirectory {files : NameMap String}
    (h : (renderDirectory fs mode input config).outcome = .ok files) :
    ∃ registry, Code.package config registry = .ok files := by
  obtain ⟨documents, -, h⟩ := Report.Traced.bind_outcome_eq_ok_iff.1 h
  obtain ⟨registry, -, h⟩ := Report.Traced.bind_outcome_eq_ok_iff.1 h
  obtain ⟨_, -, h⟩ := Report.Traced.bind_outcome_eq_ok_iff.1 h
  exact ⟨registry, Report.mapError_eq_ok_iff.1 h⟩

/-- The files of documents are the package of what the documents describe. -/
theorem renderDocuments_eq_ok_iff {documents : Json.Fields} {files : NameMap String} :
    (renderDocuments mode config documents).outcome = .ok files ↔
      ∃ registry, (interpret mode config documents).outcome = .ok registry ∧
        Code.package config registry = .ok files := by
  rw [renderDocuments, Report.Traced.bind_outcome_eq_ok_iff]
  simp only [Report.Traced.outcome_mapError, Report.mapError_eq_ok_iff]
  refine exists_congr fun registry ↦ and_congr_right fun _ ↦ ?_
  exact Report.mapError_eq_ok_iff

/-- Definitions with modules that are told apart can be rendered. -/
theorem exists_renderDocuments_of_definitions (mode : Mode) (config : Config)
    (documents : Json.Fields) {definitions : List Definition}
    (h : (interpret mode config documents).outcome.toOption.map Registry.definitions = some definitions)
    (hnodup : (definitions.map fun d ↦ Naming.moduleName d.name).Nodup)
    (hmod : config.modFile = true → "mod" ∉ definitions.map fun d ↦ Naming.moduleName d.name) :
    ∃ r files, (interpret mode config documents).outcome = .ok r ∧ r.definitions = definitions ∧
      Code.package config r = .ok files ∧
      (renderDocuments mode config documents).outcome = .ok files := by
  obtain ⟨r, hr, rfl⟩ := Option.map_eq_some_iff.1 h
  have hinterpret := Report.toOption_eq_some_iff.1 hr
  have hnames : r.names.map Naming.moduleName = r.definitions.map fun d ↦ Naming.moduleName d.name := by
    rw [Code.names_eq_map_definitions, List.map_map]
    rfl
  rw [← hnames] at hnodup hmod
  have hpackage := Code.package_eq_ok_iff.2 ⟨hnodup, hmod, rfl⟩
  exact ⟨r, _, hinterpret, rfl, hpackage, renderDocuments_eq_ok_iff.2 ⟨r, hinterpret, hpackage⟩⟩

theorem generate_of_error {failure : Failure}
    (h : (renderDirectory fs mode input config).outcome = .error failure) :
    generate fs mode input output config =
      (fs, .of (renderDirectory fs mode input config).trace (.error failure)) := by
  rw [generate, Report.Traced.run_eq, h]

theorem generate_of_ok {files : NameMap String} (output : String)
    (h : (renderDirectory fs mode input config).outcome = .ok files) :
    (generate fs mode input output config).1 = (Files.writeFiles fs output files).1 ∧
      (generate fs mode input output config).2.outcome =
        match (Files.writeFiles fs output files).2 with
        | .error error => .error (.during ("writing generated files to " ++ output) error)
        | .ok () => .ok files.size := by
  rw [generate, Report.Traced.run_eq, h]
  dsimp only
  cases Files.writeFiles fs output files with
  | mk after result =>
    cases result with
    | error error => exact ⟨rfl, Report.Traced.outcome_of _ _⟩
    | ok _ => exact ⟨rfl, Report.Traced.outcome_of _ _⟩

/-! ### All or nothing -/

/-- A run that cannot load, interpret or render leaves the file system as it is and ends in the failure.
Otherwise it writes what has been rendered: all files, and their number is the result; or none, since
the output directory cannot be made; or, if a file cannot be written, those whose names come before the
name of that one. -/
theorem generate_allOrNothing (fs : FileSystem) (mode : Mode) (input output : String)
    (config : Config) :
    (∀ failure, (renderDirectory fs mode input config).outcome = .error failure →
      (generate fs mode input output config).1 = fs ∧
        (generate fs mode input output config).2.outcome = .error failure) ∧
    ∀ files, (renderDirectory fs mode input config).outcome = .ok files →
      (∀ count, (generate fs mode input output config).2.outcome = .ok count →
        count = files.size ∧
          ExactlyWritten files output (fun _ ↦ True) fs (generate fs mode input output config).1) ∧
      ∀ failure, (generate fs mode input output config).2.outcome = .error failure →
        ∃ path kind, failure = .during ("writing generated files to " ++ output) (.file path kind) ∧
          (path = output ∧
              ExactlyWritten files output (fun _ ↦ False) fs
                (generate fs mode input output config).1 ∨
            ∃ name ∈ files.names, path = joinPath output name ∧
              ExactlyWritten files output (Before · name) fs
                (generate fs mode input output config).1) := by
  constructor
  · intro failure hrender
    rw [generate_of_error hrender]
    exact ⟨rfl, Report.Traced.outcome_of _ _⟩
  · intro files hrender
    obtain ⟨registry, hpackage⟩ := exists_package_of_renderDirectory hrender
    have hwritten := Files.writeFiles_outcome (Code.isPlainName_of_package hpackage) fs output
    obtain ⟨hafter, houtcome⟩ := generate_of_ok output hrender
    rw [hafter, houtcome]
    cases hresult : (Files.writeFiles fs output files).2 with
    | error error =>
      rw [hresult] at hwritten
      obtain ⟨path, kind, rfl, hwritten⟩ := hwritten
      refine ⟨nofun, fun failure hfailure ↦ ?_⟩
      obtain rfl := Except.error.inj hfailure
      exact ⟨path, kind, rfl, hwritten⟩
    | ok _ =>
      rw [hresult] at hwritten
      refine ⟨fun count hcount ↦ ?_, nofun⟩
      exact ⟨(Except.ok.inj hcount).symm, hwritten⟩

/-- A document that describes two enums. -/
def enumsText : String :=
  "\x7b\"a\":\x7b\"key\":\"a\",\"type\":\"enum\",\"typeName\":\"Alpha\",\"options\":[\"on\"]\x7d," ++
  "\"f\":\x7b\"key\":\"f\",\"type\":\"enum\",\"typeName\":\"Flag\",\"options\":[\"on\"]\x7d\x7d"

/-- A directory stands where the file of the second enum would be. -/
def besideDirectory : FileSystem where
  workingDirectory := []
  entries := [(["in"], .directory), (["in", "enums.json"], .file enumsText.toUTF8),
    (["out"], .directory), (["out", "flag.rs"], .directory)]

/-- The first file is written, and the second is not. -/
theorem generate_allOrNothing_of_besideDirectory :
    ∃ files, (renderDirectory besideDirectory .bodies "in" .default).outcome = .ok files ∧
      "alpha.rs" ∈ files.names ∧ Before "alpha.rs" "flag.rs" ∧
      ExactlyWritten files "out" (Before · "flag.rs") besideDirectory
        (generate besideDirectory .bodies "in" "out" .default).1 := by
  obtain ⟨-, hrun⟩ := generate_allOrNothing besideDirectory .bodies "in" "out" .default
  obtain ⟨hnames, houtcome⟩ :
      (renderDirectory besideDirectory .bodies "in" .default).outcome.toOption.map NameMap.names =
          some ["alpha.rs", "flag.rs"] ∧
        (generate besideDirectory .bodies "in" "out" .default).2.outcome =
          .error (.during "writing generated files to out" (.file "out/flag.rs" .isADirectory)) := by
    decide +kernel
  cases hrender : (renderDirectory besideDirectory .bodies "in" .default).outcome with
  | error failure =>
    rw [hrender] at hnames
    exact nomatch hnames
  | ok files =>
    rw [hrender] at hnames
    have hfiles : files.names = ["alpha.rs", "flag.rs"] := Option.some.inj hnames
    obtain ⟨path, kind, hfailure, hwritten⟩ := (hrun files hrender).2 _ houtcome
    obtain ⟨rfl, -⟩ : "out/flag.rs" = path ∧ Files.Kind.isADirectory = kind := by
      simpa [Failure.during] using hfailure
    refine ⟨files, rfl, by simp [hfiles], by decide +kernel, ?_⟩
    rcases hwritten with ⟨hpath, -⟩ | ⟨name, hname, hpath, hwritten⟩
    · exact absurd hpath (by decide)
    · rw [hfiles] at hname
      have hlast : name = "flag.rs" := by
        rcases List.mem_cons.1 hname with rfl | hname
        · exact absurd hpath (by decide +kernel)
        · exact List.mem_singleton.1 hname
      exact hlast ▸ hwritten

end Run

end ClientSynthesis
