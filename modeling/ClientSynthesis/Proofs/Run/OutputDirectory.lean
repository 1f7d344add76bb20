import ClientSynthesis.Proofs.Run.Generation

/-!
# The output directory

A definition may be called anything, and its name goes into the name of a file. What becomes of it is
made of name characters, none of which means anything in a path, and of the extension; so the name of
a generated file is a single component of a path (`isFileName_of_package`). A file system holds no
links here, so such a name leads to a place in the very directory that it is looked up in. A run
therefore changes nothing but places directly in its output directory, and makes at most directories
elsewhere (`generate_stays_in_output`).
-/

namespace ClientSynthesis

open Assembly (NameMap Registry)
open Files (DirectlyIn FileSystem IsPlainName)
open Files.FileSystem (KeptOutside)

namespace Code

open Naming (isNameChar isNameChar_of_mem_moduleName)

/-- The name of a file of program text: a single component of a path, with the extension. -/
structure IsFileName (name : String) : Prop extends IsPlainName name where
  backslash : '\\' ∉ name.toList
  nul : '\x00' ∉ name.toList
  extension : ".rs".toList <:+ name.toList

theorem isFileName_append_extension {stem : String} (h : ∀ c ∈ stem.toList, isNameChar c = true) :
    IsFileName (stem ++ ".rs") := by
  have hstem {c : Char} (hc : isNameChar c = false) : c ∉ stem.toList :=
    fun hmem ↦ absurd (h c hmem) (by simp [hc])
  have hslash : '/' ∉ stem.toList := hstem (by decide)
  have hbackslash : '\\' ∉ stem.toList := hstem (by decide)
  have hnul : '\x00' ∉ stem.toList := hstem (by decide)
  exact ⟨isPlainName_append_extension hslash, by simp [hbackslash], by simp [hnul], by simp⟩

/-- Every file of a package has the name of a file of program text, whatever the definitions are
called. -/
theorem isFileName_of_package {config : Config} {r : Registry} {files : NameMap String}
    (h : package config r = .ok files) : ∀ name ∈ files.names, IsFileName name := by
  intro name hname
  obtain ⟨text, hentry⟩ := NameMap.mem_names_iff.1 hname
  have hget := (files.mem_entries_iff name text).1 hentry
  rcases (get?_eq_some_iff_of_package h).1 hget with ⟨d, -, rfl, -⟩ | ⟨-, rfl, -⟩
  · exact isFileName_append_extension (isNameChar_of_mem_moduleName d.name)
  · have hmod : ∀ c ∈ "mod".toList, isNameChar c = true := List.all_eq_true.1 (by decide)
    exact isFileName_append_extension hmod

end Code

namespace Run

/-- A name of a file that a run has rendered. -/
def IsRenderedName (fs : FileSystem) (mode : Mode) (input : String) (config : Config)
    (name : String) : Prop :=
  ∃ files, (renderDirectory fs mode input config).outcome = .ok files ∧ name ∈ files.names

theorem isFileName_of_isRenderedName {fs : FileSystem} {mode : Mode} {input : String}
    {config : Config} {name : String} (h : IsRenderedName fs mode input config name) :
    Code.IsFileName name := by
  obtain ⟨files, hrender, hname⟩ := h
  obtain ⟨registry, hpackage⟩ := exists_package_of_renderDirectory hrender
  exact Code.isFileName_of_package hpackage name hname

/-- Whatever comes of it, a run changes the places of its files only. -/
theorem keptOutside_generate (fs : FileSystem) (mode : Mode) (input output : String)
    (config : Config) :
    KeptOutside
      (DirectlyIn (generate fs mode input output config).1 output
        (IsRenderedName fs mode input config))
      fs (generate fs mode input output config).1 := by
  cases hrender : (renderDirectory fs mode input config).outcome with
  | error failure =>
    rw [generate_of_error hrender]
    exact .refl _ fs
  | ok files =>
    obtain ⟨registry, hpackage⟩ := exists_package_of_renderDirectory hrender
    rw [(generate_of_ok output hrender).1]
    refine (Files.keptOutside_writeFiles (Code.isPlainName_of_package hpackage) fs output).mono ?_
    rintro place ⟨there, hthere, hdirectory, name, hname, hplace⟩
    exact ⟨there, hthere, hdirectory, name, ⟨files, hrender, hname⟩, hplace⟩

/-- **Generated files stay inside the output directory.** Whatever the definitions of a registry are
called, the names of its files are single components of a path. So, whatever comes of a run, it creates
and overwrites files only directly in the output directory, under names of that kind that it has
rendered; elsewhere everything is kept, and nothing is made but directories. -/
theorem generate_stays_in_output (config : Config) :
    (∀ registry files, Code.package config registry = .ok files →
      ∀ name ∈ files.names, Code.IsFileName name) ∧
    ∀ fs mode input output,
      KeptOutside
        (DirectlyIn (generate fs mode input output config).1 output fun name ↦
          Code.IsFileName name ∧ IsRenderedName fs mode input config name)
        fs (generate fs mode input output config).1 := by
  refine ⟨fun _ _ hpackage ↦ Code.isFileName_of_package hpackage, fun fs mode input output ↦ ?_⟩
  refine (keptOutside_generate fs mode input output config).mono ?_
  rintro place ⟨there, hthere, hdirectory, name, hname, hplace⟩
  exact ⟨there, hthere, hdirectory, name, ⟨isFileName_of_isRenderedName hname, hname⟩, hplace⟩

/-- A document that describes two enums, of which one is named by a path that leads out of the output
directory and the other by a slash. -/
def pathNamesText : String :=
  "\x7b\"a\":\x7b\"key\":\"a\",\"type\":\"enum\",\"typeName\":\"../../etc/passwd\"," ++
  "\"options\":[\"on\"]\x7d," ++
  "\"f\":\x7b\"key\":\"f\",\"type\":\"enum\",\"typeName\":\"/\",\"options\":[\"on\"]\x7d\x7d"

/-- The document stands in a directory of its own. -/
def pathNames : FileSystem where
  workingDirectory := ["home"]
  entries := [(["home"], .directory), (["home", "in"], .directory),
    (["home", "in", "names.json"], .file pathNamesText.toUTF8)]

theorem generate_stays_in_output_of_pathNames :
    ∃ registry files, Code.package .default registry = .ok files ∧
      files.names = [".rs", "etc_passwd.rs"] ∧ (∀ name ∈ files.names, Code.IsFileName name) ∧
      (generate pathNames .bodies "in" "out" .default).2.outcome = .ok 2 ∧
      KeptOutside
        (DirectlyIn (generate pathNames .bodies "in" "out" .default).1 "out" fun name ↦
          Code.IsFileName name ∧ IsRenderedName pathNames .bodies "in" .default name)
        pathNames (generate pathNames .bodies "in" "out" .default).1 := by
  obtain ⟨hfiles, hkept⟩ := generate_stays_in_output .default
  obtain ⟨hnames, houtcome⟩ :
      (renderDirectory pathNames .bodies "in" .default).outcome.toOption.map NameMap.names =
          some [".rs", "etc_passwd.rs"] ∧
        (generate pathNames .bodies "in" "out" .default).2.outcome = .ok 2 := by
    decide +kernel
  obtain ⟨files, hrender, hnames⟩ := Option.map_eq_some_iff.1 hnames
  obtain ⟨registry, hpackage⟩ :=
    exists_package_of_renderDirectory (Report.toOption_eq_some_iff.1 hrender)
  exact ⟨registry, files, hpackage, hnames, hfiles registry files hpackage, houtcome,
    hkept pathNames .bodies "in" "out"⟩

end Run

end ClientSynthesis
