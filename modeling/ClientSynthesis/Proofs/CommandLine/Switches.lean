import ClientSynthesis.CommandLine.Arguments
import ClientSynthesis.Proofs.Report.Mirrors
import Mathlib.Data.List.TakeDrop

/-!
# A switch in front of the arguments

Arguments are read from left to right, and a switch is no more than recorded. With the dry-run
switch in front of them, arguments that do not give it themselves are therefore read in step with
what they are without it: at every argument both readings go on, and then they differ by the one
record (`Progress.Dry`), or both stop for the same reason.
-/

namespace ClientSynthesis.CommandLine

open Report (Mirrors)

/-! ### Readings in step -/

/-- The same progress but for the dry-run switch, which only the second one has recorded. -/
structure Progress.Dry (p q : Progress) : Prop where
  eq : q = { p with switches := p.switches ++ [.dryRun] }
  fresh : Switch.dryRun ∉ p.switches

namespace Progress

variable {p q : Progress}

/-! ### One argument -/

theorem Dry.store (h : p.Dry q) (slot : Slot) (value : String) :
    Mirrors Dry (p.store slot value) (q.store slot value) := by
  obtain ⟨rfl, hfresh⟩ := h
  unfold Progress.store
  dsimp only
  split
  · exact .error _
  · split
    · exact .ok ⟨rfl, hfresh⟩
    · exact .error _

theorem Dry.settle (h : p.Dry q) : Mirrors Dry p.settle q.settle := by
  obtain ⟨rfl, hfresh⟩ := h
  unfold Progress.settle
  dsimp only
  split
  · exact .ok ⟨rfl, hfresh⟩
  · exact .error _
  · exact Dry.store (p := { p with pending := none }) ⟨rfl, hfresh⟩ _ _

/-- Every other option is taken alike. -/
theorem Dry.takeOption (h : p.Dry q) {option : OptionName} (hoption : option ≠ .switch .dryRun) :
    Mirrors Dry (p.takeOption option) (q.takeOption option) := by
  refine .bind h.settle fun p q h ↦ ?_
  obtain ⟨rfl, hfresh⟩ := h
  cases option with
  | slot slot => exact .ok ⟨rfl, hfresh⟩
  | switch switch =>
    have hne : switch ≠ .dryRun := fun heq ↦ hoption (heq ▸ rfl)
    have hcontains :
        (p.switches ++ [Switch.dryRun]).contains switch = p.switches.contains switch := by
      simp [hne]
    dsimp only
    rw [hcontains]
    split
    · exact .error _
    · exact .ok ⟨rfl, fun hmem ↦ (List.mem_cons.1 hmem).elim (fun heq ↦ hne heq.symm) hfresh⟩
  | verbose => exact .ok ⟨rfl, hfresh⟩
  | help => exact .error _
  | version => exact .error _

theorem Dry.takeAttached (h : p.Dry q) (option : OptionName) (value : String) :
    Mirrors Dry (p.takeAttached option value) (q.takeAttached option value) := by
  cases option with
  | slot slot => exact .bind h.settle fun p q h ↦ h.store slot value
  | _ => exact .error _

theorem eq_of_ofWord?_eq_dryRun {word : String}
    (h : OptionName.ofWord? word = some (.switch .dryRun)) : word = "dry-run" := by
  unfold OptionName.ofWord? at h
  split at h <;> first | rfl | exact nomatch h

theorem Dry.takeWord (h : p.Dry q) {word : List Char} (hword : word ≠ "dry-run".toList) :
    Mirrors Dry (p.takeWord word) (q.takeWord word) := by
  unfold Progress.takeWord
  rw [List.span_eq_takeWhile_dropWhile]
  dsimp only
  split
  · exact .error _
  · next option hname hrest =>
    refine h.takeOption ?_
    rintro rfl
    -- Without an equals sign the name is the whole word.
    have hwhole := List.takeWhile_append_dropWhile (p := (· != '=')) (l := word)
    rw [hrest, List.append_nil] at hwhole
    rw [hwhole] at hname
    exact hword (by rw [← String.toList_ofList (l := word), eq_of_ofWord?_eq_dryRun hname])
  · exact h.takeAttached _ _

theorem Dry.takeLetters (h : p.Dry q) (letters : List Char) :
    Mirrors Dry (p.takeLetters letters) (q.takeLetters letters) := by
  induction letters generalizing p q with
  | nil => exact .ok h
  | cons letter rest ih =>
    rw [Progress.takeLetters, Progress.takeLetters]
    cases hletter : OptionName.ofLetter? letter with
    | none => exact .error _
    | some option =>
      refine .bind (h.takeOption ?_) fun p q h ↦ ih h
      rintro rfl
      unfold OptionName.ofLetter? at hletter
      split at hletter <;> exact nomatch hletter

theorem Dry.takeDirectory (h : p.Dry q) (directory : String) :
    Mirrors Dry (p.takeDirectory directory) (q.takeDirectory directory) := by
  have hdirectories : q.directories = p.directories := by rw [h.eq]
  unfold Progress.takeDirectory
  rw [hdirectories]
  let place (slot : Slot) (p : Progress) : Except Refusal Progress :=
    pure { p with pending := some (slot, some directory), directories := p.directories + 1 }
  have hplaced : ∀ slot, Mirrors Dry (p.settle >>= place slot) (q.settle >>= place slot) := by
    intro slot
    refine .bind h.settle fun p q h ↦ ?_
    obtain ⟨rfl, hfresh⟩ := h
    exact .ok ⟨rfl, hfresh⟩
  dsimp only
  split
  · exact hplaced .input
  · exact hplaced .output
  · exact .error _

theorem Dry.take (h : p.Dry q) {argument : String} (hargument : argument ≠ "--dry-run") :
    Mirrors Dry (p.take argument) (q.take argument) := by
  have hpending : q.pending = p.pending := by rw [h.eq]
  have honly : q.onlyDirectories = p.onlyDirectories := by rw [h.eq]
  unfold Progress.take
  rw [hpending, honly]
  split
  · exact h.takeDirectory argument
  · split
    · obtain ⟨rfl, hfresh⟩ := h
      exact .ok ⟨rfl, hfresh⟩
    · next word htext =>
      refine h.takeWord ?_
      rintro rfl
      exact hargument (String.toList_injective htext)
    · exact h.takeLetters _
    · split
      · obtain ⟨rfl, hfresh⟩ := h
        exact .ok ⟨rfl, hfresh⟩
      · exact h.takeDirectory argument

/-! ### All arguments -/

theorem Dry.foldlM_take (h : p.Dry q) {arguments : List String}
    (harguments : "--dry-run" ∉ arguments) :
    Mirrors Dry (arguments.foldlM Progress.take p) (arguments.foldlM Progress.take q) := by
  induction arguments generalizing p q with
  | nil => exact .ok h
  | cons argument rest ih =>
    obtain ⟨hfirst, hrest⟩ := List.ne_and_not_mem_of_not_mem_cons harguments
    rw [List.foldlM_cons, List.foldlM_cons]
    exact .bind (h.take hfirst.symm) fun p q h ↦ ih h hrest

/-- What has been asked for is the same, once with a dry run and once without. -/
theorem Dry.arguments (h : p.Dry q) :
    Mirrors (fun a b ↦ b = { a with dryRun := true } ∧ a.dryRun = false) p.arguments
      q.arguments := by
  obtain ⟨rfl, hfresh⟩ := h
  unfold Progress.arguments
  dsimp only
  split
  · exact .ok ⟨by simp, by simpa using hfresh⟩
  · exact .error _

end Progress

/-- **With the dry-run switch in front, arguments that do not give it themselves ask for the same
and for a dry run, or are refused for the same reason.** -/
theorem mirrors_parse {arguments : List String} (h : "--dry-run" ∉ arguments) :
    Mirrors (fun a b ↦ b = { a with dryRun := true } ∧ a.dryRun = false) (Arguments.parse arguments)
      (Arguments.parse ("--dry-run" :: arguments)) := by
  have hstart :
      Progress.start.take "--dry-run" = .ok { Progress.start with switches := [.dryRun] } := rfl
  have hdry : Progress.start.Dry { Progress.start with switches := [.dryRun] } :=
    ⟨rfl, List.not_mem_nil⟩
  have hread := (hdry.foldlM_take h).bind fun p q h ↦ h.settle.bind fun p q h ↦ h.arguments
  unfold Arguments.parse
  rw [List.foldlM_cons, hstart]
  exact hread

end ClientSynthesis.CommandLine
