import ProgramTrace.Launch
import ProgramTrace.Proofs.Files.Directory

/-!
# `ProgramTrace.Proofs.Launch` — which file a name runs.

`Launch.resolve` counts the components of a program's name and looks for a file where the name, joined to the
current directory, leads.  This comes to a question about the text and one file: `Launch.IsLocal` says that the name
holds no slash and that a regular file has it in the current directory.

* `Launch.resolve_eq` — a local name is run from the current directory, and any other is left as it is.  A name with
  a slash that has one component all the same is absolute, so that joining it changes nothing, or it asks for
  a directory, where no regular file is.
* `Launch.settled` — what is started and what is recorded, for every name, files, machine and arguments.
-/

namespace ProgramTrace

open Files (Store)

namespace Launch

variable {files : Store} {program : Text}

/-! ## Names in the current directory -/

/-- The path of a name in the current directory. -/
def inHere (name : Text) : Text := here ++ '/' :: name

/-- Whether a program is a file of the current directory: its name has no slash, and a regular file has it there,
links followed. -/
def IsLocal (files : Store) (program : Text) : Prop :=
  program ≠ [] ∧ '/' ∉ program ∧ files.isRegularFile (inHere program)

instance : Decidable (IsLocal files program) := inferInstanceAs (Decidable (_ ∧ _))

theorem slash_mem_inHere (name : Text) : '/' ∈ inHere name := by
  simp [inHere]

theorem inHere_ne (name : Text) : inHere name ≠ name := by
  intro e
  have longer : (inHere name).length = name.length + 2 := rfl
  rw [e] at longer
  omega

/-- Joined to the current directory, a path is walked from there, unless it is absolute. -/
theorem join_here (p : Text) : Files.Path.join here p = if Files.Path.isAbsolute p then p else inHere p := by
  unfold Files.Path.join inHere
  split
  · rfl
  · rw [if_neg (by decide)]

/-- A regular file has its bare name, with and without the current directory before it. -/
theorem isRegularFile_inHere (ne : program ≠ []) (h : '/' ∉ program) :
    files.isRegularFile (inHere program) = files.isRegularFile program := by
  have passable : (inHere program).contains '\x00' = program.contains '\x00' := by simp [inHere, here]
  rw [Store.isRegularFile, Store.isRegularFile, passable, inHere, here, Store.find_inHere ne h]

/-- The empty path is no file. -/
theorem ne_nil_of_isRegularFile (h : files.isRegularFile program) : program ≠ [] := by
  rintro rfl
  cases h

/-! ## Resolution -/

/-- A name with a slash that is run from the current directory is no regular file there. -/
theorem isRegularFile_of_slash (grounded : files.Grounded) (slash : '/' ∈ program)
    (one : (Files.Path.components program).length = 1) (relative : Files.Path.isAbsolute program = false) :
    files.isRegularFile (inHere program) = false :=
  Store.isRegularFile_of_asksDirectory grounded
    (Files.Path.asksDirectory_of_components (by decide) (by decide) slash one relative)

/-- **A local name is run from the current directory, and any other program is left as it is.** -/
theorem resolve_eq (grounded : files.Grounded) (program : Text) :
    resolve files program = if IsLocal files program then inHere program else program := by
  simp only [resolve, join_here]
  by_cases slash : '/' ∈ program
  · rw [if_neg (fun h : IsLocal files program => h.2.1 slash)]
    cases relative : Files.Path.isAbsolute program with
    | true => simp
    | false =>
      refine if_neg fun ⟨one, regular⟩ => ?_
      have none := isRegularFile_of_slash grounded slash one relative
      simp [none] at regular
  · by_cases empty : program = []
    · subst empty
      simp [IsLocal, Files.Path.components, Files.Path.names, Text.parts, Files.Path.isAbsolute]
    · have relative : Files.Path.isAbsolute program = false := by
        simpa using Files.Path.isAbsolute_append empty slash []
      simp [relative, IsLocal, empty, slash, Files.Path.length_components_of_notMem slash]

/-- How a program is settled on: what is started for it, and what is recorded of it. -/
structure Settled (files : Store) (program : Text) : Prop where
  /-- It is run from the current directory exactly if it is local. -/
  local_iff : resolve files program = inHere program ↔ IsLocal files program
  /-- What is not local is handed over unchanged. -/
  other : ¬IsLocal files program → resolve files program = program
  /-- A path is handed over unchanged, whatever it leads to and however many components it has. -/
  path : '/' ∈ program → resolve files program = program
  /-- What has been settled on is settled. -/
  again : resolve files (resolve files program) = resolve files program
  /-- A regular file of the current directory hides what its bare name is looked up as. -/
  hides : '/' ∉ program → files.isRegularFile program → resolve files program = inHere program
  /-- That path is the one that is executed, with the arguments as given.  The session, or the failure, has
  the program as given. -/
  launched (m : Machine) (arguments : List Text) :
    launch m files program arguments =
      match m.exec ⟨files, resolve files program, arguments⟩ with
      | .ok c =>
        .ok ({ program, arguments, startedAt := m.clock, elapsed := c.elapsed, exitStatus := c.ending.status? }, c)
      | .error cause => .error (.launch program cause)

/-- **What a name runs is decided by its slashes and one file.** -/
theorem settled (files : Store) (grounded : files.Grounded) (program : Text) : Settled files program := by
  have path {p : Text} (slash : '/' ∈ p) : resolve files p = p := by
    rw [resolve_eq grounded, if_neg fun h => h.2.1 slash]
  have ofLocal (h : IsLocal files program) : resolve files program = inHere program := by
    rw [resolve_eq grounded, if_pos h]
  have other (h : ¬IsLocal files program) : resolve files program = program := by
    rw [resolve_eq grounded, if_neg h]
  constructor
  case local_iff =>
    refine ⟨fun e => Decidable.byContradiction fun h => ?_, ofLocal⟩
    exact inHere_ne program (e.symm.trans (other h))
  case other => exact other
  case path => exact path
  case again =>
    by_cases h : IsLocal files program
    · rw [ofLocal h, path (slash_mem_inHere program)]
    · rw [other h, other h]
  case hides =>
    intro flat regular
    have ne := ne_nil_of_isRegularFile regular
    exact ofLocal ⟨ne, flat, (isRegularFile_inHere ne flat).trans regular⟩
  case launched =>
    intro m arguments
    rfl

/-- A directory with one file in it. -/
def workshop : Store := { nodes := [.directory 0 [("tool".toList, 1)], .file [] true], here := 0 }

/-- The file is run by its name, which hides another of that name elsewhere.  With a slash after it the name still has
one component, and is left as it is. -/
theorem settled_in_workshop :
    workshop.Grounded ∧ Settled workshop "tool".toList ∧ resolve workshop "tool".toList = "./tool".toList ∧
      (Files.Path.components "tool/.".toList).length = 1 ∧ resolve workshop "tool/.".toList = "tool/.".toList := by
  have grounded : workshop.Grounded := by decide
  have bare := settled workshop grounded "tool".toList
  have slash := settled workshop grounded "tool/.".toList
  exact ⟨grounded, bare, bare.hides (by decide) (by decide), by decide, slash.path (by decide)⟩

end Launch

end ProgramTrace
