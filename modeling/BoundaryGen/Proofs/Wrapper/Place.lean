-- Where the source of a unit goes: below the directory of sources, through the parts of its package
-- to a file that is named for the model. Neither the classes around a model nor empty parts of its
-- package leave a trace there.
import Mathlib
import BoundaryGen.Output
import BoundaryGen.Proofs.Files.Destination

namespace BoundaryGen

variable {out : String}

namespace WrapperUnit

variable {u v : WrapperUnit}

/-- Where the source of a unit goes. -/
def destination (out : String) (u : WrapperUnit) : Trail := FileTree.destination (u.path out)

/-- The parts of the package of a unit, without the empty ones. -/
def packageParts (u : WrapperUnit) : List String :=
  ((Path.splitAt '.' u.package.toList).map String.ofList).filter (!·.isEmpty)

/-- The name of the file of a unit. -/
def file (u : WrapperUnit) : String := u.fileName ++ "." ++ Kotlin.fileExtension

/-- Two units have the same parts of their package and the same name of their file. -/
def SharesFile (u v : WrapperUnit) : Prop :=
  u.packageParts = v.packageParts ∧ u.fileName = v.fileName

instance : Decidable (SharesFile u v) := inferInstanceAs (Decidable (_ ∧ _))

/-! ## Names on the way -/

theorem isName_kotlin : Path.IsName "kotlin" := by decide

theorem isName_resources : Path.IsName "resources" := by decide

/-- A part of a package has no dots, so that it names a directory. -/
theorem isName_of_mem_packageParts (h : '/' ∉ u.package.toList) {part : String}
    (hp : part ∈ u.packageParts) : Path.IsName part := by
  obtain ⟨hmem, hne⟩ := List.mem_filter.mp hp
  obtain ⟨piece, hpiece, rfl⟩ := List.mem_map.mp hmem
  have hchars {c : Char} (hc : c ∈ (String.ofList piece).toList) :
      c ∈ u.package.toList ∧ c ≠ '.' := by
    rw [String.toList_ofList] at hc
    exact Path.mem_of_mem_splitAt hpiece hc
  exact {
    noSlash := fun hslash => h (hchars hslash).1
    nonempty := by simpa using hne
    noDot := fun heq => (hchars (c := '.') (by rw [heq]; decide)).2 rfl
    noDots := fun heq => (hchars (c := '.') (by rw [heq]; decide)).2 rfl }

theorem toList_file (u : WrapperUnit) : u.file.toList = u.fileName.toList ++ ['.', 'k', 't'] := by
  rw [file, String.toList_append, String.toList_append, List.append_assoc]
  rfl

theorem isName_file (h : '/' ∉ u.fileName.toList) : Path.IsName u.file where
  noSlash hslash := by
    rw [toList_file, List.mem_append] at hslash
    rcases hslash with hslash | hslash
    · exact h hslash
    · revert hslash
      decide
  nonempty heq := by
    have hlength := congrArg (·.toList.length) heq
    simp [toList_file] at hlength
  noDot heq := by
    have hlength := congrArg (·.toList.length) heq
    simp [toList_file] at hlength
  noDots heq := by
    have hlength := congrArg (·.toList.length) heq
    simp [toList_file] at hlength

theorem file_injective (h : u.file = v.file) : u.fileName = v.fileName := by
  have hchars := congrArg String.toList h
  rw [toList_file, toList_file] at hchars
  exact String.toList_injective (List.append_cancel_right hchars)

/-! ## Destinations -/

theorem relativePath_eq (u : WrapperUnit) :
    Kotlin.relativePath u = Path.join (Path.ofParts u.packageParts) u.file := rfl

/-- A unit goes through the parts of its package to its file. -/
theorem destination_eq (hpackage : '/' ∉ u.package.toList) (hname : '/' ∉ u.fileName.toList)
    (out : String) :
    u.destination out =
      FileTree.destination out ++ ["kotlin"] ++ u.packageParts ++ [u.file] := by
  have hparts (part : String) (hp : part ∈ u.packageParts) := isName_of_mem_packageParts hpackage hp
  have hfile := isName_file hname
  have habsolute : Path.isAbsolute (Kotlin.relativePath u) = false := by
    rw [relativePath_eq]
    exact Path.isAbsolute_join (FileTree.isAbsolute_extend hparts rfl) hfile.notAbsolute
  rw [destination, FileTree.destination, path, FileTree.leadFrom_join [] habsolute,
    FileTree.leadFrom_join [] isName_kotlin.notAbsolute, FileTree.leadFrom_of_isName isName_kotlin,
    relativePath_eq, FileTree.leadFrom_join _ hfile.notAbsolute,
    FileTree.leadFrom_of_isName hfile, Path.ofParts, FileTree.leadFrom_extend _ hparts]
  rfl

/-- Two units go to one place exactly when they share their file. -/
theorem destination_eq_iff (hu : '/' ∉ u.package.toList ∧ '/' ∉ u.fileName.toList)
    (hv : '/' ∉ v.package.toList ∧ '/' ∉ v.fileName.toList) :
    u.destination out = v.destination out ↔ u.SharesFile v := by
  rw [destination_eq hu.1 hu.2, destination_eq hv.1 hv.2]
  constructor
  · intro h
    obtain ⟨hbefore, hfile⟩ := List.append_inj' h rfl
    exact ⟨List.append_cancel_left hbefore, file_injective (List.cons.inj hfile).1⟩
  · rintro ⟨hparts, hname⟩
    rw [hparts, file, file, hname]

/-- A manifest under a name goes beside the directory of sources. -/
theorem destination_ne_manifestPath (hpackage : '/' ∉ u.package.toList)
    (hname : '/' ∉ u.fileName.toList) {config : Config} (hfile : Path.IsName config.manifestFile) :
    u.destination out ≠ FileTree.destination (config.manifestPath out) := by
  have hmanifest : FileTree.destination (config.manifestPath out) =
      FileTree.destination out ++ ["resources"] ++ [config.manifestFile] := by
    show FileTree.leadFrom [] (Path.join (Path.join out "resources") config.manifestFile) = _
    rw [FileTree.leadFrom_join [] hfile.notAbsolute, FileTree.leadFrom_of_isName hfile,
      FileTree.leadFrom_join [] isName_resources.notAbsolute,
      FileTree.leadFrom_of_isName isName_resources]
    rfl
  rw [destination_eq hpackage hname, hmanifest]
  intro heq
  simp only [List.append_assoc] at heq
  have hhead := (List.cons.inj (List.append_cancel_left heq)).1
  revert hhead
  decide

end WrapperUnit

/-- A unit keeps slashes out of the name of its file. -/
theorem Snapshot.noSlash_fileName_unit {m : Model} (hname : '/' ∉ m.name.toList) (s : Snapshot)
    (config : Config) : '/' ∉ (s.unit config m).1.fileName.toList := by
  show '/' ∉ (m.name ++ "Kirok").toList
  rw [String.toList_append, List.mem_append, not_or]
  exact ⟨hname, by decide⟩

/-- The unit of a model keeps slashes out of its package and of the name of its file. -/
theorem Snapshot.noSlash_unit {s : Snapshot} {config : Config} {m : Model}
    (hpackage : '/' ∉ m.package.toList) (hname : '/' ∉ m.name.toList)
    (hsuffix : '/' ∉ config.packageSuffix.toList) :
    '/' ∉ (s.unit config m).1.package.toList ∧ '/' ∉ (s.unit config m).1.fileName.toList := by
  refine ⟨?_, s.noSlash_fileName_unit hname config⟩
  show '/' ∉ (config.generatedPackage m.package).toList
  unfold Config.generatedPackage
  split
  · rw [String.toList_ofList]
    intro h
    exact hsuffix ((List.dropWhile_sublist _).mem h)
  · rw [String.toList_append, List.mem_append, not_or]
    exact ⟨hpackage, hsuffix⟩

end BoundaryGen
