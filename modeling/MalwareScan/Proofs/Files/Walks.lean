import MalwareScan.Proofs.Files.Paths
import Mathlib.Algebra.Ring.Nat
import Mathlib.Data.List.Lex
import Mathlib.Data.String.Basic

/-!
# What a walk finds

A walk reads each real directory below its start once, whatever the order of its list, and finds
the regular files that real paths lead to (`filesBelow_eq_ok`). A directory with too long a path
is reached at some time, and ends the walk (`filesBelow_eq_error`).
-/

namespace MalwareScan.Files

open scoped List

namespace Node

/-! ## The regular files below a node -/

mutual

/-- The real paths from a node to the regular files below it, in the order of the entries. -/
def regularFiles : Node → List (List String)
  | file _ => [[]]
  | directory entries => entryFiles entries
  | link _ => []

/-- The real paths to the regular files below the entries of a directory. -/
def entryFiles : List (String × Node) → List (List String)
  | [] => []
  | (name, node) :: entries => node.regularFiles.map (name :: ·) ++ entryFiles entries

end

/-- The files below a directory are those below its entries. -/
theorem entryFiles_eq (entries : List (String × Node)) :
    entryFiles entries = entries.flatMap fun entry => entry.2.regularFiles.map (entry.1 :: ·) := by
  induction entries with
  | nil => rfl
  | cons entry entries ih =>
      rw [entryFiles, ih]
      rfl

variable {node : Node} {names : List String}

/-- All files that real paths lead to are listed. -/
theorem Reaches.mem_regularFiles {content : Nat} (h : node.Reaches names (.file content)) :
    names ∈ node.regularFiles := by
  generalize htarget : Node.file content = target at h
  induction h with
  | here =>
      subst htarget
      exact List.mem_singleton_self _
  | @into entries name child names target hentry _ ih =>
      rw [regularFiles, entryFiles_eq]
      exact List.mem_flatMap.mpr ⟨(name, child), hentry, List.mem_map.mpr ⟨names, ih htarget, rfl⟩⟩

/-- All paths that are listed are real ones to files. -/
theorem IsSound.reaches_of_mem (hnode : node.IsSound) (h : names ∈ node.regularFiles) :
    ∃ content, node.Reaches names (.file content) := by
  induction hnode generalizing names with
  | file content =>
      obtain rfl := List.mem_singleton.mp h
      exact ⟨content, .here _⟩
  | link => cases h
  | directory _ _ _ ih =>
      rw [regularFiles, entryFiles_eq] at h
      obtain ⟨entry, hentry, hnames⟩ := List.mem_flatMap.mp h
      obtain ⟨rest, hrest, rfl⟩ := List.mem_map.mp hnames
      obtain ⟨content, hreaches⟩ := ih entry hentry hrest
      exact ⟨content, .into hentry hreaches⟩

/-- No path is listed twice. -/
theorem IsSound.nodup_regularFiles (hnode : node.IsSound) : node.regularFiles.Nodup := by
  induction hnode with
  | file => exact List.nodup_singleton _
  | link => exact List.nodup_nil
  | @directory entries _ hdistinct _ ih =>
      rw [regularFiles, entryFiles_eq, List.nodup_flatMap]
      refine ⟨fun entry hentry => (ih entry hentry).map (List.cons_injective), ?_⟩
      have hnames : entries.Pairwise fun a b => a.1 ≠ b.1 := List.pairwise_map.mp hdistinct
      refine hnames.imp fun hne path hleft hright => ?_
      obtain ⟨left, -, rfl⟩ := List.mem_map.mp hleft
      obtain ⟨right, -, heq⟩ := List.mem_map.mp hright
      exact hne (List.cons.inj heq).1.symm

end Node

/-! ## Walks -/

/-- A directory that is still to be read: its path and its entries. -/
structure Pending where
  path : String
  entries : List (String × Node)

namespace Pending

/-- The directory as a node. -/
def node (pending : Pending) : Node :=
  .directory pending.entries

/-- The paths of the regular files below the directory. -/
def files (pending : Pending) : List String :=
  pending.node.regularFiles.map (descend pending.path)

/-- Each real directory from this one on is read, unless its path is too long. -/
def IsOpen (fs : FileSystem) (pending : Pending) : Prop :=
  ∀ names entries, pending.node.Reaches names (.directory entries) →
    fs.readDirectory (descend pending.path names) =
      if maxPathLength < (descend pending.path names).utf8ByteSize then .error .nameTooLong
      else .ok entries

/-- The path of some real directory from this one on is too long. -/
def IsDeep (pending : Pending) : Prop :=
  ∃ names entries, pending.node.Reaches names (.directory entries) ∧
    maxPathLength < (descend pending.path names).utf8ByteSize

end Pending

section Entries

variable {fs : FileSystem} {path : String} {entries : List (String × Node)}

/-- The directories among the entries of the directory at `path`. -/
def subdirectories (path : String) : List (String × Node) → List Pending
  | [] => []
  | (name, .directory below) :: entries => ⟨join path name, below⟩ :: subdirectories path entries
  | (_, .file _) :: entries => subdirectories path entries
  | (_, .link _) :: entries => subdirectories path entries

/-- The paths of the regular files among the entries of the directory at `path`. -/
def directFiles (path : String) : List (String × Node) → List String
  | [] => []
  | (_, .directory _) :: entries => directFiles path entries
  | (name, .file _) :: entries => join path name :: directFiles path entries
  | (_, .link _) :: entries => directFiles path entries

/-- A directory has to be read too exactly if it is an entry. -/
theorem mem_subdirectories_iff {pending : Pending} :
    pending ∈ subdirectories path entries ↔
      ∃ name, (name, pending.node) ∈ entries ∧ pending.path = join path name := by
  induction entries with
  | nil => simp [subdirectories]
  | cons entry entries ih =>
      obtain ⟨name, node⟩ := entry
      cases node with
      | directory below =>
          obtain ⟨place, content⟩ := pending
          rw [subdirectories, List.mem_cons, ih]
          simp only [Pending.node, Pending.mk.injEq, List.mem_cons, Prod.mk.injEq,
            Node.directory.injEq]
          constructor
          · rintro (⟨rfl, rfl⟩ | ⟨other, hentry, hpath⟩)
            · exact ⟨name, .inl ⟨rfl, rfl⟩, rfl⟩
            · exact ⟨other, .inr hentry, hpath⟩
          · rintro ⟨other, ⟨rfl, rfl⟩ | hentry, hpath⟩
            · exact .inl ⟨hpath, rfl⟩
            · exact .inr ⟨other, hentry, hpath⟩
      | file | link => simp [subdirectories, ih, Pending.node]

/-- The entries of a directory add the directories and the files among them to a walk. -/
theorem foldl_add (path : String) (entries : List (String × Node)) (walk : Walk) :
    entries.foldl (Walk.add path) walk =
      ⟨(subdirectories path entries).reverse.map Pending.path ++ walk.pending,
        (directFiles path entries).reverse ++ walk.files⟩ := by
  induction entries generalizing walk with
  | nil => rfl
  | cons entry entries ih =>
      obtain ⟨name, node⟩ := entry
      rw [List.foldl_cons, ih]
      cases node <;> simp [Walk.add, subdirectories, directFiles]

/-- The directories among the entries count as much as the entries. -/
theorem sum_subdirectories (path : String) (entries : List (String × Node)) :
    ((subdirectories path entries).map fun pending => pending.node.directoryCount).sum =
      Node.entryDirectories entries := by
  induction entries with
  | nil => rfl
  | cons entry entries ih =>
      obtain ⟨name, node⟩ := entry
      rw [Node.entryDirectories, ← ih]
      cases node <;> simp [subdirectories, Node.directoryCount, Pending.node]

/-- The files below the entries are those among them, and those below the directories among them. -/
theorem perm_files (path : String) (entries : List (String × Node)) :
    ((subdirectories path entries).flatMap Pending.files ++ directFiles path entries).Perm
      ((Node.entryFiles entries).map (descend path)) := by
  induction entries with
  | nil => exact .nil
  | cons entry entries ih =>
      obtain ⟨name, node⟩ := entry
      rw [Node.entryFiles, List.map_append, List.map_map]
      cases node with
      | directory below =>
          have hbelow : (Pending.mk (join path name) below).files =
              (Node.directory below).regularFiles.map (descend path ∘ (name :: ·)) := rfl
          rw [← hbelow, subdirectories, directFiles, List.flatMap_cons, List.append_assoc]
          exact ih.append_left _
      | file content => exact (List.perm_middle (a := join path name)).trans (ih.cons _)
      | link target => exact ih

end Entries

/-! ## Runs of a walk -/

section Runs

variable {fs : FileSystem} {pending : Pending}

/-- The directories below an open one are open. -/
theorem Pending.IsOpen.subdirectory (h : pending.IsOpen fs) {child : Pending}
    (hchild : child ∈ subdirectories pending.path pending.entries) : child.IsOpen fs := by
  obtain ⟨name, hentry, hpath⟩ := mem_subdirectories_iff.mp hchild
  intro names below hreaches
  rw [hpath]
  exact h (name :: names) below (.into hentry hreaches)

/-- A directory below which a path is too long has such a path itself. -/
theorem Pending.IsDeep.of_subdirectory {child : Pending}
    (hchild : child ∈ subdirectories pending.path pending.entries) (h : child.IsDeep) :
    pending.IsDeep := by
  obtain ⟨name, hentry, hpath⟩ := mem_subdirectories_iff.mp hchild
  obtain ⟨names, below, hreaches, hlong⟩ := h
  rw [hpath] at hlong
  exact ⟨name :: names, below, .into hentry hreaches, hlong⟩

/-- If a path below a directory is too long, it is that of the directory or one below an entry. -/
theorem Pending.IsDeep.long_or_exists (h : pending.IsDeep) :
    maxPathLength < pending.path.utf8ByteSize ∨
    ∃ child ∈ subdirectories pending.path pending.entries, child.IsDeep := by
  obtain ⟨names, below, hreaches, hlong⟩ := h
  cases hreaches with
  | here => exact .inl hlong
  | @into _ name child names _ hentry hrest =>
      refine .inr ?_
      cases child with
      | directory others =>
          exact ⟨⟨join pending.path name, others⟩, mem_subdirectories_iff.mpr ⟨name, hentry, rfl⟩,
            names, below, hrest, hlong⟩
      | file | link => cases hrest

/-- How many directories are at least read for these. -/
def work (pendings : List Pending) : Nat :=
  (pendings.map fun pending => pending.node.directoryCount).sum

/-- One directory less is to be read once its entries were added. -/
theorem work_subdirectories (pending : Pending) (pendings : List Pending) :
    work ((subdirectories pending.path pending.entries).reverse ++ pendings) + 1 =
      work (pending :: pendings) := by
  have hcount : pending.node.directoryCount = Node.entryDirectories pending.entries + 1 := rfl
  rw [work, List.map_append, List.sum_append, List.map_reverse, List.sum_reverse,
    sum_subdirectories, work, List.map_cons, List.sum_cons, hcount]
  omega

/-- A walk goes on from a directory that can be read. -/
theorem run_cons {fuel : Nat} (pending : Pending) (pendings : List Pending) (files : List String)
    (hread : fs.readDirectory pending.path = .ok pending.entries) :
    Walk.run fs (fuel + 1) ⟨(pending :: pendings).map Pending.path, files⟩ =
      Walk.run fs fuel
        ⟨((subdirectories pending.path pending.entries).reverse ++ pendings).map Pending.path,
          (directFiles pending.path pending.entries).reverse ++ files⟩ := by
  rw [List.map_cons, Walk.run, hread, List.map_append]
  exact congrArg (Walk.run fs fuel) (foldl_add _ _ _)

/-- A walk finds the files below all directories that are to be read, if no path is too long. -/
theorem run_eq_ok {fuel : Nat} {pendings : List Pending} (files : List String)
    (hfuel : work pendings ≤ fuel) (hopen : ∀ pending ∈ pendings, pending.IsOpen fs)
    (hshort : ∀ pending ∈ pendings, ¬ pending.IsDeep) :
    ∃ found, Walk.run fs fuel ⟨pendings.map Pending.path, files⟩ = .ok found ∧
      found.Perm (pendings.flatMap Pending.files ++ files) := by
  induction fuel generalizing pendings files with
  | zero =>
      cases pendings with
      | nil => exact ⟨files, rfl, .refl _⟩
      | cons pending pendings =>
          have hwork := work_subdirectories pending pendings
          omega
  | succ fuel ih =>
      cases pendings with
      | nil => exact ⟨files, rfl, .refl _⟩
      | cons pending pendings =>
          have hhead := hopen pending List.mem_cons_self
          have hnotDeep := hshort pending List.mem_cons_self
          have hread : fs.readDirectory pending.path = .ok pending.entries := by
            have hread := hhead [] pending.entries (.here _)
            rwa [if_neg fun hlong => hnotDeep ⟨[], pending.entries, .here _, hlong⟩] at hread
          have hwork := work_subdirectories pending pendings
          have hnext : ∀ next ∈ (subdirectories pending.path pending.entries).reverse ++ pendings,
              next.IsOpen fs ∧ ¬ next.IsDeep := by
            intro next hnext
            rcases List.mem_append.mp hnext with hchild | hrest
            · exact ⟨hhead.subdirectory (List.mem_reverse.mp hchild),
                fun hdeep => hnotDeep (.of_subdirectory (List.mem_reverse.mp hchild) hdeep)⟩
            · exact ⟨hopen next (List.mem_cons_of_mem _ hrest),
                hshort next (List.mem_cons_of_mem _ hrest)⟩
          obtain ⟨found, hrun, hperm⟩ :=
            ih ((directFiles pending.path pending.entries).reverse ++ files)
            (by omega) (fun next h => (hnext next h).1) fun next h => (hnext next h).2
          refine ⟨found, (run_cons pending pendings files hread).trans hrun, hperm.trans ?_⟩
          rw [List.flatMap_append, List.flatMap_cons, List.append_assoc, List.append_assoc]
          have hchildren := (List.reverse_perm
            (subdirectories pending.path pending.entries)).flatMap_right Pending.files
          have hdirect := (List.reverse_perm
            (directFiles pending.path pending.entries)).append_right files
          calc _ ~ _ := hchildren.append (hdirect.append_left (pendings.flatMap Pending.files))
            _ ~ _ := .append_left _ (List.perm_append_comm_assoc ..)
            _ = _ := (List.append_assoc ..).symm
            _ ~ _ := (perm_files pending.path pending.entries).append_right _

/-- A walk ends where it reaches a directory whose path is too long. -/
theorem run_eq_error {fuel : Nat} {pendings : List Pending} (files : List String)
    (hfuel : work pendings ≤ fuel) (hopen : ∀ pending ∈ pendings, pending.IsOpen fs)
    (hdeep : ∃ pending ∈ pendings, pending.IsDeep) :
    Walk.run fs fuel ⟨pendings.map Pending.path, files⟩ = .error .nameTooLong := by
  obtain ⟨deep, hmem, hdeep⟩ := hdeep
  induction fuel generalizing pendings files deep with
  | zero =>
      cases pendings with
      | nil => cases hmem
      | cons pending pendings =>
          have hwork := work_subdirectories pending pendings
          omega
  | succ fuel ih =>
      cases pendings with
      | nil => cases hmem
      | cons pending pendings =>
          have hhead := hopen pending List.mem_cons_self
          have hread := hhead [] pending.entries (.here _)
          split at hread
          next hlong =>
            rw [List.map_cons, Walk.run]
            show (fs.readDirectory pending.path).bind _ = _
            rw [show fs.readDirectory pending.path = _ from hread]
            rfl
          next hlength =>
            rw [run_cons pending pendings files hread]
            have hwork := work_subdirectories pending pendings
            have hnext : ∀ next ∈ (subdirectories pending.path pending.entries).reverse ++ pendings,
                next.IsOpen fs := by
              intro next hnext
              rcases List.mem_append.mp hnext with hchild | hrest
              · exact hhead.subdirectory (List.mem_reverse.mp hchild)
              · exact hopen next (List.mem_cons_of_mem _ hrest)
            rcases List.mem_cons.mp hmem with rfl | hrest
            · obtain ⟨child, hchild, hdeep⟩ := hdeep.long_or_exists.resolve_left hlength
              exact ih _ (by omega) hnext child
                (List.mem_append_left _ (List.mem_reverse.mpr hchild)) hdeep
            · exact ih _ (by omega) hnext deep (List.mem_append_right _ hrest) hdeep

end Runs

/-! ## The files below a directory -/

variable {fs : FileSystem} {path : String} {entries : List (String × Node)}

/-- Where a path leads to a directory of a sound tree, each directory below can be read, unless its
path is too long. -/
theorem isOpen_of_find (hroot : fs.root.IsSound) (hfind : fs.find path = .ok (.directory entries)) :
    (Pending.mk path entries).IsOpen fs := by
  intro names below hreaches
  rw [FileSystem.readDirectory, find_descend hroot hfind hreaches nofun]
  split <;> rfl

/-- The paths to files below a directory have names in them. -/
theorem ne_nil_of_mem_regularFiles {names : List String} (hnode : (Node.directory entries).IsSound)
    (h : names ∈ (Node.directory entries).regularFiles) : names ≠ [] := by
  rintro rfl
  obtain ⟨content, hreaches⟩ := hnode.reaches_of_mem h
  cases hreaches

/-- No two files below a directory have the same components in their paths. -/
theorem nodup_components (hnode : (Node.directory entries).IsSound) :
    ((Pending.mk path entries).files.map components).Nodup := by
  have hcomponents : (Pending.mk path entries).files.map components =
      (Node.directory entries).regularFiles.map (stem path ++ ·) := by
    rw [Pending.files, List.map_map]
    refine List.map_congr_left fun names hnames => ?_
    obtain ⟨content, hreaches⟩ := hnode.reaches_of_mem hnames
    exact components_descend (hreaches.isName hnode) (ne_nil_of_mem_regularFiles hnode hnames)
  rw [hcomponents]
  exact hnode.nodup_regularFiles.map fun _ _ h => List.append_cancel_left h

/-- Sorted paths are in strictly increasing order if no two have the same components. -/
theorem pairwise_mergeSort_pathLe {files : List String} (h : (files.map components).Nodup) :
    (files.mergeSort pathLe).Pairwise fun a b => components a < components b := by
  have hle : ∀ a b, pathLe a b = true ↔ components a ≤ components b := fun a b => by
    rw [pathLe, Bool.not_eq_true', decide_eq_false_iff_not, not_lt]
  have hsorted : (files.mergeSort pathLe).Pairwise fun a b => pathLe a b = true :=
    List.pairwise_mergeSort
      (fun a b c hab hbc => (hle a c).mpr (le_trans ((hle a b).mp hab) ((hle b c).mp hbc)))
      (fun a b => by rw [Bool.or_eq_true, hle, hle]; exact le_total _ _) files
  have hdistinct : (files.mergeSort pathLe).Pairwise fun a b => components a ≠ components b :=
    List.pairwise_map.mp (((List.mergeSort_perm files pathLe).map components).nodup_iff.mpr h)
  exact (hsorted.and hdistinct).imp fun hboth => lt_of_le_of_ne ((hle _ _).mp hboth.1) hboth.2

/-- The files below a directory are found if no path is too long: each of them once, in the order of
the components of their paths. -/
theorem filesBelow_eq_ok (hroot : fs.root.IsSound)
    (hfind : fs.find path = .ok (.directory entries))
    (hshort : ¬ (Pending.mk path entries).IsDeep) :
    ∃ files, fs.filesBelow path (.directory entries) = .ok files ∧
      files.Pairwise (fun a b => components a < components b) ∧
      ∀ file, file ∈ files ↔ ∃ names content,
        (Node.directory entries).Reaches names (.file content) ∧ file = descend path names := by
  have hnode := isSound_of_find hroot hfind
  have hopen : ∀ pending ∈ [Pending.mk path entries], pending.IsOpen fs := by
    simpa using isOpen_of_find hroot hfind
  obtain ⟨found, hrun, hperm⟩ :=
    run_eq_ok [] (Nat.le_of_eq (Nat.add_zero _)) hopen (by simpa using hshort)
  rw [List.flatMap_singleton, List.append_nil] at hperm
  refine ⟨found.mergeSort pathLe, ?_, ?_, fun file => ?_⟩
  · rw [FileSystem.filesBelow]
    exact congrArg (Except.bind · _) hrun
  · exact pairwise_mergeSort_pathLe ((hperm.map components).nodup_iff.mpr (nodup_components hnode))
  · rw [(List.mergeSort_perm found pathLe).mem_iff, hperm.mem_iff, Pending.files, List.mem_map]
    constructor
    · rintro ⟨names, hnames, rfl⟩
      obtain ⟨content, hreaches⟩ := hnode.reaches_of_mem hnames
      exact ⟨names, content, hreaches, rfl⟩
    · rintro ⟨names, content, hreaches, rfl⟩
      exact ⟨names, hreaches.mem_regularFiles, rfl⟩

/-- If the path of a directory below is too long, this is what the files are missing for. -/
theorem filesBelow_eq_error (hroot : fs.root.IsSound)
    (hfind : fs.find path = .ok (.directory entries)) (hdeep : (Pending.mk path entries).IsDeep) :
    fs.filesBelow path (.directory entries) = .error .nameTooLong := by
  have hopen : ∀ pending ∈ [Pending.mk path entries], pending.IsOpen fs := by
    simpa using isOpen_of_find hroot hfind
  have hrun := run_eq_error [] (Nat.le_of_eq (Nat.add_zero _)) hopen
    ⟨_, List.mem_singleton_self _, hdeep⟩
  rw [FileSystem.filesBelow]
  exact congrArg (Except.bind · _) hrun

end MalwareScan.Files
