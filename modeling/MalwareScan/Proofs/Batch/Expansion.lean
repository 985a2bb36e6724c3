import MalwareScan.Batch.Target
import MalwareScan.Proofs.Files.Walks

/-!
# What a directory stands for

A directory that a user names stands for the regular files that real paths lead to from it. No
link in it is followed, though the path that the user gives may lead through links. The files come
in the order of the components of their paths, whatever order the system lists entries in. The one
thing that may go wrong is a directory whose path has become longer than the system takes.
-/

namespace MalwareScan

open Files

variable {fs other : FileSystem} {text : String} {entries : List (String × Node)}

/-- The file systems differ at most in the order of the entries of their directories. -/
structure Files.FileSystem.Relisted (fs other : FileSystem) : Prop where
  root : fs.root.Relisted other.root
  contents : other.contents = fs.contents
  work : other.work = fs.work

/-- All real directories from the one at `text` on have paths that the system takes. -/
def ShortBelow (text : String) (entries : List (String × Node)) : Prop :=
  ∀ names below, (Node.directory entries).Reaches names (.directory below) →
    (descend text names).utf8ByteSize ≤ maxPathLength

/-- Directories are short unless one of them is too deep. -/
theorem shortBelow_iff : ShortBelow text entries ↔ ¬ (Pending.mk text entries).IsDeep := by
  constructor
  · rintro hshort ⟨names, below, hreaches, hlong⟩
    exact Nat.not_lt.mpr (hshort names below hreaches) hlong
  · intro hdeep names below hreaches
    exact Nat.not_lt.mp fun hlong => hdeep ⟨names, below, hreaches, hlong⟩

namespace Target

/-- A directory stands for the files below it. -/
theorem expand_directory (hremote : ObjectLocator.isRemote text = false)
    (hfind : fs.find text = .ok (.directory entries)) :
    expand fs text = match fs.filesBelow text (.directory entries) with
      | .ok files => .ok (files.map .file)
      | .error fault => .error (.io fault.toIoFault) := by
  rw [expand, hremote, hfind]
  rfl

/-- The path of a file below a directory does not lead through a link there. -/
theorem ne_descend_behind_link (hsound : (Node.directory entries).IsSound)
    {front rest names : List String} {link : String} {content : Nat}
    (hlink : (Node.directory entries).Reaches front (.link link))
    (hrest : ∀ name ∈ rest, IsName name)
    (hfile : (Node.directory entries).Reaches names (.file content)) :
    descend text (front ++ rest) ≠ descend text names := by
  intro heq
  have hproper : ∀ name ∈ front ++ rest, IsName name := by
    intro name hname
    rcases List.mem_append.mp hname with hfront | hback
    · exact hlink.isName hsound name hfront
    · exact hrest name hback
  have hstem := congrArg stem heq
  rw [stem_descend hproper, stem_descend (hfile.isName hsound)] at hstem
  obtain rfl := List.append_cancel_left hstem
  exact hlink.not_file_behind_link hsound hfile

/-- Two lists in the order of components that have the same paths are the same. -/
theorem eq_of_pairwise {files others : List String}
    (hfiles : files.Pairwise fun a b => components a < components b)
    (hothers : others.Pairwise fun a b => components a < components b)
    (hsame : ∀ file, file ∈ files ↔ file ∈ others) : files = others := by
  have hnodup : ∀ {paths : List String},
      (paths.Pairwise fun a b => components a < components b) → paths.Nodup := fun h =>
    h.imp fun hlt heq => absurd (congrArg components heq) (ne_of_lt hlt)
  exact ((List.perm_ext_iff_of_nodup (hnodup hfiles) (hnodup hothers)).mpr hsame).eq_of_pairwise
    (fun a b _ _ hab hba => absurd hab (lt_asymm hba)) hfiles hothers

/-- What a directory stands for does not depend on the order in which entries are listed. -/
theorem filesBelow_of_relisted {others : List (String × Node)} (hroot : fs.root.IsSound)
    (hother : other.root.IsSound) (hfind : fs.find text = .ok (.directory entries))
    (hfindOther : other.find text = .ok (.directory others))
    (h : (Node.directory entries).Relisted (.directory others)) :
    other.filesBelow text (.directory others) = fs.filesBelow text (.directory entries) := by
  have hdeep : (Pending.mk text entries).IsDeep ↔ (Pending.mk text others).IsDeep := by
    have hnames := h.exists_directory_iff
    constructor
    · rintro ⟨names, below, hreaches, hlong⟩
      obtain ⟨more, hmore⟩ := (hnames names).mp ⟨below, hreaches⟩
      exact ⟨names, more, hmore, hlong⟩
    · rintro ⟨names, below, hreaches, hlong⟩
      obtain ⟨more, hmore⟩ := (hnames names).mpr ⟨below, hreaches⟩
      exact ⟨names, more, hmore, hlong⟩
  by_cases hlong : (Pending.mk text entries).IsDeep
  · rw [filesBelow_eq_error hroot hfind hlong,
      filesBelow_eq_error hother hfindOther (hdeep.mp hlong)]
  · obtain ⟨files, hfiles, hsorted, hmem⟩ := filesBelow_eq_ok hroot hfind hlong
    obtain ⟨otherFiles, hotherFiles, hotherSorted, hotherMem⟩ :=
      filesBelow_eq_ok hother hfindOther (mt hdeep.mpr hlong)
    have hsame : ∀ file, file ∈ otherFiles ↔ file ∈ files := by
      intro file
      simp only [hmem, hotherMem, h.reaches_file_iff]
    rw [hfiles, hotherFiles, eq_of_pairwise hotherSorted hsorted hsame]

/-- What a text stands for does not depend on the order in which entries are listed. -/
theorem expand_of_relisted (hroot : fs.root.IsSound) (h : fs.Relisted other) (text : String) :
    expand other text = expand fs text := by
  by_cases hremote : ObjectLocator.isRemote text = true
  · rw [expand, expand, if_pos hremote, if_pos hremote]
  rw [Bool.not_eq_true] at hremote
  rcases find_of_relisted hroot h.root h.work text with
    ⟨fault, hfind, hother⟩ | ⟨node, otherNode, hfind, hother, -, hrelisted⟩
  · rw [expand, expand, hfind, hother]
  · cases node with
    | directory entries =>
        cases otherNode with
        | directory others =>
            rw [expand_directory hremote hfind, expand_directory hremote hother,
              filesBelow_of_relisted hroot (h.root.isSound hroot) hfind hother hrelisted]
        | file | link => cases hrelisted
    | file | link =>
        cases hrelisted
        rw [expand, expand, hfind, hother]
        rfl

/-! ## Directories -/

/-- A directory of a sound tree stands for the regular files that real paths lead to from it, if
the system takes the path of each directory on the way: all of them, each once, in strictly
increasing order of the components of their paths, and none behind a link. A directory with a
longer path is the reason why there is no answer. The order in which the system lists entries
never matters. -/
theorem expands_to_regular_files (fs : FileSystem) (text : String) (entries : List (String × Node))
    (hroot : fs.root.IsSound) (hremote : ObjectLocator.isRemote text = false)
    (hfind : fs.find text = .ok (.directory entries)) :
    (ShortBelow text entries → ∃ files : List String,
      expand fs text = .ok (files.map .file) ∧
      (files.Pairwise fun a b => components a < components b) ∧
      (∀ file, file ∈ files ↔ ∃ names content,
        (Node.directory entries).Reaches names (.file content) ∧ file = descend text names) ∧
      ∀ front rest link, (Node.directory entries).Reaches front (.link link) →
        (∀ name ∈ rest, IsName name) → descend text (front ++ rest) ∉ files) ∧
    (¬ ShortBelow text entries →
      expand fs text = .error (.io FileFault.nameTooLong.toIoFault)) ∧
    ∀ other, fs.Relisted other → expand other text = expand fs text := by
  have hsound := isSound_of_find hroot hfind
  refine ⟨fun hshort => ?_, fun hlong => ?_, fun other h => expand_of_relisted hroot h text⟩
  · obtain ⟨files, hfiles, hsorted, hmem⟩ :=
      filesBelow_eq_ok hroot hfind (shortBelow_iff.mp hshort)
    refine ⟨files, ?_, hsorted, hmem, fun front rest link hlink hrest hbehind => ?_⟩
    · rw [expand_directory hremote hfind, hfiles]
    · obtain ⟨names, content, hfile, heq⟩ := (hmem _).mp hbehind
      exact ne_descend_behind_link hsound hlink hrest hfile heq
  · rw [expand_directory hremote hfind,
      filesBelow_eq_error hroot hfind (not_not.mp (mt shortBelow_iff.mpr hlong))]

/-- The entries of a directory with two directories in it, whose names differ in what follows the
end of the shorter one, and with a link that leads in a circle. -/
def linkedEntries : List (String × Node) :=
  [("nested-x", .directory [("q", .file 0)]),
    ("nested", .directory [("b", .file 1), ("up", .link "..")])]

/-- A tree with this directory and a link to it. -/
def linkedTree : FileSystem where
  root := .directory [("lnk", .link "d"), ("d", .directory linkedEntries)]

/-- The tree is one that a file system can hold. -/
theorem isSound_linkedTree : linkedTree.root.IsSound := by
  have hlong : (Node.directory [("q", .file 0)]).IsSound :=
    .directory (by decide) (by decide) (by simpa using .file 0)
  have hshort : (Node.directory [("b", .file 1), ("up", .link "..")]).IsSound :=
    .directory (by decide) (by decide) (by simpa using ⟨.file 1, .link ".."⟩)
  have hentries : (Node.directory linkedEntries).IsSound :=
    .directory (by decide) (by decide) (by simpa [linkedEntries] using ⟨hlong, hshort⟩)
  exact .directory (by decide) (by decide) (by simpa using ⟨.link "d", hentries⟩)

/-- All directories below have short paths. -/
theorem shortBelow_linkedEntries : ShortBelow "lnk" linkedEntries := by
  intro names below h
  cases h with
  | here => decide
  | into hentry hrest =>
      simp only [linkedEntries, List.mem_cons, Prod.mk.injEq, List.not_mem_nil, or_false] at hentry
      rcases hentry with ⟨rfl, rfl⟩ | ⟨rfl, rfl⟩
      · cases hrest with
        | here => decide +kernel
        | into hentry hrest =>
            simp only [List.mem_cons, Prod.mk.injEq, List.not_mem_nil, or_false] at hentry
            obtain ⟨rfl, rfl⟩ := hentry
            cases hrest
      · cases hrest with
        | here => decide +kernel
        | into hentry hrest =>
            simp only [List.mem_cons, Prod.mk.injEq, List.not_mem_nil, or_false] at hentry
            rcases hentry with ⟨rfl, rfl⟩ | ⟨rfl, rfl⟩ <;> cases hrest

/-- The directory behind a link. -/
theorem expands_to_regular_files_linked :
    linkedTree.root.IsSound ∧ ObjectLocator.isRemote "lnk" = false ∧
    linkedTree.find "lnk" = .ok (.directory linkedEntries) ∧ ShortBelow "lnk" linkedEntries ∧
    ∃ files : List String, expand linkedTree "lnk" = .ok (files.map .file) ∧
      (files.Pairwise fun a b => components a < components b) ∧
      (∀ file, file ∈ files ↔ ∃ names content,
        (Node.directory linkedEntries).Reaches names (.file content) ∧ file = descend "lnk" names) ∧
      ∀ front rest link, (Node.directory linkedEntries).Reaches front (.link link) →
        (∀ name ∈ rest, IsName name) → descend "lnk" (front ++ rest) ∉ files := by
  have hremote : ObjectLocator.isRemote "lnk" = false := by decide +kernel
  have hfind : linkedTree.find "lnk" = .ok (.directory linkedEntries) := by
    have hroute : linkedTree.route "lnk" = ["lnk"] := by decide +kernel
    have htarget : components "d" = ["d"] := by decide +kernel
    rw [FileSystem.find, chain_eq, if_neg (by decide), if_neg (by decide), if_neg (by decide),
      hroute]
    show (follow linkedTree.root _ _ _ (components "d" ++ [])).bind _ = _
    rw [htarget, ite_self]
    rfl
  exact ⟨isSound_linkedTree, hremote, hfind, shortBelow_linkedEntries,
    (expands_to_regular_files linkedTree "lnk" linkedEntries isSound_linkedTree hremote hfind).1
      shortBelow_linkedEntries⟩

/-- The path of the directory `d` with so many slashes at its end. -/
def slashed : Nat → String
  | 0 => "d"
  | count + 1 => (slashed count).push '/'

/-- Each slash is one byte. -/
theorem utf8ByteSize_slashed (count : Nat) : (slashed count).utf8ByteSize = count + 1 := by
  induction count with
  | zero => rfl
  | succ count ih => rw [slashed, String.utf8ByteSize_push, ih]; rfl

/-- The characters of the path. -/
theorem toList_slashed (count : Nat) :
    (slashed count).toList = 'd' :: List.replicate count '/' := by
  induction count with
  | zero => rfl
  | succ count ih =>
      rw [slashed, String.toList_push, ih, List.cons_append, ← List.replicate_succ']

/-- The path ends in a slash. -/
theorem endsWith_slashed (count : Nat) : (slashed (count + 1)).endsWith "/" = true :=
  endsWith_slash_iff.mpr ⟨(slashed count).toList, String.toList_push _⟩

/-- Slashes at the end of a path are no names. -/
theorem components_slashed (count : Nat) : components (slashed (count + 1)) = ["d", "."] := by
  have hparts : ∀ count, parts (slashed count).toList = [['d']] := by
    intro count
    induction count with
    | zero => rfl
    | succ count ih => rw [slashed, String.toList_push, parts_append, ih]; rfl
  rw [components_eq, stem, hparts, if_pos (endsWith_slashed count)]
  rfl

/-- The path is that of a local directory. -/
theorem isRemote_slashed (count : Nat) : ObjectLocator.isRemote (slashed count) = false := by
  rw [ObjectLocator.isRemote, toList_slashed, Bool.or_eq_false_iff, ← Bool.not_eq_true,
    ← Bool.not_eq_true, String.startsWith_string_iff, String.startsWith_string_iff]
  simp

/-- A directory with a file below another directory. -/
def deepEntries : List (String × Node) :=
  [("nested", .directory [("f", .file 0)])]

/-- A tree with this directory. -/
def deepTree : FileSystem where
  root := .directory [("d", .directory deepEntries)]

/-- The tree is one that a file system can hold. -/
theorem isSound_deepTree : deepTree.root.IsSound := by
  have hnested : (Node.directory [("f", .file 0)]).IsSound :=
    .directory (by decide) (by decide) (by simpa using .file 0)
  have hentries : (Node.directory deepEntries).IsSound :=
    .directory (by decide) (by decide) (by simpa [deepEntries] using hnested)
  exact .directory (by decide) (by decide) (by simpa using hentries)

/-- The directory is found behind so many slashes, as long as the system takes the path. -/
theorem find_slashed {count : Nat} (h : count + 2 ≤ maxPathLength) :
    deepTree.find (slashed (count + 1)) = .ok (.directory deepEntries) := by
  have hnul : '\x00' ∉ (slashed (count + 1)).toList := by
    rw [toList_slashed]
    simp
  have hempty : slashed (count + 1) ≠ "" := fun hempty => by
    have hsize := utf8ByteSize_slashed (count + 1)
    rw [hempty] at hsize
    cases hsize
  have hroute : deepTree.route (slashed (count + 1)) = ["d", "."] := by
    have hstart : deepTree.start (slashed (count + 1)) = [] := by
      rw [FileSystem.start]
      split <;> rfl
    rw [FileSystem.route, hstart, components_slashed, List.nil_append]
  rw [FileSystem.find, chain_eq, if_neg hnul, if_neg hempty,
    if_neg (by rw [utf8ByteSize_slashed]; omega), hroute]
  rfl

/-- The directory in it cannot be read any more, once its path has become too long. -/
theorem expand_slashed {count : Nat} (h : count + 2 ≤ maxPathLength)
    (hlong : maxPathLength < count + 8) :
    expand deepTree (slashed (count + 1)) = .error (.io FileFault.nameTooLong.toIoFault) := by
  have hdeep : (Pending.mk (slashed (count + 1)) deepEntries).IsDeep := by
    refine ⟨["nested"], _, .into (List.mem_singleton_self _) (.here _), ?_⟩
    have hjoin : descend (slashed (count + 1)) ["nested"] = slashed (count + 1) ++ "nested" :=
      if_pos (endsWith_slashed count)
    rw [hjoin, String.utf8ByteSize_append, utf8ByteSize_slashed]
    exact hlong
  rw [expand_directory (isRemote_slashed _) (find_slashed h),
    filesBelow_eq_error isSound_deepTree (find_slashed h) hdeep]

/-- Behind 4090 slashes the directory is found, and the file below it is not. -/
theorem expands_not_to_deep_files :
    deepTree.root.IsSound ∧ ObjectLocator.isRemote (slashed 4090) = false ∧
    deepTree.find (slashed 4090) = .ok (.directory deepEntries) ∧
    (Node.directory deepEntries).Reaches ["nested", "f"] (.file 0) ∧
    ¬ ∃ files : List String, expand deepTree (slashed 4090) = .ok (files.map .file) := by
  have hreaches : (Node.directory deepEntries).Reaches ["nested", "f"] (.file 0) :=
    .into (List.mem_singleton_self _) (.into (List.mem_singleton_self _) (.here _))
  have hfits : 4089 + 2 ≤ maxPathLength := by decide
  have hrefused := expand_slashed hfits (by decide)
  refine ⟨isSound_deepTree, isRemote_slashed 4090, find_slashed hfits, hreaches,
    fun ⟨files, hfiles⟩ => ?_⟩
  cases hrefused.symm.trans hfiles

end Target

end MalwareScan
