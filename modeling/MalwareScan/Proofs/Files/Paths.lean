import MalwareScan.Files.Walk
import MalwareScan.Proofs.Files.Trees
import Mathlib.Data.List.Forall2

/-!
# Paths below a directory

A path that is continued with proper names has these names as its last components
(`components_descend`). So it leads on from the node at the path, along the real path of these
names, as long as the system takes a path of that length (`find_descend`). What a path leads to
does not depend on the order in which entries are listed (`find_of_relisted`).
-/

namespace MalwareScan.Files

variable {root node target : Node} {path name : String} {names : List String}

/-! ## Components of paths -/

/-- The parts of a text between slashes that are not empty. -/
def parts (cs : List Char) : List (List Char) :=
  (cs.splitOn '/').filter fun part => !part.isEmpty

/-- The names in a path, without the dot that stands for a slash at its end. -/
def stem (path : String) : List String :=
  (parts path.toList).map String.ofList

/-- The path of what real names lead to below a directory. -/
def descend (path : String) (names : List String) : String :=
  names.foldl join path

/-- A path ends in a slash if its last character is one. -/
theorem endsWith_slash_iff : path.endsWith "/" = true ↔ ∃ front, path.toList = front ++ ['/'] := by
  rw [String.endsWith_eq_endsWith_toSlice, String.Slice.endsWith_string_iff, String.copy_toSlice]
  exact ⟨fun ⟨front, h⟩ => ⟨front, h.symm⟩, fun ⟨front, h⟩ => ⟨front, h.symm⟩⟩

/-- The components of a path are its names, and a dot for a slash at its end. -/
theorem components_eq (path : String) :
    components path = stem path ++ if path.endsWith "/" then ["."] else [] := by
  rw [components, stem, parts, List.map_append]
  split <;> rfl

/-- The characters of the path of an entry: one slash stands between those of the directory's path
and the name, which is the last one of the directory's path if that ends in a slash. -/
theorem exists_toList_join (path name : String) :
    ∃ front, (join path name).toList = front ++ '/' :: name.toList ∧
      (path.toList = front ∨ path.toList = front ++ ['/']) := by
  rw [join]
  split
  · next hslash =>
      obtain ⟨front, hfront⟩ := endsWith_slash_iff.mp hslash
      exact ⟨front, by simp [hfront], .inr hfront⟩
  · exact ⟨path.toList, by simp, .inl rfl⟩

/-- A slash divides the parts of a text. -/
theorem parts_append (front back : List Char) :
    parts (front ++ '/' :: back) = parts front ++ parts back := by
  rw [parts, List.splitOn, List.splitOnP_append_cons front back (by simp), List.filter_append]
  rfl

/-- A proper name is one part of its own. -/
theorem parts_of_isName (h : IsName name) : parts name.toList = [name.toList] := by
  have hne : name.toList ≠ [] := fun hnil => h.ne_empty (String.toList_eq_nil_iff.mp hnil)
  have hparts : name.toList.splitOn '/' = [name.toList] :=
    List.splitOnP_eq_singleton fun c hc => beq_eq_false_iff_ne.mpr fun heq => h.noSlash (heq ▸ hc)
  rw [parts, hparts, List.filter_cons_of_pos (by simp [hne]), List.filter_nil]

/-- The last name in the path of an entry is that of the entry. -/
theorem stem_join (h : IsName name) : stem (join path name) = stem path ++ [name] := by
  obtain ⟨front, hjoin, hpath⟩ := exists_toList_join path name
  have hstem : parts path.toList = parts front := by
    rcases hpath with hpath | hpath
    · rw [hpath]
    · rw [hpath, parts_append]
      exact List.append_nil _
  rw [stem, stem, hstem, hjoin, parts_append, parts_of_isName h, List.map_append,
    List.map_singleton, String.ofList_toList]

/-- The path of an entry does not end in a slash. -/
theorem not_endsWith_join (h : IsName name) : (join path name).endsWith "/" = false := by
  rw [Bool.eq_false_iff]
  intro hslash
  obtain ⟨front, hfront⟩ := endsWith_slash_iff.mp hslash
  obtain ⟨start, hjoin, -⟩ := exists_toList_join path name
  have hlast : name.toList.getLast? = some '/' := by
    have hwhole : (start ++ '/' :: name.toList).getLast? = some '/' := by
      rw [← hjoin, hfront, List.getLast?_concat]
    have hne : name.toList ≠ [] := fun hnil => h.ne_empty (String.toList_eq_nil_iff.mp hnil)
    rwa [List.getLast?_append_of_ne_nil _ (List.cons_ne_nil _ _),
      List.getLast?_cons_of_ne_nil hne] at hwhole
  exact h.noSlash (List.mem_of_getLast? hlast)

/-- The names in a path that is continued are those in the path and the further ones. -/
theorem stem_descend (h : ∀ name ∈ names, IsName name) :
    stem (descend path names) = stem path ++ names := by
  induction names generalizing path with
  | nil => exact (List.append_nil _).symm
  | cons name names ih =>
      have hrest := fun other hother => h other (List.mem_cons_of_mem _ hother)
      rw [descend, List.foldl_cons, ← descend, ih hrest, stem_join (h name List.mem_cons_self),
        List.append_assoc]
      rfl

/-- The components of a path that is continued with proper names. -/
theorem components_descend (h : ∀ name ∈ names, IsName name) (hne : names ≠ []) :
    components (descend path names) = stem path ++ names := by
  obtain ⟨front, last, rfl⟩ := (List.eq_nil_or_concat' names).resolve_left hne
  have hslash : (descend path (front ++ [last])).endsWith "/" = false := by
    rw [descend, List.foldl_append]
    exact not_endsWith_join (h last (by simp))
  rw [components_eq, stem_descend h, hslash]
  simp

/-! ## Following names -/

variable {above outer chain : List Node} {fuel links : Nat}

/-- One name is refused, or it leads on from other nodes by the names that it stands for, whatever
names come after it. -/
theorem follow_cons_cases (root : Node) (links : Nat) (above : List Node) (name : String) :
    (∃ fault, ∀ fuel names, follow root (fuel + 1) links above (name :: names) = .error fault) ∨
    ∃ links' above' front, ∀ fuel names,
      follow root (fuel + 1) links above (name :: names) =
        follow root fuel links' above' (front ++ names) := by
  match above with
  | [] => exact .inl ⟨.notDirectory, fun _ _ => rfl⟩
  | .file _ :: _ => exact .inl ⟨.notDirectory, fun _ _ => rfl⟩
  | .link _ :: _ => exact .inl ⟨.notDirectory, fun _ _ => rfl⟩
  | .directory entries :: outer =>
      simp only [follow]
      by_cases hdot : name = "."
      · exact .inr ⟨links, .directory entries :: outer, [], fun _ _ => by rw [if_pos hdot]; rfl⟩
      by_cases hdots : name = ".."
      · exact .inr ⟨links, if outer.isEmpty then .directory entries :: outer else outer, [],
          fun _ _ => by rw [if_neg hdot, if_pos hdots]; rfl⟩
      by_cases hlong : maxNameLength < name.utf8ByteSize
      · exact .inl ⟨.nameTooLong, fun _ _ => by rw [if_neg hdot, if_neg hdots, if_pos hlong]⟩
      simp only [if_neg hdot, if_neg hdots, if_neg hlong]
      cases entries.lookup name with
      | none => exact .inl ⟨.noEntry, fun _ _ => rfl⟩
      | some node =>
          cases node with
          | file content =>
              exact .inr ⟨links, .file content :: .directory entries :: outer, [], fun _ _ => rfl⟩
          | directory more =>
              exact .inr ⟨links, .directory more :: .directory entries :: outer, [], fun _ _ => rfl⟩
          | link target =>
              cases links with
              | zero => exact .inl ⟨.linkLoop, fun _ _ => rfl⟩
              | succ links => exact .inr ⟨links, _, components target, fun _ _ => rfl⟩

/-- One proper name is followed to the entry that has it, if that is no link. -/
theorem follow_entry {entries : List (String × Node)} {child : Node}
    (hsound : (Node.directory entries).IsSound) (hentry : (name, child) ∈ entries)
    (hlink : ∀ link, child ≠ .link link) (more : List String) :
    follow root (fuel + 1) links (.directory entries :: outer) (name :: more) =
      follow root fuel links (child :: .directory entries :: outer) more := by
  cases hsound with
  | directory hnames hdistinct _ =>
      have hname := hnames _ hentry
      rw [follow, if_neg hname.ne_dot, if_neg hname.ne_dots,
        if_neg (Nat.not_lt.mpr hname.length_le), Node.lookup_of_mem hdistinct hentry]
      cases child with
      | link target => exact absurd rfl (hlink target)
      | file | directory => rfl

/-- A real path is followed to its end. -/
theorem follow_of_reaches (h : node.Reaches names target) (hsound : node.IsSound)
    (hlink : ∀ link, target ≠ .link link) (outer : List Node) (fuel links : Nat) :
    ∃ beyond, follow root (fuel + 1 + names.length) links (node :: outer) names =
      .ok (target :: beyond) := by
  induction h generalizing outer with
  | here => exact ⟨outer, rfl⟩
  | @into entries name child names target hentry hrest ih =>
      have hchild : child.IsSound := by
        cases hsound with
        | directory _ _ hnodes => exact hnodes _ hentry
      obtain ⟨beyond, hfollow⟩ := ih hchild hlink (.directory entries :: outer)
      exact ⟨beyond, (follow_entry hsound hentry (hrest.ne_link hlink) names).trans hfollow⟩

/-- Where names lead, a real path leads on. -/
theorem follow_append {more : List String}
    (h : follow root fuel links above names = .ok (node :: outer))
    (hmore : node.Reaches more target)
    (hsound : node.IsSound) (hlink : ∀ link, target ≠ .link link) :
    ∃ beyond, follow root (fuel + more.length) links above (names ++ more) =
      .ok (target :: beyond) := by
  induction fuel generalizing links above names with
  | zero => cases h
  | succ fuel ih =>
      cases names with
      | nil =>
          cases h
          exact follow_of_reaches hmore hsound hlink outer fuel links
      | cons name names =>
          rcases follow_cons_cases root links above name with
            ⟨fault, hfault⟩ | ⟨links', above', front, hstep⟩
          · rw [hfault] at h
            cases h
          · rw [hstep] at h
            obtain ⟨beyond, hbeyond⟩ := ih h
            refine ⟨beyond, ?_⟩
            rw [Nat.succ_add, List.cons_append, hstep, ← List.append_assoc, hbeyond]

/-- A dot behind names leads nowhere else, and takes one step. -/
theorem follow_of_append_dot (h : follow root fuel links above (names ++ ["."]) = .ok chain) :
    ∃ less, fuel = less + 1 ∧ follow root less links above names = .ok chain := by
  induction fuel generalizing links above names with
  | zero => cases h
  | succ fuel ih =>
      refine ⟨fuel, rfl, ?_⟩
      cases names with
      | nil =>
          match above with
          | .directory entries :: outer => exact h
          | [] | .file _ :: _ | .link _ :: _ => cases h
      | cons name names =>
          rcases follow_cons_cases root links above name with
            ⟨fault, hfault⟩ | ⟨links', above', front, hstep⟩
          · rw [List.cons_append, hfault] at h
            cases h
          · rw [List.cons_append, hstep, ← List.append_assoc] at h
            obtain ⟨less, rfl, hless⟩ := ih h
            rw [hstep, hless]

/-- The nodes are sound, and differ at most in the order of entries. -/
def Counterparts (a b : Node) : Prop :=
  a.IsSound ∧ a.Relisted b

/-- Names that are refused in a tree are refused in the same way when its entries are listed in
another order, and what they lead through there are the counterparts. -/
theorem follow_relisted {other : Node} {others : List Node} (hroot : Counterparts root other)
    (habove : List.Forall₂ Counterparts above others) :
    (∀ fault, follow root fuel links above names = .error fault →
      follow other fuel links others names = .error fault) ∧
    ∀ chain, follow root fuel links above names = .ok chain →
      ∃ otherChain, follow other fuel links others names = .ok otherChain ∧
        List.Forall₂ Counterparts chain otherChain := by
  induction fuel generalizing links above others names with
  | zero => exact ⟨fun fault h => h, nofun⟩
  | succ fuel ih =>
      cases names with
      | nil =>
          refine ⟨nofun, fun chain h => ?_⟩
          cases h
          exact ⟨others, rfl, habove⟩
      | cons name names =>
          cases habove with
          | nil => exact ⟨fun fault h => h, nofun⟩
          | @cons node otherNode outer otherOuter hnode houter =>
              have hwhole := List.Forall₂.cons hnode houter
              cases hnode.2 with
              | file | link => exact ⟨fun fault h => h, nofun⟩
              | @directory entries otherEntries =>
                  have hother := hnode.2.isSound hnode.1
                  simp only [follow]
                  split
                  · exact ih hwhole
                  split
                  · have hempty : outer.isEmpty = otherOuter.isEmpty := by
                      cases houter <;> rfl
                    rw [← hempty]
                    split
                    · exact ih hwhole
                    · exact ih houter
                  split
                  · exact ⟨fun fault h => h, nofun⟩
                  rcases hnode.2.lookup hnode.1 hother name with
                    ⟨hnone, hotherNone⟩ | ⟨child, otherChild, hfound, hotherFound, hchild⟩
                  · rw [hnone, hotherNone]
                    exact ⟨fun fault h => h, nofun⟩
                  · rw [hfound, hotherFound]
                    cases hchild.2 with
                    | file => exact ih (.cons hchild hwhole)
                    | directory => exact ih (.cons hchild hwhole)
                    | link target =>
                        cases links with
                        | zero => exact ⟨fun fault h => h, nofun⟩
                        | succ links =>
                            simp only
                            split
                            · exact ih (.cons hroot .nil)
                            · exact ih hwhole

/-! ## Finding nodes -/

variable {fs other : FileSystem} {fault : FileFault}

/-- The names in front of those of a path: relative paths start at the working directory. -/
def FileSystem.start (fs : FileSystem) (path : String) : List String :=
  if isAbsolute path then [] else fs.work

/-- The names that are followed from the root to a path. -/
def FileSystem.route (fs : FileSystem) (path : String) : List String :=
  fs.start path ++ components path

/-- What names lead to from the root. -/
def FileSystem.followed (fs : FileSystem) (names : List String) : Except FileFault (List Node) :=
  follow fs.root (maxLinks * (maxPathLength + 1) + fs.work.length + names.length + 1) maxLinks
    [fs.root] names

/-- A path without a NUL that is neither empty nor too long is followed along its route. -/
theorem chain_eq (fs : FileSystem) (path : String) :
    fs.chain path =
      if '\x00' ∈ path.toList then .error .nulInPath
      else if path = "" then .error .noEntry
      else if maxPathLength < path.utf8ByteSize then .error .nameTooLong
      else fs.followed (fs.route path) := by
  rw [FileSystem.chain, FileSystem.followed, FileSystem.route, FileSystem.start]
  simp only [List.contains_iff_mem, String.isEmpty_iff]
  split
  · rfl
  split
  · rfl
  split
  · rfl
  by_cases habsolute : isAbsolute path = true
  · simp only [habsolute, if_true, List.nil_append]
  · simp only [habsolute]
    rfl

/-- A node that is found stands at the end of the route to its path. -/
theorem exists_follow_of_find (h : fs.find path = .ok node) :
    '\x00' ∉ path.toList ∧ path ≠ "" ∧ path.utf8ByteSize ≤ maxPathLength ∧
    ∃ outer, fs.followed (fs.route path) = .ok (node :: outer) := by
  rw [FileSystem.find, chain_eq] at h
  split at h
  · cases h
  next hnul =>
    split at h
    · cases h
    next hempty =>
      split at h
      · cases h
      next hlength =>
        refine ⟨hnul, hempty, Nat.not_lt.mp hlength, ?_⟩
        cases hfollow : fs.followed (fs.route path) with
        | error fault =>
            rw [hfollow] at h
            cases h
        | ok chain =>
            rw [hfollow] at h
            cases chain with
            | nil => cases h
            | cons first outer =>
                cases h
                exact ⟨outer, rfl⟩

/-- A node that is found in a sound tree is sound. -/
theorem isSound_of_find (hroot : fs.root.IsSound) (h : fs.find path = .ok node) : node.IsSound := by
  have hself : Counterparts fs.root fs.root := ⟨hroot, hroot.relisted⟩
  obtain ⟨-, -, -, outer, hfollow⟩ := exists_follow_of_find h
  obtain ⟨chain, -, hchain⟩ := (follow_relisted hself (.cons hself .nil)).2 _ hfollow
  cases hchain with
  | cons hnode _ => exact hnode.1

/-- What a path leads to does not depend on the order in which entries are listed. -/
theorem find_of_relisted (hroot : fs.root.IsSound) (h : fs.root.Relisted other.root)
    (hwork : other.work = fs.work) (path : String) :
    (∃ fault, fs.find path = .error fault ∧ other.find path = .error fault) ∨
    ∃ node otherNode, fs.find path = .ok node ∧ other.find path = .ok otherNode ∧
      Counterparts node otherNode := by
  have hroots : Counterparts fs.root other.root := ⟨hroot, h⟩
  have hroute : other.route path = fs.route path := by
    rw [FileSystem.route, FileSystem.route, FileSystem.start, FileSystem.start, hwork]
  have hfollow : (∀ fault, fs.followed (fs.route path) = .error fault →
      other.followed (fs.route path) = .error fault) ∧
      ∀ chain, fs.followed (fs.route path) = .ok chain →
        ∃ otherChain, other.followed (fs.route path) = .ok otherChain ∧
          List.Forall₂ Counterparts chain otherChain := by
    rw [FileSystem.followed, FileSystem.followed, hwork]
    exact follow_relisted hroots (.cons hroots .nil)
  rw [FileSystem.find, FileSystem.find, chain_eq, chain_eq, hroute]
  split
  · exact .inl ⟨.nulInPath, rfl, rfl⟩
  split
  · exact .inl ⟨.noEntry, rfl, rfl⟩
  split
  · exact .inl ⟨.nameTooLong, rfl, rfl⟩
  cases hchain : fs.followed (fs.route path) with
  | error fault => exact .inl ⟨fault, rfl, by rw [hfollow.1 fault hchain]; rfl⟩
  | ok chain =>
      obtain ⟨otherChain, hother, hnodes⟩ := hfollow.2 chain hchain
      rw [hother]
      cases hnodes with
      | nil => exact .inl ⟨.noEntry, rfl, rfl⟩
      | cons hnode _ => exact .inr ⟨_, _, rfl, rfl, hnode⟩

/-! ## Paths that are continued -/

/-- A path that is continued is not empty. -/
theorem descend_ne_empty (h : path ≠ "") : descend path names ≠ "" := by
  induction names generalizing path with
  | nil => exact h
  | cons name names ih =>
      refine ih fun hempty => ?_
      obtain ⟨front, hjoin, -⟩ := exists_toList_join path name
      rw [hempty] at hjoin
      simp at hjoin

/-- A path that is continued with proper names has a NUL only if it had one. -/
theorem noNul_descend (h : ∀ name ∈ names, IsName name) (hpath : '\x00' ∉ path.toList) :
    '\x00' ∉ (descend path names).toList := by
  induction names generalizing path with
  | nil => exact hpath
  | cons name names ih =>
      refine ih (fun other hother => h other (List.mem_cons_of_mem _ hother)) ?_
      obtain ⟨front, hjoin, hfront⟩ := exists_toList_join path name
      have hname := (h name List.mem_cons_self).noNul
      rw [hjoin]
      rcases hfront with hfront | hfront <;> rw [hfront] at hpath <;> simp_all

/-- A path that is continued starts where it started before. -/
theorem isAbsolute_descend (h : path ≠ "") : isAbsolute (descend path names) = isAbsolute path := by
  induction names generalizing path with
  | nil => rfl
  | cons name names ih =>
      have hne : join path name ≠ "" := show descend path [name] ≠ "" from descend_ne_empty h
      rw [descend, List.foldl_cons, ← descend, ih hne, isAbsolute, isAbsolute, Bool.eq_iff_iff,
        String.startsWith_string_iff, String.startsWith_string_iff]
      obtain ⟨front, hjoin, hfront⟩ := exists_toList_join path name
      rw [hjoin]
      cases front with
      | cons c front => rcases hfront with hfront | hfront <;> rw [hfront] <;> simp
      | nil =>
          rcases hfront with hfront | hfront
          · exact absurd (String.toList_eq_nil_iff.mp hfront) h
          · rw [hfront]
            simp

/-- A slash at the end of a path leads nowhere else. -/
theorem followed_stem {chain : List Node} (h : fs.followed (fs.route path) = .ok chain) :
    fs.followed (fs.start path ++ stem path) = .ok chain := by
  rw [FileSystem.route, components_eq, ← List.append_assoc] at h
  by_cases hslash : path.endsWith "/" = true
  · rw [if_pos hslash, FileSystem.followed] at h
    obtain ⟨less, hless, hfollow⟩ := follow_of_append_dot h
    rw [FileSystem.followed, ← hfollow]
    congr 1
    simp only [List.length_append, List.length_singleton] at hless ⊢
    omega
  · rwa [if_neg hslash, List.append_nil] at h

/-- Where a path leads, a real path leads on, unless the two together are too long. -/
theorem find_descend (hroot : fs.root.IsSound) (hfind : fs.find path = .ok node)
    (h : node.Reaches names target) (hlink : ∀ link, target ≠ .link link) :
    fs.find (descend path names) =
      if maxPathLength < (descend path names).utf8ByteSize then .error .nameTooLong
      else .ok target := by
  obtain ⟨hnul, hempty, hlength, outer, hfollow⟩ := exists_follow_of_find hfind
  have hnode := isSound_of_find hroot hfind
  have hnames := h.isName hnode
  cases names with
  | nil =>
      cases h
      exact hfind.trans (if_neg (Nat.not_lt.mpr hlength)).symm
  | cons name names =>
      have hroute : fs.route (descend path (name :: names)) =
          fs.start path ++ stem path ++ name :: names := by
        rw [FileSystem.route, FileSystem.start, isAbsolute_descend hempty,
          components_descend hnames (List.cons_ne_nil _ _), ← List.append_assoc]
        rfl
      obtain ⟨beyond, hbeyond⟩ := follow_append (followed_stem hfollow) h hnode hlink
      rw [FileSystem.find, chain_eq, if_neg (noNul_descend hnames hnul),
        if_neg (descend_ne_empty hempty)]
      split
      · rfl
      · have hsteps : ∀ m n k : Nat, m + n + 1 + k = m + (n + k) + 1 := by omega
        rw [hroute, FileSystem.followed, List.length_append, ← hsteps, hbeyond]
        rfl

end MalwareScan.Files
