import MalwareScan.Files.Tree
import MalwareScan.Files.System
import Mathlib.Data.List.Nodup

/-!
# Sound trees, real paths and the order of entries

A tree as a file system holds it has proper and distinct names in each directory (`Node.IsSound`).
A real path leads from a node to another one through directories only (`Node.Reaches`): in a sound
tree it leads to one node, and nothing lies behind a link. The system may list the entries of a
directory in any order; two trees that differ in nothing else are `Relisted`, and the same real
paths lead through both.
-/

namespace MalwareScan.Files

/-! ## Sound trees -/

/-- A name that an entry of a directory can have. -/
structure IsName (name : String) : Prop where
  ne_empty : name ≠ ""
  ne_dot : name ≠ "."
  ne_dots : name ≠ ".."
  noSlash : '/' ∉ name.toList
  noNul : '\x00' ∉ name.toList
  length_le : name.utf8ByteSize ≤ maxNameLength

instance (name : String) : Decidable (IsName name) :=
  decidable_of_iff
    (name ≠ "" ∧ name ≠ "." ∧ name ≠ ".." ∧ '/' ∉ name.toList ∧ '\x00' ∉ name.toList ∧
      name.utf8ByteSize ≤ maxNameLength)
    ⟨fun ⟨hempty, hdot, hdots, hslash, hnul, hlength⟩ =>
      ⟨hempty, hdot, hdots, hslash, hnul, hlength⟩,
      fun h => ⟨h.ne_empty, h.ne_dot, h.ne_dots, h.noSlash, h.noNul, h.length_le⟩⟩

namespace Node

/-- A tree as a file system holds it: the entries of each directory have proper names, and no two
have the same one. -/
inductive IsSound : Node → Prop where
  | file (content : Nat) : IsSound (file content)
  | link (target : String) : IsSound (link target)
  | directory {entries : List (String × Node)} (names : ∀ entry ∈ entries, IsName entry.1)
      (distinct : (entries.map Prod.fst).Nodup) (nodes : ∀ entry ∈ entries, IsSound entry.2) :
      IsSound (directory entries)

/-- An entry is what is found under its name. -/
theorem lookup_of_mem {entries : List (String × Node)} (hdistinct : (entries.map Prod.fst).Nodup)
    {name : String} {node : Node} (h : (name, node) ∈ entries) :
    entries.lookup name = some node := by
  induction entries with
  | nil => cases h
  | cons entry entries ih =>
      obtain ⟨other, old⟩ := entry
      obtain ⟨hfresh, hrest⟩ := List.nodup_cons.mp hdistinct
      rcases List.mem_cons.mp h with heq | hmem
      · obtain ⟨rfl, rfl⟩ := Prod.mk.inj heq
        exact List.lookup_cons_self
      · have hne : name ≠ other := by
          rintro rfl
          exact hfresh (List.mem_map.mpr ⟨(name, node), hmem, rfl⟩)
        rw [List.lookup_cons, beq_eq_false_iff_ne.mpr hne]
        exact ih hrest hmem

/-- What is found under a name is an entry. -/
theorem mem_of_lookup {entries : List (String × Node)} {name : String} {node : Node}
    (h : entries.lookup name = some node) : (name, node) ∈ entries := by
  obtain ⟨front, back, rfl, -⟩ := List.lookup_eq_some_iff.mp h
  exact List.mem_append_right front List.mem_cons_self

/-! ## Real paths -/

/-- The names lead from a node to `target`, through directories only. -/
inductive Reaches : Node → List String → Node → Prop where
  | here (node : Node) : Reaches node [] node
  | into {entries : List (String × Node)} {name : String} {child : Node} {names : List String}
      {target : Node} (hentry : (name, child) ∈ entries) (hrest : Reaches child names target) :
      Reaches (directory entries) (name :: names) target

variable {node target : Node} {names : List String}

/-- The names of a real path in a sound tree are proper. -/
theorem Reaches.isName (h : node.Reaches names target) (hnode : node.IsSound) :
    ∀ name ∈ names, IsName name := by
  induction h with
  | here => exact fun _ hname => absurd hname List.not_mem_nil
  | into hentry _ ih =>
      cases hnode with
      | directory hnames _ hnodes =>
          intro other hother
          rcases List.mem_cons.mp hother with rfl | hmem
          · exact hnames _ hentry
          · exact ih (hnodes _ hentry) other hmem

/-- A real path in a sound tree leads to one node only. -/
theorem Reaches.unique (h : node.Reaches names target) (hnode : node.IsSound) {other : Node}
    (hother : node.Reaches names other) : target = other := by
  induction h with
  | here =>
      cases hother
      rfl
  | into hentry _ ih =>
      cases hnode with
      | directory _ hdistinct hnodes =>
          cases hother with
          | into hother hrest =>
              have hchild := (lookup_of_mem hdistinct hentry).symm.trans
                  (lookup_of_mem hdistinct hother)
              obtain rfl := Option.some.inj hchild
              exact ih (hnodes _ hentry) hrest

/-- A real path has a node at each of its places. -/
theorem Reaches.split {front rest : List String} (h : node.Reaches (front ++ rest) target) :
    ∃ middle : Node, node.Reaches front middle ∧ middle.Reaches rest target := by
  induction front generalizing node with
  | nil => exact ⟨node, .here node, h⟩
  | cons name front ih =>
      cases h with
      | into hentry hrest =>
          obtain ⟨middle, hfront, hback⟩ := ih hrest
          exact ⟨middle, .into hentry hfront, hback⟩

/-- Nothing but itself is reached from a link. -/
theorem Reaches.eq_link {link : String} (h : (Node.link link).Reaches names target) :
    target = .link link := by
  cases h
  rfl

/-- A real path that leads to no link does not pass one. -/
theorem Reaches.ne_link (h : node.Reaches names target) (htarget : ∀ link, target ≠ .link link)
    (link : String) : node ≠ .link link := by
  rintro rfl
  exact htarget link h.eq_link

/-- Behind a link there is no file. -/
theorem Reaches.not_file_behind_link {front rest : List String} {link : String} {content : Nat}
    (hlink : node.Reaches front (.link link)) (hnode : node.IsSound) :
    ¬ node.Reaches (front ++ rest) (.file content) := by
  intro hfile
  obtain ⟨middle, hmiddle, hrest⟩ := hfile.split
  obtain rfl := hlink.unique hnode hmiddle
  cases hrest.eq_link

/-! ## The order of entries -/

/-- The trees differ at most in the order of the entries of their directories. Each entry stands
with its node in the one and in the other tree. -/
inductive Relisted : Node → Node → Prop where
  | file (content : Nat) : Relisted (file content) (file content)
  | link (target : String) : Relisted (link target) (link target)
  | directory {entries others : List (String × Node)} (pairs : List (String × Node × Node))
      (hentries : entries.Perm (pairs.map fun pair => (pair.1, pair.2.1)))
      (hothers : others.Perm (pairs.map fun pair => (pair.1, pair.2.2)))
      (hpairs : ∀ pair ∈ pairs, Relisted pair.2.1 pair.2.2) :
      Relisted (directory entries) (directory others)

variable {other : Node}

/-- Listing in another order can be undone. -/
theorem Relisted.symm (h : node.Relisted other) : other.Relisted node := by
  induction h with
  | file content => exact .file content
  | link target => exact .link target
  | directory pairs hentries hothers _ ih =>
      refine .directory (pairs.map fun pair => (pair.1, pair.2.2, pair.2.1)) ?_ ?_
        fun pair hpair => ?_
      · rwa [List.map_map]
      · rwa [List.map_map]
      · obtain ⟨original, horiginal, rfl⟩ := List.mem_map.mp hpair
        exact ih original horiginal

/-- A sound tree is listed in some order. -/
theorem IsSound.relisted (h : node.IsSound) : node.Relisted node := by
  induction h with
  | file content => exact .file content
  | link target => exact .link target
  | @directory entries _ _ _ ih =>
      refine .directory (entries.map fun entry => (entry.1, entry.2, entry.2)) ?_ ?_
        fun triple htriple => ?_
      · rw [List.map_map]
        exact .of_eq (List.map_id entries).symm
      · rw [List.map_map]
        exact .of_eq (List.map_id entries).symm
      · obtain ⟨entry, hentry, rfl⟩ := List.mem_map.mp htriple
        exact ih entry hentry

/-- An entry of the one directory has its counterpart in the other. -/
theorem Relisted.exists_entry {entries others : List (String × Node)}
    (h : (Node.directory entries).Relisted (.directory others)) {name : String} {child : Node}
    (hentry : (name, child) ∈ entries) :
    ∃ otherChild : Node, (name, otherChild) ∈ others ∧ child.Relisted otherChild := by
  cases h with
  | directory pairs hentries hothers hpairs =>
      obtain ⟨pair, hpair, heq⟩ := List.mem_map.mp (hentries.mem_iff.mp hentry)
      obtain ⟨rfl, rfl⟩ := Prod.mk.inj heq
      exact ⟨pair.2.2, hothers.mem_iff.mpr (List.mem_map.mpr ⟨pair, hpair, rfl⟩), hpairs pair hpair⟩

/-- What is found under a name has its counterpart in the other directory. -/
theorem Relisted.lookup {entries others : List (String × Node)}
    (h : (Node.directory entries).Relisted (.directory others))
    (hsound : (Node.directory entries).IsSound) (hothers : (Node.directory others).IsSound)
    (name : String) :
    (entries.lookup name = none ∧ others.lookup name = none) ∨
    ∃ child otherChild : Node, entries.lookup name = some child ∧
      others.lookup name = some otherChild ∧ child.IsSound ∧ child.Relisted otherChild := by
  cases hsound with
  | directory _ hdistinct hnodes =>
      cases hothers with
      | directory _ hothers _ =>
          cases hfound : entries.lookup name with
          | some child =>
              obtain ⟨otherChild, hother, hrelisted⟩ := h.exists_entry (mem_of_lookup hfound)
              exact .inr ⟨child, otherChild, rfl, lookup_of_mem hothers hother,
                hnodes _ (mem_of_lookup hfound), hrelisted⟩
          | none =>
              refine .inl ⟨rfl, Option.eq_none_iff_forall_ne_some.mpr fun otherChild hother => ?_⟩
              obtain ⟨child, hchild, -⟩ := h.symm.exists_entry (mem_of_lookup hother)
              rw [lookup_of_mem hdistinct hchild] at hfound
              cases hfound

/-- A tree stays sound when its entries are listed in another order. -/
theorem Relisted.isSound (h : node.Relisted other) (hnode : node.IsSound) : other.IsSound := by
  induction h with
  | file content => exact .file content
  | link target => exact .link target
  | @directory entries others pairs hentries hothers hpairs ih =>
      have hnames : (others.map Prod.fst).Perm (entries.map Prod.fst) := by
        have hleft := hentries.map Prod.fst
        have hright := hothers.map Prod.fst
        rw [List.map_map] at hleft hright
        exact hright.trans hleft.symm
      cases hnode with
      | directory hproper hdistinct hnodes =>
          refine .directory (fun entry hentry => ?_) (hnames.nodup_iff.mpr hdistinct)
            fun entry hentry => ?_
          · obtain ⟨pair, hpair, rfl⟩ := List.mem_map.mp (hothers.mem_iff.mp hentry)
            exact hproper (pair.1, pair.2.1)
              (hentries.mem_iff.mpr (List.mem_map.mpr ⟨pair, hpair, rfl⟩))
          · obtain ⟨pair, hpair, rfl⟩ := List.mem_map.mp (hothers.mem_iff.mp hentry)
            exact ih pair hpair (hnodes (pair.1, pair.2.1)
              (hentries.mem_iff.mpr (List.mem_map.mpr ⟨pair, hpair, rfl⟩)))

/-- The same real paths lead through both trees. -/
theorem Relisted.exists_reaches (h : node.Relisted other) (hreaches : node.Reaches names target) :
    ∃ otherTarget : Node, other.Reaches names otherTarget ∧ target.Relisted otherTarget := by
  induction hreaches generalizing other with
  | here => exact ⟨other, .here other, h⟩
  | into hentry _ ih =>
      cases other with
      | directory others =>
          obtain ⟨child, hchild, hrelisted⟩ := h.exists_entry hentry
          obtain ⟨otherTarget, hreaches, htarget⟩ := ih hrelisted
          exact ⟨otherTarget, .into hchild hreaches, htarget⟩
      | file | link => cases h

/-- The same real paths lead to the same files. -/
theorem Relisted.reaches_file_iff (h : node.Relisted other) (names : List String) (content : Nat) :
    node.Reaches names (.file content) ↔ other.Reaches names (.file content) := by
  have hforward : ∀ {node other : Node}, node.Relisted other → node.Reaches names (.file content) →
      other.Reaches names (.file content) := by
    intro node other h hreaches
    obtain ⟨target, hother, htarget⟩ := h.exists_reaches hreaches
    cases htarget
    exact hother
  exact ⟨hforward h, hforward h.symm⟩

/-- The same real paths lead to directories. -/
theorem Relisted.exists_directory_iff (h : node.Relisted other) (names : List String) :
    (∃ entries, node.Reaches names (.directory entries)) ↔
      ∃ entries, other.Reaches names (.directory entries) := by
  have hforward : ∀ {node other : Node}, node.Relisted other →
      (∃ entries, node.Reaches names (.directory entries)) →
      ∃ entries, other.Reaches names (.directory entries) := by
    rintro node other h ⟨entries, hreaches⟩
    obtain ⟨target, hother, htarget⟩ := h.exists_reaches hreaches
    cases htarget with
    | directory => exact ⟨_, hother⟩
  exact ⟨hforward h, hforward h.symm⟩

end Node

end MalwareScan.Files
