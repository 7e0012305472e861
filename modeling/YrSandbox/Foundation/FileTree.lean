import Mathlib.Data.List.Basic

/-! # File trees

A tree of directories, files and symbolic links. A location is the list of names
from the root; directories have one location, files are reached through inodes, so
that several locations can share one. -/

namespace YrSandbox.FileTree

variable {Name : Type u}

inductive Component (Name : Type u)
  | here
  | parent
  | child (name : Name)
deriving DecidableEq, Repr

/-- A path as it is written. `slash` tells of a trailing slash, which asks for a
directory. -/
structure Path (Name : Type u) where
  absolute : Bool
  names : List (Component Name)
  slash : Bool := false
deriving DecidableEq, Repr

abbrev Location (Name : Type u) := List Name

namespace Path

def components (path : Path Name) : List (Component Name) :=
  if path.slash then path.names ++ [.here] else path.names

def empty (path : Path Name) : Bool := !path.absolute && path.names.isEmpty

def start (path : Path Name) (directory : Location Name) : Location Name :=
  if path.absolute then [] else directory

end Path

inductive Node (Name : Type u)
  | directory (mode : Nat)
  | file (inode : Nat)
  | link (target : Path Name)
deriving DecidableEq, Repr

structure Inode where
  content : List UInt8
  mode : Nat
deriving DecidableEq, Repr

structure Volume (Name : Type u) where
  node : Location Name → Option (Node Name)
  inode : Nat → Inode
  /-- The inode that the next new file is given. -/
  next : Nat
  fresh : ∀ location inode, node location = some (.file inode) → inode < next

namespace Volume

variable (tree : Volume Name)

def isDirectory (location : Location Name) : Bool :=
  match tree.node location with
  | some (.directory _) => true
  | _ => false

def link? (location : Location Name) : Option (Path Name) :=
  match tree.node location with
  | some (.link target) => some target
  | _ => none

/-! ## Changes -/

section

variable [DecidableEq Name]

def set (location : Location Name) (node : Option (Node Name))
    (known : ∀ inode, node = some (.file inode) → inode < tree.next) : Volume Name where
  node := fun other => if other = location then node else tree.node other
  inode := tree.inode
  next := tree.next
  fresh := by
    intro other inode isFile
    split at isFile
    · exact known inode isFile
    · exact tree.fresh other inode isFile

def remove (location : Location Name) : Volume Name :=
  tree.set location none (by intro inode isFile; cases isFile)

def copyNode (source location : Location Name) : Volume Name :=
  tree.set location (tree.node source) (tree.fresh source)

def setInode (number : Nat) (inode : Inode) : Volume Name :=
  { tree with inode := fun other => if other = number then inode else tree.inode other }

def create (location : Location Name) (inode : Inode) : Volume Name where
  node := fun other => if other = location then some (.file tree.next) else tree.node other
  inode := fun other => if other = tree.next then inode else tree.inode other
  next := tree.next + 1
  fresh := by
    intro other number isFile
    split at isFile
    · cases isFile
      exact Nat.lt_succ_self _
    · exact Nat.lt_succ_of_lt (tree.fresh other number isFile)

end

/-! ## Following a path -/

/-- Follow a path component by component; `follow` goes on at a symbolic link. The
last component need not exist. -/
def walkWith (follow : Location Name → List (Component Name) → Option (Location Name)) :
    Location Name → List (Component Name) → Option (Location Name)
  | location, [] => some location
  | location, .here :: rest =>
      if tree.isDirectory location then walkWith follow location rest else none
  | location, .parent :: rest =>
      if tree.isDirectory location then walkWith follow location.dropLast rest else none
  | location, .child name :: rest =>
      if tree.isDirectory location then
        match tree.link? (location ++ [name]) with
        | none => walkWith follow (location ++ [name]) rest
        | some target => follow (target.start location) (target.components ++ rest)
      else none

/-- Path resolution as the kernel does it, through at most `budget` links. -/
def walk : Nat → Location Name → List (Component Name) → Option (Location Name)
  | 0 => tree.walkWith fun _ _ => none
  | budget + 1 => tree.walkWith (walk budget)

end Volume

/-! ## Where links lead -/

/-- Where a path leads by the links alone, and through how many of them. What is not
a link counts as a directory. -/
inductive Leads (links : Location Name → Option (Path Name)) :
    Location Name → List (Component Name) → Location Name → Nat → Prop
  | nil (location : Location Name) : Leads links location [] location 0
  | here {location final : Location Name} {rest : List (Component Name)} {count : Nat}
      (leads : Leads links location rest final count) :
      Leads links location (.here :: rest) final count
  | parent {location final : Location Name} {rest : List (Component Name)} {count : Nat}
      (leads : Leads links location.dropLast rest final count) :
      Leads links location (.parent :: rest) final count
  | child {location final : Location Name} {rest : List (Component Name)} {count : Nat}
      {name : Name} (plain : links (location ++ [name]) = none)
      (leads : Leads links (location ++ [name]) rest final count) :
      Leads links location (.child name :: rest) final count
  | link {location middle final : Location Name} {rest : List (Component Name)}
      {inner count : Nat} {name : Name} {target : Path Name}
      (isLink : links (location ++ [name]) = some target)
      (through : Leads links (target.start location) target.components middle inner)
      (leads : Leads links middle rest final count) :
      Leads links location (.child name :: rest) final (inner + count + 1)

namespace Leads

variable {links : Location Name → Option (Path Name)} {location : Location Name}
  {components : List (Component Name)}

theorem unique {final other : Location Name} {count another : Nat}
    (leads : Leads links location components final count)
    (again : Leads links location components other another) :
    final = other ∧ count = another := by
  induction leads generalizing other another with
  | nil => cases again; exact ⟨rfl, rfl⟩
  | here leads induction =>
      cases again with
      | here again => exact induction again
  | parent leads induction =>
      cases again with
      | parent again => exact induction again
  | child plain leads induction =>
      cases again with
      | child _ again => exact induction again
      | link isLink => rw [plain] at isLink; cases isLink
  | link isLink through leads inductionThrough induction =>
      cases again with
      | child plain => rw [plain] at isLink; cases isLink
      | link isLink' through' again =>
          rw [isLink] at isLink'
          cases isLink'
          rcases inductionThrough through' with ⟨rfl, rfl⟩
          rcases induction again with ⟨rfl, rfl⟩
          exact ⟨rfl, rfl⟩

theorem append {middle final : Location Name} {first second : Nat}
    {rest : List (Component Name)}
    (leads : Leads links location components middle first)
    (leadsOn : Leads links middle rest final second) :
    Leads links location (components ++ rest) final (first + second) := by
  induction leads with
  | nil => simpa using leadsOn
  | here leads induction => exact .here (induction leadsOn)
  | parent leads induction => exact .parent (induction leadsOn)
  | child plain leads induction => exact .child plain (induction leadsOn)
  | link isLink through leads _ induction =>
      have joined := Leads.link isLink through (induction leadsOn)
      rw [← Nat.add_assoc, Nat.add_right_comm] at joined
      exact joined

theorem of_append {final : Location Name} {count : Nat} {rest : List (Component Name)}
    (leads : Leads links location (components ++ rest) final count) :
    ∃ middle first second, Leads links location components middle first ∧
      Leads links middle rest final second := by
  induction components generalizing location count with
  | nil => exact ⟨location, 0, count, .nil location, leads⟩
  | cons component components induction =>
      cases leads with
      | here leads =>
          rcases induction leads with ⟨middle, first, second, leadsTo, leadsOn⟩
          exact ⟨middle, first, second, .here leadsTo, leadsOn⟩
      | parent leads =>
          rcases induction leads with ⟨middle, first, second, leadsTo, leadsOn⟩
          exact ⟨middle, first, second, .parent leadsTo, leadsOn⟩
      | child plain leads =>
          rcases induction leads with ⟨middle, first, second, leadsTo, leadsOn⟩
          exact ⟨middle, first, second, .child plain leadsTo, leadsOn⟩
      | link isLink through leads =>
          rcases induction leads with ⟨middle, first, second, leadsTo, leadsOn⟩
          exact ⟨middle, _, second, .link isLink through leadsTo, leadsOn⟩

end Leads

namespace Volume

variable {tree : Volume Name} {location final : Location Name}
  {components : List (Component Name)}

private theorem walkWith_leads
    {follow : Location Name → List (Component Name) → Option (Location Name)}
    (followed : ∀ start components final, follow start components = some final →
      ∃ count, Leads tree.link? start components final count)
    (walked : tree.walkWith follow location components = some final) :
    ∃ count, Leads tree.link? location components final count := by
  induction components generalizing location with
  | nil =>
      cases walked
      exact ⟨0, .nil _⟩
  | cons component rest induction =>
      cases component with
      | here =>
          rw [walkWith] at walked
          split at walked
          · rcases induction walked with ⟨count, leads⟩
            exact ⟨count, .here leads⟩
          · cases walked
      | parent =>
          rw [walkWith] at walked
          split at walked
          · rcases induction walked with ⟨count, leads⟩
            exact ⟨count, .parent leads⟩
          · cases walked
      | child name =>
          rw [walkWith] at walked
          split at walked
          · split at walked
            · rename_i plain
              rcases induction walked with ⟨count, leads⟩
              exact ⟨count, .child plain leads⟩
            · rename_i target isLink
              rcases followed _ _ _ walked with ⟨count, leads⟩
              rcases leads.of_append with ⟨middle, first, second, through, leadsOn⟩
              exact ⟨_, .link isLink through leadsOn⟩
          · cases walked

theorem walk_leads {budget : Nat}
    (walked : tree.walk budget location components = some final) :
    ∃ count, Leads tree.link? location components final count := by
  induction budget generalizing location components final with
  | zero => exact walkWith_leads (by intro _ _ _ failed; cases failed) walked
  | succ budget induction => exact walkWith_leads (fun _ _ _ => induction) walked

end Volume

namespace Volume

variable {tree later : Volume Name} {location final : Location Name}
  {components : List (Component Name)}

private theorem walkWith_mono (links : later.link? = tree.link?)
    (directories : ∀ location, tree.isDirectory location = true →
      later.isDirectory location = true)
    {follow follow' : Location Name → List (Component Name) → Option (Location Name)}
    (follows : ∀ start components final, follow start components = some final →
      follow' start components = some final)
    (walked : tree.walkWith follow location components = some final) :
    later.walkWith follow' location components = some final := by
  induction components generalizing location with
  | nil => exact walked
  | cons component rest induction =>
      cases component with
      | here =>
          rw [walkWith] at walked ⊢
          split at walked
          · rename_i isDirectory
            rw [if_pos (directories location isDirectory)]
            exact induction walked
          · cases walked
      | parent =>
          rw [walkWith] at walked ⊢
          split at walked
          · rename_i isDirectory
            rw [if_pos (directories location isDirectory)]
            exact induction walked
          · cases walked
      | child name =>
          rw [walkWith] at walked ⊢
          rw [links]
          split at walked
          · rename_i isDirectory
            rw [if_pos (directories location isDirectory)]
            split at walked
            · exact induction walked
            · exact follows _ _ _ walked
          · cases walked

theorem walk_mono (links : later.link? = tree.link?)
    (directories : ∀ location, tree.isDirectory location = true →
      later.isDirectory location = true) {budget : Nat}
    (walked : tree.walk budget location components = some final) :
    later.walk budget location components = some final := by
  induction budget generalizing location components final with
  | zero =>
      exact walkWith_mono links directories (fun _ _ _ failed => by cases failed) walked
  | succ budget induction =>
      exact walkWith_mono links directories (fun _ _ _ => induction) walked

private theorem isDirectory_of_walkWith
    {follow : Location Name → List (Component Name) → Option (Location Name)}
    {component : Component Name} {rest : List (Component Name)}
    (walked : tree.walkWith follow location (component :: rest) = some final) :
    tree.isDirectory location = true := by
  by_contra notDirectory
  cases component <;> simp [walkWith, notDirectory] at walked

variable [DecidableEq Name] {gone : Location Name}

theorem isDirectory_remove (isDirectory : (tree.remove gone).isDirectory location = true) :
    location ≠ gone ∧ tree.isDirectory location = true := by
  by_cases same : location = gone
  · simp [Volume.isDirectory, Volume.remove, Volume.set, same] at isDirectory
  · simp only [Volume.isDirectory, Volume.remove, Volume.set, if_neg same] at isDirectory
    exact ⟨same, isDirectory⟩

theorem link?_remove_of_ne (different : location ≠ gone) :
    (tree.remove gone).link? location = tree.link? location := by
  simp only [Volume.link?, Volume.remove, Volume.set, if_neg different]

@[simp] theorem link?_remove_self : (tree.remove gone).link? gone = none := by
  simp [Volume.link?, Volume.remove, Volume.set]

private theorem walkWith_remove
    {follow follow' : Location Name → List (Component Name) → Option (Location Name)}
    (follows : ∀ start components final, follow start components = some final →
      final ≠ gone → follow' start components = some final)
    (walked : (tree.remove gone).walkWith follow location components = some final)
    (elsewhere : final ≠ gone) :
    tree.walkWith follow' location components = some final := by
  induction components generalizing location with
  | nil => exact walked
  | cons component rest induction =>
      have isDirectory := (isDirectory_remove (isDirectory_of_walkWith walked)).2
      have removed := isDirectory_of_walkWith walked
      cases component with
      | here =>
          rw [walkWith, if_pos removed] at walked
          rw [walkWith, if_pos isDirectory]
          exact induction walked
      | parent =>
          rw [walkWith, if_pos removed] at walked
          rw [walkWith, if_pos isDirectory]
          exact induction walked
      | child name =>
          rw [walkWith, if_pos removed] at walked
          rw [walkWith, if_pos isDirectory]
          by_cases same : location ++ [name] = gone
          · -- what is gone can only be the end of the path
            rw [same, link?_remove_self] at walked
            cases rest with
            | nil => exact absurd (Option.some.inj walked).symm elsewhere
            | cons component rest =>
                exact absurd rfl (isDirectory_remove (isDirectory_of_walkWith walked)).1
          · rw [link?_remove_of_ne same] at walked
            split at walked
            · exact induction walked
            · exact follows _ _ _ walked elsewhere

theorem walk_remove {budget : Nat}
    (walked : (tree.remove gone).walk budget location components = some final)
    (elsewhere : final ≠ gone) : tree.walk budget location components = some final := by
  induction budget generalizing location components final with
  | zero => exact walkWith_remove (fun _ _ _ failed _ => by cases failed) walked elsewhere
  | succ budget induction =>
      exact walkWith_remove (fun _ _ _ => induction) walked elsewhere

end Volume

/-! ## Confinement -/

def Inside (directory location : Location Name) : Prop := directory <+: location

instance [DecidableEq Name] (directory location : Location Name) :
    Decidable (Inside directory location) :=
  inferInstanceAs (Decidable (directory <+: location))

def NamedInside (directory : Location Name) (tree : Volume Name) (inode : Nat) : Prop :=
  ∀ location, tree.node location = some (.file inode) → Inside directory location

def SameOutside (directory : Location Name) (tree later : Volume Name) : Prop :=
  ∀ location, ¬Inside directory location →
    later.node location = tree.node location ∧
      ∀ inode, tree.node location = some (.file inode) →
        later.inode inode = tree.inode inode

namespace SameOutside

variable {directory location : Location Name} {tree later last : Volume Name}

@[simp] theorem refl (directory : Location Name) (tree : Volume Name) :
    SameOutside directory tree tree :=
  fun _ _ => ⟨rfl, fun _ _ => rfl⟩

theorem trans (first : SameOutside directory tree later)
    (second : SameOutside directory later last) : SameOutside directory tree last := by
  intro location outside
  rcases first location outside with ⟨sameNode, sameInode⟩
  rcases second location outside with ⟨sameNode', sameInode'⟩
  constructor
  · exact sameNode'.trans sameNode
  · intro inode isFile
    exact (sameInode' inode (sameNode.trans isFile)).trans (sameInode inode isFile)

variable [DecidableEq Name]

theorem set (inside : Inside directory location) (node : Option (Node Name))
    (known : ∀ inode, node = some (.file inode) → inode < tree.next) :
    SameOutside directory tree (tree.set location node known) := by
  intro other outside
  have different : other ≠ location := by
    rintro rfl
    exact outside inside
  exact ⟨if_neg different, fun _ _ => rfl⟩

theorem create (inside : Inside directory location) (inode : Inode) :
    SameOutside directory tree (tree.create location inode) := by
  intro other outside
  have different : other ≠ location := by
    rintro rfl
    exact outside inside
  constructor
  · exact if_neg different
  · intro number isFile
    have older : number < tree.next := tree.fresh other number isFile
    exact if_neg (Nat.ne_of_lt older)

omit [DecidableEq Name] in
theorem setInode {number : Nat} (named : NamedInside directory tree number)
    (inode : Inode) :
    SameOutside directory tree (tree.setInode number inode) := by
  intro other outside
  constructor
  · rfl
  · intro another isFile
    have different : another ≠ number := by
      rintro rfl
      exact outside (named other isFile)
    exact if_neg different

end SameOutside

end YrSandbox.FileTree
