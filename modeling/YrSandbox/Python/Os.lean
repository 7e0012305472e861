import YrSandbox.Foundation.FileTree

/-! # `os`

The calls that change a file tree, as POSIX has them, and `os.makedirs` on top. A call
that fails changes nothing, a write that fails has written some of its bytes. Searching
directories is always permitted; every change may be refused. -/

namespace YrSandbox.Python

open FileTree

variable {Name : Type u} [DecidableEq Name]

inductive Exn
  | fileExistsError
  | osError -- any other `OSError`
  | keyError
  | extractError
  | recursionError
  | runtimeError
deriving DecidableEq, Repr

/-- `isinstance(error, OSError)` -/
def Exn.isOSError : Exn → Bool
  | .fileExistsError | .osError => true
  | .keyError | .extractError | .recursionError | .runtimeError => false

inductive SystemCall (Name : Type u)
  | mkdir (location : Location Name)
  | create (location : Location Name)
  | truncate (location : Location Name)
  | unlink (location : Location Name)
  | symlink (location : Location Name)
  | link (source location : Location Name)
  | chmod (location : Location Name)
  | chown (path : Path Name)
  | utime (path : Path Name)
deriving DecidableEq, Repr

structure Os (Name : Type u) where
  cwd : Location Name
  /-- How many symbolic links the resolution of a path goes through. -/
  maxLinks : Nat
  /-- A mode without the bits of the umask. -/
  masked : Nat → Nat
  /-- Permissions, quotas and all else that can make a change fail. -/
  allows : Volume Name → SystemCall Name → Bool
  /-- After how many bytes the writing of a file fails. -/
  failsAfter : Volume Name → (inode : Nat) → Option Nat

namespace Os

variable (os : Os Name) (tree : Volume Name) (path : Path Name)

/-! ## Finding -/

/-- The empty path leads nowhere. -/
def follow : Option (Location Name) :=
  if path.empty then none
  else tree.walk os.maxLinks (path.start os.cwd) path.components

/-- The place of the entry itself, the last component not followed. It has none if the
path ends in a dot or two. -/
def place : Option (Location Name) :=
  match path.components.getLast? with
  | some (.child name) =>
      (tree.walk os.maxLinks (path.start os.cwd) path.components.dropLast).bind
        fun directory =>
          if tree.isDirectory directory then some (directory ++ [name]) else none
  | _ => none

def pathExists : Bool := ((os.follow tree path).bind tree.node).isSome

def lexists : Bool :=
  match os.place tree path with
  | some location => (tree.node location).isSome
  | none => os.pathExists tree path

def isdir : Bool :=
  match os.follow tree path with
  | some location => tree.isDirectory location
  | none => false

/-! ## Changing -/

def mkdir (mode : Nat) : Except Exn (Volume Name) :=
  match os.place tree path with
  | none =>
      if os.pathExists tree path then .error .fileExistsError
      else .error .osError
  | some location =>
      if (tree.node location).isSome then .error .fileExistsError
      else if os.allows tree (.mkdir location) then
        .ok (tree.set location (some (.directory (os.masked mode)))
          (by intro inode isFile; cases isFile))
      else .error .osError

def unlink : Except Exn (Volume Name) :=
  match os.place tree path with
  | none => .error .osError
  | some location =>
      match tree.node location with
      | none | some (.directory _) => .error .osError
      | _ =>
          if os.allows tree (.unlink location) then .ok (tree.remove location)
          else .error .osError

def symlink (target : Path Name) : Except Exn (Volume Name) :=
  match os.place tree path with
  | none => .error .osError
  | some location =>
      if target.empty then .error .osError
      else if (tree.node location).isSome then .error .fileExistsError
      else if os.allows tree (.symlink location) then
        .ok (tree.set location (some (.link target)) (by intro inode isFile; cases isFile))
      else .error .osError

/-- A symbolic link at the end of `source` is not followed. -/
def link (source : Path Name) : Except Exn (Volume Name) :=
  match os.place tree source, os.place tree path with
  | some found, some location =>
      match tree.node found with
      | none | some (.directory _) => .error .osError
      | _ =>
          if (tree.node location).isSome then .error .fileExistsError
          else if os.allows tree (.link found location) then
            .ok (tree.copyNode found location)
          else .error .osError
  | _, _ => .error .osError

def chmod (mode : Nat) : Except Exn (Volume Name) :=
  match os.follow tree path with
  | none => .error .osError
  | some location =>
      if os.allows tree (.chmod location) then
        match tree.node location with
        | some (.directory _) =>
            .ok (tree.set location (some (.directory mode))
              (by intro inode isFile; cases isFile))
        | some (.file inode) =>
            .ok (tree.setInode inode { tree.inode inode with mode := mode })
        | _ => .error .osError
      else .error .osError

/-! ## Several calls in turn -/

abbrev Outcome (Name : Type u) := Volume Name × Option Exn

omit [DecidableEq Name] in
def outcome (tree : Volume Name) : Except Exn (Volume Name) → Outcome Name
  | .ok changed => (changed, none)
  | .error error => (tree, some error)

def writeContent (inode : Nat) (content : List UInt8) : Outcome Name :=
  match os.failsAfter tree inode with
  | none => (tree.setInode inode { tree.inode inode with content := content }, none)
  | some count =>
      (tree.setInode inode { tree.inode inode with content := content.take count },
        some .osError)

/-- `open(path, "wb")` and what is written then. -/
def writeFile (content : List UInt8) : Outcome Name :=
  match os.follow tree path with
  | none => (tree, some .osError)
  | some location =>
      match tree.node location with
      | none =>
          if os.allows tree (.create location) then
            os.writeContent (tree.create location ⟨[], os.masked 0o666⟩) tree.next content
          else (tree, some .osError)
      | some (.file inode) =>
          if os.allows tree (.truncate location) then
            os.writeContent (tree.setInode inode { tree.inode inode with content := [] })
              inode content
          else (tree, some .osError)
      | _ => (tree, some .osError)

def mkdirOrExists (existOk : Bool) : Outcome Name :=
  match os.mkdir tree path 0o777 with
  | .ok made => (made, none)
  | .error error =>
      if existOk && os.isdir tree path then (tree, none) else (tree, some error)

/-- `os.makedirs`, with the components of the path from the last to the first. -/
def makedirs (existOk absolute : Bool) : List (Component Name) → Outcome Name
  | [] => (tree, some .osError)
  | tail :: head =>
      let path : Path Name := { absolute := absolute, names := (tail :: head).reverse }
      if head = [] ∨
        os.pathExists tree { absolute := absolute, names := head.reverse } then
        os.mkdirOrExists tree path existOk
      else
        match makedirs existOk absolute head with
        | (made, none) | (made, some .fileExistsError) =>
            if tail = .here then (made, none) else os.mkdirOrExists made path existOk
        | failed => failed

/-! ## What a call does -/

section

variable {os : Os Name} {tree made : Volume Name} {path : Path Name}
  {location : Location Name}

omit [DecidableEq Name] in
theorem follow_leads (followed : os.follow tree path = some location) :
    ∃ count, Leads tree.link? (path.start os.cwd) path.components location count := by
  rw [follow] at followed
  split at followed
  · cases followed
  · exact Volume.walk_leads followed

omit [DecidableEq Name] in
theorem place_cases (placed : os.place tree path = some location) :
    ∃ directory name, path.components = path.components.dropLast ++ [.child name] ∧
      tree.walk os.maxLinks (path.start os.cwd) path.components.dropLast = some directory ∧
      tree.isDirectory directory = true ∧ location = directory ++ [name] := by
  rw [place] at placed
  split at placed
  · rename_i name last
    rcases Option.bind_eq_some_iff.mp placed with ⟨directory, walked, isLocation⟩
    split at isLocation
    · rename_i isDirectory
      cases isLocation
      have split := List.dropLast_append_getLast? (Component.child name) last
      exact ⟨directory, name, split.symm, walked, isDirectory, rfl⟩
    · cases isLocation
  · cases placed

omit [DecidableEq Name] in
theorem place_leads (placed : os.place tree path = some location)
    (plain : tree.link? location = none) :
    ∃ count, Leads tree.link? (path.start os.cwd) path.components location count := by
  rcases place_cases placed with ⟨directory, name, split, walked, _, rfl⟩
  rcases Volume.walk_leads walked with ⟨count, leads⟩
  rw [split]
  exact ⟨_, leads.append (.child plain (.nil _))⟩

theorem mkdir_ok {mode : Nat} (ok : os.mkdir tree path mode = .ok made) :
    ∃ location, os.place tree path = some location ∧ tree.node location = none ∧
      made = tree.set location (some (.directory (os.masked mode)))
        (by intro inode isFile; cases isFile) := by
  rw [mkdir] at ok
  split at ok
  · split at ok <;> cases ok
  · rename_i location placed
    split at ok
    · cases ok
    · rename_i absent
      split at ok
      · cases ok
        exact ⟨location, placed, by simpa using absent, rfl⟩
      · cases ok

theorem unlink_ok (ok : os.unlink tree path = .ok made) :
    ∃ location, os.place tree path = some location ∧ made = tree.remove location := by
  rw [unlink] at ok
  split at ok
  · cases ok
  · rename_i location placed
    split at ok
    · cases ok
    · cases ok
    · split at ok
      · cases ok
        exact ⟨location, placed, rfl⟩
      · cases ok

theorem symlink_ok {target : Path Name} (ok : os.symlink tree path target = .ok made) :
    ∃ location, os.place tree path = some location ∧ tree.node location = none ∧
      made = tree.set location (some (.link target))
        (by intro inode isFile; cases isFile) := by
  rw [symlink] at ok
  split at ok
  · cases ok
  · rename_i location placed
    split at ok
    · cases ok
    · split at ok
      · cases ok
      · rename_i absent
        split at ok
        · cases ok
          exact ⟨location, placed, by simpa using absent, rfl⟩
        · cases ok

theorem link_ok {source : Path Name} (ok : os.link tree path source = .ok made) :
    ∃ found location, os.place tree source = some found ∧
      os.place tree path = some location ∧
      ((∃ inode, tree.node found = some (.file inode)) ∨
        ∃ target, tree.node found = some (.link target)) ∧
      tree.node location = none ∧ made = tree.copyNode found location := by
  rw [link] at ok
  split at ok
  · rename_i found location placedSource placed
    split at ok
    · cases ok
    · cases ok
    · rename_i present notDirectory
      split at ok
      · cases ok
      · rename_i absent
        split at ok
        · cases ok
          refine ⟨found, location, placedSource, placed, ?_, by simpa using absent, rfl⟩
          cases isNode : tree.node found with
          | none => exact absurd isNode present
          | some node =>
              cases node with
              | directory mode => exact absurd isNode (notDirectory mode)
              | file inode => exact .inl ⟨inode, rfl⟩
              | link target => exact .inr ⟨target, rfl⟩
        · cases ok
  · cases ok

theorem chmod_ok {mode : Nat} (ok : os.chmod tree path mode = .ok made) :
    ∃ location, os.follow tree path = some location ∧
      ((∃ before, tree.node location = some (.directory before) ∧
          made = tree.set location (some (.directory mode))
            (by intro inode isFile; cases isFile)) ∨
        ∃ inode, tree.node location = some (.file inode) ∧
          made = tree.setInode inode { tree.inode inode with mode := mode }) := by
  rw [chmod] at ok
  split at ok
  · cases ok
  · rename_i location followed
    split at ok
    · split at ok
      · rename_i before isDirectory
        cases ok
        exact ⟨location, followed, .inl ⟨before, isDirectory, rfl⟩⟩
      · rename_i inode isFile
        cases ok
        exact ⟨location, followed, .inr ⟨inode, isFile, rfl⟩⟩
      · cases ok
    · cases ok

omit [DecidableEq Name] in
theorem writeContent_setInode (os : Os Name) (tree : Volume Name) (inode : Nat)
    (content : List UInt8) :
    ∃ changed, (os.writeContent tree inode content).1 = tree.setInode inode changed := by
  rw [writeContent]
  split
  · exact ⟨_, rfl⟩
  · exact ⟨_, rfl⟩

theorem writeFile_cases (os : Os Name) (tree : Volume Name) (path : Path Name)
    (content : List UInt8) :
    (os.writeFile tree path content).1 = tree ∨
      ∃ location, os.follow tree path = some location ∧
        ((∃ inode, tree.node location = some (.file inode) ∧
            ∃ changed, (os.writeFile tree path content).1 = tree.setInode inode changed) ∨
          (tree.node location = none ∧
            ∃ changed,
              (os.writeFile tree path content).1 = tree.create location changed)) := by
  rw [writeFile]
  split
  · exact .inl rfl
  · rename_i location followed
    split
    · rename_i absent
      split
      · right
        refine ⟨location, followed, .inr ⟨absent, ?_⟩⟩
        rcases writeContent_setInode os (tree.create location ⟨[], os.masked 0o666⟩)
          tree.next content with ⟨changed, same⟩
        refine ⟨changed, same.trans ?_⟩
        simp only [Volume.setInode, Volume.create, Volume.mk.injEq, true_and, and_true]
        funext other
        split <;> rfl
      · exact .inl rfl
    · rename_i inode isFile
      split
      · right
        refine ⟨location, followed, .inl ⟨inode, isFile, ?_⟩⟩
        rcases writeContent_setInode os
          (tree.setInode inode { tree.inode inode with content := [] }) inode content with
          ⟨changed, same⟩
        refine ⟨changed, same.trans ?_⟩
        simp only [Volume.setInode, Volume.mk.injEq, true_and, and_true]
        funext other
        split <;> rfl
      · exact .inl rfl
    · exact .inl rfl

theorem mkdir_missing {mode : Nat} (ok : os.mkdir tree path mode = .ok made) :
    os.pathExists tree path = false := by
  rcases mkdir_ok ok with ⟨location, placed, absent, _⟩
  have plain : tree.link? location = none := by rw [Volume.link?, absent]
  rcases place_leads placed plain with ⟨count, leads⟩
  rw [pathExists]
  cases followed : os.follow tree path with
  | none => rfl
  | some other =>
      rcases follow_leads followed with ⟨another, leadsToo⟩
      rw [(leadsToo.unique leads).1]
      simp [absent]

theorem place_remove {gone : Location Name}
    (placed : os.place (tree.remove gone) path = some location) :
    os.place tree path = some location := by
  rcases place_cases placed with ⟨directory, name, split, walked, isDirectory, rfl⟩
  have present := Volume.isDirectory_remove isDirectory
  have last : path.components.getLast? = some (.child name) := by
    rw [split, List.getLast?_concat]
  rw [place, last]
  simp only [Volume.walk_remove walked present.1, Option.bind_some, if_pos present.2]

end

end Os

end YrSandbox.Python
