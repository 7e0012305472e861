import YrSandbox.Python.Os
import YrSandbox.Python.Posixpath

/-! # `tarfile`

`TarFile.extract` with the fully trusted filter, for the members that make files,
directories and links. What owners and times are set to is left out. -/

namespace YrSandbox.Python

open FileTree

structure Release where
  /-- The missing directories of a member are made with `exist_ok=True`. -/
  existOk : Bool
  /-- What is in the place of a directory member has to be a directory. -/
  checksDirectory : Bool
  /-- What is in the place of a hard link is unlinked first. -/
  replacesEntry : Bool
  /-- A copy in place of a hard link to nothing is made within the `try`, so that it is
  made again after an `OSError`. -/
  retriesCopy : Bool
  /-- A member keeps the `_link_target` that `extract` has given it. -/
  keepsLinkTarget : Bool
deriving DecidableEq, Repr

inductive MemberType
  | reg (data : List UInt8)
  | dir
  | sym (linkname : Text)
  | lnk (linkname : Text)
deriving DecidableEq, Repr

structure TarInfo where
  name : Text
  mode : Nat
  type : MemberType
deriving DecidableEq, Repr

namespace TarInfo

def issym (tarinfo : TarInfo) : Bool :=
  match tarinfo.type with
  | .sym _ => true
  | _ => false

/-- The `_link_target` that `extract` gives a member. -/
def linkTarget (tarinfo : TarInfo) (path : Text) : Option Text :=
  match tarinfo.type with
  | .lnk linkname => some (Posixpath.join path linkname)
  | _ => none

end TarInfo

/-- `dirname` of a path without a trailing slash -/
def dirname (path : Path Text) : Path Text := { path with names := path.names.dropLast }

namespace Tarfile

open Os

variable (os : Os Text) (release : Release)

def makedir (target : Path Text) (tree : Volume Text) : Outcome Text :=
  match os.mkdir tree target 0o700 with
  | .ok made => (made, none)
  | .error .fileExistsError =>
      if release.checksDirectory &&
        !os.isdir tree target then (tree, some .fileExistsError)
      else (tree, none)
  | .error error => (tree, some error)

/-! ## Links -/

/-- `_getmember` with `normalize`, in members from the last to the first: the member of
that name, and those before it. -/
def getmember (name : Text) : List TarInfo → Option (TarInfo × List TarInfo)
  | [] => none
  | member :: before =>
      if Posixpath.normpath name = Posixpath.normpath member.name then some (member, before)
      else getmember name before

/-- `_find_link_target`, where `archive` has all members, and `earlier` those before the
link. -/
def findLinkTarget (archive earlier : List TarInfo) (tarinfo : TarInfo) :
    Option (TarInfo × List TarInfo) :=
  match tarinfo.type with
  | .sym linkname =>
      getmember (['/'].intercalate
        ([Posixpath.dirname tarinfo.name, linkname].filter (· ≠ []))) archive
  | .lnk linkname => getmember linkname earlier
  | .reg _ | .dir => none

/-- How the `try` of `makelink` ends: what it catches are the `symlink_exception`s. -/
inductive LinkResult
  | made
  | absent -- there is nothing to link to
  | caught
deriving DecidableEq, Repr

/-- `if os.path.lexists(targetpath): os.unlink(targetpath)` -/
def clear (target : Path Text) (tree : Volume Text) : Except Exn (Volume Text) :=
  if os.lexists tree target then os.unlink tree target else .ok tree

def linkResult (tree : Volume Text) : Except Exn (Volume Text) → Volume Text × LinkResult
  | .ok made => (made, .made)
  | .error _ => (tree, .caught)

def trySymlink (linkname : Text) (target : Path Text) (tree : Volume Text) :
    Volume Text × LinkResult :=
  match clear os target tree with
  | .ok free => linkResult free (os.symlink free target (Posixpath.parse linkname))
  | .error _ => (tree, .caught)

/-- The use of a `_link_target` that there is not is an `AttributeError`. -/
def tryLink (linkTarget : Option Text) (target : Path Text) (tree : Volume Text) :
    Volume Text × LinkResult :=
  match linkTarget with
  | none => (tree, .caught)
  | some source =>
      if os.pathExists tree (Posixpath.parse source) then
        match if release.replacesEntry then clear os target tree else .ok tree with
        | .ok free => linkResult free (os.link free target (Posixpath.parse source))
        | .error _ => (tree, .caught)
      else (tree, .absent)

def unresolved : Outcome Text → Outcome Text
  | (tree, some .keyError) => (tree, some .extractError)
  | other => other

/-- `makelink`; `copy` extracts the member that is linked to. -/
def makelink (copy : Volume Text → Outcome Text) :
    Volume Text × LinkResult → Outcome Text
  | (made, .made) => (made, none)
  | (left, .caught) => unresolved (copy left)
  | (left, .absent) =>
      match copy left with
      | (partly, some error) =>
          if release.retriesCopy && error.isOSError then unresolved (copy partly)
          else (partly, some error)
      | (made, none) => (made, none)

/-! ## Members -/

def make (copy : Volume Text → Outcome Text) (linkTarget : Option Text)
    (tarinfo : TarInfo) (target : Path Text) (tree : Volume Text) : Outcome Text :=
  match tarinfo.type with
  | .reg data => os.writeFile tree target data
  | .dir => makedir os release target tree
  | .sym linkname => makelink release copy (trySymlink os linkname target tree)
  | .lnk _ => makelink release copy (tryLink os release linkTarget target tree)

def makeUpper (target : Path Text) (tree : Volume Text) : Outcome Text :=
  let upperdirs := dirname target
  if upperdirs.names ≠ [] ∧ os.pathExists tree upperdirs = false then
    os.makedirs tree release.existOk upperdirs.absolute upperdirs.names.reverse
  else (tree, none)

/-- `chown`, and if the member is no symbolic link `chmod` and `utime` -/
def setAttrs (tarinfo : TarInfo) (target : Path Text) (tree : Volume Text) :
    Outcome Text :=
  if os.allows tree (.chown target) then
    if tarinfo.issym then (tree, none)
    else
      match os.chmod tree target tarinfo.mode with
      | .ok changed =>
          (changed, if os.allows changed (.utime target) then none else some .extractError)
      | .error _ => (tree, some .extractError)
  else (tree, some .extractError)

def extractMember (copy : Volume Text → Outcome Text) (linkTarget : Option Text)
    (tarinfo : TarInfo) (target : Path Text) (tree : Volume Text) : Outcome Text :=
  match makeUpper os release target tree with
  | (upper, some error) => (upper, some error)
  | (upper, none) =>
      match make os release copy linkTarget tarinfo target upper with
      | (made, some error) => (made, some error)
      | (made, none) => setAttrs os tarinfo target made

/-- The `_link_target` of a member that is found, behind `index` others. `extract` was
called for the one at `position` last. -/
def foundTarget (path : Text) (position index : Nat) (found : TarInfo) : Option Text :=
  if release.keepsLinkTarget ∧ index ≤ position then found.linkTarget path else none

/-- `_extract_member(self._find_link_target(tarinfo), targetpath)`, `depth` calls from the
recursion limit: a symbolic link can be found again for ever. -/
def extractFound (archive : List TarInfo) (path : Text) (position : Nat)
    (target : Path Text) :
    (depth : Nat) → (earlier : List TarInfo) → TarInfo → Volume Text → Outcome Text
  | 0, _, _, tree => (tree, some .recursionError)
  | depth + 1, earlier, tarinfo, tree =>
      match findLinkTarget archive earlier tarinfo with
      | none => (tree, some .keyError)
      | some (found, before) =>
          extractMember os release
            (extractFound archive path position target depth before found)
            (foundTarget release path position before.length found) found target tree

/-- `targetpath.rstrip("/")`, which leaves nothing of slashes alone -/
def targetpath (path name : Text) : Path Text :=
  let joined := Posixpath.parse (Posixpath.join path name)
  { joined with absolute := joined.absolute && !joined.names.isEmpty, slash := false }

/-- `extract`; what `_handle_nonfatal_error` is given is forgotten. -/
def extract (depth : Nat) (archive earlier : List TarInfo) (tarinfo : TarInfo)
    (path : Text) (tree : Volume Text) : Outcome Text :=
  let target := targetpath path tarinfo.name
  let copy := extractFound os release archive path earlier.length target depth earlier tarinfo
  match extractMember os release copy (tarinfo.linkTarget path) tarinfo target tree with
  | (extracted, some .extractError) => (extracted, none)
  | other => other

end Tarfile

end YrSandbox.Python
