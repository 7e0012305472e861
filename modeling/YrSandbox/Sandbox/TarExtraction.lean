import YrSandbox.Foundation.Transition
import YrSandbox.Python.Tarfile

/-! # Extraction of archives

`_safe_extract_tar`: each member is checked against the tree that the members before
it have left, and extracted there. -/

namespace YrSandbox.Sandbox

open Python FileTree Os Tarfile Transition

variable (os : Os Text) (release : Release) (depth : Nat)
  (afterLoop : Volume Text → Text → Location Text)

/-! ## The loop -/

/-- `os.path.realpath`, or `none` for a `RecursionError`. What it gives for a path through
a link that leads to itself is not documented, and differs between releases: `afterLoop`
is any function. -/
def resolved (tree : Volume Text) (path : Text) : Option (Location Text) :=
  match realpath tree.link? depth os.cwd (Posixpath.parse path) with
  | .found location => some location
  | .looped => some (afterLoop tree path)
  | .tooDeep => none

/-- `target == dest_real or target.startswith(dest_real + os.sep)`; of `/` the text with
a separator is `//`, with which no other path begins. -/
def accepts (destReal target : Location Text) : Bool :=
  decide (target = destReal) || (decide (destReal ≠ []) && destReal.isPrefixOf target)

/-- One round of the loop, with all members and those before it, the last one first. -/
def safeExtractMember (dest : Text) (destReal : Location Text)
    (archive earlier : List TarInfo) (member : TarInfo) (tree : Volume Text) :
    Outcome Text :=
  match resolved os depth afterLoop tree (Posixpath.join dest member.name) with
  | none => (tree, some .recursionError)
  | some target =>
      if accepts destReal target then
        extract os release depth archive earlier member dest tree
      else (tree, some .runtimeError)

def safeExtractMembers (dest : Text) (destReal : Location Text) (archive : List TarInfo) :
    List TarInfo → List TarInfo → Volume Text → Outcome Text
  | _, [], tree => (tree, none)
  | earlier, member :: members, tree =>
      match safeExtractMember os release depth afterLoop dest destReal archive earlier member
        tree with
      | (extracted, none) =>
          safeExtractMembers dest destReal archive (member :: earlier) members extracted
      | raised => raised

def safeExtractTar (members : List TarInfo) (dest : Text) (tree : Volume Text) :
    Outcome Text :=
  match resolved os depth afterLoop tree dest with
  | none => (tree, some .recursionError)
  | some destReal =>
      safeExtractMembers os release depth afterLoop dest destReal members.reverse [] members
        tree

/-! ## Where a member works -/

def LeadsTo (tree : Volume Text) (path : Path Text) (location : Location Text) : Prop :=
  ∃ count, Leads tree.link? (path.start os.cwd) path.components location count

def EntryAt (tree : Volume Text) (path : Path Text) (location : Location Text) : Prop :=
  ∃ directory name, path.components = path.components.dropLast ++ [.child name] ∧
    (∃ count,
      Leads tree.link? (path.start os.cwd) path.components.dropLast directory count) ∧
    location = directory ++ [name]

def FileInside (destReal : Location Text) (tree : Volume Text) (location : Location Text) :
    Prop :=
  ∀ inode, tree.node location = some (.file inode) → NamedInside destReal tree inode

/-- The directories on the way to the member's place that are missing belong inside. -/
def UpperInside (destReal : Location Text) (tree : Volume Text)
    (target : Path Text) : Prop :=
  ∀ head, head <+: (dirname target).names →
    os.pathExists tree { absolute := target.absolute, names := head } = false →
    ∀ location, LeadsTo os tree { absolute := target.absolute, names := head } location →
      Inside destReal location

def EntryInside (destReal : Location Text) (tree : Volume Text)
    (target : Path Text) : Prop :=
  ∀ location, EntryAt os tree target location → Inside destReal location

/-- Were the link in the member's place, the member's path would lead inside, to nothing
that has a name outside. -/
def LinkInside (destReal : Location Text) (tree : Volume Text) (target link : Path Text) :
    Prop :=
  ∀ location, EntryAt os tree target location → ∀ final,
    LeadsTo os
      (tree.set location (some (.link link)) (by intro inode isFile; cases isFile))
      target final →
    Inside destReal final ∧ FileInside destReal tree final

/-- What a hard link is made to: a file without a name outside, or a link that leads
inside from the member's place too. -/
def SourceInside (destReal : Location Text) (tree : Volume Text)
    (target source : Path Text) :
    Prop :=
  ∀ found, EntryAt os tree source found →
    FileInside destReal tree found ∧
      ∀ link, tree.node found = some (.link link) →
        LinkInside os destReal tree target link

def PathInside (destReal : Location Text) (tree : Volume Text) (target : Path Text) :
    Prop :=
  ∀ location, LeadsTo os tree target location → Inside destReal location

def FilesInside (destReal : Location Text) (tree : Volume Text) (target : Path Text) :
    Prop :=
  ∀ location, LeadsTo os tree target location → FileInside destReal tree location

/-- What is asked of each tree in which a member is copied because no link was made. -/
def CopiesInside (copy : Volume Text → Outcome Text) (inside : Volume Text → Prop) :
    Volume Text × LinkResult → Prop
  | (_, .made) => True
  | (left, .caught) => inside left
  | (left, .absent) =>
      inside left ∧ ∀ partly error, copy left = (partly, some error) →
        release.retriesCopy = true → error.isOSError = true → inside partly

/-- What is asked of the place in which a member is made. Behind a link a mode is set only
if that is `required`. -/
def MemberInside (destReal : Location Text) (copy : Volume Text → Outcome Text)
    (inside : Bool → Volume Text → Prop) (required : Bool) (linkTarget : Option Text)
    (target : Path Text) (member : TarInfo) (tree : Volume Text) : Prop :=
  let upper := (makeUpper os release target tree).1
  UpperInside os destReal tree target ∧
    match member.type with
    | .reg _ | .dir => FilesInside os destReal tree target
    | .sym linkname =>
        EntryInside os destReal tree target ∧
          (required = true →
            LinkInside os destReal tree target (Posixpath.parse linkname)) ∧
          CopiesInside release copy (inside required) (trySymlink os linkname target upper)
    | .lnk _ =>
        let tried := tryLink os release linkTarget target upper
        (tried.2 = .made → ∀ source ∈ linkTarget,
          SourceInside os destReal tree target (Posixpath.parse source)) ∧
          (release.replacesEntry = true → EntryInside os destReal tree target) ∧
          CopiesInside release copy (inside true) tried

def CopyInside (destReal : Location Text) (archive : List TarInfo) (path : Text)
    (position : Nat) (target : Path Text) :
    (depth : Nat) → (earlier : List TarInfo) → TarInfo → (required : Bool) → Volume Text →
    Prop
  | 0, _, _, _, _ => True
  | depth + 1, earlier, link, required, tree =>
      ∀ found before, findLinkTarget archive earlier link = some (found, before) →
        PathInside os destReal tree target ∧
          MemberInside os release destReal
            (extractFound os release archive path position target depth before found)
            (CopyInside destReal archive path position target depth before found)
            required (foundTarget release path position before.length found) target found
            tree

def Confined (dest : Text) (destReal : Location Text) (archive : List TarInfo)
    (state : Volume Text × List TarInfo) (member : TarInfo) : Prop :=
  ∀ found ∈ resolved os depth afterLoop state.1 (Posixpath.join dest member.name),
    accepts destReal found = true →
      let target := targetpath dest member.name
      MemberInside os release destReal
        (extractFound os release archive dest state.2.length target depth state.2 member)
        (CopyInside os release destReal archive dest state.2.length target depth state.2
          member)
        false (member.linkTarget dest) target member state.1

def extractionStep (dest : Text) (destReal : Location Text) (archive : List TarInfo) :
    Step (Volume Text × List TarInfo) TarInfo :=
  fun state member =>
    match safeExtractMember os release depth afterLoop dest destReal archive state.2 member
      state.1 with
    | (extracted, none) => some (extracted, member :: state.2)
    | _ => none

end YrSandbox.Sandbox
