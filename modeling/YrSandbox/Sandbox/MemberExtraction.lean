import YrSandbox.Sandbox.TarExtraction

/-! # Extraction of one member

What the extraction of a member keeps outside the destination, step by step: the
directories on the way, the member itself, links and the copies in their place. -/

namespace YrSandbox.Sandbox

open Python FileTree Os Tarfile

variable {os : Os Text} {release : Release} {destReal location : Location Text}
  {before tree later : Volume Text} {target : Path Text}

/-! ## What has grown inside -/

structure Grown (destReal : Location Text) (before tree : Volume Text) : Prop where
  links : tree.link? = before.link?
  keeps : ∀ location node, before.node location = some node →
    tree.node location = some node
  files : ∀ location inode, tree.node location = some (.file inode) →
    before.node location = some (.file inode)
  outside : SameOutside destReal before tree

namespace Grown

theorem refl (destReal : Location Text) (before : Volume Text) :
    Grown destReal before before where
  links := rfl
  keeps := fun _ _ => id
  files := fun _ _ => id
  outside := .refl destReal before

theorem leadsTo_iff (grown : Grown destReal before tree) {path : Path Text} :
    LeadsTo os tree path location ↔ LeadsTo os before path location := by
  rw [LeadsTo, LeadsTo, grown.links]

theorem entryAt_iff (grown : Grown destReal before tree) {path : Path Text} :
    EntryAt os tree path location ↔ EntryAt os before path location := by
  rw [EntryAt, EntryAt, grown.links]

theorem fileInside (grown : Grown destReal before tree)
    (inside : FileInside destReal before location) :
    FileInside destReal tree location := by
  intro inode isFile other isOther
  exact inside inode (grown.files location inode isFile) other
    (grown.files other inode isOther)

theorem missing (grown : Grown destReal before tree) {path : Path Text}
    (missing : os.pathExists tree path = false) : os.pathExists before path = false := by
  rw [← Bool.not_eq_true] at missing ⊢
  intro existed
  apply missing
  rcases Option.isSome_iff_exists.mp existed with ⟨node, found⟩
  rcases Option.bind_eq_some_iff.mp found with ⟨location, walked, isNode⟩
  have directories : ∀ location, before.isDirectory location = true →
      tree.isDirectory location = true := by
    intro location isDirectory
    rw [Volume.isDirectory] at isDirectory
    split at isDirectory
    · rename_i mode isNode
      rw [Volume.isDirectory, grown.keeps location _ isNode]
    · cases isDirectory
  have walked' : os.follow tree path = some location := by
    rw [follow] at walked ⊢
    split at walked
    · cases walked
    · rename_i notEmpty
      rw [if_neg notEmpty]
      exact Volume.walk_mono grown.links directories walked
  rw [pathExists, walked', Option.bind_some, grown.keeps location node isNode]
  rfl

theorem mkdir (grown : Grown destReal before tree) (absent : tree.node location = none)
    (inside : Inside destReal location) (mode : Nat) :
    Grown destReal before (tree.set location (some (.directory mode))
      (by intro inode isFile; cases isFile)) where
  links := by
    rw [← grown.links]
    funext other
    by_cases same : other = location
    · simp [Volume.link?, Volume.set, same, absent]
    · simp [Volume.link?, Volume.set, same]
  keeps := by
    intro other node isNode
    have kept := grown.keeps other node isNode
    by_cases same : other = location
    · subst same
      rw [absent] at kept
      cases kept
    · simpa [Volume.set, same] using kept
  files := by
    intro other inode isFile
    by_cases same : other = location
    · simp [Volume.set, same] at isFile
    · exact grown.files other inode (by simpa [Volume.set, same] using isFile)
  outside := grown.outside.trans (.set inside _ _)

end Grown

theorem place_entryAt {path : Path Text} (placed : os.place tree path = some location) :
    EntryAt os tree path location := by
  rcases place_cases placed with ⟨directory, name, split, walked, _, isLocation⟩
  exact ⟨directory, name, split, Volume.walk_leads walked, isLocation⟩

/-! ## The upper directories -/

theorem mkdirOrExists_grown {path : Path Text} {existOk : Bool}
    (grown : Grown destReal before tree)
    (inside : os.pathExists before path = false →
      ∀ location, LeadsTo os before path location → Inside destReal location) :
    Grown destReal before (os.mkdirOrExists tree path existOk).1 := by
  rw [mkdirOrExists]
  split
  · rename_i made ok
    have missing := grown.missing (mkdir_missing ok)
    rcases mkdir_ok ok with ⟨location, placed, absent, rfl⟩
    have plain : tree.link? location = none := by rw [Volume.link?, absent]
    have leads := grown.leadsTo_iff.mp (place_leads placed plain)
    exact grown.mkdir absent (inside missing location leads) _
  · split <;> exact grown

/-- By induction on the path from its end: every directory that is made is one that was
missing before. -/
theorem makedirs_grown {existOk absolute : Bool} {components : List (Component Text)}
    (grown : Grown destReal before tree)
    (inside : ∀ head, head <+: components.reverse →
      os.pathExists before { absolute := absolute, names := head } = false →
      ∀ location, LeadsTo os before { absolute := absolute, names := head } location →
        Inside destReal location) :
    Grown destReal before (os.makedirs tree existOk absolute components).1 := by
  induction components with
  | nil => exact grown
  | cons tail head induction =>
      have last := inside (tail :: head).reverse (List.prefix_refl _)
      rw [makedirs]
      split
      · exact mkdirOrExists_grown grown last
      · have upper :=
          induction (fun some isPrefix => inside some (isPrefix.trans (by simp)))
        split
        · rename_i made isMade
          rw [isMade] at upper
          split
          · exact upper
          · exact mkdirOrExists_grown upper last
        · rename_i made isMade
          rw [isMade] at upper
          split
          · exact upper
          · exact mkdirOrExists_grown upper last
        · exact upper

variable (release) in
theorem makeUpper_grown (grown : Grown destReal before tree)
    (inside : UpperInside os destReal before target) :
    Grown destReal before (makeUpper os release target tree).1 := by
  rw [makeUpper]
  split
  · apply makedirs_grown grown
    rw [List.reverse_reverse]
    exact inside
  · exact grown

/-! ## The member itself -/

def Settled (os : Os Text) (destReal : Location Text) (tree : Volume Text)
    (target : Path Text) : Prop :=
  ∀ location, os.follow tree target = some location →
    Inside destReal location ∧ FileInside destReal tree location

/-- Nothing outside has changed, and the member's mode can be set if that is
`required`. -/
def Kept (os : Os Text) (destReal : Location Text) (before : Volume Text)
    (target : Path Text)
    (required : Prop) (outcome : Outcome Text) : Prop :=
  SameOutside destReal before outcome.1 ∧
    (required → outcome.2 = none → Settled os destReal outcome.1 target)

theorem settled_of_links (before : Volume Text) {later : Volume Text}
    (links : later.link? = before.link?)
    (inside : ∀ location, LeadsTo os before target location →
      Inside destReal location ∧ FileInside destReal later location) :
    Settled os destReal later target := by
  intro location followed
  rcases follow_leads followed with ⟨count, leads⟩
  rw [links] at leads
  exact inside location ⟨count, leads⟩

section

variable
  (reaches : ∀ location, LeadsTo os before target location → Inside destReal location)
  (files : ∀ location, LeadsTo os before target location →
    FileInside destReal before location)

include reaches files

theorem Grown.kept (grown : Grown destReal before tree) (error : Option Exn) :
    Kept os destReal before target True (tree, error) := by
  constructor
  · exact grown.outside
  · intro _ _
    apply settled_of_links before grown.links
    intro location leads
    exact ⟨reaches location leads, grown.fileInside (files location leads)⟩

theorem writeFile_kept (grown : Grown destReal before tree) (content : List UInt8) :
    Kept os destReal before target True (os.writeFile tree target content) := by
  rcases writeFile_cases os tree target content with
    same | ⟨location, followed, ⟨inode, isFile, changed, isChanged⟩ |
      ⟨absent, changed, isChanged⟩⟩
  · rw [Kept, same]
    exact grown.kept reaches files (os.writeFile tree target content).2
  · have leads := grown.leadsTo_iff.mp (follow_leads followed)
    have named : NamedInside destReal tree inode :=
      grown.fileInside (files location leads) inode isFile
    rw [Kept, isChanged]
    constructor
    · exact grown.outside.trans (.setInode named changed)
    · intro _ _
      apply settled_of_links before
      · exact grown.links
      intro other leadsToo
      exact ⟨reaches other leadsToo, grown.fileInside (files other leadsToo)⟩
  · have leads := grown.leadsTo_iff.mp (follow_leads followed)
    have inside := reaches location leads
    rw [Kept, isChanged]
    constructor
    · exact grown.outside.trans (.create inside changed)
    · intro _ _
      apply settled_of_links before
      · rw [← grown.links]
        funext other
        by_cases same : other = location
        · simp [Volume.link?, Volume.create, same, absent]
        · simp [Volume.link?, Volume.create, same]
      · intro other leadsToo
        rcases leads with ⟨count, leads⟩
        rcases leadsToo with ⟨another, leadsToo⟩
        rcases (leads.unique leadsToo).1 with rfl
        refine ⟨inside, ?_⟩
        intro inode isFile other isOther
        simp only [Volume.create, if_pos, Option.some.injEq, Node.file.injEq] at isFile
        subst isFile
        by_cases same : other = location
        · exact same ▸ inside
        · simp only [Volume.create, if_neg same] at isOther
          exact absurd (tree.fresh other tree.next isOther) (Nat.lt_irrefl _)

omit files in
variable (release) in
theorem makedir_grown (grown : Grown destReal before tree) :
    Grown destReal before (makedir os release target tree).1 := by
  rw [makedir]
  split
  · rename_i made ok
    rcases mkdir_ok ok with ⟨location, placed, absent, rfl⟩
    have plain : tree.link? location = none := by rw [Volume.link?, absent]
    have leads := grown.leadsTo_iff.mp (place_leads placed plain)
    exact grown.mkdir absent (reaches location leads) _
  · split <;> exact grown
  · exact grown

end

/-! ## Links -/

theorem settled_of_link {link : Path Text} (placed : EntryAt os before target location)
    (inside : LinkInside os destReal before target link)
    (isLink : ∀ other, later.link? other =
      if other = location then some link else before.link? other)
    (files : ∀ other inode, later.node other = some (.file inode) →
      before.node other = some (.file inode)) :
    Settled os destReal later target := by
  intro final followed
  rcases follow_leads followed with ⟨count, leads⟩
  have links : later.link? = (before.set location (some (.link link))
      (by intro inode isFile; cases isFile)).link? := by
    funext other
    rw [isLink other]
    by_cases same : other = location
    · simp [Volume.link?, Volume.set, same]
    · simp [Volume.link?, Volume.set, same]
  rw [links] at leads
  rcases inside location placed final ⟨count, leads⟩ with ⟨isInside, fileInside⟩
  refine ⟨isInside, ?_⟩
  intro inode isFile other isOther
  exact fileInside inode (files final inode isFile) other (files other inode isOther)

structure Cleared (os : Os Text) (destReal : Location Text) (before : Volume Text)
    (target : Path Text) (free : Volume Text) : Prop where
  outside : SameOutside destReal before free
  entry : ∀ path location, os.place free path = some location →
    EntryAt os before path location
  inside : ∀ location, os.place free target = some location →
    free.node location = none → Inside destReal location
  elsewhere : ∀ location, os.place free target = some location →
    ∀ other, other ≠ location → free.link? other = before.link? other
  nodes : ∀ other node, free.node other = some node →
    (∃ inode, node = .file inode) ∨ (∃ link, node = .link link) →
    before.node other = some node

theorem Grown.nodes (grown : Grown destReal before tree) {other : Location Text}
    {node : Node Text} (isNode : tree.node other = some node)
    (kind : (∃ inode, node = .file inode) ∨ (∃ link, node = .link link)) :
    before.node other = some node := by
  rcases kind with ⟨inode, rfl⟩ | ⟨link, rfl⟩
  · exact grown.files other inode isNode
  · have linked : before.link? other = some link := by
      rw [← grown.links, Volume.link?, isNode]
    rw [Volume.link?] at linked
    split at linked
    · rename_i isLink
      cases linked
      exact isLink
    · cases linked

theorem Grown.cleared (grown : Grown destReal before tree)
    (inside : ∀ location, EntryAt os before target location →
      tree.node location = none → Inside destReal location) :
    Cleared os destReal before target tree where
  outside := grown.outside
  entry := fun _ _ placed => grown.entryAt_iff.mp (place_entryAt placed)
  inside := fun location placed =>
    inside location (grown.entryAt_iff.mp (place_entryAt placed))
  elsewhere := fun _ _ _ _ => by rw [grown.links]
  nodes := fun _ _ => grown.nodes

theorem Grown.cleared_of_pathInside (grown : Grown destReal before tree)
    (reaches : PathInside os destReal before target) :
    Cleared os destReal before target tree where
  outside := grown.outside
  entry := fun _ _ placed => grown.entryAt_iff.mp (place_entryAt placed)
  inside := by
    intro location placed absent
    have plain : tree.link? location = none := by rw [Volume.link?, absent]
    exact reaches location (grown.leadsTo_iff.mp (place_leads placed plain))
  elsewhere := fun _ _ _ _ => by rw [grown.links]
  nodes := fun _ _ => grown.nodes

theorem clear_cleared {free : Volume Text} (grown : Grown destReal before tree)
    (entry : EntryInside os destReal before target)
    (ok : clear os target tree = .ok free) : Cleared os destReal before target free := by
  rw [clear] at ok
  split at ok
  · rcases unlink_ok ok with ⟨location, placed, rfl⟩
    have isInside := entry location (grown.entryAt_iff.mp (place_entryAt placed))
    have same {other : Location Text}
        (placedToo : os.place (tree.remove location) target = some other) :
        other = location := by
      have again := place_remove placedToo
      rw [placed] at again
      cases again
      rfl
    constructor
    · exact grown.outside.trans
        (.set isInside _ (by intro inode isFile; cases isFile))
    · intro path other placedToo
      exact grown.entryAt_iff.mp (place_entryAt (place_remove placedToo))
    · intro other placedToo _
      exact same placedToo ▸ isInside
    · intro other placedToo another different
      rw [Volume.link?_remove_of_ne (same placedToo ▸ different), grown.links]
    · intro other node isNode kind
      by_cases isGone : other = location
      · simp [Volume.remove, Volume.set, isGone] at isNode
      · simp only [Volume.remove, Volume.set, if_neg isGone] at isNode
        exact grown.nodes isNode kind
  · cases ok
    exact grown.cleared fun location isEntry _ => entry location isEntry

/-- What the `try` of `makelink` keeps. -/
def Tried (os : Os Text) (destReal : Location Text) (before : Volume Text)
    (target : Path Text) (required : Prop) (tried : Volume Text × LinkResult) : Prop :=
  SameOutside destReal before tried.1 ∧
    (required → tried.2 = .made → Settled os destReal tried.1 target)

theorem Cleared.caught {free : Volume Text} {required : Prop}
    (outside : SameOutside destReal before free) :
    Tried os destReal before target required (free, .caught) := by
  refine ⟨outside, ?_⟩
  intro _ isMade
  cases isMade

theorem symlink_tried {free : Volume Text} {link : Path Text} {required : Prop}
    (cleared : Cleared os destReal before target free)
    (inside : required → LinkInside os destReal before target link) :
    Tried os destReal before target required
      (linkResult free (os.symlink free target link)) := by
  cases ok : os.symlink free target link with
  | error error => exact Cleared.caught cleared.outside
  | ok made =>
      rcases symlink_ok ok with ⟨location, placed, absent, rfl⟩
      have isInside := cleared.inside location placed absent
      refine ⟨cleared.outside.trans
        (.set isInside _ (by intro inode isFile; cases isFile)), ?_⟩
      intro isRequired _
      apply settled_of_link (cleared.entry target location placed) (inside isRequired)
      · intro other
        by_cases isPlace : other = location
        · simp [linkResult, Volume.link?, Volume.set, isPlace]
        · rw [if_neg isPlace, ← cleared.elsewhere location placed other isPlace]
          simp [linkResult, Volume.link?, Volume.set, isPlace]
      · intro other inode isFile
        by_cases isPlace : other = location
        · simp [linkResult, Volume.set, isPlace] at isFile
        · simp only [linkResult, Volume.set, if_neg isPlace] at isFile
          exact cleared.nodes other _ isFile (.inl ⟨inode, rfl⟩)

theorem link_tried {free : Volume Text} {source : Path Text}
    (cleared : Cleared os destReal before target free)
    (sourceInside : (linkResult free (os.link free target source)).2 = .made →
      SourceInside os destReal before target source) :
    Tried os destReal before target True
      (linkResult free (os.link free target source)) := by
  cases ok : os.link free target source with
  | error error => exact Cleared.caught cleared.outside
  | ok made =>
      rw [ok] at sourceInside
      rcases link_ok ok with ⟨found, location, placedSource, placed, isNode, absent, rfl⟩
      have plain : free.link? location = none := by rw [Volume.link?, absent]
      rcases place_leads placed plain with ⟨count, leads⟩
      have isInside := cleared.inside location placed absent
      rcases sourceInside rfl found (cleared.entry source found placedSource) with
        ⟨fileInside, linkInside⟩
      refine ⟨cleared.outside.trans (.set isInside _ (free.fresh found)), ?_⟩
      intro _ _
      rcases isNode with ⟨inode, isFile⟩ | ⟨link, isLink⟩
      · apply settled_of_links free
        · funext other
          by_cases same : other = location
          · simp [linkResult, Volume.link?, Volume.copyNode, Volume.set, same, absent,
              isFile]
          · simp [linkResult, Volume.link?, Volume.copyNode, Volume.set, same]
        · rintro other ⟨another, leadsToo⟩
          rcases (leads.unique leadsToo).1 with rfl
          refine ⟨isInside, ?_⟩
          intro number isNumber other isOther
          simp only [linkResult, Volume.copyNode, Volume.set, if_pos, isFile,
            Option.some.injEq, Node.file.injEq] at isNumber
          subst isNumber
          by_cases same : other = location
          · exact same ▸ isInside
          · simp only [linkResult, Volume.copyNode, Volume.set, if_neg same] at isOther
            exact fileInside inode (cleared.nodes found _ isFile (.inl ⟨inode, rfl⟩)) other
              (cleared.nodes other _ isOther (.inl ⟨inode, rfl⟩))
      · have isLinkBefore := cleared.nodes found _ isLink (.inr ⟨link, rfl⟩)
        apply settled_of_link (cleared.entry target location placed)
          (linkInside link isLinkBefore)
        · intro other
          by_cases same : other = location
          · simp [linkResult, Volume.link?, Volume.copyNode, Volume.set, same, isLink]
          · rw [if_neg same, ← cleared.elsewhere location placed other same]
            simp [linkResult, Volume.link?, Volume.copyNode, Volume.set, same]
        · intro other inode isFile
          by_cases same : other = location
          · simp [linkResult, Volume.copyNode, Volume.set, same, isLink] at isFile
          · simp only [linkResult, Volume.copyNode, Volume.set, if_neg same] at isFile
            exact cleared.nodes other _ isFile (.inl ⟨inode, rfl⟩)

theorem trySymlink_tried {linkname : Text} {required : Prop}
    (grown : Grown destReal before tree)
    (entry : EntryInside os destReal before target)
    (inside : required → LinkInside os destReal before target (Posixpath.parse linkname)) :
    Tried os destReal before target required (trySymlink os linkname target tree) := by
  rw [trySymlink]
  split
  · rename_i free ok
    exact symlink_tried (clear_cleared grown entry ok) inside
  · exact Cleared.caught grown.outside

theorem tryLink_tried {linkTarget : Option Text} (grown : Grown destReal before tree)
    (reaches : PathInside os destReal before target)
    (entry : release.replacesEntry = true → EntryInside os destReal before target)
    (sources : (tryLink os release linkTarget target tree).2 = .made →
      ∀ source ∈ linkTarget,
        SourceInside os destReal before target (Posixpath.parse source)) :
    Tried os destReal before target True (tryLink os release linkTarget target tree) := by
  cases linkTarget with
  | none => exact Cleared.caught grown.outside
  | some source =>
      rw [tryLink] at sources ⊢
      split at sources
      · rename_i exists_
        rw [if_pos exists_]
        cases replaces : release.replacesEntry with
        | false =>
            rw [replaces] at sources
            exact link_tried (grown.cleared_of_pathInside reaches)
              fun isMade => sources isMade source rfl
        | true =>
            rw [replaces] at sources
            cases ok : clear os target tree with
            | error error => exact Cleared.caught grown.outside
            | ok free =>
                rw [ok] at sources
                exact link_tried (clear_cleared grown (entry replaces) ok)
                  fun isMade => sources isMade source rfl
      · rename_i missing
        rw [if_neg missing]
        refine ⟨grown.outside, ?_⟩
        intro _ isMade
        cases isMade

/-! ## Extraction of one member -/

theorem chmod_settled {changed : Volume Text} {mode : Nat}
    (settled : Settled os destReal tree target)
    (ok : os.chmod tree target mode = .ok changed) :
    SameOutside destReal tree changed ∧ Settled os destReal changed target := by
  rcases chmod_ok ok with ⟨location, followed, isNode⟩
  rcases settled location followed with ⟨inside, fileInside⟩
  rcases follow_leads followed with ⟨count, leads⟩
  rcases isNode with ⟨mode, isDirectory, rfl⟩ | ⟨inode, isFile, rfl⟩
  · refine ⟨.set inside _ (by intro inode isFile; cases isFile), ?_⟩
    apply settled_of_links tree
    · funext other
      by_cases same : other = location
      · simp [Volume.link?, Volume.set, same, isDirectory]
      · simp [Volume.link?, Volume.set, same]
    · rintro other ⟨another, leadsToo⟩
      rcases (leads.unique leadsToo).1 with rfl
      refine ⟨inside, ?_⟩
      intro inode isFile
      simp [Volume.set] at isFile
  · refine ⟨.setInode (fileInside inode isFile) _, ?_⟩
    apply settled_of_links tree
    · rfl
    · rintro other ⟨another, leadsToo⟩
      rcases (leads.unique leadsToo).1 with rfl
      exact ⟨inside, fileInside⟩

theorem setAttrs_kept {tarinfo : TarInfo} {required : Prop}
    (needed : tarinfo.issym = false → required)
    (settled : required → Settled os destReal tree target) :
    Kept os destReal tree target required (setAttrs os tarinfo target tree) := by
  have unchanged (error : Option Exn) :
      Kept os destReal tree target required (tree, error) :=
    ⟨.refl destReal tree, fun isRequired _ => settled isRequired⟩
  rw [setAttrs]
  split
  · split
    · exact unchanged none
    · rename_i notSym
      split
      · rename_i changed ok
        have isRequired := needed (by simpa using notSym)
        rcases chmod_settled (settled isRequired) ok with ⟨same, settled⟩
        exact ⟨same, fun _ _ => settled⟩
      · exact unchanged (some .extractError)
  · exact unchanged (some .extractError)

theorem Kept.after {required : Prop} {outcome : Outcome Text}
    (same : SameOutside destReal before tree)
    (kept : Kept os destReal tree target required outcome) :
    Kept os destReal before target required outcome :=
  ⟨same.trans kept.1, kept.2⟩

theorem Kept.unresolved {required : Prop} {outcome : Outcome Text}
    (kept : Kept os destReal before target required outcome) :
    Kept os destReal before target required (unresolved outcome) := by
  rcases outcome with ⟨tree, _ | error⟩
  · exact kept
  · refine ⟨by cases error <;> exact kept.1, ?_⟩
    intro _ succeeded
    cases error <;> cases succeeded

theorem makelink_kept {copy : Volume Text → Outcome Text} {inside : Volume Text → Prop}
    {required : Prop} {tried : Volume Text × LinkResult}
    (isTried : Tried os destReal before target required tried)
    (copies : CopiesInside release copy inside tried)
    (copied : ∀ left, inside left → Kept os destReal left target required (copy left)) :
    Kept os destReal before target required (makelink release copy tried) := by
  rcases tried with ⟨left, _ | _ | _⟩
  · exact ⟨isTried.1, fun isRequired _ => isTried.2 isRequired rfl⟩
  · have kept := (copied left copies.1).after isTried.1
    rw [makelink]
    split
    · rename_i partly error isPartly
      rw [isPartly] at kept
      split
      · rename_i again
        rw [Bool.and_eq_true] at again
        have isInside := copies.2 partly error isPartly again.1 again.2
        exact ((copied partly isInside).after kept.1).unresolved
      · exact kept
    · rename_i made isMade
      rw [isMade] at kept
      exact kept
  · exact ((copied left copies).after isTried.1).unresolved

theorem extractMember_kept {copy : Volume Text → Outcome Text}
    {linkTarget : Option Text} {tarinfo : TarInfo} {required : Prop}
    (upper : UpperInside os destReal tree target)
    (needed : tarinfo.issym = false → required)
    (makes : Grown destReal tree (makeUpper os release target tree).1 →
      Kept os destReal tree target required
        (make os release copy linkTarget tarinfo target
          (makeUpper os release target tree).1)) :
    Kept os destReal tree target required
      (extractMember os release copy linkTarget tarinfo target tree) := by
  have grown := makeUpper_grown release (.refl destReal tree) upper
  have kept := makes grown
  rw [extractMember]
  split
  · rename_i made error isMade
    rw [isMade] at grown
    refine ⟨grown.outside, ?_⟩
    intro _ succeeded
    cases succeeded
  · rename_i made isMade
    rw [isMade] at kept
    split
    · rename_i final error isFinal
      rw [isFinal] at kept
      exact kept
    · rename_i final isFinal
      rw [isFinal] at kept
      exact (setAttrs_kept needed fun isRequired => kept.2 isRequired rfl).after kept.1

theorem extractMember_inside {copy : Volume Text → Outcome Text}
    {inside : Bool → Volume Text → Prop} {required : Bool} {linkTarget : Option Text}
    {tarinfo : TarInfo} (reaches : PathInside os destReal tree target)
    (member : MemberInside os release destReal copy inside required linkTarget target
      tarinfo tree)
    (copied : ∀ required left, inside required left →
      Kept os destReal left target (required = true) (copy left)) :
    Kept os destReal tree target (required = true ∨ tarinfo.issym = false)
      (extractMember os release copy linkTarget tarinfo target tree) := by
  rcases member with ⟨upper, place⟩
  apply extractMember_kept upper .inr
  intro grown
  rw [make]
  cases type : tarinfo.type with
  | reg data =>
      rw [type] at place
      have kept := writeFile_kept reaches place grown data
      exact ⟨kept.1, fun _ => kept.2 trivial⟩
  | dir =>
      rw [type] at place
      have kept := (makedir_grown release reaches grown).kept reaches place
        (makedir os release target (makeUpper os release target tree).1).2
      exact ⟨kept.1, fun _ => kept.2 trivial⟩
  | sym linkname =>
      rw [type] at place
      rcases place with ⟨entry, link, copies⟩
      have kept := makelink_kept (trySymlink_tried grown entry link) copies (copied required)
      refine ⟨kept.1, ?_⟩
      intro isRequired
      apply kept.2
      simpa [TarInfo.issym, type] using isRequired
  | lnk linkname =>
      rw [type] at place
      rcases place with ⟨sources, entry, copies⟩
      have kept := makelink_kept (tryLink_tried grown reaches entry sources) copies
        fun left isInside => by simpa using copied true left isInside
      exact ⟨kept.1, fun _ => kept.2 trivial⟩

/-- The copy of a member, by induction on the calls that are left. -/
theorem extractFound_kept {archive earlier : List TarInfo} {path : Text}
    {position depth : Nat} {link : TarInfo} {required : Bool}
    (inside : CopyInside os release destReal archive path position target depth earlier link
      required tree) :
    Kept os destReal tree target (required = true)
      (extractFound os release archive path position target depth earlier link tree) := by
  induction depth generalizing earlier link required tree with
  | zero =>
      refine ⟨.refl destReal tree, ?_⟩
      intro _ succeeded
      cases succeeded
  | succ depth induction =>
      rw [extractFound]
      split
      · refine ⟨.refl destReal tree, ?_⟩
        intro _ succeeded
        cases succeeded
      · rename_i found before isFound
        rcases inside found before isFound with ⟨reaches, member⟩
        have kept := extractMember_inside reaches member fun _ _ => induction
        exact ⟨kept.1, fun isRequired => kept.2 (.inl isRequired)⟩

end YrSandbox.Sandbox
