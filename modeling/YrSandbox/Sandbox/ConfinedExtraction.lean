import YrSandbox.Foundation.Transition
import YrSandbox.Sandbox.MemberExtraction

/-! # Extraction within the destination

`_safe_extract_tar` over whole archives: which members leave what is outside as it is. -/

namespace YrSandbox.Sandbox

open Python FileTree Os Tarfile Transition

variable {os : Os Text} {release : Release} {depth : Nat}
  {afterLoop : Volume Text → Text → Location Text} {destReal location : Location Text}
  {tree : Volume Text}

/-! ## Where accepted paths lead -/

theorem inside_of_accepts (accepted : accepts destReal location = true) :
    Inside destReal location := by
  rw [accepts, Bool.or_eq_true, decide_eq_true_eq, Bool.and_eq_true,
    List.isPrefixOf_iff_prefix] at accepted
  rcases accepted with rfl | ⟨_, below⟩
  · exact List.prefix_refl location
  · exact below

theorem resolved_leadsTo {path : Text} {found : Location Text}
    (real : resolved os depth afterLoop tree path = some found)
    (leads : LeadsTo os tree { Posixpath.parse path with slash := false } location) :
    found = location := by
  rw [resolved] at real
  generalize Posixpath.parse path = parsed at real leads
  rcases leads with ⟨count, leads⟩
  have whole : ∃ count,
      Leads tree.link? (parsed.start os.cwd) parsed.components location count := by
    rw [Path.components]
    split
    · exact ⟨_, leads.append (.here (.nil location))⟩
    · exact ⟨count, leads⟩
  rcases whole with ⟨another, whole⟩
  have either : realpath tree.link? depth os.cwd parsed = .tooDeep ∨
      realpath tree.link? depth os.cwd parsed = .found location := realpath_leads whole
  rcases either with tooDeep | isFound
  · rw [tooDeep] at real
    cases real
  · rw [isFound] at real
    exact (Option.some.inj real).symm

/-- A path of slashes alone is accepted in the root only. -/
theorem targetpath_inside {dest name : Text} {found : Location Text}
    (real : resolved os depth afterLoop tree (Posixpath.join dest name) = some found)
    (accepted : accepts destReal found = true) :
    PathInside os destReal tree (targetpath dest name) := by
  intro location leads
  have inside := inside_of_accepts accepted
  have reaches : ∀ other,
      LeadsTo os tree { Posixpath.parse (Posixpath.join dest name) with slash := false }
        other → found = other :=
    fun _ => resolved_leadsTo real
  rw [targetpath] at leads
  generalize Posixpath.parse (Posixpath.join dest name) = joined at reaches leads
  rcases joined with ⟨absolute, _ | ⟨component, names⟩, slash⟩
  · cases absolute with
    | false =>
        rcases reaches location leads with rfl
        exact inside
    | true =>
        have root := reaches [] ⟨0, .nil _⟩
        rw [root, Inside, List.prefix_nil] at inside
        exact inside ▸ List.nil_prefix
  · rw [List.isEmpty_cons, Bool.not_false, Bool.and_true] at leads
    rcases reaches location leads with rfl
    exact inside

/-! ## The whole archive -/

theorem safeExtractMember_sameOutside {dest : Text} {archive earlier : List TarInfo}
    {member : TarInfo}
    (confined : Confined os release depth afterLoop dest destReal archive (tree, earlier)
      member) :
    SameOutside destReal tree
      (safeExtractMember os release depth afterLoop dest destReal archive earlier member
        tree).1 := by
  rw [safeExtractMember]
  split
  · exact .refl destReal tree
  · rename_i found real
    split
    · rename_i accepted
      have reaches := targetpath_inside real accepted
      have kept := extractMember_inside reaches (confined found real accepted)
        fun _ _ => extractFound_kept
      rw [extract]
      split
      · rename_i extracted isExtracted
        rw [isExtracted] at kept
        exact kept.1
      · exact kept.1
    · exact .refl destReal tree

theorem safeExtractMembers_sameOutside {dest : Text}
    {archive earlier members : List TarInfo}
    (confined : Meets (extractionStep os release depth afterLoop dest destReal archive)
      (Confined os release depth afterLoop dest destReal archive) (tree, earlier) members) :
    SameOutside destReal tree
      (safeExtractMembers os release depth afterLoop dest destReal archive earlier members
        tree).1 := by
  induction members generalizing earlier tree with
  | nil => exact .refl destReal tree
  | cons member members induction =>
      have same : SameOutside destReal tree
          (safeExtractMember os release depth afterLoop dest destReal archive earlier member
            tree).1 :=
        safeExtractMember_sameOutside confined.head
      rw [safeExtractMembers]
      split
      · rename_i extracted isExtracted
        rw [isExtracted] at same
        have stepped : extractionStep os release depth afterLoop dest destReal archive
          (tree, earlier) member =
            some (extracted, member :: earlier) := by
          rw [extractionStep, isExtracted]
        exact same.trans (induction (confined.tail stepped))
      · exact same

def permissive : Os Text where
  cwd := []
  maxLinks := 40
  masked := id
  allows := fun _ _ => true
  failsAfter := fun _ _ => none

/-- A file in the destination `/d` and one beside it. -/
def secretBeside : Volume Text where
  node := fun location =>
    if location = [] ∨ location = ["d".toList] then some (.directory 0o755)
    else if location = ["secret".toList] then some (.file 0)
    else if location = ["d".toList, "f".toList] then some (.file 1)
    else none
  inode := fun _ => ⟨[], 0o600⟩
  next := 2
  fresh := by
    intro location inode isFile
    split at isFile
    · cases isFile
    · split at isFile
      · cases isFile
        decide
      · split at isFile <;> cases isFile
        decide

def beforeRewrite : Release where
  existOk := false
  checksDirectory := true
  replacesEntry := false
  retriesCopy := true
  keepsLinkTarget := false

end YrSandbox.Sandbox
