import YrSandbox.Python.UrlParts

/-! # Putting URLs together

What `urlunsplit` writes is read back, and `urljoin` resolves a relative path below
its base: it spells base and path, or something shorter. -/

namespace YrSandbox.Python

open PathSegments

/-! ## `urlunsplit` -/

/-- A path as `urlunsplit` writes it after a host. -/
def slashed (path : Text) : Text :=
  if path ≠ [] ∧ path.head? ≠ some '/' then '/' :: path else path

theorem slashed_eq (path : Text) :
    (if path ≠ [] ∧ path.head? ≠ some '/' then '/' :: path else path) = slashed path := rfl

theorem slashed_of_rooted {path : Text} (root : ∀ char ∈ path.head?, char = '/') :
    slashed path = path := by
  unfold slashed
  cases path with
  | nil => rfl
  | cons char path => rw [if_neg (by simp [root char rfl])]

theorem slashed_rooted {path : Text} : ∀ char ∈ (slashed path).head?, char = '/' := by
  intro char first
  unfold slashed at first
  split at first
  · cases first
    rfl
  · rename_i root
    cases path with
    | nil => cases first
    | cons other path =>
        cases first
        simpa using root

theorem length_slashed_le (path : Text) : (slashed path).length ≤ path.length + 1 := by
  unfold slashed
  split <;> simp

theorem mem_slashed {path : Text} {char : Char} (member : char ∈ slashed path) :
    char = '/' ∨ char ∈ path := by
  unfold slashed at member
  split at member
  · exact List.mem_cons.mp member
  · exact .inr member

theorem urlunsplit_eq {parts : SplitResult} (scheme : parts.scheme ≠ [])
    (hosted : parts.scheme ∈ usesNetloc) :
    urlunsplit parts =
      parts.scheme ++ ':' :: '/' :: '/' ::
        (parts.netloc ++ slashed parts.path ++ tailOf parts.query parts.fragment) := by
  have host : parts.netloc ≠ [] ∨ parts.scheme ≠ [] ∧ parts.scheme ∈ usesNetloc ∨
      ['/', '/'] <+: parts.path := .inr (.inl ⟨scheme, hosted⟩)
  simp only [urlunsplit, if_pos host, if_pos scheme, slashed_eq]
  by_cases noQuery : parts.query = [] <;> by_cases noFragment : parts.fragment = [] <;>
    simp [tailOf, noQuery, noFragment]

variable {checks : HostChecks}

theorem SplitResult.Sound.slashed {parts : SplitResult} (sound : parts.Sound checks) :
    { parts with path := slashed parts.path }.Sound checks where
  host := sound.host
  brackets := sound.brackets
  checked := sound.checked
  rooted _ := slashed_rooted
  path char member := by
    rcases mem_slashed member with rfl | inside
    · decide
    · exact sound.path char inside
  query := sound.query
  clean char member := by
    rcases member with inHost | inPath | inTail
    · exact sound.clean char (.inl inHost)
    · rcases mem_slashed inPath with rfl | inside
      · decide
      · exact sound.clean char (.inr (.inl inside))
    · exact sound.clean char (.inr (.inr inTail))

theorem urlsplit_urlunsplit (parts : SplitResult)
    (sound : { parts with path := slashed parts.path }.Sound checks)
    (text : SchemeText parts.scheme) (lower : parts.scheme.map Char.toLower = parts.scheme)
    (hosted : parts.scheme ∈ usesNetloc) (default : Text) :
    urlsplit checks (urlunsplit parts) default =
      .ok { parts with path := slashed parts.path } := by
  rw [urlunsplit_eq text.nonempty hosted]
  have read := urlsplit_of_parts sound slashed_rooted [] nofun text lower default
  simpa using read

/-! ## Parameters -/

/-- A path with its parameters as `urlunparse` writes them. -/
def withParams (path params : Text) : Text :=
  if params ≠ [] then path ++ ';' :: params else path

theorem urlunparse_eq (parts : ParseResult) :
    urlunparse parts =
      urlunsplit { parts with path := withParams parts.path parts.params } := rfl

theorem splitParams_cases (url : Text) :
    splitParams url = (url, []) ∨
      ∃ path params, url = path ++ ';' :: params ∧ splitParams url = (path, params) := by
  have whole : url.rdropWhile (· ≠ '/') ++ url.rtakeWhile (· ≠ '/') = url :=
    List.rdropWhile_append_rtakeWhile ..
  unfold splitParams
  rcases splitOnce_cases ';' (url.rtakeWhile (· ≠ '/')) with ⟨_, same⟩ |
    ⟨last, params, _, spelt, same⟩
  · rw [same]
    exact .inl (by simp only [whole])
  · rw [same]
    refine .inr ⟨_, params, ?_, rfl⟩
    conv_lhs => rw [← whole, spelt]
    simp

theorem splitParams_slash (path : Text) :
    splitParams (path ++ ['/']) = (path ++ ['/'], []) := by
  have last : (path ++ ['/']).rtakeWhile (· ≠ '/') = [] := by simp
  have front : (path ++ ['/']).rdropWhile (· ≠ '/') = path ++ ['/'] := by simp
  rw [splitParams, last, front]
  simp [splitOnce]

theorem splitParams_absent {url : Text} (absent : ';' ∉ url) :
    splitParams url = (url, []) := by
  rcases splitParams_cases url with none | ⟨path, params, rfl, _⟩
  · exact none
  · simp at absent

theorem withParams_splitParams (url : Text) :
    withParams (splitParams url).1 (splitParams url).2 = url ∨
      (splitParams url).2 = [] ∧ (splitParams url).1 ++ [';'] = url := by
  rcases splitParams_cases url with same | ⟨path, params, spelt, same⟩
  · rw [same]
    exact .inl rfl
  · rw [same]
    by_cases empty : params = []
    · subst empty
      exact .inr ⟨rfl, spelt.symm⟩
    · exact .inl (by rw [withParams, if_pos empty, spelt])

theorem withParams_starts (url : Text) :
    withParams (splitParams url).1 (splitParams url).2 <+: url := by
  rcases withParams_splitParams url with whole | ⟨none, dropped⟩
  · exact whole.symm ▸ List.prefix_refl url
  · rw [withParams, none, if_neg (by simp)]
    exact ⟨[';'], dropped⟩

theorem splitParams_starts (url : Text) : (splitParams url).1 <+: url := by
  rcases splitParams_cases url with same | ⟨path, params, spelt, same⟩
  · exact same.symm ▸ List.prefix_refl url
  · rw [same]
    exact ⟨_, spelt.symm⟩

theorem mem_withParams {path params : Text} {char : Char}
    (member : char ∈ withParams path params) :
    char = ';' ∨ char ∈ path ∨ char ∈ params := by
  unfold withParams at member
  split at member
  · rcases List.mem_append.mp member with inPath | rest
    · exact .inr (.inl inPath)
    · rcases List.mem_cons.mp rest with isMark | inParams
      · exact .inl isMark
      · exact .inr (.inr inParams)
  · exact .inr (.inl member)

theorem mem_splitParams {url : Text} {char : Char}
    (member : char ∈ (splitParams url).1 ∨ char ∈ (splitParams url).2) : char ∈ url := by
  rcases splitParams_cases url with same | ⟨path, params, spelt, same⟩
  · rw [same] at member
    exact member.resolve_right (by simp)
  · rw [same] at member
    rw [spelt]
    rcases member with member | member <;> simp [member]

theorem withParams_eq_iff (url : Text) :
    withParams (splitParams url).1 (splitParams url).2 = url ↔
      (splitParams url).1 ++ [';'] ≠ url := by
  constructor
  · intro whole dropped
    rcases splitParams_cases url with same | ⟨path, params, spelt, same⟩
    · rw [same] at dropped
      simp at dropped
    · rw [same] at whole dropped
      simp only at whole dropped
      rw [spelt, List.append_cancel_left_eq, List.cons.injEq] at dropped
      rw [← dropped.2, withParams, if_neg (by simp)] at whole
      rw [whole] at spelt
      simp at spelt
  · intro kept
    rcases withParams_splitParams url with whole | ⟨_, dropped⟩
    · exact whole
    · exact absurd dropped kept

theorem withParams_append (front path params : Text) :
    withParams (front ++ path) params = front ++ withParams path params := by
  unfold withParams
  split <;> simp

theorem length_withParams (params path other : Text) :
    (withParams path params).length + other.length =
      (withParams other params).length + path.length := by
  unfold withParams
  split
  · simp only [List.length_append]
    omega
  · exact Nat.add_comm ..

theorem slashed_withParams {path : Text} (params : Text) (nonempty : path ≠ []) :
    slashed (withParams path params) = withParams (slashed path) params := by
  cases path with
  | nil => exact absurd rfl nonempty
  | cons char path =>
      unfold withParams slashed
      split <;> by_cases root : char = '/' <;> simp [root]

theorem urlparse_of_urlsplit {url default : Text} {parts : SplitResult}
    (split : urlsplit checks url default = .ok parts)
    (scheme : parts.scheme ∈ usesParams) :
    urlparse checks url default =
      .ok { parts with
        path := (splitParams parts.path).1, params := (splitParams parts.path).2 } := by
  unfold urlparse
  rw [split]
  simp only [bind, Except.bind, pure, Except.pure]
  by_cases present : ';' ∈ parts.path
  · rw [if_pos ⟨scheme, present⟩]
  · rw [if_neg fun ⟨_, member⟩ => present member, splitParams_absent present]

theorem urlsplit_of_urlparse {url default : Text} {target : ParseResult}
    (parsed : urlparse checks url default = .ok target) :
    ∃ parts, urlsplit checks url default = .ok parts ∧ target.scheme = parts.scheme ∧
      (parts.scheme ∈ usesParams → target = { parts with
        path := (splitParams parts.path).1, params := (splitParams parts.path).2 }) := by
  cases split : urlsplit checks url default with
  | error message =>
      rw [urlparse, split] at parsed
      cases parsed
  | ok parts =>
      refine ⟨parts, rfl, ?_, ?_⟩
      · rw [urlparse, split] at parsed
        simp only [bind, Except.bind, pure, Except.pure] at parsed
        cases parsed
        rfl
      · intro scheme
        rw [urlparse_of_urlsplit split scheme] at parsed
        cases parsed
        rfl

/-! ## Paths below a base -/

def RootText (root : Text) : Prop := ∀ char ∈ root.head?, char = '/'

def segmentsBelow (root path : Text) : List Text :=
    ((root ++ '/' :: path).splitOn '/').tail

theorem splitOn_below {root : Text} (rooted : RootText root) (path : Text) :
    ∃ inner, root.splitOn '/' = [] :: inner ∧
      (root ++ '/' :: path).splitOn '/' = [] :: (inner ++ path.splitOn '/') := by
  rw [List.splitOn_append_cons_self]
  cases root with
  | nil => exact ⟨[], by simp, by simp⟩
  | cons char root =>
      rw [rooted char rfl]
      have front := List.splitOn_append_cons_self (a := '/') [] root
      simp only [List.nil_append, List.splitOn_nil] at front
      rw [front]
      exact ⟨root.splitOn '/', rfl, rfl⟩

theorem joinPaths_below {root path : Text} (rooted : RootText root)
    (relative : path.head? ≠ some '/') :
    joinPaths (root ++ ['/']) path =
      let resolved := ['/'].intercalate
        (resolve ['.'] ['.', '.'] (squeeze ([] :: segmentsBelow root path)))
      if resolved = [] then ['/'] else resolved := by
  rcases splitOn_below rooted path with ⟨inner, front, whole⟩
  have base : (root ++ ['/']).splitOn '/' = [] :: (inner ++ [[]]) := by
    rw [List.splitOn_append_cons_self, front]
    simp
  have below : segmentsBelow root path = inner ++ path.splitOn '/' := by
    rw [segmentsBelow, whole]
    rfl
  have last : ([] :: (inner ++ [[]])).getLast? = some [] := by
    rw [← List.cons_append, List.getLast?_append]
    rfl
  have dropped := squeeze_empty [] inner (List.splitOn_ne_nil '/' path)
  simp only [joinPaths, base, last, ne_eq, not_true_eq_false, if_false, if_neg relative,
    below, ← dropped, List.cons_append, List.append_assoc, List.nil_append]

theorem intercalate_below {root : Text} (rooted : RootText root) (path : Text) :
    ['/'].intercalate ([] :: segmentsBelow root path) = root ++ '/' :: path ∧
      segmentsBelow root path ≠ [] := by
  rcases splitOn_below rooted path with ⟨inner, _, whole⟩
  have below : segmentsBelow root path = inner ++ path.splitOn '/' := by
    rw [segmentsBelow, whole]
    rfl
  refine ⟨?_, ?_⟩
  · rw [below, ← whole, List.intercalate_splitOn]
  · rw [below]
    exact List.append_ne_nil_of_right_ne_nil _ (List.splitOn_ne_nil '/' path)

theorem slashed_resolved (resolved : Text) :
    slashed (if resolved = [] then ['/'] else resolved) = rooted '/' resolved := by
  cases resolved with
  | nil => rfl
  | cons char resolved =>
      by_cases root : char = '/' <;> simp [slashed, rooted, root]

theorem joinPaths_ne_nil (base path : Text) : joinPaths base path ≠ [] := by
  have spelt : ∃ resolved,
      joinPaths base path = if resolved = [] then ['/'] else resolved :=
    ⟨_, rfl⟩
  rcases spelt with ⟨resolved, same⟩
  rw [same]
  split
  · exact nofun
  · assumption

theorem joinPaths_normal {root path : Text} (rooted : RootText root)
    (relative : path.head? ≠ some '/')
    (normal : Normal ['.'] ['.', '.'] (segmentsBelow root path)) :
    joinPaths (root ++ ['/']) path = root ++ '/' :: path := by
  rw [joinPaths_below rooted relative]
  simp only
  rw [normal.resolve_squeeze (by decide) (by decide), (intercalate_below rooted path).1,
    if_neg (by simp)]

theorem normal_or_joinPaths_shorter {root path : Text} (rooted : RootText root)
    (relative : path.head? ≠ some '/') :
    Normal ['.'] ['.', '.'] (segmentsBelow root path) ∨
      (slashed (joinPaths (root ++ ['/']) path)).length <
        root.length + 1 + path.length := by
  rcases intercalate_below rooted path with ⟨spells, more⟩
  rcases normal_or_shorter ['.'] ['.', '.'] '/' more (by decide) (by decide) with
    normal | shorter
  · exact .inl normal
  · refine .inr ?_
    rw [joinPaths_below rooted relative, slashed_resolved]
    rw [← length_intercalate '/' (by simp), spells] at shorter
    simp only [List.length_append, List.length_cons] at shorter
    omega

theorem RootText.below {root : Text} (rooted : RootText root) (path : Text) :
    RootText (root ++ '/' :: path) := by
  intro char first
  cases root with
  | nil =>
      cases first
      rfl
  | cons other root =>
      cases first
      exact rooted char rfl

theorem length_joinPaths_le {root : Text} (rooted : RootText root) (path : Text) :
    (slashed (joinPaths (root ++ ['/']) path)).length ≤ root.length + 1 + path.length := by
  by_cases relative : path.head? = some '/'
  · cases path with
    | nil => cases relative
    | cons char others =>
        cases relative
        have split : ('/' :: others).splitOn '/' = [] :: others.splitOn '/' := by
          have front := List.splitOn_append_cons_self (a := '/') [] others
          simpa using front
        have spells : ['/'].intercalate ([] :: others.splitOn '/') = '/' :: others := by
          rw [← split, List.intercalate_splitOn]
        have bounded := length_resolve_le ['.'] ['.', '.'] '/' (others.splitOn '/')
          (List.splitOn_ne_nil '/' others) (by decide) (by decide)
        rw [← length_intercalate '/' (by simp), spells] at bounded
        simp only [joinPaths, List.head?_cons, if_true, split]
        rw [slashed_resolved]
        omega
  · rcases normal_or_joinPaths_shorter rooted relative with normal | shorter
    · rw [joinPaths_normal rooted relative normal, slashed_of_rooted (rooted.below path)]
      simp only [List.length_append, List.length_cons]
      omega
    · exact Nat.le_of_lt shorter

theorem mem_of_mem_splitOn {separator char : Char} {text segment : Text}
    (among : segment ∈ text.splitOn separator) (inside : char ∈ segment) :
    char ∈ text := by
  have member := mem_intercalate_of_mem separator among inside
  rwa [List.intercalate_splitOn] at member

theorem mem_joinPaths {base path : Text} {char : Char}
    (member : char ∈ joinPaths base path) :
    char = '/' ∨ char ∈ base ∨ char ∈ path := by
  have spelt : ∃ segments,
      (∀ segment ∈ segments, ∀ char ∈ segment, char ∈ base ∨ char ∈ path) ∧
      joinPaths base path =
        if ['/'].intercalate (resolve ['.'] ['.', '.'] segments) = [] then ['/']
        else ['/'].intercalate (resolve ['.'] ['.', '.'] segments) := by
    refine ⟨_, ?_, rfl⟩
    intro segment among char inside
    split at among
    · exact .inr (mem_of_mem_splitOn among inside)
    · rcases List.mem_append.mp (mem_of_mem_squeeze among) with inBase | inPath
      · have whole : segment ∈ base.splitOn '/' := by
          split at inBase
          · exact List.dropLast_subset _ inBase
          · exact inBase
        exact .inl (mem_of_mem_splitOn whole inside)
      · exact .inr (mem_of_mem_splitOn inPath inside)
  rcases spelt with ⟨segments, made, same⟩
  rw [same] at member
  split at member
  · exact .inl (List.mem_singleton.mp member)
  · rcases mem_intercalate member with isSlash | ⟨segment, resolved, inside⟩
    · exact .inl isSlash
    · rcases mem_of_mem_resolve resolved with rfl | among
      · cases inside
      · exact .inr (made segment among char inside)

end YrSandbox.Python
