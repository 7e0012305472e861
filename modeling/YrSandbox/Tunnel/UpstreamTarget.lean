import YrSandbox.Python.UrlJoin

/-! # Where requests go

The URL that the client opens for the path of a request or of a channel. It keeps
to the configured upstream exactly if `urljoin` finds nothing but a path in the
path. -/

namespace YrSandbox.Tunnel

open Python PathSegments

/-! ## The code -/

def baseUrl (upstream : Text) : Text :=
  if occursIn "://".toList upstream then upstream else "http://".toList ++ upstream

section

variable (checks : HostChecks)

/-- The URL that `build_http_resp_frame` and `stream_http_response` open. -/
def httpTarget (upstream path : Text) : Except Text Text :=
  urljoin checks (rstrip (· = '/') (baseUrl upstream) ++ ['/']) (lstrip (· = '/') path)

def channelScheme (scheme : Text) : Except Text Text :=
  if scheme = "http".toList then .ok "ws".toList
  else if scheme = "https".toList then .ok "wss".toList
  else if scheme ∈ ["ws".toList, "wss".toList] then .ok scheme
  else .error ("unsupported reverse WebSocket target scheme: ".toList ++ scheme)

def websocketTarget (upstream path : Text) : Except Text Text := do
  let target ← httpTarget checks upstream path
  let parsed ← urlsplit checks target []
  let scheme ← channelScheme parsed.scheme
  return urlunsplit { parsed with scheme }

/-! ## What is asked of it -/

/-- An upstream as it is documented, `host:port` or an HTTP URL: no query, no
fragment, and none of the characters that a URL cannot contain. -/
structure UpstreamUrl (upstream : Text) (base : SplitResult) : Prop where
  parsed : urlsplit checks (baseUrl upstream) [] = .ok base
  web : base.scheme = "http".toList ∨ base.scheme = "https".toList
  host : base.netloc ≠ []
  plain : ∀ char ∈ upstream, isUnsafe char = false ∧ char ≠ '?' ∧ char ≠ '#'

def channelOf (scheme : Text) : Text :=
  if scheme = "https".toList then "wss".toList else "ws".toList

def basePath (base : SplitResult) : Text := rstrip (· = '/') base.path

def requestedPath (path : Text) : Text := rooted '/' (splitTail path).1

def requestedQuery (path : Text) : Text := (splitTail path).2.1

def LeadsTo (opened : Except Text Text) (scheme netloc path query : Text) : Prop :=
  ∃ url parts, opened = .ok url ∧ urlsplit checks url [] = .ok parts ∧
    parts.scheme = scheme ∧ parts.netloc = netloc ∧ parts.path = path ∧ parts.query = query

end

def relativePath (path : Text) : Text := (splitTail (lstrip (· = '/') path)).1

/-- A path that `urljoin` takes for nothing but a path, and that is in normal form
below the upstream's. -/
structure Plain (base : SplitResult) (path : Text) : Prop where
  slash : ¬['/', '/'] <+: path
  query : ∀ char ∈ requestedQuery path, isUnsafe char = false
  path : relativePath path = [] ∨
    Untouched (relativePath path) ∧
      (splitParams (relativePath path)).1 ++ [';'] ≠ relativePath path ∧
      Normal ['.'] ['.', '.']
        (segmentsBelow (basePath base) (splitParams (relativePath path)).1)

/-! ## Schemes -/

/-- A scheme of URLs with a host, written as `urlsplit` returns it. -/
structure HostScheme (scheme : Text) : Prop where
  text : SchemeText scheme
  lower : scheme.map Char.toLower = scheme
  hosted : scheme ∈ usesNetloc

theorem HostScheme.of_web {scheme : Text}
    (web : scheme = "http".toList ∨ scheme = "https".toList) : HostScheme scheme := by
  rcases web with rfl | rfl <;>
    exact ⟨.of_all (by decide) (by decide), by decide, by decide⟩

theorem HostScheme.of_channel {scheme channel : Text}
    (mapped : channelScheme scheme = .ok channel) : HostScheme channel := by
  unfold channelScheme at mapped
  split at mapped
  · cases mapped
    exact ⟨.of_all (by decide) (by decide), by decide, by decide⟩
  · split at mapped
    · cases mapped
      exact ⟨.of_all (by decide) (by decide), by decide, by decide⟩
    · split at mapped
      · rename_i known
        cases mapped
        simp only [List.mem_cons, List.not_mem_nil, or_false] at known
        rcases known with rfl | rfl <;>
          exact ⟨.of_all (by decide) (by decide), by decide, by decide⟩
      · cases mapped

/-! ## The base -/

theorem rstrip_append {strips : Char → Bool} {front : Text}
    (last : ∀ char ∈ front.getLast?, strips char = false) (back : Text) :
    rstrip strips (front ++ back) = front ++ rstrip strips back := by
  induction back using List.reverseRecOn with
  | nil =>
      have kept : rstrip strips front = front := by
        rw [rstrip, List.rdropWhile_eq_self_iff]
        intro nonempty
        rw [last _ (List.getLast?_eq_some_getLast nonempty)]
        exact nofun
      simpa [rstrip] using kept
  | append_singleton others char induction =>
      unfold rstrip at induction ⊢
      rw [← List.append_assoc, List.rdropWhile_concat, List.rdropWhile_concat, induction]
      split <;> simp

namespace UpstreamUrl

variable {checks : HostChecks} {upstream : Text} {base : SplitResult}

theorem baseUrl_plain (given : UpstreamUrl checks upstream base) :
    ∀ char ∈ baseUrl upstream, isUnsafe char = false ∧ char ≠ '?' ∧ char ≠ '#' := by
  intro char member
  unfold baseUrl at member
  split at member
  · exact given.plain char member
  · have letters : ∀ char ∈ "http://".toList,
        isUnsafe char = false ∧ char ≠ '?' ∧ char ≠ '#' := forall_mem_of_all (by decide)
    rcases List.mem_append.mp member with front | inside
    · exact letters char front
    · exact given.plain char inside

theorem spelt (given : UpstreamUrl checks upstream base) :
    ∃ lead scheme, (∀ char ∈ lead, isC0ControlOrSpace char = true) ∧ SchemeText scheme ∧
      scheme.map Char.toLower = base.scheme ∧
      baseUrl upstream =
        lead ++ scheme ++ ':' :: '/' :: '/' :: (base.netloc ++ base.path) := by
  have plain := given.baseUrl_plain
  have web := given.web
  have host := given.host
  rcases urlsplit_eq_ok.mp given.parsed with
    ⟨scheme, rest, netloc, tail, schemes, hosts, _, _, rfl⟩
  have whole : baseUrl upstream = (baseUrl upstream).takeWhile isC0ControlOrSpace ++
      lstrip isC0ControlOrSpace (baseUrl upstream) :=
    List.takeWhile_append_dropWhile.symm
  have read :
      cleaned (baseUrl upstream) = lstrip isC0ControlOrSpace (baseUrl upstream) := by
    apply filter_of_clean
    intro char member
    exact (plain char ((List.dropWhile_sublist _).mem member)).1
  rcases splitScheme_cases (cleanedScheme []) (cleaned (baseUrl upstream)) with
    ⟨_, same⟩ | ⟨found, others, text, isScheme, same⟩
  · rw [same] at schemes
    cases schemes
    have unschemed :
      ¬(cleanedScheme [] = "http".toList ∨ cleanedScheme [] = "https".toList) := by
      decide
    exact absurd web unschemed
  · rw [same] at schemes
    cases schemes
    rcases splitNetloc_cases rest with same | ⟨_, _, _, _, isHost, same⟩
    · rw [same] at hosts
      cases hosts
      exact absurd rfl host
    · rw [same] at hosts
      cases hosts
      rcases splitTail_rest tail with ⟨beyond, isTail, marked⟩
      have inUrl (char : Char) (member : char ∈ tail) : char ∈ baseUrl upstream := by
        rw [whole, ← read, isScheme, isHost]
        simp [member]
      have nothing : beyond = [] := by
        rcases marked with empty | mark | mark
        · exact empty
        · have member : '?' ∈ tail := by
            rw [isTail]
            exact List.mem_append_right _ (List.mem_of_mem_head? mark)
          exact absurd rfl (plain '?' (inUrl '?' member)).2.1
        · have member : '#' ∈ tail := by
            rw [isTail]
            exact List.mem_append_right _ (List.mem_of_mem_head? mark)
          exact absurd rfl (plain '#' (inUrl '#' member)).2.2
      rw [nothing, List.append_nil] at isTail
      refine ⟨(baseUrl upstream).takeWhile isC0ControlOrSpace, found,
        fun char => List.mem_takeWhile_imp, text, rfl, ?_⟩
      rw [List.append_assoc]
      conv_lhs => rw [whole, ← read, isScheme, isHost, isTail]

theorem sound (given : UpstreamUrl checks upstream base) : base.Sound checks :=
  urlsplit_sound given.parsed

theorem basePath_starts (base : SplitResult) : basePath base <+: base.path :=
  List.rdropWhile_prefix ..

theorem rootText (given : UpstreamUrl checks upstream base) :
    RootText (basePath base) := by
  intro char first
  rcases basePath_starts base with ⟨slashes, whole⟩
  apply given.sound.rooted given.host char
  rw [← whole, List.head?_append, Option.mem_def.mp first]
  rfl

theorem sound_with (given : UpstreamUrl checks upstream base) {path query fragment : Text}
    (rooted : RootText path) (plain : PathText path) (unmarked : '#' ∉ query)
    (clean : ∀ char, char ∈ path ∨ char ∈ query ∨ char ∈ fragment →
      isUnsafe char = false) :
    SplitResult.Sound checks ⟨base.scheme, base.netloc, path, query, fragment⟩ where
  host := given.sound.host
  brackets := given.sound.brackets
  checked := given.sound.checked
  rooted _ := rooted
  path := plain
  query := unmarked
  clean char member := by
    rcases member with inHost | inside
    · exact given.sound.clean char (.inl inHost)
    · exact clean char inside

def joinBase (upstream : Text) : Text := rstrip (· = '/') (baseUrl upstream) ++ ['/']

theorem urlsplit_joinBase (given : UpstreamUrl checks upstream base) (default : Text) :
    urlsplit checks (joinBase upstream) default =
      .ok ⟨base.scheme, base.netloc, basePath base ++ ['/'], [], []⟩ := by
  rcases given.spelt with ⟨lead, scheme, controls, text, lower, whole⟩
  have inPath (char : Char) (member : char ∈ basePath base ++ ['/']) :
      char = '/' ∨ char ∈ base.path := by
    rcases List.mem_append.mp member with inside | last
    · exact .inr ((basePath_starts base).subset inside)
    · exact .inl (List.mem_singleton.mp last)
  have sound : SplitResult.Sound checks
      ⟨base.scheme, base.netloc, basePath base ++ ['/'], [], []⟩ := by
    apply given.sound_with (given.rootText.below [])
    · intro char member
      rcases inPath char member with rfl | inside
      · decide
      · exact given.sound.path char inside
    · exact nofun
    · intro char member
      rcases inPath char (member.resolve_right (by simp)) with rfl | inside
      · decide
      · exact given.sound.clean char (.inr (.inl inside))
  have last : ∀ char ∈ (lead ++ scheme ++ ':' :: '/' :: '/' :: base.netloc).getLast?,
      decide (char = '/') = false := by
    intro char isLast
    have regroup : lead ++ scheme ++ ':' :: '/' :: '/' :: base.netloc =
        (lead ++ scheme ++ [':', '/', '/']) ++ base.netloc := by simp
    rw [regroup, List.getLast?_append, List.getLast?_eq_some_getLast given.host,
      Option.some_or] at isLast
    cases isLast
    have inside := given.sound.host _ (List.getLast_mem given.host)
    apply decide_eq_false
    intro isSlash
    rw [isSlash] at inside
    cases inside
  have front := rstrip_append last base.path
  rw [← basePath] at front
  have written : joinBase upstream = lead ++ scheme ++ ':' :: '/' :: '/' ::
      (base.netloc ++ (basePath base ++ ['/']) ++ tailOf [] []) := by
    rw [joinBase, whole]
    have regroup : lead ++ scheme ++ ':' :: '/' :: '/' :: (base.netloc ++ base.path) =
        (lead ++ scheme ++ ':' :: '/' :: '/' :: base.netloc) ++ base.path := by simp
    rw [regroup, front]
    simp [tailOf]
  rw [written]
  exact urlsplit_of_parts sound (given.rootText.below []) lead controls text lower default

def parsedBase (base : SplitResult) : ParseResult where
  scheme := base.scheme
  netloc := base.netloc
  path := basePath base ++ ['/']
  params := []
  query := []
  fragment := []

theorem scheme_tables (given : UpstreamUrl checks upstream base) :
    base.scheme ∈ usesRelative ∧ base.scheme ∈ usesParams ∧
      cleanedScheme base.scheme = base.scheme := by
  rcases given.web with same | same <;> rw [same] <;> decide

theorem httpTarget_eq (given : UpstreamUrl checks upstream base) {path : Text}
    (nonempty : lstrip (· = '/') path ≠ []) :
    httpTarget checks upstream path =
      (urlparse checks (lstrip (· = '/') path) base.scheme).map fun target =>
        joinParsed (parsedBase base) target (lstrip (· = '/') path) := by
  have parsed := urlparse_of_urlsplit (given.urlsplit_joinBase []) given.scheme_tables.2.1
  simp only [splitParams_slash] at parsed
  have based : joinBase upstream ≠ [] := by simp [joinBase]
  unfold httpTarget urljoin
  rw [← joinBase, if_neg based, if_neg nonempty, parsed]
  simp only [bind, Except.bind, pure, Except.pure]
  cases urlparse checks (lstrip (· = '/') path) base.scheme <;> rfl

theorem httpTarget_base {path : Text} (empty : lstrip (· = '/') path = []) :
    httpTarget checks upstream path = .ok (joinBase upstream) := by
  have based : joinBase upstream ≠ [] := by simp [joinBase]
  unfold httpTarget urljoin
  rw [← joinBase, if_neg based, if_pos empty]
  rfl

theorem joinParsed_cases (given : UpstreamUrl checks upstream base) (target : ParseResult)
    (url : Text) (scheme : target.scheme = base.scheme) :
    target.netloc ≠ [] ∧ joinParsed (parsedBase base) target url = urlunparse target ∨
    target.netloc = [] ∧ withParams target.path target.params = [] ∧
      joinParsed (parsedBase base) target url =
        urlunsplit ⟨base.scheme, base.netloc, basePath base ++ ['/'], target.query,
          target.fragment⟩ ∨
    target.netloc = [] ∧ withParams target.path target.params ≠ [] ∧
      joinParsed (parsedBase base) target url =
        urlunsplit ⟨base.scheme, base.netloc,
          withParams (joinPaths (basePath base ++ ['/']) target.path) target.params,
          target.query, target.fragment⟩ := by
  have relative := given.scheme_tables.1
  have hosted := (HostScheme.of_web given.web).hosted
  rw [← scheme] at relative hosted
  have same :
    ¬(target.scheme ≠ (parsedBase base).scheme ∨ target.scheme ∉ usesRelative) := by
    simp [scheme, parsedBase, scheme ▸ relative]
  unfold joinParsed
  rw [if_neg same]
  by_cases host : target.netloc = []
  · rw [if_neg fun ⟨_, present⟩ => present host]
    simp only [if_pos hosted]
    by_cases empty : target.path = [] ∧ target.params = []
    · rw [if_pos empty]
      refine .inr (.inl ⟨host, by simp [withParams, empty.1, empty.2], ?_⟩)
      rw [urlunparse_eq]
      by_cases noQuery : target.query = [] <;>
        simp [parsedBase, withParams, scheme, noQuery]
    · rw [if_neg empty]
      refine .inr (.inr ⟨host, ?_, ?_⟩)
      · intro nothing
        apply empty
        unfold withParams at nothing
        split at nothing
        · simp at nothing
        · rename_i noParams
          exact ⟨nothing, by simpa using noParams⟩
      · rw [urlunparse_eq]
        simp [parsedBase, scheme]
  · rw [if_pos ⟨hosted, host⟩]
    exact .inl ⟨host, rfl⟩

end UpstreamUrl

/-! ## The path of a request -/

theorem lstrip_slashes (path : Text) :
    ∃ slashes, (∀ char ∈ slashes, char = '/') ∧ path = slashes ++ lstrip (· = '/') path ∧
      (lstrip (· = '/') path).head? ≠ some '/' := by
  refine ⟨path.takeWhile (· = '/'), ?_, List.takeWhile_append_dropWhile.symm, ?_⟩
  · intro char member
    simpa using List.mem_takeWhile_imp member
  · intro starts
    have outside := List.head?_dropWhile_not (· = '/') path
    rw [← lstrip, starts] at outside
    simp at outside

theorem relativePath_rootless (path : Text) : (relativePath path).head? ≠ some '/' := by
  rcases lstrip_slashes path with ⟨_, _, _, rootless⟩
  rcases splitTail_rest (lstrip (· = '/') path) with ⟨rest, whole, _⟩
  intro starts
  rw [whole, List.head?_append, ← relativePath, starts] at rootless
  exact rootless rfl

theorem splitParams_rootless (path : Text) :
    (splitParams (relativePath path)).1.head? ≠ some '/' := by
  intro starts
  rcases splitParams_starts (relativePath path) with ⟨more, whole⟩
  apply relativePath_rootless path
  rw [← whole, List.head?_append, starts]
  rfl

theorem splitTail_slashes (path : Text) :
    (splitTail path).2 = (splitTail (lstrip (· = '/') path)).2 ∧
      (¬['/', '/'] <+: path ∧ requestedPath path = '/' :: relativePath path ∨
        ['/', '/'] <+: path ∧
          (relativePath path).length + 1 < (requestedPath path).length) := by
  rcases lstrip_slashes path with ⟨slashes, all, whole, rootless⟩
  have plain : PathText slashes := by
    intro char member
    rw [all char member]
    decide
  have split : splitTail path =
      (slashes ++ relativePath path, (splitTail (lstrip (· = '/') path)).2) := by
    conv_lhs => rw [whole]
    exact splitTail_append slashes _ plain
  have rootlessPath := relativePath_rootless path
  refine ⟨by rw [split], ?_⟩
  · rw [requestedPath, split, rooted]
    cases slashes with
    | nil =>
        refine .inl ⟨?_, by rw [List.nil_append, if_neg rootlessPath]⟩
        rintro ⟨more, starts⟩
        rw [List.nil_append] at whole
        rw [← whole, ← starts] at rootless
        exact rootless rfl
    | cons char slashes =>
        rw [all char (by simp)] at whole ⊢
        simp only [List.cons_append, List.head?_cons, if_true]
        cases slashes with
        | nil =>
            refine .inl ⟨?_, rfl⟩
            rintro ⟨more, starts⟩
            rw [whole] at starts
            simp only [List.cons_append, List.nil_append, List.cons.injEq,
              true_and] at starts
            rw [← starts] at rootless
            exact rootless rfl
        | cons other slashes =>
            rw [all other (by simp)] at whole
            refine .inr ⟨⟨_, whole.symm⟩, ?_⟩
            simp only [List.cons_append, List.length_cons, List.length_append]
            omega

theorem requestedQuery_eq (path : Text) :
    requestedQuery path = (splitTail (lstrip (· = '/') path)).2.1 := by
  rw [requestedQuery, (splitTail_slashes path).1]

theorem length_requestedPath (path : Text) :
    (relativePath path).length + 1 ≤ (requestedPath path).length := by
  rcases (splitTail_slashes path).2 with ⟨_, same⟩ | ⟨_, longer⟩
  · rw [same]
    exact Nat.le_refl _
  · exact Nat.le_of_lt longer

theorem slash_of_length {path : Text}
    (length : (requestedPath path).length ≤ (relativePath path).length + 1) :
    ¬['/', '/'] <+: path := by
  rcases (splitTail_slashes path).2 with ⟨slash, _⟩ | ⟨_, longer⟩
  · exact slash
  · omega

namespace UpstreamUrl

variable {checks : HostChecks} {upstream path : Text} {base parts : SplitResult}

theorem mem_base {char : Char} (member : char ∈ basePath base ++ ['/']) {other : Prop} :
    char = '/' ∨ char = ';' ∨ char ∈ base.path ∨ other := by
  rcases List.mem_append.mp member with inBase | isSlash
  · exact .inr (.inr (.inl ((basePath_starts base).subset inBase)))
  · exact .inl (List.mem_singleton.mp isSlash)

theorem urlsplit_joined (given : UpstreamUrl checks upstream base)
    {path query fragment : Text}
    (sound : SplitResult.Sound checks
      ⟨base.scheme, base.netloc, slashed path, query, fragment⟩) :
    urlsplit checks (urlunsplit ⟨base.scheme, base.netloc, path, query, fragment⟩) [] =
      .ok ⟨base.scheme, base.netloc, slashed path, query, fragment⟩ :=
  have scheme := HostScheme.of_web given.web
  urlsplit_urlunsplit ⟨base.scheme, base.netloc, path, query, fragment⟩ sound scheme.text
    scheme.lower scheme.hosted []

theorem sound_joined (given : UpstreamUrl checks upstream base) {target : SplitResult}
    (sound : target.Sound checks) {path : Text} (rooted : RootText path)
    (made : ∀ char ∈ path, char = '/' ∨ char = ';' ∨ char ∈ base.path ∨
      char ∈ target.path) :
    SplitResult.Sound checks
      ⟨base.scheme, base.netloc, path, target.query, target.fragment⟩ := by
  apply given.sound_with rooted
  · intro char member
    rcases made char member with rfl | rfl | inBase | inTarget
    · decide
    · decide
    · exact given.sound.path char inBase
    · exact sound.path char inTarget
  · exact sound.query
  · intro char member
    rcases member with inPath | inRest
    · rcases made char inPath with rfl | rfl | inBase | inTarget
      · decide
      · decide
      · exact given.sound.clean char (.inr (.inl inBase))
      · exact sound.clean char (.inr (.inl inTarget))
    · exact sound.clean char (.inr (.inr inRest))

theorem length_of_path (leads : parts.path = basePath base ++ requestedPath path) :
    (basePath base).length + ((relativePath path).length + 1) ≤ parts.path.length := by
  have longer := length_requestedPath path
  rw [leads, List.length_append]
  omega

theorem query_clean {target : SplitResult} {default : Text}
    (split : urlsplit checks (lstrip (· = '/') path) default = .ok target)
    (kept : target.query = requestedQuery path) :
    ∀ char ∈ requestedQuery path, isUnsafe char = false := by
  rcases urlsplit_spells split with ⟨_, _, _, _, _, filtered, _, _⟩
  rw [← requestedQuery_eq, kept] at filtered
  apply clean_of_length
  rw [← filtered]

theorem plain_of_joined (given : UpstreamUrl checks upstream base) {target : SplitResult}
    {default : Text} (split : urlsplit checks (lstrip (· = '/') path) default = .ok target)
    (kept : target.query = requestedQuery path)
    (leads : slashed (withParams
        (joinPaths (basePath base ++ ['/']) (splitParams target.path).1)
        (splitParams target.path).2) =
      basePath base ++ requestedPath path) : Plain base path := by
  have root := given.rootText
  have joined := length_joinPaths_le root (splitParams target.path).1
  have longer := length_requestedPath path
  have shorter : target.path.length ≤ (relativePath path).length := urlsplit_path_le split
  have written := (withParams_starts target.path).length_le
  have lengths := congrArg List.length leads
  rw [slashed_withParams _ (joinPaths_ne_nil _ _), List.length_append] at lengths
  have joinedWith := length_withParams (splitParams target.path).2
    (slashed (joinPaths (basePath base ++ ['/']) (splitParams target.path).1))
    (splitParams target.path).1
  have untouched := untouched_of_length split
    (show (relativePath path).length ≤ target.path.length by omega)
  have same : target.path = relativePath path := untouched.2.1
  have whole := (withParams_starts target.path).eq_of_length_le (by omega)
  rw [same] at whole joined joinedWith lengths
  rw [whole] at joinedWith
  refine ⟨slash_of_length (by omega), query_clean split kept,
    .inr ⟨untouched.1, (withParams_eq_iff _).mp whole, ?_⟩⟩
  rcases normal_or_joinPaths_shorter root (splitParams_rootless path) with
    normal | strictly
  · exact normal
  · omega

theorem plain_of_path (given : UpstreamUrl checks upstream base) {url : Text}
    (opened : httpTarget checks upstream path = .ok url)
    (split : urlsplit checks url [] = .ok parts)
    (leads : parts.path = basePath base ++ requestedPath path)
    (kept : parts.query = requestedQuery path) : Plain base path := by
  have long := length_of_path leads
  -- A URL that has the base path only: nothing was requested.
  have bare (short : parts.path = basePath base ++ ['/'])
      (clean : ∀ char ∈ requestedQuery path, isUnsafe char = false) : Plain base path := by
    have lengths := congrArg List.length (leads.symm.trans short)
    simp only [List.length_append, List.length_singleton] at lengths
    rw [short, List.length_append, List.length_singleton] at long
    exact ⟨slash_of_length (by omega), clean,
      .inl (List.eq_nil_of_length_eq_zero (by omega))⟩
  by_cases empty : lstrip (· = '/') path = []
  · rw [httpTarget_base empty] at opened
    cases opened
    rw [given.urlsplit_joinBase] at split
    cases split
    refine bare rfl ?_
    rw [requestedQuery_eq, empty]
    exact nofun
  · rw [given.httpTarget_eq empty] at opened
    cases parsed : urlparse checks (lstrip (· = '/') path) base.scheme with
    | error message =>
        rw [parsed] at opened
        cases opened
    | ok reference =>
        rw [parsed] at opened
        simp only [Except.map, Except.ok.injEq] at opened
        subst opened
        rcases urlsplit_of_urlparse parsed with ⟨target, found, schemes, params⟩
        by_cases scheme : reference.scheme = base.scheme
        · have isScheme := schemes.symm.trans scheme
          have whole := params (by rw [isScheme]; exact given.scheme_tables.2.1)
          subst whole
          have sound := urlsplit_sound found
          rcases given.joinParsed_cases _ (lstrip (· = '/') path) scheme with
            ⟨host, same⟩ | ⟨_, _, same⟩ | ⟨_, _, same⟩
          · have hostScheme : HostScheme target.scheme := by
              rw [isScheme]
              exact .of_web given.web
            have read := urlsplit_urlunsplit _
              (sound.shorten (withParams_starts target.path)).slashed hostScheme.text
                hostScheme.lower hostScheme.hosted []
            rw [same, urlunparse_eq, read] at split
            cases split
            have taken : target.path.length < (relativePath path).length := by
              apply Nat.lt_of_not_le
              intro whole
              exact absurd (untouched_of_length found whole).2.2.2 host
            have written := (withParams_starts target.path).length_le
            have short := length_slashed_le
              (withParams (splitParams target.path).1 (splitParams target.path).2)
            simp only at long
            omega
          · rw [same, given.urlsplit_joined] at split
            · cases split
              refine bare (slashed_of_rooted (given.rootText.below [])) ?_
              exact query_clean found kept
            · apply given.sound_joined sound slashed_rooted
              intro char member
              rcases mem_slashed member with isSlash | inside
              · exact .inl isSlash
              · exact mem_base inside
          · rw [same, given.urlsplit_joined] at split
            · cases split
              exact given.plain_of_joined found kept leads
            · apply given.sound_joined sound slashed_rooted
              intro char member
              rcases mem_slashed member with isSlash | written
              · exact .inl isSlash
              · rcases mem_withParams written with isMark | joined | inParams
                · exact .inr (.inl isMark)
                · rcases mem_joinPaths joined with isSlash | inBase | inPath
                  · exact .inl isSlash
                  · exact mem_base inBase
                  · exact .inr (.inr (.inr (mem_splitParams (.inl inPath))))
                · exact .inr (.inr (.inr (mem_splitParams (.inr inParams))))
        · have same : joinParsed (parsedBase base) reference (lstrip (· = '/') path) =
              lstrip (· = '/') path := if_pos (.inl scheme)
          rw [same] at split
          have short : parts.path.length ≤ (relativePath path).length :=
            urlsplit_path_le split
          omega

theorem httpTarget_of_plain (given : UpstreamUrl checks upstream base)
    (plain : Plain base path) :
    ∃ url fragment, httpTarget checks upstream path = .ok url ∧
      urlsplit checks url [] = .ok ⟨base.scheme, base.netloc,
        basePath base ++ requestedPath path, requestedQuery path, fragment⟩ := by
  have requested : requestedPath path = '/' :: relativePath path := by
    rcases (splitTail_slashes path).2 with ⟨_, same⟩ | ⟨slashes, _⟩
    · exact same
    · exact absurd slashes plain.slash
  by_cases empty : lstrip (· = '/') path = []
  · have nothing : relativePath path = [] := by rw [relativePath, empty]; rfl
    have noQuery : requestedQuery path = [] := by rw [requestedQuery_eq, empty]; rfl
    rw [requested, nothing, noQuery]
    exact ⟨_, [], httpTarget_base empty, given.urlsplit_joinBase []⟩
  · have untouched : Untouched (relativePath path) := by
      rcases plain.path with nothing | ⟨untouched, _⟩
      · rw [nothing]
        exact ⟨nofun, nofun, rfl⟩
      · exact untouched
    have split : urlsplit checks (lstrip (· = '/') path) base.scheme = _ :=
      urlsplit_untouched base.scheme untouched (relativePath_rootless path)
    have query : (splitTail (lstrip (· = '/') path)).2.1.filter (!isUnsafe ·) =
        requestedQuery path := by
      rw [← requestedQuery_eq]
      exact filter_of_clean plain.query
    rw [given.scheme_tables.2.2, query, ← relativePath] at split
    have sound := urlsplit_sound split
    have root := given.rootText
    have rooted : slashed (basePath base ++ requestedPath path) =
        basePath base ++ requestedPath path := by
      rw [requested]
      exact slashed_of_rooted (root.below _)
    have made : ∀ char ∈ slashed (basePath base ++ requestedPath path),
        char = '/' ∨ char = ';' ∨ char ∈ base.path ∨ char ∈ relativePath path := by
      rw [rooted, requested]
      intro char member
      rcases List.mem_append.mp member with inBase | inPath
      · exact .inr (.inr (.inl ((basePath_starts base).subset inBase)))
      · rcases List.mem_cons.mp inPath with isSlash | inside
        · exact .inl isSlash
        · exact .inr (.inr (.inr inside))
    have read := given.urlsplit_joined (given.sound_joined sound slashed_rooted made)
    have parsed := urlparse_of_urlsplit split given.scheme_tables.2.1
    have kept : (splitParams (relativePath path)).1 ++ [';'] ≠ relativePath path := by
      rcases plain.path with nothing | ⟨_, kept, _⟩
      · rw [nothing]
        simp
      · exact kept
    have whole := (withParams_eq_iff _).mpr kept
    rw [rooted] at read
    refine ⟨_, _, ?_, read⟩
    rw [given.httpTarget_eq empty, parsed]
    simp only [Except.map, Except.ok.injEq]
    rcases given.joinParsed_cases ⟨base.scheme, [], (splitParams (relativePath path)).1,
        (splitParams (relativePath path)).2, requestedQuery path,
        (splitTail (lstrip (· = '/') path)).2.2.filter (!isUnsafe ·)⟩
        (lstrip (· = '/') path) rfl with
      ⟨host, _⟩ | ⟨_, nothing, same⟩ | ⟨_, something, same⟩
    · exact absurd rfl host
    · rw [same, requested, ← whole, nothing]
    · rcases plain.path with nothing | ⟨_, _, normal⟩
      · rw [whole] at something
        exact absurd nothing something
      · rw [same, requested, joinPaths_normal root (splitParams_rootless path) normal]
        have front := withParams_append (basePath base ++ ['/'])
          (splitParams (relativePath path)).1 (splitParams (relativePath path)).2
        rw [whole] at front
        simp only [List.append_assoc, List.singleton_append] at front
        rw [front]

theorem channelScheme_eq (given : UpstreamUrl checks upstream base) :
    channelScheme base.scheme = .ok (channelOf base.scheme) := by
  rcases given.web with same | same <;> rw [same] <;> rfl

theorem urlsplit_channel {scheme channel : Text} (sound : parts.Sound checks)
    (mapped : channelScheme scheme = .ok channel) :
    urlsplit checks (urlunsplit { parts with scheme := channel }) [] =
      .ok { parts with scheme := channel, path := slashed parts.path } := by
  have hosted := HostScheme.of_channel mapped
  have rescheme : SplitResult.Sound checks { parts with scheme := channel } :=
    ⟨sound.host, sound.brackets, sound.checked, sound.rooted, sound.path, sound.query,
      sound.clean⟩
  exact urlsplit_urlunsplit _ rescheme.slashed hosted.text hosted.lower hosted.hosted []

theorem websocketTarget_eq_ok {url : Text}
    (opened : websocketTarget checks upstream path = .ok url) :
    ∃ target parsed channel, httpTarget checks upstream path = .ok target ∧
      urlsplit checks target [] = .ok parsed ∧ channelScheme parsed.scheme = .ok channel ∧
      url = urlunsplit { parsed with scheme := channel } := by
  unfold websocketTarget at opened
  simp only [bind, Except.bind, pure, Except.pure] at opened
  split at opened
  · cases opened
  · rename_i target targeted
    split at opened
    · cases opened
    · rename_i parsed found
      split at opened
      · cases opened
      · rename_i channel mapped
        cases opened
        exact ⟨target, parsed, channel, targeted, found, mapped, rfl⟩

end UpstreamUrl

/-- Requests and channels reach the upstream's host under its base path exactly with
plain paths. -/
theorem targets_leadTo_upstream_iff (checks : HostChecks) (upstream path : Text)
    (base : SplitResult) (given : UpstreamUrl checks upstream base) :
    (LeadsTo checks (httpTarget checks upstream path) base.scheme base.netloc
        (basePath base ++ requestedPath path) (requestedQuery path) ↔ Plain base path) ∧
      (LeadsTo checks (websocketTarget checks upstream path) (channelOf base.scheme)
        base.netloc (basePath base ++ requestedPath path) (requestedQuery path) ↔
          Plain base path) := by
  refine ⟨⟨?_, ?_⟩, ?_, ?_⟩
  · rintro ⟨url, parts, opened, split, _, _, leads, kept⟩
    exact given.plain_of_path opened split leads kept
  · intro plain
    rcases given.httpTarget_of_plain plain with ⟨url, fragment, opened, split⟩
    exact ⟨url, _, opened, split, rfl, rfl, rfl, rfl⟩
  · rintro ⟨url, parts, opened, split, _, host, leads, kept⟩
    rcases UpstreamUrl.websocketTarget_eq_ok opened with
      ⟨target, parsed, channel, targeted, found, mapped, rfl⟩
    have sound := urlsplit_sound found
    rw [UpstreamUrl.urlsplit_channel sound mapped] at split
    cases split
    have hosted : parsed.netloc ≠ [] := by
      rw [show parsed.netloc = base.netloc from host]
      exact given.host
    rw [slashed_of_rooted (sound.rooted hosted)] at leads
    exact given.plain_of_path targeted found leads kept
  · intro plain
    rcases given.httpTarget_of_plain plain with ⟨url, fragment, opened, split⟩
    have sound := urlsplit_sound split
    have read := UpstreamUrl.urlsplit_channel sound given.channelScheme_eq
    rw [slashed_of_rooted (sound.rooted given.host)] at read
    refine ⟨_, _, ?_, read, rfl, rfl, rfl, rfl⟩
    simp only [websocketTarget, opened, bind, Except.bind, split, given.channelScheme_eq]
    rfl

def nameChecks : HostChecks where
  normalize := id
  checkBracketedHost _ := .error []

/-- A request below a base path. -/
theorem targets_leadTo_upstream_iff_below_base :
    LeadsTo nameChecks
        (httpTarget nameChecks "https://h/base".toList "/v1/items?x=1".toList)
        "https".toList "h".toList "/base/v1/items".toList "x=1".toList ∧
      LeadsTo nameChecks
        (websocketTarget nameChecks "https://h/base".toList "/v1/items?x=1".toList)
        "wss".toList "h".toList "/base/v1/items".toList "x=1".toList :=
  have plain : Plain ⟨"https".toList, "h".toList, "/base".toList, [], []⟩
      "/v1/items?x=1".toList :=
    ⟨by decide, forall_mem_of_all (by decide), .inr ⟨by decide, by decide, by decide⟩⟩
  have both := targets_leadTo_upstream_iff nameChecks "https://h/base".toList
    "/v1/items?x=1".toList ⟨"https".toList, "h".toList, "/base".toList, [], []⟩
    ⟨rfl, .inr rfl, by decide, forall_mem_of_all (by decide)⟩
  ⟨both.1.mpr plain, both.2.mpr plain⟩

/-- The path `/http://evil/x`, a legal one, sends the request to another host. -/
theorem scheme_segment_leaves_upstream :
    ¬∀ (checks : HostChecks) (upstream path : Text) (base : SplitResult),
      UpstreamUrl checks upstream base →
        LeadsTo checks (httpTarget checks upstream path) base.scheme base.netloc
            (basePath base ++ requestedPath path) (requestedQuery path) ∧
          LeadsTo checks (websocketTarget checks upstream path) (channelOf base.scheme)
            base.netloc (basePath base ++ requestedPath path) (requestedQuery path) := by
  intro claim
  rcases (claim nameChecks "127.0.0.1:8000".toList "/http://evil/x".toList
    ⟨"http".toList, "127.0.0.1:8000".toList, [], [], []⟩
    ⟨rfl, .inl rfl, by decide, forall_mem_of_all (by decide)⟩).1 with
      ⟨url, parts, opened, split, _, host, _⟩
  have isUrl : httpTarget nameChecks "127.0.0.1:8000".toList "/http://evil/x".toList =
      .ok "http://evil/x".toList := rfl
  rw [isUrl] at opened
  cases opened
  have isParts : urlsplit nameChecks "http://evil/x".toList [] =
      .ok ⟨"http".toList, "evil".toList, "/x".toList, [], []⟩ := rfl
  rw [isParts] at split
  cases split
  exact absurd host (by decide)

end YrSandbox.Tunnel
