import Mathlib.Data.List.DropRight
import YrSandbox.Foundation.PathSegments

/-! # `urllib.parse`

`urlsplit`, `urlunsplit` and `urljoin` as CPython 3.11 has them, for text. What they
ask of Unicode and of `ipaddress` is a parameter. -/

namespace YrSandbox.Python

abbrev Text := List Char

instance : LawfulBEq Text := List.instLawfulBEq

def lstrip (strips : Char → Bool) (text : Text) : Text := text.dropWhile strips

def rstrip (strips : Char → Bool) (text : Text) : Text := text.rdropWhile strips

/-- `Py_UNICODE_ISSPACE`, what `text.strip()` takes off. -/
def isSpace (char : Char) : Bool :=
  decide (0x9 ≤ char.toNat ∧ char.toNat ≤ 0xd ∨ 0x1c ≤ char.toNat ∧ char.toNat ≤ 0x20 ∨
    0x2000 ≤ char.toNat ∧ char.toNat ≤ 0x200a) ||
  [0x85, 0xa0, 0x1680, 0x2028, 0x2029, 0x202f, 0x205f, 0x3000].contains char.toNat

def strip (text : Text) : Text := rstrip isSpace (lstrip isSpace text)

def removePrefix (front text : Text) : Text :=
  if front.isPrefixOf text then text.drop front.length else text

def asciiLower (text : Text) : Text := text.map Char.toLower

def occursIn (part text : Text) : Bool := text.tails.any part.isPrefixOf

/-- `text.split(separator, 1)`, with an empty second part if there is none. -/
def splitOnce (separator : Char) (text : Text) : Text × Text :=
  (text.takeWhile (· ≠ separator), (text.dropWhile (· ≠ separator)).tail)

/-! ## Tables -/

def usesRelative : List Text :=
  ["", "ftp", "http", "gopher", "nntp", "imap", "wais", "file", "https", "shttp", "mms",
    "prospero", "rtsp", "rtsps", "rtspu", "sftp", "svn", "svn+ssh", "ws", "wss"].map
    String.toList

def usesNetloc : List Text :=
  ["", "ftp", "http", "gopher", "nntp", "telnet", "imap", "wais", "file", "mms", "https",
    "shttp", "snews", "prospero", "rtsp", "rtsps", "rtspu", "rsync", "svn", "svn+ssh",
    "sftp", "nfs", "git", "git+ssh", "ws", "wss"].map String.toList

def usesParams : List Text :=
  ["", "ftp", "hdl", "prospero", "http", "imap", "https", "shttp", "rtsp", "rtsps",
    "rtspu", "sip", "sips", "mms", "sftp", "tel"].map String.toList

def isSchemeChar (char : Char) : Bool := char.isAlphanum || "+-.".toList.contains char

/-- `_WHATWG_C0_CONTROL_OR_SPACE` -/
def isC0ControlOrSpace (char : Char) : Bool := decide (char.toNat ≤ 0x20)

/-- `_UNSAFE_URL_BYTES_TO_REMOVE` -/
def isUnsafe (char : Char) : Bool := "\t\r\n".toList.contains char

/-! ## Splitting -/

structure SplitResult where
  scheme : Text
  netloc : Text
  path : Text
  query : Text
  fragment : Text
deriving DecidableEq, Repr

structure ParseResult where
  scheme : Text
  netloc : Text
  path : Text
  params : Text
  query : Text
  fragment : Text
deriving DecidableEq, Repr

def cleaned (url : Text) : Text := (lstrip isC0ControlOrSpace url).filter (!isUnsafe ·)

/-- The default scheme as `urlsplit` reads it. -/
def cleanedScheme (scheme : Text) : Text :=
  (rstrip isC0ControlOrSpace (lstrip isC0ControlOrSpace scheme)).filter (!isUnsafe ·)

/-- `unicodedata.normalize('NFKC', ·)` and the check that `ipaddress` makes of a
host in brackets. -/
structure HostChecks where
  normalize : Text → Text
  checkBracketedHost : Text → Except Text Unit

def schemeOf (url : Text) : Option Text :=
  let lead := url.takeWhile (· ≠ ':')
  if lead ≠ url ∧ lead.head?.any Char.isAlpha ∧
    lead.all isSchemeChar then some lead else none

def splitScheme (default url : Text) : Text × Text :=
  match schemeOf url with
  | some scheme => (scheme.map Char.toLower, url.drop (scheme.length + 1))
  | none => (default, url)

def isDelimiter (char : Char) : Bool := "/?#".toList.contains char

def splitNetloc (url : Text) : Text × Text :=
  match url with
  | '/' :: '/' :: rest =>
      (rest.takeWhile (!isDelimiter ·), rest.dropWhile (!isDelimiter ·))
  | _ => ([], url)

section

variable (checks : HostChecks)

def checkBrackets (netloc : Text) : Except Text Unit :=
  if netloc.contains '[' != netloc.contains ']' then .error "Invalid IPv6 URL".toList
  else if netloc.contains '[' then
    checks.checkBracketedHost (splitOnce ']' (splitOnce '[' netloc).2).1
  else .ok ()

def checkNetloc (netloc : Text) : Except Text Unit :=
  if netloc.all (·.toNat < 128) then .ok ()
  else
    let stripped := netloc.filter fun char => !"@:#?".toList.contains char
    let normalized := checks.normalize stripped
    if stripped = normalized then .ok ()
    else if normalized.any fun char => "/?#@:".toList.contains char then
      .error ("netloc '".toList ++ netloc ++
        "' contains invalid characters under NFKC normalization".toList)
    else .ok ()

def splitTail (url : Text) : Text × Text × Text :=
  let (url, fragment) := splitOnce '#' url
  let (path, query) := splitOnce '?' url
  (path, query, fragment)

def urlsplit (url scheme : Text) : Except Text SplitResult := do
  let (scheme, url) := splitScheme (cleanedScheme scheme) (cleaned url)
  let (netloc, url) := splitNetloc url
  checkBrackets checks netloc
  let (path, query, fragment) := splitTail url
  checkNetloc checks netloc
  return { scheme, netloc, path, query, fragment }

/-- `_splitparams`: the parameters of the last segment. -/
def splitParams (url : Text) : Text × Text :=
  let (last, params) := splitOnce ';' (url.rtakeWhile (· ≠ '/'))
  (url.rdropWhile (· ≠ '/') ++ last, params)

def urlparse (url scheme : Text) : Except Text ParseResult := do
  let split ← urlsplit checks url scheme
  let (path, params) :=
    if split.scheme ∈ usesParams ∧ ';' ∈ split.path then splitParams split.path
    else (split.path, [])
  return { split with path, params }

/-! ## Joining -/

def urlunsplit (parts : SplitResult) : Text :=
  let url := parts.path
  let url :=
    if parts.netloc ≠ [] ∨ parts.scheme ≠ [] ∧ parts.scheme ∈ usesNetloc ∨
        ['/', '/'] <+: url then
      let url := if url ≠ [] ∧ url.head? ≠ some '/' then '/' :: url else url
      '/' :: '/' :: parts.netloc ++ url
    else url
  let url := if parts.scheme ≠ [] then parts.scheme ++ ':' :: url else url
  let url := if parts.query ≠ [] then url ++ '?' :: parts.query else url
  if parts.fragment ≠ [] then url ++ '#' :: parts.fragment else url

def urlunparse (parts : ParseResult) : Text :=
  let url := if parts.params ≠ [] then parts.path ++ ';' :: parts.params else parts.path
  urlunsplit { parts with path := url }

/-- The path of `urljoin`, with its dot segments resolved. -/
def joinPaths (base path : Text) : Text :=
  let baseParts := base.splitOn '/'
  let baseParts := if baseParts.getLast? ≠ some [] then baseParts.dropLast else baseParts
  let segments :=
    if path.head? = some '/' then path.splitOn '/'
    else PathSegments.squeeze (baseParts ++ path.splitOn '/')
  let resolved := ['/'].intercalate (PathSegments.resolve ['.'] ['.', '.'] segments)
  if resolved = [] then ['/'] else resolved

/-- `urljoin`, once both texts are parsed. -/
def joinParsed (base target : ParseResult) (url : Text) : Text :=
  if target.scheme ≠ base.scheme ∨ target.scheme ∉ usesRelative then url
  else if target.scheme ∈ usesNetloc ∧ target.netloc ≠ [] then urlunparse target
  else
    let netloc := if target.scheme ∈ usesNetloc then base.netloc else target.netloc
    if target.path = [] ∧ target.params = [] then
      urlunparse { target with
        netloc
        path := base.path
        params := base.params
        query := if target.query = [] then base.query else target.query }
    else urlunparse { target with netloc, path := joinPaths base.path target.path }

def urljoin (base url : Text) : Except Text Text := do
  if base = [] then return url
  if url = [] then return base
  let parsedBase ← urlparse checks base []
  let parsed ← urlparse checks url parsedBase.scheme
  return joinParsed parsedBase parsed url

end

/-! ## Quoting -/

def isAlwaysSafe (char : Char) : Bool := char.isAlphanum || "_.-~".toList.contains char

def hexDigit (digit : Nat) : Char := "0123456789ABCDEF".toList.getD digit '0'

def quotePlus (text : Text) : Text :=
  text.flatMap fun char =>
    if char = ' ' then ['+']
    else if isAlwaysSafe char then [char]
    else
      (String.singleton char).toUTF8.toList.flatMap fun byte =>
        ['%', hexDigit (byte.toNat / 16), hexDigit (byte.toNat % 16)]

def urlencode (query : List (Text × Text)) : Text :=
  ['&'].intercalate (query.map fun pair => quotePlus pair.1 ++ '=' :: quotePlus pair.2)

end YrSandbox.Python
