import YrSandbox.Foundation.FileTree
import YrSandbox.Python.Url

/-! # `posixpath`

The functions on path texts, and `realpath` as it goes through the links of a tree. -/

namespace YrSandbox.Python

open FileTree

/-! ## Path texts -/

namespace Posixpath

def componentOf (name : Text) : Component Text :=
  if name = ".".toList then .here
  else if name = "..".toList then .parent
  else .child name

def parse (path : Text) : Path Text where
  absolute := decide (path.head? = some '/')
  names := ((path.splitOn '/').filter (· ≠ [])).map componentOf
  slash := decide (path.getLast? = some '/')

def join (path name : Text) : Text :=
  if name.head? = some '/' then name
  else if path = [] ∨ path.getLast? = some '/' then path ++ name
  else path ++ '/' :: name

def dirname (path : Text) : Text :=
  let head := (path.reverse.dropWhile (· ≠ '/')).reverse
  if head.all (· = '/') then head else rstrip (· = '/') head

def normComps (rooted : Bool) : List Text → List Text → List Text
  | newComps, [] => newComps
  | newComps, comp :: comps =>
      if comp = [] ∨ comp = ".".toList then normComps rooted newComps comps
      else if comp ≠ "..".toList ∨ (rooted = false ∧ newComps = []) ∨
          newComps.getLast? = some "..".toList then
        normComps rooted (newComps ++ [comp]) comps
      else normComps rooted newComps.dropLast comps

def normpath (path : Text) : Text :=
  let initialSlashes :=
    if "//".toList.isPrefixOf path && !"///".toList.isPrefixOf path then 2
    else if path.head? = some '/' then 1 else 0
  let comps := normComps (decide (initialSlashes ≠ 0)) [] (path.splitOn '/')
  let normal := List.replicate initialSlashes '/' ++ ['/'].intercalate comps
  if normal = [] then ".".toList else normal

example : ["a/b", "a/b/", "/a", "//", "a"].map (fun path => dirname path.toList) =
    ["a", "a/b", "/", "//", ""].map String.toList := by rfl

end Posixpath

/-! ## `realpath` -/

variable {Name : Type u}

inductive RealPath (Name : Type u)
  | found (location : Location Name)
  | looped -- a link leads to itself
  | tooDeep -- a `RecursionError`
deriving DecidableEq, Repr

/-- The loop of `_joinrealpath`; `resolve` is its call for a symbolic link. -/
def joinWith (links : Location Name → Option (Path Name))
    (resolve : Location Name → Path Name → RealPath Name) :
    Location Name → List (Component Name) → RealPath Name
  | path, [] => .found path
  | path, .here :: rest => joinWith links resolve path rest
  | path, .parent :: rest => joinWith links resolve path.dropLast rest
  | path, .child name :: rest =>
      match links (path ++ [name]) with
      | none => joinWith links resolve (path ++ [name]) rest
      | some target =>
          match resolve (path ++ [name]) target with
          | .found resolved => joinWith links resolve resolved rest
          | failed => failed

/-- `_joinrealpath`, `depth` calls from the recursion limit. `seen` holds the links that
are being resolved; what it caches of resolved ones is computed again. -/
def joinRealpath [DecidableEq Name] (links : Location Name → Option (Path Name)) :
    Nat → List (Location Name) → Location Name → List (Component Name) → RealPath Name
  | 0, seen => joinWith links fun link _ => if link ∈ seen then .looped else .tooDeep
  | depth + 1, seen =>
      joinWith links fun link target =>
        if link ∈ seen then .looped
        else joinRealpath links depth (link :: seen) (target.start link.dropLast)
          target.components

def realpath [DecidableEq Name] (links : Location Name → Option (Path Name)) (depth : Nat)
    (cwd : Location Name) (path : Path Name) : RealPath Name :=
  joinRealpath links depth [] (path.start cwd) path.components

/-! ## What `realpath` finds -/

section

variable {links : Location Name → Option (Path Name)} {location final : Location Name}
  {components : List (Component Name)} {count : Nat}

theorem joinWith_leads {resolve : Location Name → Path Name → RealPath Name}
    (leads : Leads links location components final count)
    (resolves : ∀ link target middle inner, links link = some target →
      Leads links (target.start link.dropLast) target.components middle inner →
      inner < count →
      resolve link target = .tooDeep ∨ resolve link target = .found middle) :
    joinWith links resolve location components = .tooDeep ∨
      joinWith links resolve location components = .found final := by
  induction leads with
  | nil => exact .inr rfl
  | here leads induction => exact induction resolves
  | parent leads induction => exact induction resolves
  | child plain leads induction =>
      rw [joinWith, plain]
      exact induction resolves
  | @link location middle _ rest inner count name target isLink through leads _
      induction =>
      have start : target.start (location ++ [name]).dropLast = target.start location := by
        rw [List.dropLast_concat]
      have found := resolves (location ++ [name]) target middle inner isLink
        (start ▸ through) (by omega)
      rw [joinWith, isLink]
      rcases found with failed | resolved
      · left
        simp only [failed]
      · simp only [resolved]
        apply induction
        intro link target middle inner' isLink through shorter
        exact resolves link target middle inner' isLink through (by omega)

theorem not_resolving {seen : List (Location Name)}
    (longer : ∀ link ∈ seen, ∀ target middle inner, links link = some target →
      Leads links (target.start link.dropLast) target.components middle inner →
      count ≤ inner)
    {link middle : Location Name} {target : Path Name} {inner : Nat}
    (isLink : links link = some target)
    (through : Leads links (target.start link.dropLast) target.components middle inner)
    (shorter : inner < count) : link ∉ seen := by
  intro isSeen
  have isLonger := longer link isSeen target middle inner isLink through
  exact absurd shorter (Nat.not_lt.mpr isLonger)

theorem joinRealpath_leads [DecidableEq Name] {depth : Nat} {seen : List (Location Name)}
    (leads : Leads links location components final count)
    (longer : ∀ link ∈ seen, ∀ target middle inner, links link = some target →
      Leads links (target.start link.dropLast) target.components middle inner →
      count ≤ inner) :
    joinRealpath links depth seen location components = .tooDeep ∨
      joinRealpath links depth seen location components = .found final := by
  induction depth generalizing seen location components final count with
  | zero =>
      apply joinWith_leads leads
      intro link target middle inner isLink through shorter
      left
      exact if_neg (not_resolving longer isLink through shorter)
  | succ depth induction =>
      apply joinWith_leads leads
      intro link target middle inner isLink through shorter
      rw [if_neg (not_resolving longer isLink through shorter)]
      apply induction through
      intro other isSeen target' middle' inner' isLink' through'
      rcases List.mem_cons.mp isSeen with rfl | isSeen
      · rw [isLink] at isLink'
        cases isLink'
        exact Nat.le_of_eq (through.unique through').2
      · have isLonger := longer other isSeen target' middle' inner' isLink' through'
        omega

theorem realpath_leads [DecidableEq Name] {depth : Nat} {cwd : Location Name}
    {path : Path Name}
    (leads : Leads links (path.start cwd) path.components final count) :
    realpath links depth cwd path = .tooDeep ∨
      realpath links depth cwd path = .found final :=
  joinRealpath_leads leads (by simp)

end

end YrSandbox.Python
