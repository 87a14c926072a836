/-
# ReleaseHistory.Settings.Path -- paths in their plain form

A path is plain when it has no empty part and no part that is a single dot, does
not end with a slash, and begins with at most two slashes; the plain form of an
empty path is a single dot.  Parts of two dots stay, since what they mean hangs
on links.
-/
import ReleaseHistory.Text.Blank

namespace ReleaseHistory.Path

set_option autoImplicit false

/-- The parts of a path between its slashes. -/
def parts (cs : List Char) : List (List Char) := Text.pieces (fun c => c != '/') cs

/-- The slashes that open a path, as they are kept: exactly two stay two, more are
one. -/
def root (cs : List Char) : List Char :=
  match (cs.takeWhile (· == '/')).length with
  | 0 => []
  | 2 => ['/', '/']
  | _ => ['/']

/-- The plain form of a path. -/
def plain (s : String) : String :=
  let kept := (parts s.toList).filter fun p => !p.isEmpty && p != ['.']
  let cs := root s.toList ++ ['/'].intercalate kept
  if cs.isEmpty then "." else String.ofList cs

end ReleaseHistory.Path
