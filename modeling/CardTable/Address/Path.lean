import CardTable.Address.Percent

namespace CardTable
namespace Address

/-!
# Paths

A path is read segment by segment.  A segment of one point is dropped, and one
of two points takes back the segment before it, unless that one names a drive.
Points may be percent-encoded.
-/

/-- How the scheme of an address is treated. -/
inductive Family where
  /-- A server on the internet, with the port that the scheme implies. -/
  | server (port : Nat)
  | file
  | other
  deriving DecidableEq, Repr

namespace Family

def ofScheme (scheme : String) : Family :=
  if scheme = "http" || scheme = "ws" then server 80
  else if scheme = "https" || scheme = "wss" then server 443
  else if scheme = "ftp" then server 21
  else if scheme = "file" then file
  else other

/-- The families whose schemes are known. -/
def isKnown (family : Family) : Bool :=
  family ≠ other

/-- A character that separates segments.  Known schemes take a backslash for a
slash. -/
def isSlash (family : Family) (c : Char) : Bool :=
  c = '/' || (family.isKnown && c = '\\')

end Family

namespace Path

/-- The number of points that a segment consists of, if nothing else is in it. -/
def points? : List Char -> Option Nat
  | [] => some 0
  | '.' :: rest => (points? rest).map (· + 1)
  | '%' :: '2' :: c :: rest => if c = 'e' || c = 'E' then (points? rest).map (· + 1) else none
  | _ => none

/-- A letter and a colon or bar, as a drive is written. -/
def isDrive : List Char -> Bool
  | [letter, mark] => letter.isAlpha && (mark = ':' || mark = '|')
  | _ => false

/-- A segment that is a drive, or a drive and a backslash first of all. -/
def opensWithDrive (segment : List Char) : Bool :=
  isDrive (segment.take 2) && (segment.length = 2 || segment[2]? = some '\\')

/-- A path under construction. -/
structure Trail where
  /-- The path so far, last character first. -/
  reversed : List Char
  /-- The path begins with a drive. -/
  drive : Bool := false

/-- The path without its last segment.  The first slash and a drive stay. -/
def parent (reversed : List Char) : List Char :=
  match reversed with
  | '/' :: rest =>
      let name := (rest.takeWhile (· ≠ '/')).reverse
      let above := rest.dropWhile (· ≠ '/')
      if above.isEmpty || opensWithDrive name then reversed else above
  | _ => reversed

/-- Set a slash behind a drive that goes straight on. -/
def splitDrive : List Char -> List Char
  | first :: letter :: ':' :: next :: rest =>
      if letter.isAlpha then first :: letter :: ':' :: '/' :: next :: rest
      else first :: letter :: ':' :: next :: rest
  | path => path

/-- Add the first segment of a file path, in which a drive may be named. -/
def addFirst (trail : Trail) (segment : List Char) : Trail :=
  if trail.reversed = ['/'] && isDrive segment then
    { reversed := ':' :: segment.take 1 ++ ['/'], drive := true }
  else { trail with reversed := (splitDrive (trail.reversed ++ segment)).reverse }

/-- Add a segment that stands for itself. -/
def addPlain (family : Family) (trail : Trail) (segment : List Char) : Trail :=
  if family = .file && trail.reversed.length ≤ 1 then addFirst trail segment
  else { trail with reversed := segment.reverse ++ trail.reversed }

/-- Add the next segment, without the slash behind it. -/
def add (family : Family) (trail : Trail) (segment : List Char) : Trail × Bool :=
  match points? segment with
  | some 1 => (trail, false)
  | some 2 => ({ trail with reversed := parent trail.reversed }, false)
  | _ => (addPlain family trail segment, true)

/-- Add all segments.  Each but the last one has a slash behind it; segments of
points leave the slash that they stand behind. -/
def addAll (family : Family) (trail : Trail) : List (List Char) -> Trail
  | [] => trail
  | [last] => (add family trail last).1
  | segment :: rest =>
      let (next, named) := add family trail segment
      addAll family (if named then { next with reversed := '/' :: next.reversed } else next) rest

/-- The path of a file has one slash in front. -/
def settle (family : Family) (path : List Char) : List Char :=
  if family = .file then '/' :: path.dropWhile (· = '/') else path

def dropSlash (family : Family) : List Char -> List Char
  | [] => []
  | c :: rest => if family.isSlash c then rest else c :: rest

/-- Read a path.  It starts with a slash whether or not the text does, except
that a scheme that is not known may have an empty path. -/
def read (family : Family) (text : List Char) : Trail :=
  if text.isEmpty && !family.isKnown then { reversed := [] }
  else
    addAll family { reversed := ['/'] }
      (((dropSlash family text).splitOnP family.isSlash).map (Percent.encode Percent.path))

end Path
end Address
end CardTable
