import LayerMessaging.Url.Percent

namespace LayerMessaging.Url

inductive SchemeKind where
  | special
  | file
  | other
  deriving DecidableEq, Repr

def SchemeKind.isSpecial (kind : SchemeKind) : Bool := kind ≠ .other

namespace UrlPath

def isDotSegment (segment : List Char) : Bool :=
  [".", "%2e", "%2E"].contains (String.ofList segment)

def isDoubleDotSegment (segment : List Char) : Bool :=
  ["..", "%2e%2e", "%2e%2E", "%2E%2e", "%2E%2E", "%2e.", "%2E.", ".%2e", ".%2E"].contains
    (String.ofList segment)

/-- A letter and a colon or a bar, alone or before the end of a segment. -/
def startsWithDrive (cs : List Char) : Bool :=
  match cs with
  | [c, d] => c.isAlpha && (d = ':' || d = '|')
  | c :: d :: e :: _ => c.isAlpha && (d = ':' || d = '|') && ['/', '\\', '?', '#'].contains e
  | _ => false

def isDrive (segment : List Char) : Bool := segment.length = 2 && startsWithDrive segment

def isNormalDrive (segment : List Char) : Bool := isDrive segment && segment.getLast? = some ':'

def endsWithSlash (path : List Char) : Bool := path.getLast? = some '/'

def throughLastSlash (path : List Char) : List Char :=
  (path.reverse.dropWhile (· ≠ '/')).reverse

/-- Drops the last slash, unless it is the first of the path or the one behind a drive letter. -/
def dropSlash (path : List Char) : List Char :=
  if endsWithSlash path then
    let front := throughLastSlash path.dropLast
    if front.isEmpty then path
    else
      let tail := path.drop (front.length - 1)
      match tail with
      | c :: rest => if c = '/' && startsWithDrive rest then path else path.dropLast
      | [] => path.dropLast
  else path

/-- Drops the last segment; a file's drive letter stays. -/
def dropSegment (kind : SchemeKind) (path : List Char) : List Char :=
  let front := throughLastSlash path
  if kind = .file && isNormalDrive (path.drop front.length) then path else front

/-- Ends the segment that starts at a position, with the slash behind it if there is one. Tells also
whether the segment is a drive letter, before which a file has no host. -/
def endSegment (kind : SchemeKind) (path : List Char) (start : Nat) (slash : Bool) :
    List Char × Bool :=
  let segment := path.drop start
  let front := path.take start
  let behind := if slash then ['/'] else []
  if isDoubleDotSegment segment then
    let shorter := dropSegment kind (dropSlash front)
    (if slash && !endsWithSlash shorter then shorter ++ ['/'] else shorter, false)
  else if isDotSegment segment then
    (if endsWithSlash front then front else front ++ ['/'], false)
  else if kind = .file && start = 1 && isDrive segment then
    (front ++ segment.take 1 ++ ':' :: behind, true)
  else (path ++ behind, false)

/-- Tabs and line breaks, which are no part of a URL. -/
def isBreak (c : Char) : Bool := c = '\t' || c = '\n' || c = '\r'

/-- Reads a path up to the query or fragment, and tells whether a drive letter was met. A file's
drive letter that a break cuts off from what follows gets its slash; the segment then goes on behind
the letter. -/
def read (kind : SchemeKind) (cs path : List Char) (start : Nat) (drive broken : Bool) :
    List Char × Bool × List Char :=
  match cs with
  | [] =>
    let (path, met) := endSegment kind path start false
    (path, drive || met, [])
  | c :: rest =>
    if isBreak c then read kind rest path start drive true
    else if c = '?' ∨ c = '#' then
      let (path, met) := endSegment kind path start false
      (path, drive || met, c :: rest)
    else if c = '/' ∨ (c = '\\' ∧ kind.isSpecial) then
      let (path, met) := endSegment kind path start true
      read kind rest path path.length (drive || met) false
    else if broken ∧ kind = .file ∧ isNormalDrive (path.drop 1) then
      read kind rest (path ++ '/' :: Percent.encodeChar Percent.pathSet c) (start + 1) drive false
    else read kind rest (path ++ Percent.encodeChar Percent.pathSet c) start drive false

/-- A file's path has one slash at its front. -/
def oneSlash (path : List Char) : List Char := '/' :: path.dropWhile (· = '/')

end UrlPath

end LayerMessaging.Url
