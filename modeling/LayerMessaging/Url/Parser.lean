import LayerMessaging.Url.Basic
import LayerMessaging.Url.UrlPath

namespace LayerMessaging.Url

def trimmed (text : String) : List Char :=
  let outer (c : Char) : Bool := c.toNat ≤ 32
  Text.dropEndWhile outer (text.toList.dropWhile outer)

def unbroken (cs : List Char) : List Char := cs.filter (!UrlPath.isBreak ·)

def defaultPort (scheme : String) : Option Nat :=
  [("http", 80), ("ws", 80), ("https", 443), ("wss", 443), ("ftp", 21)].lookup scheme

def schemeKind (scheme : String) : SchemeKind :=
  if scheme = "file" then .file
  else if (defaultPort scheme).isSome then .special
  else .other

def isSchemeChar (c : Char) : Bool := c.isAlphanum || c = '+' || c = '-' || c = '.'

def splitScheme (cs : List Char) : Option (String × List Char) :=
  if cs.head?.any Char.isAlpha then
    match cs.dropWhile isSchemeChar with
    | ':' :: rest => some (String.ofList ((cs.takeWhile isSchemeChar).map Char.toLower), rest)
    | _ => none
  else none

def endsAuthority (kind : SchemeKind) (c : Char) : Bool :=
  c = '/' || c = '?' || c = '#' || (c = '\\' && kind.isSpecial)

/-- The characters before the last `@` of the authority and those behind it. -/
def splitUserinfo (kind : SchemeKind) (cs : List Char) : Option (List Char × List Char) :=
  let authority := cs.takeWhile fun c => !endsAuthority kind c
  if authority.contains '@' then
    let behind := (authority.reverse.takeWhile (· ≠ '@')).length
    let count := authority.length - behind - 1
    some (cs.take count, cs.drop (count + 1))
  else none

/-- User name and password; an empty password counts as none. -/
def credentials (userinfo : List Char) : String × Option String :=
  let encoded (cs : List Char) := String.ofList (Percent.encode Percent.userinfoSet cs)
  match userinfo.dropWhile (· ≠ ':') with
  | _ :: c :: rest => (encoded (userinfo.takeWhile (· ≠ ':')), some (encoded (c :: rest)))
  | _ => (encoded (userinfo.takeWhile (· ≠ ':')), none)

/-- The length of the host: up to a colon outside brackets or the end of the authority. -/
def hostLength (kind : SchemeKind) : (bracket : Bool) → List Char → Nat
  | _, [] => 0
  | bracket, c :: rest =>
    if (c = ':' ∧ !bracket) ∨ endsAuthority kind c then 0
    else 1 + hostLength kind (if c = '[' then true else if c = ']' then false else bracket) rest

def port (scheme : String) (cs : List Char) : Except Error (Option Nat × List Char) :=
  let digits := cs.takeWhile Char.isDigit
  let rest := cs.dropWhile Char.isDigit
  let value := digits.foldl (fun n c => 10 * n + (c.toNat - 48)) 0
  if 65535 < value then .error .invalidPort
  else if rest.head?.any fun c => !(['/', '\\', '?', '#'].contains c) then .error .invalidPort
  else if digits.isEmpty ∨ defaultPort scheme = some value then .ok (none, rest)
  else .ok (some value, rest)

def hostAndPort (scheme : String) (cs : List Char) :
    Except Error (Option Host × Option Nat × List Char) := do
  let kind := schemeKind scheme
  let length := hostLength kind false cs
  let text := cs.take length
  let rest := cs.drop length
  if kind.isSpecial ∧ text.isEmpty then throw .emptyHost
  let host ← if kind.isSpecial then Host.parse text else Host.parseOpaque text
  if text.isEmpty ∧ rest.head? = some ':' then throw .emptyHost
  let (port, rest) ← match rest with
    | ':' :: rest => port scheme rest
    | rest => pure (none, rest)
  return (if text.isEmpty then none else some host, port, rest)

/-- Query and fragment, each present when its mark is. -/
def queryAndFragment (kind : SchemeKind) (cs : List Char) : Option String × Option String :=
  let set := if kind.isSpecial then Percent.specialQuerySet else Percent.querySet
  let fragment (cs : List Char) : Option String :=
    match cs with
    | '#' :: rest => some (String.ofList (Percent.encode Percent.fragmentSet rest))
    | _ => none
  match cs with
  | '?' :: rest =>
    (some (String.ofList (Percent.encode set (rest.takeWhile (· ≠ '#')))),
      fragment (rest.dropWhile (· ≠ '#')))
  | cs => (none, fragment cs)

def finish (scheme : String) (authority : Option Authority) (path rest : List Char) : Url :=
  let (query, fragment) := queryAndFragment (schemeKind scheme) rest
  ⟨scheme, authority, String.ofList path, query, fragment⟩

/-- The path behind an authority. A special URL always has one. -/
def pathBehindAuthority (kind : SchemeKind) (cs : List Char) : List Char × List Char :=
  let read (cs path : List Char) :=
    let (path, _, rest) := UrlPath.read kind cs path path.length false false
    (path, rest)
  match cs with
  | [] => if kind.isSpecial then read [] ['/'] else ([], [])
  | c :: rest =>
    if c = '/' ∨ (kind.isSpecial ∧ c = '\\') then read rest ['/']
    else if kind.isSpecial then read cs ['/']
    else if c = '?' ∨ c = '#' then ([], cs)
    else read cs ['/']

def afterSlashes (scheme : String) (cs : List Char) : Except Error Url := do
  let kind := schemeKind scheme
  let (userinfo, rest) ← match splitUserinfo kind cs with
    | none => pure ([], cs)
    | some ([], rest) =>
      if rest.head?.any (endsAuthority kind) then throw .emptyHost else pure ([], rest)
    | some (userinfo, rest) => pure (userinfo, rest)
  let (username, password) := credentials userinfo
  let (host, port, rest) ← hostAndPort scheme rest
  if host.isNone ∧ (username ≠ "" ∨ password.isSome) then throw .emptyHost
  let (path, rest) := pathBehindAuthority kind rest
  return finish scheme (some ⟨username, password, host, port⟩) path rest

/-- A file's URL from its host and what its path is read from; a host before a drive letter is
dropped. -/
def fileWithPath (scheme : String) (host : Option Host) (cs path : List Char) : Url :=
  let (path, drive, rest) := UrlPath.read .file cs path path.length false false
  finish scheme (some ⟨"", none, if drive then none else host, none⟩) (UrlPath.oneSlash path)
    (unbroken rest)

/-- A file's URL behind its two slashes. The host `localhost` counts as none, and a drive letter is
no host. -/
def fileBehindSlashes (scheme : String) (cs : List Char) : Except Error Url := do
  let text := unbroken (cs.takeWhile fun c => !endsAuthority .file c)
  let behind := cs.dropWhile fun c => !endsAuthority .file c
  if UrlPath.isDrive text then return fileWithPath scheme none cs ['/']
  else if text.isEmpty then return fileWithPath scheme none behind ['/']
  else
    let host ← Host.parse text
    if host = .name "localhost" then return fileWithPath scheme none behind ['/']
    else if behind.head?.any fun c => c = '/' || c = '\\' then
      return fileWithPath scheme (some host) (behind.drop 1) ['/']
    else return fileWithPath scheme (some host) behind ['/']

/-- A file's URL, in which breaks still show where a drive letter ends. -/
def file (scheme : String) (cs : List Char) : Except Error Url :=
  let isSlash (c : Char) : Bool := c = '/' || c = '\\'
  match cs.dropWhile UrlPath.isBreak with
  | [] => .ok (fileWithPath scheme none [] ['/'])
  | c :: rest =>
    if isSlash c then
      match rest.dropWhile UrlPath.isBreak with
      | [] => .ok (fileWithPath scheme none (c :: rest) [])
      | d :: behind =>
        if isSlash d then fileBehindSlashes scheme behind
        else .ok (fileWithPath scheme none (c :: rest) [])
    else .ok (fileWithPath scheme none (c :: rest) ['/'])

/-- A URL of a scheme without meaning here: with an authority, with a path alone, or with an opaque
text in its place. -/
def other (scheme : String) (cs : List Char) : Except Error Url :=
  match cs with
  | '/' :: '/' :: rest => afterSlashes scheme rest
  | '/' :: rest =>
    let (path, _, rest) := UrlPath.read .other rest ['/'] 1 false false
    .ok (finish scheme none path rest)
  | cs =>
    let ends (c : Char) : Bool := c = '?' || c = '#'
    let path := Percent.encode Percent.controlSet (cs.takeWhile (! ends ·))
    .ok (finish scheme none path (cs.dropWhile (! ends ·)))

/-- Reads a URL as browsers do: blanks around and line breaks within are dropped, slashes of the
web's schemes may lean either way or be missing, and each part is encoded as far as its place
requires. -/
def parse (text : String) : Except Error Url :=
  let cs := trimmed text
  match splitScheme (unbroken cs) with
  | none => .error .relativeWithoutBase
  | some (scheme, rest) =>
    match schemeKind scheme with
    | .file => file scheme ((cs.dropWhile (· ≠ ':')).drop 1)
    | .special => afterSlashes scheme (rest.dropWhile fun c => c = '/' ∨ c = '\\')
    | .other => other scheme rest

end LayerMessaging.Url
