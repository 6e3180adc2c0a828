import LayerMessaging.Url.Host

namespace LayerMessaging

structure Url.Authority where
  username : String
  password : Option String
  /-- Absent where a scheme allows an empty host. -/
  host : Option Url.Host
  /-- Absent where it is the scheme's own. -/
  port : Option Nat
  deriving DecidableEq, Repr

/-- A URL; its parts are encoded. -/
structure Url where
  scheme : String
  authority : Option Url.Authority
  path : String
  query : Option String
  fragment : Option String
  deriving DecidableEq, Repr

namespace Url

def Authority.chars (a : Authority) : List Char :=
  let user := a.username.toList ++ (match a.password with
    | some password => ':' :: password.toList
    | none => [])
  (if user.isEmpty then [] else user ++ ['@'])
    ++ (match a.host with
      | some host => host.chars
      | none => [])
    ++ (match a.port with
      | some port => ':' :: Nat.toDigits 10 port
      | none => [])

/-- The path as it is written: without an authority, a path that starts with two slashes is kept
apart from one by a dot. -/
def pathChars (url : Url) : List Char :=
  match url.authority, url.path.toList with
  | none, '/' :: '/' :: rest => '/' :: '.' :: '/' :: '/' :: rest
  | _, path => path

def text (url : Url) : String :=
  String.ofList <|
    url.scheme.toList ++ ':' :: (match url.authority with
      | some authority => '/' :: '/' :: authority.chars
      | none => [])
    ++ url.pathChars
    ++ (match url.query with
      | some query => '?' :: query.toList
      | none => [])
    ++ (match url.fragment with
      | some fragment => '#' :: fragment.toList
      | none => [])

def isWeb (url : Url) : Bool := url.scheme = "http" || url.scheme = "https"

def requestLimit : Nat := 65534

/-- Whether a request can name the URL: some characters that a host may hold have no place there. -/
def isRequestable (url : Url) : Bool :=
  let fits : Option Host → Bool
    | some (.name text) => !(text.toList.any ['"', '\x60', '\x7b', '\x7d'].contains)
    | _ => true
  url.isWeb && (url.authority.map (·.host)).all fits && url.text.length ≤ requestLimit

/-- The URL of a request, whose credentials are sent apart from it if they can be decoded. -/
def withoutCredentials (url : Url) : Url :=
  let decodes (text : String) : Bool :=
    (Text.ofUtf8? (Percent.decode (Text.utf8 text))).isSome
  match url.authority with
  | some a =>
    if decodes a.username && (a.username ≠ "" || a.password.any decodes) then
      { url with authority := some { a with username := "", password := none } }
    else url
  | none => url

end Url

end LayerMessaging
