import CardTable.Address.Host
import CardTable.Address.Path

namespace CardTable

/-!
# Addresses

An address is a scheme, the place that it leads to, a path, a query and a
fragment.  Joining a room sets the path and the query, so of an address that
was read only the scheme, the place and the fragment are kept.
-/

namespace Address

/-- What stands between the scheme and the path. -/
inductive Site where
  /-- Credentials with the sign behind them, a host, and a port of its own. -/
  | server (credentials : List Char) (host : Host) (port : Option Nat)
  /-- A path without a server.  It is shielded by a point when it would
  otherwise read as a server. -/
  | rooted (shielded : Bool)
  /-- What follows the scheme is no path but one text. -/
  | flat
  deriving DecidableEq, Repr

end Address

structure Address where
  scheme : String
  site : Address.Site
  fragment : Option (List Char)
  deriving DecidableEq, Repr

namespace Address

/-- A tab or line break.  Anywhere in an address it counts for nothing. -/
def isIgnored (c : Char) : Bool :=
  c = '\t' || c = '\n' || c = '\r'

/-- The text without controls and spaces at its ends, and without tabs and line
breaks inside. -/
def cleaned (text : List Char) : List Char :=
  let trim := List.dropWhile fun c : Char => decide (c.toNat ≤ 0x20)
  (trim (trim text).reverse).reverse.filter (!isIgnored ·)

def isSchemeCharacter (c : Char) : Bool :=
  c.isAlphanum || c = '+' || c = '-' || c = '.'

/-- The scheme in lower case and what follows its colon. -/
def splitScheme? (text : List Char) : Option (String × List Char) :=
  match text.head?, text.dropWhile isSchemeCharacter with
  | some first, ':' :: rest =>
      if first.isAlpha then
        some (String.ofList ((text.takeWhile isSchemeCharacter).map Char.toLower), rest)
      else none
  | _, _ => none

def endsServer (family : Family) (c : Char) : Bool :=
  family.isSlash c || c = '?' || c = '#'

/-- The part before the path ends, and the rest: query and fragment. -/
def splitPath (text : List Char) : List Char × List Char :=
  (text.takeWhile fun c => c ≠ '?' && c ≠ '#', text.dropWhile fun c => c ≠ '?' && c ≠ '#')

/-- The fragment: what stands behind the first number sign. -/
def fragmentOf (text : List Char) : Option (List Char) :=
  match text.dropWhile (· ≠ '#') with
  | [] => none
  | _ :: rest => some (Percent.encode Percent.fragment rest)

/-- A user name and password, with a sign behind them unless both are empty. -/
def credentials (text : List Char) : List Char :=
  let user := Percent.encode Percent.userinfo (text.takeWhile (· ≠ ':'))
  let password := Percent.encode Percent.userinfo ((text.dropWhile (· ≠ ':')).drop 1)
  (if password.isEmpty then user else user ++ ':' :: password) ++
    (if user.isEmpty && password.isEmpty then [] else ['@'])

/-- What stands before the last `@` of the server part, if there is one, and
what stands behind it. -/
def splitCredentials (family : Family) (text : List Char) : Option (List Char) × List Char :=
  let server := text.takeWhile (!endsServer family ·)
  if server.contains '@' then
    let behind := (server.reverse.takeWhile (· ≠ '@')).length
    let count := server.length - behind
    (some (server.take (count - 1)), text.drop count)
  else (none, text)

/-- The text of the host and what follows it.  A colon inside brackets belongs
to the host. -/
def splitHost (family : Family) (inside : Bool) : List Char -> List Char × List Char
  | [] => ([], [])
  | c :: rest =>
      if endsServer family c || (c = ':' && !inside) then ([], c :: rest)
      else
        let (host, after) := splitHost family (c = '[' || (inside && c ≠ ']')) rest
        (c :: host, after)

def endsPort (c : Char) : Bool :=
  c = '/' || c = '\\' || c = '?' || c = '#'

/-- Read a port behind its colon, and what follows it.  The port that the
scheme implies counts for none, as does an empty one. -/
def readPort (family : Family) (text : List Char) : Except Fault (Option Nat × List Char) :=
  let digits := text.takeWhile Char.isDigit
  let rest := text.dropWhile Char.isDigit
  let port := (Text.natural? 10 digits).getD 0
  if 65535 < port || (rest.take 1).any (!endsPort ·) then .error .badPort
  else .ok (if digits.isEmpty || family = .server port then none else some port, rest)

def readServer (family : Family) (sign : List Char) (text : List Char) :
    Except Fault (Site × List Char) := do
  let (hostText, rest) := splitHost family false text
  if family.isKnown && hostText.isEmpty then .error .emptyHost
  let host ← if family.isKnown then Host.readDomain hostText else Host.readFree hostText
  if host = .name [] && (rest.head? = some ':' || !sign.isEmpty) then .error .emptyHost
  match rest with
  | ':' :: portText =>
      let (port, after) ← readPort family portText
      return (.server sign host port, after)
  | _ => return (.server sign host none, rest)

def readAuthority (family : Family) (text : List Char) : Except Fault (Site × List Char) :=
  match splitCredentials family text with
  | (none, rest) => readServer family [] rest
  | (some user, rest) =>
      if user.isEmpty && (rest.take 1).any (endsServer family) then .error .emptyHost
      else readServer family (credentials user) rest

/-- The site of a file on a host.  This machine counts for none, and a path
that begins with a drive leaves the host out. -/
def readFileHost (text : List Char) : Except Fault Site :=
  let hostText := text.takeWhile (!endsServer .file ·)
  if hostText.isEmpty || Path.isDrive hostText then .ok (.server [] (.name []) none)
  else do
    let host ← Host.readDomain hostText
    let path := (splitPath (text.drop hostText.length)).1
    if host = .name "localhost".toList || (Path.read .file path).drive then
      return .server [] (.name []) none
    else return .server [] host none

def readFile (text : List Char) : Except Fault Site :=
  match text with
  | first :: second :: rest =>
      if Family.file.isSlash first && Family.file.isSlash second then readFileHost rest
      else .ok (.server [] (.name []) none)
  | _ => .ok (.server [] (.name []) none)

def serverless (text : List Char) : Site :=
  match text with
  | '/' :: _ =>
      .rooted ("//".toList.isPrefixOf (Path.read .other (splitPath text).1).reversed.reverse)
  | _ => .flat

def read (text : String) : Except Fault Address :=
  match splitScheme? (cleaned text.toList) with
  | none => .error .noScheme
  | some (scheme, rest) =>
      match Family.ofScheme scheme with
      | .server port => do
          let (site, after) ←
            readAuthority (.server port) (rest.dropWhile (Family.server port).isSlash)
          return ⟨scheme, site, fragmentOf after⟩
      | .file => do
          let site ← readFile rest
          return ⟨scheme, site, fragmentOf rest⟩
      | .other =>
          match "//".toList.isPrefixOf? rest with
          | some server => do
              let (site, after) ← readAuthority .other server
              return ⟨scheme, site, fragmentOf after⟩
          | none => .ok ⟨scheme, serverless rest, fragmentOf rest⟩

namespace Site

/-- What stands between the colon of the scheme and the path. -/
def text : Site -> List Char
  | server credentials host port =>
      ['/', '/'] ++ credentials ++ host.text ++
        (match port with
        | some port => ':' :: Text.decimal port
        | none => [])
  | rooted shielded => if shielded then ['/', '.'] else []
  | flat => []

end Site

/-- The path that a text makes for an address. -/
def pathText (address : Address) (path : List Char) : List Char :=
  let family := Family.ofScheme address.scheme
  let kept := path.filter (!isIgnored ·)
  match address.site with
  | .flat =>
      if path.head? = some '/' then
        "%2F".toList ++ Percent.encode Percent.controls (kept.drop 1)
      else Percent.encode Percent.controls kept
  | site =>
      if family = .other && (kept.head? = some '?' || kept.head? = some '#') then []
      else if family = .file && site = .server [] (.name []) none
          && !(kept.take 1).any family.isSlash then
        let segments := (kept.splitOnP family.isSlash).map (Percent.encode Percent.path)
        Path.settle family (Path.addAll family { reversed := [] } segments).reversed.reverse
      else Path.settle family (Path.read family kept).reversed.reverse

/-- The query that carries names with their values, as a form does. -/
def formQuery (pairs : List (String × String)) : String :=
  String.intercalate "&" (pairs.map fun (name, value) =>
    String.ofList (Percent.encodeForm name.toList ++ '=' :: Percent.encodeForm value.toList))

/-- The address with the given path and query in place of its own. -/
def join (address : Address) (path query : String) : String :=
  String.ofList
    (address.scheme.toList ++ ':' :: address.site.text ++ address.pathText path.toList ++
      '?' :: query.toList ++
      (match address.fragment with
      | some fragment => '#' :: fragment
      | none => []))

end Address
end CardTable
