/-
  URLs.

  Reading a URL forgives much: blanks at the ends and line breaks are dropped,
  a backslash counts as a slash, dots among the names of a path are resolved,
  and what may not stand as it is gets encoded.  Special schemes always have a
  host.

  * `Url.ofText?`: the URL that a text stands for.
  * `Url.text`: the one written form of a URL.
-/
import Concord.Url.Host

namespace Concord

/-- What names the machine of a URL. -/
structure Authority where
  /-- The name and the password of a user as they are written; may be empty. -/
  user : String
  host : Url.Host
  /-- The number of the service, unless it is the one of the scheme. -/
  service : Option Nat
  deriving DecidableEq, Repr

/-- A URL. -/
structure Url where
  scheme : String
  authority : Option Authority
  /-- The path as it is written. -/
  path : String
  query : Option String
  fragment : Option String
  deriving DecidableEq, Repr

namespace Url

/-! ## Schemes -/

/-- The schemes of machines, with the numbers of their services. -/
def schemeServices : List (String × Nat) :=
  [("http", 80), ("https", 443), ("ws", 80), ("wss", 443), ("ftp", 21)]

/-- Whether a scheme is that of files. -/
def isFile (scheme : String) : Bool := scheme == "file"

/-- Whether a scheme is special: that of a machine or of files. -/
def isSpecial (scheme : String) : Bool := isFile scheme || (schemeServices.lookup scheme).isSome

/-- The scheme before a colon, and what follows. -/
def scheme? (cs : List Char) : Option (String × List Char) :=
  let isSchemeChar := fun (c : Char) => c.isAlphanum || c ∈ ['+', '-', '.']
  match (cs.head?.map Char.isAlpha).getD false, cs.dropWhile isSchemeChar with
  | true, ':' :: r => some (String.ofList ((cs.takeWhile isSchemeChar).map Char.toLower), r)
  | _, _ => none

/-! ## Authorities -/

/-- The text before and behind the last at sign, if there is one. -/
def splitUser (cs : List Char) : Option (List Char) × List Char :=
  if cs.contains '@' then
    let behind := (cs.reverse.takeWhile (· != '@')).reverse
    (some (cs.take (cs.length - behind.length - 1)), behind)
  else (none, cs)

/-- A user as written: the name, and the password behind a colon if it is not
    empty. -/
def userText (cs : List Char) : List Char :=
  let name := cs.takeWhile (· != ':')
  let password := (cs.dropWhile (· != ':')).drop 1
  Percent.encode Percent.user name ++
    (if password.isEmpty then [] else ':' :: Percent.encode Percent.user password)

/-- The text of a host and that of a number behind a colon; colons between
    brackets belong to the host. -/
def splitService (inBrackets : Bool) : List Char → List Char × Option (List Char)
  | [] => ([], none)
  | c :: r =>
    if c = ':' ∧ !inBrackets then ([], some r)
    else
      let (host, number) := splitService (c = '[' ∨ (inBrackets ∧ c ≠ ']')) r
      (c :: host, number)

/-- The number of the service of a URL; none where it is missing or that of the
    scheme. -/
def service? (scheme : String) (cs : List Char) : Option (Option Nat) :=
  if cs.isEmpty then some none
  else do
    let n ← number? 10 cs
    if n < 65536 then return if schemeServices.lookup scheme = some n then none else some n
    else none

/-- The authority of a URL, and what follows a backslash that ended the number
    of the service, with the backslash. -/
def authority? (scheme : String) (cs : List Char) : Option (Authority × List Char) := do
  let (user, rest) := splitUser cs
  let (hostText, behind) := splitService false rest
  if hostText.isEmpty ∧ (isSpecial scheme ∨ user.isSome ∨ behind.isSome) then none
  else
    let host ← if isSpecial scheme then Host.ofText? hostText else Host.ofRawText? hostText
    let (number, rest) := (behind.getD []).span (· != '\\')
    let service ← service? scheme number
    return (⟨String.ofList (userText (user.getD [])), host, service⟩, rest)

/-! ## Paths -/

/-- Whether a name stands for the directory itself. -/
def isSingleDot (name : List Char) : Bool :=
  String.ofList (name.map Char.toLower) ∈ [".", "%2e"]

/-- Whether a name stands for the directory above. -/
def isDoubleDot (name : List Char) : Bool :=
  String.ofList (name.map Char.toLower) ∈ ["..", ".%2e", "%2e.", "%2e%2e"]

/-- Whether a name is the letter of a drive, which no name steps above. -/
def isDrive : List Char → Bool
  | [letter, mark] => letter.isAlpha && (mark == ':' || mark == '|')
  | _ => false

/-- Names without the last one, unless that is the letter of a drive. -/
def dropLastName (names : List (List Char)) : List (List Char) :=
  if (names.getLast?.map isDrive).getD false then names else names.dropLast

/-- The names of a path of a file that starts with a name: the letter of a drive
    is written with a colon, and what follows the colon is a name of its own. -/
def driveNames : List Char → List (List Char)
  | [letter, mark] => if isDrive [letter, mark] then [[letter, ':']] else [[letter, mark]]
  | letter :: ':' :: r => if letter.isAlpha then [[letter, ':'], r] else [letter :: ':' :: r]
  | name => [name]

/-- A path of which some names have been read. -/
structure Path where
  names : List (List Char)
  /-- Whether it started with the letter of a drive. -/
  drive : Bool

namespace Path

/-- A path with one more name, which is the last one or not. -/
def step (file isLast : Bool) (p : Path) (name : List Char) : Path :=
  let behind := if isLast then [[]] else []
  if isDoubleDot name then { p with names := dropLastName p.names ++ behind }
  else if isSingleDot name then { p with names := p.names ++ behind }
  else if file && p.names.isEmpty then ⟨driveNames name, p.drive || isDrive name⟩
  else { p with names := p.names ++ [name] }

/-- A path with more names, dots resolved. -/
def walk (file : Bool) : Path → List (List Char) → Path
  | p, [] => p
  | p, name :: r => walk file (p.step file r.isEmpty name) r

/-- A path as it is written. -/
def text (p : Path) : String := String.ofList (p.names.flatMap ('/' :: ·))

end Path

/-- Whether a character ends a name in a path. -/
def endsName (special : Bool) (c : Char) : Bool := c == '/' || (special && c == '\\')

/-- The path of a text behind its first slash. -/
def readPath (special file : Bool) (cs : List Char) : Path :=
  Path.walk file ⟨[], false⟩ ((splitAt (endsName special) cs).map (Percent.encode Percent.path))

/-- The path of a text behind its first slash, as it is written. -/
def pathText (special : Bool) (cs : List Char) : String := (readPath special false cs).text

/-! ## Reading -/

/-- A text without blanks and control characters at its ends, and without tabs
    and line breaks. -/
def cleaned (text : String) : List Char :=
  let drop := fun (cs : List Char) => cs.dropWhile fun c => c.toNat ≤ 0x20
  (drop (drop text.toList).reverse).reverse.filter fun c => !(c ∈ ['\t', '\n', '\r'])

/-- The text before the first of a character, and that behind it, if there is
    one. -/
def cut (mark : Char) (cs : List Char) : List Char × Option (List Char) :=
  match cs.dropWhile (· != mark) with
  | [] => (cs, none)
  | _ :: r => (cs.takeWhile (· != mark), some r)

/-- The host of a URL of a file; the local one is not written. -/
def fileHost? (cs : List Char) : Option Host :=
  if cs.isEmpty then some (.name "")
  else
    (Host.ofText? cs).map fun host => if host = .name "localhost" then .name "" else host

/-- The path of a file as it is written: slashes at its start count once. -/
def filePathText (p : Path) : String :=
  "/" ++ String.ofList (p.text.toList.dropWhile (· == '/'))

/-- The authority and the path of a URL of a file.  A drive takes the place of
    the host. -/
def fileLocation? (body : List Char) : Option (Option Authority × String) :=
  let isPlain := fun c => !endsName true c
  let located := fun host p => (some (Authority.mk "" host none), filePathText p)
  match body with
  | a :: b :: r =>
    let hostText := r.takeWhile isPlain
    if endsName true a ∧ endsName true b ∧ !isDrive hostText then do
      let host ← fileHost? hostText
      let rest := r.dropWhile isPlain
      if host = .name "" then return located host (readPath true true rest)
      else
        let p := readPath true true (rest.drop 1)
        return located (if p.drive then .name "" else host) p
    else if endsName true a ∧ endsName true b then some (located (.name "") (readPath true true r))
    else some (located (.name "") (readPath true true (if endsName true a then b :: r else body)))
  | _ => some (located (.name "") (readPath true true (body.dropWhile (endsName true))))

/-- The authority and the path of a URL. -/
def location? (scheme : String) (body : List Char) : Option (Option Authority × String) :=
  if isFile scheme then fileLocation? body
  else if isSpecial scheme then
    let body := body.dropWhile (endsName true)
    let isPlain := fun c => !endsName true c
    (authority? scheme (body.takeWhile isPlain)).map fun (a, _) =>
      (some a, pathText true ((body.dropWhile isPlain).drop 1))
  else
    match body with
    | '/' :: '/' :: r =>
      (authority? scheme (r.takeWhile (· != '/'))).map fun (a, rest) =>
        match rest, r.dropWhile (· != '/') with
        | [], [] => (some a, "")
        | [], _ :: path => (some a, pathText false path)
        | _, path => (some a, pathText false (rest ++ path))
    | '/' :: r => some (none, pathText false r)
    | _ => some (none, String.ofList (Percent.encode Percent.control body))

/-- The URL that a text stands for. -/
def ofText? (text : String) : Option Url := do
  let (scheme, rest) ← scheme? (cleaned text)
  let (rest, fragment) := cut '#' rest
  let (body, query) := cut '?' rest
  let (authority, path) ← location? scheme body
  let querySet := if isSpecial scheme then Percent.specialQuery else Percent.query
  return {
    scheme := scheme
    authority := authority
    path := path
    query := query.map fun q => String.ofList (Percent.encode querySet q)
    fragment := fragment.map fun f => String.ofList (Percent.encode Percent.fragment f) }

/-! ## Writing -/

/-- An authority as it stands in a URL. -/
def authorityText (a : Authority) : String :=
  (if a.user.isEmpty then "" else a.user ++ "@") ++ a.host.text ++
    (match a.service with
      | some number => s!":{number}"
      | none => "")

/-- The written form of a URL.  A path that starts with two slashes is kept
    apart from an authority. -/
def text (u : Url) : String :=
  u.scheme ++ ":" ++
    (match u.authority with
      | some a => "//" ++ authorityText a
      | none => if u.path.startsWith "//" then "/." else "") ++
    u.path ++ (u.query.elim "" ("?" ++ ·)) ++ (u.fragment.elim "" ("#" ++ ·))

/-- Whether a URL names a host. -/
def hasHost (u : Url) : Bool := u.authority.any fun a => a.host ≠ .name ""

/-- A URL without the user that it names. -/
def withoutUser (u : Url) : Url :=
  { u with authority := u.authority.map fun a => { a with user := "" } }

end Url

end Concord
