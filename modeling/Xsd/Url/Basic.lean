import Xsd.Url.Host
import Xsd.Url.Path

/-!
# Addresses

Addresses of resources: reading them, alone or against a base, and writing them. A scheme that has
rules of its own for hosts and paths is called special here.
-/

namespace Xsd

/-- The part of an address that names a host. -/
structure Url.Authority where
  /-- The user and the password, coded, with what separates them from the host. -/
  credentials : String
  host : Option Url.Host
  port : Option Nat
deriving DecidableEq, Repr, Inhabited

structure Url where
  scheme : String
  authority : Option Url.Authority
  path : Url.Path
  query : Option String
  fragment : Option String
deriving DecidableEq, Repr, Inhabited

namespace Url

def defaultPort? : String → Option Nat
  | "http" => some 80
  | "ws" => some 80
  | "https" => some 443
  | "wss" => some 443
  | "ftp" => some 21
  | _ => none

def isSpecial (scheme : String) : Bool := scheme == "file" || (defaultPort? scheme).isSome

/-! ## Writing -/

def Authority.render (a : Authority) : String :=
  a.credentials ++ (a.host.map Host.render).getD "" ++
    (a.port.map fun p => s!":{p}").getD ""

def render (u : Url) : String :=
  let authority := match u.authority with
    | some a => "//" ++ a.render
    | none =>
      -- a path that starts with an empty name would read as an authority
      match u.path with
      | .segments ("" :: _ :: _) => "/."
      | _ => ""
  u.scheme ++ ":" ++ authority ++ u.path.render ++
    (u.query.map ("?" ++ ·)).getD "" ++ (u.fragment.map ("#" ++ ·)).getD ""

/-! ## Paths -/

/-- Read names behind those of a path. The second result says that the first name is a drive. -/
def readPath (scheme : String) (path : Names) (cs : List Char) : Path × Bool × List Char :=
  let file := scheme == "file"
  let (names, rest) := path.read (isSpecial scheme) file [] cs
  (names.toPath file, names.onDrive, rest)

/-- The path after an authority. -/
def readPathStart (scheme : String) (cs : List Char) : Path × Bool × List Char :=
  let special := isSpecial scheme
  match cs.dropWhile isIgnored with
  | c :: rest =>
    if c == '/' || (special && c == '\\') then readPath scheme .start rest
    else if !special && (c == '?' || c == '#') then (.segments [], false, cs)
    else readPath scheme .start cs
  | [] => (.segments (if special then [""] else []), false, [])

/-! ## Query and fragment -/

def readQuery (scheme : String) (cs : List Char) : String × List Char :=
  let reserved := if isSpecial scheme then reservedInSpecialQuery else reservedInQuery
  (String.ofList (encode reserved (cs.takeWhile (· != '#'))), cs.dropWhile (· != '#'))

/-- Complete an address by the query and the fragment that are left. -/
def finish (u : Url) (cs : List Char) : Url :=
  let cs := visible cs
  let (query, rest) : Option String × List Char := match cs with
    | '?' :: rest => let (q, rest) := readQuery u.scheme rest; (some q, rest)
    | _ => (none, cs)
  let fragment := match rest with
    | '#' :: rest => some (String.ofList (encode reservedInFragment rest))
    | _ => none
  { u with query := query, fragment := fragment }

/-! ## Authorities -/

/-- The character ends an authority. -/
def endsAuthority (special : Bool) (c : Char) : Bool :=
  c == '/' || c == '?' || c == '#' || (special && c == '\\')

/-- The parts before and after the last mark. -/
def cutLast (mark : Char) (cs : List Char) : Option (List Char × List Char) :=
  (Text.cutList mark cs.reverse).map fun p => (p.2.reverse, p.1.reverse)

/-- The coded user and password, and the sign that ends them. -/
def credentials (cs : List Char) : String :=
  let coded (cs : List Char) : List Char := encode reservedInUserinfo cs
  let (user, password) := (Text.cutList ':' cs).getD (cs, [])
  if user.isEmpty && password.isEmpty then ""
  else
    String.ofList
      (coded user ++ (if password.isEmpty then [] else ':' :: coded password) ++ ['@'])

/-- Split the port off a host: the first colon outside brackets. -/
def splitPort (inside : Bool) : List Char → List Char × Option (List Char)
  | [] => ([], none)
  | c :: cs =>
    if c == ':' && !inside then ([], some cs)
    else
      let inside := if c == '[' then true else if c == ']' then false else inside
      let (host, port) := splitPort inside cs
      (c :: host, port)

/-- The number of a port up to a backslash; an empty one, or the default of the scheme, is left out.
What is left is the start of the path. -/
def readPort (scheme : String) (cs : List Char) : Option (Option Nat × List Char) :=
  let digits := cs.takeWhile Text.isDigit
  let rest := cs.dropWhile Text.isDigit
  if rest.head?.any (· != '\\') then none
  else if digits.isEmpty then some (none, rest)
  else
    (Text.digits? digits).bind fun n =>
      if n < 65536 then some (if some n == defaultPort? scheme then none else some n, rest)
      else none

/-- The authority, which stands before a path. -/
def readAuthority (scheme : String) (cs : List Char) : Option (Authority × List Char) := do
  let special := isSpecial scheme
  let belongs (c : Char) : Bool := !(endsAuthority special c)
  let text := cs.takeWhile belongs
  let rest := cs.dropWhile belongs
  let user := cutLast '@' text
  let (creds, text) := match user with
    | some (before, after) => (credentials before, after)
    | none => ("", text)
  -- an empty name for the user needs a host after it, unless there is nothing at all
  if user == some ([], []) && !rest.isEmpty then none
  let (host, port) := splitPort false text
  if host.isEmpty then
    if special || creds != "" || port.isSome then none else some (⟨"", none, none⟩, rest)
  else
    let host ← if special then Host.parse host else Host.parseOpaque host
    let (port, after) ← readPort scheme (port.getD [])
    some (⟨creds, some host, port⟩, after ++ rest)

/-! ## Reading -/

def isSlash (c : Char) : Bool := c == '/' || c == '\\'

/-- Read what follows two slashes. -/
def afterSlashes (scheme : String) (cs : List Char) : Option Url := do
  let (authority, rest) ← readAuthority scheme cs
  let (path, _, rest) := readPathStart scheme rest
  some (finish ⟨scheme, some authority, path, none, none⟩ rest)

/-- Read a fragment alone, or nothing at all. -/
def withFragment (base : Url) (cs : List Char) : Url :=
  match visible cs with
  | _ :: rest =>
    { base with fragment := some (String.ofList (encode reservedInFragment rest)) }
  | [] => { base with fragment := none }

/-- Read a reference without a scheme against an address that is none of a file. -/
def readRelative (base : Url) (cs : List Char) : Option Url :=
  let rooted (path : Names) (cs : List Char) : Url :=
    let (path, _, rest) := readPath base.scheme path cs
    finish { base with path := path } rest
  match cs with
  | [] => some (withFragment base cs)
  | '#' :: _ => some (withFragment base cs)
  | '?' :: _ => some (finish base cs)
  | '/' :: '/' :: rest => afterSlashes base.scheme rest
  | c :: rest =>
    if isSlash c then
      if rest.head?.any isSlash then afterSlashes base.scheme (cs.dropWhile isSlash)
      else some (rooted .start rest)
    else some (rooted (.parent false base.path.names) cs)

/-- The host of a file, and whether there is one at all: a drive is the start of a path. -/
def readFileHost (cs : List Char) : Option (Option Host × List Char) := do
  let isEnd (c : Char) : Bool := isSlash c || c == '?' || c == '#'
  let text := visible (cs.takeWhile (!isEnd ·))
  let rest := cs.dropWhile (!isEnd ·)
  if isDrive text then some (none, cs)
  else if text.isEmpty then some (none, rest)
  else
    match ← Host.parse text with
    | .domain "localhost" => some (none, rest)
    | host => some (some host, rest)

/-- Complete an address of a file. -/
def fileUrl (host : Option Host) (path : Path) (rest : List Char) : Url :=
  finish ⟨"file", some ⟨"", host, none⟩, path, none, none⟩ rest

/-- Read an address of a file after its scheme. A drive takes the place of a host. -/
def readFile (base : Option Url) (cs : List Char) : Option Url := do
  match cs.dropWhile isIgnored with
  | c :: rest =>
    if isSlash c then
      match rest.dropWhile isIgnored with
      | d :: after =>
        if isSlash d then
          let (host, rest) ← readFileHost after
          let (path, onDrive, rest) :=
            if host.isSome then readPathStart "file" rest else readPath "file" .start rest
          some (fileUrl (if onDrive then none else host) path rest)
        else some (afterSlash rest)
      | [] => some (afterSlash rest)
    else
      match base with
      | none => some (alone cs)
      | some b =>
        if c == '#' then some (withFragment b cs)
        else if c == '?' then some (finish b (visible cs))
        else if startsWithDrive (visible cs) then some (alone cs)
        else
          let (path, _, rest) := readPath "file" (.parent true b.path.names) cs
          some (finish { b with path := path } rest)
  | [] =>
    match base with
    | some b => some (withFragment b [])
    | none => some (alone cs)
where
  /-- The path starts here. -/
  alone (cs : List Char) : Url :=
    let (path, _, rest) := readPath "file" .start cs
    fileUrl none path rest
  /-- A path after one slash is on the drive of the base, or else on its host. -/
  afterSlash (cs : List Char) : Url :=
    let drive := (base.bind fun b => b.path.names.head?).filter isColonDrive
    let (host, start) : Option Host × Names :=
      if startsWithDrive (visible cs) then (none, .start)
      else
        match drive with
        | some drive => (none, ⟨["", drive], false⟩)
        | none => (base.bind fun b => b.authority.bind (·.host), .start)
    let (path, _, rest) := readPath "file" start cs
    fileUrl host path rest

/-- The scheme in lower case, and what follows its colon. -/
def readScheme : List Char → Option (String × List Char)
  | [] => none
  | c :: cs =>
    if isLetter c then
      (Text.cutList ':' (c :: cs)).bind fun (scheme, rest) =>
        let scheme := visible scheme
        if scheme.all fun c => isLetter c || Text.isDigit c || c == '+' || c == '-' || c == '.' then
          some (String.ofList (scheme.map Char.toLower), rest)
        else none
    else none

/-- Read an address after its scheme. -/
def readAfterScheme (base : Option Url) (scheme : String) (cs : List Char) : Option Url :=
  let same := base.filter (·.scheme == scheme)
  if scheme == "file" then readFile same cs
  else
    let cs := visible cs
    if isSpecial scheme then
      let slashes := (cs.takeWhile isSlash).length
      match same with
      | some b => if slashes < 2 then readRelative b cs else afterSlashes scheme (cs.drop slashes)
      | none => afterSlashes scheme (cs.drop slashes)
    else
      match cs with
      | '/' :: '/' :: rest => afterSlashes scheme rest
      | '/' :: rest =>
        let (path, _, rest) := readPath scheme .start rest
        some (finish ⟨scheme, none, path, none, none⟩ rest)
      | _ =>
        let text := cs.takeWhile fun c => c != '?' && c != '#'
        some (finish ⟨scheme, none, .plain (String.ofList (encode [] text)), none, none⟩
          (cs.drop text.length))

/-- Control characters and blanks at the ends do not count. -/
def trim (cs : List Char) : List Char :=
  let isOuter (c : Char) : Bool := c.toNat ≤ 0x20
  ((cs.dropWhile isOuter).reverse.dropWhile isOuter).reverse

/-- Read an address; a relative one needs a base that has a path with names. -/
def read (base : Option Url) (text : String) : Option Url :=
  let cs := trim text.toList
  match readScheme cs with
  | some (scheme, rest) => readAfterScheme base scheme rest
  | none =>
    base.bind fun b =>
      if cs.head? == some '#' then some (withFragment b cs)
      else
        match b.path with
        | .plain _ => none
        | .segments _ =>
          if b.scheme == "file" then readFile base cs else readRelative b (visible cs)

/-- Read an address that stands alone. -/
def parse (text : String) : Option Url := read none text

/-- The address that a reference means where the base is in force. -/
def join (base : Url) (reference : String) : Option Url := read (some base) reference

/-- The bytes of the path that an address names, if it has no host but this machine. -/
def filePath? (u : Url) : Option (List UInt8) :=
  match u.path with
  | .plain _ => none
  | .segments names =>
    let host := u.authority.bind (·.host)
    if host.isSome && host != some (.domain "localhost") then none
    else
      let bytes := names.flatMap fun name => 0x2F :: decode name.toList
      let drive : Bool := match bytes.reverse with
        | last :: letter :: _ :: _ =>
          isDrive [Char.ofNat letter.toNat, Char.ofNat last.toNat]
        | _ => false
      some (if drive then bytes ++ [0x2F] else bytes)

end Url

end Xsd
