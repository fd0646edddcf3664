import Formwright.Uri.Host

/-!
Which texts are addresses of resources: a scheme, a colon, and what the scheme
asks for. The schemes of the web need a host, files may have one, and every other
scheme takes whatever follows, but a host behind two slashes must be one. Blanks
at the ends, tabs and line breaks count for nothing.
-/

namespace Formwright.Uri

/-- What a scheme asks for. -/
inductive Family where
  | web
  | file
  | other
  deriving DecidableEq

def isLetter (c : CodePoint) : Bool :=
  97 ≤ c.asciiLower.value && c.asciiLower.value ≤ 122

/-- A letter, then letters, digits and a few marks. -/
def isScheme : Text → Bool
  | [] => false
  | c :: rest => isLetter c && rest.all fun c => isLetter c || c.isDigit || (lit "+-.").contains c

def familyOf (scheme : Text) : Family :=
  let scheme := scheme.asciiLower
  if [lit "http", lit "https", lit "ws", lit "wss", lit "ftp"].contains scheme then .web
  else if scheme = lit "file" then .file
  else .other

def isSlash (c : CodePoint) : Bool :=
  c == .scalar '/' || c == .scalar '\\'

/-- Whether a code point ends the part with the host. -/
def endsAuthority (family : Family) (c : CodePoint) : Bool :=
  c == .scalar '/' || c == .scalar '?' || c == .scalar '#' ||
    (family != .other && c == .scalar '\\')

/-- The host before the first colon outside brackets, and what follows it. -/
def cutHost (inBrackets : Bool) : Text → Text × Text
  | [] => ([], [])
  | c :: rest =>
    if c = .scalar ':' ∧ !inBrackets then ([], c :: rest)
    else
      let inBrackets := c = .scalar '[' ∨ (inBrackets ∧ c ≠ .scalar ']')
      let (host, behind) := cutHost inBrackets rest
      (c :: host, behind)

/-- The part behind the last occurrence of `mark` and, when there is one, the part before it. -/
def cutAtLast (mark : CodePoint) (t : Text) : Option Text × Text :=
  match Text.cutAt mark t.reverse with
  | (behind, before) => (before.map List.reverse, behind.reverse)

/-- Whether what follows a host is nothing, or a colon and a number below 65536, which may be
left out. -/
def isHostEnd : Text → Bool
  | [] => true
  | _ :: digits =>
    let digits := digits.takeWhile (· != .scalar '\\')
    digits.all (·.isDigit) && Numeral.valueOf (digitValues digits) < 65536

/-- Whether a host that may be preceded by a user fits a scheme. `isLast` tells that nothing
follows it. -/
def isAuthority (family : Family) (isLast : Bool) (t : Text) : Bool :=
  let (user, place) := cutAtLast (.scalar '@') t
  let (host, behind) := cutHost false place
  let isNamed := user.any fun user => !user.isEmpty && user != lit ":"
  if host.isEmpty then
    let isCutShort := user == some [] && place.isEmpty && !isLast
    family == .other && !isNamed && behind.isEmpty && !isCutShort
  else (if family = .other then isOtherHost host else isWebHost host) && isHostEnd behind

/-- A letter and a colon or a bar. -/
def isDrive : Text → Bool
  | [c, d] => isLetter c && (d == .scalar ':' || d == .scalar '|')
  | _ => false

/-- Whether what follows the colon fits a scheme. -/
def fits (family : Family) (t : Text) : Bool :=
  let authority (t : Text) : Text := t.takeWhile (!endsAuthority family ·)
  match family with
  | .web =>
    let t := t.dropWhile isSlash
    isAuthority .web ((authority t).length == t.length) (authority t)
  | .file =>
    match t with
    | c :: d :: rest =>
      let host := authority rest
      !(isSlash c && isSlash d) || host.isEmpty || isDrive host || isWebHost host
    | _ => true
  | .other =>
    match t with
    | .scalar '/' :: .scalar '/' :: t =>
      isAuthority .other ((authority t).length == t.length) (authority t)
    | _ => true

/-- Whether a text is the address of a resource. -/
def isUri (t : Text) : Bool :=
  let t := (t.trimWhere (·.value ≤ 0x20)).filter fun c => !(lit "\t\n\r").contains c
  match Text.cutAt (.scalar ':') t with
  | (scheme, some rest) => isScheme scheme && fits (familyOf scheme) rest
  | _ => false

end Formwright.Uri
