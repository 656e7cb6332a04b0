import ValidationReport.Text.Basic

/-!
# Targets

A request is addressed to a target: a path, perhaps with a scheme and an authority in front of it
and a query or a fragment after it.  Only the path decides who answers.

## Main definitions

* `Target.path` — the path of a target, in which steps up and escapes are resolved.
-/

namespace ValidationReport.Target

/-- What stands before a query or a fragment. -/
def address (target : Text) : Text :=
  target.takeWhile fun c => c != ('?' : Code) && c != ('#' : Code)

/-- A slash, which separates the steps of a path. -/
def isSlash (c : Code) : Bool := c == ('/' : Code)

def isLetter (c : Code) : Bool :=
  (0x41 ≤ c.val && c.val ≤ 0x5A) || (0x61 ≤ c.val && c.val ≤ 0x7A)

/-- A code point of the name of a scheme. -/
def isSchemeCode (c : Code) : Bool :=
  isLetter c || c.isDigit || c == ('+' : Code) || c == ('-' : Code) || c == ('.' : Code)

/-- Whether an address begins with a scheme, and what follows.  The name of a scheme begins with a
letter and ends with a colon. -/
def splitScheme (address : Text) : Bool × Text :=
  match address.dropWhile isSchemeCode with
  | colon :: rest =>
    if colon = ':' ∧ address.head?.any isLetter then (true, rest) else (false, address)
  | [] => (false, address)

/-- The authority that two slashes announce, empty if there is none, and the path after it. -/
def splitAuthority (address : Text) : Text × Text :=
  if Text.beginsWith address "//" then
    ((address.drop 2).takeWhile fun c => !isSlash c, (address.drop 2).dropWhile fun c => !isSlash c)
  else ([], address)

/-- The path of an address with its steps and escapes as written.  Only an address with a scheme
and an authority keeps all the slashes at its start; any other path begins with one. -/
def rooted (address : Text) : Text :=
  let (hasScheme, rest) := splitScheme address
  let (authority, rest) := splitAuthority rest
  if hasScheme && !authority.isEmpty then rest else ('/' : Code) :: rest.dropWhile isSlash

/-- The steps of a path, the first of which begins with the code points read so far, the latest
first. -/
def stepsFrom (step : Text) : Text → List Text
  | [] => [step.reverse]
  | c :: rest => if isSlash c then step.reverse :: stepsFrom [] rest else stepsFrom (c :: step) rest

/-- The steps that are taken, the latest first, after one more: a point stays, and two points go
back one step unless only the root is left. -/
def take (taken : List Text) (step : Text) : List Text :=
  if step = "." then taken
  else if step = ".." then (if taken = [[]] then taken else taken.tail)
  else step :: taken

/-- A path with its escapes decoded.  A percent sign that begins no escape stays, and an octet that
is no ASCII character, which no resource has in its path, becomes the code point of its number. -/
def unescaped : Text → Text
  | c :: a :: b :: rest =>
    match c == ('%' : Code), a.hexDigit?, b.hexDigit? with
    | true, some high, some low => Code.ofNat (high * 16 + low) :: unescaped rest
    | _, _, _ => c :: unescaped (a :: b :: rest)
  | t => t

/-- The path of a target: its points are resolved, and its escapes are decoded, those that decoding
brings about as well. -/
def path (target : Text) : Text :=
  let taken := (stepsFrom [] (rooted (address target))).foldl take []
  unescaped (unescaped (Text.joined "/" taken.reverse))

end ValidationReport.Target
