import SchemaAtlas.Text.Separated

/-!
# Paths

A `Path` is a root and the names below it.  `Path.ofText` drops empty names and single dots, so that
a path has one written form, `Path.text`; double dots stay, because what they mean can depend on the
directories themselves.  `expandHome` replaces a leading tilde and the name of a user behind it by
the home directory that is known for the user, `relativeTo?` cuts off a directory, and `resolved`
removes double dots the way they act on a tree without links.
-/

namespace SchemaAtlas

/-- What a path starts from.  Two leading slashes are a root of their own, three or more are one. -/
inductive PathRoot where
  | relative
  | slash
  | doubleSlash
  deriving DecidableEq, Inhabited

/-- A path in normal form. -/
structure Path where
  root : PathRoot
  names : List String
  deriving DecidableEq, Inhabited

/-- Why there is no home directory. -/
inductive HomeFault where
  /-- None is known, or what is known cannot be a directory. -/
  | unknownUser
  /-- The name of the user has a null character. -/
  | nullName
  deriving DecidableEq

/-- The home directories that are known. -/
structure Homes where
  /-- That of the user who runs the program. -/
  own : Option String
  /-- Those of users by their names. -/
  ofUser? : String → Option String := fun _ => none

namespace Path

open Text

/-- The root that a text starts with. -/
def rootOf : List Char → PathRoot
  | '/' :: '/' :: '/' :: _ => .slash
  | '/' :: '/' :: _ => .doubleSlash
  | '/' :: _ => .slash
  | _ => .relative

/-- The names in a text, without empty ones and single dots. -/
def namesOf (cs : List Char) : List String :=
  ((cutAt '/' cs).filter fun part => !part.isEmpty && part != ['.']).map .ofList

/-- The path that a text writes. -/
def ofText (s : String) : Path :=
  ⟨rootOf s.toList, namesOf s.toList⟩

/-- The written form of a path. -/
def text (p : Path) : String :=
  match p.root, p.names with
  | .relative, [] => "."
  | .relative, names => joined "/" names
  | .slash, names => "/" ++ joined "/" names
  | .doubleSlash, names => "//" ++ joined "/" names

/-- The path does not depend on a working directory. -/
def isAbsolute (p : Path) : Bool :=
  p.root != .relative

/-- The path `q` seen from `p`. -/
def join (p q : Path) : Path :=
  if q.isAbsolute then q else ⟨p.root, p.names ++ q.names⟩

/-- The directory that holds the path; a root holds itself. -/
def parent (p : Path) : Path :=
  ⟨p.root, p.names.dropLast⟩

/-- The directory that is given as a home.  Slashes at the end do not count, so that nothing stands
for the root; a leading tilde would be a home again. -/
def ofHome (home : String) : Except HomeFault Path :=
  match (home.toList.reverse.dropWhile (· == '/')).reverse with
  | [] => .ok ⟨.slash, []⟩
  | '~' :: _ => .error .unknownUser
  | cs => .ok (ofText (.ofList cs))

/-- The home directory of a user, where no name stands for the user who runs the program. -/
def homeOf (homes : Homes) (user : List Char) : Except HomeFault Path :=
  if user.contains '\x00' then .error .nullName
  else
    match if user.isEmpty then homes.own else homes.ofUser? (.ofList user) with
    | some home => ofHome home
    | none => .error .unknownUser

/-- The path with a leading tilde, and the name of a user behind it, replaced by the home directory
of the user. -/
def expandHome (homes : Homes) (p : Path) : Except HomeFault Path :=
  match p.root, p.names with
  | .relative, first :: rest =>
    match first.toList with
    | '~' :: user => (homeOf homes user).map fun home => ⟨home.root, home.names ++ rest⟩
    | _ => .ok p
  | _, _ => .ok p

/-- The path below a directory, by its names alone. -/
def relativeTo? (p directory : Path) : Option Path :=
  if p.root == directory.root then
    (directory.names.isPrefixOf? p.names).map fun rest => ⟨.relative, rest⟩
  else none

/-- The names without double dots, where `above` are the names in front of them, last first. -/
def withoutDots (above : List String) : List String → List String
  | [] => above.reverse
  | name :: rest =>
    if name == ".." then withoutDots above.tail rest else withoutDots (name :: above) rest

/-- The absolute path without double dots, seen from the directory `base`. -/
def resolved (p base : Path) : Path :=
  let whole := base.join p
  ⟨whole.root, withoutDots [] whole.names⟩

/-- The path itself and every directory above it, nearest first. -/
def andAbove (p : Path) : List Path :=
  (List.range (p.names.length + 1)).map fun n => ⟨p.root, p.names.take (p.names.length - n)⟩

theorem join_of_isAbsolute {p q : Path} (h : q.isAbsolute) : p.join q = q := by
  simp [join, h]

end Path

end SchemaAtlas
