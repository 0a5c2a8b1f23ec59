import ChatChannel.Text.Blank

/-!
# ChatChannel.Path

Slash-separated path texts: their components, the last name and its extension, the parent, and
joining. Empty components and dots after the first component do not count.
-/

namespace ChatChannel.Path

open Text

/-- The path starts at the root. -/
def isAbsolute (path : String) : Bool :=
  path.toList.head? = some '/'

/-- The components of a path with the empty ones, without the slash that makes it absolute. -/
def body (path : String) : List (List Char) :=
  match path.toList with
  | '/' :: rest => pieces '/' rest
  | cs => pieces '/' cs

/-- A component that names nothing: an empty one or a dot. -/
def isIdle (name : List Char) : Bool :=
  name = [] || name = ['.']

/-- The components that count. A relative path that starts with a dot keeps it. -/
def components (path : String) : List (List Char) :=
  match body path with
  | [] => []
  | first :: rest =>
    let kept := rest.filter fun name => !isIdle name
    if first = [] || (isAbsolute path && isIdle first) then kept else first :: kept

/-- The name of the file or directory that the path leads to, unless it ends at the root or in a
step that is no name. -/
def fileName? (path : String) : Option (List Char) :=
  match (components path).getLast? with
  | none => none
  | some name => if name = ['.'] || name = ['.', '.'] then none else some name

/-- The part of the last name after its last dot. A name whose only dot is its first character has
none. -/
def extension? (path : String) : Option (List Char) :=
  match fileName? path with
  | none => none
  | some name =>
    match cutLast '.' name with
    | none => none
    | some ([], _) => none
    | some (_, after) => some after

/-- A text made of components. -/
def ofBody (absolute : Bool) (names : List (List Char)) : String :=
  let lead := if absolute then ['/'] else []
  String.ofList (lead ++ List.intercalate ['/'] names)

/-- Drops the components at the end that do not count; `names` is in reverse. -/
def dropIdle (absolute : Bool) : List (List Char) → List (List Char)
  | [] => []
  | [name] => if name = [] || (absolute && isIdle name) then [] else [name]
  | name :: rest => if isIdle name then dropIdle absolute rest else name :: rest

/-- The path without its last component; the root and the empty path have no parent. -/
def parent? (path : String) : Option String :=
  let absolute := isAbsolute path
  match dropIdle absolute (body path).reverse with
  | [] => none
  | _ :: rest => some (ofBody absolute (dropIdle absolute rest).reverse)

/-- The path followed by its parent, the parent of that, and so on. -/
def ancestorsWithin : Nat → String → List String
  | 0, path => [path]
  | fuel + 1, path =>
    match parent? path with
    | none => [path]
    | some up => path :: ancestorsWithin fuel up

/-- The path and all its ancestors, nearest first. -/
def ancestors (path : String) : List String :=
  ancestorsWithin path.length path

/-- The second path seen from the first one; an absolute one stands for itself. -/
def join (base path : String) : String :=
  if isAbsolute path then path
  else
    match base.toList.getLast? with
    | none => path
    | some '/' => base ++ path
    | some _ => base ++ "/" ++ path

end ChatChannel.Path
