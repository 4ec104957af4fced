/-!
# Paths

A path is a text whose components are separated by slashes.  Repeated slashes, a slash at the end
and components that are a single dot do not count, except that an absolute path starts with a slash.
Paths are joined and taken apart as texts: nothing is looked up.  Two texts are the same path if they
agree in what does count.
-/

namespace Keyring
namespace Path

/-- Whether a path starts at the root. -/
def isAbsolute (path : String) : Bool :=
  path.toList.head? == some '/'

/-- A path taken from a base directory; an absolute path stands for itself. -/
def join (base path : String) : String :=
  if isAbsolute path then path
  else if base.isEmpty || base.toList.getLast? == some '/' then base ++ path
  else base ++ "/" ++ path

/-- A reversed path without slashes and dots that do not count at its end. -/
def trimReversed : List Char → List Char
  | ['/'] => ['/']
  | '/' :: rest => trimReversed rest
  | '.' :: '/' :: rest => trimReversed ('/' :: rest)
  | s => s

/-- The text of a path up to the end of its last component. -/
def body (path : List Char) : List Char :=
  (trimReversed path.reverse).reverse

/-- The last component of a path. -/
def lastComponent (path : List Char) : List Char :=
  ((body path).reverse.takeWhile (· != '/')).reverse

/-- What stands before the last component of a path. -/
def beforeLast (path : List Char) : List Char :=
  (body path).take ((body path).length - (lastComponent path).length)

/-- The path of the directory that holds a path. -/
def parent? (path : String) : Option String :=
  let name := lastComponent path.toList
  if name.isEmpty then none else some (String.ofList (body (beforeLast path.toList)))

/-- The last component, when it is the name of a file. -/
def fileName? (path : String) : Option (List Char) :=
  let name := lastComponent path.toList
  if name.isEmpty || name == ['.', '.'] || name == ['.'] then none else some name

/-- A file name without its extension; a dot at its start begins none. -/
def stem (name : List Char) : List Char :=
  let extension := (name.reverse.takeWhile (· != '.')).reverse
  let rest := name.take (name.length - extension.length - 1)
  if extension.length == name.length || rest.isEmpty then name else rest

/-- The path whose file name has the extension `tmp` in the place of its own. -/
def temporary (path : String) : String :=
  match fileName? path with
  | none => path
  | some name => String.ofList (beforeLast path.toList ++ stem name ++ ['.', 't', 'm', 'p'])

/-- The components of a path that count when it is looked up. -/
def components (path : String) : List String :=
  ((path.toList.splitOn '/').filter (!·.isEmpty)).map String.ofList

/-- What makes two paths the same: whether they are absolute, and the components that count. -/
structure Key where
  absolute : Bool
  names : List String
deriving DecidableEq, Repr

/-- The components of a path without the dots that do not count; a dot at the start of a relative path
does. -/
def plainNames (absolute : Bool) (names : List String) : List String :=
  match absolute, names with
  | false, "." :: rest => "." :: rest.filter (· != ".")
  | _, names => names.filter (· != ".")

/-- What makes a path the same as another. -/
def key (path : String) : Key :=
  ⟨isAbsolute path, plainNames (isAbsolute path) (components path)⟩

instance : Coe String Key := ⟨key⟩

end Path
end Keyring
