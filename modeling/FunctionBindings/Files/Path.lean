/-!
# Paths

A path is a text of segments separated by slashes. Empty segments and `.` name the place they stand
at, and `..` names the directory above.
-/

namespace FunctionBindings.Path

/-- The parts of a text between slashes. -/
def splitChars : List Char → List (List Char)
  | [] => [[]]
  | c :: rest =>
      if c = '/' then [] :: splitChars rest
      else match splitChars rest with
      | [] => [[c]]
      | part :: parts => (c :: part) :: parts

/-- The segments of a path that name something. -/
def segments (path : String) : List String :=
  ((splitChars path.toList).filter (!·.isEmpty)).map String.ofList

/-- True of a path that ends with a slash, and so names a directory. -/
def endsWithSlash (path : String) : Bool :=
  path.toList.getLast? == some '/'

/-- True of a path that does not depend on the working directory. -/
def isAbsolute (path : String) : Bool :=
  path.toList.head? == some '/'

/-- The path of a file in a directory; an absolute path stays as it is. -/
def join (directory file : String) : String :=
  if isAbsolute file || directory.isEmpty then file
  else if endsWithSlash directory then directory ++ file
  else directory ++ "/" ++ file

/-- The directory that a path's last segment stands in. -/
def parent (path : String) : String :=
  let named := (segments path).dropLast
  let text := "/".intercalate named
  if isAbsolute path then "/" ++ text else text

/-- The part of a path's last segment after its last dot, if something stands before the dot. -/
def extension? (path : String) : Option String :=
  match (segments path).getLast? with
  | none => none
  | some name =>
      if name = ".." then none
      else
        let cs := name.toList
        let after := (cs.reverse.takeWhile (· ≠ '.')).reverse
        if after.length + 1 < cs.length then some (String.ofList after) else none

/-- The characters of a path in reverse, without what is redundant at its end. -/
def dropTail : List Char → List Char
  | '/' :: rest => dropTail rest
  | '.' :: '/' :: rest => dropTail rest
  | cs => cs

/-- A path whose last segment has one more extension. -/
def addExtension (path extension : String) : String :=
  String.ofList (dropTail path.toList.reverse).reverse ++ "." ++ extension

end FunctionBindings.Path
