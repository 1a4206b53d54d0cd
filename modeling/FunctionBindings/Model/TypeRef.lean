import FunctionBindings.Text.Dotted

/-!
# Type references

A signature refers to types by name, possibly with type arguments, to arrays, and to nothing. A type
that the front-end could not resolve stays as its text. Keyword aliases stand for their framework
names: `TypeRef.fullName` expands them at every depth.
-/

namespace FunctionBindings

/-- A reference to a type in a signature. -/
inductive TypeRef where
  /-- No value. -/
  | void
  /-- A type given by its path, with type arguments. -/
  | named (path : String) (generics : List TypeRef)
  /-- An array of one dimension. -/
  | array (element : TypeRef)
  /-- A type that could not be resolved, as it was written. -/
  | unresolved (text : String)
  deriving Inhabited

namespace TypeRef

/-- The keywords that stand for framework types. -/
def aliases : List (String × String) :=
  [("string", "System.String"), ("byte", "System.Byte"), ("object", "System.Object"),
   ("bool", "System.Boolean"), ("int", "System.Int32"), ("long", "System.Int64"),
   ("double", "System.Double"), ("void", "System.Void")]

/-- A path with a keyword replaced by the framework type that it stands for. -/
def expandAlias (path : String) : String :=
  match aliases.find? (·.1 = path) with
  | some entry => entry.2
  | none => path

mutual

/-- The name of a type with all aliases expanded, type arguments in angle brackets and `[]` behind
the element of an array. -/
def fullName : TypeRef → String
  | .void => "System.Void"
  | .named path [] => expandAlias path
  | .named path (generic :: generics) =>
      expandAlias path ++ "<" ++ fullName generic ++ fullNames generics ++ ">"
  | .array element => fullName element ++ "[]"
  | .unresolved text => text
termination_by structural type => type

/-- The names of the type arguments after the first one, each behind its comma. -/
def fullNames : List TypeRef → String
  | [] => ""
  | generic :: generics => ", " ++ fullName generic ++ fullNames generics
termination_by structural generics => generics

end

/-- The last segment of a named type's path. -/
def simpleName? : TypeRef → Option String
  | .named path _ => some (Text.lastSegment path)
  | _ => none

/-- True of a reference to no type, also by name. -/
def isVoid : TypeRef → Bool
  | .void => true
  | .named path _ => expandAlias path == "System.Void"
  | _ => false

mutual

/-- The first unresolved type inside a reference. -/
def firstUnresolved? : TypeRef → Option TypeRef
  | .void => none
  | .named _ generics => firstUnresolvedOf? generics
  | .array element => firstUnresolved? element
  | .unresolved text => some (.unresolved text)
termination_by structural type => type

/-- The first unresolved type inside a list of references. -/
def firstUnresolvedOf? : List TypeRef → Option TypeRef
  | [] => none
  | type :: types => (firstUnresolved? type).or (firstUnresolvedOf? types)
termination_by structural types => types

end

end TypeRef

end FunctionBindings
