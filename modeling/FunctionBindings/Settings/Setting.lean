import FunctionBindings.Toml.Basic

/-!
# Layered settings

Settings come in layers. Entering a table into another one merges the two, key by key; any other
value replaces what stands in its place (`Setting.enter`). A place inside a setting is a path of
keys and list indices, and putting a value in a place makes the tables and lists on its way
(`Setting.put`).
-/

namespace FunctionBindings

/-- A value of a setting. -/
inductive Setting where
  /-- The value of a setting that is known but not given. -/
  | absent
  | flag (value : Bool)
  | integer (value : Int)
  | float (value : Float)
  | text (value : String)
  | list (items : List Setting)
  | table (members : List (String × Setting))
  deriving Inhabited

namespace Setting

mutual

/-- The setting that a TOML value gives; a date or time is a text. -/
def ofToml : Toml → Setting
  | .string content => .text content
  | .integer value => .integer value
  | .float value => .float value
  | .boolean value => .flag value
  | .moment content => .text content
  | .array items => .list (ofTomlItems items)
  | .table members => .table (ofTomlMembers members)
termination_by structural value => value

/-- The settings that the items of an array give. -/
def ofTomlItems : List Toml → List Setting
  | [] => []
  | item :: items => ofToml item :: ofTomlItems items
termination_by structural items => items

/-- The settings that the members of a table give. -/
def ofTomlMembers : List (String × Toml) → List (String × Setting)
  | [] => []
  | (key, value) :: members => (key, ofToml value) :: ofTomlMembers members
termination_by structural members => members

end

/-- The members of a table; nothing else has members. -/
def members : Setting → List (String × Setting)
  | .table members => members
  | _ => []

/-- The items of a list; nothing else has items. -/
def items : Setting → List Setting
  | .list items => items
  | _ => []

/-- A table with a value for a key; what is no table becomes one. -/
def replace (key : String) (value target : Setting) : Setting :=
  .table (Entries.set key value target.members)

mutual

/-- Enter a value for a key: a table is merged into what stands there, any other value replaces it.
-/
def enter (key : String) : Setting → Setting → Setting
  | .table members, target =>
      replace key (enterAll members ((Entries.get? key target.members).getD (.table []))) target
  | value, target => replace key value target
termination_by structural value => value

/-- Enter the members of a table in order. -/
def enterAll : List (String × Setting) → Setting → Setting
  | [], target => target
  | (key, value) :: members, target => enterAll members (enter key value target)
termination_by structural members => members

end

/-- A step from a setting to a part of it. -/
inductive Step where
  | key (name : String)
  /-- An index from the front or, if negative, from the back. -/
  | index (position : Int)
  deriving DecidableEq, Repr

/-- The index that a position stands for in a list of some length. -/
def indexIn (length : Nat) (position : Int) : Nat :=
  if 0 ≤ position then position.toNat else length - position.natAbs

/-- A list that is long enough to have an index; missing items are absent. -/
def extend (items : List Setting) (index : Nat) : List Setting :=
  items ++ List.replicate (index + 1 - items.length) .absent

/-- Change the part of a setting at the end of a path. -/
def modify (change : Setting → Setting) : List Step → Setting → Setting
  | [], target => change target
  | .key name :: path, target =>
      let part := (Entries.get? name target.members).getD .absent
      replace name (modify change path part) target
  | .index position :: path, target =>
      let index := indexIn target.items.length position
      .list ((extend target.items index).modify index (modify change path))

/-- Enter a value in the place at the end of one step. -/
def putStep (value : Setting) : Step → Setting → Setting
  | .key name, target => enter name value target
  | .index position, target =>
      let index := indexIn target.items.length position
      .list ((extend target.items index).set index value)

/-- Put a value in the place that a path leads to. -/
def put (path : List Step) (value target : Setting) : Setting :=
  match path.getLast? with
  | none => target
  | some last => modify (putStep value last) path.dropLast target

end Setting

end FunctionBindings
